import SchemaAtlas.Adapter.Basic
import SchemaAtlas.Exchange.Session

/-!
# Throwaway views

The columns of an arbitrary statement are read from the catalog by way of a view
of it, which exists only for that time.  Once the view has been created it is
dropped, whatever happens in between, and a failure to drop it is only told.
-/

namespace SchemaAtlas.View

open Catalog

/-- The hexadecimal digits of a number of 32 bits. -/
def hexWord (number : UInt32) : List Char :=
  let digits := Nat.toDigits 16 number.toNat
  List.replicate (8 - digits.length) '0' ++ digits

/-- The digit that marks the variant of a random identifier. -/
def variantDigit (digit : Char) : Char :=
  match "0123456789abcdef".toList.idxOf digit % 4 with
  | 0 => '8'
  | 1 => '9'
  | 2 => 'a'
  | _ => 'b'

/-- A random identifier of 128 bits as 32 digits, of which one is fixed and one
nearly so. -/
def identifierOf (words : List UInt32) : String :=
  let digits := words.flatMap hexWord
  let digits := digits.set 12 '4'
  String.ofList (digits.modify 16 variantDigit)

/-- What the names of throwaway views begin with. -/
def namePrelude : String := "_sg_"

def drawName : Session String := do
  let first ← Session.draw
  let second ← Session.draw
  let third ← Session.draw
  let fourth ← Session.draw
  return namePrelude ++ identifierOf [first, second, third, fourth]

/-- Drop a view; a failure is only told. -/
def drop (adapter : Adapter) (name : String) : Session Unit := do
  match ← Session.execute (adapter.dropView name) with
  | .ok () => return ()
  | .error cause => Session.tell (.viewNotDropped name cause)

/-- Carry out an inquiry about a view of a statement. -/
def during (adapter : Adapter) (statement : String)
    (use : String → Inquiry α) : Session α := do
  let name ← drawName
  match ← Session.execute (adapter.createView name statement) with
  | .error cause => throw (.driver cause)
  | .ok () =>
    let outcome ← (Session.ask (use name)).attempt
    drop adapter name
    Recorded.ofExcept outcome

/-- Ask for the columns of a view, in the schema that it belongs to. -/
def columnsOf (adapter : Adapter) (name : String) :
    Inquiry (List ColumnRecord) := do
  let schema ← adapter.viewSchema name
  adapter.columns schema name

end View

/-- The columns of an arbitrary statement. -/
def Adapter.queryColumns (adapter : Adapter) (statement : String) :
    Session (List Catalog.ColumnRecord) := do
  let columns ← View.during adapter statement (View.columnsOf adapter)
  return columns.map adapter.retypeQueryColumn

end SchemaAtlas
