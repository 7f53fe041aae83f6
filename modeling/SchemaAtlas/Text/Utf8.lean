/-!
# Lossy decoding of UTF-8

Every byte sequence reads as a text: well-formed sequences become characters,
and each maximal beginning of a sequence that is cut short or spoilt becomes one
replacement character.
-/

namespace SchemaAtlas.Text.Utf8

/-- The character that stands for bytes that are no text. -/
def replacement : Char := '\uFFFD'

/-- A character whose first bytes have been read: how many bytes are missing,
the bits so far, and the range that the next byte has to lie in. -/
structure Pending where
  missing : Nat
  bits : Nat
  low : Nat
  high : Nat

/-- What a byte at the start of a character announces. -/
inductive Lead where
  | complete (c : Char)
  | partly (pending : Pending)
  | invalid

/-- Read a byte at the start of a character.  The ranges for the second byte
exclude overlong forms, surrogates and code points above the last one. -/
def lead (byte : Nat) : Lead :=
  if byte < 0x80 then .complete (Char.ofNat byte)
  else if byte < 0xC2 then .invalid
  else if byte < 0xE0 then .partly ⟨1, byte - 0xC0, 0x80, 0xBF⟩
  else if byte = 0xE0 then .partly ⟨2, 0, 0xA0, 0xBF⟩
  else if byte = 0xED then .partly ⟨2, 0xD, 0x80, 0x9F⟩
  else if byte < 0xF0 then .partly ⟨2, byte - 0xE0, 0x80, 0xBF⟩
  else if byte = 0xF0 then .partly ⟨3, 0, 0x90, 0xBF⟩
  else if byte < 0xF4 then .partly ⟨3, byte - 0xF0, 0x80, 0xBF⟩
  else if byte = 0xF4 then .partly ⟨3, 4, 0x80, 0x8F⟩
  else .invalid

/-- The bits of a character after one more continuation byte. -/
def Pending.extend (pending : Pending) (byte : Nat) : Nat :=
  pending.bits * 64 + (byte - 0x80)

/-- Decode the rest of a byte sequence in which a character may have begun. -/
def decodeFrom : Option Pending → List Nat → List Char
  | none, [] => []
  | some _, [] => [replacement]
  | none, byte :: rest =>
    match lead byte with
    | .complete c => c :: decodeFrom none rest
    | .partly pending => decodeFrom (some pending) rest
    | .invalid => replacement :: decodeFrom none rest
  | some pending, byte :: rest =>
    if pending.low ≤ byte ∧ byte ≤ pending.high then
      if pending.missing ≤ 1 then
        Char.ofNat (pending.extend byte) :: decodeFrom none rest
      else
        decodeFrom
          (some ⟨pending.missing - 1, pending.extend byte, 0x80, 0xBF⟩) rest
    else
      match lead byte with
      | .complete c => replacement :: c :: decodeFrom none rest
      | .partly fresh => replacement :: decodeFrom (some fresh) rest
      | .invalid => replacement :: replacement :: decodeFrom none rest

/-- The text of a byte sequence, with replacement characters where it is not
well-formed. -/
def decodeLossy (bytes : List UInt8) : String :=
  String.ofList (decodeFrom none (bytes.map UInt8.toNat))

end SchemaAtlas.Text.Utf8
