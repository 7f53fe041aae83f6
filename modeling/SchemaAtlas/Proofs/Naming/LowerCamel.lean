import SchemaAtlas.Proofs.Naming.SnakeForms
import SchemaAtlas.Proofs.Text.Bytes
import SchemaAtlas.Proofs.Text.Uppercasing

/-!
# Camel case forms with a lowercase first word

The first word of a camel case form is found by its width: as many bytes are
lowercased as the first word has in the snake case form.  The camel case form of
a word may be narrower or wider than that, since an uppercase letter may take
fewer or more bytes than the lowercase one.  The first word alone is lowercased
exactly where lowercasing makes no difference between the end of the word and
the cut.
-/

namespace SchemaAtlas

open Text

namespace Identifier

variable {text first : List Char} {rest : List (List Char)} {c : Char}

private theorem mem_of_mem_cleanChars (membership : c ∈ cleanChars text) :
    c = separator ∨ c ∈ text := by
  obtain ⟨source, inTrimmed, rfl⟩ :=
    List.mem_map.mp (mem_replaceOthers_of_mem_cleanChars membership)
  split
  · exact .inr (mem_of_mem_trimStart (mem_of_mem_trimEnd inTrimmed))
  · exact .inl rfl

theorem head?_cleanChars_ne (text : List Char) :
    (cleanChars text).head? ≠ some separator := by
  intro first
  rw [cleanChars] at first
  generalize collapse (replaceOthers (trim text)) = marked at first
  obtain ⟨behind, shape⟩ : strip marked <+: marked.dropWhile isLeading :=
    List.rdropWhile_prefix (· == separator) _
  have unled := List.head?_dropWhile_not isLeading marked
  rw [← shape, List.head?_append, first] at unled
  cases unled

/-- The first word of a cleaned text is what stands in front of its first
mark. -/
theorem headD_splitOn_cleanChars (words : parts (cleanChars text) =
    first :: rest) :
    (splitOn separator (cleanChars text)).headD [] = first := by
  have unmarked := head?_cleanChars_ne text
  cases shape : cleanChars text with
  | nil =>
      rw [shape] at words
      cases words
  | cons c more =>
      rw [shape, List.head?_cons, ne_eq, Option.some.injEq] at unmarked
      rw [shape, parts, splitOn, if_neg unmarked] at words
      rw [splitOn, if_neg unmarked]
      -- The first piece is not empty, so it is kept as the first word.
      cases pieces : splitOn separator more with
      | nil => exact absurd pieces (splitOn_ne_nil _ _)
      | cons piece others =>
          rw [pieces] at words
          dsimp only at words
          rw [List.filter_cons_of_pos rfl] at words
          exact (List.cons.inj words).1

end Identifier

open Identifier

namespace Initialisms

variable {set : Initialisms} {word first : List Char} {rest : List (List Char)}
  {name : String}

/-! ## The words of a name -/

/-- The words of a name, which are those of its snake case form. -/
def snakeWords (set : Initialisms) (name : String) : List (List Char) :=
  parts (cleanChars (set.snakeChars name.toList))

private theorem lowerChar_of_mem_snakeWords
    (isWord : word ∈ set.snakeWords name) : ∀ c ∈ word, lowerChar c = [c] := by
  intro c inWord
  have inCleaned := mem_of_mem_splitOn (List.mem_filter.mp isWord).1 inWord
  rcases mem_of_mem_cleanChars inCleaned with rfl | inSnake
  · decide
  · exact lowerChar_of_mem_lowerAfter (mem_lower_of_mem_snakeChars inSnake)

/-- A word in lowercase is in lowercase after the change to camel case only if
nothing was changed. -/
theorem camelWord_eq_self (small : ∀ c ∈ word, lowerChar c = [c])
    (kept : lower (set.camelWord word) = set.camelWord word) :
    set.camelWord word = word := by
  have smallImage : ∀ d ∈ set.camelWord word, lowerChar d = [d] := by
    intro d isImage
    rw [← kept] at isImage
    exact lowerChar_of_mem_lowerAfter isImage
  rw [camelWord] at smallImage ⊢
  split at smallImage
  next held =>
    rw [if_pos held]
    exact upper_eq_self_of_lower smallImage
  next missed =>
    rw [if_neg missed]
    cases word with
    | nil => rfl
    | cons c others =>
        obtain ⟨smallFirst, _⟩ := List.forall_mem_append.mp smallImage
        obtain ⟨_, smallOthers⟩ := List.forall_mem_cons.mp small
        rw [titleCase, upperChar_eq_self_of_lower smallFirst,
          flatMap_lowerChar_eq_self smallOthers, List.singleton_append]

theorem byteLength_camelWord (small : ∀ c ∈ word, lowerChar c = [c])
    (even : ∀ c ∈ word, byteLength (upperChar c) = c.utf8Size) :
    byteLength (set.camelWord word) = byteLength word := by
  rw [camelWord]
  split
  · exact byteLength_flatMap_of_kept even
  · cases word with
    | nil => rfl
    | cons c others =>
        obtain ⟨_, smallOthers⟩ := List.forall_mem_cons.mp small
        rw [titleCase, byteLength_append, even c List.mem_cons_self,
          flatMap_lowerChar_eq_self smallOthers, byteLength_cons]

/-! ## The cut -/

/-- If the whole begins with the front, lowercasing it changes nothing behind
that. -/
def KeepsBehind (front whole : List Char) : Prop :=
  ∀ piece, whole = front ++ piece → lower whole = lower front ++ piece

/-- A cut of the text after a number of bytes falls on the end of its first
part, or else lowercasing makes no difference between the two. -/
def CutsWell (width : Nat) (first behind : List Char) : Prop :=
  ∃ head tail, first ++ behind = head ++ tail ∧ byteLength head = width ∧
    KeepsBehind head first ∧ KeepsBehind first head

theorem CutsWell.of_byteLength {width : Nat} {first behind : List Char}
    (even : byteLength first = width) : CutsWell width first behind := by
  have keeps : KeepsBehind first first := by
    intro piece same
    rw [List.self_eq_append_right.mp same, List.append_nil]
  exact ⟨first, behind, rfl, even, keeps, keeps⟩

/-- A first part that is not in lowercase, or has the width of the cut, is
lowercased alone exactly where the cut falls well. -/
theorem lowerFirst_eq_iff {width : Nat} {first behind : List Char}
    (even : lower first = first → byteLength first = width) :
    lowerFirst width (first ++ behind) = lower first ++ behind ↔
      CutsWell width first behind := by
  constructor
  · intro promised
    rw [lowerFirst] at promised
    split at promised
    next head tail cut =>
      obtain ⟨shape, reached⟩ := splitAtByte?_eq_some_iff.mp cut
      refine ⟨head, tail, shape, reached, ?_, ?_⟩
      · rintro piece rfl
        rw [List.append_assoc, List.append_cancel_left_eq] at shape
        rw [← shape, ← List.append_assoc,
          List.append_cancel_right_eq] at promised
        exact promised.symm
      · rintro piece rfl
        rw [List.append_assoc, List.append_cancel_left_eq] at shape
        rw [shape, ← List.append_assoc, List.append_cancel_right_eq] at promised
        exact promised
    next uncut =>
      -- Nothing is lowercased here, so nothing was to be lowercased.
      rw [List.append_cancel_right_eq] at promised
      rw [← even promised.symm, splitAtByte?_append] at uncut
      cases uncut
  · rintro ⟨head, tail, shape, reached, keepsFirst, keepsHead⟩
    rw [lowerFirst, splitAtByte?_eq_some_iff.mpr ⟨shape, reached⟩]
    dsimp only
    rcases List.append_eq_append_iff.mp shape with
      ⟨piece, rfl, rfl⟩ | ⟨piece, rfl, rfl⟩
    · rw [keepsHead piece rfl, List.append_assoc]
    · rw [keepsFirst piece rfl, List.append_assoc]

/-! ## The form of a name -/

/-- The camel case form of a name of the given words, the first of them
lowercased. -/
def firstLowered (set : Initialisms) (first : List Char)
    (rest : List (List Char)) : String :=
  String.ofList (lower (set.camelWord first) ++ rest.flatMap set.camelWord)

private theorem lowerCamel_of_snakeWords
    (words : set.snakeWords name = first :: rest) :
    set.lowerCamel name = String.ofList (lowerFirst (byteLength first)
      (set.camelWord first ++ rest.flatMap set.camelWord)) := by
  rw [snakeWords] at words
  rw [lowerCamel, headD_splitOn_cleanChars words, camelChars, words,
    List.flatMap_cons]

/-- The form has its first word, and that word only, in lowercase exactly where
the cut at the width of the word in the snake case form falls well.  It does
where uppercasing leaves the width of each letter of the word. -/
theorem lowerCamel_eq_firstLowered_iff (set : Initialisms)
    (words : set.snakeWords name = first :: rest) :
    (set.lowerCamel name = set.firstLowered first rest ↔
      CutsWell (byteLength first) (set.camelWord first)
        (rest.flatMap set.camelWord)) ∧
    ((∀ c ∈ first, byteLength (upperChar c) = c.utf8Size) →
      set.lowerCamel name = set.firstLowered first rest) := by
  have small : ∀ c ∈ first, lowerChar c = [c] :=
    lowerChar_of_mem_snakeWords (by rw [words]; exact List.mem_cons_self)
  have agrees : set.lowerCamel name = set.firstLowered first rest ↔
      CutsWell (byteLength first) (set.camelWord first)
        (rest.flatMap set.camelWord) := by
    rw [lowerCamel_of_snakeWords words, firstLowered, String.ofList_inj,
      lowerFirst_eq_iff]
    intro kept
    rw [camelWord_eq_self small kept]
  refine ⟨agrees, fun even => agrees.mpr ?_⟩
  exact CutsWell.of_byteLength (byteLength_camelWord small even)

theorem lowerCamel_civilStatus :
    common.snakeWords "ÉtatCivil" = ["état".toList, "civil".toList] ∧
      (∀ c ∈ "état".toList, byteLength (upperChar c) = c.utf8Size) ∧
      common.lowerCamel "ÉtatCivil" = "étatCivil" := by
  have words : common.snakeWords "ÉtatCivil" =
      ["état".toList, "civil".toList] := by
    decide +kernel
  have each : "état".toList.all
      (fun c => byteLength (upperChar c) = c.utf8Size) = true := by
    decide +kernel
  have even : ∀ c ∈ "état".toList, byteLength (upperChar c) = c.utf8Size :=
    fun c inWord => of_decide_eq_true (List.all_eq_true.mp each c inWord)
  refine ⟨words, even, ?_⟩
  rw [(lowerCamel_eq_firstLowered_iff common words).2 even]
  decide +kernel

/-- A capital I takes one byte and the small letter without a dot takes two, so
the cut falls behind the first letter of the second word. -/
theorem lowerCamel_misses_heatValue :
    common.snakeWords "ısı_değeri" = ["ısı".toList, "değeri".toList] ∧
      common.firstLowered "ısı".toList ["değeri".toList] = "isıDeğeri" ∧
      common.lowerCamel "ısı_değeri" = "isıdeğeri" := by
  decide +kernel

end Initialisms

end SchemaAtlas
