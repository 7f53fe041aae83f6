import SchemaAtlas.Proofs.Naming.Peeking

/-!
# Registered initialisms

A set of initialisms starts from nothing or from the common ones and changes as
words are registered, one at a time, several up to the first that is too short,
or in the place of all others.  Whatever the history of a set is, its entries
are the uppercase forms of the words that are registered.  The search at the
beginning of a text therefore finds the longest of these forms that stands there
in capitals, and the bound on their length hides none of them.
-/

namespace SchemaAtlas

open Text

namespace Initialisms

/-- What a set of initialisms starts from. -/
inductive Origin where
  | nothing
  | common

/-- A change to a set of initialisms. -/
inductive Registration where
  /-- One more word, unless it is too short. -/
  | add (word : String)
  /-- More words, up to the first that is too short. -/
  | addEach (words : List String)
  /-- Other words in the place of all, unless one of them is too short. -/
  | renew (words : List String)

/-- Whether a word may be registered. -/
def isLong (word : String) : Bool :=
  decide (2 ≤ word.length)

def Origin.set : Origin → Initialisms
  | .nothing => empty
  | .common => Initialisms.common

def Origin.words : Origin → List String
  | .nothing => []
  | .common => commonWords

def Registration.apply (set : Initialisms) : Registration → Initialisms
  | .add word => (set.add word).toOption.getD set
  | .addEach words => (set.addEach words).1
  | .renew words => (ofList words).toOption.getD set

/-- The words that are registered after a change. -/
def Registration.update (registered : List String) :
    Registration → List String
  | .add word => if isLong word then registered ++ [word] else registered
  | .addEach words => registered ++ words.takeWhile isLong
  | .renew words => if words.all isLong then words else registered

/-- The set after a history of changes. -/
def Origin.setAfter (origin : Origin) (history : List Registration) :
    Initialisms :=
  history.foldl Registration.apply origin.set

/-- The words that are registered after a history of changes. -/
def Origin.wordsAfter (origin : Origin) (history : List Registration) :
    List String :=
  history.foldl Registration.update origin.words

/-- A set holds exactly the uppercase forms of some words, all of them long
enough. -/
structure Registers (set : Initialisms) (words : List String) : Prop where
  long : ∀ word ∈ words, isLong word = true
  mem_entries_iff : ∀ entry,
    entry ∈ set.entries ↔ ∃ word ∈ words, upper word.toList = entry

variable {set : Initialisms} {registered : List String}

/-! ## One change -/

theorem add_of_isLong {word : String} (long : isLong word = true) :
    set.add word = .ok (set.insert word.toList) :=
  if_neg (Nat.not_lt.mpr (of_decide_eq_true long))

theorem add_of_not_isLong {word : String} (short : isLong word = false) :
    set.add word = .error (.invalidInitialism word) :=
  if_pos (Nat.not_le.mp (of_decide_eq_false short))

theorem addEach_of_isLong {words : List String}
    (long : ∀ word ∈ words, isLong word = true) : set.addEach words =
      (words.foldl (fun set word => set.insert word.toList) set, .ok ()) := by
  induction words generalizing set with
  | nil => rfl
  | cons word rest ih =>
      obtain ⟨first, later⟩ := List.forall_mem_cons.mp long
      rw [addEach, add_of_isLong first]
      exact ih later

/-- A word that is too short ends the adding with an error. -/
theorem addEach_of_short {words : List String}
    (short : words.all isLong = false) :
    ∃ cause, (set.addEach words).2 = .error cause := by
  induction words generalizing set with
  | nil => cases short
  | cons word rest ih =>
      rw [addEach]
      cases long : isLong word with
      | true =>
          rw [add_of_isLong long]
          rw [List.all_cons, long, Bool.true_and] at short
          exact ih short
      | false =>
          rw [add_of_not_isLong long]
          exact ⟨_, rfl⟩

theorem toOption_ofList (words : List String) : (ofList words).toOption =
    if words.all isLong then some (empty.addEach words).1 else none := by
  rw [ofList, addAll]
  cases long : words.all isLong with
  | true =>
      rw [addEach_of_isLong (List.all_eq_true.mp long)]
      rfl
  | false =>
      obtain ⟨cause, failed⟩ := @addEach_of_short empty words long
      generalize empty.addEach words = added at failed
      obtain ⟨reached, outcome⟩ := added
      cases failed
      rfl

namespace Registers

theorem empty : Initialisms.empty.Registers [] where
  long := List.forall_mem_nil _
  mem_entries_iff entry := by simp [Initialisms.empty]

theorem insert {word : String} (registers : set.Registers registered)
    (long : isLong word = true) :
    (set.insert word.toList).Registers (registered ++ [word]) where
  long := by
    intro other membership
    rcases List.mem_append.mp membership with earlier | here
    · exact registers.long other earlier
    · rwa [List.mem_singleton.mp here]
  mem_entries_iff entry := by
    rw [Initialisms.insert, List.mem_cons, registers.mem_entries_iff]
    simp only [List.mem_append, List.mem_singleton, or_and_right, exists_or,
      exists_eq_left]
    rw [or_comm, eq_comm]

theorem addEach (registers : set.Registers registered) (words : List String) :
    (set.addEach words).1.Registers (registered ++ words.takeWhile isLong) := by
  induction words generalizing set registered with
  | nil => simpa [Initialisms.addEach] using registers
  | cons word rest ih =>
      rw [Initialisms.addEach]
      cases long : isLong word with
      | true =>
          rw [add_of_isLong long, List.takeWhile_cons_of_pos long,
            List.append_cons]
          exact ih (registers.insert long)
      | false =>
          rw [add_of_not_isLong long,
            List.takeWhile_cons_of_neg (by simp [long]), List.append_nil]
          exact registers

theorem addEach_of_isLong {words : List String}
    (long : ∀ word ∈ words, isLong word = true) :
    (Initialisms.empty.addEach words).1.Registers words := by
  have whole := @List.takeWhile_append_of_pos _ isLong words [] long
  rw [List.takeWhile_nil, List.append_nil] at whole
  have added := Registers.empty.addEach words
  rwa [List.nil_append, whole] at added

theorem origin (origin : Origin) : origin.set.Registers origin.words := by
  cases origin with
  | nothing => exact Registers.empty
  | common =>
      have long : ∀ word ∈ commonWords, isLong word = true := by decide
      have added := addEach_of_isLong long
      rwa [Initialisms.addEach_of_isLong long] at added

theorem apply (registers : set.Registers registered)
    (registration : Registration) :
    (registration.apply set).Registers (registration.update registered) := by
  cases registration with
  | add word =>
      rw [Registration.apply, Registration.update]
      split
      next long =>
        rw [add_of_isLong long]
        exact registers.insert long
      next short =>
        rw [add_of_not_isLong (Bool.eq_false_iff.mpr short)]
        exact registers
  | addEach words => exact registers.addEach words
  | renew words =>
      rw [Registration.apply, Registration.update, toOption_ofList]
      split
      next long => exact addEach_of_isLong (List.all_eq_true.mp long)
      next => exact registers

/-- A history of changes registers what it is to register. -/
theorem after (origin : Origin) (history : List Registration) :
    (origin.setAfter history).Registers (origin.wordsAfter history) := by
  have run {set : Initialisms} {registered : List String}
      (registers : set.Registers registered) :
      (history.foldl Registration.apply set).Registers
        (history.foldl Registration.update registered) := by
    induction history generalizing set registered with
    | nil => exact registers
    | cons registration rest ih => exact ih (registers.apply registration)
  exact run (Registers.origin origin)

/-- No form of a registered word is shorter than the word. -/
theorem two_le_length (registers : set.Registers registered) {entry : List Char}
    (isEntry : entry ∈ set.entries) : 2 ≤ entry.length := by
  obtain ⟨word, inWords, rfl⟩ := (registers.mem_entries_iff entry).mp isEntry
  have long := of_decide_eq_true (registers.long word inWords)
  have kept := length_le_length_upper word.toList
  rw [String.length_toList] at kept
  omega

end Registers

/-! ## The search -/

/-- The uppercase form of a registered word stands in capitals at the beginning
of a text. -/
structure StandsIn (words : List String) (text entry : List Char) : Prop where
  registered : ∃ word ∈ words, upper word.toList = entry
  capitals : ∀ c ∈ entry, isUppercase c = true
  start : entry <+: text

/-- No other such form that stands there is longer. -/
structure IsLongestIn (words : List String) (text entry : List Char) :
    Prop where
  stands : StandsIn words text entry
  longest : ∀ other, StandsIn words text other → other.length ≤ entry.length

variable {text entry : List Char}

theorem Registers.standsIn_iff (registers : set.Registers registered) :
    StandsIn registered text entry ↔
      set.Starts entry text ∧ ∀ c ∈ entry, isUppercase c = true := by
  constructor
  · rintro ⟨isForm, capitals, start⟩
    have isEntry := (registers.mem_entries_iff entry).mpr isForm
    exact ⟨⟨isEntry, registers.two_le_length isEntry, start⟩, capitals⟩
  · rintro ⟨starts, capitals⟩
    exact ⟨(registers.mem_entries_iff entry).mp starts.registered, capitals,
      starts.start⟩

/-- The bound on the length of the entries hides none of them: the search finds
what it would find in the whole run of capitals. -/
theorem peek?_eq_longestEntry? (set : Initialisms) (text : List Char) :
    set.peek? text = set.longestEntry? (text.takeWhile isUppercase)
      (text.takeWhile isUppercase).length := by
  apply Option.ext
  intro entry
  rw [peek?_eq_some_iff, longestEntry?_length_eq_some_iff]
  simp only [starts_capitals_iff, and_imp]

/-- Whatever the history of a set is, the search finds the longest registered
initialism that stands in capitals at the beginning of a text, wherever there is
one, and the bound on their length plays no part in it. -/
theorem peek?_setAfter (origin : Origin) (history : List Registration)
    (text : List Char) :
    (((origin.setAfter history).peek? text).isSome = true ↔
      ∃ entry, StandsIn (origin.wordsAfter history) text entry) ∧
    (∀ entry, (origin.setAfter history).peek? text = some entry ↔
      IsLongestIn (origin.wordsAfter history) text entry) ∧
    (origin.setAfter history).peek? text =
      longestEntry? (origin.setAfter history) (text.takeWhile isUppercase)
        (text.takeWhile isUppercase).length := by
  have stands_iff (entry : List Char) :=
    @Registers.standsIn_iff _ _ text entry (Registers.after origin history)
  refine ⟨?_, fun entry => ?_, peek?_eq_longestEntry? _ text⟩
  · rw [Option.isSome_iff_ne_none, Ne, peek?_eq_none_iff]
    simp only [← stands_iff]
    exact Classical.not_forall_not
  · rw [peek?_eq_some_iff, ← stands_iff]
    constructor
    · rintro ⟨stands, longest⟩
      refine ⟨stands, fun other inText => ?_⟩
      obtain ⟨starts, capitals⟩ := (stands_iff other).mp inText
      exact longest other starts capitals
    · rintro ⟨stands, longest⟩
      refine ⟨stands, fun other starts capitals => ?_⟩
      exact longest other ((stands_iff other).mpr ⟨starts, capitals⟩)

/-- Uppercasing lengthens `straße`, and the bound grows with it. -/
example : (Origin.common.setAfter
  [.add "straße", .addEach ["stra", "x", "asse"]]).peek?
    "STRASSENAME".toList = some "STRASSE".toList := by
  decide +kernel

end Initialisms

end SchemaAtlas
