import SchemaAtlas.Proofs.Configuration.Checks
import SchemaAtlas.Proofs.Naming.NameWords

/-!
# Loading a configuration

A configuration that has been read is loaded exactly if it can be converted into
options.  Their initialisms are the common ones together with those of the
configuration, which are known in any ASCII case and spelled in capitals
wherever they stand as a word.
-/

namespace SchemaAtlas

open Text

namespace Initialisms

/-- A set behaves as the common one with some entries more.  An entry is an
initialism in whatever ASCII case it is written, and if it is made of ASCII
letters it is spelled in capitals wherever it stands in a name as a word. -/
structure AddsToCommon (set : Initialisms) (entries : List String) : Prop where
  registers : set.Registers (commonWords ++ entries)
  holds_iff : ∀ text, set.holds text = true ↔
    ∃ word ∈ commonWords ++ entries, upper word.toList = upper text
  holds : ∀ entry ∈ entries, ∀ text,
    equalIgnoringAsciiCase entry.toList text = true → set.holds text = true
  capitals : ∀ entry ∈ entries, (∀ c ∈ entry.toList, c.isAlpha = true) →
    ∀ front word behind : String,
      equalIgnoringAsciiCase entry.toList word.toList = true →
      Identifier.Encloses front.toList behind.toList →
      set.camel (front ++ word ++ behind) =
        set.camel front ++ uppercase entry ++
        String.ofList ((Identifier.runs behind.toList).flatMap set.camelWord)

variable {set : Initialisms} {words entries : List String}

theorem Registers.holds_iff (registers : set.Registers words)
    {text : List Char} :
    set.holds text = true ↔ ∃ word ∈ words, upper word.toList = upper text := by
  rw [Initialisms.holds, List.contains_iff_mem, registers.mem_entries_iff]

theorem Registers.addsToCommon
    (registers : set.Registers (commonWords ++ entries)) :
    set.AddsToCommon entries := by
  have held : ∀ entry ∈ entries, ∀ text,
      equalIgnoringAsciiCase entry.toList text = true →
        set.holds text = true := by
    intro entry isEntry text same
    refine registers.holds_iff.mpr ⟨entry, List.mem_append_right _ isEntry, ?_⟩
    rw [← upper_fold, equalIgnoringAsciiCase_iff.mp same, upper_fold]
  refine ⟨registers, fun text => registers.holds_iff, held, ?_⟩
  intro entry isEntry letters front word behind same encloses
  have folded : fold entry.toList = fold word.toList :=
    equalIgnoringAsciiCase_iff.mp same
  have wordLetters : ∀ c ∈ word.toList, c.isAlpha = true :=
    isAlpha_of_fold_eq folded letters
  have started : ∃ first ∈ word.toList.head?, first.isDigit = false := by
    have long :=
      of_decide_eq_true (registers.long entry (List.mem_append_right _ isEntry))
    have length : entry.toList.length = word.toList.length := by
      simpa [fold] using congrArg List.length folded
    rw [String.length_toList] at length
    cases shape : word.toList with
    | nil =>
        rw [shape, List.length_nil] at length
        omega
    | cons first rest =>
        refine ⟨first, rfl, isDigit_of_isAlpha (wordLetters first ?_)⟩
        rw [shape]
        exact List.mem_cons_self
  have spelled := camelChars_of_encloses encloses started
    (fun c inWord => isAlphanumeric_of_isAlpha (wordLetters c inWord))
    (held entry isEntry word.toList same)
  rw [camel, camel, String.toList_append, String.toList_append, spelled,
    uppercase, ← upper_fold entry.toList, folded, upper_fold,
    String.ofList_append, String.ofList_append]

end Initialisms

namespace Configuration

variable {configuration : Configuration}

private theorem addsToCommon_of_options {options : Options}
    (converted : configuration.options = .ok options) :
    options.initialisms.AddsToCommon configuration.initialisms := by
  obtain ⟨-, read, -⟩ := exists_readings_of_options converted
  rcases Initialisms.isLong_or_exists_short configuration.initialisms with
    long | ⟨front, word, behind, given, long, short⟩
  · have added :=
      (Initialisms.Registers.origin .common).addEach configuration.initialisms
    have all : configuration.initialisms.takeWhile Initialisms.isLong =
        configuration.initialisms :=
      List.takeWhile_eq_self_iff.mpr long
    rw [initialismSet_of_isLong long, Except.ok.injEq] at read
    rw [all] at added
    rw [← read]
    exact added.addsToCommon
  · rw [initialismSet_of_short given long short] at read
    cases read

/-! ## Loading -/

/-- A document whose values are read is loaded unless a check fails. -/
theorem parse_eq {reader : Reader} {path text : String}
    (read : reader text = .ok configuration) :
    parse reader path text =
      configuration.validate.map fun _ => configuration := by
  rw [parse, read]
  show (configuration.validate >>= fun _ => pure configuration) = _
  cases configuration.validate with
  | error cause => rfl
  | ok _ => rfl

/-- A configuration is loaded exactly if it can be converted, and nothing is
changed in it; otherwise the first bad word is the error. -/
structure LoadsAsItConverts (configuration : Configuration)
    (outcome : Except Error Configuration) : Prop where
  succeeds : (∃ loaded, outcome = .ok loaded) ↔ Converts configuration
  unchanged : ∀ loaded, outcome = .ok loaded → loaded = configuration
  fails : ∀ cause, outcome = .error cause ↔ FirstFault configuration cause

theorem loadsAsItConverts_map_validate (configuration : Configuration) :
    LoadsAsItConverts configuration
      (configuration.validate.map fun _ => configuration) where
  succeeds := by
    rw [converts_iff, ← validate_eq_ok_iff]
    cases configuration.validate with
    | error cause => simp [Except.map]
    | ok _ => simp [Except.map]
  unchanged := by
    cases configuration.validate with
    | error cause => simp [Except.map]
    | ok _ => simp [Except.map]
  fails := by
    intro cause
    rw [← validate_eq_error_iff]
    cases configuration.validate with
    | error other => simp [Except.map]
    | ok _ => simp [Except.map]

/-- A configuration that any reader has found in a text is loaded exactly if it
can be converted; otherwise the first bad word is the error, wherever the text
was found.  The initialisms of its options are the common ones and its own. -/
theorem loadsAsItConverts_ofText {reader : Reader} {text : String}
    (read : reader text = .ok configuration) :
    LoadsAsItConverts configuration (ofText reader text) ∧
      (∀ path, parse reader path text = ofText reader text) ∧
      ∀ options, configuration.options = .ok options →
        options.initialisms.AddsToCommon configuration.initialisms := by
  refine ⟨?_, fun path => ?_, fun options => addsToCommon_of_options⟩
  · rw [ofText, parse_eq read]
    exact loadsAsItConverts_map_validate configuration
  · rw [ofText, parse_eq read, parse_eq read]

/-- A configuration whose words are written in various cases. -/
def stockroomText : String :=
  "engine = \"CRDB\"\ntypeMode = \"PgType\"\ninitialisms = [\"sku\", \"EAN\"]\n"

def stockroom : Configuration where
  engineName := "CRDB"
  schema := none
  presentationWord := some "PgType"
  ignoredTables := []
  ignoredFields := []
  initialisms := ["sku", "EAN"]
  accessorNamingWord := none
  useIndexNames := false
  int32 := "i32"
  uint32 := "u32"
  jsonColumnTypes := false

/-- Another one with a word for accessors that is not listed and an initialism
that is too short. -/
def mailroomText : String :=
  "engine = \"CRDB\"\nforeignKeyMode = \"parents\"\n" ++
    "initialisms = [\"sku\", \"E\"]\n"

def mailroom : Configuration :=
  { stockroom with
    presentationWord := none
    initialisms := ["sku", "E"]
    accessorNamingWord := some "parents" }

theorem loadsAsItConverts_stockroom :
    ofToml stockroomText = .ok stockroom ∧
      ofText ofToml stockroomText = .ok stockroom ∧
      (∃ options, stockroom.options = .ok options ∧
        options.initialisms.holds "Sku".toList = true ∧
        options.initialisms.camel "2nd 4_sKu" =
          options.initialisms.camel "2nd 4_" ++ "SKU") ∧
      ofToml mailroomText = .ok mailroom ∧
      ofText ofToml mailroomText =
        .error (.unknownWord ⟨.accessorNaming, "parents"⟩) := by
  have read : ofToml stockroomText = .ok stockroom := by decide +kernel
  have readMailroom : ofToml mailroomText = .ok mailroom := by decide +kernel
  have good : IsGood stockroom := ⟨by decide, by decide, by decide, by decide⟩
  have fault : FirstFault mailroom
      (.unknownWord ⟨.accessorNaming, "parents"⟩) :=
    .accessorNaming (by decide) (by decide) rfl (by decide)
  obtain ⟨loads, -, behaves⟩ := loadsAsItConverts_ofText read
  obtain ⟨loaded, isLoaded⟩ := loads.succeeds.mpr good.converts
  obtain ⟨-, options, converted⟩ := good.converts
  have added := behaves options converted
  refine ⟨read, ?_, ⟨options, converted, ?_, ?_⟩, readMailroom, ?_⟩
  · rw [isLoaded, loads.unchanged loaded isLoaded]
  · exact added.holds "sku" (by decide) _ (by decide)
  · have letters : ∀ c ∈ "sku".toList, c.isAlpha = true :=
      List.all_eq_true.mp (by decide)
    have mark : "2nd 4_".toList.getLast? = some '_' := by decide
    have apart : Identifier.Encloses "2nd 4_".toList "".toList := by
      refine ⟨.inl ?_, by simp⟩
      rw [mark]
      rintro _ ⟨⟩
      decide
    have spelled := added.capitals "sku" (by decide) letters "2nd 4_" "sKu" ""
      (by decide) apart
    have capitals : uppercase "sku" = "SKU" := by decide
    rw [capitals] at spelled
    exact spelled.trans String.append_empty
  · exact ((loadsAsItConverts_ofText readMailroom).1.fails _).mpr fault

end Configuration

end SchemaAtlas
