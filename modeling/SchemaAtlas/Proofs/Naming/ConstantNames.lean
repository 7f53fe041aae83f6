import SchemaAtlas.Proofs.Text.Bytes
import SchemaAtlas.Initialisms

/-!
# Names of enumeration constants

The name of the enumeration is found at the end of a constant's name in
lowercase texts but cut off by the bytes that it takes as it is written.  What
is lost is therefore as wide as the name of the enumeration, and it is that
name, up to case, exactly where the two have lowercase forms of the same width
and the form of what is lost does not depend on what stands before it.
-/

namespace SchemaAtlas

open Text

namespace Initialisms

/-- All that the shorter name lacks is an ending that is the lost name up to
case, and it is not empty unless it lacks nothing. -/
def LosesOnly (lost name shorter : String) : Prop :=
  shorter = name ∨
    shorter ≠ "" ∧ ∃ rest, name = shorter ++ rest ∧ lowercase rest =
      lowercase lost

/-- The name of an enumeration constant is cut in two: it ends in the name of
the enumeration up to case, and what is cut off has the width of that name. -/
structure CutAt (set : Initialisms) (enumeration label : String)
    (kept lost : List Char) : Prop where
  shape : set.camelChars label.toList = kept ++ lost
  width : byteLength lost = byteLength enumeration.toList
  filled : kept ≠ []
  ends : lower enumeration.toList <:+ lower (kept ++ lost)

variable {set : Initialisms} {enumeration label : String}
  {kept lost : List Char}

namespace CutAt

theorem constantName_eq (cut : set.CutAt enumeration label kept lost) :
    set.constantName enumeration label = String.ofList kept := by
  have wide : 0 < byteLength kept :=
    Nat.pos_of_ne_zero (mt byteLength_eq_zero_iff.mp cut.filled)
  have whole : byteLength (kept ++ lost) =
      byteLength kept + byteLength enumeration.toList := by
    rw [byteLength_append, cut.width]
  have fits : byteLength enumeration.toList <
      byteLength (kept ++ lost) := by omega
  have front : byteLength (kept ++ lost) - byteLength enumeration.toList =
      byteLength kept := by omega
  have ends : (lower enumeration.toList).isSuffixOf (lower (kept ++ lost)) =
      true :=
    List.isSuffixOf_iff_suffix.mpr cut.ends
  rw [constantName, cut.shape, if_pos ⟨fits, ends⟩, front, splitAtByte?_append]

/-- What is cut off is the name of the enumeration up to case exactly where its
lowercase form is as wide and does not depend on what stands before it. -/
theorem lower_eq_iff (cut : set.CutAt enumeration label kept lost) :
    lower lost = lower enumeration.toList ↔
      byteLength (lower lost) = byteLength (lower enumeration.toList) ∧
        lowerAfter kept.reverse lost = lower lost := by
  -- Both are endings of the lowercase text, so the width decides.
  have same : byteLength (lower lost) = byteLength (lower enumeration.toList) →
      lowerAfter kept.reverse lost = lower enumeration.toList := by
    intro width
    refine eq_of_isSuffix_of_byteLength (isSuffix_lower_append kept lost)
      cut.ends ?_
    rw [← width, byteLength_lowerAfter, byteLength_lower]
  constructor
  · intro alike
    have width := congrArg byteLength alike
    exact ⟨width, (same width).trans alike.symm⟩
  · rintro ⟨width, free⟩
    exact free.symm.trans (same width)

theorem losesOnly_iff (cut : set.CutAt enumeration label kept lost) :
    LosesOnly enumeration (set.camel label)
    (set.constantName enumeration label) ↔
      lower lost = lower enumeration.toList := by
  have whole : set.camel label = String.ofList kept ++ String.ofList lost := by
    rw [camel, cut.shape, String.ofList_append]
  rw [cut.constantName_eq, whole]
  constructor
  · rintro (uncut | ⟨_, rest, shape, alike⟩)
    · -- Nothing is cut off, so the name of the enumeration has no bytes.
      have nothing : lost = [] := by
        rw [← String.ofList_append, String.ofList_inj] at uncut
        exact List.self_eq_append_right.mp uncut
      have width := cut.width
      rw [nothing, eq_comm, byteLength_nil, byteLength_eq_zero_iff] at width
      rw [nothing, width]
    · have same : rest.toList = lost := by
        have texts := congrArg String.toList shape
        simpa [eq_comm] using texts
      rwa [lowercase, lowercase, String.ofList_inj, same] at alike
  · intro alike
    refine .inr ⟨by simpa using cut.filled, String.ofList lost, rfl, ?_⟩
    rw [lowercase, String.toList_ofList, alike, lowercase]

private theorem lower_eq_of_even (cut : set.CutAt enumeration label kept lost)
    (evenName : ∀ c ∈ enumeration.toList, byteLength (lowerChar c) = c.utf8Size)
    (evenCamel : ∀ c ∈ set.camelChars label.toList,
      c ≠ capitalSigma ∧ byteLength (lowerChar c) = c.utf8Size) :
    lower lost = lower enumeration.toList := by
  have even : ∀ c ∈ lost,
      c ≠ capitalSigma ∧ byteLength (lowerChar c) = c.utf8Size := by
    intro c inLost
    refine evenCamel c ?_
    rw [cut.shape]
    exact List.mem_append_right kept inLost
  have noSigma : capitalSigma ∉ lost := fun inLost => (even _ inLost).1 rfl
  rw [cut.lower_eq_iff]
  constructor
  · rw [byteLength_lower, byteLength_lower, byteLength_flatMap_of_kept evenName,
      byteLength_flatMap_of_kept fun c inLost => (even c inLost).2, cut.width]
  · rw [lower, lowerAfter_of_not_mem noSigma, lowerAfter_of_not_mem noSigma]

end CutAt

theorem exists_cutAt_or_constantName_eq (set : Initialisms)
    (enumeration label : String) :
    (∃ kept lost, set.CutAt enumeration label kept lost) ∨
      set.constantName enumeration label = set.camel label := by
  rw [constantName]
  split
  next found =>
    obtain ⟨fits, ends⟩ := found
    split
    next kept lost cut =>
      left
      obtain ⟨shape, front⟩ := splitAtByte?_eq_some_iff.mp cut
      rw [shape] at fits front ends
      rw [byteLength_append] at fits front
      refine ⟨kept, lost, shape, ?_, ?_, List.isSuffixOf_iff_suffix.mp ends⟩
      · omega
      · rintro rfl
        rw [byteLength_nil] at fits front
        omega
    next => exact .inr rfl
  next => exact .inr rfl

private theorem exists_camel_eq_constantName_append (set : Initialisms)
    (enumeration label : String) :
    ∃ lost, set.camel label = set.constantName enumeration label ++ lost ∧
      (lost = "" ∨ set.constantName enumeration label ≠ "" ∧
        lost.utf8ByteSize = enumeration.utf8ByteSize) := by
  rcases set.exists_cutAt_or_constantName_eq enumeration label with
    ⟨kept, lost, cut⟩ | uncut
  · refine ⟨String.ofList lost, ?_, .inr ⟨?_, ?_⟩⟩
    · rw [cut.constantName_eq, camel, cut.shape, String.ofList_append]
    · rw [cut.constantName_eq]
      simpa using cut.filled
    · rw [← byteLength_eq_utf8ByteSize, cut.width, byteLength_eq_utf8ByteSize,
        String.ofList_toList]
  · rw [uncut]
    exact ⟨"", by simp, .inl rfl⟩

/-- A constant's name never lacks anything but an ending as wide as the name of
the enumeration.  It lacks that name only, up to case, exactly where the
lowercase form of what is cut off is as wide as that of the name and does not
depend on what stands before it.  So it is where lowercasing leaves the width of
each letter and there is no capital sigma. -/
theorem constantName_losesOnly_iff (set : Initialisms)
    (enumeration label : String) :
    (∃ lost, set.camel label = set.constantName enumeration label ++ lost ∧
      (lost = "" ∨ set.constantName enumeration label ≠ "" ∧
        lost.utf8ByteSize = enumeration.utf8ByteSize)) ∧
    (LosesOnly enumeration (set.camel label)
      (set.constantName enumeration label) ↔
      ∀ kept lost, set.CutAt enumeration label kept lost →
        byteLength (lower lost) = byteLength (lower enumeration.toList) ∧
          lowerAfter kept.reverse lost = lower lost) ∧
    ((∀ c ∈ enumeration.toList, byteLength (lowerChar c) = c.utf8Size) →
      (∀ c ∈ set.camelChars label.toList,
        c ≠ capitalSigma ∧ byteLength (lowerChar c) = c.utf8Size) →
      LosesOnly enumeration (set.camel label)
      (set.constantName enumeration label)) := by
  refine ⟨set.exists_camel_eq_constantName_append enumeration label, ⟨?_, ?_⟩,
    ?_⟩
  · intro losesOnly kept lost cut
    exact cut.lower_eq_iff.mp (cut.losesOnly_iff.mp losesOnly)
  · intro alike
    rcases set.exists_cutAt_or_constantName_eq enumeration label with
      ⟨kept, lost, cut⟩ | uncut
    · exact cut.losesOnly_iff.mpr (cut.lower_eq_iff.mpr (alike kept lost cut))
    · exact .inl uncut
  · intro evenName evenCamel
    rcases set.exists_cutAt_or_constantName_eq enumeration label with
      ⟨kept, lost, cut⟩ | uncut
    · exact cut.losesOnly_iff.mpr (cut.lower_eq_of_even evenName evenCamel)
    · exact .inl uncut

/-- The letters outside the ASCII range take two bytes in the name and in
lowercase. -/
theorem constantName_smallSize :
    LosesOnly "Größe" (common.camel "kleine_größe")
        (common.constantName "Größe" "kleine_größe") ∧
      common.constantName "Größe" "kleine_größe" = "Kleine" := by
  have evenName : "Größe".toList.all
      (fun c => byteLength (lowerChar c) = c.utf8Size) = true := by
    decide +kernel
  have evenCamel : (common.camelChars "kleine_größe".toList).all
      (fun c => c ≠ capitalSigma ∧ byteLength (lowerChar c) = c.utf8Size) =
        true := by
    decide +kernel
  have losesOnly :=
    (constantName_losesOnly_iff common "Größe" "kleine_größe").2.2
  constructor
  · apply losesOnly
    · exact fun c inName =>
        of_decide_eq_true (List.all_eq_true.mp evenName c inName)
    · exact fun c inCamel =>
        of_decide_eq_true (List.all_eq_true.mp evenCamel c inCamel)
  · decide +kernel

/-- The ångström sign takes three bytes and the letter that it looks like takes
two, so one more letter is lost than the name of the enumeration has. -/
theorem constantName_misses_picoangstrom :
    common.camel "pico_ångström" = "PicoÅngström" ∧
      common.constantName "\u212bngström" "pico_ångström" = "Pic" ∧
      ¬ LosesOnly "\u212bngström" (common.camel "pico_ångström")
        (common.constantName "\u212bngström" "pico_ångström") := by
  have cut : common.CutAt "\u212bngström" "pico_ångström" "Pic".toList
      "oÅngström".toList :=
    { shape := by decide +kernel
      width := by decide +kernel
      filled := by decide
      ends := by decide +kernel }
  refine ⟨by decide +kernel, cut.constantName_eq, ?_⟩
  rw [cut.losesOnly_iff]
  decide +kernel

end Initialisms

end SchemaAtlas
