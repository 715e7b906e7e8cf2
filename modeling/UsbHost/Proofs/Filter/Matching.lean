import Mathlib.Logic.ExistsUnique
import UsbHost.Proofs.Filter.Grammar

/-! # What filters let through

Validation takes two characters off an id and reads the rest.  Matching takes off as many
marks `0x` and `0X` as there are.  The two come to the same for a valid id, since no second
mark can be part of a number (`dropMarks_number`); and a filter with a single colon is cut
in the same place by both.  So valid filters let through what they say
(`allow_of_valid`).
-/
namespace UsbHost.Filter

/-- What a valid id says: a star stands for every number, any other id for the number
behind its mark. -/
def StandsFor (id : List Char) (value : UInt16) : Prop :=
  id = ['*'] ∨ Text.readHex (id.drop 2) = some value

/-! ## The marks of an id -/

section Marks
variable {x mark : Char} {text : List Char}

theorem dropMarks_of_not_mem (h : x ∉ text) : dropMarks x text = text := by
  unfold dropMarks
  split
  · rename_i c rest
    have hne : c ≠ x := by
      intro heq
      exact h (heq ▸ .tail _ (.head _))
    rw [if_neg hne]
  · rfl

/-- One mark is dropped, of either case, if there is no other. -/
theorem dropMarks_marked (hmark : mark = 'x' ∨ mark = 'X') (hx : 'x' ∉ text) (hX : 'X' ∉ text) :
    dropMarks 'X' (dropMarks 'x' ('0' :: mark :: text)) = text := by
  rcases hmark with rfl | rfl
  · rw [dropMarks, if_pos rfl, dropMarks_of_not_mem hx, dropMarks_of_not_mem hX]
  · have hne : 'X' ≠ 'x' := by decide
    rw [dropMarks, if_neg hne, dropMarks, if_pos rfl, dropMarks_of_not_mem hX]

/-- What is read as a number has no mark in it. -/
theorem not_mem_of_isSome_readHex (hmark : mark = 'x' ∨ mark = 'X') (hlength : text.length ≤ 4)
    (h : (Text.readHex text).isSome) : mark ∉ text := by
  have hdigit : ¬ Text.IsHexDigit mark := by
    rcases hmark with rfl | rfl <;> decide
  intro hmem
  rcases (Text.isSome_readHex_iff hlength).mp h with hds | ⟨ds, rfl, hds⟩
  · exact hdigit (hds.isHexDigit mark hmem)
  · rcases List.mem_cons.mp hmem with rfl | hmem
    · exact absurd hmark (by decide)
    · exact hdigit (hds.isHexDigit mark hmem)

end Marks

/-! ## One id -/

section Id
variable {part : Part} {id : List Char} {value : UInt16}

/-- A valid id that is no star has a number behind its mark, and that is what is left when
all marks are dropped. -/
theorem dropMarks_number (h : validatePart part id = .ok ()) (hid : id ≠ ['*']) :
    dropMarks 'X' (dropMarks 'x' id) = id.drop 2 ∧ (Text.readHex (id.drop 2)).isSome := by
  by_cases hmarked : ∃ mark text, (mark = 'x' ∨ mark = 'X') ∧ id = '0' :: mark :: text
  · obtain ⟨mark, text, hmark, rfl⟩ := hmarked
    obtain ⟨-, hsize, hread⟩ := (validatePart_number part hmark).mp h
    have hlength : text.length ≤ 4 := Nat.le_trans (length_le_byteSize text) hsize
    have hx := not_mem_of_isSome_readHex (.inl rfl) hlength hread
    have hX := not_mem_of_isSome_readHex (.inr rfl) hlength hread
    exact ⟨dropMarks_marked hmark hx hX, hread⟩
  · have hstar := validatePart_unmarked part fun mark text hmark heq =>
      hmarked ⟨mark, text, hmark, heq⟩
    exact absurd (hstar.mp h) hid

/-- **A valid id lets through what it stands for.** -/
theorem partMatches_iff (h : validatePart part id = .ok ()) :
    partMatches id value = true ↔ StandsFor id value := by
  unfold partMatches StandsFor
  rw [Bool.or_eq_true, decide_eq_true_eq, beq_iff_eq]
  by_cases hid : id = ['*']
  · simp only [hid, true_or]
  · rw [(dropMarks_number h hid).1]

/-- A valid id that is no star lets exactly one number through. -/
theorem existsUnique_partMatches (h : validatePart part id = .ok ()) (hid : id ≠ ['*']) :
    ∃! value, partMatches id value = true := by
  obtain ⟨-, hread⟩ := dropMarks_number h hid
  obtain ⟨value, hvalue⟩ := Option.isSome_iff_exists.mp hread
  refine ⟨value, (partMatches_iff h).mpr (.inr hvalue), ?_⟩
  intro other hother
  rcases (partMatches_iff h).mp hother with hstar | hother
  · exact absurd hstar hid
  · exact Option.some.inj (hother.symm.trans hvalue)

end Id

/-! ## Filters -/

/-- **A valid filter lets a device through** if its two ids stand for those of the device. -/
theorem lets_iff {filter : String} (h : validate filter = .ok ()) (vendor product : UInt16) :
    lets filter vendor product = true ↔ ∃ v p, filter.toList = v ++ ':' :: p ∧
      StandsFor v vendor ∧ StandsFor p product := by
  obtain ⟨v, p, hsingle, hv, hp⟩ := (validate_iff filter).mp h
  obtain ⟨hcount, htext⟩ := cut?_single_iff.mp hsingle
  have hlets : lets filter vendor product = true ↔ StandsFor v vendor ∧ StandsFor p product := by
    unfold lets
    rw [hsingle.1, ← partMatches_iff hv, ← partMatches_iff hp, Bool.and_eq_true]
  rw [hlets]
  constructor
  · rintro ⟨hvendor, hproduct⟩
    exact ⟨v, p, htext, hvendor, hproduct⟩
  · rintro ⟨v', p', htext', hvendor, hproduct⟩
    -- There is no second place to cut the text.
    have hcut' : cut? filter.toList = some (v', p') := (cut?_single_iff.mpr ⟨hcount, htext'⟩).1
    obtain ⟨rfl, rfl⟩ : v = v' ∧ p = p' := by
      simpa [hsingle.1] using hcut'
    exact ⟨hvendor, hproduct⟩

theorem allow_iff {filters : List String} {vendor product : UInt16} :
    allow filters vendor product = true ↔
      filters = [] ∨ ∃ filter ∈ filters, lets filter vendor product = true := by
  rw [allow, Bool.or_eq_true, List.isEmpty_iff, List.any_eq_true]

/-- Only which filters there are matters, not how often or in which order. -/
theorem allow_congr {filters others : List String}
    (h : ∀ filter, filter ∈ others ↔ filter ∈ filters) : allow others = allow filters := by
  have hempty : others = [] ↔ filters = [] := by
    simp only [List.eq_nil_iff_forall_not_mem, h]
  funext vendor product
  rw [Bool.eq_iff_iff, allow_iff, allow_iff, hempty]
  simp only [h]

/-- **Valid filters are matched as they were validated.**  They let a device through when
there are none, or when the ids of one of them stand for those of the device.  A valid id
that is no star lets one number through, and the order of the filters and repetitions do
not matter. -/
theorem allow_of_valid {filters : List String} (h : ∀ filter ∈ filters, validate filter = .ok ()) :
    (∀ vendor product, allow filters vendor product = true ↔
      filters = [] ∨ ∃ filter ∈ filters, ∃ v p, filter.toList = v ++ ':' :: p ∧
        StandsFor v vendor ∧ StandsFor p product) ∧
    (∀ part id, validatePart part id = .ok () → id ≠ ['*'] →
      ∃! value, partMatches id value = true) ∧
    ∀ others, (∀ filter, filter ∈ others ↔ filter ∈ filters) → allow others = allow filters := by
  refine ⟨?_, fun _ _ => existsUnique_partMatches, fun _ => allow_congr⟩
  intro vendor product
  rw [allow_iff]
  refine or_congr_right (exists_congr fun filter => and_congr_right fun hmem => ?_)
  exact lets_iff (h filter hmem) vendor product

/-- Two filters, one with the mark in the other case and a plus sign. -/
theorem allow_of_valid_two :
    (∀ filter ∈ ["0x1234:*", "*:0X+fF"], validate filter = .ok ()) ∧
      allow ["0x1234:*", "*:0X+fF"] 0x9999 0xff = true ∧
      ¬ allow ["0x1234:*", "*:0X+fF"] 0x9999 0xfe = true ∧
      allow ["*:0X+fF", "0x1234:*", "*:0X+fF"] = allow ["0x1234:*", "*:0X+fF"] := by
  have hvalid : ∀ filter ∈ ["0x1234:*", "*:0X+fF"], validate filter = .ok () := by
    rintro filter (_ | ⟨_, _ | ⟨_, h⟩⟩)
    · rfl
    · rfl
    · cases h
  obtain ⟨hallow, -, hothers⟩ := allow_of_valid hvalid
  refine ⟨hvalid, (hallow _ _).mpr (.inr ?_), fun h => ?_, hothers _ (by simp [or_comm])⟩
  · exact ⟨"*:0X+fF", by simp, ['*'], "0X+fF".toList, by decide +kernel, .inl rfl, .inr rfl⟩
  · exact absurd h (by decide +kernel)

end UsbHost.Filter
