import UsbHost.Filter
import UsbHost.Proofs.Text.Numbers

/-! # The grammar of filters

A filter is two ids with a colon between them.  An id is a star, or one to four
hexadecimal digits behind `0x` or `0X` (`Filter.IsId`).  Every filter is valid, but so is
a text with a plus sign before the digits of an id, since these are read as any number
is (`Filter.validate_eq_ok_iff`).
-/
namespace UsbHost.Filter

/-- An id, as the grammar has it. -/
inductive IsId : List Char → Prop where
  | any : IsId ['*']
  | number {mark : Char} {ds : List Char} (mark_eq : mark = 'x' ∨ mark = 'X')
      (isNumber : Text.IsHexNumber ds) (length_le : ds.length ≤ 4) : IsId ('0' :: mark :: ds)

/-- What is not an id only for a plus sign, which takes the place of a digit. -/
inductive IsSigned : List Char → Prop where
  | number {mark : Char} {ds : List Char} (mark_eq : mark = 'x' ∨ mark = 'X')
      (isNumber : Text.IsHexNumber ds) (length_le : ds.length ≤ 3) :
      IsSigned ('0' :: mark :: '+' :: ds)

/-- Two parts with a colon between them, which is the only one. -/
structure IsPair (IsPart : List Char → Prop) (text : List Char) : Prop where
  count : text.count ':' = 1
  parts : ∃ vendor product, text = vendor ++ ':' :: product ∧ IsPart vendor ∧ IsPart product

/-! ## The parts of a text -/

section Cut
variable {text vendor product : List Char}

/-- A text is cut at its first colon. -/
theorem cut?_append (h : ':' ∉ vendor) (product : List Char) :
    cut? (vendor ++ ':' :: product) = some (vendor, product) := by
  have hne : ∀ c ∈ vendor, decide (c ≠ ':') = true := fun c hc =>
    decide_eq_true fun heq => h (heq ▸ hc)
  rw [cut?, List.dropWhile_append_of_pos hne, List.takeWhile_append_of_pos hne]
  simp

theorem cut?_of_not_mem (h : ':' ∉ text) : cut? text = none := by
  have hne : ∀ c ∈ text, decide (c ≠ ':') = true := fun c hc =>
    decide_eq_true fun heq => h (heq ▸ hc)
  have hrest : (text ++ []).dropWhile (fun c => decide (c ≠ ':')) = [] :=
    List.dropWhile_append_of_pos hne
  rw [List.append_nil] at hrest
  rw [cut?, hrest]

/-- A text with a single colon is cut into what stands before it and behind it. -/
theorem cut?_single_iff :
    cut? text = some (vendor, product) ∧ ':' ∉ product ↔
      text.count ':' = 1 ∧ text = vendor ++ ':' :: product := by
  constructor
  · rintro ⟨hcut, hproduct⟩
    by_cases hmem : ':' ∈ text
    · obtain ⟨before, after, rfl, hbefore⟩ := List.eq_append_cons_of_mem hmem
      rw [cut?_append hbefore] at hcut
      cases hcut
      rw [List.count_append, List.count_cons_self, List.count_eq_zero.mpr hbefore,
        List.count_eq_zero.mpr hproduct]
      exact ⟨rfl, rfl⟩
    · rw [cut?_of_not_mem hmem] at hcut
      cases hcut
  · rintro ⟨hcount, rfl⟩
    rw [List.count_append, List.count_cons_self] at hcount
    exact ⟨cut?_append (List.count_eq_zero.mp (by omega)) product,
      List.count_eq_zero.mp (by omega)⟩

theorem isPair_iff {IsPart : List Char → Prop} :
    IsPair IsPart text ↔ ∃ vendor product, (cut? text = some (vendor, product) ∧ ':' ∉ product) ∧
      IsPart vendor ∧ IsPart product := by
  simp only [cut?_single_iff]
  constructor
  · rintro ⟨hcount, vendor, product, htext, hparts⟩
    exact ⟨vendor, product, ⟨hcount, htext⟩, hparts⟩
  · rintro ⟨vendor, product, ⟨hcount, htext⟩, hparts⟩
    exact ⟨hcount, vendor, product, htext, hparts⟩

end Cut

/-! ## One part -/

theorem byteSize_eq_length {text : List Char} (h : ∀ c ∈ text, c.utf8Size = 1) :
    byteSize text = text.length := by
  induction text with
  | nil => rfl
  | cons c text ih =>
    have hc := h c (.head _)
    have htext := ih fun d hd => h d (.tail _ hd)
    rw [List.length_cons, ← htext, Nat.add_comm, ← hc]
    rfl

theorem length_le_byteSize (text : List Char) : text.length ≤ byteSize text := by
  induction text with
  | nil => exact Nat.le_refl _
  | cons c text ih =>
    have hc : 1 ≤ c.utf8Size := c.utf8Size_pos
    change text.length + 1 ≤ c.utf8Size + byteSize text
    omega

section Part
variable (part : Part) {mark : Char} {ds id : List Char}

/-- The number behind a mark is written in one to four bytes. -/
theorem validatePart_number (hmark : mark = 'x' ∨ mark = 'X') :
    validatePart part ('0' :: mark :: ds) = .ok () ↔
      ds ≠ [] ∧ byteSize ds ≤ 4 ∧ (Text.readHex ds).isSome := by
  have hcheck : validatePart part ('0' :: mark :: ds) =
      if ds.isEmpty || byteSize ds > 4 then
        .error (.size part (String.ofList ('0' :: mark :: ds)))
      else if (Text.readHex ds).isNone then
        .error (.digits part (String.ofList ('0' :: mark :: ds)))
      else .ok () := by
    rcases hmark with rfl | rfl <;> rfl
  rw [hcheck]
  by_cases hsize : (ds.isEmpty || decide (byteSize ds > 4)) = true
  · rw [if_pos hsize]
    simp only [Bool.or_eq_true, List.isEmpty_iff, decide_eq_true_eq] at hsize
    refine iff_of_false nofun ?_
    rintro ⟨hne, hle, -⟩
    exact hsize.elim hne (Nat.not_lt.mpr hle)
  · rw [if_neg hsize]
    simp only [Bool.or_eq_true, List.isEmpty_iff, decide_eq_true_eq, not_or, Nat.not_lt] at hsize
    cases hread : Text.readHex ds with
    | none => simp
    | some n => simpa using hsize

/-- Of what does not begin with a mark only a star is valid. -/
theorem validatePart_unmarked
    (hid : ∀ mark ds, mark = 'x' ∨ mark = 'X' → id ≠ '0' :: mark :: ds) :
    validatePart part id = .ok () ↔ id = ['*'] := by
  unfold validatePart
  split
  · exact iff_of_true rfl ‹_›
  · split
    · exact absurd rfl (hid 'x' _ (.inl rfl))
    · exact absurd rfl (hid 'X' _ (.inr rfl))
    · exact iff_of_false nofun ‹_›

theorem byteSize_number (h : Text.IsHexNumber ds) : byteSize ds = ds.length :=
  byteSize_eq_length fun d hd => (h.isHexDigit d hd).utf8Size

/-- **A part is valid** when it is an id, or would be one without a plus sign. -/
theorem validatePart_eq_ok_iff :
    validatePart part id = .ok () ↔ IsId id ∨ IsSigned id := by
  constructor
  · intro hvalid
    by_cases hid : ∃ mark ds, (mark = 'x' ∨ mark = 'X') ∧ id = '0' :: mark :: ds
    · obtain ⟨mark, ds, hmark, rfl⟩ := hid
      obtain ⟨-, hsize, hread⟩ := (validatePart_number part hmark).mp hvalid
      have hlength : ds.length ≤ 4 := Nat.le_trans (length_le_byteSize ds) hsize
      rcases (Text.isSome_readHex_iff hlength).mp hread with hds | ⟨ds, rfl, hds⟩
      · exact .inl (.number hmark hds hlength)
      · exact .inr (.number hmark hds (Nat.le_of_succ_le_succ hlength))
    · refine .inl ((validatePart_unmarked part ?_).mp hvalid ▸ .any)
      exact fun mark ds hmark heq => hid ⟨mark, ds, hmark, heq⟩
  · rintro (h | h)
    · cases h with
      | any => rfl
      | number hmark hds hlength =>
        refine (validatePart_number part hmark).mpr ⟨hds.ne_nil, ?_, ?_⟩
        · rwa [byteSize_number hds]
        · exact (Text.isSome_readHex_iff hlength).mpr (.inl hds)
    · cases h with
      | number hmark hds hlength =>
        rename_i mark ds
        refine (validatePart_number part hmark).mpr ⟨List.cons_ne_nil _ _, ?_, ?_⟩
        · change 1 + byteSize ds ≤ 4
          rw [byteSize_number hds]
          omega
        · have hsigned : ('+' :: ds).length ≤ 4 := Nat.succ_le_succ hlength
          exact (Text.isSome_readHex_iff hsigned).mpr (.inr ⟨ds, rfl, hds⟩)

end Part

/-! ## The whole text -/

theorem validate_iff (filter : String) :
    validate filter = .ok () ↔ ∃ vendor product,
      (cut? filter.toList = some (vendor, product) ∧ ':' ∉ product) ∧
        validatePart .vendor vendor = .ok () ∧ validatePart .product product = .ok () := by
  unfold validate
  cases hcut : cut? filter.toList with
  | none => simp
  | some parts =>
    obtain ⟨vendor, product⟩ := parts
    by_cases hcolon : ':' ∈ product
    · simp [hcolon]
    · have hand : (do validatePart .vendor vendor; validatePart .product product) = .ok () ↔
          validatePart .vendor vendor = .ok () ∧ validatePart .product product = .ok () := by
        cases validatePart .vendor vendor <;> simp [bind, Except.bind]
      dsimp only
      rw [if_neg hcolon, hand]
      constructor
      · intro h
        exact ⟨vendor, product, ⟨rfl, hcolon⟩, h⟩
      · rintro ⟨_, _, ⟨heq, -⟩, h⟩
        cases heq
        exact h

theorem IsId.not_mem_plus {id : List Char} (h : IsId id) : '+' ∉ id := by
  cases h with
  | any => decide
  | number hmark hds _ =>
    have hplus : '+' ∉ _ := fun h => absurd (hds.isHexDigit '+' h) (by decide)
    rcases hmark with rfl | rfl <;> simpa using hplus

theorem IsPair.not_mem_plus {text : List Char} (h : IsPair IsId text) : '+' ∉ text := by
  obtain ⟨vendor, product, rfl, hvendor, hproduct⟩ := h.parts
  simp [hvendor.not_mem_plus, hproduct.not_mem_plus]

theorem IsSigned.mem_plus {id : List Char} (h : IsSigned id) : '+' ∈ id := by
  cases h with
  | number => simp

/-- **Which texts are valid**: two parts, of which each is an id or would be one without
a plus sign.  So of the texts without a plus sign exactly the filters are valid. -/
theorem validate_eq_ok_iff (filter : String) :
    (validate filter = .ok () ↔ IsPair (fun id => IsId id ∨ IsSigned id) filter.toList) ∧
    (IsPair IsId filter.toList ↔ validate filter = .ok () ∧ '+' ∉ filter.toList) := by
  have hvalid : validate filter = .ok () ↔
      IsPair (fun id => IsId id ∨ IsSigned id) filter.toList := by
    simp only [validate_iff, isPair_iff, validatePart_eq_ok_iff]
  refine ⟨hvalid, ?_⟩
  rw [hvalid]
  constructor
  · intro h
    obtain ⟨vendor, product, htext, hvendor, hproduct⟩ := h.parts
    exact ⟨⟨h.count, vendor, product, htext, .inl hvendor, .inl hproduct⟩, h.not_mem_plus⟩
  · rintro ⟨⟨hcount, vendor, product, htext, hvendor, hproduct⟩, hplus⟩
    rw [htext] at hplus
    simp only [List.mem_append, List.mem_cons, not_or] at hplus
    obtain ⟨hv, -, hp⟩ := hplus
    exact ⟨hcount, vendor, product, htext, hvendor.resolve_right fun h => hv h.mem_plus,
      hproduct.resolve_right fun h => hp h.mem_plus⟩

/-- **A text that is no filter is valid.** -/
theorem exists_valid_with_plus :
    validate "0x+123:*" = .ok () ∧ ¬ IsPair IsId "0x+123:*".toList := by
  refine ⟨rfl, fun h => h.not_mem_plus ?_⟩
  decide +kernel

end UsbHost.Filter
