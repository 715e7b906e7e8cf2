import UsbHost.Proofs.Json.Written
import UsbHost.Proofs.Text.Numbers

/-! # What is written is JSON

The text of a value on one line spells the value (`Fits.spells_render`): the escapes, the
digits and the marks that are written are those of the grammar.
-/
namespace UsbHost.Json

/-! ## Scalars -/

/-- A character is written as one part of a string. -/
theorem isPart_escape (c : Char) : IsPart (escape c) := by
  fun_cases escape c with
  | case8 c _ _ _ _ _ _ _ hcontrol =>
    have hhex : ∀ n < 16, hexDigit n ∈ hexDigits := by decide
    have hhigh := hhex (c.toNat / 16) (by omega)
    have hlow := hhex (c.toNat % 16) (Nat.mod_lt _ (by decide))
    exact .code (by simpa [hhigh, hlow] using show '0' ∈ hexDigits by decide)
  | case9 c hquote hbackslash _ _ _ _ _ hcontrol =>
    exact .plain hquote hbackslash (by simpa [isControl] using hcontrol)
  | _ => exact .letter (by decide)

theorem isString_quote (s : String) : IsString (quote s) := by
  rw [quote, List.flatMap_def]
  refine .parts fun part hpart => ?_
  obtain ⟨c, -, rfl⟩ := List.mem_map.mp hpart
  exact isPart_escape c

theorem isWhole_toDigits (n : Nat) : IsWhole (Nat.toDigits 10 n) := by
  rcases Nat.eq_zero_or_pos n with rfl | hpos
  · rw [Nat.toDigits_of_lt_base (by decide)]
    exact .zero
  · have hds := Text.isDigit_toDigits n
    obtain ⟨d, ds, heq, hd⟩ := Text.exists_toDigits hpos
    rw [heq] at hds ⊢
    exact .digits (hds d (.head _)) hd fun d hd => hds d (.tail _ hd)

theorem isNumber_renderNumber (n : Int) : IsNumber (renderNumber n) := by
  have hparts (sign : List Char) (hsign : sign ∈ [[], ['-']]) (n : Nat) :
      IsNumber (sign ++ Nat.toDigits 10 n) := by
    simpa using IsNumber.parts hsign (isWhole_toDigits n) .absent .absent
  cases n with
  | ofNat n =>
    rw [Int.ofNat_eq_natCast, renderNumber_ofNat]
    exact hparts [] (by decide) n
  | negSucc n =>
    rw [renderNumber_negSucc]
    exact hparts ['-'] (by decide) (n + 1)

/-! ## Values -/

/-- The value as its text on one line has it. -/
def written : Json → Written
  | .null => .scalar .null
  | .bool b => .scalar (.bool b)
  | .number n => .scalar (.number (.integer n))
  | .string s => .scalar (literal s)
  | .array items => .array (items.map written)
  | .object members => .object (members.map fun m => (m.1.toList.map .char, m.2.written))
termination_by v => sizeOf v
decreasing_by
  · have := List.sizeOf_lt_of_mem ‹_ ∈ items›
    simp; omega
  · have := List.sizeOf_lt_of_mem ‹_ ∈ members›
    cases m; simp at *; omega

theorem SpelledMember.named_quote (name : String) (text : List Char) (value : Written) :
    SpelledMember.Named ⟨quote name, name.toList.map .char, text, value⟩ := by
  have hnone : ∀ c ∈ ([] : List Char), isBlank c := by simp
  have hnamed : Named ⟨[] ++ (quote name ++ []), name.toList.map .char, text, value⟩ :=
    .blanks hnone hnone (isString_quote name) (scan_eq_of_scansTo (.quote name))
  simpa using hnamed

/-- **The text of a value spells the value.** -/
theorem Fits.spells_render {depth : Nat} {v : Json} (h : Fits depth v) :
    Spells (render v) v.written := by
  induction h with
  | null =>
    rw [render, written]
    exact .scalar (.name (by decide)) rfl
  | bool b => cases b <;> (rw [render, written]; exact .scalar (.name (by decide)) rfl)
  | @number _ n low high =>
    rw [render, written]
    exact .scalar (.number (isNumber_renderNumber n))
      (scan_eq_of_scansTo (scansTo_renderNumber low high))
  | string s =>
    rw [render, written]
    exact .scalar (.string (isString_quote s)) (scan_eq_of_scansTo (.quote s))
  | @array _ items _ ih =>
    have hitems : ∀ p ∈ items.map fun v => (render v, v.written), Spells p.1 p.2 :=
      List.forall_mem_map.mpr ih
    have hspells := Spells.array (by simp : ∀ c ∈ ([] : List Char), isBlank c) hitems
    rw [List.map_map, List.map_map] at hspells
    rw [render, written]
    exact hspells
  | @object _ members _ ih =>
    let spelled (m : String × Json) : SpelledMember :=
      ⟨quote m.1, m.1.toList.map .char, render m.2, m.2.written⟩
    have hnamed : ∀ m ∈ members.map spelled, m.Named :=
      List.forall_mem_map.mpr fun m _ => SpelledMember.named_quote m.1 _ _
    have hvalues : ∀ m ∈ members.map spelled, Spells m.text m.value := List.forall_mem_map.mpr ih
    have hspells := Spells.object (by simp : ∀ c ∈ ([] : List Char), isBlank c) hnamed hvalues
    rw [List.map_map, List.map_map] at hspells
    rw [render, written]
    exact hspells

theorem Fits.spells {depth : Nat} {v : Json} (h : Fits depth v) {text : String}
    (htext : text.toList = render v) {n : Written} (hn : v.written = n) :
    Spells text.toList n := by
  rw [htext, ← hn]
  exact h.spells_render

end UsbHost.Json
