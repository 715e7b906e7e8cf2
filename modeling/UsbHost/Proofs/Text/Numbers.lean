import Mathlib.Algebra.Group.Nat.Defs
import UsbHost.Text.Number

/-! # Numbers in texts

How `Nat.toDigits` writes a number, as far as the readers of numbers ask: a number can be
told from its decimal digits, also where another character follows them
(`Text.toDigits_append_inj`).

Which texts `Text.readHex` takes for a number of 16 bits: some hexadecimal digits, with
or without a plus sign before them.  Four of them are never too many
(`Text.isSome_readHex_iff`).
-/
namespace UsbHost.Text

/-! ## Decimal digits -/

theorem isDigit_toDigits (n : Nat) : ∀ d ∈ Nat.toDigits 10 n, d.isDigit := fun _ hd =>
  Nat.isDigit_of_mem_toDigits (by decide) (by decide) hd

/-- Only the number zero begins with a zero. -/
theorem exists_toDigits {n : Nat} (h : 0 < n) :
    ∃ d ds, Nat.toDigits 10 n = d :: ds ∧ d ≠ '0' := by
  induction n using Nat.strongRecOn with
  | _ n ih =>
    by_cases hn : n < 10
    · have hdigit : ∀ d < 10, 0 < d → d.digitChar ≠ '0' := by decide
      exact ⟨_, [], Nat.toDigits_of_lt_base hn, hdigit n hn h⟩
    · obtain ⟨d, ds, hds, hd⟩ := ih (n / 10) (by omega) (by omega)
      rw [Nat.toDigits_of_base_le (by decide) (by omega), hds]
      exact ⟨d, _, rfl, hd⟩

/-- Digits that are followed by another character determine the number and what comes after. -/
theorem toDigits_append_inj {n n' : Nat} {c : Char} {rest rest' : List Char}
    (hc : c.isDigit = false)
    (h : Nat.toDigits 10 n ++ c :: rest = Nat.toDigits 10 n' ++ c :: rest') :
    n = n' ∧ rest = rest' := by
  have hfirst : ∀ n rest, (Nat.toDigits 10 n ++ c :: rest).takeWhile Char.isDigit =
      Nat.toDigits 10 n := by
    intro n rest
    rw [List.takeWhile_append_of_pos (isDigit_toDigits n),
      List.takeWhile_cons_of_neg (by rw [hc]; exact Bool.false_ne_true), List.append_nil]
  have hdigits : Nat.toDigits 10 n = Nat.toDigits 10 n' := by
    rw [← hfirst n rest, h, hfirst]
  have hvalue : ∀ n, Nat.ofDigitChars 10 (Nat.toDigits 10 n) 0 = n := fun n =>
    Nat.ofDigitChars_toDigits (by decide) (by decide)
  refine ⟨by rw [← hvalue n, hdigits, hvalue], ?_⟩
  rw [hdigits] at h
  exact (List.cons.inj (List.append_cancel_left h)).2

/-! ## Hexadecimal digits -/

/-- A hexadecimal digit, of either case. -/
def IsHexDigit (c : Char) : Prop :=
  ('0' ≤ c ∧ c ≤ '9') ∨ ('a' ≤ c ∧ c ≤ 'f') ∨ ('A' ≤ c ∧ c ≤ 'F')

instance (c : Char) : Decidable (IsHexDigit c) := inferInstanceAs (Decidable (_ ∨ _))

/-- At least one hexadecimal digit. -/
structure IsHexNumber (text : List Char) : Prop where
  ne_nil : text ≠ []
  isHexDigit : ∀ d ∈ text, IsHexDigit d

section Digit
variable {c : Char}

theorem isDigit_iff : c.isDigit = true ↔ '0' ≤ c ∧ c ≤ '9' := by
  rw [Char.isDigit, Bool.and_eq_true, decide_eq_true_eq, decide_eq_true_eq]
  exact Iff.rfl

/-- Every hexadecimal digit has a value, and nothing else has. -/
theorem isSome_hexDigit?_iff : (hexDigit? c).isSome ↔ IsHexDigit c := by
  unfold hexDigit? IsHexDigit
  rw [← isDigit_iff]
  split
  · simp [*]
  · split
    · simp [*]
    · split <;> simp [*]

theorem hexDigit?_lt {d : Nat} (h : hexDigit? c = some d) : d < 16 := by
  unfold hexDigit? at h
  split at h
  · have hlast : c.toNat ≤ 57 := (isDigit_iff.mp ‹_›).2
    cases h
    change c.toNat - 48 < 16
    omega
  · split at h
    · have hlast : c.toNat ≤ 102 := And.right ‹_›
      cases h
      change c.toNat - 97 + 10 < 16
      omega
    · split at h
      · have hlast : c.toNat ≤ 70 := And.right ‹_›
        cases h
        change c.toNat - 65 + 10 < 16
        omega
      · cases h

/-- A hexadecimal digit is written in one byte. -/
theorem IsHexDigit.utf8Size (h : IsHexDigit c) : c.utf8Size = 1 := by
  have hlast : c ≤ 'f' := by
    rcases h with h | h | h
    · exact Char.le_trans h.2 (by decide)
    · exact h.2
    · exact Char.le_trans h.2 (by decide)
  have hsize : c.val ≤ 0x7f := Char.le_trans hlast (by decide : 'f' ≤ '\x7f')
  exact if_pos hsize

end Digit

/-! ## Hexadecimal numbers -/

section Value
variable {ds text : List Char}

theorem isSome_hexValue?_iff (n : Nat) :
    (hexValue? n ds).isSome ↔ ∀ d ∈ ds, IsHexDigit d := by
  induction ds generalizing n with
  | nil => simp [hexValue?]
  | cons d ds ih =>
    rw [hexValue?, List.forall_mem_cons, ← isSome_hexDigit?_iff]
    cases hexDigit? d with
    | none => simp
    | some k => simp [ih]

/-- With each digit there are sixteen times as many numbers. -/
theorem hexValue?_lt {n v : Nat} (h : hexValue? n ds = some v) : v < (n + 1) * 16 ^ ds.length := by
  induction ds generalizing n with
  | nil =>
    cases h
    rw [List.length_nil, Nat.pow_zero, Nat.mul_one]
    exact Nat.lt_succ_self _
  | cons d ds ih =>
    rw [hexValue?] at h
    obtain ⟨k, hk, h⟩ := Option.bind_eq_some_iff.mp h
    have hnext : n * 16 + k + 1 ≤ (n + 1) * 16 := by
      have := hexDigit?_lt hk
      omega
    calc v < (n * 16 + k + 1) * 16 ^ ds.length := ih h
      _ ≤ (n + 1) * 16 * 16 ^ ds.length := Nat.mul_le_mul_right _ hnext
      _ = (n + 1) * 16 ^ (d :: ds).length := by
        rw [List.length_cons, Nat.pow_succ, Nat.mul_assoc, Nat.mul_comm 16]

/-- The number of some digits, if it has 16 bits. -/
def word? (ds : List Char) : Option UInt16 :=
  if ds.isEmpty then none
  else (hexValue? 0 ds).bind fun n => if n < UInt16.size then some n.toUInt16 else none

theorem readHex_plus (ds : List Char) : readHex ('+' :: ds) = word? ds := rfl

theorem readHex_of_no_plus (h : ∀ ds, text ≠ '+' :: ds) : readHex text = word? text := by
  unfold readHex
  split
  · exact absurd rfl (h _)
  · rfl

/-- Up to four digits always make a number of 16 bits. -/
theorem isSome_word?_iff (hlength : ds.length ≤ 4) : (word? ds).isSome ↔ IsHexNumber ds := by
  cases ds with
  | nil => exact iff_of_false nofun fun h => h.ne_nil rfl
  | cons d ds =>
    have hiff : IsHexNumber (d :: ds) ↔ (hexValue? 0 (d :: ds)).isSome :=
      ⟨fun h => (isSome_hexValue?_iff 0).mpr h.isHexDigit,
        fun h => ⟨List.cons_ne_nil d ds, (isSome_hexValue?_iff 0).mp h⟩⟩
    rw [hiff, word?, List.isEmpty_cons, if_neg Bool.false_ne_true]
    cases hvalue : hexValue? 0 (d :: ds) with
    | none => rfl
    | some v =>
      have hv : v < UInt16.size :=
        calc v < (0 + 1) * 16 ^ (d :: ds).length := hexValue?_lt hvalue
          _ ≤ 1 * 16 ^ 4 := Nat.mul_le_mul_left 1 (Nat.pow_le_pow_right (by decide) hlength)
      rw [Option.bind_some, if_pos hv]
      rfl

/-- **What is read as a number** of up to four characters. -/
theorem isSome_readHex_iff (hlength : text.length ≤ 4) :
    (readHex text).isSome ↔ IsHexNumber text ∨ ∃ ds, text = '+' :: ds ∧ IsHexNumber ds := by
  by_cases hsign : ∃ ds, text = '+' :: ds
  · obtain ⟨ds, rfl⟩ := hsign
    have hnone : ¬ IsHexNumber ('+' :: ds) := fun h =>
      absurd (h.isHexDigit '+' (.head _)) (by decide)
    rw [readHex_plus, isSome_word?_iff (Nat.le_trans (Nat.le_succ _) hlength)]
    simp [hnone]
  · rw [readHex_of_no_plus fun ds heq => hsign ⟨ds, heq⟩, isSome_word?_iff hlength]
    exact ⟨.inl, fun h => h.resolve_right fun ⟨ds, heq, _⟩ => hsign ⟨ds, heq⟩⟩

end Value

end UsbHost.Text
