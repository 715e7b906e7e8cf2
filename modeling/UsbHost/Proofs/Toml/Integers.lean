import UsbHost.Proofs.Text.Numbers
import UsbHost.Proofs.Toml.Reading

/-! # Integers are read as they were written

The decimal digits of a number, at the end of a line, are read as this number if it is
within the limits of TOML (`Document.value_toDigits`).  They are first tried as a date,
which they are not: no mark follows the digits of a year or of an hour.
-/
namespace UsbHost.Toml

namespace Scalar

open Reader

section Digits
variable {c mark : Char} {ds cs : List Char}

/-- Neither a digit nor the end of a line. -/
structure IsMark (c : Char) : Prop where
  digit : c.isDigit = false
  line : c ≠ '\n'

theorem head?_ne (hds : ∀ d ∈ ds, d.isDigit) (hmark : IsMark mark) (cs : List Char) :
    (ds ++ '\n' :: cs).head? ≠ some mark := by
  intro heq
  cases ds with
  | nil =>
    cases heq
    exact hmark.line rfl
  | cons d ds =>
    cases heq
    have hd := hds mark (.head _)
    rw [hmark.digit] at hd
    cases hd

theorem char_digits (hds : ∀ d ∈ ds, d.isDigit) (hmark : IsMark mark) (cs : List Char) :
    char mark (ds ++ '\n' :: cs) = none := char_eq_none (head?_ne hds hmark cs)

theorem optionalChar_digits (hds : ∀ d ∈ ds, d.isDigit) (hmark : IsMark mark) (cs : List Char) :
    optionalChar mark (ds ++ '\n' :: cs) = some (false, ds ++ '\n' :: cs) := by
  have hne := head?_ne hds hmark cs
  cases h : ds ++ '\n' :: cs with
  | nil => rfl
  | cons c more =>
    rw [h] at hne
    exact optionalChar_of_ne (fun heq => hne (congrArg some heq)) more

/-! ## No date -/

/-- Of some digits a field takes as many as it has to. -/
theorem field_digits (hds : ∀ d ∈ ds, d.isDigit) (count least most : Nat) (cs : List Char) :
    field count least most (ds ++ '\n' :: cs) = none ∨
      ∃ n, field count least most (ds ++ '\n' :: cs) = some (n, ds.drop count ++ '\n' :: cs) := by
  have htake :
      (List.replicate count ()).mapM (fun _ => one Char.isDigit) (ds ++ '\n' :: cs) = none ∨
      ∃ taken, (List.replicate count ()).mapM (fun _ => one Char.isDigit) (ds ++ '\n' :: cs) =
        some (taken, ds.drop count ++ '\n' :: cs) := by
    induction count generalizing ds with
    | zero => exact .inr ⟨[], rfl⟩
    | succ count ih =>
      rw [List.replicate_succ, List.mapM_cons, bind_apply]
      cases ds with
      | nil =>
        rw [List.nil_append, one_eq_none (by simp)]
        exact .inl rfl
      | cons d ds =>
        rw [List.cons_append, one_cons (hds d (.head _)), Option.bind_some, bind_apply]
        rcases ih fun d hd => hds d (.tail _ hd) with h | ⟨taken, h⟩
        · rw [h]
          exact .inl rfl
        · rw [h]
          exact .inr ⟨d :: taken, rfl⟩
  rw [field, bind_apply]
  rcases htake with h | ⟨taken, h⟩
  · rw [h]
    exact .inl rfl
  · rw [h, Option.bind_some]
    dsimp only
    split
    · exact .inr ⟨_, rfl⟩
    · exact .inl rfl

/-- Neither a year nor an hour has a mark after it. -/
theorem date_digits (hds : ∀ d ∈ ds, d.isDigit) (cs : List Char) :
    date (ds ++ '\n' :: cs) = none := by
  have hrest (count : Nat) : ∀ d ∈ ds.drop count, d.isDigit := fun d hd =>
    hds d (List.mem_of_mem_drop hd)
  have hday : day (ds ++ '\n' :: cs) = none := by
    rw [day, bind_apply]
    rcases field_digits hds 4 0 9999 cs with h | ⟨n, h⟩
    · rw [h]
      rfl
    · rw [h, Option.bind_some, bind_apply, char_digits (hrest 4) ⟨rfl, by decide⟩]
      rfl
  have htime : time (ds ++ '\n' :: cs) = none := by
    rw [time, bind_apply, discard_apply]
    rcases field_digits hds 2 0 23 cs with h | ⟨n, h⟩
    · rw [h]
      rfl
    · rw [h, Option.map_some, Option.bind_some, bind_apply,
        char_digits (hrest 2) ⟨rfl, by decide⟩]
      rfl
  have hboth : dayAndTime (ds ++ '\n' :: cs) = none := by
    rw [dayAndTime, bind_apply, hday]
    rfl
  rw [date, bind_apply, orElse_of_none hboth, htime]
  rfl

/-! ## The digits of a number -/

theorem hexDigit?_of_isDigit (h : c.isDigit) : Text.hexDigit? c = some (c.toNat - '0'.toNat) :=
  if_pos h

theorem valueOf_digits (hds : ∀ d ∈ ds, d.isDigit) : valueOf 10 ds = Nat.ofDigitChars 10 ds 0 := by
  have hfold (n : Nat) : ds.foldl (fun n d => n * 10 + (Text.hexDigit? d).getD 0) n =
      Nat.ofDigitChars 10 ds n := by
    induction ds generalizing n with
    | nil => rfl
    | cons d ds ih =>
      rw [List.foldl_cons, Nat.ofDigitChars_cons, hexDigit?_of_isDigit (hds d (.head _)),
        Nat.mul_comm n]
      exact ih (fun d hd => hds d (.tail _ hd)) _
  exact hfold 0

theorem moreDigits_append (hds : ∀ d ∈ ds, d.isDigit) (cs : List Char) :
    moreDigits Char.isDigit (ds ++ '\n' :: cs) = some (ds, '\n' :: cs) := by
  induction ds with
  | nil => rfl
  | cons d ds ih =>
    have hd := hds d (.head _)
    have hunderscore : d ≠ '_' := by
      rintro rfl
      exact absurd hd (by decide)
    rw [List.cons_append, moreDigits, if_pos hd, ih fun d hd => hds d (.tail _ hd)]
    · rfl
    · exact fun _ _ heq => absurd heq hunderscore
    · exact fun heq => absurd heq hunderscore

theorem whole_toDigits (n : Nat) (cs : List Char) :
    whole (Nat.toDigits 10 n ++ '\n' :: cs) = some (Nat.toDigits 10 n, '\n' :: cs) := by
  rcases Nat.eq_zero_or_pos n with rfl | hpos
  · rw [Nat.toDigits_of_lt_base (by decide), whole, bind_apply]
    rfl
  · have hds := Text.isDigit_toDigits n
    obtain ⟨d, ds, heq, hd⟩ := Text.exists_toDigits hpos
    rw [heq] at hds ⊢
    have hdigits : digits Char.isDigit (d :: (ds ++ '\n' :: cs)) =
        some (d :: ds, '\n' :: cs) := by
      rw [digits, bind_apply, one_cons (hds d (.head _)), Option.bind_some, bind_apply,
        moreDigits_append fun d hd => hds d (.tail _ hd)]
      rfl
    rw [List.cons_append, whole, bind_apply, optionalChar_of_ne hd, Option.bind_some]
    exact hdigits

theorem based_digits {mark : Char} (hds : ∀ d ∈ ds, d.isDigit) (hmark : IsMark mark)
    (base : Nat) (isDigit : Char → Bool) (cs : List Char) :
    based mark base isDigit (ds ++ '\n' :: cs) = none := by
  have hword : word ['0', mark] (ds ++ '\n' :: cs) = none := by
    cases ds with
    | nil => rfl
    | cons d ds =>
      rw [word, bind_apply, List.cons_append]
      by_cases hd : d = '0'
      · rw [hd, char_self, Option.bind_some, word, bind_apply,
          char_digits (fun d hd => hds d (.tail _ hd)) hmark]
        rfl
      · rw [char_eq_none (by simpa using hd)]
        rfl
  rw [based, bind_apply, hword]
  rfl

/-- The limits are those of 64 bits. -/
theorem decimal_toDigits {n : Nat} (h : n ≤ greatestInteger) (cs : List Char) :
    decimal false (Nat.toDigits 10 n ++ '\n' :: cs) = some (.integer n, '\n' :: cs) := by
  have hvalue : valueOf 10 (Nat.toDigits 10 n) = n := by
    rw [valueOf_digits (Text.isDigit_toDigits n), Nat.ofDigitChars_toDigits (by decide) (by decide)]
  have hlimits : leastInteger ≤ (n : Int) ∧ (n : Int) ≤ greatestInteger := by
    unfold leastInteger
    omega
  rw [decimal, bind_apply, whole_toDigits, Option.bind_some]
  show (integer (valueOf 10 (Nat.toDigits 10 n)) : Reader Value) ('\n' :: cs) = _
  rw [hvalue, integer, if_pos hlimits]
  rfl

theorem number_toDigits {n : Nat} (h : n ≤ greatestInteger) (cs : List Char) :
    number (Nat.toDigits 10 n ++ '\n' :: cs) = some (.integer n, '\n' :: cs) := by
  have hds := Text.isDigit_toDigits n
  have hsign : sign (Nat.toDigits 10 n ++ '\n' :: cs) =
      some (none, Nat.toDigits 10 n ++ '\n' :: cs) := by
    rw [sign, bind_apply, optionalChar_digits hds ⟨rfl, by decide⟩, Option.bind_some]
    show (do if ← optionalChar '+' then return some false
             return none : Reader (Option Bool)) _ = _
    rw [bind_apply, optionalChar_digits hds ⟨rfl, by decide⟩]
    rfl
  have hplain : (based 'x' 16 isHexDigit <|> based 'o' 8 isOctalDigit <|> based 'b' 2 isBinaryDigit
      <|> decimal false : Reader Value) (Nat.toDigits 10 n ++ '\n' :: cs) =
      some (.integer n, '\n' :: cs) := by
    rw [orElse_of_none (based_digits hds ⟨rfl, by decide⟩ ..),
      orElse_of_none (based_digits hds ⟨rfl, by decide⟩ ..),
      orElse_of_none (based_digits hds ⟨rfl, by decide⟩ ..)]
    exact decimal_toDigits h cs
  have hne (mark : Char) (hmark : IsMark mark) := head?_ne hds hmark cs
  have hi := hne 'i' ⟨rfl, by decide⟩
  have hn := hne 'n' ⟨rfl, by decide⟩
  rw [number, bind_apply, hsign, Option.bind_some, bind_apply, peek_apply, Option.bind_some]
  dsimp only
  generalize (Nat.toDigits 10 n ++ '\n' :: cs).head? = next at hi hn ⊢
  split
  · exact absurd rfl hi
  · exact absurd rfl hn
  · exact hplain

end Digits

end Scalar

namespace Document

open Reader Scalar

/-- **The digits of a number are read as this number**, up to the greatest integer. -/
theorem value_toDigits (depth : Nat) {n : Nat} (h : n ≤ greatestInteger) (cs : List Char) :
    value depth (Nat.toDigits 10 n ++ '\n' :: cs) = some (.integer n, '\n' :: cs) := by
  have hds := Text.isDigit_toDigits n
  have hdate := date_digits hds cs
  have hne (mark : Char) (hmark : IsMark mark) := head?_ne hds hmark cs
  have hdouble := hne '"' ⟨rfl, by decide⟩
  have hsingle := hne '\'' ⟨rfl, by decide⟩
  have hbracket := hne '[' ⟨rfl, by decide⟩
  have hbrace := hne '\x7b' ⟨rfl, by decide⟩
  have htrue := hne 't' ⟨rfl, by decide⟩
  have hfalse := hne 'f' ⟨rfl, by decide⟩
  rw [value, bind_apply, peek_apply, Option.bind_some]
  dsimp only
  generalize (Nat.toDigits 10 n ++ '\n' :: cs).head? = next at *
  split
  · exact absurd rfl hdouble
  · exact absurd rfl hsingle
  · exact absurd rfl hbracket
  · exact absurd rfl hbrace
  · exact absurd rfl htrue
  · exact absurd rfl hfalse
  · rw [orElse_of_none hdate]
    exact number_toDigits h cs

end Document

end UsbHost.Toml
