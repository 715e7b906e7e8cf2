import UsbHost.Proofs.Json.Readers

/-! # A value that is kept

A value that is nested no deeper than a limit is split off as the tokens it was written with
(`Fits.takes_keep`), whatever encloses it and comes after it.

Passing over the parts of an array or object is passing over them one by one
(`Encloses.separated`), as long as each is allowed there; the first that is not is where
passing stops.
-/
namespace UsbHost.Json

/-- How passing goes on after a value: it has come to its end, or to what encloses the value. -/
def passedOn (limit : Option Nat) (inside passed rest : List Token) :
    Except Problem (List Token × List Token) :=
  if inside.isEmpty then .ok (passed.reverse, rest)
  else passValue limit inside .afterValue passed rest

open Classical in
/-- The tokens are passed over as a value at the place, or as one that ends there, if they
are allowed, and else they are refused. -/
def Judged (limit : Option Nat) (inside : List Token) (place : Place) (tokens : List Token)
    (allowed : Prop) : Prop :=
  ∀ passed rest, (passValue limit inside place passed (tokens ++ rest)).toOption =
    if allowed then (passedOn limit inside (tokens.reverse ++ passed) rest).toOption else none

/-- What `close` ends has its parts at the place `first` and, after commas, at the place `next`. -/
structure Encloses (close : Token) (first next : Place) : Prop where
  ends_first : ∀ limit inside passed rest,
    passValue limit (close :: inside) first passed (close :: rest) =
      passedOn limit inside (close :: passed) rest
  ends_after : ∀ limit inside passed rest,
    passValue limit (close :: inside) .afterValue passed (close :: rest) =
      passedOn limit inside (close :: passed) rest
  goes_on : ∀ limit inside passed rest,
    passValue limit (close :: inside) .afterValue passed (.comma :: rest) =
      passValue limit (close :: inside) next (.comma :: passed) rest

theorem encloses_array : Encloses .closeArray .firstItem .value where
  ends_first limit inside passed rest := by simp [passValue, passedOn]
  ends_after limit inside passed rest := by simp [passValue, passedOn]
  goes_on limit inside passed rest := by simp [passValue]

theorem encloses_object : Encloses .closeObject .firstName .name where
  ends_first limit inside passed rest := by simp [passValue, passedOn]
  ends_after limit inside passed rest := by simp [passValue, passedOn]
  goes_on limit inside passed rest := by simp [passValue]

section Parts

variable {α : Type} {limit : Option Nat} {inside : List Token} {close : Token} {first next : Place}
  {as : List α} {write : α → List Token} {allowed : α → Prop}

open Classical in
theorem Encloses.following (e : Encloses close first next)
    (hnext : ∀ a ∈ as, Judged limit (close :: inside) next (write a) (allowed a))
    (passed rest : List Token) :
    (passValue limit (close :: inside) .afterValue passed
        ((as.map write).flatMap (.comma :: ·) ++ close :: rest)).toOption =
      if ∀ a ∈ as, allowed a then
        (passedOn limit inside
          (close :: (((as.map write).flatMap (.comma :: ·)).reverse ++ passed)) rest).toOption
      else none := by
  induction as generalizing passed with
  | nil =>
    rw [if_pos (by simp)]
    exact congrArg Except.toOption (e.ends_after ..)
  | cons a as ih =>
    rw [List.map_cons, List.flatMap_cons, List.cons_append, List.cons_append, List.append_assoc,
      e.goes_on, hnext a List.mem_cons_self]
    by_cases ha : allowed a
    · have hrest := ih (fun b hb => hnext b (.tail _ hb)) ((write a).reverse ++ .comma :: passed)
      rw [if_pos ha]
      simpa [passedOn, ha] using hrest
    · rw [if_neg ha, if_neg fun h => ha (h a List.mem_cons_self)]

open Classical in
/-- Parts that are passed over one by one are passed over together. -/
theorem Encloses.separated (e : Encloses close first next)
    (hfirst : ∀ a ∈ as, Judged limit (close :: inside) first (write a) (allowed a))
    (hnext : ∀ a ∈ as, Judged limit (close :: inside) next (write a) (allowed a))
    (passed rest : List Token) :
    (passValue limit (close :: inside) first passed
        (separated (as.map write) ++ close :: rest)).toOption =
      if ∀ a ∈ as, allowed a then
        (passedOn limit inside
          (close :: ((Json.separated (as.map write)).reverse ++ passed)) rest).toOption
      else none := by
  cases as with
  | nil =>
    rw [if_pos (by simp)]
    exact congrArg Except.toOption (e.ends_first ..)
  | cons a as =>
    rw [List.map_cons, separated_cons, List.append_assoc, hfirst a List.mem_cons_self]
    by_cases ha : allowed a
    · have hrest := e.following (fun b hb => hnext b (.tail _ hb))
        ((write a).reverse ++ passed) rest
      rw [if_pos ha]
      simpa [passedOn, ha] using hrest
    · rw [if_neg ha, if_neg fun h => ha (h a List.mem_cons_self)]

end Parts

/-- **A value that fits is passed over where a value may stand.** -/
theorem Fits.judged {depth : Nat} {v : Json} (h : Fits depth v) {limit : Nat} {inside : List Token}
    (hdepth : depth + inside.length ≤ limit) {place : Place}
    (hplace : place = .value ∨ place = .firstItem) :
    Judged (some limit) inside place v.tokens True := by
  -- The depth of a value is shared out between it and what it stands in.
  induction h generalizing inside place with
  | null =>
    intro passed rest
    rcases hplace with rfl | rfl <;> simp [tokens, passValue, passedOn, Token.scalarProblem]
  | bool b =>
    intro passed rest
    rcases hplace with rfl | rfl <;> simp [tokens, passValue, passedOn, Token.scalarProblem]
  | number low high =>
    intro passed rest
    rcases hplace with rfl | rfl <;> simp [tokens, passValue, passedOn, Token.scalarProblem]
  | string s =>
    intro passed rest
    rcases hplace with rfl | rfl <;>
      simp [tokens, passValue, passedOn, literal, Token.scalarProblem, literalText_literal]
  | @array depth items _ ih =>
    intro passed rest
    have hinside : ¬ inside.length ≥ limit := by omega
    have hdeeper : depth + (Token.closeArray :: inside).length ≤ limit := by
      rw [List.length_cons]
      omega
    have hinner := encloses_array.separated (fun v hv => ih v hv hdeeper (.inr rfl))
      (fun v hv => ih v hv hdeeper (.inl rfl)) (.openArray :: passed) rest
    rcases hplace with rfl | rfl <;> simpa [tokens, passValue, hinside] using hinner
  | @object depth members _ ih =>
    intro passed rest
    have hinside : ¬ inside.length ≥ limit := by omega
    have hdeeper : depth + (Token.closeObject :: inside).length ≤ limit := by
      rw [List.length_cons]
      omega
    have hparts : ∀ place, place = .name ∨ place = .firstName → ∀ m ∈ members,
        Judged (some limit) (.closeObject :: inside) place (memberTokens m) True := by
      intro place hplace m hm passed rest
      have hvalue := ih m hm hdeeper (.inl rfl) (.colon :: literal m.1 :: passed) rest
      rcases hplace with rfl | rfl <;>
        simpa [memberTokens, passValue, literal, Token.scalarProblem, literalText_literal]
          using hvalue
    have hinner := encloses_object.separated (hparts _ (.inr rfl)) (hparts _ (.inl rfl))
      (.openObject :: passed) rest
    rcases hplace with rfl | rfl <;> simpa [tokens_object, passValue, hinside] using hinner

/-- **A value that fits is kept as its tokens.** -/
theorem Fits.takes_keep {depth : Nat} {v : Json} (h : Fits depth v) {limit : Nat}
    (hdepth : depth ≤ limit) : Reader.Takes (Reader.keep limit) v.tokens v.tokens := by
  have hjudged : Judged (some limit) [] .value v.tokens True := h.judged hdepth (.inl rfl)
  intro rest
  refine eq_ok_of_toOption ((hjudged [] rest).trans ?_)
  simp [passedOn, Except.toOption]

end UsbHost.Json
