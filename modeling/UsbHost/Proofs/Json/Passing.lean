import Mathlib.Logic.Basic
import UsbHost.Proofs.Json.Keeping
import UsbHost.Proofs.Json.Written

/-! # Which values are passed over

A value that is only skipped may be any (`WellFormed.takes_skip`).  One that is kept has to
be admissible for the limit, and is refused otherwise whatever comes after it
(`WellFormed.judged`).
-/
namespace UsbHost.Json

open Written (WellFormed Admissible memberTokens)

/-! ## What is allowed -/

/-- The value may be passed over inside such brackets. -/
def Written.Allowed (n : Written) (limit : Option Nat) (inside : List Token) : Prop :=
  ∀ l ∈ limit, Admissible (l - inside.length) n

section Allowed
variable {limit : Option Nat} {inside : List Token}

theorem allowed_scalar_iff {t : Token} :
    (Written.scalar t).Allowed limit inside ↔ (limit.isSome → t.Valid) := by
  cases limit <;> simp [Written.Allowed, Written.admissible_scalar_iff]

theorem allowed_array_iff {items : List Written} (close : Token) :
    (Written.array items).Allowed limit inside ↔
      limit.any (inside.length ≥ ·) = false ∧
        ∀ n ∈ items, n.Allowed limit (close :: inside) := by
  cases limit with
  | none => simp [Written.Allowed]
  | some n =>
    simp only [Written.Allowed, Option.mem_def, Option.some.injEq, Written.admissible_array_iff,
      Nat.sub_pos_iff_lt, Nat.sub_sub, forall_eq', ge_iff_le, Option.any_some,
      decide_eq_false_iff_not, Nat.not_le, List.length_cons]

theorem allowed_object_iff {members : List (List Piece × Written)} (close : Token) :
    (Written.object members).Allowed limit inside ↔
      limit.any (inside.length ≥ ·) = false ∧ ∀ m ∈ members,
        (limit.isSome → (textOf? m.1).isSome) ∧ m.2.Allowed limit (close :: inside) := by
  cases limit with
  | none => simp [Written.Allowed]
  | some n =>
    simp only [Written.Allowed, Option.mem_def, Option.some.injEq, Written.admissible_object_iff,
      Nat.sub_pos_iff_lt, Nat.sub_sub, Prod.forall, forall_eq', ge_iff_le, Option.any_some,
      decide_eq_false_iff_not, Nat.not_le, Option.isSome_some, forall_const, List.length_cons]

end Allowed

/-! ## Passing over a value -/

/-- Strict reading asks of a scalar that it is valid, and any other reading asks nothing. -/
theorem Token.Scalar.scalarProblem_eq_none_iff {t : Token} (h : t.Scalar) (strict : Bool) :
    t.scalarProblem strict = none ↔ (strict → t.Valid) := by
  cases h with
  | null => simp [Token.scalarProblem, Token.Valid]
  | bool b => simp [Token.scalarProblem, Token.Valid]
  | number n =>
    cases n with
    | integer n => simp [Token.scalarProblem, Token.Valid]
    | real fits => cases fits <;> simp [Token.scalarProblem, Token.Valid]
  | @string pieces hpieces =>
    cases strict with
    | false =>
      refine iff_of_true ?_ fun h => absurd h Bool.false_ne_true
      rw [Token.scalarProblem, if_neg Bool.false_ne_true]
      refine if_neg fun hany => ?_
      obtain ⟨p, hp, hcontrol⟩ := List.any_eq_true.mp hany
      cases p with
      | control c => exact hpieces c hp
      | char | surrogate => cases hcontrol
    | true =>
      simp only [Token.scalarProblem, Token.Valid, textOf?, if_true]
      cases literalText pieces .closed <;> simp [Except.toOption]

theorem passValue_scalar {t : Token} (h : t.Scalar) {place : Place}
    (hplace : place = .value ∨ place = .firstItem) (limit : Option Nat)
    (inside passed rest : List Token) :
    passValue limit inside place passed (t :: rest) =
      match t.scalarProblem limit.isSome with
      | some problem => .error problem
      | none => passedOn limit inside (t :: passed) rest := by
  rcases hplace with rfl | rfl <;> cases h <;> rfl

/-- The name of a member and its colon are passed over, and then its value. -/
theorem passValue_name {pieces : List Piece} (h : NoControl pieces) {place : Place}
    (hplace : place = .name ∨ place = .firstName) (limit : Option Nat)
    (inside passed rest : List Token) :
    (passValue limit inside place passed (.string pieces .closed :: .colon :: rest)).toOption =
      if limit.isSome → (textOf? pieces).isSome then
        (passValue limit inside .value (.colon :: .string pieces .closed :: passed) rest).toOption
      else none := by
  have hproblem : (Token.string pieces .closed).scalarProblem limit.isSome = none ↔
      (limit.isSome → (textOf? pieces).isSome) :=
    (Token.Scalar.string h).scalarProblem_eq_none_iff limit.isSome
  cases heq : (Token.string pieces .closed).scalarProblem limit.isSome with
  | some problem =>
    rw [heq] at hproblem
    rw [if_neg (mt hproblem.mpr nofun)]
    rcases hplace with rfl | rfl <;> simp [passValue, heq, Except.toOption]
  | none =>
    rw [if_pos (hproblem.mp heq)]
    rcases hplace with rfl | rfl <;> simp [passValue, heq]

open Classical in
/-- **A well-formed value is passed over if it is allowed, and refused if not.** -/
theorem Written.WellFormed.judged {n : Written} (h : n.WellFormed) (limit : Option Nat)
    (inside : List Token) {place : Place} (hplace : place = .value ∨ place = .firstItem) :
    Judged limit inside place n.tokens (n.Allowed limit inside) := by
  induction h generalizing inside place with
  | @scalar t h =>
    intro passed rest
    have hproblem := h.scalarProblem_eq_none_iff limit.isSome
    rw [Written.tokens_scalar, List.singleton_append, passValue_scalar h hplace]
    cases heq : t.scalarProblem limit.isSome with
    | some problem =>
      rw [heq] at hproblem
      rw [if_neg fun hallowed =>
        Option.some_ne_none problem (hproblem.mpr (allowed_scalar_iff.mp hallowed))]
      rfl
    | none =>
      rw [if_pos (allowed_scalar_iff.mpr (hproblem.mp heq))]
      rfl
  | @array items _ ih =>
    intro passed rest
    -- Opening the array checks the depth, and the items are judged one level deeper.
    have hparts := encloses_array.separated (fun n hn => ih n hn (.closeArray :: inside) (.inr rfl))
      (fun n hn => ih n hn (.closeArray :: inside) (.inl rfl)) (.openArray :: passed) rest
    have hopen (more : List Token) : passValue limit inside place passed (.openArray :: more) =
        if limit.any (inside.length ≥ ·) then .error .malformed
        else passValue limit (.closeArray :: inside) .firstItem (.openArray :: passed) more := by
      rcases hplace with rfl | rfl <;> rfl
    rw [Written.tokens_array, List.cons_append, hopen, List.append_assoc]
    simp only [allowed_array_iff .closeArray]
    cases hinside : limit.any (inside.length ≥ ·) with
    | true =>
      rw [if_pos rfl, if_neg fun h => nomatch h.1]
      rfl
    | false =>
      rw [if_neg Bool.false_ne_true]
      simpa using hparts
  | @object members names _ ih =>
    intro passed rest
    -- A member is judged by its name, and then by its value one level deeper.
    have hmembers (place : Place) (hplace : place = .name ∨ place = .firstName) :
        ∀ m ∈ members, Judged limit (.closeObject :: inside) place (memberTokens m)
          ((limit.isSome → (textOf? m.1).isSome) ∧ m.2.Allowed limit (.closeObject :: inside)) := by
      intro m hm passed rest
      have hname := passValue_name (names m hm) hplace limit (.closeObject :: inside) passed
        (m.2.tokens ++ rest)
      rw [ih m hm (.closeObject :: inside) (.inl rfl)] at hname
      simpa [memberTokens, ite_and] using hname
    have hparts := encloses_object.separated (hmembers _ (.inr rfl)) (hmembers _ (.inl rfl))
      (.openObject :: passed) rest
    have hopen (more : List Token) : passValue limit inside place passed (.openObject :: more) =
        if limit.any (inside.length ≥ ·) then .error .malformed
        else passValue limit (.closeObject :: inside) .firstName (.openObject :: passed) more := by
      rcases hplace with rfl | rfl <;> rfl
    rw [Written.tokens_object, List.cons_append, hopen, List.append_assoc]
    simp only [allowed_object_iff .closeObject]
    cases hinside : limit.any (inside.length ≥ ·) with
    | true =>
      rw [if_pos rfl, if_neg fun h => nomatch h.1]
      rfl
    | false =>
      rw [if_neg Bool.false_ne_true]
      simpa using hparts

end UsbHost.Json
