import UsbHost.Proofs.Json.Passing

/-! # What is read of a value

Whether a reader takes a value, and what it makes of it, does not depend on what comes
after the value (`Schema.decides`).  So the value of a tree is what is read of its tokens
alone (`Schema.value?`).  A tree is read part by part: a list by its items
(`Schema.value?_list`), and a record by what its members do to a draft, one after the
other (`Schema.value?_record`), or by its values in order (`Schema.value?_positional`).
-/
namespace UsbHost.Json

open Reader (Takes Decides Decided Opens)
open Written (WellFormed Admissible)

/-! ## Any value -/

section Any
variable {n : Written}

theorem Written.WellFormed.opens (h : n.WellFormed) : Opens n.tokens := by
  cases h with
  | scalar h =>
    rw [Written.tokens_scalar]
    exact ⟨_, [], rfl, by constructor <;> (rintro rfl; cases h)⟩
  | array => rw [Written.tokens_array]; exact ⟨_, _, rfl, nofun, nofun⟩
  | object => rw [Written.tokens_object]; exact ⟨_, _, rfl, nofun, nofun⟩

/-- **Any value can be skipped.** -/
theorem Written.WellFormed.takes_skip (h : n.WellFormed) : Takes Reader.skip n.tokens () := by
  intro rest
  have hjudged := h.judged none [] (.inl rfl) [] rest
  rw [if_pos (by simp [Written.Allowed])] at hjudged
  have hpass := eq_ok_of_toOption (hjudged.trans rfl)
  change (passValue none [] .value [] (n.tokens ++ rest) >>= fun p => _) = _
  rw [hpass]
  rfl

open Classical in
/-- **A value is kept, as its tokens, if it is admissible.** -/
theorem Written.WellFormed.decides_keep (h : n.WellFormed) (limit : Nat) :
    Decides (Reader.keep limit) n.tokens (if Admissible limit n then some n.tokens else none) := by
  intro rest
  have hjudged := h.judged (some limit) [] (.inl rfl) [] rest
  have hallowed : n.Allowed (some limit) [] ↔ Admissible limit n := by simp [Written.Allowed]
  simp only [hallowed] at hjudged
  change (passValue (some limit) [] .value [] (n.tokens ++ rest)).toOption = _
  rw [hjudged]
  split
  · simp [passedOn, Except.toOption]
  · rfl

end Any

namespace Reader

/-! ## Members -/

section Members
variable {σ : Type} {member : String → σ → Reader σ} {effect : String → Written → σ → Option σ}
  {ms : List (List Piece × Written)}

/-- What a member does to the state, if its name is a text. -/
def enter (effect : String → Written → σ → Option σ) (s : σ) (m : List Piece × Written) :
    Option σ :=
  (textOf? m.1).bind fun name => effect name m.2 s

theorem foldlM_enter_cons (m : List Piece × Written) (s : σ) :
    (m :: ms).foldlM (enter effect) s = (textOf? m.1).bind fun name =>
      (effect name m.2 s).bind fun s' => ms.foldlM (enter effect) s' := by
  rw [List.foldlM_cons, enter]
  exact Option.bind_assoc ..

theorem decides_firstName (pieces : List Piece) :
    Decides (anotherName true) [.string pieces .closed] ((textOf? pieces).map some) := by
  intro rest
  change (literalText pieces .closed >>= fun s => Except.ok (some s, rest)).toOption = _
  rw [toOption_bind, textOf?]
  cases literalText pieces .closed <;> rfl

theorem decides_nextName (pieces : List Piece) :
    Decides (anotherName false) [.comma, .string pieces .closed] ((textOf? pieces).map some) := by
  intro rest
  change (literalText pieces .closed >>= fun s => Except.ok (some s, rest)).toOption = _
  rw [toOption_bind, textOf?]
  cases literalText pieces .closed <;> rfl

/-- A member is read if its name is a text. -/
theorem Decides.named {first : Bool} {pieces : List Piece} {tokens tokens' : List Token}
    (hname : Decides (anotherName first) tokens ((textOf? pieces).map some))
    {g : Option String → Reader σ} {o : String → Option σ}
    (h : ∀ name, Decides (g (some name)) tokens' (o name)) :
    Decides (anotherName first >>= g) (tokens ++ tokens') ((textOf? pieces).bind o) := by
  have hread : Decides (anotherName first >>= g) (tokens ++ tokens')
      (((textOf? pieces).map some).bind fun name => name.bind o) := by
    refine hname.bind fun name heq => ?_
    obtain ⟨name, -, rfl⟩ := Option.map_eq_some_iff.mp heq
    exact h name
  rwa [Option.bind_map] at hread

/-- The members of an object after those that have been read. -/
theorem decides_members_following
    (h : ∀ m ∈ ms, ∀ name s, Decides (member name s) (.colon :: m.2.tokens) (effect name m.2 s))
    (s : σ) {fuel : Nat} (hfuel : ms.length < fuel) :
    Decides (members member fuel false s)
      ((ms.map Written.memberTokens).flatMap (.comma :: ·) ++ [.closeObject])
      (ms.foldlM (enter effect) s) := by
  induction ms generalizing s fuel with
  | nil =>
    obtain ⟨fuel, rfl⟩ := Nat.exists_eq_succ_of_ne_zero (Nat.ne_zero_of_lt hfuel)
    rw [members]
    exact ((takes_lastName false).bind_nil (.pure s)).decides
  | cons m ms ih =>
    obtain ⟨fuel, rfl⟩ := Nat.exists_eq_succ_of_ne_zero (Nat.ne_zero_of_lt hfuel)
    have following (s : σ) := ih (fun m hm => h m (.tail _ hm)) s (Nat.lt_of_succ_lt_succ hfuel)
    rw [members, List.map_cons, List.flatMap_cons, Written.memberTokens, List.append_assoc,
      foldlM_enter_cons]
    exact (decides_nextName m.1).named fun name =>
      (h m (.head _) name s).bind fun s' _ => following s'

/-- An object is decided about member by member. -/
theorem decides_members
    (h : ∀ m ∈ ms, ∀ name s, Decides (member name s) (.colon :: m.2.tokens) (effect name m.2 s))
    (s : σ) {fuel : Nat}
    (hfuel : (separated (ms.map Written.memberTokens) ++ [Token.closeObject]).length < fuel) :
    Decides (members member fuel true s)
      (separated (ms.map Written.memberTokens) ++ [.closeObject]) (ms.foldlM (enter effect) s) := by
  have hlength := length_le_separated (ms.map Written.memberTokens) .closeObject
  rw [List.length_map] at hlength
  replace hfuel := Nat.lt_of_le_of_lt hlength hfuel
  obtain ⟨fuel, rfl⟩ := Nat.exists_eq_succ_of_ne_zero (Nat.ne_zero_of_lt hfuel)
  rw [members]
  cases ms with
  | nil => exact ((takes_lastName true).bind_nil (.pure s)).decides
  | cons m ms =>
    rw [List.map_cons, separated_cons, Written.memberTokens, List.append_assoc, foldlM_enter_cons]
    exact (decides_firstName m.1).named fun name => (h m (.head _) name s).bind fun s' _ =>
      decides_members_following (fun m hm => h m (.tail _ hm)) s' (Nat.lt_of_succ_lt_succ hfuel)

end Members

/-! ## Scalars -/

section Scalars
variable {α : Type} {n : Written}

/-- A reader of single tokens, which takes no bracket. -/
theorem decided_scalar {meaning : Token → Option α} (harray : meaning .openArray = none)
    (hobject : meaning .openObject = none) (n : Written) : Decided (scalar meaning) n.tokens := by
  have hfirst (t : Token) (ts : List Token) (h : meaning t = none ∨ ts = []) :
      Decided (scalar meaning) (t :: ts) := by
    refine decided_token_bind ?_
    cases hmeaning : meaning t with
    | none => exact decided_throw _ _
    | some a =>
      obtain rfl := h.resolve_left (by simp [hmeaning])
      exact decided_pure a
  cases n with
  | scalar t => rw [Written.tokens_scalar]; exact hfirst t [] (.inr rfl)
  | array => rw [Written.tokens_array]; exact hfirst _ _ (.inl harray)
  | object => rw [Written.tokens_object]; exact hfirst _ _ (.inl hobject)

theorem decided_text (n : Written) : Decided text n.tokens := by
  cases n with
  | scalar t =>
    rw [Written.tokens_scalar]
    refine decided_token_bind ?_
    cases t with
    | string pieces ending => exact (Decides.lift _).decided
    | _ => exact decided_throw _ _
  | array => rw [Written.tokens_array]; exact decided_token_bind (decided_throw _ _)
  | object => rw [Written.tokens_object]; exact decided_token_bind (decided_throw _ _)

theorem decides_unit_none {kept : Bool} {t : Token} {ts : List Token}
    (h : ∀ rest, Reader.unit kept (t :: ts ++ rest) = .error t.refusal) :
    Decided (Reader.unit kept) (t :: ts) :=
  Decides.decided (o := none) fun rest => by rw [h]; rfl

theorem decided_unit (kept : Bool) (h : n.WellFormed) : Decided (Reader.unit kept) n.tokens := by
  cases h with
  | scalar h =>
    rw [Written.tokens_scalar]
    cases h with
    | null => exact Takes.decides (a := ()) (fun _ => rfl) |>.decided
    | _ => exact decides_unit_none fun _ => rfl
  | array => rw [Written.tokens_array]; exact decides_unit_none fun _ => rfl
  | @object ms =>
    rw [Written.tokens_object]
    cases ms with
    | cons m ms =>
      rw [List.map_cons, separated_cons]
      exact decides_unit_none fun _ => rfl
    | nil =>
      -- The empty object stands for `null` in a value that was kept.
      cases kept with
      | true => exact Takes.decides (a := ()) (fun _ => rfl) |>.decided
      | false => exact decides_unit_none fun _ => rfl

theorem decided_literal (pieces : List Piece) : Decided text [.string pieces .closed] :=
  decided_token_bind (Decides.lift _).decided

/-- A choice is a name, or an object of a single member. -/
theorem decided_choice (kept : Bool) (names : List String) (h : n.WellFormed) :
    Decided (choice kept names) n.tokens := by
  cases h with
  | @scalar t =>
    rw [Written.tokens_scalar]
    refine decided_token_bind ?_
    cases t with
    | string pieces ending =>
      exact (Decides.lift (literalText pieces ending)).decided.bind_nil fun name =>
        (Decides.lift (choiceName names name)).decided
    | openObject => cases ‹Token.Scalar _›
    | _ => exact decided_throw _ _
  | array => rw [Written.tokens_array]; exact decided_token_bind (decided_throw _ _)
  | @object ms _ hms =>
    rw [Written.tokens_object]
    refine decided_token_bind ?_
    cases ms with
    | nil => exact Decides.decided (o := none) fun _ => rfl
    | cons m ms =>
      have hend (name : Fin names.length) : Decided (exactly .closeObject >>= fun _ => pure name)
          ((ms.map Written.memberTokens).flatMap (.comma :: ·) ++ [.closeObject]) := by
        cases ms with
        | nil => exact ((takes_exactly .closeObject).bind_nil (.pure name)).decides.decided
        | cons m' ms => exact Decides.decided (o := none) fun _ => rfl
      have hvalue (name : Fin names.length) :
          Decided (exactly .colon >>= fun _ => Reader.unit kept >>= fun _ =>
              exactly .closeObject >>= fun _ => pure name)
            (.colon :: (m.2.tokens ++
              ((ms.map Written.memberTokens).flatMap (.comma :: ·) ++ [.closeObject]))) :=
        (takes_exactly .colon).decides.decided.bind fun _ =>
          (decided_unit kept (hms m (.head _))).bind fun _ => hend name
      rw [List.map_cons, separated_cons, Written.memberTokens, List.append_assoc]
      exact (decided_literal m.1).bind fun name =>
        (Decides.lift (choiceName names name)).decided.bind hvalue

end Scalars

/-! ## Lists -/

section Lists
variable {α : Type} {n : Written}

theorem Decided.congr {x y : Reader α} {tokens : List Token}
    (h : ∀ rest, x (tokens ++ rest) = y (tokens ++ rest)) (hy : Decided y tokens) :
    Decided x tokens :=
  Decides.decided fun rest => h rest ▸ hy rest

/-- What is no array is no list. -/
theorem decided_list {item : Reader α} (h : ∀ n : Written, n.WellFormed → Decided item n.tokens)
    (hn : n.WellFormed) : Decided (list item) n.tokens := by
  cases hn with
  | scalar hscalar =>
    rw [Written.tokens_scalar]
    refine decided_token_bind ?_
    cases hscalar <;> exact decided_throw _ _
  | array hns =>
    rw [Written.tokens_array]
    exact (decides_list (fun n hn => (hns n hn).opens) fun n hn => h n (hns n hn)).decided
  | object =>
    rw [Written.tokens_object]
    exact decided_token_bind (decided_throw _ _)

theorem decided_bytes (textual : Bool) (hn : n.WellFormed) :
    Decided (bytes textual) n.tokens := by
  have hlist : Decided (list (UInt8.ofBitVec <$> word 8)) n.tokens :=
    decided_list (fun n _ => (decided_scalar rfl rfl n).map _) hn
  cases textual with
  | false => exact .congr (fun _ => rfl) hlist
  | true =>
    cases hn with
    | scalar hscalar =>
      rw [Written.tokens_scalar] at hlist ⊢
      cases hscalar with
      | @string pieces _ =>
        refine Decides.decided (o := (literalBytes pieces .closed).toOption) fun rest => ?_
        change (literalBytes pieces .closed >>= fun bytes => Except.ok (bytes, rest)).toOption = _
        rw [toOption_bind]
        cases literalBytes pieces .closed <;> rfl
      | _ => exact .congr (fun _ => rfl) hlist
    | array =>
      rw [Written.tokens_array] at hlist ⊢
      exact .congr (fun _ => rfl) hlist
    | object =>
      rw [Written.tokens_object] at hlist ⊢
      exact .congr (fun _ => rfl) hlist

end Lists

end Reader

/-! ## Schemas -/

/-- The value that is read of a tree, if it is accepted. -/
def Schema.value? (kept : Bool) (s : Schema) (n : Written) : Option s.Carrier :=
  Reader.result? (s.read kept) n.tokens

/-- What a member of a record does to the draft: its value is entered if its name is known
and new, and it changes nothing if its name is unknown. -/
def Fields.enter? (kept : Bool) : (fs : Fields) → String → Written → fs.Draft → Option fs.Draft
  | .nil, _, _, d => some d
  | .cons known _ s rest, name, n, (v, vs) =>
    if name = known then
      if v.isSome then none else (s.value? kept n).map fun w => (some w, vs)
    else (rest.enter? kept name n vs).map (v, ·)

/-- The record whose members have the values of an array, in order; at its end the members to
come are missing. -/
def Fields.items? (kept : Bool) : (fs : Fields) → List Written → Option fs.Carrier
  | .nil, [] => some ()
  | .nil, _ :: _ => none
  | .cons _ presence s rest, [] =>
    (presence.fallback? s).bind fun v => (rest.items? kept []).map (v, ·)
  | .cons _ _ s rest, n :: ns =>
    (s.value? kept n).bind fun v => (rest.items? kept ns).map (v, ·)

/-- The tokens of items, at the beginning of an array or after others. -/
def itemTokens (first : Bool) (ns : List Written) : List Token :=
  (if first then separated (ns.map Written.tokens)
    else (ns.map Written.tokens).flatMap (.comma :: ·)) ++ [.closeArray]

theorem itemTokens_true_cons (n : Written) (ns : List Written) :
    itemTokens true (n :: ns) = n.tokens ++ itemTokens false ns := by
  simp [itemTokens, separated_cons]

theorem itemTokens_false_cons (n : Written) (ns : List Written) :
    itemTokens false (n :: ns) = .comma :: (n.tokens ++ itemTokens false ns) := by
  simp [itemTokens]

/-- Where an item comes, the array does not end. -/
theorem decides_exactly_cons {n : Written} (hn : n.WellFormed) (first : Bool)
    (ns : List Written) :
    Decides (Reader.exactly .closeArray) (itemTokens first (n :: ns)) none := by
  have hother {t : Token} {ts : List Token} (ht : t ≠ .closeArray) :
      Decides (Reader.exactly .closeArray) (t :: ts) none := fun rest => by
    rw [List.cons_append, Reader.exactly, if_neg ht]
    rfl
  cases first with
  | false =>
    rw [itemTokens_false_cons]
    exact hother (by decide)
  | true =>
    obtain ⟨t, ts, hts, -, ht⟩ := hn.opens
    rw [itemTokens_true_cons, hts]
    exact hother ht

theorem decides_another {β : Type} {g : Bool → Reader β} {first : Bool} {n : Written}
    {ns : List Written} {o : Option β} (hn : n.WellFormed)
    (h : Decides (g true) (n.tokens ++ itemTokens false ns) o) :
    Decides (Reader.anotherItem first >>= g) (itemTokens first (n :: ns)) o := by
  cases first with
  | true =>
    rw [itemTokens_true_cons]
    exact .firstItem (hn.opens.append _) h
  | false =>
    rw [itemTokens_false_cons]
    exact .nextItem (hn.opens.append _) h

theorem itemTokens_nil (first : Bool) : itemTokens first [] = [.closeArray] := by
  cases first <;> rfl

section Schemas
variable {kept : Bool} {n : Written}

theorem Schema.decides_record {fs : Fields} {ms : List (List Piece × Written)}
    (h : ∀ m ∈ ms, ∀ name d,
      Decides (fs.readMember kept name d) (.colon :: m.2.tokens) (fs.enter? kept name m.2 d)) :
    Decides ((Schema.record fs).read kept) (Written.object ms).tokens
      ((ms.foldlM (Reader.enter (fs.enter? kept)) fs.blank).bind fs.complete?) := by
  rw [Written.tokens_object, Schema.read]
  refine (Reader.takes_token .openObject).bind_decides (.enough fun fuel hfuel =>
    (Reader.decides_members h fs.blank hfuel).bind_nil fun d _ => ?_)
  cases fs.complete? d with
  | none => exact Reader.decides_throw _ _
  | some record => exact (Takes.pure record).decides

theorem Schema.decides_positional {fs : Fields} {ns : List Written}
    (h : ∀ first, Decides (fs.readItems kept first false) (itemTokens first ns)
      (fs.items? kept ns)) :
    Decides ((Schema.record fs).read kept) (Written.array ns).tokens (fs.items? kept ns) := by
  rw [Written.tokens_array, Schema.read]
  exact (Reader.takes_token .openArray).bind_decides (h true)

mutual
/-- **Whether a value is accepted, and as what, depends on nothing after it.** -/
theorem Schema.decided (kept : Bool) :
    (s : Schema) → {n : Written} → n.WellFormed → Decided (s.read kept) n.tokens
  | .unit, _, hn => by
    rw [Schema.read]
    exact Reader.decided_unit kept hn
  | .flag, n, _ => by
    rw [Schema.read]
    exact Reader.decided_scalar rfl rfl n
  | .word _, n, _ => by
    rw [Schema.read]
    exact Reader.decided_scalar rfl rfl n
  | .int32, n, _ => by
    rw [Schema.read]
    exact Reader.decided_scalar rfl rfl n
  | .text, n, _ => by
    rw [Schema.read]
    exact Reader.decided_text n
  | .bytes textual, _, hn => by
    rw [Schema.read]
    exact Reader.decided_bytes textual hn
  | .choice names, _, hn => by
    rw [Schema.read]
    exact Reader.decided_choice kept names hn
  | .optional s, n, hn => by
    have hsome := (Schema.decided kept s hn).map some
    rw [Schema.read]
    cases hn with
    | scalar h =>
      rw [Written.tokens_scalar] at hsome ⊢
      cases h with
      | null => exact Takes.decides (a := none) (fun _ => rfl) |>.decided
      | _ => exact .congr (fun _ => rfl) hsome
    | array =>
      rw [Written.tokens_array] at hsome ⊢
      exact .congr (fun _ => rfl) hsome
    | object =>
      rw [Written.tokens_object] at hsome ⊢
      exact .congr (fun _ => rfl) hsome
  | .list s, _, hn => by
    rw [Schema.read]
    exact Reader.decided_list (fun _ h => Schema.decided kept s h) hn
  | .record fs, n, hn => by
    cases hn with
    | scalar h =>
      rw [Schema.read, Written.tokens_scalar]
      refine Reader.decided_token_bind ?_
      cases h <;> exact Reader.decided_throw _ _
    | array hns =>
      exact (Schema.decides_positional (Fields.decides_readItems kept fs hns).1).decided
    | object _ hms =>
      exact (Schema.decides_record fun m hm name d =>
        Fields.decides_readMember kept fs name d (hms m hm)).decided

theorem Fields.decides_readMember (kept : Bool) :
    (fs : Fields) → (name : String) → (d : fs.Draft) → {n : Written} → n.WellFormed →
      Decides (fs.readMember kept name d) (.colon :: n.tokens) (fs.enter? kept name n d)
  | .nil, _, _, n, hn => by
    rw [Fields.readMember]
    exact ((Reader.takes_exactly .colon).bind hn.takes_skip).decides
  | .cons known _ s rest, name, (v, vs), n, hn => by
    rw [Fields.readMember, Fields.enter?]
    split
    · split
      · exact Reader.decides_throw _ _
      · have hvalue : Decides (s.read kept >>= fun w => pure (some w, vs)) n.tokens
            ((s.value? kept n).map fun w => (some w, vs)) := by
          rw [Option.map_eq_bind]
          exact Decides.bind_nil (Schema.decided kept s hn) fun w _ => (Takes.pure _).decides
        exact (Reader.takes_exactly .colon).bind_decides hvalue
    · exact (Fields.decides_readMember kept rest name vs hn).map (v, ·)

theorem Fields.decides_readItems (kept : Bool) :
    (fs : Fields) → {ns : List Written} → (∀ n ∈ ns, n.WellFormed) →
      (∀ first, Decides (fs.readItems kept first false) (itemTokens first ns)
        (fs.items? kept ns)) ∧
      ∀ first, Decides (fs.readItems kept first true) [] (fs.items? kept [])
  | .nil, ns, hns => by
    refine ⟨fun first => ?_, fun _ => (Takes.pure ()).decides⟩
    cases ns with
    | nil =>
      rw [itemTokens_nil]
      exact (Reader.takes_exactly .closeArray).decides
    | cons n ns => exact decides_exactly_cons (hns n (.head _)) first ns
  | .cons _ presence s rest, ns, hns => by
    have hmissing : Decides (do
        match presence.fallback? s with
        | some v => return (v, ← rest.readItems kept false true)
        | none => throw .mismatched) []
        ((presence.fallback? s).bind fun v => (rest.items? kept []).map (v, ·)) := by
      cases presence.fallback? s with
      | none => exact Reader.decides_throw _ _
      | some v => exact ((Fields.decides_readItems kept rest hns).2 false).map (v, ·)
    refine ⟨fun first => ?_, fun first => hmissing⟩
    cases ns with
    | nil =>
      rw [itemTokens_nil]
      exact .lastItem hmissing
    | cons n ns =>
      obtain ⟨hn, hns⟩ := List.forall_mem_cons.mp hns
      have hpresent : Decides (do return (← s.read kept, ← rest.readItems kept false false))
          (n.tokens ++ itemTokens false ns)
          ((s.value? kept n).bind fun v => (rest.items? kept ns).map (v, ·)) :=
        Decides.bind (Schema.decided kept s hn) fun v _ =>
          ((Fields.decides_readItems kept rest hns).1 false).map (v, ·)
      exact decides_another hn hpresent
end

theorem Schema.value?_list {s : Schema} {ns : List Written} (hns : ∀ n ∈ ns, n.WellFormed) :
    (Schema.list s).value? kept (.array ns) = ns.mapM (s.value? kept) := by
  rw [value?, Schema.read, Written.tokens_array]
  exact (Reader.decides_list (fun n hn => (hns n hn).opens) fun n hn =>
    Schema.decided kept s (hns n hn)).result?_eq

theorem Schema.value?_record {fs : Fields} {ms : List (List Piece × Written)}
    (hms : ∀ m ∈ ms, m.2.WellFormed) :
    (Schema.record fs).value? kept (.object ms) =
      (ms.foldlM (Reader.enter (fs.enter? kept)) fs.blank).bind fs.complete? :=
  (Schema.decides_record fun m hm name d =>
    Fields.decides_readMember kept fs name d (hms m hm)).result?_eq

theorem Schema.value?_positional {fs : Fields} {ns : List Written}
    (hns : ∀ n ∈ ns, n.WellFormed) :
    (Schema.record fs).value? kept (.array ns) = fs.items? kept ns :=
  (Schema.decides_positional (Fields.decides_readItems kept fs hns).1).result?_eq

/-- What has brackets is no missing value. -/
theorem Schema.value?_optional {s : Schema} (hn : n.WellFormed) (hscalar : ∀ t, n ≠ .scalar t) :
    (Schema.optional s).value? kept n = (s.value? kept n).map some := by
  have hsome := Decides.map (Schema.decided kept s hn) some
  rw [value?, Schema.read]
  refine Decides.result?_eq fun rest => ?_
  refine Eq.trans ?_ (hsome rest)
  cases n with
  | scalar t => exact absurd rfl (hscalar t)
  | array => rw [Written.tokens_array]; rfl
  | object => rw [Written.tokens_object]; rfl

end Schemas

end UsbHost.Json
