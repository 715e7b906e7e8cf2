import UsbHost.Proofs.Json.Deciding

/-! # Members in another order

The members of a record may be rearranged, and members added that the record does not know
(`Schema.Rearranged`), at every depth at once.  The value that is read stays the same
(`Schema.Rearranged.value?_eq`): what members do to a draft does not depend on their
order, and one that is not known does nothing.  A value that could be kept can still be
kept (`Schema.Rearranged.admissible_iff`), so the same holds where values are kept first
and read afterwards.
-/
namespace UsbHost.Json

open Reader (enter)
open Written (WellFormed Admissible)

/-! ## What is rearranged -/

/-- The shape of the member with a name, if the record knows the name. -/
def Fields.shape? : Fields → List Piece → Option Schema
  | .nil, _ => none
  | .cons known _ s rest, pieces =>
    if textOf? pieces = some known then some s else rest.shape? pieces

/-- The shapes of the members, in order. -/
def Fields.shapes : Fields → List Schema
  | .nil => []
  | .cons _ _ s rest => s :: rest.shapes

/-- A member of an object that stays, with its value before and after. -/
structure KeptMember where
  name : List Piece
  before : Written
  after : Written

namespace KeptMember

def old (m : KeptMember) : List Piece × Written := (m.name, m.before)

def new (m : KeptMember) : List Piece × Written := (m.name, m.after)

end KeptMember

/-- The second value is the first with the members of its records, at any depth, in
another order and with members added that the records do not know.  These are admissible,
when the value may be nested `room` deep. -/
inductive Schema.Rearranged : (room : Nat) → Schema → Written → Written → Prop where
  | same {room : Nat} {s : Schema} (n : Written) : Rearranged room s n n
  | optional {room : Nat} {s : Schema} {n n' : Written} (h : Rearranged room s n n') :
      Rearranged room (.optional s) n n'
  | list {room : Nat} {s : Schema} {items : List (Written × Written)}
      (h : ∀ p ∈ items, Rearranged room s p.1 p.2) :
      Rearranged (room + 1) (.list s) (.array (items.map (·.1))) (.array (items.map (·.2)))
  /-- A record that is written as an array has no order to change, but its values may have. -/
  | positional {room : Nat} {fs : Fields} {items : List (Written × Written)}
      (size : items.length ≤ fs.shapes.length)
      (h : ∀ p ∈ fs.shapes.zip items, Rearranged room p.1 p.2.1 p.2.2) :
      Rearranged (room + 1) (.record fs) (.array (items.map (·.1))) (.array (items.map (·.2)))
  /-- Of the members that stay, those that are known may have other values in the same sense. -/
  | record {room : Nat} {fs : Fields} {kept : List KeptMember}
      {added members : List (List Piece × Written)}
      (known : ∀ m ∈ kept, ∀ s, fs.shape? m.name = some s → Rearranged room s m.before m.after)
      (unknown : ∀ m ∈ kept, fs.shape? m.name = none → m.before = m.after)
      (names : ∀ m ∈ added, (textOf? m.1).isSome ∧ fs.shape? m.1 = none)
      (values : ∀ m ∈ added, Admissible room m.2)
      (order : members.Perm (kept.map (·.new) ++ added)) :
      Rearranged (room + 1) (.record fs) (.object (kept.map (·.old))) (.object members)

/-! ## Folds that do not depend on the order -/

section Folds
variable {α β γ : Type} {f : β → α → Option β}

/-- What does not depend on the order of any two does not depend on the order of all. -/
theorem foldlM_eq_of_perm (swap : ∀ b x y, (f b x).bind (f · y) = (f b y).bind (f · x))
    {xs ys : List α} (h : xs.Perm ys) (b : β) : xs.foldlM f b = ys.foldlM f b := by
  induction h generalizing b with
  | nil => rfl
  | cons x _ ih =>
    rw [List.foldlM_cons, List.foldlM_cons]
    exact congrArg (f b x).bind (funext ih)
  | swap x y zs =>
    have hpair (x y : α) : (x :: y :: zs).foldlM f b =
        ((f b x).bind (f · y)).bind fun b => zs.foldlM f b := by
      rw [Option.bind_assoc]
      rfl
    rw [hpair, hpair, swap]
  | trans _ _ ih ih' => exact (ih b).trans (ih' b)

theorem foldlM_map_congr {cs : List γ} {old new : γ → α}
    (h : ∀ c ∈ cs, ∀ b, f b (old c) = f b (new c)) (b : β) :
    (cs.map old).foldlM f b = (cs.map new).foldlM f b := by
  induction cs generalizing b with
  | nil => rfl
  | cons c cs ih =>
    rw [List.map_cons, List.map_cons, List.foldlM_cons, List.foldlM_cons, h c (.head _)]
    exact congrArg (f b (new c)).bind (funext (ih fun c hc => h c (.tail _ hc)))

theorem foldlM_eq_some_of_idle {xs : List α} (h : ∀ x ∈ xs, ∀ b, f b x = some b) (b : β) :
    xs.foldlM f b = some b := by
  induction xs with
  | nil => rfl
  | cons x xs ih =>
    rw [List.foldlM_cons, h x (.head _)]
    exact ih fun x hx => h x (.tail _ hx)

/-- A fold over a rearranged list, in which some have changed to others that do the same,
and some have come that do nothing. -/
theorem foldlM_rearranged (swap : ∀ b x y, (f b x).bind (f · y) = (f b y).bind (f · x))
    {kept : List γ} {old new : γ → α} {added xs : List α}
    (same : ∀ c ∈ kept, ∀ b, f b (old c) = f b (new c))
    (idle : ∀ x ∈ added, ∀ b, f b x = some b) (order : xs.Perm (kept.map new ++ added)) (b : β) :
    xs.foldlM f b = (kept.map old).foldlM f b := by
  rw [foldlM_eq_of_perm swap order, List.foldlM_append, foldlM_map_congr same]
  cases (kept.map new).foldlM f b with
  | none => rfl
  | some b => exact foldlM_eq_some_of_idle idle b

theorem mapM_map_congr {δ : Type} {cs : List γ} {old new : γ → α} {value : α → Option δ}
    (h : ∀ c ∈ cs, value (old c) = value (new c)) :
    (cs.map old).mapM value = (cs.map new).mapM value := by
  induction cs with
  | nil => rfl
  | cons c cs ih =>
    rw [List.map_cons, List.map_cons, List.mapM_cons, List.mapM_cons, h c (.head _),
      ih fun c hc => h c (.tail _ hc)]

end Folds

/-! ## Drafts -/

section Drafts
variable {kept : Bool} {fs : Fields}

/-- Two members can be entered in either order. -/
theorem Fields.enter?_swap : (fs : Fields) → (name name' : String) → (n n' : Written) →
    (d : fs.Draft) → (fs.enter? kept name n d).bind (fs.enter? kept name' n') =
      (fs.enter? kept name' n' d).bind (fs.enter? kept name n)
  | .nil, _, _, _, _, _ => rfl
  | .cons known _ s rest, name, name', n, n', (v, vs) => by
    have ih := Fields.enter?_swap rest name name' n n' vs
    -- A member changes the head of the draft if it has the name of the first field, and else the
    -- rest of it; two members get in each other's way only if both names are the same.
    by_cases hname : name = known <;> by_cases hname' : name' = known
    · cases v <;> cases hn : s.value? kept n <;> cases hn' : s.value? kept n' <;>
        simp [enter?, hname, hname', hn, hn']
    · cases v <;> cases hn : s.value? kept n <;> cases hn' : rest.enter? kept name' n' vs <;>
        simp [enter?, hname, hname', hn, hn']
    · cases v <;> cases hn : rest.enter? kept name n vs <;> cases hn' : s.value? kept n' <;>
        simp [enter?, hname, hname', hn, hn']
    · simp only [enter?, if_neg hname, if_neg hname', Option.bind_map, Function.comp_def]
      have hboth (o : Option rest.Draft) (g : rest.Draft → Option rest.Draft) :
          o.bind (fun vs => (g vs).map (v, ·)) = (o.bind g).map (v, ·) := Option.map_bind.symm
      rw [hboth, hboth, ih]

/-- A name that the record does not know changes nothing. -/
theorem Fields.enter?_unknown {pieces : List Piece} {name : String}
    (hname : textOf? pieces = some name) (n : Written) : (fs : Fields) →
    fs.shape? pieces = none → (d : fs.Draft) → fs.enter? kept name n d = some d
  | .nil, _, _ => rfl
  | .cons known _ s rest, h, (v, vs) => by
    rw [shape?] at h
    split at h
    · cases h
    · rename_i hne
      have hne : name ≠ known := fun heq => hne (heq ▸ hname)
      rw [enter?, if_neg hne, Fields.enter?_unknown hname n rest h vs]
      rfl

/-- Of a member with a known name only the value matters. -/
theorem Fields.enter?_congr {pieces : List Piece} {name : String}
    (hname : textOf? pieces = some name) {n n' : Written} : (fs : Fields) →
    (∀ s, fs.shape? pieces = some s → s.value? kept n = s.value? kept n') →
    (d : fs.Draft) → fs.enter? kept name n d = fs.enter? kept name n' d
  | .nil, _, _ => rfl
  | .cons known _ s rest, h, (v, vs) => by
    simp only [shape?, hname, Option.some_inj] at h
    rw [enter?, enter?]
    split
    · rw [h s (if_pos ‹_›)]
    · rw [Fields.enter?_congr hname rest (fun s hs => h s ((if_neg ‹_›).trans hs)) vs]

theorem Fields.items?_congr : (fs : Fields) → {items : List (Written × Written)} →
    (∀ p ∈ fs.shapes.zip items, p.1.value? kept p.2.1 = p.1.value? kept p.2.2) →
    fs.items? kept (items.map (·.1)) = fs.items? kept (items.map (·.2))
  | _, [], _ => rfl
  | .nil, _ :: _, _ => rfl
  | .cons _ _ s rest, p :: items, h => by
    rw [List.map_cons, List.map_cons, items?, items?, h (s, p) (.head _),
      Fields.items?_congr rest fun p hp => h p (.tail _ hp)]

end Drafts

/-! ## Members -/

section Members
variable {σ : Type} {effect : String → Written → σ → Option σ}

theorem enter_swap (swap : ∀ name name' n n' s,
      (effect name n s).bind (effect name' n') = (effect name' n' s).bind (effect name n))
    (s : σ) (m m' : List Piece × Written) :
    (enter effect s m).bind (enter effect · m') = (enter effect s m').bind (enter effect · m) := by
  cases hname : textOf? m.1 <;> cases hname' : textOf? m'.1 <;> simp [enter, hname, hname', swap]

/-- **Members do the same in any order**, if any two of them do, if those that stay have
values that do the same, and if those that are added do nothing. -/
theorem foldlM_enter_rearranged (swap : ∀ name name' n n' s,
      (effect name n s).bind (effect name' n') = (effect name' n' s).bind (effect name n))
    {kept : List KeptMember} {added members : List (List Piece × Written)}
    (same : ∀ m ∈ kept, ∀ name, textOf? m.name = some name →
      ∀ s, effect name m.before s = effect name m.after s)
    (names : ∀ m ∈ added, (textOf? m.1).isSome)
    (idle : ∀ m ∈ added, ∀ name, textOf? m.1 = some name → ∀ s, effect name m.2 s = some s)
    (order : members.Perm (kept.map (·.new) ++ added)) (s : σ) :
    members.foldlM (enter effect) s = (kept.map (·.old)).foldlM (enter effect) s := by
  refine foldlM_rearranged (enter_swap swap) (fun m hm s => ?_) (fun m hm s => ?_) order s
  · change (textOf? m.name).bind _ = (textOf? m.name).bind _
    cases hname : textOf? m.name with
    | none => rfl
    | some name => exact same m hm name hname s
  · obtain ⟨name, hname⟩ := Option.isSome_iff_exists.mp (names m hm)
    rw [enter, hname]
    exact idle m hm name hname s

/-- The members that stay have well-formed values before and after. -/
theorem wellFormed_kept {kept : List KeptMember} {added members : List (List Piece × Written)}
    (order : members.Perm (kept.map (·.new) ++ added))
    (hold : ∀ m ∈ kept.map (·.old), m.2.WellFormed) (hnew : ∀ m ∈ members, m.2.WellFormed) :
    ∀ m ∈ kept, m.before.WellFormed ∧ m.after.WellFormed := by
  intro m hm
  have hmem : m.new ∈ members :=
    order.mem_iff.mpr (List.mem_append_left _ (List.mem_map_of_mem hm))
  exact ⟨hold m.old (List.mem_map_of_mem hm), hnew m.new hmem⟩

end Members

/-! ## Values -/

namespace Schema.Rearranged
variable {room : Nat} {s : Schema} {n n' : Written}

/-- Only arrays and objects are ever rearranged. -/
theorem eq_or_nested (h : s.Rearranged room n n') :
    n = n' ∨ (∀ t, n ≠ .scalar t) ∧ ∀ t, n' ≠ .scalar t := by
  induction h with
  | same => exact .inl rfl
  | optional _ ih => exact ih
  | list | positional | record => exact .inr ⟨nofun, nofun⟩

theorem eq_of_text (h : Schema.text.Rearranged room n n') : n = n' := by
  cases h with
  | same => rfl

/-- **A rearranged value is read as the same value.** -/
theorem value?_eq (h : s.Rearranged room n n') (hn : n.WellFormed) (hn' : n'.WellFormed)
    (kept : Bool) : s.value? kept n = s.value? kept n' := by
  induction h with
  | same => rfl
  | optional h ih =>
    rcases h.eq_or_nested with rfl | ⟨hscalar, hscalar'⟩
    · rfl
    · rw [value?_optional hn hscalar, value?_optional hn' hscalar', ih hn hn']
  | @list _ s items _ ih =>
    cases hn with | array hns =>
    cases hn' with | array hns' =>
    rw [value?_list hns, value?_list hns']
    exact mapM_map_congr fun p hp =>
      ih p hp (hns _ (List.mem_map_of_mem hp)) (hns' _ (List.mem_map_of_mem hp))
  | @positional _ fs items _ _ ih =>
    cases hn with | array hns =>
    cases hn' with | array hns' =>
    rw [value?_positional hns, value?_positional hns']
    refine fs.items?_congr fun p hp => ?_
    have hmem : p.2 ∈ items := (List.of_mem_zip hp).2
    exact ih p hp (hns _ (List.mem_map_of_mem hmem)) (hns' _ (List.mem_map_of_mem hmem))
  | @record _ fs stay added members _ unknown names _ order ih =>
    cases hn with | object _ hms =>
    cases hn' with | object _ hms' =>
    rw [value?_record hms, value?_record hms']
    refine congrArg (·.bind fs.complete?) (foldlM_enter_rearranged fs.enter?_swap
      (fun m hm name hname d => ?_) (fun m hm => (names m hm).1)
      (fun m hm name hname d => fs.enter?_unknown hname m.2 (names m hm).2 d) order fs.blank).symm
    obtain ⟨hold, hnew⟩ := wellFormed_kept order hms hms' m hm
    exact fs.enter?_congr hname (fun s hs => ih m hm s hs hold hnew) d

/-- **A rearranged value can be kept if the value could.** -/
theorem admissible_iff (h : s.Rearranged room n n') :
    Admissible room n ↔ Admissible room n' := by
  induction h with
  | same => rfl
  | optional _ ih => exact ih
  | list _ ih =>
    simp only [Written.admissible_array_iff, List.forall_mem_map]
    exact and_congr_right fun _ => forall₂_congr ih
  | positional size _ ih =>
    simp only [Written.admissible_array_iff, List.forall_mem_map]
    refine and_congr_right fun _ => forall₂_congr fun p hp => ?_
    rw [← List.map_snd_zip size] at hp
    obtain ⟨q, hq, rfl⟩ := List.mem_map.mp hp
    exact ih q hq
  | @record room fs stay added members _ unknown names values order ih =>
    have hstay : ∀ m ∈ stay, Admissible room m.before ↔ Admissible room m.after := by
      intro m hm
      cases hshape : fs.shape? m.name with
      | none => rw [unknown m hm hshape]
      | some s => exact ih m hm s hshape
    simp only [Written.admissible_object_iff, order.mem_iff, List.mem_append, or_imp, forall_and,
      List.forall_mem_map]
    refine and_congr_right fun _ => ?_
    constructor
    · rintro ⟨hnames, hvalues⟩
      exact ⟨⟨hnames, fun m hm => (names m hm).1⟩,
        fun m hm => (hstay m hm).mp (hvalues m hm), values⟩
    · rintro ⟨⟨hnames, -⟩, hvalues, -⟩
      exact ⟨hnames, fun m hm => (hstay m hm).mpr (hvalues m hm)⟩

end Schema.Rearranged

end UsbHost.Json
