import UsbHost.Proofs.Tracker.Steps

/-! # What a tracker keeps

A tracker keeps its entries and its queue apart, and several operations change both.  `Consistent`
and `Numbered` say how they agree in every run, and what follows for the counts and for an
extraction, which never has to look beyond the first of the queue.

A `Tracker` knows transfers by their ids.  Whoever registers a transfer hands it over, and whoever
extracts it gets it back: a `Custody` is a tracker whose entries hold the transfers themselves, of
any type that has ids.  Leaving the transfers out turns each of its steps into a step of the tracker
(`Keyed.step_tracker`), as long as what stands under an id is the transfer of that id, and every
step keeps that.
-/
namespace UsbHost

namespace Tracker

variable {t t' : Tracker} {e : Event} {id : TransferId}

/-! ## Submission numbers -/

/-- No two submissions in flight have the same number, and none has the number 0. -/
structure Numbered (t : Tracker) : Prop where
  pos : ∀ id n, t.entries.get? id = some (.pending n) → 0 < n
  unique : ∀ id id' n, t.entries.get? id = some (.pending n) →
    t.entries.get? id' = some (.pending n) → id = id'

theorem numbered_empty : Numbered {} where
  pos := by simp
  unique := by simp

/-- Fewer submissions in flight are numbered as well. -/
theorem Numbered.of_pending (numbered : t.Numbered)
    (h : ∀ id n, t'.entries.get? id = some (.pending n) → t.entries.get? id = some (.pending n)) :
    t'.Numbered where
  pos id n hn := numbered.pos id n (h id n hn)
  unique id id' n hn hn' := numbered.unique id id' n (h id n hn) (h id' n hn')

/-- The number of a new submission is above all others. -/
theorem Numbered.enlist (numbered : t.Numbered) (hc : t.Consistent) (id : TransferId) :
    (t.enlist id).Numbered where
  pos l n hn := by
    rw [get?_enlist] at hn
    split at hn
    · cases hn
      exact Nat.succ_pos _
    · exact numbered.pos l n hn
  unique l l' n hn hn' := by
    rw [get?_enlist] at hn hn'
    split at hn <;> split at hn'
    · rename_i hl hl'
      rw [hl, hl']
    · cases hn
      exact absurd (hc.number_le _ _ hn') (Nat.not_succ_le_self _)
    · cases hn'
      exact absurd (hc.number_le _ _ hn) (Nat.not_succ_le_self _)
    · exact numbered.unique l l' n hn hn'

/-- **Effects keep the numbers apart.** -/
theorem Numbered.next (numbered : t.Numbered) (hc : t.Consistent) (h : Effect t e t') :
    t'.Numbered := by
  cases h with
  | registered id free => exact numbered.enlist hc id
  | accepted | cancelled =>
    refine numbered.of_pending fun id n hn => ?_
    rw [get?_complete] at hn
    split at hn
    · cases hn
    · exact hn
  | removed =>
    refine numbered.of_pending fun id n hn => ?_
    rw [get?_forget] at hn
    split at hn
    · cases hn
    · exact hn
  | extracted =>
    refine numbered.of_pending fun id n hn => ?_
    rw [Table.get?_erase] at hn
    split at hn
    · cases hn
    · exact hn
  | dropped | notPending | notTracked | nothing => exact numbered

theorem Run.numbered {h : List Event} (run : Run h t) : t.Numbered := by
  induction run with
  | new => exact numbered_empty
  | step before now ih => exact ih.next before.consistent (before.consistent.effect now)

/-! ## Counting -/

def Entry.isCompleted : Entry → Bool
  | .pending _ => false
  | .completed _ => true

theorem Entry.isCompleted_iff {e : Entry} : e.isCompleted = true ↔ ∃ r, e = .completed r := by
  cases e <;> simp [isCompleted]

/-- The queue is as long as there are outcomes. -/
theorem Consistent.completedCount_eq (hc : t.Consistent) :
    t.completedCount = t.entries.values.countP Entry.isCompleted := by
  let done := (t.entries.entries.filter (·.2.isCompleted)).map Prod.fst
  have hnodup : done.Nodup := t.entries.distinct.sublist (List.filter_sublist.map _)
  have hmem : ∀ id, id ∈ t.completed ↔ id ∈ done := by
    intro id
    rw [hc.mem_queue]
    simp only [done, List.mem_map, List.mem_filter, Entry.isCompleted_iff, Table.get?_eq_some_iff]
    constructor
    · rintro ⟨r, hr⟩
      exact ⟨(id, .completed r), ⟨hr, r, rfl⟩, rfl⟩
    · rintro ⟨⟨l, x⟩, ⟨hx, r, rfl⟩, rfl⟩
      exact ⟨r, hx⟩
  have hperm : t.completed.Perm done :=
    (List.perm_ext_iff_of_nodup hc.queue_nodup hnodup).mpr hmem
  rw [completedCount, hperm.length_eq, Table.values, List.countP_map,
    List.countP_eq_length_filter, List.length_map]
  rfl

/-- What is tracked is in flight or completed. -/
theorem Consistent.pendingCount_add_completedCount (hc : t.Consistent) :
    t.pendingCount + t.completedCount = t.entries.keys.length := by
  have hpending : t.pendingCount =
      t.entries.values.countP (fun e => decide ¬ e.isCompleted = true) := by
    refine List.countP_congr fun e _ => ?_
    cases e <;> simp [Entry.isCompleted]
  have hlength : t.entries.values.length = t.entries.keys.length := by
    rw [Table.values, Table.keys, List.length_map, List.length_map]
  rw [hpending, hc.completedCount_eq, Nat.add_comm, ← List.length_eq_countP_add_countP, hlength]

end Tracker

/-! ## Tables of changed values -/

namespace Table

variable {κ ν μ : Type} (t : Table κ ν) (f : ν → μ)

/-- The table with each value changed. -/
def map : Table κ μ where
  entries := t.entries.map fun e => (e.1, f e.2)
  distinct := by
    have hkeys : (t.entries.map fun e => (e.1, f e.2)).map (·.1) = t.entries.map (·.1) := by simp
    exact hkeys ▸ t.distinct

variable [DecidableEq κ]

@[simp] theorem get?_map (k : κ) : (t.map f).get? k = (t.get? k).map f := by
  unfold get? map
  rw [List.find?_map]
  cases h : t.entries.find? (·.1 = k) with
  | none => simp only [Function.comp_def, h, Option.map_none]
  | some entry => simp only [Function.comp_def, h, Option.map_some]

@[simp] theorem contains_map (k : κ) : (t.map f).contains k = t.contains k := by
  simp [contains]

theorem map_erase (k : κ) : (t.erase k).map f = (t.map f).erase k := by
  simp [map, erase, List.filter_map, Function.comp_def]

theorem map_put (k : κ) (v : ν) : (t.put k v).map f = (t.map f).put k (f v) := by
  have h : ((t.erase k).map f).entries = ((t.map f).erase k).entries :=
    congrArg Table.entries (map_erase t f k)
  simp only [map, put, List.map_cons, mk.injEq] at h ⊢
  rw [h]

end Table

/-! ## Holding the transfers -/

/-- An entry with the transfer that it holds. -/
inductive Custody.Entry (τ : Type) where
  | pending (transfer : τ) (submission : Nat)
  | completed (transfer : τ) (outcome : TransferOutcome)

/-- A tracker that holds the transfers. -/
structure Custody (τ : Type) where
  entries : Table TransferId (Custody.Entry τ) := .empty
  completed : List TransferId := []
  submissions : Nat := 0

namespace Custody

variable {τ : Type}

def Entry.transfer : Entry τ → τ
  | pending x _ => x
  | completed x _ => x

/-- The entry without the transfer. -/
def Entry.bare : Entry τ → Tracker.Entry
  | pending _ n => .pending n
  | completed _ r => .completed r

/-- The tracker without the transfers. -/
def tracker (c : Custody τ) : Tracker where
  entries := c.entries.map Entry.bare
  completed := c.completed
  submissions := c.submissions

inductive Op (τ : Type) where
  | register (transfer : τ)
  | deliver (s : Submission) (outcome : TransferOutcome)
  | cancel (id : TransferId)
  | remove (id : TransferId)
  | extract

inductive Reply (τ : Type) where
  | registered (s : Submission)
  | delivered (s : Submission) (d : Delivery)
  | cancelled (id : TransferId) (done : Bool)
  | removed (id : TransferId) (done : Bool)
  | extracted (result : Option (τ × TransferOutcome))

variable (idOf : τ → TransferId)

def Op.bare : Op τ → Tracker.Op
  | register x => .register (idOf x)
  | deliver s r => .deliver s r
  | cancel id => .cancel id
  | remove id => .remove id
  | extract => .extract

def Reply.bare : Reply τ → Tracker.Reply
  | registered s => .registered s
  | delivered s d => .delivered s d
  | cancelled id done => .cancelled id done
  | removed id done => .removed id done
  | extracted result => .extracted (result.map fun p => (idOf p.1, p.2))

/-- Takes a transfer into custody. -/
def register (c : Custody τ) (x : τ) : Except Fault (Submission × Custody τ) :=
  if c.entries.contains (idOf x) then .error (.registeredTwice (idOf x))
  else
    let number := c.submissions + 1
    .ok (⟨idOf x, number⟩,
      { c with entries := c.entries.put (idOf x) (.pending x number), submissions := number })

def complete (c : Custody τ) (id : TransferId) (x : τ) (outcome : TransferOutcome) : Custody τ :=
  { c with entries := c.entries.put id (.completed x outcome), completed := c.completed ++ [id] }

def deliver (c : Custody τ) (s : Submission) (outcome : TransferOutcome) : Delivery × Custody τ :=
  match c.entries.get? s.transfer with
  | some (.pending x number) =>
    if number = s.number then (.accepted, c.complete s.transfer x outcome) else (.late, c)
  | some (.completed ..) => (.late, c)
  | none => (.untracked, c)

def cancel (c : Custody τ) (id : TransferId) : Bool × Custody τ :=
  match c.entries.get? id with
  | some (.pending x _) => (true, c.complete id x .canceled)
  | _ => (false, c)

/-- Gives back the first completed transfer among `queue`. -/
def extractFrom (c : Custody τ) : List TransferId → Option (τ × TransferOutcome) × Custody τ
  | [] => (none, { c with completed := [] })
  | id :: queue =>
    let rest := { c with entries := c.entries.erase id, completed := queue }
    match c.entries.get? id with
    | some (.completed x outcome) => (some (x, outcome), rest)
    | _ => rest.extractFrom queue

/-- Gives back the transfer that completed first. -/
def extract (c : Custody τ) : Option (τ × TransferOutcome) × Custody τ :=
  c.extractFrom c.completed

def remove (c : Custody τ) (id : TransferId) : Bool × Custody τ :=
  if c.entries.contains id then
    (true, { c with entries := c.entries.erase id, completed := c.completed.filter (· ≠ id) })
  else (false, c)

/-- One operation. -/
def step (c : Custody τ) : Op τ → Except Fault (Reply τ × Custody τ)
  | .register x => (c.register idOf x).map fun p => (.registered p.1, p.2)
  | .deliver s outcome => .ok (.delivered s (c.deliver s outcome).1, (c.deliver s outcome).2)
  | .cancel id => .ok (.cancelled id (c.cancel id).1, (c.cancel id).2)
  | .remove id => .ok (.removed id (c.remove id).1, (c.remove id).2)
  | .extract => .ok (.extracted c.extract.1, c.extract.2)

/-! ## Without the transfers -/

variable {idOf} {c c' : Custody τ} {id : TransferId}

theorem get?_tracker (c : Custody τ) (id : TransferId) :
    c.tracker.entries.get? id = (c.entries.get? id).map Entry.bare :=
  Table.get?_map ..

theorem get?_tracker_pending {n : Nat} :
    c.tracker.entries.get? id = some (.pending n) ↔
      ∃ x, c.entries.get? id = some (.pending x n) := by
  rw [get?_tracker]
  rcases c.entries.get? id with _ | ⟨x, m⟩ | ⟨x, r⟩ <;> simp [Entry.bare]

theorem get?_tracker_completed {r : TransferOutcome} :
    c.tracker.entries.get? id = some (.completed r) ↔
      ∃ x, c.entries.get? id = some (.completed x r) := by
  rw [get?_tracker]
  rcases c.entries.get? id with _ | ⟨x, m⟩ | ⟨x, q⟩ <;> simp [Entry.bare]

theorem tracker_complete (x : τ) (r : TransferOutcome) :
    (c.complete id x r).tracker = c.tracker.complete id r := by
  simp [complete, tracker, Tracker.complete, Table.map_put, Entry.bare]

theorem tracker_register (x : τ) :
    (c.register idOf x).map (fun p => (p.1, p.2.tracker)) = c.tracker.register (idOf x) := by
  have hcontains : c.tracker.entries.contains (idOf x) = c.entries.contains (idOf x) :=
    Table.contains_map ..
  unfold register Tracker.register
  rw [hcontains]
  split
  · rfl
  · simp [Except.map, tracker, Table.map_put, Entry.bare]

theorem tracker_deliver (s : Submission) (r : TransferOutcome) :
    ((c.deliver s r).1, (c.deliver s r).2.tracker) = c.tracker.deliver s r := by
  unfold deliver Tracker.deliver
  rw [get?_tracker]
  rcases c.entries.get? s.transfer with _ | ⟨x, n⟩ | ⟨x, q⟩
  · rfl
  · by_cases hn : n = s.number <;> simp [Entry.bare, hn, tracker_complete]
  · rfl

theorem tracker_cancel (id : TransferId) :
    ((c.cancel id).1, (c.cancel id).2.tracker) = c.tracker.cancel id := by
  unfold cancel Tracker.cancel
  rw [get?_tracker]
  rcases c.entries.get? id with _ | ⟨x, n⟩ | ⟨x, q⟩
  · rfl
  · simp [Entry.bare, tracker_complete]
  · rfl

theorem tracker_remove (id : TransferId) :
    ((c.remove id).1, (c.remove id).2.tracker) = c.tracker.remove id := by
  have hcontains : c.tracker.entries.contains id = c.entries.contains id := Table.contains_map ..
  unfold remove Tracker.remove
  rw [hcontains]
  split
  · simp [tracker, Table.map_erase]
  · rfl

/-! ## Each transfer under its own id -/

/-- Every transfer is held under its own id. -/
def Keyed (idOf : τ → TransferId) (c : Custody τ) : Prop :=
  ∀ id e, c.entries.get? id = some e → idOf e.transfer = id

theorem keyed_empty : Keyed idOf {} := by
  simp [Keyed]

theorem Keyed.put (keyed : Keyed idOf c) {e : Entry τ} (he : idOf e.transfer = id)
    (hc : c'.entries = c.entries.put id e) : Keyed idOf c' := by
  intro l x hx
  rw [hc, Table.get?_put] at hx
  split at hx
  · rename_i hl
    cases hx
    exact he.trans hl.symm
  · exact keyed l x hx

theorem Keyed.erase (keyed : Keyed idOf c) (hc : c'.entries = c.entries.erase id) :
    Keyed idOf c' := by
  intro l x hx
  rw [hc, Table.get?_erase] at hx
  split at hx
  · cases hx
  · exact keyed l x hx

/-- The extraction gives back the transfer of the id that the tracker gives. -/
theorem Keyed.tracker_extractFrom (keyed : Keyed idOf c) (queue : List TransferId) :
    ((c.extractFrom queue).1.map fun p => (idOf p.1, p.2), (c.extractFrom queue).2.tracker) =
      c.tracker.extractFrom queue := by
  induction queue generalizing c with
  | nil => rfl
  | cons id queue ih =>
    have hrest : Keyed idOf { c with entries := c.entries.erase id, completed := queue } :=
      keyed.erase rfl
    have htracker : tracker { c with entries := c.entries.erase id, completed := queue } =
        { c.tracker with entries := c.tracker.entries.erase id, completed := queue } := by
      simp [tracker, Table.map_erase]
    have hnext := ih hrest
    rw [htracker] at hnext
    unfold extractFrom Tracker.extractFrom
    rw [get?_tracker]
    cases he : c.entries.get? id with
    | none => simpa using hnext
    | some e =>
      cases e with
      | pending x n => simpa [Entry.bare] using hnext
      | completed x r =>
        have hid : idOf x = id := keyed id _ he
        simp [Entry.bare, hid, htracker]

theorem Keyed.extractFrom (keyed : Keyed idOf c) (queue : List TransferId) :
    Keyed idOf (c.extractFrom queue).2 := by
  induction queue generalizing c with
  | nil => exact keyed
  | cons id queue ih =>
    have hrest : Keyed idOf { c with entries := c.entries.erase id, completed := queue } :=
      keyed.erase rfl
    unfold Custody.extractFrom
    split
    · exact hrest
    · exact ih hrest

/-- **Without the transfers a step is a step of the tracker**, with the same faults. -/
theorem Keyed.step_tracker (keyed : Keyed idOf c) (op : Op τ) :
    (c.step idOf op).map (fun p => (p.1.bare idOf, p.2.tracker)) =
      c.tracker.step (op.bare idOf) := by
  cases op with
  | register x =>
    simp only [step, Tracker.step, Op.bare]
    rw [← tracker_register]
    cases c.register idOf x <;> rfl
  | deliver s r =>
    have h := tracker_deliver (c := c) s r
    simp only [step, Tracker.step, Op.bare]
    rw [← h]
    rfl
  | cancel id =>
    have h := tracker_cancel (c := c) id
    simp only [step, Tracker.step, Op.bare]
    rw [← h]
    rfl
  | remove id =>
    have h := tracker_remove (c := c) id
    simp only [step, Tracker.step, Op.bare]
    rw [← h]
    rfl
  | extract =>
    have h : _ = c.tracker.extract := keyed.tracker_extractFrom c.completed
    simp only [step, Tracker.step, Op.bare]
    rw [← h]
    rfl

theorem Keyed.complete (keyed : Keyed idOf c) {x : τ} {n : Nat}
    (he : c.entries.get? id = some (.pending x n)) (r : TransferOutcome) :
    Keyed idOf (c.complete id x r) := by
  have hx : idOf x = id := keyed id _ he
  exact keyed.put (e := .completed x r) hx rfl

/-- **Every step keeps each transfer under its own id.** -/
theorem Keyed.next (keyed : Keyed idOf c) {op : Op τ} {reply : Reply τ}
    (h : c.step idOf op = .ok (reply, c')) : Keyed idOf c' := by
  cases op with
  | register x =>
    simp only [step, register] at h
    split at h
    · cases h
    · cases h
      exact keyed.put (e := Entry.pending x (c.submissions + 1)) rfl rfl
  | deliver s r =>
    cases h
    unfold deliver
    split
    · rename_i x n he
      split
      · exact keyed.complete he r
      · exact keyed
    · exact keyed
    · exact keyed
  | cancel id =>
    cases h
    unfold cancel
    split
    · rename_i x n he
      exact keyed.complete he .canceled
    · exact keyed
  | remove id =>
    cases h
    unfold remove
    split
    · exact keyed.erase rfl
    · exact keyed
  | extract =>
    cases h
    exact keyed.extractFrom _

/-! ## Runs -/

/-- An operation with its reply. -/
structure Event (τ : Type) where
  op : Op τ
  reply : Reply τ

def Event.bare (idOf : τ → TransferId) (e : Event τ) : Tracker.Event :=
  ⟨e.op.bare idOf, e.reply.bare idOf⟩

/-- The runs of a new tracker without a fault. -/
inductive Run (idOf : τ → TransferId) : List (Event τ) → Custody τ → Prop where
  | new : Run idOf [] {}
  | step {h : List (Event τ)} {c c' : Custody τ} {op : Op τ} {reply : Reply τ}
      (before : Run idOf h c) (now : c.step idOf op = .ok (reply, c')) :
      Run idOf (h ++ [⟨op, reply⟩]) c'

variable {h : List (Event τ)}

theorem Run.keyed (run : Run idOf h c) : Keyed idOf c := by
  induction run with
  | new => exact keyed_empty
  | step _ now ih => exact ih.next now

/-- Without the transfers a run is a run of the tracker. -/
theorem Run.tracker (run : Run idOf h c) : Tracker.Run (h.map (Event.bare idOf)) c.tracker := by
  induction run with
  | new => exact .new
  | @step h c c' op reply before now ih =>
    have hstep := before.keyed.step_tracker op
    rw [now] at hstep
    rw [List.map_append]
    exact ih.step hstep.symm

/-- An operation that hands over ids for the transfers. -/
def Op.ofBare : Tracker.Op → Op TransferId
  | .register id => .register id
  | .deliver s r => .deliver s r
  | .cancel id => .cancel id
  | .remove id => .remove id
  | .extract => .extract

theorem Op.bare_ofBare (op : Tracker.Op) : (ofBare op).bare (fun id => id) = op := by
  cases op <;> rfl

/-- Every run of a tracker is one of these, with ids for transfers. -/
theorem exists_of_run {g : List Tracker.Event} {t : Tracker} (run : Tracker.Run g t) :
    ∃ h c, Run (fun id => id) h c ∧ h.map (Event.bare fun id => id) = g ∧ c.tracker = t := by
  induction run with
  | new => exact ⟨[], {}, .new, rfl, rfl⟩
  | @step g t t' op reply _ now ih =>
    obtain ⟨h, c, run, rfl, rfl⟩ := ih
    have hstep := run.keyed.step_tracker (Op.ofBare op)
    rw [Op.bare_ofBare, now] at hstep
    cases hc : c.step (fun id => id) (Op.ofBare op) with
    | error fault => simp [hc, Except.map] at hstep
    | ok p =>
      obtain ⟨hreply, htracker⟩ : p.1.bare (fun id => id) = reply ∧ p.2.tracker = t' := by
        simpa [hc, Except.map] using hstep
      refine ⟨h ++ [⟨Op.ofBare op, p.1⟩], p.2, run.step hc, ?_, htracker⟩
      rw [List.map_append, List.map_singleton, Event.bare, Op.bare_ofBare, hreply]

/-! ## Main result -/

/-- **A tracker's parts agree.**  In every run, with the calls in any order:
* the queue has no duplicates, and holds exactly the transfers that have an outcome;
* each transfer is held under its own id;
* the submissions in flight have different numbers, from 1 to the number of submissions;
* the queue is as long as there are outcomes, and what is not in it is in flight;
* while there is an outcome, an extraction gives back the very first of the queue.

Without the transfers it is a run of the tracker. -/
theorem Run.well_kept (run : Run idOf h c) :
    Tracker.Run (h.map (Event.bare idOf)) c.tracker ∧
    c.completed.Nodup ∧
    (∀ id, id ∈ c.completed ↔ ∃ x r, c.entries.get? id = some (.completed x r)) ∧
    (∀ id e, c.entries.get? id = some e → idOf e.transfer = id) ∧
    (∀ id x n, c.entries.get? id = some (.pending x n) → 1 ≤ n ∧ n ≤ c.submissions ∧
      ∀ id' x', c.entries.get? id' = some (.pending x' n) → id' = id) ∧
    c.tracker.completedCount = c.tracker.entries.values.countP Tracker.Entry.isCompleted ∧
    c.tracker.pendingCount + c.tracker.completedCount = c.tracker.entries.keys.length ∧
    (∀ id queue, c.completed = id :: queue →
      ∃ x r, idOf x = id ∧ c.entries.get? id = some (.completed x r) ∧
        c.step idOf .extract = .ok (.extracted (some (x, r)),
          { c with entries := c.entries.erase id, completed := queue })) := by
  have consistent := run.tracker.consistent
  have numbered := run.tracker.numbered
  have hqueue : ∀ id, id ∈ c.completed ↔ ∃ x r, c.entries.get? id = some (.completed x r) := by
    intro id
    have hmem := consistent.mem_queue id
    simp only [get?_tracker_completed] at hmem
    exact hmem.trans exists_comm
  refine ⟨run.tracker, consistent.queue_nodup, hqueue, run.keyed, fun id x n hn => ?_,
    consistent.completedCount_eq, consistent.pendingCount_add_completedCount,
    fun id queue hq => ?_⟩
  · have htracker := get?_tracker_pending.mpr ⟨x, hn⟩
    refine ⟨numbered.pos id n htracker, consistent.number_le id n htracker, fun id' x' hn' => ?_⟩
    exact numbered.unique id' id n (get?_tracker_pending.mpr ⟨x', hn'⟩) htracker
  · obtain ⟨x, r, he⟩ := (hqueue id).mp (hq ▸ List.mem_cons_self ..)
    refine ⟨x, r, run.keyed id _ he, he, ?_⟩
    simp [Custody.step, extract, hq, Custody.extractFrom, he]

/-- Three transfers with names: one in flight, one completed, and one removed after it completed. -/
theorem well_kept_removed :
    ∃ h c, Run (fun x : Nat × String => ⟨x.1⟩) h c ∧ c.completed = [⟨2⟩] ∧
      c.tracker.pendingCount = 1 ∧ c.tracker.completedCount = 1 ∧
      ∃ c', c.step (fun x => ⟨x.1⟩) .extract =
        .ok (.extracted (some ((2, "second"), .failed "gone")), c') := by
  have run : Run (fun x : Nat × String => ⟨x.1⟩)
      [⟨.register (1, "first"), .registered ⟨⟨1⟩, 1⟩⟩,
        ⟨.register (2, "second"), .registered ⟨⟨2⟩, 2⟩⟩,
        ⟨.register (3, "third"), .registered ⟨⟨3⟩, 3⟩⟩,
        ⟨.cancel ⟨3⟩, .cancelled ⟨3⟩ true⟩,
        ⟨.deliver ⟨⟨2⟩, 2⟩ (.failed "gone"), .delivered ⟨⟨2⟩, 2⟩ .accepted⟩,
        ⟨.remove ⟨3⟩, .removed ⟨3⟩ true⟩] _ :=
    .step (.step (.step (.step (.step (.step .new rfl) rfl) rfl) rfl) rfl) rfl
  obtain ⟨-, -, -, -, -, -, -, extracted⟩ := run.well_kept
  obtain ⟨x, r, -, he, hstep⟩ := extracted ⟨2⟩ [] rfl
  cases he
  exact ⟨_, _, run, rfl, rfl, rfl, _, hstep⟩

end Custody
end UsbHost
