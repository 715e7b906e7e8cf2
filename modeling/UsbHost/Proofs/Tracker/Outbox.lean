import UsbHost.Proofs.Tracker.Fates

/-! # Oldest first

An `Outbox` is what a tracker stands for: the submissions in flight, and a first-in-first-out list
of outcomes, each with the submission that it answers.  The tracker itself keeps neither: its queue
holds ids, and its entries outcomes without the submission.  `Represents` ties the two together, and
`Represents.step` says that they give the same replies and meet the same faults.

Over a whole run `completions` are the outcomes in the order in which they came about.  `Balanced`
says what became of them: handed out, waiting in the outbox, or discarded, when the transfer was
removed in between; and the order is never changed.
-/
namespace UsbHost
namespace Tracker

/-- The submissions in flight, and the outcomes that wait, oldest first. -/
structure Outbox where
  pending : Table TransferId Nat := .empty
  waiting : List (Submission × TransferOutcome) := []
  submissions : Nat := 0

namespace Outbox

/-- Whether a transfer is in flight or has an outcome that waits. -/
def holds (o : Outbox) (id : TransferId) : Bool :=
  o.pending.contains id || o.waiting.any (·.1.transfer = id)

/-- The outbox in which a submission has its outcome. -/
def finish (o : Outbox) (s : Submission) (r : TransferOutcome) : Outbox :=
  { o with pending := o.pending.erase s.transfer, waiting := o.waiting ++ [(s, r)] }

/-- The outbox without a transfer. -/
def drop (o : Outbox) (id : TransferId) : Outbox :=
  { o with pending := o.pending.erase id, waiting := o.waiting.filter (·.1.transfer ≠ id) }

/-- One operation. -/
def step (o : Outbox) : Op → Except Fault (Reply × Outbox)
  | .register id =>
    if o.holds id then .error (.registeredTwice id)
    else
      let number := o.submissions + 1
      .ok (.registered ⟨id, number⟩,
        { o with pending := o.pending.put id number, submissions := number })
  | .deliver s r =>
    if o.pending.get? s.transfer = some s.number then .ok (.delivered s .accepted, o.finish s r)
    else .ok (.delivered s (if o.holds s.transfer then .late else .untracked), o)
  | .cancel id =>
    match o.pending.get? id with
    | some n => .ok (.cancelled id true, o.finish ⟨id, n⟩ .canceled)
    | none => .ok (.cancelled id false, o)
  | .remove id => .ok (.removed id (o.holds id), o.drop id)
  | .extract =>
    match o.waiting with
    | [] => .ok (.extracted none, o)
    | (s, r) :: waiting => .ok (.extracted (some (s.transfer, r)), { o with waiting })

/-- The runs of a new outbox without a fault. -/
inductive Run : List Event → Outbox → Prop where
  | new : Run [] {}
  | step {h : List Event} {o o' : Outbox} {op : Op} {reply : Reply} (before : Run h o)
      (now : o.step op = .ok (reply, o')) : Run (h ++ [⟨op, reply⟩]) o'

end Outbox

/-! ## Refinement -/

/-- What a tracker says of an outbox: the same submissions are in flight, and the queue names the
outcomes that wait, in their order. -/
structure Represents (t : Tracker) (o : Outbox) : Prop where
  pending : ∀ id n, t.entries.get? id = some (.pending n) ↔ o.pending.get? id = some n
  queue : t.completed = o.waiting.map (·.1.transfer)
  outcome : ∀ p ∈ o.waiting, t.entries.get? p.1.transfer = some (.completed p.2)
  submissions : t.submissions = o.submissions

/-- The same fault, or the same reply and a tracker that represents the outbox. -/
inductive Alike : Except Fault (Reply × Tracker) → Except Fault (Reply × Outbox) → Prop where
  | fault (f : Fault) : Alike (.error f) (.error f)
  | reply {t : Tracker} {o : Outbox} (r : Reply) (same : Represents t o) :
      Alike (.ok (r, t)) (.ok (r, o))

section Refinement
variable {t : Tracker} {o : Outbox} {id : TransferId} {n : Nat}

theorem represents_new : Represents {} {} where
  pending := by simp
  queue := rfl
  outcome := by simp
  submissions := rfl

/-- A transfer with an outcome waits in the outbox. -/
theorem Represents.exists_waiting (same : Represents t o) (hc : t.Consistent)
    {r : TransferOutcome} (hr : t.entries.get? id = some (.completed r)) :
    ∃ p ∈ o.waiting, p.1.transfer = id := by
  have hmem : id ∈ t.completed := (hc.mem_queue id).mpr ⟨r, hr⟩
  rw [same.queue] at hmem
  exact List.mem_map.mp hmem

theorem Represents.holds_eq (same : Represents t o) (hc : t.Consistent) (id : TransferId) :
    o.holds id = t.entries.contains id := by
  rw [Bool.eq_iff_iff, contains_iff]
  simp only [Outbox.holds, Bool.or_eq_true, List.any_eq_true, decide_eq_true_eq, Table.contains,
    Option.isSome_iff_exists]
  constructor
  · rintro (⟨n, hn⟩ | ⟨p, hp, rfl⟩)
    · exact ⟨_, (same.pending id n).mpr hn⟩
    · exact ⟨_, same.outcome p hp⟩
  · rintro ⟨e, he⟩
    cases e with
    | pending n => exact Or.inl ⟨n, (same.pending id n).mp he⟩
    | completed r => exact Or.inr (same.exists_waiting hc he)

/-- In the outbox there is nothing in flight for a transfer that is not in flight. -/
theorem Represents.pending_eq_none (same : Represents t o)
    (h : ∀ n, t.entries.get? id ≠ some (.pending n)) : o.pending.get? id = none :=
  Option.eq_none_iff_forall_ne_some.mpr fun n hn => h n ((same.pending id n).mpr hn)

theorem Represents.enlist (same : Represents t o) (hfree : t.entries.get? id = none) :
    Represents (t.enlist id)
      { o with
        pending := o.pending.put id (t.submissions + 1)
        submissions := t.submissions + 1 } where
  pending l n := by
    rw [get?_enlist, Table.get?_put]
    split
    · simp
    · exact same.pending l n
  queue := same.queue
  outcome p hp := by
    have hne : p.1.transfer ≠ id := fun he => by
      have := same.outcome p hp
      rw [he, hfree] at this
      cases this
    rw [get?_enlist, if_neg hne]
    exact same.outcome p hp
  submissions := rfl

theorem Represents.finish (same : Represents t o) {s : Submission}
    (hs : t.entries.get? s.transfer = some (.pending s.number)) (r : TransferOutcome) :
    Represents (t.complete s.transfer r) (o.finish s r) where
  pending l n := by
    rw [get?_complete, Outbox.finish, Table.get?_erase]
    split
    · simp
    · exact same.pending l n
  queue := by
    change t.completed ++ [s.transfer] = _
    simp [Outbox.finish, same.queue]
  outcome p hp := by
    rw [get?_complete]
    rcases List.mem_append.mp hp with hp | hp
    · have hne : p.1.transfer ≠ s.transfer := fun he => by
        have := same.outcome p hp
        rw [he, hs] at this
        cases this
      rw [if_neg hne]
      exact same.outcome p hp
    · obtain rfl := List.mem_singleton.mp hp
      exact if_pos rfl
  submissions := same.submissions

theorem Represents.forget (same : Represents t o) (id : TransferId) :
    Represents (t.forget id) (o.drop id) where
  pending l n := by
    rw [get?_forget, Outbox.drop, Table.get?_erase]
    split
    · simp
    · exact same.pending l n
  queue := by
    change t.completed.filter (· ≠ id) = _
    rw [same.queue, List.filter_map]
    rfl
  outcome p hp := by
    obtain ⟨hp, hne⟩ := List.mem_filter.mp hp
    rw [get?_forget, if_neg (by simpa using hne)]
    exact same.outcome p hp
  submissions := same.submissions

theorem Represents.waiting_drop (same : Represents t o) (hfree : t.entries.get? id = none) :
    (o.drop id).waiting = o.waiting := by
  refine List.filter_eq_self.mpr fun p hp => decide_eq_true fun he => ?_
  have hentry := same.outcome p hp
  rw [he, hfree] at hentry
  cases hentry

/-- Dropping what is not held changes nothing that a tracker knows of. -/
theorem Represents.drop_of_free (same : Represents t o) (hfree : t.entries.get? id = none) :
    Represents t (o.drop id) where
  pending l n := by
    rw [same.pending, Outbox.drop, Table.get?_erase]
    split
    · rename_i hl
      have hnone : o.pending.get? l = none := same.pending_eq_none (by simp [hl, hfree])
      simp [hnone]
    · rfl
  queue := by rw [same.waiting_drop hfree, same.queue]
  outcome p hp := same.outcome p (List.mem_filter.mp hp).1
  submissions := same.submissions

theorem Represents.takeFirst (same : Represents t o) (hc : t.Consistent) {s : Submission}
    {r : TransferOutcome} {waiting : List (Submission × TransferOutcome)}
    (hw : o.waiting = (s, r) :: waiting) :
    Represents
      { t with entries := t.entries.erase s.transfer, completed := waiting.map (·.1.transfer) }
      { o with waiting } := by
  have hq : t.completed = s.transfer :: waiting.map (·.1.transfer) := by
    simp [same.queue, hw]
  have hfirst : t.entries.get? s.transfer = some (.completed r) :=
    same.outcome (s, r) (hw ▸ List.mem_cons_self ..)
  refine ⟨fun l n => ?_, rfl, fun p hp => ?_, same.submissions⟩
  · rw [Table.get?_erase]
    split
    · rename_i hl
      have hnone : o.pending.get? l = none := same.pending_eq_none (by simp [hl, hfirst])
      simp [hnone]
    · exact same.pending l n
  · have hne : p.1.transfer ≠ s.transfer := fun he =>
      (List.nodup_cons.mp (hq ▸ hc.queue_nodup)).1 (he ▸ List.mem_map_of_mem hp)
    rw [Table.get?_erase, if_neg hne]
    exact same.outcome p (hw ▸ List.mem_cons_of_mem _ hp)

/-- **A tracker and the outbox that it represents answer alike.** -/
theorem Represents.step (same : Represents t o) (hc : t.Consistent) (op : Op) :
    Alike (t.step op) (o.step op) := by
  cases op with
  | register id =>
    have hholds := same.holds_eq hc id
    simp only [Tracker.step, Outbox.step, register, hholds]
    split
    · exact .fault _
    · rename_i hfree
      have hnone : t.entries.get? id = none := by simpa [Table.contains] using hfree
      rw [← same.submissions]
      exact .reply _ (same.enlist hnone)
  | deliver s r =>
    -- Both let the answer count only while this very submission is in flight.
    have hholds := same.holds_eq hc s.transfer
    simp only [Tracker.step, Outbox.step, deliver, hholds, ← same.pending]
    cases he : t.entries.get? s.transfer with
    | none => simpa [Table.contains, he] using Alike.reply _ same
    | some e =>
      cases e with
      | completed q => simpa [Table.contains, he] using Alike.reply _ same
      | pending n =>
        by_cases hn : n = s.number
        · subst hn
          simpa using Alike.reply _ (same.finish he r)
        · simpa [Table.contains, he, hn] using Alike.reply _ same
  | cancel id =>
    simp only [Tracker.step, Outbox.step, cancel]
    cases he : t.entries.get? id with
    | none =>
      rw [same.pending_eq_none (by simp [he])]
      exact .reply _ same
    | some e =>
      cases e with
      | completed q =>
        rw [same.pending_eq_none (by simp [he])]
        exact .reply _ same
      | pending n =>
        rw [(same.pending id n).mp he]
        exact .reply _ (same.finish (s := ⟨id, n⟩) he .canceled)
  | remove id =>
    have hholds := same.holds_eq hc id
    simp only [Tracker.step, Outbox.step, remove, hholds]
    split
    · rename_i hheld
      rw [hheld]
      exact .reply _ (same.forget id)
    · rename_i hfree
      have hnone : t.entries.get? id = none := by simpa [Table.contains] using hfree
      rw [Bool.eq_false_iff.mpr hfree]
      exact .reply _ (same.drop_of_free hnone)
  | extract =>
    simp only [Tracker.step, Outbox.step, extract, same.queue]
    cases hw : o.waiting with
    | nil =>
      have ht : { t with completed := [] } = t := by
        rw [show [] = t.completed by rw [same.queue, hw]; rfl]
      simpa [extractFrom, ht] using Alike.reply _ same
    | cons p waiting =>
      have hr : t.entries.get? p.1.transfer = some (.completed p.2) :=
        same.outcome p (hw ▸ List.mem_cons_self ..)
      simpa [extractFrom, hr] using Alike.reply _ (same.takeFirst hc hw)

end Refinement

/-! ## Completions -/

/-- The outcome that an event after `before` brings about: an answer that is accepted, or a
cancellation that is done. -/
def Event.completion? (before : List Event) (e : Event) : Option (Submission × TransferOutcome) :=
  match e.op, e.reply with
  | .deliver s r, .delivered _ .accepted => some (s, r)
  | .cancel id, .cancelled _ true => (latest before id).map (·, .canceled)
  | _, _ => none

/-- The outcomes that the events after `before` bring about. -/
def completionsAfter (before : List Event) : List Event → List (Submission × TransferOutcome)
  | [] => []
  | e :: h => (e.completion? before).toList ++ completionsAfter (before ++ [e]) h

/-- The submissions that were completed, with their outcomes, oldest first. -/
def completions (h : List Event) : List (Submission × TransferOutcome) := completionsAfter [] h

/-- The transfer of `s` was removed after `s` was completed and before it was handed out. -/
def Discarded (h : List Event) (s : Submission) : Prop :=
  ∃ before e after, h = before ++ e :: after ∧ e.reply = .removed s.transfer true ∧
    s ∈ (completions before).map Prod.fst ∧ s ∉ (handedOut before).map Prod.fst

open Classical in
/-- The completions that were not discarded. -/
noncomputable def retained (h : List Event) : List (Submission × TransferOutcome) :=
  (completions h).filter fun p => ¬ Discarded h p.1

section History
variable {h : List Event} {e : Event} {s : Submission} {r : TransferOutcome}

theorem completionsAfter_append (before g : List Event) :
    completionsAfter before (h ++ g) =
      completionsAfter before h ++ completionsAfter (before ++ h) g := by
  induction h generalizing before with
  | nil => simp [completionsAfter]
  | cons x h ih => simp [completionsAfter, ih]

theorem completions_snoc : completions (h ++ [e]) = completions h ++ (e.completion? h).toList := by
  simp [completions, completionsAfter_append, completionsAfter]

theorem discarded_snoc :
    Discarded (h ++ [e]) s ↔ Discarded h s ∨
      (e.reply = .removed s.transfer true ∧ s ∈ (completions h).map Prod.fst ∧
        s ∉ (handedOut h).map Prod.fst) := by
  unfold Discarded
  rw [split_snoc, or_comm]

/-- Only what has been completed is discarded. -/
theorem Discarded.completed (discarded : Discarded h s) : s ∈ (completions h).map Prod.fst := by
  obtain ⟨before, e, after, rfl, -, hs, -⟩ := discarded
  rw [completions, completionsAfter_append, List.map_append]
  exact List.mem_append_left _ hs

/-- An event that brings nothing about and removes nothing. -/
theorem retained_snoc_of_idle (hcompletion : e.completion? h = none)
    (hremove : ∀ id, e.reply ≠ .removed id true) : retained (h ++ [e]) = retained h := by
  unfold retained
  rw [completions_snoc, hcompletion, Option.toList_none, List.append_nil]
  refine List.filter_congr fun p _ => ?_
  simp [discarded_snoc, hremove]

/-- An event that completes a submission for the first time. -/
theorem retained_snoc_of_completion (hcompletion : e.completion? h = some (s, r))
    (hremove : ∀ id, e.reply ≠ .removed id true) (hnew : s ∉ (completions h).map Prod.fst) :
    retained (h ++ [e]) = retained h ++ [(s, r)] := by
  have hkept : ¬ Discarded h s := fun hd => hnew hd.completed
  unfold retained
  rw [completions_snoc, hcompletion, Option.toList_some, List.filter_append]
  congr 1
  · refine List.filter_congr fun p _ => ?_
    simp [discarded_snoc, hremove]
  · simp [discarded_snoc, hremove, hkept]

/-- A removal keeps what has been handed out, and the other transfers. -/
theorem retained_snoc_of_removal {id : TransferId} (hcompletion : e.completion? h = none)
    (hremove : e.reply = .removed id true) :
    retained (h ++ [e]) = (retained h).filter
      fun p => p.1 ∈ (handedOut h).map Prod.fst ∨ p.1.transfer ≠ id := by
  unfold retained
  rw [completions_snoc, hcompletion, Option.toList_none, List.append_nil, List.filter_filter]
  refine List.filter_congr fun p hp => ?_
  have hcompleted : p.1 ∈ (completions h).map Prod.fst := List.mem_map_of_mem hp
  by_cases hd : Discarded h p.1 <;> by_cases hh : p.1 ∈ (handedOut h).map Prod.fst <;>
    simp [discarded_snoc, hremove, hd, hh, hcompleted, eq_comm]

end History

/-! ## What became of the completions -/

section Balance
variable {h : List Event} {t t' : Tracker} {o : Outbox} {e : Event} {s : Submission}
  {r : TransferOutcome}

/-- What is completed has finished. -/
theorem Run.finished_of_completion (run : Run h t) (hs : (s, r) ∈ completions h) :
    Finished h s r := by
  induction run with
  | new => cases hs
  | @step h t t' op reply before now ih =>
    rw [completions_snoc, List.mem_append] at hs
    rcases hs with hs | hs
    · exact finished_snoc.mpr (Or.inl (ih hs))
    · refine finished_snoc.mpr (Or.inr ?_)
      have l := before.ledger
      cases l.consistent.effect now with
      | accepted u q pending =>
        obtain ⟨rfl, rfl⟩ : s = u ∧ r = q := by simpa [Event.completion?] using hs
        exact ⟨(l.pending s).mp pending, Or.inl rfl⟩
      | cancelled id n pending =>
        have hl := l.pending_latest id n pending
        obtain ⟨rfl, rfl⟩ : s = ⟨id, n⟩ ∧ r = .canceled := by
          simpa [Event.completion?, hl] using hs
        exact ⟨(l.pending _).mp pending, Or.inr ⟨rfl, rfl⟩⟩
      | dropped u q d late other => cases d <;> simp_all [Event.completion?]
      | _ => simp [Event.completion?] at hs

/-- What is in flight has not been completed. -/
theorem Run.not_completed (run : Run h t)
    (hs : t.entries.get? s.transfer = some (.pending s.number)) :
    s ∉ (completions h).map Prod.fst := by
  intro hmem
  obtain ⟨⟨u, r⟩, hu, rfl⟩ := List.mem_map.mp hmem
  exact run.not_pending (run.finished_of_completion hu) ((run.ledger.pending _).mp hs)

/-- What the history `h` says of an outbox: the outcomes handed out and those that wait are the
completions that were not discarded, and those that wait answer the latest submissions. -/
structure Balanced (h : List Event) (o : Outbox) : Prop where
  latest : ∀ p ∈ o.waiting, latest h p.1.transfer = some p.1
  balance : handedOut h ++ o.waiting = retained h

theorem balanced_new : Balanced [] {} where
  latest := by simp
  balance := by simp [handedOut, handedOutAfter, retained, completions, completionsAfter]

/-- What waits has not been handed out. -/
theorem Balanced.not_handedOut (balanced : Balanced h o) (same : Represents t o)
    (l : Ledger h t) {p : Submission × TransferOutcome} (hp : p ∈ o.waiting) :
    p.1 ∉ (handedOut h).map Prod.fst :=
  l.kept _ _ _ (same.outcome p hp) (balanced.latest p hp)

/-- What waits stays the latest submission of its transfer. -/
theorem Balanced.latest_snoc (balanced : Balanced h o) (same : Represents t o)
    (effect : Effect t e t') {p : Submission × TransferOutcome} (hp : p ∈ o.waiting) :
    Tracker.latest (h ++ [e]) p.1.transfer = some p.1 := by
  have tracked : t.entries.get? p.1.transfer ≠ none := by simp [same.outcome p hp]
  exact (effect.latest_snoc tracked).trans (balanced.latest p hp)

/-- An event that changes nothing of what waits. -/
theorem Balanced.still (balanced : Balanced h o) (same : Represents t o) (effect : Effect t e t')
    (hcompletion : e.completion? h = none) (hremove : ∀ id, e.reply ≠ .removed id true)
    (hout : e.extraction? = none) {o' : Outbox} (hwaiting : o'.waiting = o.waiting) :
    Balanced (h ++ [e]) o' where
  latest p hp := balanced.latest_snoc same effect (hwaiting ▸ hp)
  balance := by
    rw [handedOut_snoc_of_not_extraction hout, hwaiting, balanced.balance,
      retained_snoc_of_idle hcompletion hremove]

/-- An event that completes a submission in flight. -/
theorem Balanced.finish (balanced : Balanced h o) (same : Represents t o) (run : Run h t)
    (effect : Effect t e t') (hs : t.entries.get? s.transfer = some (.pending s.number))
    (hcompletion : e.completion? h = some (s, r)) (hremove : ∀ id, e.reply ≠ .removed id true)
    (hout : e.extraction? = none) : Balanced (h ++ [e]) (o.finish s r) where
  latest p hp := by
    rcases List.mem_append.mp hp with hp | hp
    · exact balanced.latest_snoc same effect hp
    · obtain rfl := List.mem_singleton.mp hp
      exact (effect.latest_snoc (by simp [hs])).trans (run.ledger.pending_latest _ _ hs)
  balance := by
    change handedOut (h ++ [e]) ++ (o.waiting ++ [(s, r)]) = _
    rw [handedOut_snoc_of_not_extraction hout, ← List.append_assoc, balanced.balance,
      retained_snoc_of_completion hcompletion hremove (run.not_completed hs)]

/-- A removal discards what waits of the transfer, and nothing else. -/
theorem Balanced.drop (balanced : Balanced h o) (same : Represents t o) (l : Ledger h t)
    (effect : Effect t e t') {id : TransferId} (hcompletion : e.completion? h = none)
    (hremove : e.reply = .removed id true) (hout : e.extraction? = none) :
    Balanced (h ++ [e]) (o.drop id) where
  latest p hp := balanced.latest_snoc same effect (List.mem_filter.mp hp).1
  balance := by
    have hhanded : (handedOut h).filter
        (fun p => p.1 ∈ (handedOut h).map Prod.fst ∨ p.1.transfer ≠ id) = handedOut h :=
      List.filter_eq_self.mpr fun p hp => decide_eq_true (Or.inl (List.mem_map_of_mem hp))
    have hwaiting : o.waiting.filter
        (fun p => p.1 ∈ (handedOut h).map Prod.fst ∨ p.1.transfer ≠ id) = (o.drop id).waiting := by
      refine List.filter_congr fun p hp => ?_
      simp [balanced.not_handedOut same l hp]
    rw [handedOut_snoc_of_not_extraction hout, retained_snoc_of_removal hcompletion hremove,
      ← balanced.balance, List.filter_append, hhanded, hwaiting]

/-- An extraction moves the first of what waits to what was handed out. -/
theorem Balanced.takeFirst (balanced : Balanced h o) (same : Represents t o)
    (effect : Effect t e t') {waiting : List (Submission × TransferOutcome)}
    (hw : o.waiting = (s, r) :: waiting) (hcompletion : e.completion? h = none)
    (hremove : ∀ id, e.reply ≠ .removed id true)
    (hout : e.extraction? = some (s.transfer, r)) : Balanced (h ++ [e]) { o with waiting } where
  latest p hp := balanced.latest_snoc same effect (hw ▸ List.mem_cons_of_mem _ hp)
  balance := by
    have hlatest : Tracker.latest h s.transfer = some s :=
      balanced.latest (s, r) (hw ▸ List.mem_cons_self ..)
    have hhands : e.handsOut? h = some (s, r) := by simp [Event.handsOut?, hout, hlatest]
    rw [handedOut_snoc, hhands, Option.toList_some, List.append_assoc,
      retained_snoc_of_idle hcompletion hremove, ← balanced.balance, hw]
    rfl

/-- **Every step keeps the balance.** -/
theorem Balanced.next (balanced : Balanced h o) (run : Run h t) (same : Represents t o) {op : Op}
    {reply : Reply} {o' : Outbox} (effect : Effect t ⟨op, reply⟩ t')
    (now : o.step op = .ok (reply, o')) : Balanced (h ++ [⟨op, reply⟩]) o' := by
  have effect' := effect
  -- What the tracker did decides what the outbox can have done.
  cases effect with
  | registered id free =>
    simp only [Outbox.step] at now
    split at now
    · cases now
    · obtain ⟨-, rfl⟩ := Prod.mk.inj (Except.ok.inj now)
      exact balanced.still same effect' rfl (by simp) rfl rfl
  | accepted s r pending =>
    simp only [Outbox.step, if_pos ((same.pending _ _).mp pending)] at now
    cases now
    exact balanced.finish same run effect' pending rfl (by simp) rfl
  | dropped s r d late other =>
    simp only [Outbox.step, if_neg fun h => other ((same.pending _ _).mpr h)] at now
    cases now
    refine balanced.still same effect' ?_ (by simp) rfl rfl
    split <;> rfl
  | cancelled id n pending =>
    simp only [Outbox.step, (same.pending _ _).mp pending] at now
    cases now
    have hlatest := run.ledger.pending_latest id n pending
    exact balanced.finish (s := ⟨id, n⟩) same run effect' pending
      (by simp [Event.completion?, hlatest]) (by simp) rfl
  | notPending id other =>
    simp only [Outbox.step, same.pending_eq_none other] at now
    cases now
    exact balanced.still same effect' rfl (by simp) rfl rfl
  | removed id x tracked =>
    obtain ⟨-, rfl⟩ : _ ∧ o.drop id = o' := by simpa [Outbox.step] using now
    exact balanced.drop same run.ledger effect' rfl rfl rfl
  | notTracked id free =>
    obtain ⟨-, rfl⟩ : _ ∧ o.drop id = o' := by simpa [Outbox.step] using now
    exact balanced.still same effect' rfl (by simp) rfl (same.waiting_drop free)
  | extracted id r queue first outcome =>
    cases hw : o.waiting with
    | nil =>
      simp only [Outbox.step, hw] at now
      cases now
    | cons p waiting =>
      simp only [Outbox.step, hw] at now
      cases now
      exact balanced.takeFirst same effect' hw rfl (by simp) rfl
  | nothing empty =>
    cases hw : o.waiting with
    | nil =>
      simp only [Outbox.step, hw] at now
      cases now
      exact balanced.still same effect' rfl (by simp) rfl rfl
    | cons p waiting =>
      simp only [Outbox.step, hw] at now
      cases now

end Balance

/-! ## Main result -/

/-- **Oldest first, and nothing lost.**  Every run of a tracker is a run of an outbox with the same
replies, and ends in a tracker that represents it and goes on answering like it.  What has been
handed out, followed by what waits, are the completions in the order in which they came about,
without those that were discarded. -/
theorem Run.oldest_first {h : List Event} {t : Tracker} (run : Run h t) :
    ∃ o, Outbox.Run h o ∧ Represents t o ∧ (∀ op, Alike (t.step op) (o.step op)) ∧
      handedOut h ++ o.waiting = retained h := by
  suffices hrun : ∃ o, Outbox.Run h o ∧ Represents t o ∧ Balanced h o by
    obtain ⟨o, orun, same, balanced⟩ := hrun
    exact ⟨o, orun, same, same.step run.consistent, balanced.balance⟩
  induction run with
  | new => exact ⟨{}, .new, represents_new, balanced_new⟩
  | @step h t t' op reply before now ih =>
    obtain ⟨o, orun, same, balanced⟩ := ih
    have alike := same.step before.consistent op
    rw [now] at alike
    generalize hnow : o.step op = result at alike
    cases alike with
    | @reply _ o' _ same' =>
      have effect := before.consistent.effect now
      exact ⟨o', orun.step hnow, same', balanced.next before same effect hnow⟩

/-- Three transfers complete in turn, the second is removed, and the first is handed out. -/
theorem oldest_first_removed :
    ∃ h t, Run h t ∧
      completions h = [(⟨⟨1⟩, 1⟩, .canceled), (⟨⟨2⟩, 2⟩, .canceled), (⟨⟨3⟩, 3⟩, .failed "gone")] ∧
      handedOut h = [(⟨⟨1⟩, 1⟩, .canceled)] ∧
      ∃ o, Outbox.Run h o ∧ o.waiting.map (·.1.transfer) = [⟨3⟩] ∧
        handedOut h ++ o.waiting = retained h := by
  have run : Run
      [⟨.register ⟨1⟩, .registered ⟨⟨1⟩, 1⟩⟩, ⟨.register ⟨2⟩, .registered ⟨⟨2⟩, 2⟩⟩,
        ⟨.register ⟨3⟩, .registered ⟨⟨3⟩, 3⟩⟩, ⟨.cancel ⟨1⟩, .cancelled ⟨1⟩ true⟩,
        ⟨.cancel ⟨2⟩, .cancelled ⟨2⟩ true⟩,
        ⟨.deliver ⟨⟨3⟩, 3⟩ (.failed "gone"), .delivered ⟨⟨3⟩, 3⟩ .accepted⟩,
        ⟨.remove ⟨2⟩, .removed ⟨2⟩ true⟩, ⟨.extract, .extracted (some (⟨1⟩, .canceled))⟩] _ :=
    .step (.step (.step (.step (.step (.step (.step (.step .new rfl) rfl) rfl) rfl) rfl) rfl) rfl)
      rfl
  obtain ⟨o, orun, same, -, balance⟩ := run.oldest_first
  exact ⟨_, _, run, rfl, rfl, o, orun, same.queue.symm, balance⟩

end Tracker
end UsbHost
