import UsbHost.Tracker

/-! # What one operation does to a tracker

`Tracker.step` decides by nested matches what an operation does.  `Effect` lists
the outcomes, one constructor each, with what must hold for it, what is replied
and what the tracker is afterwards; `Consistent.effect` says that every step
without a fault is one of them.  Facts about runs are then proved by cases on the
effect.

An effect takes the first of the completed transfers.  The code looks further
when that one has no outcome, but on a tracker whose queue and entries agree
(`Consistent`) it never has to, and every effect keeps the agreement.
-/
namespace UsbHost
namespace Tracker

/-- The queue holds exactly the transfers that have an outcome, each once, and
submission numbers in flight have been given out. -/
structure Consistent (t : Tracker) : Prop where
  queue_nodup : t.completed.Nodup
  mem_queue : ∀ id, id ∈ t.completed ↔ ∃ r, t.entries.get? id = some (.completed r)
  number_le : ∀ id n, t.entries.get? id = some (.pending n) → n ≤ t.submissions

/-- The tracker in which a transfer has been submitted. -/
def enlist (t : Tracker) (id : TransferId) : Tracker :=
  { t with entries := t.entries.put id (.pending (t.submissions + 1)),
           submissions := t.submissions + 1 }

/-- The tracker without a transfer. -/
def forget (t : Tracker) (id : TransferId) : Tracker :=
  { t with entries := t.entries.erase id, completed := t.completed.filter (· ≠ id) }

/-- An operation with the tracker's reply. -/
structure Event where
  op : Op
  reply : Reply
deriving DecidableEq, Repr

/-- What an operation did, by cases. -/
inductive Effect (t : Tracker) : Event → Tracker → Prop where
  | registered (id : TransferId) (free : t.entries.get? id = none) :
      Effect t ⟨.register id, .registered ⟨id, t.submissions + 1⟩⟩ (t.enlist id)
  | accepted (s : Submission) (r : TransferOutcome)
      (pending : t.entries.get? s.transfer = some (.pending s.number)) :
      Effect t ⟨.deliver s r, .delivered s .accepted⟩ (t.complete s.transfer r)
  | dropped (s : Submission) (r : TransferOutcome) (d : Delivery) (late : d ≠ .accepted)
      (other : t.entries.get? s.transfer ≠ some (.pending s.number)) :
      Effect t ⟨.deliver s r, .delivered s d⟩ t
  | cancelled (id : TransferId) (n : Nat) (pending : t.entries.get? id = some (.pending n)) :
      Effect t ⟨.cancel id, .cancelled id true⟩ (t.complete id .canceled)
  | notPending (id : TransferId) (other : ∀ n, t.entries.get? id ≠ some (.pending n)) :
      Effect t ⟨.cancel id, .cancelled id false⟩ t
  | removed (id : TransferId) (e : Entry) (tracked : t.entries.get? id = some e) :
      Effect t ⟨.remove id, .removed id true⟩ (t.forget id)
  | notTracked (id : TransferId) (free : t.entries.get? id = none) :
      Effect t ⟨.remove id, .removed id false⟩ t
  | extracted (id : TransferId) (r : TransferOutcome) (queue : List TransferId)
      (first : t.completed = id :: queue) (outcome : t.entries.get? id = some (.completed r)) :
      Effect t ⟨.extract, .extracted (some (id, r))⟩
        { t with entries := t.entries.erase id, completed := queue }
  | nothing (empty : t.completed = []) : Effect t ⟨.extract, .extracted none⟩ t

/-! ## Every step is an effect -/

variable {t t' : Tracker}

theorem contains_iff {id : TransferId} :
    t.entries.contains id = true ↔ ∃ e, t.entries.get? id = some e := by
  rw [Table.contains, Option.isSome_iff_exists]

theorem register_effect {id : TransferId} {s : Submission} (h : t.register id = .ok (s, t')) :
    Effect t ⟨.register id, .registered s⟩ t' := by
  unfold register at h
  split at h
  · cases h
  · rename_i hfree
    have hnone : t.entries.get? id = none := by
      simpa [Table.contains] using hfree
    cases h
    exact .registered id hnone

theorem deliver_effect (t : Tracker) (s : Submission) (r : TransferOutcome) :
    Effect t ⟨.deliver s r, .delivered s (t.deliver s r).1⟩ (t.deliver s r).2 := by
  unfold deliver
  cases he : t.entries.get? s.transfer with
  | none => exact .dropped s r _ (by simp) (by simp [he])
  | some e =>
    cases e with
    | completed _ => exact .dropped s r _ (by simp) (by simp [he])
    | pending n =>
      by_cases hn : n = s.number
      · subst hn
        simpa using Effect.accepted s r he
      · simpa [hn] using Effect.dropped s r .late (by simp) (by simp [he, hn])

theorem deliver_accepted_iff (s : Submission) (r : TransferOutcome) :
    (t.deliver s r).1 = .accepted ↔ t.entries.get? s.transfer = some (.pending s.number) := by
  unfold deliver
  split
  · rename_i n he
    by_cases hn : n = s.number <;> simp [he, hn]
  · rename_i he
    simp [he]
  · rename_i he
    simp [he]

/-- An answer to anything but the submission in flight changes nothing. -/
theorem deliver_of_other {s : Submission} (r : TransferOutcome)
    (h : t.entries.get? s.transfer ≠ some (.pending s.number)) : (t.deliver s r).2 = t := by
  unfold deliver
  split
  · rename_i n he
    have hn : n ≠ s.number := fun hn => h (hn ▸ he)
    simp [hn]
  · rfl
  · rfl

theorem cancel_effect (t : Tracker) (id : TransferId) :
    Effect t ⟨.cancel id, .cancelled id (t.cancel id).1⟩ (t.cancel id).2 := by
  unfold cancel
  cases he : t.entries.get? id with
  | none => exact .notPending id (by simp [he])
  | some e =>
    cases e with
    | completed _ => exact .notPending id (by simp [he])
    | pending n => exact .cancelled id n he

theorem remove_effect (t : Tracker) (id : TransferId) :
    Effect t ⟨.remove id, .removed id (t.remove id).1⟩ (t.remove id).2 := by
  unfold remove
  split
  · rename_i hc
    obtain ⟨e, he⟩ := contains_iff.mp hc
    exact .removed id e he
  · rename_i hc
    exact .notTracked id (by simpa [Table.contains] using hc)

/-- The first of the queue has an outcome, so it is what an extraction takes. -/
theorem Consistent.extract_effect (hc : t.Consistent) :
    Effect t ⟨.extract, .extracted t.extract.1⟩ t.extract.2 := by
  unfold extract
  cases hq : t.completed with
  | nil =>
    have ht : { t with completed := [] } = t := by rw [← hq]
    simpa [extractFrom, ht] using Effect.nothing hq
  | cons id queue =>
    obtain ⟨r, hr⟩ := (hc.mem_queue id).mp (by rw [hq]; exact List.mem_cons_self ..)
    simpa [extractFrom, hr] using Effect.extracted id r queue hq hr

/-- **Every step without a fault is an effect.** -/
theorem Consistent.effect (hc : t.Consistent) {op : Op} {reply : Reply}
    (h : t.step op = .ok (reply, t')) : Effect t ⟨op, reply⟩ t' := by
  cases op with
  | register id =>
    cases hr : t.register id with
    | error f => simp [step, hr, bind, Except.bind] at h
    | ok p =>
      obtain ⟨s, u⟩ := p
      have hp : Reply.registered s = reply ∧ u = t' := by
        simpa [step, hr, bind, Except.bind, pure, Except.pure] using h
      obtain ⟨rfl, rfl⟩ := hp
      exact register_effect hr
  | deliver s r =>
    obtain ⟨rfl, rfl⟩ : _ ∧ _ := by simpa [step] using h
    exact deliver_effect t s r
  | cancel id =>
    obtain ⟨rfl, rfl⟩ : _ ∧ _ := by simpa [step] using h
    exact cancel_effect t id
  | remove id =>
    obtain ⟨rfl, rfl⟩ : _ ∧ _ := by simpa [step] using h
    exact remove_effect t id
  | extract =>
    obtain ⟨rfl, rfl⟩ : _ ∧ _ := by simpa [step] using h
    exact hc.extract_effect

/-! ## Effects keep the agreement -/

@[simp] theorem get?_enlist (t : Tracker) (id l : TransferId) :
    (t.enlist id).entries.get? l =
      if l = id then some (.pending (t.submissions + 1)) else t.entries.get? l :=
  Table.get?_put ..

@[simp] theorem get?_complete (t : Tracker) (id l : TransferId) (r : TransferOutcome) :
    (t.complete id r).entries.get? l =
      if l = id then some (.completed r) else t.entries.get? l :=
  Table.get?_put ..

@[simp] theorem get?_forget (t : Tracker) (id l : TransferId) :
    (t.forget id).entries.get? l = if l = id then none else t.entries.get? l :=
  Table.get?_erase ..

theorem consistent_empty : Consistent {} where
  queue_nodup := List.nodup_nil
  mem_queue := by simp
  number_le := by simp

theorem Consistent.not_mem_queue (hc : t.Consistent) {id : TransferId}
    (h : ∀ r, t.entries.get? id ≠ some (.completed r)) : id ∉ t.completed := by
  intro hmem
  obtain ⟨r, hr⟩ := (hc.mem_queue id).mp hmem
  exact h r hr

theorem Consistent.enlist (hc : t.Consistent) {id : TransferId}
    (hfree : t.entries.get? id = none) : (t.enlist id).Consistent where
  queue_nodup := hc.queue_nodup
  mem_queue l := by
    change l ∈ t.completed ↔ _
    by_cases hl : l = id
    · subst hl
      have hfresh : l ∉ t.completed := hc.not_mem_queue (by simp [hfree])
      simp [hfresh]
    · simp [hl, hc.mem_queue l]
  number_le l n hn := by
    change n ≤ t.submissions + 1
    rw [get?_enlist] at hn
    split at hn
    · cases hn
      exact Nat.le_refl _
    · exact Nat.le_succ_of_le (hc.number_le l n hn)

theorem Consistent.complete (hc : t.Consistent) {id : TransferId} {n : Nat}
    (hp : t.entries.get? id = some (.pending n)) (r : TransferOutcome) :
    (t.complete id r).Consistent where
  queue_nodup := by
    refine List.nodup_append.mpr ⟨hc.queue_nodup, by simp, ?_⟩
    intro a ha b hb he
    rw [List.mem_singleton] at hb
    subst hb he
    exact hc.not_mem_queue (by simp [hp]) ha
  mem_queue l := by
    change l ∈ t.completed ++ [id] ↔ _
    by_cases hl : l = id
    · simp [hl]
    · simp [hl, hc.mem_queue l]
  number_le l m hm := by
    rw [get?_complete] at hm
    split at hm
    · cases hm
    · exact hc.number_le l m hm

theorem Consistent.forget (hc : t.Consistent) (id : TransferId) : (t.forget id).Consistent where
  queue_nodup := hc.queue_nodup.filter _
  mem_queue l := by
    change l ∈ t.completed.filter (· ≠ id) ↔ _
    by_cases hl : l = id
    · simp [hl]
    · simp [hl, hc.mem_queue l]
  number_le l n hn := by
    rw [get?_forget] at hn
    split at hn
    · cases hn
    · exact hc.number_le l n hn

/-- Taking the first of the queue out of the entries too. -/
theorem Consistent.takeFirst (hc : t.Consistent) {id : TransferId} {queue : List TransferId}
    (hq : t.completed = id :: queue) :
    Consistent { t with entries := t.entries.erase id, completed := queue } := by
  have hnd : id ∉ queue ∧ queue.Nodup := List.nodup_cons.mp (hq ▸ hc.queue_nodup)
  refine ⟨hnd.2, fun l => ?_, fun l n hn => ?_⟩
  · by_cases hl : l = id
    · simp [hl, hnd.1]
    · have := hc.mem_queue l
      rw [hq, List.mem_cons, or_iff_right hl] at this
      simpa [Table.get?_erase, hl] using this
  · change (t.entries.erase id).get? l = _ at hn
    rw [Table.get?_erase] at hn
    split at hn
    · cases hn
    · exact hc.number_le l n hn

/-- **Effects keep queue and entries in agreement.** -/
theorem Consistent.next (hc : t.Consistent) {e : Event} (h : Effect t e t') : t'.Consistent := by
  cases h with
  | registered id free => exact hc.enlist free
  | accepted s r pending => exact hc.complete pending r
  | cancelled id n pending => exact hc.complete pending .canceled
  | removed id e tracked => exact hc.forget id
  | extracted id r queue first outcome => exact hc.takeFirst first
  | dropped | notPending | notTracked | nothing => exact hc

/-! ## Runs -/

/-- The runs of a new tracker without a fault: the events, oldest first, and the
tracker they lead to.  Who calls does not matter, since every operation is done
under the lock. -/
inductive Run : List Event → Tracker → Prop where
  | new : Run [] {}
  | step {h : List Event} {t t' : Tracker} {op : Op} {reply : Reply} (before : Run h t)
      (now : t.step op = .ok (reply, t')) : Run (h ++ [⟨op, reply⟩]) t'

theorem Run.consistent {h : List Event} (run : Run h t) : t.Consistent := by
  induction run with
  | new => exact consistent_empty
  | step _ now ih => exact ih.next (ih.effect now)

end Tracker
end UsbHost
