import UsbHost.Command
import UsbHost.Proofs.Session.Rounds

/-! # Waiting in all surroundings

While a command waits for its transfer, the platform changes by itself and answers arrive,
to its transfer and to others, at any time and more than once.  What is to happen is
written down beforehand, an `Interval` for each round of events; and what is opened and
closed is written down as it happens.  A platform with both is `Observed`.

Whatever the intervals are, waiting comes to its end (`waitFor_spec`): the transfer has
been finished with the first answer that arrived in time, or it waits still.
-/
namespace UsbHost

/-- A connection to a device is opened or closed. -/
inductive Passage where
  | opened (connection : ConnectionId)
  | closed (connection : ConnectionId)
deriving DecidableEq, Repr

/-- What happens until the next round of events: the platform changes by itself, and then
answers arrive. -/
structure Interval (σ : Type) where
  change : σ → σ := id
  answers : List (Ticket × TransferOutcome) := []

/-- A platform with what is going to happen and with what was opened and closed. -/
structure Observed (σ : Type) where
  platform : σ
  intervals : List (Interval σ) := []
  /-- Oldest first. -/
  passages : List Passage := []

namespace Observed
variable {σ α : Type}

/-- Does something with the platform. -/
def within (action : StateM σ α) : StateM (Observed σ) α := fun w =>
  ((action.run w.platform).1, { w with platform := (action.run w.platform).2 })

def writeDown (passages : List Passage) : StateM (Observed σ) Unit :=
  modify fun w => { w with passages := w.passages ++ passages }

/-- What is opened with an outcome. -/
def openedBy : Outcome ConnectionId → List Passage
  | .succeeded connection => [.opened connection]
  | _ => []

instance [Platform σ] : Platform (Observed σ) where
  getDevices := within Platform.getDevices
  getConfigurations device := within (Platform.getConfigurations device)
  openDevice device := do
    let outcome ← within (Platform.openDevice device)
    writeDown (openedBy outcome)
    return outcome
  closeDevice connection := do
    writeDown [.closed connection]
    within (Platform.closeDevice connection)
  claimInterface connection number := within (Platform.claimInterface connection number)
  releaseInterface connection number := within (Platform.releaseInterface connection number)
  resetDevice connection := within (Platform.resetDevice connection)
  transfer connection request := within (Platform.transfer connection request)
  startTransfer connection request ticket :=
    within (Platform.startTransfer connection request ticket)

/-- The answers that arrive in the first intervals. -/
def arriving (rounds : Nat) (w : Observed σ) : List (Ticket × TransferOutcome) :=
  (w.intervals.take rounds).flatMap (·.answers)

/-- The platform after the next interval. -/
def next (w : Observed σ) : Observed σ :=
  match w.intervals with
  | [] => w
  | interval :: later => { w with platform := interval.change w.platform, intervals := later }

theorem passages_next (w : Observed σ) : w.next.passages = w.passages := by
  unfold next
  split <;> rfl

theorem arriving_succ (rounds : Nat) (w : Observed σ) :
    w.arriving (rounds + 1) = w.arriving 1 ++ w.next.arriving rounds := by
  obtain ⟨platform, intervals, passages⟩ := w
  cases intervals with
  | nil => simp [arriving, next]
  | cons interval later => simp [arriving, next]

end Observed

namespace Command
open Session

variable {σ κ : Type} [Platform σ]

/-- The next interval, and a round of events after it.  Callbacks only count, as that of the
command's own transfer does. -/
def round (c : ContextId) : SessionM (Observed σ) κ Unit := do
  let answers ← onPlatform (modifyGet fun w => (w.arriving 1, w.next))
  deliverAll answers
  handleQuietly c

section Rounds
variable {s : Session (Observed σ) κ} {ticket : Ticket} {t : Transfer κ}
  {answer : Option TransferOutcome}

/-- The session in which the next interval has passed. -/
def passed (s : Session (Observed σ) κ) : Session (Observed σ) κ :=
  after (deliverAll (s.platform.arriving 1)) { s with platform := s.platform.next }

theorem round_run (c : ContextId) (s : Session (Observed σ) κ) :
    (round c).run.run s = (.ok (), after (handleQuietly c) (passed s)) := by
  rw [round, run_bind_of_ok (result_onPlatform ..), after_onPlatform,
    run_bind_of_ok (result_deliverAll ..)]
  exact Prod.ext (result_handleQuietly c _) rfl

omit [Platform σ] in
theorem leavesNothing_passed (s : Session (Observed σ) κ) :
    LeavesNothing id { s with platform := s.platform.next } (passed s) :=
  .deliverAll id _ _

/-- The platform after a round is that after the interval. -/
theorem platform_after_round (c : ContextId) (s : Session (Observed σ) κ) :
    (after (handleQuietly c) (passed s)).platform = s.platform.next :=
  ((leavesNothing_passed s).trans (.handleQuietly id c _)).platform

theorem leavesNothing_round (c : ContextId) (s : Session (Observed σ) κ) :
    LeavesNothing Observed.passages s (after (handleQuietly c) (passed s)) := by
  have same := neutral_sameTrackers.platform s s.platform.next trivial
  obtain ⟨-, hdevices, hhandles, hsound, huntracked⟩ :=
    (leavesNothing_passed s).trans (.handleQuietly id c _)
  refine ⟨?_, hdevices, hhandles, fun sound => hsound fun c => ?_, fun sound c id free =>
    huntracked (fun c => ?_) c id ?_⟩
  · rw [platform_after_round, Observed.passages_next]
  · exact same c ▸ sound c
  · exact same c ▸ sound c
  · exact same c ▸ free

/-- Nothing else is tracked in the context in which a transfer waits. -/
def Alone (ticket : Ticket) (s : Session (Observed σ) κ) : Prop :=
  ∀ id, id ≠ ticket.submission.transfer →
    (s.tracker ticket.context).entries.get? id = none

omit [Platform σ] in
theorem Alone.leavesNothing {s' : Session (Observed σ) κ} {view : Observed σ → α}
    (alone : Alone ticket s) (sound : s.Sound) (h : LeavesNothing view s s') : Alone ticket s' :=
  fun id hne => h.untracked sound _ id (alone id hne)

omit [Platform σ] in
theorem waits_passed (waits : Waits ticket t answer s) :
    Waits ticket t (answer.or ((s.platform.arriving 1).lookup ticket)) (passed s) := by
  have same := neutral_sameTrackers.platform s s.platform.next trivial
  have moved : Waits ticket t answer { s with platform := s.platform.next } :=
    waits.of_same rfl (by rw [same])
  exact moved.deliverAll _

/-- **A round either finishes the transfer with its answer or leaves it waiting**, and if
nothing else is tracked it leaves no transfer waiting that was answered. -/
theorem waits_round (waits : Waits ticket t answer s) (sound : s.Sound)
    (keep : t.flags.contains .freeTransfer = false) :
    (∃ outcome, answer.or ((s.platform.arriving 1).lookup ticket) = some outcome ∧
      (after (handleQuietly ticket.context) (passed s)).transfer?
        ticket.submission.transfer = some (t.finished outcome)) ∨
    (Waits ticket t (answer.or ((s.platform.arriving 1).lookup ticket))
        (after (handleQuietly ticket.context) (passed s)) ∧
      (Alone ticket s → answer.or ((s.platform.arriving 1).lookup ticket) = none)) := by
  have waits' := waits_passed waits
  have same := neutral_sameTrackers.platform s s.platform.next trivial
  have sound₀ : Sound { s with platform := s.platform.next } := fun c => same c ▸ sound c
  have sound' := (leavesNothing_passed s).sound sound₀
  by_cases first : ∃ outcome, ((passed s).tracker ticket.context).extract.1 =
      some (ticket.submission.transfer, outcome)
  · obtain ⟨outcome, first⟩ := first
    have hentry := (sound' ticket.context).get?_of_extract first
    rw [waits'.entry] at hentry
    refine .inl ⟨outcome, ?_, waits'.finished_of_first keep first⟩
    cases hanswer : answer.or ((s.platform.arriving 1).lookup ticket) with
    | none =>
      rw [hanswer] at hentry
      cases hentry
    | some outcome' =>
      rw [hanswer] at hentry
      cases hentry
      rfl
  · refine .inr ⟨waits'.of_other_first sound' fun outcome h => first ⟨outcome, h⟩, fun alone => ?_⟩
    have alone₀ : Alone ticket { s with platform := s.platform.next } :=
      fun id hne => by rw [same]; exact alone id hne
    have alone' := alone₀.leavesNothing sound₀ (leavesNothing_passed s)
    cases hanswer : answer.or ((s.platform.arriving 1).lookup ticket) with
    | none => rfl
    | some outcome =>
      rw [hanswer] at waits'
      exact absurd ⟨outcome, (sound' ticket.context).extract_of_alone waits'.entry alone'⟩ first

/-- One round of waiting. -/
theorem waitFor_succ (c : ContextId) (id : TransferId) (patience : Nat)
    (s : Session (Observed σ) κ) :
    (waitFor (σ := Observed σ) (κ := κ) (round c : SessionM (Observed σ) κ Unit) id
        (patience + 1)).run.run s =
      (if ((after (handleQuietly c) (passed s)).transfer id).callback.any (·.calls > 0)
        then pure true
        else waitFor (σ := Observed σ) (κ := κ) (round c : SessionM (Observed σ) κ Unit) id
          patience : SessionM (Observed σ) κ Bool).run.run
        (after (handleQuietly c) (passed s)) := by
  rw [waitFor, run_bind_of_run (round_run ..)]
  exact run_bind_of_ok rfl _

omit [Platform σ] in
theorem called_of_finished {id : TransferId} {outcome : TransferOutcome}
    (fresh : t.callback = some {}) (finished : s.transfer? id = some (t.finished outcome)) :
    (s.transfer id).callback.any (·.calls > 0) = true := by
  rw [transfer, finished, Option.getD_some, Transfer.finished, fresh]
  rfl

omit [Platform σ] in
theorem not_called_of_waits (fresh : t.callback = some {}) (waits : Waits ticket t answer s) :
    ¬ (s.transfer ticket.submission.transfer).callback.any (·.calls > 0) = true := by
  rw [waits.transfer_eq, fresh]
  exact Bool.false_ne_true

/-- **Waiting comes to its end** when the transfer has been finished with the answer that
arrived, or when patience has: then the transfer waits still, and if nothing else is
tracked no answer to it has arrived. -/
theorem waitFor_spec (waits : Waits ticket t answer s) (sound : s.Sound)
    (keep : t.flags.contains .freeTransfer = false) (fresh : t.callback = some {})
    (patience : Nat) :
    ∃ found s', (waitFor (σ := Observed σ) (κ := κ)
        (round ticket.context : SessionM (Observed σ) κ Unit) ticket.submission.transfer
        patience).run.run s = (.ok found, s') ∧
      LeavesNothing Observed.passages s s' ∧
      ((found = true ∧ ∃ outcome,
          answer.or ((s.platform.arriving patience).lookup ticket) = some outcome ∧
          s'.transfer? ticket.submission.transfer = some (t.finished outcome)) ∨
        (found = false ∧ (∃ answer', Waits ticket t answer' s') ∧
          (Alone ticket s → answer = none ∨ 0 < patience →
            answer.or ((s.platform.arriving patience).lookup ticket) = none))) := by
  induction patience generalizing answer s with
  | zero =>
    refine ⟨false, s, rfl, .refl _ s, .inr ⟨rfl, ⟨answer, waits⟩, fun _ hnone => ?_⟩⟩
    rw [hnone.resolve_right (Nat.lt_irrefl 0)]
    rfl
  | succ patience ih =>
    have hround := leavesNothing_round ticket.context s
    have hanswers : answer.or ((s.platform.arriving (patience + 1)).lookup ticket) =
        (answer.or ((s.platform.arriving 1).lookup ticket)).or
          ((s.platform.next.arriving patience).lookup ticket) := by
      rw [Observed.arriving_succ, List.lookup_append, Option.or_assoc]
    have hplatform := platform_after_round ticket.context s
    rw [waitFor_succ, hanswers]
    rcases waits_round waits sound keep with ⟨outcome, hanswer, hfinished⟩ | ⟨waits', hlonely⟩
    · rw [if_pos (called_of_finished fresh hfinished), hanswer, Option.some_or]
      exact ⟨true, _, rfl, hround, .inl ⟨rfl, outcome, rfl, hfinished⟩⟩
    · rw [if_neg (not_called_of_waits fresh waits')]
      obtain ⟨found, s', hlater, hfinishes, hend⟩ := ih waits' (hround.sound sound)
      refine ⟨found, s', hlater, hround.trans hfinishes, ?_⟩
      rw [hplatform] at hend
      rcases hend with hend | ⟨hfound, hwaits, hnone⟩
      · exact .inl hend
      · refine .inr ⟨hfound, hwaits, fun alone _ => ?_⟩
        exact hnone (alone.leavesNothing sound hround) (.inl (hlonely alone))

end Rounds

end Command
end UsbHost
