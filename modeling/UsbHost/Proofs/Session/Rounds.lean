import UsbHost.Proofs.Session.Contexts
import UsbHost.Proofs.Tracker.Fates

/-! # Rounds of events

A caller that waits for a transfer handles events again and again until the transfer
is finished.  Meanwhile answers arrive, for its own transfer and for others.

Answering, cancelling, finishing and freeing change transfers and trackers only, and
nothing comes to be tracked (`LeavesNothing`).  The transfer that is waited for keeps the
first answer that is given under its ticket (`Waits.deliver`), and is left alone until it
is its turn to be finished (`Waits.finished_of_first`, `Waits.of_other_first`).
-/
namespace UsbHost

namespace Tracker
variable {t : Tracker} {id : TransferId} {n : Nat} {answer : Option TransferOutcome}

/-- What a tracker knows of a submission, and of the answer to it once there is one. -/
def Entry.ofAnswer (n : Nat) : Option TransferOutcome → Entry
  | none => .pending n
  | some outcome => .completed outcome

/-- The first answer to a submission counts, and no other. -/
theorem get?_deliver (h : t.entries.get? id = some (.ofAnswer n answer)) (s : Submission)
    (outcome : TransferOutcome) :
    (t.deliver s outcome).2.entries.get? id =
      some (.ofAnswer n (answer.or (if s = ⟨id, n⟩ then some outcome else none))) := by
  by_cases hs : s = ⟨id, n⟩
  · subst hs
    cases answer with
    | none => simp [deliver, h, Entry.ofAnswer]
    | some first => simp [deliver, h, Entry.ofAnswer]
  · rw [if_neg hs, Option.or_none, ← h]
    by_cases hid : s.transfer = id
    · -- An answer to another submission of this transfer is late.
      subst hid
      rw [deliver_of_other]
      intro hpending
      rw [h] at hpending
      cases answer with
      | none =>
        cases hpending
        exact hs rfl
      | some first => cases hpending
    · have effect := t.deliver_effect s outcome
      generalize (t.deliver s outcome).1 = d, (t.deliver s outcome).2 = t' at effect ⊢
      cases effect with
      | accepted _ _ pending => rw [get?_complete, if_neg (Ne.symm hid)]
      | dropped => rfl

/-- Cancelling is an answer, too. -/
theorem get?_cancel (h : t.entries.get? id = some (.ofAnswer n answer)) :
    (t.cancel id).2.entries.get? id = some (.ofAnswer n (answer.or (some .canceled))) := by
  cases answer <;> simp [cancel, h, Entry.ofAnswer]

/-- Where nothing else is tracked the transfer that has completed is the first. -/
theorem Consistent.extract_of_alone (hc : t.Consistent) {outcome : TransferOutcome}
    (h : t.entries.get? id = some (.completed outcome))
    (alone : ∀ id', id' ≠ id → t.entries.get? id' = none) :
    t.extract.1 = some (id, outcome) := by
  have effect := hc.extract_effect
  generalize t.extract.1 = found, t.extract.2 = t' at effect ⊢
  cases effect with
  | extracted id' r queue first completed =>
    by_cases hid : id' = id
    · subst hid
      cases h.symm.trans completed
      rfl
    · rw [alone id' hid] at completed
      cases completed
  | nothing empty =>
    have hmem := (hc.mem_queue id).mpr ⟨outcome, h⟩
    rw [empty] at hmem
    cases hmem

/-- Taking another transfer leaves this one where it is. -/
theorem Consistent.get?_extract_of_ne (hc : t.Consistent)
    (other : ∀ outcome, t.extract.1 ≠ some (id, outcome)) :
    t.extract.2.entries.get? id = t.entries.get? id := by
  have effect := hc.extract_effect
  generalize t.extract.1 = found, t.extract.2 = t' at effect other ⊢
  cases effect with
  | extracted id' r queue first completed =>
    have hne : id ≠ id' := fun heq => other r (by rw [heq])
    exact (Table.get?_erase ..).trans (if_neg hne)
  | nothing empty => rfl

theorem get?_remove_of_ne {id' : TransferId} (h : id ≠ id') :
    (t.remove id').2.entries.get? id = t.entries.get? id := by
  have effect := t.remove_effect id'
  generalize (t.remove id').1 = done, (t.remove id').2 = t' at effect ⊢
  cases effect with
  | removed _ e tracked => rw [get?_forget, if_neg h]
  | notTracked => rfl

end Tracker

/-- A transfer that was finished with an outcome and whose callback has been called. -/
def Transfer.finished {κ : Type} (t : Transfer κ) (outcome : TransferOutcome) : Transfer κ :=
  { t.conclude outcome with callback := t.callback.map Callback.called }

namespace Session
variable {σ κ α : Type}

/-! ## What else changes -/

/-- Nothing is left behind: devices and handles are as they were, what `view` shows of the
platform is the same, and no transfer has come to be tracked. -/
structure LeavesNothing (view : σ → α) (s s' : Session σ κ) : Prop where
  platform : view s'.platform = view s.platform
  devices : s'.devices = s.devices
  handles : s'.handles = s.handles
  sound : s.Sound → s'.Sound
  untracked : s.Sound → ∀ c id, (s.tracker c).entries.get? id = none →
    (s'.tracker c).entries.get? id = none

namespace LeavesNothing
variable {view : σ → α} {s s' s'' : Session σ κ}

theorem refl (view : σ → α) (s : Session σ κ) : LeavesNothing view s s :=
  ⟨rfl, rfl, rfl, fun h => h, fun _ _ _ h => h⟩

theorem trans (h : LeavesNothing view s s') (h' : LeavesNothing view s' s'') :
    LeavesNothing view s s'' where
  platform := h'.platform.trans h.platform
  devices := h'.devices.trans h.devices
  handles := h'.handles.trans h.handles
  sound sound := h'.sound (h.sound sound)
  untracked sound c id free := h'.untracked (h.sound sound) c id (h.untracked sound c id free)

/-- Where the platform is the same any view of it is. -/
theorem of_id (h : LeavesNothing id s s') (view : σ → α) : LeavesNothing view s s' :=
  ⟨congrArg view h.platform, h.devices, h.handles, h.sound, h.untracked⟩

theorem of_plain (h : LeavesNothing view s s'') (hplain : s'.plain = s''.plain) :
    LeavesNothing view s s' := by
  have htracker : ∀ c, s'.tracker c = s''.tracker c := fun c => by
    rw [← tracker_plain, hplain, tracker_plain]
  refine ⟨?_, ?_, ?_, fun sound c => htracker c ▸ h.sound sound c, fun sound c id free => ?_⟩
  · exact (congrArg (fun s : Session σ κ => view s.platform) hplain).trans h.platform
  · exact (congrArg Session.devices hplain).trans h.devices
  · exact (congrArg Session.handles hplain).trans h.handles
  · rw [htracker]
    exact h.untracked sound c id free

/-- An operation on a tracker that is no submission. -/
theorem setTracker {c : ContextId} {op : Tracker.Op} {reply : Tracker.Reply} {t : Tracker}
    (step : (s.tracker c).step op = .ok (reply, t)) (hop : ∀ id, op ≠ .register id) :
    LeavesNothing view s (setTracker c t s) where
  platform := by rw [platform_setTracker]
  devices := devices_setTracker ..
  handles := handles_setTracker ..
  sound sound c' := by
    rcases tracker_setTracker s c c' t with hsame | ⟨rfl, hset⟩
    · exact hsame ▸ sound c'
    · rw [hset]
      exact (sound c').next ((sound c').effect step)
  untracked sound c' id free := by
    rcases tracker_setTracker s c c' t with hsame | ⟨rfl, hset⟩
    · exact hsame ▸ free
    · rw [hset]
      refine Classical.byContradiction fun tracked => ?_
      exact ((sound c').effect step).tracked_before (hop id) tracked free

theorem alter (id : TransferId) (f : Transfer κ → Transfer κ) (s : Session σ κ) :
    LeavesNothing view s (s.alter id f) where
  platform := by rw [platform_alter]
  devices := devices_alter ..
  handles := handles_alter ..
  sound sound c := by
    rw [tracker_alter]
    exact sound c
  untracked _ c id free := by rwa [tracker_alter]

theorem deliver (ticket : Ticket) (outcome : TransferOutcome) (s : Session σ κ) :
    LeavesNothing view s (after (deliver ticket outcome) s) :=
  (setTracker (Tracker.step_deliver ..) nofun).of_plain
    ((plain_after_deliver ..).trans (plain_setTracker ..).symm)

theorem cancel {id : TransferId} {c : ContextId} (h : s.contextOf? (s.transfer id) = some c) :
    LeavesNothing view s (after (cancel id) s) :=
  (setTracker (Tracker.step_cancel ..) nofun).of_plain
    ((plain_after_cancel h).trans (plain_setTracker ..).symm)

theorem free (id : TransferId) (s : Session σ κ) : LeavesNothing view s (after (free id) s) := by
  cases hc : s.contextOf? (s.transfer id) with
  | none =>
    exact (alter id _ s).of_plain ((plain_after_free_of_no_context hc).trans (plain_alter ..).symm)
  | some c =>
    have removed : LeavesNothing view s _ := setTracker (Tracker.step_remove (s.tracker c) id) nofun
    have released := removed.trans (alter id (fun _ => (s.transfer id).release.2) _)
    refine released.of_plain ((plain_after_free hc).trans ?_)
    rw [plain_alter, plain_setTracker]

/-- Handling events finishes a transfer and does no more, if callbacks do not. -/
theorem handleEvents [Platform σ] {run : TransferId → Callback κ → SessionM σ κ Unit}
    (still : ∀ id callback s, LeavesNothing view s (after (run id callback) s)) (c : ContextId)
    (s : Session σ κ) : LeavesNothing view s (after (handleEvents (σ := σ) run c) s) := by
  refine handleEvents_induction (Q := LeavesNothing view s) ?_ ?_ ?_ ?_ ?_ (refl view s)
  · intro s' h
    exact h.trans ((setTracker (Tracker.step_extract ..) nofun).of_plain
      ((plain_after_poll s' c).trans (plain_setTracker ..).symm))
  · intro id outcome s' h
    exact h.trans ((alter id _ s').of_plain
      ((plain_after_finish s' id outcome).trans (plain_alter ..).symm))
  · intro id callback s' h
    exact h.trans (alter id _ s')
  · intro id s' h
    exact h.trans (free id s')
  · intro id callback s' h
    exact h.trans (still id callback s')

end LeavesNothing

/-! ## Answers that arrive -/

/-- Delivers several answers, one after the other. -/
def deliverAll (answers : List (Ticket × TransferOutcome)) : SessionM σ κ Unit :=
  answers.forM fun a => deliver a.1 a.2

theorem result_deliverAll (answers : List (Ticket × TransferOutcome)) (s : Session σ κ) :
    result (deliverAll answers) s = .ok () := by
  induction answers generalizing s with
  | nil => rfl
  | cons a answers ih =>
    change result (deliver a.1 a.2 >>= fun _ => deliverAll answers) s = _
    rw [result_bind, result_deliver]
    exact ih _

theorem LeavesNothing.deliverAll (view : σ → α) (answers : List (Ticket × TransferOutcome))
    (s : Session σ κ) : LeavesNothing view s (after (deliverAll answers) s) := by
  induction answers generalizing s with
  | nil => exact .refl view s
  | cons a answers ih =>
    change LeavesNothing view s
      (after (Session.deliver a.1 a.2 >>= fun _ => Session.deliverAll answers) s)
    rw [after_bind, result_deliver]
    exact (LeavesNothing.deliver a.1 a.2 s).trans (ih _)

/-! ## Rounds without callbacks -/

/-- Freeing always comes to its end, and gives back the buffer of the transfer. -/
theorem result_free (id : TransferId) (s : Session σ κ) :
    result (free id) s = .ok (s.transfer id).release.1 := by
  unfold free
  rw [result_bind, result_get]
  dsimp only [after_get]
  cases s.contextOf? (s.transfer id) with
  | none => rfl
  | some context =>
    have hremove : ∀ s' : Session σ κ, result (track context (.remove id)) s' =
        .ok (.removed id (s'.tracker context |>.remove id).1) := fun _ => result_track rfl
    have htransfer : (after (track context (.remove id)) (after (reach context) s)).transfer id =
        s.transfer id := by
      rw [← transfer_plain, plain_after_track rfl, transfer_setTracker, plain_after_reach,
        transfer_plain]
    simp only [result_bind, result_reach, result_discard, hremove, Except.map, after_discard]
    rw [← htransfer]
    rfl

theorem result_settle (id : TransferId) (callback : Option (Callback κ)) (s : Session σ κ) :
    result (settle id callback) s = .ok () := by
  rw [settle, result_bind, result_restore]
  dsimp only
  split
  · rw [result_discard, result_free]
    rfl
  · rfl

section Quiet
variable [Platform σ] {s : Session σ κ} {c : ContextId} {id : TransferId}
  {outcome : TransferOutcome}

/-- A round of events in which callbacks do nothing but count. -/
def handleQuietly (c : ContextId) : SessionM σ κ Unit :=
  handleEvents (σ := σ) (fun _ (_ : Callback κ) => pure ()) c

theorem after_handleQuietly_of_first (first : (s.tracker c).extract.1 = some (id, outcome)) :
    after (handleQuietly c) s =
      after (settle id ((s.transfer id).callback.map Callback.called)) (after (finalize c) s) := by
  rw [handleQuietly, handleEvents_eq, after_bind, result_finalize first]
  cases (s.transfer id).callback <;> rfl

theorem after_handleQuietly_of_none (none : (s.tracker c).extract.1 = none) :
    after (handleQuietly c) s = after (finalize c) s := by
  rw [handleQuietly, handleEvents_eq, after_bind, result_finalize_of_none none]
  rfl

/-- Rounds always come to their end. -/
theorem result_handleQuietly (c : ContextId) (s : Session σ κ) :
    result (handleQuietly c) s = .ok () := by
  rw [handleQuietly, handleEvents_eq, result_bind]
  cases first : (s.tracker c).extract.1 with
  | none =>
    rw [result_finalize_of_none first]
    rfl
  | some found =>
    obtain ⟨id, outcome⟩ := found
    rw [result_finalize first]
    cases (s.transfer id).callback with
    | none => exact result_settle ..
    | some callback => exact result_settle ..

theorem LeavesNothing.handleQuietly (view : σ → α) (c : ContextId) (s : Session σ κ) :
    LeavesNothing view s (after (handleQuietly c) s) :=
  .handleEvents (fun _ _ s => .refl view s) c s

end Quiet

/-! ## The transfer that is waited for -/

/-- A transfer has been submitted under a ticket and has not been finished since.  It may
have been answered. -/
structure Waits (ticket : Ticket) (t : Transfer κ) (answer : Option TransferOutcome)
    (s : Session σ κ) : Prop where
  transfer : s.transfer? ticket.submission.transfer = some t
  entry : (s.tracker ticket.context).entries.get? ticket.submission.transfer =
    some (.ofAnswer ticket.submission.number answer)

namespace Waits
variable {ticket : Ticket} {t : Transfer κ} {answer : Option TransferOutcome} {s s' : Session σ κ}

theorem of_same (waits : Waits ticket t answer s)
    (htransfer : s'.transfer? ticket.submission.transfer = s.transfer? ticket.submission.transfer)
    (hentry : (s'.tracker ticket.context).entries.get? ticket.submission.transfer =
      (s.tracker ticket.context).entries.get? ticket.submission.transfer) :
    Waits ticket t answer s' :=
  ⟨htransfer.trans waits.transfer, hentry.trans waits.entry⟩

theorem transfer_eq (waits : Waits ticket t answer s) :
    s.transfer ticket.submission.transfer = t := by
  rw [Session.transfer, waits.transfer, Option.getD_some]

theorem allocated (waits : Waits ticket t answer s) : s.Allocated ticket.submission.transfer := by
  rw [Allocated, waits.transfer]
  rfl

/-- **The first answer under the ticket is the answer.** -/
theorem deliver (waits : Waits ticket t answer s) (ticket' : Ticket) (outcome : TransferOutcome) :
    Waits ticket t (answer.or (if ticket' = ticket then some outcome else none))
      (after (deliver ticket' outcome) s) := by
  obtain ⟨c, submission⟩ := ticket
  obtain ⟨c', submission'⟩ := ticket'
  have hplain := plain_after_deliver s outcome ⟨c', submission'⟩
  constructor
  · rw [← transfer?_plain, hplain, transfer?_setTracker]
    exact waits.transfer
  · rw [← tracker_plain, hplain]
    by_cases hc : c' = c
    · subst hc
      rw [← plain_setTracker, tracker_plain,
        tracker_setTracker_self fun hempty => by rw [hempty]; rfl,
        Tracker.get?_deliver waits.entry]
      simp only [Ticket.mk.injEq, true_and]
    · rw [tracker_setTracker_of_ne (Ne.symm hc), if_neg fun h => hc (congrArg Ticket.context h),
        Option.or_none]
      exact waits.entry

theorem cancel (waits : Waits ticket t answer s)
    (hcontext : s.contextOf? (s.transfer ticket.submission.transfer) = some ticket.context) :
    Waits ticket t (answer.or (some .canceled))
      (after (cancel ticket.submission.transfer) s) := by
  have hplain := plain_after_cancel hcontext
  constructor
  · rw [← transfer?_plain, hplain, transfer?_setTracker]
    exact waits.transfer
  · rw [← tracker_plain, hplain, ← plain_setTracker, tracker_plain,
      tracker_setTracker_self fun hempty => by rw [hempty]; rfl]
    exact Tracker.get?_cancel waits.entry

/-- Of several answers the first one under the ticket counts. -/
theorem deliverAll (waits : Waits ticket t answer s)
    (answers : List (Ticket × TransferOutcome)) :
    Waits ticket t (answer.or (answers.lookup ticket)) (after (deliverAll answers) s) := by
  induction answers generalizing answer s with
  | nil =>
    rw [List.lookup_nil, Option.or_none]
    exact waits
  | cons a answers ih =>
    have later := ih (waits.deliver a.1 a.2)
    have hfirst : (if a.1 = ticket then some a.2 else none).or (answers.lookup ticket) =
        (a :: answers).lookup ticket := by
      obtain ⟨ticket', outcome⟩ := a
      by_cases h : ticket' = ticket
      · subst h
        simp
      · simp [List.lookup_cons, h, beq_eq_false_iff_ne.mpr (Ne.symm h)]
    rw [Option.or_assoc, hfirst] at later
    change Waits _ _ _ (after (Session.deliver a.1 a.2 >>= fun _ => Session.deliverAll answers) s)
    rwa [after_bind, result_deliver]

/-- Freeing another transfer is no concern of this one. -/
theorem free_of_ne (waits : Waits ticket t answer s) {id : TransferId}
    (hne : ticket.submission.transfer ≠ id) : Waits ticket t answer (after (free id) s) := by
  cases hc : s.contextOf? (s.transfer id) with
  | none =>
    refine waits.of_same ?_ ?_
    · rw [← transfer?_plain, plain_after_free_of_no_context hc, transfer?_alter, if_neg hne,
        transfer?_plain]
    · rw [← tracker_plain, plain_after_free_of_no_context hc, tracker_alter, tracker_plain]
  | some c =>
    refine waits.of_same ?_ ?_
    · rw [← transfer?_plain, plain_after_free hc, transfer?_alter, if_neg hne, transfer?_setTracker,
        transfer?_plain]
    · rw [← tracker_plain, plain_after_free hc, tracker_alter, ← plain_setTracker, tracker_plain]
      rcases tracker_setTracker s c ticket.context ((s.tracker c).remove id).2 with
        hsame | ⟨hc', hset⟩
      · rw [hsame]
      · rw [hset, hc', Tracker.get?_remove_of_ne hne]

theorem alter_of_ne (waits : Waits ticket t answer s) {id : TransferId}
    (hne : ticket.submission.transfer ≠ id) (f : Transfer κ → Transfer κ) :
    Waits ticket t answer (s.alter id f) :=
  waits.of_same (by rw [transfer?_alter, if_neg hne]) (by rw [tracker_alter])

theorem settle_of_ne [Platform σ] (waits : Waits ticket t answer s) {id : TransferId}
    (hne : ticket.submission.transfer ≠ id) (callback : Option (Callback κ)) :
    Waits ticket t answer (after (settle id callback) s) := by
  have restored := waits.alter_of_ne hne fun t => { t with callback := t.callback.or callback }
  rw [settle, after_bind, result_restore]
  dsimp only
  split
  · rw [after_discard]
    exact restored.free_of_ne hne
  · exact restored

section Quiet
variable [Platform σ] {outcome : TransferOutcome}

/-- **A round that finishes another transfer, or none, leaves this one as it is.** -/
theorem of_other_first (waits : Waits ticket t answer s) (sound : s.Sound)
    (other : ∀ outcome, (s.tracker ticket.context).extract.1 ≠
      some (ticket.submission.transfer, outcome)) :
    Waits ticket t answer (after (handleQuietly ticket.context) s) := by
  have hentry := (sound ticket.context).get?_extract_of_ne other
  have hset : (setTracker ticket.context (s.tracker ticket.context).extract.2 s).tracker
      ticket.context = (s.tracker ticket.context).extract.2 :=
    tracker_setTracker_self fun hempty => by rw [hempty]; rfl
  cases first : (s.tracker ticket.context).extract.1 with
  | none =>
    have hplain := plain_after_finalize_of_none first
    rw [after_handleQuietly_of_none first]
    refine waits.of_same ?_ ?_
    · rw [← transfer?_plain, hplain, transfer?_setTracker, transfer?_plain]
    · rw [← tracker_plain, hplain, ← plain_setTracker, tracker_plain, hset, hentry]
  | some found =>
    obtain ⟨id, outcome⟩ := found
    have hne : ticket.submission.transfer ≠ id := fun heq => other outcome (by rw [first, heq])
    have hplain := plain_after_finalize first
    rw [after_handleQuietly_of_first first]
    refine Waits.settle_of_ne (waits.of_same ?_ ?_) hne _
    · exact transfer?_after_finalize_of_ne first hne
    · rw [← tracker_plain, hplain, tracker_alter, ← plain_setTracker, tracker_plain, hset, hentry]

/-- **A round that finishes this transfer** writes its answer and calls its callback. -/
theorem finished_of_first (waits : Waits ticket t answer s)
    (keep : t.flags.contains .freeTransfer = false)
    (first : (s.tracker ticket.context).extract.1 = some (ticket.submission.transfer, outcome)) :
    (after (handleQuietly ticket.context) s).transfer? ticket.submission.transfer =
      some (t.finished outcome) := by
  have hfinal : (after (finalize ticket.context) s).transfer? ticket.submission.transfer =
      some { t.conclude outcome with callback := none } := by
    rw [← transfer?_plain, plain_after_finalize first, transfer?_alter, if_pos rfl,
      transfer?_setTracker, transfer?_plain, waits.transfer, waits.transfer_eq]
    rfl
  have hflags : ((after (finalize ticket.context) s).transfer
      ticket.submission.transfer).flags.contains .freeTransfer = false := by
    rw [Session.transfer, hfinal, ← keep]
    cases outcome <;> rfl
  rw [after_handleQuietly_of_first first, after_settle_of_kept _ _ _ hflags, transfer?_alter,
    if_pos rfl, hfinal, waits.transfer_eq]
  rfl

end Quiet

end Waits

end Session
end UsbHost
