import UsbHost.Proofs.Session.EventLoop

/-! # What calls come to

The notices of a session are there to be read, and the default context is reached
without anybody asking for it.  No call depends on either, so for what a call
does they are left out of account: two sessions are the same in all that counts
when `Session.plain` makes the same of them.

For each call on transfers it is said here what it answers and what session it
leads to, in terms of the operation it does on a tracker.
-/
namespace UsbHost

namespace Tracker
variable (t : Tracker) (id : TransferId)

theorem step_register (h : t.entries.get? id = none) :
    t.step (.register id) = .ok (.registered ⟨id, t.submissions + 1⟩, t.enlist id) := by
  simp [step, register, Table.contains, h, enlist, bind, Except.bind, pure, Except.pure]

theorem step_register_of_tracked (h : t.entries.get? id ≠ none) :
    t.step (.register id) = .error (.registeredTwice id) := by
  have hc : t.entries.contains id = true := Option.isSome_iff_ne_none.mpr h
  simp [step, register, hc, bind, Except.bind]

theorem step_deliver (s : Submission) (r : TransferOutcome) :
    t.step (.deliver s r) = .ok (.delivered s (t.deliver s r).1, (t.deliver s r).2) := rfl

theorem step_cancel :
    t.step (.cancel id) = .ok (.cancelled id (t.cancel id).1, (t.cancel id).2) := rfl

theorem step_remove :
    t.step (.remove id) = .ok (.removed id (t.remove id).1, (t.remove id).2) := rfl

theorem step_extract : t.step .extract = .ok (.extracted t.extract.1, t.extract.2) := rfl

/-- The answer to a new submission completes it. -/
theorem deliver_enlist (outcome : TransferOutcome) :
    ((t.enlist id).deliver ⟨id, t.submissions + 1⟩ outcome).2 =
      (t.enlist id).complete id outcome := by
  simp [deliver]

/-- An answer to a transfer that has completed changes nothing. -/
theorem deliver_complete (submission : Submission) (outcome outcome' : TransferOutcome) :
    ((t.complete submission.transfer outcome).deliver submission outcome').2 =
      t.complete submission.transfer outcome :=
  deliver_of_other outcome' (by simp)

/-- A transfer that completes first is the first to be taken. -/
theorem extract_complete (outcome : TransferOutcome) (h : t.completed = []) :
    (t.complete id outcome).extract.1 = some (id, outcome) := by
  have hqueue : (t.complete id outcome).completed = [id] := by rw [complete, h, List.nil_append]
  rw [extract, hqueue, extractFrom, get?_complete, if_pos rfl]

end Tracker

namespace Session

variable {σ κ : Type}

/-- The session without its notices, and with the default context reached. -/
def plain (s : Session σ κ) : Session σ κ :=
  { s with notices := [], defaultTracker := some (s.defaultTracker.getD {}) }

/-- The contexts that were made. -/
def HasContext (s : Session σ κ) : ContextId → Prop
  | .default => True
  | .explicit index => index < s.trackers.length

section Plain
variable (s : Session σ κ) (c : ContextId) (id : TransferId)

@[simp] theorem platform_plain : s.plain.platform = s.platform := rfl

@[simp] theorem transfer?_plain : s.plain.transfer? id = s.transfer? id := rfl

@[simp] theorem transfer_plain : s.plain.transfer id = s.transfer id := rfl

@[simp] theorem contextOf?_plain (t : Transfer κ) : s.plain.contextOf? t = s.contextOf? t := rfl

@[simp] theorem tracker_plain : s.plain.tracker c = s.tracker c := by
  cases c <;> rfl

@[simp] theorem plain_notices (ns : List Notice) : plain { s with notices := ns } = s.plain := rfl

@[simp] theorem plain_platform (p : σ) :
    plain { s with platform := p } = { s.plain with platform := p } := rfl

@[simp] theorem plain_setTracker (t : Tracker) :
    (setTracker c t s).plain = setTracker c t s.plain := by
  cases c <;> rfl

@[simp] theorem plain_alter (f : Transfer κ → Transfer κ) :
    (s.alter id f).plain = s.plain.alter id f := by
  unfold alter
  cases id.number <;> rfl

@[simp] theorem platform_setTracker (t : Tracker) : (setTracker c t s).platform = s.platform := by
  cases c <;> rfl

@[simp] theorem platform_alter (f : Transfer κ → Transfer κ) :
    (s.alter id f).platform = s.platform := by
  unfold alter
  cases id.number <;> rfl

@[simp] theorem transfer_setTracker (t : Tracker) :
    (setTracker c t s).transfer id = s.transfer id := by
  rw [transfer, transfer?_setTracker, transfer]

@[simp] theorem handles_setTracker (t : Tracker) : (setTracker c t s).handles = s.handles := by
  cases c <;> rfl

@[simp] theorem handles_alter (f : Transfer κ → Transfer κ) :
    (s.alter id f).handles = s.handles := by
  unfold alter
  cases id.number <;> rfl

@[simp] theorem devices_setTracker (t : Tracker) : (setTracker c t s).devices = s.devices := by
  cases c <;> rfl

@[simp] theorem devices_alter (f : Transfer κ → Transfer κ) :
    (s.alter id f).devices = s.devices := by
  unfold alter
  cases id.number <;> rfl

variable {s c} in
@[simp] theorem hasContext_plain : s.plain.HasContext c ↔ s.HasContext c := Iff.rfl

variable {s c id} in
theorem hasContext_alter {f : Transfer κ → Transfer κ} :
    (s.alter id f).HasContext c ↔ s.HasContext c := by
  unfold alter
  cases id.number <;> cases c <;> exact Iff.rfl

theorem setTracker_setTracker (t t' : Tracker) :
    setTracker c t' (setTracker c t s) = setTracker c t' s := by
  cases c with
  | default => rfl
  | explicit i => simp [setTracker]

/-- What the platform has done meanwhile does not matter to a tracker. -/
theorem setTracker_setTracker_platform (t : Tracker) (p : σ) :
    setTracker c t { setTracker c t s with platform := p } =
      { setTracker c t s with platform := p } := by
  cases c with
  | default => rfl
  | explicit i => simp [setTracker]

variable {s c} in
theorem hasContext_setTracker {c' : ContextId} {t : Tracker} :
    (setTracker c' t s).HasContext c ↔ s.HasContext c := by
  cases c' <;> cases c <;> simp [setTracker, HasContext]

variable {s c} in
/-- A context that was made has the tracker it was given. -/
theorem HasContext.tracker_setTracker (h : s.HasContext c) (t : Tracker) :
    (setTracker c t s).tracker c = t := by
  cases c with
  | default => rfl
  | explicit i =>
    have hi : i < s.trackers.length := h
    simp [setTracker, tracker, hi]

/-- Reaching a context makes no difference. -/
theorem plain_after_reach : (after (reach c) s).plain = s.plain := by
  cases c with
  | explicit i => rfl
  | default => cases h : s.defaultTracker <;> simp [reach, after_bind, h, plain]

variable {s c} in
/-- An operation on a tracker changes nothing but this tracker. -/
theorem plain_after_track {op : Tracker.Op} {reply : Tracker.Reply} {t : Tracker}
    (h : (s.tracker c).step op = .ok (reply, t)) :
    (after (track c op) s).plain = setTracker c t s.plain := by
  rw [after_track h, plain_notices, plain_setTracker]

end Plain

/-- The tracker that a program finds is not changed by reaching a context before. -/
theorem tracker_after_reach (s : Session σ κ) (c c' : ContextId) :
    (after (reach c) s).tracker c' = s.tracker c' :=
  neutral_sameTrackers.reach c s c'

section Reached
variable {s : Session σ κ} {c : ContextId} {op : Tracker.Op} {reply : Tracker.Reply} {t : Tracker}

theorem result_track_reached (h : (s.tracker c).step op = .ok (reply, t)) :
    result (track c op) (after (reach c) s) = .ok reply :=
  result_track ((tracker_after_reach s c c).symm ▸ h)

theorem plain_after_track_reached (h : (s.tracker c).step op = .ok (reply, t)) :
    (after (track c op) (after (reach c) s)).plain = setTracker c t s.plain := by
  rw [plain_after_track ((tracker_after_reach s c c).symm ▸ h), plain_after_reach]

end Reached

/-! ## Answers -/

section Answers
variable (s : Session σ κ) (outcome : TransferOutcome) (ticket : Ticket)

theorem result_deliver : result (deliver ticket outcome) s = .ok () := by
  rw [deliver, result_discard, result_track (Tracker.step_deliver ..)]
  rfl

theorem plain_after_deliver :
    (after (deliver ticket outcome) s).plain =
      setTracker ticket.context
        ((s.tracker ticket.context).deliver ticket.submission outcome).2 s.plain := by
  rw [deliver, after_discard, plain_after_track (Tracker.step_deliver ..)]

end Answers

/-! ## Submitting -/

/-- A transfer can be submitted: it goes to a handle, it makes a request, and it is
not tracked yet. -/
structure Accepts (s : Session σ κ) (id : TransferId) (handle : Handle)
    (request : TransferRequest) : Prop where
  opened : (s.transfer id).handle.bind s.handle? = some handle
  asks : (s.transfer id).request = .ok request
  free : (s.tracker handle.context).entries.get? id = none

theorem Accepts.contextOf {s : Session σ κ} {id : TransferId} {handle : Handle}
    {request : TransferRequest} (accepts : s.Accepts id handle request) :
    s.contextOf? (s.transfer id) = some handle.context := by
  rw [contextOf?, accepts.opened]
  rfl

/-- The ticket of the next submission of a transfer in a context. -/
def nextTicket (s : Session σ κ) (c : ContextId) (id : TransferId) : Ticket :=
  ⟨c, ⟨id, (s.tracker c).submissions + 1⟩⟩

@[simp] theorem context_nextTicket (s : Session σ κ) (c : ContextId) (id : TransferId) :
    (s.nextTicket c id).context = c := rfl

@[simp] theorem nextTicket_alter (s : Session σ κ) (c : ContextId) (id id' : TransferId)
    (f : Transfer κ → Transfer κ) : (s.alter id' f).nextTicket c id = s.nextTicket c id := by
  rw [nextTicket, tracker_alter, nextTicket]

section Submit
variable [Platform σ] {s : Session σ κ} {id : TransferId} {handle : Handle}
  {request : TransferRequest}

/-- What the platform does to start a transfer. -/
def start (s : Session σ κ) (id : TransferId) (handle : Handle) (request : TransferRequest) :
    Option TransferOutcome × σ :=
  (Platform.startTransfer handle.connection request (s.nextTicket handle.context id)).run s.platform

/-- The session in which a transfer has been submitted and is not answered yet. -/
def submitted (s : Session σ κ) (id : TransferId) (handle : Handle) (request : TransferRequest) :
    Session σ κ :=
  { setTracker handle.context ((s.tracker handle.context).enlist id)
      (s.alter id fun t => { t with count := 0 }) with
    platform := (s.start id handle request).2 }

theorem platform_submitted :
    (s.submitted id handle request).platform = (s.start id handle request).2 := rfl

theorem transfer_submitted (ha : s.Allocated id) :
    (s.submitted id handle request).transfer id = { s.transfer id with count := 0 } := by
  change (setTracker _ _ _).transfer id = _
  rw [transfer_setTracker]
  exact transfer_alter_self ha

theorem transfer_submitted_of_ne {id' : TransferId} (h : id' ≠ id) :
    (s.submitted id handle request).transfer id' = s.transfer id' := by
  change (setTracker _ _ _).transfer id' = _
  rw [transfer_setTracker, transfer_alter_of_ne h]

theorem submit_run (h : s.Accepts id handle request) :
    ∃ s', s'.plain = (s.submitted id handle request).plain ∧
      (submit id).run.run s = (match (s.start id handle request).1 with
        | some outcome => deliver (s.nextTicket handle.context id) outcome
        | none => pure () : SessionM σ κ Unit).run.run s' := by
  obtain ⟨s₀, hs₀⟩ : ∃ s₀, s₀ = s.alter id fun t => { t with count := 0 } := ⟨_, rfl⟩
  have hstep : (s₀.tracker handle.context).step (.register id) =
      .ok (.registered (s.nextTicket handle.context id).submission,
        (s.tracker handle.context).enlist id) := by
    rw [hs₀, tracker_alter]
    exact Tracker.step_register _ id h.free
  have hplain := plain_after_track_reached hstep
  have hregistered := result_track_reached hstep
  generalize hs₁ : after (track handle.context (.register id)) (after (reach handle.context) s₀) =
    s₁ at hplain
  have hplatform : s₁.platform = s.platform := by
    rw [← platform_plain, hplain, hs₀]
    simp
  refine ⟨{ s₁ with
    notices := .submitting (s.nextTicket handle.context id).submission handle.connection ::
      s₁.notices
    platform := (s.start id handle request).2 }, ?_, ?_⟩
  · rw [submitted, plain_platform, plain_setTracker, ← hs₀, ← hplain]
    rfl
  · rw [submit, run_bind_of_ok (result_get s), after_get, run_bind_of_ok (result_get s), after_get]
    simp only [h.opened, h.asks]
    rw [run_bind_of_ok (result_modify ..), after_modify, ← hs₀, run_bind_of_ok (result_reach ..),
      run_bind_of_ok hregistered, hs₁]
    dsimp only
    rw [run_bind_of_ok (result_note ..), after_note, run_bind_of_ok (result_onPlatform ..),
      after_onPlatform]
    simp only [hplatform]
    rfl

theorem result_submit (h : s.Accepts id handle request) : result (submit id) s = .ok () := by
  obtain ⟨s', -, hrun⟩ := submit_run h
  rw [result, hrun]
  cases (s.start id handle request).1 with
  | none => rfl
  | some outcome => exact result_deliver s' outcome _

theorem platform_after_submit (h : s.Accepts id handle request) :
    (after (submit id) s).platform = (s.start id handle request).2 := by
  obtain ⟨s', hs', hrun⟩ := submit_run h
  have hplatform : s'.platform = (s.start id handle request).2 := by
    rw [← platform_plain, hs', platform_plain, platform_submitted]
  rw [after, hrun, ← hplatform]
  cases (s.start id handle request).1 with
  | none => rfl
  | some outcome =>
    change (after (deliver _ outcome) s').platform = _
    rw [← platform_plain, plain_after_deliver, platform_setTracker, platform_plain]

/-- A transfer that the platform does not answer at once is in flight. -/
theorem plain_after_submit (h : s.Accepts id handle request)
    (hstart : (s.start id handle request).1 = none) :
    (after (submit id) s).plain = (s.submitted id handle request).plain := by
  obtain ⟨s', hs', hrun⟩ := submit_run h
  rw [after, hrun, hstart, ← hs']
  rfl

theorem allocated_submitted :
    (s.submitted id handle request).Allocated id ↔ s.Allocated id := by
  change (setTracker _ _ _).Allocated id ↔ _
  rw [Allocated, transfer?_setTracker]
  exact allocated_alter

variable (request) in
theorem hasContext_submitted {c : ContextId} :
    (s.submitted id handle request).HasContext c ↔ s.HasContext c :=
  hasContext_setTracker.trans hasContext_alter

theorem tracker_submitted (hc : s.HasContext handle.context) :
    (s.submitted id handle request).tracker handle.context =
      (s.tracker handle.context).enlist id :=
  (hasContext_alter.mpr hc).tracker_setTracker _

theorem tracker_submitted_of_ne {c : ContextId} (h : c ≠ handle.context) :
    (s.submitted id handle request).tracker c = s.tracker c := by
  change (setTracker _ _ _).tracker c = _
  rw [tracker_setTracker_of_ne h, tracker_alter]

/-- A transfer that the platform answers at once has completed. -/
theorem plain_after_submit_answered (h : s.Accepts id handle request)
    (hc : s.HasContext handle.context) {outcome : TransferOutcome}
    (hstart : (s.start id handle request).1 = some outcome) :
    (after (submit id) s).plain =
      setTracker handle.context (((s.tracker handle.context).enlist id).complete id outcome)
        (s.submitted id handle request).plain := by
  obtain ⟨s', hs', hrun⟩ := submit_run h
  have hafter : after (submit id) s =
      after (deliver (s.nextTicket handle.context id) outcome) s' := by
    rw [after, hrun, hstart]
    rfl
  have htracker : s'.tracker handle.context = (s.tracker handle.context).enlist id := by
    rw [← tracker_plain, hs', tracker_plain, tracker_submitted hc]
  rw [hafter, plain_after_deliver, context_nextTicket, hs', htracker]
  exact congrArg (setTracker handle.context · _) (Tracker.deliver_enlist ..)

/-- A transfer that is tracked in the context of its handle cannot be submitted. -/
theorem result_submit_of_tracked (hhandle : (s.transfer id).handle.bind s.handle? = some handle)
    (hrequest : (s.transfer id).request = .ok request)
    (tracked : (s.tracker handle.context).entries.get? id ≠ none) :
    result (submit id) s = .error (.fault (.registeredTwice id)) := by
  have hfault : result (track handle.context (.register id))
      (after (reach handle.context) (s.alter id fun t => { t with count := 0 })) =
      .error (.fault (.registeredTwice id)) := by
    refine result_track_of_fault ?_
    rw [tracker_after_reach, tracker_alter]
    exact Tracker.step_register_of_tracked _ id tracked
  simp [submit, result_bind, hhandle, hrequest, result_reach, hfault]

/-- Submitting succeeds exactly when the transfer can be submitted. -/
theorem result_submit_eq_ok_iff :
    result (submit id) s = .ok () ↔ ∃ handle request, s.Accepts id handle request := by
  constructor
  · intro hok
    cases hhandle : (s.transfer id).handle.bind s.handle? with
    | none =>
      rw [submit, result_bind, result_get, after_get] at hok
      dsimp only at hok
      rw [result_bind, result_get, after_get] at hok
      simp only [hhandle, result_throw, reduceCtorEq] at hok
    | some handle =>
      cases hrequest : (s.transfer id).request with
      | error refusal =>
        simp [submit, result_bind, hhandle, hrequest] at hok
      | ok request =>
        refine ⟨handle, request, hhandle, hrequest, ?_⟩
        refine Decidable.byContradiction fun hfree => ?_
        rw [result_submit_of_tracked hhandle hrequest hfree] at hok
        cases hok
  · rintro ⟨handle, request, h⟩
    exact result_submit h

/-- A submission that is refused changes nothing. -/
theorem plain_after_submit_refused {e : UsbError}
    (refused : result (submit id) s = .error (.error e)) :
    (after (submit id) s).plain = s.plain := by
  cases hhandle : (s.transfer id).handle.bind s.handle? with
  | none => simp [submit, result_bind, hhandle] at refused
  | some handle =>
    cases hrequest : (s.transfer id).request with
    | error refusal => simp [submit, after_bind, hhandle, hrequest]
    | ok request =>
      by_cases hfree : (s.tracker handle.context).entries.get? id = none
      · rw [result_submit ⟨hhandle, hrequest, hfree⟩] at refused
        cases refused
      · have hfault := result_submit_of_tracked hhandle hrequest hfree
        rw [hfault] at refused
        cases refused

/-- **What a submission and its answer come to**, whether the platform gives the
answer at once or only later: the transfer has completed with it. -/
theorem plain_after_answer (h : s.Accepts id handle request) (hc : s.HasContext handle.context)
    {answer : TransferOutcome}
    (early : ∀ outcome, (s.start id handle request).1 = some outcome → outcome = answer) :
    (after (deliver (s.nextTicket handle.context id) answer) (after (submit id) s)).plain =
      setTracker handle.context (((s.tracker handle.context).enlist id).complete id answer)
        (s.submitted id handle request).plain := by
  have hc' : (s.submitted id handle request).plain.HasContext handle.context :=
    hasContext_plain.mpr ((hasContext_submitted request).mpr hc)
  rw [plain_after_deliver, context_nextTicket]
  cases hstart : (s.start id handle request).1 with
  | none =>
    rw [← tracker_plain, plain_after_submit h hstart, tracker_plain, tracker_submitted hc]
    exact congrArg (setTracker handle.context · _) (Tracker.deliver_enlist ..)
  | some outcome =>
    obtain rfl := early outcome hstart
    rw [← tracker_plain, plain_after_submit_answered h hc hstart, hc'.tracker_setTracker,
      setTracker_setTracker]
    exact congrArg (setTracker handle.context · _)
      (Tracker.deliver_complete _ (s.nextTicket handle.context id).submission outcome outcome)

end Submit

/-! ## Cancelling and freeing -/

section Calls
variable (s : Session σ κ) (c : ContextId) (id : TransferId) (outcome : TransferOutcome)

variable {s id c} in
theorem plain_after_cancel (h : s.contextOf? (s.transfer id) = some c) :
    (after (cancel id) s).plain = setTracker c ((s.tracker c).cancel id).2 s.plain := by
  have htrack := result_track_reached (σ := σ) (κ := κ) (Tracker.step_cancel (s.tracker c) id)
  have hplain := plain_after_track_reached (σ := σ) (κ := κ) (Tracker.step_cancel (s.tracker c) id)
  rw [cancel, after_bind, result_get]
  simp only [after_get, h, after_bind, result_reach, htrack]
  cases ((s.tracker c).cancel id).1 with
  | true => rw [after_note, plain_notices, hplain]
  | false => rw [after_throw, hplain]

variable {s id c} in
theorem result_cancel (h : s.contextOf? (s.transfer id) = some c) :
    result (cancel id) s =
      if ((s.tracker c).cancel id).1 then .ok () else .error (.error .notFound) := by
  have htrack := result_track_reached (σ := σ) (κ := κ) (Tracker.step_cancel (s.tracker c) id)
  rw [cancel, result_bind, result_get]
  simp only [after_get, h, result_bind, result_reach, htrack]
  cases ((s.tracker c).cancel id).1 <;> rfl

variable {s id c} in
theorem plain_after_free (h : s.contextOf? (s.transfer id) = some c) :
    (after (free id) s).plain =
      (setTracker c ((s.tracker c).remove id).2 s.plain).alter id
        fun _ => (s.transfer id).release.2 := by
  have hplain : (s.withdrawn id).plain = setTracker c ((s.tracker c).remove id).2 s.plain := by
    rw [withdrawn, h]
    exact plain_after_track_reached (Tracker.step_remove ..)
  have htransfer : (s.withdrawn id).transfer id = s.transfer id := by
    rw [← transfer_plain, hplain, transfer_setTracker, transfer_plain]
  rw [after_free, plain_alter, hplain, htransfer]

variable {s id} in
/-- A transfer whose handle names no context is tracked nowhere as far as it knows. -/
theorem plain_after_free_of_no_context (h : s.contextOf? (s.transfer id) = none) :
    (after (free id) s).plain = s.plain.alter id fun _ => (s.transfer id).release.2 := by
  have hsame : s.withdrawn id = s := by rw [withdrawn, h]
  rw [after_free, hsame, plain_alter]

/-! ## Events -/

theorem plain_after_poll :
    (after (EventLoop.poll c) s).plain = setTracker c (s.tracker c).extract.2 s.plain := by
  rw [EventLoop.after_poll, after_extract,
    plain_after_track_reached (Tracker.step_extract ..)]

theorem plain_after_finish :
    (after (finish id outcome) s).plain =
      s.plain.alter id fun _ => { (s.transfer id).conclude outcome with callback := none } := by
  obtain ⟨ns, h⟩ := after_finish s id outcome
  rw [h, plain_alter, plain_notices]

/-- What `handleEvents` does before it runs a callback: it takes the transfer that
completed first, if there is one, and writes its answer into it. -/
def finalize (c : ContextId) : SessionM σ κ (Option (TransferId × Option (Callback κ))) := do
  match ← EventLoop.poll c with
  | some (id, outcome) => return some (id, ← finish id outcome)
  | none => return none

/-- `handleEvents` finalizes a transfer, runs its callback and settles it. -/
theorem handleEvents_eq [Platform σ] (run : TransferId → Callback κ → SessionM σ κ Unit)
    (c : ContextId) :
    handleEvents (σ := σ) run c = (do
      match ← finalize c with
      | some (id, some callback) =>
        run id callback
        settle id (some callback.called)
      | some (id, none) => settle id none
      | none => pure ()) := by
  simp only [handleEvents, finalize, EventLoop.poll, conclude, bind_assoc]
  refine congrArg _ (funext fun _ => congrArg _ (funext fun found => ?_))
  cases found with
  | none => rfl
  | some found =>
    simp only [bind_assoc, pure_bind]
    refine congrArg _ (funext fun callback => ?_)
    cases callback <;> rfl

variable {s c id outcome} in
theorem result_finalize (h : (s.tracker c).extract.1 = some (id, outcome)) :
    result (finalize c) s = .ok (some (id, (s.transfer id).callback)) := by
  have hsame : (after (EventLoop.poll c) s).transfer id = s.transfer id := by
    rw [← transfer_plain, plain_after_poll, transfer_setTracker, transfer_plain]
  rw [finalize, result_bind, EventLoop.result_poll, h]
  dsimp only
  rw [result_bind, result_finish, hsame]
  rfl

variable {s c id outcome} in
theorem plain_after_finalize (h : (s.tracker c).extract.1 = some (id, outcome)) :
    (after (finalize c) s).plain =
      (setTracker c (s.tracker c).extract.2 s.plain).alter id
        fun _ => { (s.transfer id).conclude outcome with callback := none } := by
  have hsame : (after (EventLoop.poll c) s).transfer id = s.transfer id := by
    rw [← transfer_plain, plain_after_poll, transfer_setTracker, transfer_plain]
  rw [finalize, after_bind, EventLoop.result_poll, h]
  dsimp only
  rw [after_bind, result_finish]
  dsimp only
  rw [after_pure, plain_after_finish, plain_after_poll, hsame]

variable {s c} in
/-- Where nothing has completed nothing is finalized. -/
theorem result_finalize_of_none (h : (s.tracker c).extract.1 = none) :
    result (finalize c) s = .ok none := by
  rw [finalize, result_bind, EventLoop.result_poll, h]
  rfl

variable {s c} in
theorem plain_after_finalize_of_none (h : (s.tracker c).extract.1 = none) :
    (after (finalize c) s).plain = setTracker c (s.tracker c).extract.2 s.plain := by
  rw [finalize, after_bind, EventLoop.result_poll, h]
  exact plain_after_poll s c

variable {s c id outcome} in
theorem transfer_after_finalize (first : (s.tracker c).extract.1 = some (id, outcome))
    (ha : s.Allocated id) :
    (after (finalize c) s).transfer id =
      { (s.transfer id).conclude outcome with callback := none } := by
  have ha' : (setTracker c (s.tracker c).extract.2 s.plain).Allocated id := by
    rwa [Allocated, transfer?_setTracker]
  rw [← transfer_plain, plain_after_finalize first, transfer_alter_self ha']

variable {s c id outcome} in
theorem transfer?_after_finalize_of_ne (first : (s.tracker c).extract.1 = some (id, outcome))
    {id' : TransferId} (hid : id' ≠ id) :
    (after (finalize c) s).transfer? id' = s.transfer? id' := by
  rw [← transfer?_plain, plain_after_finalize first, transfer?_alter, if_neg hid,
    transfer?_setTracker, transfer?_plain]

/-- Settling puts the callback back, and nothing else unless the transfer is to be
freed. -/
theorem after_settle_of_kept [Platform σ] (callback : Option (Callback κ))
    (hkeep : (s.transfer id).flags.contains .freeTransfer = false) :
    after (settle id callback) s =
      s.alter id fun t => { t with callback := t.callback.or callback } := by
  have hflag : ((after (restore id callback) s).transfer id).flags.contains .freeTransfer =
      false := by
    rw [after_restore, ← hkeep]
    exact field_alter (fun t => t.flags.contains .freeTransfer) fun _ => rfl
  rw [settle, after_bind, result_restore, hflag, after_restore]
  rfl

end Calls

/-! ## A callback that keeps still -/

section Quiet
variable [Platform σ] {s : Session σ κ} {c : ContextId} {id : TransferId}
  {outcome : TransferOutcome} {run : TransferId → Callback κ → SessionM σ κ Unit}

theorem transfer_after_settle (callback : Option (Callback κ))
    (hkeep : (s.transfer id).flags.contains .freeTransfer = false) :
    ∃ callback', (after (settle id callback) s).transfer id =
      { s.transfer id with callback := callback' } := by
  rw [after_settle_of_kept s id callback hkeep]
  by_cases ha : s.Allocated id
  · exact ⟨_, transfer_alter_self ha⟩
  · exact ⟨(s.transfer id).callback, alter_of_not_allocated ha⟩

/-- **What `handleEvents` leaves** in the transfer it finalizes, if neither its
callback nor a flag interferes: the outcome, and some callback. -/
theorem transfer_after_handleEvents (first : (s.tracker c).extract.1 = some (id, outcome))
    (ha : s.Allocated id)
    (quiet : ∀ callback s, (after (run id callback) s).transfer id = s.transfer id)
    (hkeep : (s.transfer id).flags.contains .freeTransfer = false) :
    ∃ callback, (after (handleEvents (σ := σ) run c) s).transfer id =
      { (s.transfer id).conclude outcome with callback := callback } := by
  have hfinal := transfer_after_finalize first ha
  have hflags : ((after (finalize c) s).transfer id).flags.contains .freeTransfer = false := by
    rw [hfinal, ← hkeep]
    cases outcome <;> rfl
  rw [handleEvents_eq, after_bind, result_finalize first]
  cases (s.transfer id).callback with
  | none =>
    obtain ⟨callback, hsettled⟩ := transfer_after_settle none hflags
    exact ⟨callback, by rw [hsettled, hfinal]⟩
  | some callback =>
    have hrun := quiet callback (after (finalize c) s)
    dsimp only
    rw [after_bind]
    -- A callback that fails leaves the transfer as it has found it.
    cases result (run id callback) (after (finalize c) s) with
    | error e => exact ⟨none, by rw [hrun, hfinal]⟩
    | ok _ =>
      rw [← hrun] at hflags
      obtain ⟨callback', hsettled⟩ := transfer_after_settle (some callback.called) hflags
      exact ⟨callback', by rw [hsettled, hrun, hfinal]⟩

end Quiet

end Session
end UsbHost
