import UsbHost.Platform.Scripted
import UsbHost.Proofs.Session.Contexts
import UsbHost.Proofs.Session.Turns
import UsbHost.Proofs.Transfer.Requests
import UsbHost.Record.Sample

/-! # Submitting is all or nothing

A transfer is refused before anything has been done for it, and which transfers are
refused is said in advance: those that ask for what no platform can do, and those
whose length does not fit (`Transfer.request_cases`).  Nothing that comes after
these checks can fail for a transfer that nobody tracks, so a transfer that passes
them is started (`Accepts.submits`).
-/
namespace UsbHost

/-- What a tracker knows of a submission that was started: it is in flight, unless
the platform has answered it already. -/
def Tracker.Entry.started (number : Nat) : Option TransferOutcome → Tracker.Entry
  | none => .pending number
  | some outcome => .completed outcome

/-- Starting a transfer is recorded, once. -/
theorem ScriptedPlatform.requests_startTransfer (p : ScriptedPlatform)
    (connection : ConnectionId) (request : TransferRequest) (ticket : Ticket) :
    ((Platform.startTransfer connection request ticket).run p).2.requests =
      .transfer connection request true :: p.requests := by
  obtain ⟨devices, configurations, openOutcome, closeOutcome, interfaceOutcome, resetOutcome,
    answers, immediate, requests, parked⟩ := p
  cases immediate <;> rfl

namespace Session

variable {σ κ : Type} [Platform σ] {s : Session σ κ} {id : TransferId} {handle : Handle}
  {request : TransferRequest}

/-- A transfer has been submitted.  No other transfer has changed, nor what is known
of it. -/
structure Submits (s : Session σ κ) (id : TransferId) (handle : Handle)
    (request : TransferRequest) (s' : Session σ κ) : Prop where
  /-- The platform has started one request, on the connection of the handle. -/
  platform : s'.platform = (s.start id handle request).2
  transfer : s'.transfer id = { s.transfer id with count := 0 }
  tracked : (s'.tracker handle.context).entries.get? id =
    some (.started ((s.tracker handle.context).submissions + 1) (s.start id handle request).1)
  otherTransfers : ∀ id' ≠ id, s'.transfer id' = s.transfer id'
  otherEntries : ∀ id' ≠ id, (s'.tracker handle.context).entries.get? id' =
    (s.tracker handle.context).entries.get? id'
  otherTrackers : ∀ c ≠ handle.context, s'.tracker c = s.tracker c

/-- A scripted platform has recorded exactly one request more. -/
theorem Submits.requests {s s' : Session ScriptedPlatform κ}
    (submits : s.Submits id handle request s') :
    s'.platform.requests = .transfer handle.connection request true :: s.platform.requests := by
  rw [submits.platform]
  exact ScriptedPlatform.requests_startTransfer ..

/-! ## What is accepted -/

/-- A transfer is tracked once it is submitted, whether it has been answered at once
or not; nothing else comes of an answer. -/
theorem Accepts.exists_plain (accepts : s.Accepts id handle request)
    (hc : s.HasContext handle.context) :
    ∃ t, (after (submit id) s).plain =
        setTracker handle.context t (s.submitted id handle request).plain ∧
      ∀ id', t.entries.get? id' =
        if id' = id then
          some (.started ((s.tracker handle.context).submissions + 1)
            (s.start id handle request).1)
        else (s.tracker handle.context).entries.get? id' := by
  cases hstart : (s.start id handle request).1 with
  | none =>
    -- The tracker is what it was given already, so giving it that again is nothing.
    refine ⟨(s.tracker handle.context).enlist id, ?_, Tracker.get?_enlist _ id⟩
    rw [plain_after_submit accepts hstart, submitted, plain_platform, plain_setTracker]
    exact (setTracker_setTracker_platform ..).symm
  | some outcome =>
    refine ⟨((s.tracker handle.context).enlist id).complete id outcome,
      plain_after_submit_answered accepts hc hstart, fun id' => ?_⟩
    rw [Tracker.get?_complete, Tracker.get?_enlist]
    by_cases hid : id' = id
    · rw [if_pos hid, if_pos hid]
      rfl
    · rw [if_neg hid, if_neg hid, if_neg hid]

/-- **An accepted transfer is submitted.** -/
theorem Accepts.submits (accepts : s.Accepts id handle request)
    (hc : s.HasContext handle.context) :
    s.Submits id handle request (after (submit id) s) := by
  obtain ⟨t, hplain, hentries⟩ := accepts.exists_plain hc
  have hc' : (s.submitted id handle request).plain.HasContext handle.context :=
    hasContext_plain.mpr ((hasContext_submitted request).mpr hc)
  have htransfer (id' : TransferId) :
      (after (submit id) s).transfer id' = (s.submitted id handle request).transfer id' := by
    rw [← transfer_plain, hplain, transfer_setTracker, transfer_plain]
  have htracker : (after (submit id) s).tracker handle.context = t := by
    rw [← tracker_plain, hplain, hc'.tracker_setTracker]
  constructor
  case platform => exact platform_after_submit accepts
  case transfer =>
    rw [htransfer, transfer_submitted (allocated_of_contextOf accepts.contextOf)]
  case tracked => rw [htracker, hentries, if_pos rfl]
  case otherTransfers =>
    intro id' hid
    rw [htransfer, transfer_submitted_of_ne hid]
  case otherEntries =>
    intro id' hid
    rw [htracker, hentries, if_neg hid]
  case otherTrackers =>
    intro c hother
    rw [← tracker_plain, hplain, tracker_setTracker_of_ne hother, tracker_plain,
      tracker_submitted_of_ne hother]

theorem Accepts.allocated_after (accepts : s.Accepts id handle request)
    (hc : s.HasContext handle.context) : (after (submit id) s).Allocated id := by
  obtain ⟨t, hplain, -⟩ := accepts.exists_plain hc
  rw [Allocated, ← transfer?_plain, hplain, transfer?_setTracker, transfer?_plain]
  exact allocated_submitted.mpr (allocated_of_contextOf accepts.contextOf)

/-! ## What is refused -/

/-- A transfer that makes no request is refused, and only a notice is left of it. -/
theorem submit_run_refused {why : Transfer.Refusal}
    (opened : (s.transfer id).handle.bind s.handle? = some handle)
    (refused : (s.transfer id).request = .error why) :
    (submit id).run.run s =
      (.error (.error why.error), { s with notices := .submitRefused why :: s.notices }) := by
  rw [submit, run_bind_of_ok (result_get s), after_get, run_bind_of_ok (result_get s), after_get]
  simp only [opened, refused]
  rw [run_bind_of_ok (result_note ..), after_note]
  rfl

theorem result_submit_refused {why : Transfer.Refusal}
    (opened : (s.transfer id).handle.bind s.handle? = some handle)
    (refused : (s.transfer id).request = .error why) :
    result (submit id) s = .error (.error why.error) :=
  congrArg Prod.fst (submit_run_refused opened refused)

theorem after_submit_refused {why : Transfer.Refusal}
    (opened : (s.transfer id).handle.bind s.handle? = some handle)
    (refused : (s.transfer id).request = .error why) :
    after (submit id) s = { s with notices := .submitRefused why :: s.notices } :=
  congrArg Prod.snd (submit_run_refused opened refused)

/-- **Submitting is all or nothing.**  A transfer with a handle, which is not
tracked, is refused as not supported exactly when it asks for what no platform can
do, as invalid exactly when its length does not fit, and accepted otherwise.  Of one
that is refused there is nothing left but a notice; one that is accepted has been
submitted. -/
theorem Reached.submit_all_or_nothing (reached : s.Reached)
    (opened : (s.transfer id).handle.bind s.handle? = some handle)
    (untracked : (s.tracker handle.context).entries.get? id = none) :
    (result (submit id) s = .error (.error .notSupported) ↔ (s.transfer id).Unsupported) ∧
    (result (submit id) s = .error (.error .invalidParam) ↔
      ¬ (s.transfer id).Unsupported ∧ (s.transfer id).Missized) ∧
    (result (submit id) s = .ok () ↔
      ¬ (s.transfer id).Unsupported ∧ ¬ (s.transfer id).Missized) ∧
    (∀ failure, result (submit id) s = .error failure →
      ∃ ns, after (submit id) s = { s with notices := ns }) ∧
    (result (submit id) s = .ok () →
      ∃ request, (s.transfer id).request = .ok request ∧
        s.Submits id handle request (after (submit id) s)) := by
  -- That the session can be reached is used only here: there is a tracker to submit to.
  have hc : s.HasContext handle.context := by
    obtain ⟨key, -, hkey⟩ := Option.bind_eq_some_iff.mp opened
    exact reached.hasContext hkey
  rcases (s.transfer id).request_cases with
    ⟨hunsupported, why, hrequest, hwhy⟩ | ⟨hsupported, hmissized, why, hrequest, hwhy⟩ |
      ⟨hsupported, hfits, request, hrequest⟩
  · have hafter := after_submit_refused opened hrequest
    rw [result_submit_refused opened hrequest, hwhy]
    exact ⟨iff_of_true rfl hunsupported, iff_of_false nofun fun h => h.1 hunsupported,
      iff_of_false nofun fun h => h.1 hunsupported, fun _ _ => ⟨_, hafter⟩, nofun⟩
  · have hafter := after_submit_refused opened hrequest
    rw [result_submit_refused opened hrequest, hwhy]
    exact ⟨iff_of_false nofun hsupported, iff_of_true rfl ⟨hsupported, hmissized⟩,
      iff_of_false nofun fun h => h.2 hmissized, fun _ _ => ⟨_, hafter⟩, nofun⟩
  · have accepts : s.Accepts id handle request := ⟨opened, hrequest, untracked⟩
    rw [result_submit accepts]
    exact ⟨iff_of_false nofun hsupported, iff_of_false nofun fun h => hfits h.2,
      iff_of_true rfl ⟨hsupported, hfits⟩, nofun,
      fun _ => ⟨request, hrequest, accepts.submits hc⟩⟩

/-- A session with an open device and a transfer for a setup block that states two
bytes of data. -/
def asking (length : Nat) : Session ScriptedPlatform Unit :=
  [.openDevice ⟨0⟩ ⟨.default, Sample.device 1 0x1000 0x2000, 1⟩, .allocTransfer 0,
    .fillControl ⟨1⟩ ⟨0⟩ [0x80, 6, 0, 1, 0, 0, 2, 0, 0, 0] {} 1000,
    .assign ⟨1⟩ (.length length)].foldl (fun s call => after (Call.run call) s) { platform := {} }

theorem reached_asking (length : Nat) : (asking length).Reached := by
  have opened := (Reached.new {}).call
    (.openDevice ⟨0⟩ ⟨.default, Sample.device 1 0x1000 0x2000, 1⟩ : Call ScriptedPlatform Unit)
    fun _ _ h => by cases h; trivial
  have allocated := opened.call (.allocTransfer 0) nofun
  exact (allocated.call (.fillControl ..) nofun).call (.assign ..) nofun

theorem opened_asking (length : Nat) :
    ((asking length).transfer ⟨1⟩).handle.bind (asking length).handle? =
      some ⟨⟨0⟩, .default, ⟨101⟩, false⟩ := rfl

/-- The transfer is accepted with the length that its setup block asks for, and
refused with another. -/
theorem submit_all_or_nothing_control :
    result (submit ⟨1⟩) (asking 10) = .ok () ∧
    (∃ request, (after (submit ⟨1⟩) (asking 10)).platform.requests =
      .transfer ⟨101⟩ request true :: (asking 10).platform.requests) ∧
    ((after (submit ⟨1⟩) (asking 10)).tracker .default).entries.get? ⟨1⟩ = some (.pending 1) ∧
    result (submit ⟨1⟩) (asking 9) = .error (.error .invalidParam) ∧
    ∃ ns, after (submit ⟨1⟩) (asking 9) = { asking 9 with notices := ns } := by
  obtain ⟨-, -, haccepted, -, hsubmits⟩ :=
    (reached_asking 10).submit_all_or_nothing (opened_asking 10) rfl
  obtain ⟨-, hinvalid, -, hrefused, -⟩ :=
    (reached_asking 9).submit_all_or_nothing (opened_asking 9) rfl
  have hok := haccepted.mpr ⟨by decide +kernel, by decide +kernel⟩
  have herror := hinvalid.mpr ⟨by decide +kernel, by decide +kernel⟩
  obtain ⟨request, -, submits⟩ := hsubmits hok
  exact ⟨hok, ⟨request, submits.requests⟩, submits.tracked, herror, hrefused _ herror⟩

end Session
end UsbHost
