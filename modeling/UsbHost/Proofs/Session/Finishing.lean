import UsbHost.Proofs.Session.Submitting
import UsbHost.Proofs.Transfer.Window

/-! # Finishing a transfer

What `Session.finish` does to a transfer that was extracted, before its callback runs:
the answer is written into the window of its buffer, whatever has become of the buffer
since the transfer was submitted, and all ranges lie where they have to
(`Session.finish_in_window`).
-/
namespace UsbHost.Session

variable {σ κ : Type} [Platform σ] {s : Session σ κ} {id : TransferId}

/-- What an accepted submission changes in a transfer, answered at once or not. -/
theorem transfer_after_submit {handle : Handle} {request : TransferRequest}
    (h : s.Accepts id handle request) :
    (after (submit id) s).transfer id = { s.transfer id with count := 0 } := by
  obtain ⟨s', hs', hrun⟩ := submit_run h
  have htransfer : s'.transfer id = { s.transfer id with count := 0 } := by
    rw [← transfer_plain, hs', transfer_plain]
    exact transfer_submitted (allocated_of_contextOf h.contextOf)
  rw [after, hrun, ← htransfer]
  cases (s.start id handle request).1 with
  | none => rfl
  | some outcome =>
    change (after (deliver _ outcome) s').transfer id = _
    rw [← transfer_plain, plain_after_deliver, transfer_setTracker, transfer_plain]

variable (s id) in
/-- **A transfer is finished within its window.**  Submitting has set the count of
transferred bytes to zero.  Finishing does not fail, and uses no range that does not lie in
the buffer or in the response.  The transfer becomes what the answer makes of it, of which
the size of the buffer is no part. -/
theorem finish_in_window :
    (result (submit id) s = .ok () → ((after (submit id) s).transfer id).count = 0) ∧
    ∀ outcome, s.Allocated id → ∃ t,
      result (finish id outcome) s = .ok t.callback ∧
      (after (finish id outcome) s).transfer id = { t with callback := none } ∧
      (s.transfer id).conclude? outcome = some t ∧
      (s.transfer id).Finalized outcome t ∧
      t.bytes.length = (s.transfer id).bytes.length ∧
      (t.buffer = none ↔ (s.transfer id).buffer = none ∧ outcome.isSuccessful = false) := by
  constructor
  · intro hok
    obtain ⟨handle, request, accepts⟩ := result_submit_eq_ok_iff.mp hok
    rw [transfer_after_submit accepts]
  · intro outcome ha
    have hfinalized := (s.transfer id).finalized_conclude outcome
    have hcallback : ((s.transfer id).conclude outcome).callback = (s.transfer id).callback := by
      cases outcome <;> rfl
    refine ⟨(s.transfer id).conclude outcome, ?_, ?_, Transfer.conclude?_eq ..,
      hfinalized, hfinalized.length_bytes, hfinalized.buffer_eq_none_iff⟩
    · rw [result_finish, hcallback]
    · obtain ⟨ns, h⟩ := after_finish s id outcome
      rw [h]
      exact transfer_alter_self ha

/-- A transfer for a setup block that states two bytes of data, which was submitted and
has lost the last byte of its buffer since. -/
def shrunk : Session ScriptedPlatform Unit :=
  (after (submit ⟨1⟩) (asking 10)).alter ⟨1⟩ fun t => { t with buffer := some (t.bytes.take 9) }

/-- Of three bytes two count, as many as were asked for, and one is written. -/
theorem finish_in_window_shrunk :
    ((after (submit ⟨1⟩) (asking 10)).transfer ⟨1⟩).count = 0 ∧
    ∃ t : Transfer Unit,
      (after (finish ⟨1⟩ (.succeeded (.success (some [18, 1, 7])))) shrunk).transfer ⟨1⟩ =
        { t with callback := none } ∧
      t.buffer = some [0x80, 6, 0, 1, 0, 0, 2, 0, 18] ∧ t.status = .completed ∧ t.count = 2 := by
  obtain ⟨hsubmitted, -⟩ := finish_in_window (asking 10) ⟨1⟩
  obtain ⟨-, hfinished⟩ := finish_in_window shrunk ⟨1⟩
  obtain ⟨t, -, htransfer, -, hfinalized, -⟩ :=
    hfinished (.succeeded (.success (some [18, 1, 7]))) rfl
  refine ⟨hsubmitted rfl, t, htransfer, ?_⟩
  cases hfinalized with
  | data => exact ⟨rfl, rfl, rfl⟩
  | refused _ ne_success => exact absurd rfl ne_success

end UsbHost.Session
