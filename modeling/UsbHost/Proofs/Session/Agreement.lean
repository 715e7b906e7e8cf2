import UsbHost.Platform.Scripted
import UsbHost.Proofs.Session.Exchange

/-! # The two ways of an exchange agree

A call that waits for its end, and a transfer that is filled, submitted, answered
and finalized, ask the platform for the same and come to the same: the data, and
whether the exchange succeeded and with how many bytes.
-/
namespace UsbHost
namespace Exchange
open Session

variable {σ κ : Type} [Platform σ]

/-- Fills a transfer with the data and submits it. -/
def launch (x : Exchange) (data : List UInt8) (timeout : UInt32) (key : HandleKey)
    (callback : Callback κ) (id : TransferId) : SessionM σ κ Unit := do
  modify (alter id (x.fill data timeout key callback))
  submit id

/-- Has a transfer answered, and handles events once. -/
def await (run : TransferId → Callback κ → SessionM σ κ Unit) (ticket : Ticket)
    (answer : TransferOutcome) : SessionM σ κ Unit := do
  deliver ticket answer
  handleEvents (σ := σ) run ticket.context

/-- A transfer without flags, for an open handle in whose context nothing else is
in flight. -/
structure Fresh (s : Session σ κ) (key : HandleKey) (handle : Handle) (id : TransferId) :
    Prop where
  opened : s.handle? key = some handle
  context : s.HasContext handle.context
  allocated : s.Allocated id
  noFlags : (s.transfer id).flags = .empty
  free : (s.tracker handle.context).entries.get? id = none
  empty : (s.tracker handle.context).completed = []

section Agreement
variable {x : Exchange} {data : List UInt8} {s : Session σ κ} {key : HandleKey}
  {handle : Handle} {id : TransferId}

omit [Platform σ] in
theorem Fresh.accepts (fresh : Fresh s key handle id) (fits : x.Fits data) (timeout : UInt32)
    (callback : Callback κ) :
    (s.alter id (x.fill data timeout key callback)).Accepts id handle
      (x.request data timeout) where
  opened := by
    have hkey : (s.alter id (x.fill data timeout key callback)).handle? key = some handle := by
      rw [handle?, handles_alter]
      exact fresh.opened
    rw [transfer_alter_self fresh.allocated]
    cases x <;> exact hkey
  asks := by
    rw [transfer_alter_self fresh.allocated]
    exact request_fill timeout fits key callback _ (by rw [fresh.noFlags]; rfl)
  free := by
    rw [tracker_alter]
    exact fresh.free

/-- An answer does the same to a transfer over a whole buffer as to its data. -/
theorem conclude_eq_applied {t : Transfer κ} {front : List UInt8} (h : t.Covers front data)
    (noFlags : t.flags = .empty) (answer : TransferOutcome) :
    (t.conclude answer).buffer = some (front ++ (answer.applied data).2) ∧
      ∀ n, (answer.applied data).1 = .ok n ↔
        (t.conclude answer).status = .completed ∧ (t.conclude answer).count = n := by
  cases answer with
  | succeeded r =>
    have hflag : t.flags.contains .shortNotOk = false := by rw [noFlags]; rfl
    rw [h.conclude, hflag]
    exact ⟨rfl, Applied.result_eq_ok_iff _⟩
  | failed message =>
    refine ⟨h.buffer, fun n => ⟨fun hok => ?_, fun hdone => ?_⟩⟩
    · cases hok
    · cases hdone.1
  | canceled =>
    refine ⟨h.buffer, fun n => ⟨fun hok => ?_, fun hdone => ?_⟩⟩
    · cases hok
    · cases hdone.1

/-- What becomes of the transfer: the answer is applied to it as it was filled. -/
theorem transfer_after_await (fresh : Fresh s key handle id) (fits : x.Fits data)
    (timeout : UInt32) (callback : Callback κ) {answer : TransferOutcome}
    {run : TransferId → Callback κ → SessionM σ κ Unit}
    (early : ∀ outcome, ((Platform.startTransfer handle.connection (x.request data timeout)
      (s.nextTicket handle.context id)).run s.platform).1 = some outcome → outcome = answer)
    (quiet : ∀ callback s, (after (run id callback) s).transfer id = s.transfer id) :
    ∃ callback', (after (await run (s.nextTicket handle.context id) answer)
        (after (x.launch data timeout key callback id) s)).transfer id =
      { ({ x.fill data timeout key callback (s.transfer id) with count := 0 } :
          Transfer κ).conclude answer with callback := callback' } := by
  have accepts := fresh.accepts fits timeout callback
  generalize hs₁ : s.alter id (x.fill data timeout key callback) = s₁ at accepts
  have hc : s₁.HasContext handle.context := hs₁ ▸ hasContext_alter.mpr fresh.context
  have ha : s₁.Allocated id := hs₁ ▸ allocated_alter.mpr fresh.allocated
  have hticket : s₁.nextTicket handle.context id = s.nextTicket handle.context id := by
    rw [← hs₁, nextTicket_alter]
  have hplatform : s₁.platform = s.platform := by rw [← hs₁, platform_alter]
  have hqueue : (s₁.tracker handle.context).completed = [] := by
    rw [← hs₁, tracker_alter]
    exact fresh.empty
  have hfilled : s₁.transfer id = x.fill data timeout key callback (s.transfer id) := by
    rw [← hs₁, transfer_alter_self fresh.allocated]
  rw [← hticket, ← hplatform] at early
  have hlaunch : after (x.launch data timeout key callback id) s = after (submit id) s₁ := by
    rw [launch, after_bind, result_modify, after_modify, hs₁]
  have hplain := plain_after_answer accepts hc early
  generalize hs₂ : after (deliver (s₁.nextTicket handle.context id) answer) (after (submit id) s₁) =
    s₂ at hplain
  -- The answer is the first, since nothing else has completed.
  have hfirst : (s₂.tracker handle.context).extract.1 = some (id, answer) := by
    rw [← tracker_plain, hplain, (hasContext_plain.mpr
      ((hasContext_submitted (x.request data timeout)).mpr hc)).tracker_setTracker]
    exact Tracker.extract_complete _ id answer hqueue
  have htransfer : s₂.transfer id = { s₁.transfer id with count := 0 } := by
    rw [← transfer_plain, hplain, transfer, transfer?_setTracker, transfer?_plain]
    exact transfer_submitted ha
  have ha' : s₂.Allocated id := by
    rw [Allocated, ← transfer?_plain, hplain, transfer?_setTracker, transfer?_plain]
    exact allocated_submitted.mpr ha
  have hkeep : (s₂.transfer id).flags.contains .freeTransfer = false := by
    rw [htransfer, hfilled, flags_fill, fresh.noFlags]
    rfl
  obtain ⟨callback', hdone⟩ := transfer_after_handleEvents hfirst ha' quiet hkeep
  refine ⟨callback', ?_⟩
  rw [← hfilled, ← htransfer, ← hdone, await, hlaunch, ← hticket, after_bind, result_deliver, hs₂]
  rfl

/-- **The call and the transfer agree.**  Whatever the platform's answer, for both
it is asked for the same on the same connection; the data end up the same, behind
what stood before them in the buffer; and the call succeeds with a number of
bytes exactly if the transfer is completed with it. -/
theorem call_eq_transfer (x : Exchange) (data : List UInt8) (timeout : UInt32)
    (callback : Callback κ) (run : TransferId → Callback κ → SessionM σ κ Unit)
    (answer : TransferOutcome) (fresh : Fresh s key handle id) (fits : x.Fits data)
    (answered : ((Platform.transfer handle.connection (x.request data timeout)).run
      s.platform).1 = answer)
    (early : ∀ outcome, ((Platform.startTransfer handle.connection (x.request data timeout)
      (s.nextTicket handle.context id)).run s.platform).1 = some outcome → outcome = answer)
    (quiet : ∀ callback s, (after (run id callback) s).transfer id = s.transfer id) :
    result (x.launch data timeout key callback id) s = .ok () ∧
    (after (x.launch data timeout key callback id) s).platform =
      ((Platform.startTransfer handle.connection (x.request data timeout)
        (s.nextTicket handle.context id)).run s.platform).2 ∧
    (after (x.run data timeout handle) s).platform =
      ((Platform.transfer handle.connection (x.request data timeout)).run s.platform).2 ∧
    ∃ outcome dest t, result (x.run data timeout handle) s = .ok (outcome, dest) ∧
      (after (await run (s.nextTicket handle.context id) answer)
        (after (x.launch data timeout key callback id) s)).transfer id = t ∧
      t.buffer = some (x.head data ++ dest) ∧
      ∀ n, outcome = .ok n ↔ t.status = .completed ∧ t.count = n := by
  have accepts := fresh.accepts fits timeout callback
  have hlaunch : (x.launch data timeout key callback id).run.run s =
      (submit id).run.run (s.alter id (x.fill data timeout key callback)) := by
    rw [launch, run_bind_of_ok (result_modify ..), after_modify]
  obtain ⟨ns, hrun⟩ := run_spec timeout fits handle s
  obtain ⟨callback', htransfer⟩ := transfer_after_await fresh fits timeout callback early quiet
  obtain ⟨hbuffer, hresult⟩ := conclude_eq_applied
    ((covers_fill timeout fits key callback (s.transfer id)).setCount 0)
    (by rw [flags_fill, fresh.noFlags]) answer
  refine ⟨?_, ?_, ?_, (answer.applied data).1, (answer.applied data).2, _, ?_, htransfer, hbuffer,
    hresult⟩
  · rw [result, hlaunch]
    exact result_submit accepts
  · rw [after, hlaunch]
    refine (platform_after_submit accepts).trans ?_
    rw [start, nextTicket_alter, platform_alter]
  · rw [after, hrun]
  · rw [result, hrun, answered]

end Agreement

/-- A session with an open handle and a transfer, on a platform that has one answer
ready. -/
def answering (answer : TransferOutcome) : Session ScriptedPlatform Unit where
  platform := { answers := [answer] }
  handles := [{ device := ⟨0⟩, context := .default, connection := ⟨101⟩ }]
  transfers := [{}]

/-- The open handle of `answering`. -/
def answeringHandle : Handle := { device := ⟨0⟩, context := .default, connection := ⟨101⟩ }

theorem fresh_answering (answer : TransferOutcome) :
    Fresh (answering answer) ⟨0⟩ answeringHandle ⟨1⟩ :=
  ⟨rfl, trivial, rfl, rfl, rfl, rfl⟩

/-- A device descriptor is asked for, and comes short. -/
theorem call_eq_transfer_descriptor :
    ∃ t : Transfer Unit,
      (after (await (fun _ _ => pure ()) ⟨.default, ⟨⟨1⟩, 1⟩⟩
          (.succeeded (.success (some [18, 1]))))
        (after (launch (.control 0x80 6 0x100 0) [0, 0, 0, 0] 1000 ⟨0⟩ {} ⟨1⟩)
          (answering (.succeeded (.success (some [18, 1])))))).transfer ⟨1⟩ = t ∧
      t.buffer = some [0x80, 6, 0, 1, 0, 0, 4, 0, 18, 1, 0, 0] ∧ t.status = .completed ∧
      t.count = 2 := by
  obtain ⟨-, -, -, outcome, dest, t, hcall, htransfer, hbuffer, hresult⟩ :=
    call_eq_transfer (.control 0x80 6 0x100 0) [0, 0, 0, 0] 1000 {} (fun _ _ => pure ())
      (.succeeded (.success (some [18, 1]))) (fresh_answering _)
      (show 4 < UInt16.size by decide) rfl (fun _ h => by cases h) fun _ _ => rfl
  have hdone : Except.ok (Except.ok 2, [18, 1, 0, 0]) = Except.ok (outcome, dest) := hcall
  cases hdone
  exact ⟨t, htransfer, hbuffer, (hresult 2).mp rfl⟩

end Exchange
end UsbHost
