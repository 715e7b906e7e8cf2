import UsbHost.Host.Scripted
import UsbHost.Platform.Usb
import UsbHost.Proofs.Worker.Journal
import UsbHost.Proofs.Session.Exchange
import UsbHost.Proofs.Transfer.Requests

/-! # The number of bytes of a transfer on a host

A host that runs a transfer says how many bytes it has moved, which may be fewer
than asked for: a transfer can end early in either direction.  Here the number is
followed from the host through the worker's response to what the session reports.

For input the response holds the bytes that came in, and the number arrives.  For
output the response holds nothing, so the session reports what was asked for,
whatever went out.
-/
namespace UsbHost

/-! ## What a request asks of a host -/

namespace TransferRequest

def direction : TransferRequest → Direction
  | control r => r.direction
  | bulk r | interrupt r => r.direction

/-- How many bytes may come in. -/
def inputLength : TransferRequest → Nat
  | control r => (r.length.getD 0).toNat
  | bulk r | interrupt r => (r.length.getD 0).toNat

end TransferRequest

namespace HostTransfer
variable {r : TransferRequest} {t : HostTransfer} {reply : HostReply} {moved : List UInt8}

/-- The data stage of a host transfer has the direction of its request. -/
theorem data_of_ofRequest (h : ofRequest r = .ok t) :
    (r.direction = .input → t.data = .input r.inputLength) ∧
      (r.direction = .output → ∃ bytes, t.data = .output bytes) := by
  have of_dataOf : ∀ {r : DataRequest} {d : HostData}, ofRequest.dataOf r = .ok d →
      (r.direction = .input → d = .input (r.length.getD 0).toNat) ∧
        (r.direction = .output → ∃ bytes, d = .output bytes) := by
    intro r d hd
    rw [ofRequest.dataOf] at hd
    split at hd
    · cases hd
    · cases hdir : r.direction <;> rw [hdir] at hd <;> cases hd
      · exact ⟨fun _ => rfl, nofun⟩
      · exact ⟨nofun, fun _ => ⟨_, rfl⟩⟩
  cases r with
  | control r =>
    cases h
    refine ⟨fun hdir => ?_, fun hdir => ?_⟩
    · have hdir : r.direction = .input := hdir
      simp only [data, hdir, TransferRequest.inputLength]
    · have hdir : r.direction = .output := hdir
      simp only [data, hdir]
      exact ⟨_, rfl⟩
  | bulk r | interrupt r =>
    cases hd : ofRequest.dataOf r with
    | error e => rw [ofRequest, hd] at h; cases h
    | ok d =>
      rw [ofRequest, hd] at h
      cases h
      exact of_dataOf hd

theorem response_input {length : Nat} (hdata : t.data = .input length)
    (h : t.result reply = .ok moved) : t.response reply = .success (some moved) := by
  rw [response, h, hdata]

theorem response_output {bytes : List UInt8} (hdata : t.data = .output bytes)
    (h : t.result reply = .ok moved) : t.response reply = .success none := by
  rw [response, h, hdata]

/-- No more comes in than was asked for. -/
theorem length_le_of_input {length : Nat} (hdata : t.data = .input length)
    (h : t.result reply = .ok moved) : moved.length ≤ length := by
  have hmoved : moved = reply.data.take length := by
    rw [result, hdata] at h
    dsimp only at h
    split at h
    · exact (Except.ok.inj h).symm
    · split at h
      · exact (Except.ok.inj h).symm
      · cases h
  rw [hmoved, List.length_take]
  exact Nat.min_le_left ..

end HostTransfer

/-! ## How much may come in -/

theorem Setup.inputLength_toRequest_le (setup : Setup) (data : List UInt8) (timeout : UInt32) :
    (TransferRequest.control (setup.toRequest data timeout)).inputLength ≤
      setup.length.toNat := by
  simp only [TransferRequest.inputLength, Setup.toRequest]
  cases setup.direction with
  | input => exact Nat.le_refl _
  | output => exact Nat.zero_le _

theorem DataRequest.length_over_le (endpoint : UInt8) (data : List UInt8) (timeout : UInt32) :
    ((DataRequest.over endpoint data timeout).length.getD 0).toNat ≤ data.length := by
  simp only [DataRequest.over]
  cases Direction.ofByte endpoint with
  | input =>
    -- The length is kept in 32 bits.
    rw [Option.getD_some, Nat.toUInt32, UInt32.toNat_ofNat']
    exact Nat.mod_le ..
  | output => exact Nat.zero_le _

/-- A request of a transfer asks for no more bytes than the transfer has room for. -/
theorem Transfer.inputLength_le {κ : Type} {t : Transfer κ} {r : TransferRequest}
    (h : t.request = .ok r) : r.inputLength ≤ t.requested := by
  cases makes_of_request h with
  | @control setup kind_eq hasSetup =>
    have hstart : t.dataStart = Setup.size := by rw [dataStart, kind_eq]
    have hrequested : t.requested = setup.length.toNat := by
      rw [requested, hstart, hasSetup.length, Nat.add_sub_cancel_left]
    rw [hrequested]
    exact setup.inputLength_toRequest_le ..
  | bulk kind_eq | interrupt kind_eq =>
    have hstart : t.dataStart = 0 := by rw [dataStart, kind_eq]
    rw [requested, hstart]
    exact Nat.le_trans (DataRequest.length_over_le ..) (List.length_take_le ..)

namespace Exchange
variable (x : Exchange) (data : List UInt8) (timeout : UInt32)

theorem direction_request : (x.request data timeout).direction = x.direction := by
  cases x <;> rfl

theorem inputLength_request_le (fits : x.Fits data) :
    (x.request data timeout).inputLength ≤ data.length := by
  cases x with
  | control requestType request value index =>
    have hlength : data.length.toUInt16.toNat = data.length := UInt16.toNat_ofNat_of_lt fits
    exact Nat.le_trans (Setup.inputLength_toRequest_le ..) (Nat.le_of_eq hlength)
  | bulk endpoint | interrupt endpoint => exact DataRequest.length_over_le ..

end Exchange

namespace UsbPlatform
open Session

variable {η δ κ : Type} [Host η δ]

/-- A request on a connection goes to the host, and the host's transfer succeeds
with these bytes: those that came in, or as many as went out. -/
def Moves (p : UsbPlatform η δ) (connection : ConnectionId) (r : TransferRequest)
    (moved : List UInt8) : Prop :=
  ∃ w c h t, p.worker = some w ∧ w.connections.get? connection = some c ∧
    w.handles.get? c.handle = some h ∧ HostTransfer.ofRequest r = .ok t ∧
    t.result ((Host.transfer c.handle h.device t).run w.host).1 = .ok moved

/-- The bytes in the response to a request: those that came in. -/
def responseData (r : TransferRequest) (moved : List UInt8) : Option (List UInt8) :=
  match r.direction with
  | .input => some moved
  | .output => none

variable {p : UsbPlatform η δ} {connection : ConnectionId} {r : TransferRequest}
  {moved : List UInt8}

theorem Moves.length_le (h : p.Moves connection r moved) (hinput : r.direction = .input) :
    moved.length ≤ r.inputLength := by
  obtain ⟨w, c, handle, t, -, -, -, hrequest, hresult⟩ := h
  exact HostTransfer.length_le_of_input ((HostTransfer.data_of_ofRequest hrequest).1 hinput) hresult

theorem result_transfer {w : Worker η δ} {c : Worker.Connection} {h : Worker.OpenHandle δ}
    {t : HostTransfer} (hconnection : w.connections.get? connection = some c)
    (hhandle : w.handles.get? c.handle = some h) (hrequest : HostTransfer.ofRequest r = .ok t) :
    ((Worker.transfer connection r).run w).1 =
      .succeeded (t.response ((Host.transfer c.handle h.device t).run w.host).1) := by
  change Worker.result (Worker.transfer connection r) w = _
  rw [Worker.transfer, Worker.withConnection, Worker.result_bind, Worker.result_get,
    Worker.after_get, hconnection]
  dsimp only
  rw [Worker.result_bind, Worker.runRequest, Worker.result_bind, Worker.result_get,
    Worker.after_get, hrequest, hhandle]
  rfl

/-- The worker's answer to a request that succeeds on the host. -/
theorem Moves.worker_transfer (h : p.Moves connection r moved) :
    ∃ w, p.worker = some w ∧ ((Worker.transfer connection r).run w).1 =
      .succeeded (.success (responseData r moved)) := by
  obtain ⟨w, c, handle, t, hworker, hconnection, hhandle, hrequest, hresult⟩ := h
  refine ⟨w, hworker, (result_transfer hconnection hhandle hrequest).trans ?_⟩
  obtain ⟨hinput, houtput⟩ := HostTransfer.data_of_ofRequest hrequest
  cases hdirection : r.direction with
  | input =>
    rw [HostTransfer.response_input (hinput hdirection) hresult, responseData, hdirection]
  | output =>
    obtain ⟨bytes, hdata⟩ := houtput hdirection
    rw [HostTransfer.response_output hdata hresult, responseData, hdirection]

theorem Moves.transfer (h : p.Moves connection r moved) :
    ((Platform.transfer connection r).run p).1 =
      .succeeded (.success (responseData r moved)) := by
  obtain ⟨w, hworker, hanswer⟩ := h.worker_transfer
  obtain ⟨worker⟩ := p
  cases hworker
  exact hanswer

theorem Moves.startTransfer (h : p.Moves connection r moved) (ticket : Ticket) :
    ((Platform.startTransfer connection r ticket).run p).1 =
      some (.succeeded (.success (responseData r moved))) := by
  obtain ⟨w, hworker, hanswer⟩ := h.worker_transfer
  obtain ⟨worker⟩ := p
  cases hworker
  exact congrArg some hanswer

/-! ## What is reported -/

/-- The number of bytes that is reported of a transfer that has moved some: for
input these, for output those that were requested. -/
def reported (direction : Direction) (moved : List UInt8) (requested : Nat) : Nat :=
  match direction with
  | .input => moved.length
  | .output => requested

/-- What is reported is what was moved, unless an output went out in part. -/
theorem reported_eq_length_iff (direction : Direction) (moved : List UInt8) (requested : Nat) :
    reported direction moved requested = moved.length ↔
      direction = .input ∨ moved.length = requested := by
  cases direction with
  | input => exact ⟨fun _ => .inl rfl, fun _ => rfl⟩
  | output => exact ⟨fun h => .inr h.symm, fun h => (h.resolve_left nofun).symm⟩

/-- In `s'` it is the turn of a transfer that was submitted in `s`: it has
completed first, and it is as it was. -/
structure Turn {σ : Type} (s s' : Session σ κ) (c : ContextId) (id : TransferId) : Prop where
  tracked : (s'.tracker c).entries.get? id = (s.tracker c).entries.get? id
  first : ∃ rest, (s'.tracker c).completed = id :: rest
  kept : s'.transfer? id = s.transfer? id

/-- A response of so many bytes is reported as such, to a call that waits. -/
theorem apply_responseData (r : TransferRequest) (moved dest : List UInt8)
    (hle : r.direction = .input → moved.length ≤ dest.length) :
    ((Response.success (responseData r moved)).apply false dest.length dest).result =
      .ok (reported r.direction moved dest.length) := by
  cases hdirection : r.direction with
  | input =>
    rw [responseData, hdirection, Response.apply_success, Nat.min_eq_left (hle hdirection)]
    rfl
  | output =>
    rw [responseData, hdirection]
    rfl

/-- The same of a transfer that is finalized. -/
theorem conclude_responseData (r : TransferRequest) (moved : List UInt8) (t : Transfer κ)
    (hle : r.direction = .input → moved.length ≤ t.requested) :
    (t.conclude (.succeeded (.success (responseData r moved)))).count =
        reported r.direction moved t.requested ∧
      (t.conclude (.succeeded (.success (responseData r moved)))).status =
        if r.direction = .input ∧ t.flags.contains .shortNotOk ∧ moved.length < t.requested
        then .error else .completed := by
  cases hdirection : r.direction with
  | input =>
    obtain ⟨hcount, hstatus⟩ := t.conclude_input moved
    rw [responseData, hdirection]
    refine ⟨hcount.trans (Nat.min_eq_left (hle hdirection)), hstatus.trans ?_⟩
    simp
  | output =>
    rw [responseData, hdirection]
    dsimp only
    rw [t.conclude_output]
    exact ⟨rfl, by simp⟩

variable (s : Session (UsbPlatform η δ) κ) (moved)

/-- **The number of bytes that is reported** of a transfer that succeeds on the host.
For input it is the number of those that came in, and less than asked for is an
error if the transfer says so.  For output it is the number of those that were to
go out.  So it is the number of bytes that were moved exactly if the transfer is
an input or all of its bytes went out. -/
theorem reported_of_moves :
    (∀ (x : Exchange) (data : List UInt8) (timeout : UInt32) (handle : Handle), x.Fits data →
      s.platform.Moves handle.connection (x.request data timeout) moved →
      ∃ count dest, result (x.run data timeout handle) s = .ok (.ok count, dest) ∧
        count = reported x.direction moved data.length ∧
        (count = moved.length ↔ x.direction = .input ∨ moved.length = data.length)) ∧
    (∀ (id : TransferId) (handle : Handle) (r : TransferRequest), s.Accepts id handle r →
      s.HasContext handle.context → s.Allocated id →
      s.platform.Moves handle.connection r moved →
      ∀ s', Turn (after (submit id) s) s' handle.context id →
      ∃ t t', s.transfer id = t ∧ (after (finalize handle.context) s').transfer id = t' ∧
        t'.status = (if r.direction = .input ∧ t.flags.contains .shortNotOk ∧
          moved.length < t.requested then .error else .completed) ∧
        t'.count = reported r.direction moved t.requested ∧
        (t'.count = moved.length ↔ r.direction = .input ∨ moved.length = t.requested)) := by
  refine ⟨fun x data timeout handle fits moves => ?_,
    fun id handle r accepts hc ha moves s' turn => ?_⟩
  · -- A call that waits for the host.
    have hresult := apply_responseData (x.request data timeout) moved data fun h =>
      Nat.le_trans (moves.length_le h) (x.inputLength_request_le data timeout fits)
    obtain ⟨ns, hrun⟩ := x.run_spec timeout fits handle s
    rw [x.direction_request] at hresult
    have hcall : result (x.run data timeout handle) s =
        .ok (TransferOutcome.applied data
          (.succeeded (.success (responseData (x.request data timeout) moved)))) := by
      rw [result, hrun, moves.transfer]
    rw [TransferOutcome.applied, hresult] at hcall
    exact ⟨_, _, hcall, rfl, reported_eq_length_iff ..⟩
  · -- A transfer that was submitted, when it is found in its turn.
    obtain ⟨rest, hfirst⟩ := turn.first
    have hentry : (s'.tracker handle.context).entries.get? id =
        some (.completed (.succeeded (.success (responseData r moved)))) := by
      rw [turn.tracked, ← tracker_plain, plain_after_submit_answered accepts hc
        (moves.startTransfer _), ((hasContext_plain.mpr ((hasContext_submitted r).mpr hc))
        ).tracker_setTracker]
      simp
    have hextract : (s'.tracker handle.context).extract.1 =
        some (id, .succeeded (.success (responseData r moved))) := by
      rw [Tracker.extract, hfirst, Tracker.extractFrom, hentry]
    have htransfer : s'.transfer id = { s.transfer id with count := 0 } := by
      rw [transfer, turn.kept, ← transfer?_plain, plain_after_submit_answered accepts hc
        (moves.startTransfer _), transfer?_setTracker, transfer?_plain]
      exact transfer_submitted ha
    have ha' : s'.Allocated id := by
      rw [Allocated, turn.kept, ← transfer?_plain, plain_after_submit_answered accepts hc
        (moves.startTransfer _), transfer?_setTracker, transfer?_plain]
      exact allocated_submitted.mpr ha
    obtain ⟨hcount, hstatus⟩ := conclude_responseData r moved { s.transfer id with count := 0 }
      fun h => Nat.le_trans (moves.length_le h) (Transfer.inputLength_le accepts.asks)
    refine ⟨_, _, rfl, transfer_after_finalize hextract ha', ?_, ?_, ?_⟩
    · rw [htransfer]
      exact hstatus
    · rw [htransfer]
      exact hcount
    · rw [htransfer]
      exact hcount ▸ reported_eq_length_iff ..

/-- A session with an open handle and a transfer, on a host that has one reply ready. -/
def replying (reply : HostReply) (t : Transfer Unit) :
    Session (UsbPlatform ScriptedHost ScriptedDevice) Unit where
  platform :=
    { worker := some
        { host := { replies := [reply] }
          connections := Table.empty.put ⟨1⟩ { device := ⟨1⟩, handle := ⟨0⟩ }
          handles := Table.empty.put ⟨0⟩
            { device :=
                { location := ⟨1, 1⟩, descriptor := .error 0, strings := [], configs := []
                  active := .error 0 } } } }
  handles := [{ device := ⟨0⟩, context := .default, connection := ⟨1⟩ }]
  transfers := [t]

/-- The open handle of `replying`. -/
def replyingHandle : Handle := { device := ⟨0⟩, context := .default, connection := ⟨1⟩ }

/-- Two bytes come in where four were asked for, to a call and to a transfer. -/
theorem reported_of_moves_short :
    (∃ dest, result ((Exchange.bulk 0x81).run [0, 0, 0, 0] 0 replyingHandle)
      (replying { code := 0, data := [18, 1] } {}) = .ok (.ok 2, dest)) ∧
    ((after (finalize .default) (after (submit ⟨1⟩)
      (replying { code := 0, data := [18, 1] }
        ((Exchange.bulk 0x81).fill [0, 0, 0, 0] 0 ⟨0⟩ {} {})))).transfer ⟨1⟩).count = 2 := by
  obtain ⟨call, -⟩ := reported_of_moves [18, 1] (replying { code := 0, data := [18, 1] } {})
  obtain ⟨-, finalized⟩ := reported_of_moves [18, 1] (replying { code := 0, data := [18, 1] }
    ((Exchange.bulk 0x81).fill [0, 0, 0, 0] 0 ⟨0⟩ {} {}))
  obtain ⟨count, dest, hresult, hcount, -⟩ := call (.bulk 0x81) [0, 0, 0, 0] 0 replyingHandle
    trivial ⟨_, _, _, _, rfl, rfl, rfl, rfl, rfl⟩
  obtain ⟨t, t', ht, rfl, -, hcount', -⟩ := finalized ⟨1⟩ replyingHandle
    ((Exchange.bulk 0x81).request [0, 0, 0, 0] 0) ⟨rfl, rfl, rfl⟩ trivial rfl
    ⟨_, _, _, _, rfl, rfl, rfl, rfl, rfl⟩ _ ⟨rfl, ⟨[], rfl⟩, rfl⟩
  subst hcount
  exact ⟨⟨dest, hresult⟩, hcount'⟩

/-- **More is reported than was moved**: of four bytes two went out before the time
was up, and four are reported. -/
theorem exists_reported_more :
    (replying { code := -7, data := [0xaa, 0xbb] } {}).platform.Moves replyingHandle.connection
        ((Exchange.bulk 2).request [0xaa, 0xbb, 0xcc, 0xdd] 100) [0xaa, 0xbb] ∧
      result ((Exchange.bulk 2).run [0xaa, 0xbb, 0xcc, 0xdd] 100 replyingHandle)
          (replying { code := -7, data := [0xaa, 0xbb] } {}) =
        .ok (.ok 4, [0xaa, 0xbb, 0xcc, 0xdd]) :=
  ⟨⟨_, _, _, _, rfl, rfl, rfl, rfl, rfl⟩, rfl⟩

end UsbPlatform
end UsbHost
