import UsbHost.Proofs.Platform.Counts
import UsbHost.Proofs.Session.Submitting
import UsbHost.Proofs.Worker.Connections

/-! # Control requests on the bus

A control request is taken apart into direction, kind and recipient on its way to
the platform, and put together again for the host.  What reaches the host is the
caller's setup block with the reserved bits of the request type cleared, and a data
stage of just the length that the block states.

What comes in goes behind the setup block of a transfer, or into the data of a call
that waits, and nothing else is written (`UsbPlatform.control_on_bus`).
-/
namespace UsbHost

/-! ## From the setup block to the host -/

namespace Setup
variable (setup : Setup) (stage : List UInt8) (timeout : UInt32)

/-- The bits of a request type that have a meaning: all but bits 2 to 4. -/
def meaningfulBits : UInt8 := 0xE3

/-- The data stage that a setup block asks for. -/
def hostData : HostData :=
  match setup.direction with
  | .input => .input setup.length.toNat
  | .output => .output stage

/-- The transfer that a setup block asks a host for. -/
def hostTransfer : HostTransfer :=
  .control (setup.requestType &&& meaningfulBits) setup.request setup.value setup.index
    (setup.hostData stage) timeout

/-- The request type is put together from the parts it was taken apart into. -/
theorem requestType_toRequest :
    (setup.toRequest stage timeout).requestType = setup.requestType &&& meaningfulBits := by
  have hbits : ∀ bits : BitVec 8,
      (Setup.toRequest ⟨⟨bits⟩, 0, 0, 0, 0⟩ [] 0).requestType = ⟨bits⟩ &&& meaningfulBits := by
    decide
  exact hbits setup.requestType.toBitVec

/-- **The host is asked for what the setup block says.** -/
theorem ofRequest_toRequest (hstage : stage.length = setup.length.toNat) :
    HostTransfer.ofRequest (.control (setup.toRequest stage timeout)) =
      .ok (setup.hostTransfer stage timeout) := by
  have hlength : stage.length % UInt16.size = stage.length := by
    rw [hstage]
    exact Nat.mod_eq_of_lt setup.length.toNat_lt
  simp only [HostTransfer.ofRequest, requestType_toRequest, hostTransfer, hostData]
  cases hdirection : setup.direction with
  | input => simp only [toRequest, hdirection, Option.getD_some]
  | output => simp only [toRequest, hdirection, Option.getD_some, hlength, List.take_length]

end Setup

/-! ## From the platform to the host -/

namespace Worker
variable {η δ : Type} [Host η δ] {w : Worker η δ} {connection : ConnectionId}
  {c : Connection} {h : OpenHandle δ} {r : TransferRequest} {t : HostTransfer}

/-- A transfer is one call of the host. -/
theorem journal_transfer (hconnection : w.connections.get? connection = some c)
    (hhandle : w.handles.get? c.handle = some h) (hrequest : HostTransfer.ofRequest r = .ok t) :
    (after (transfer connection r) w).journal =
      ⟨c.handle, Host.location η h.device, .transfer t⟩ :: w.journal := by
  rw [transfer, withConnection, after_bind, result_get, after_get, hconnection]
  dsimp only
  rw [after_bind, after_pure, runRequest, after_bind, result_get, after_get, hrequest, hhandle]
  rfl

end Worker

/-- What comes of a transfer through an open handle on the host. -/
def Worker.hostResult {η δ : Type} [Host η δ] (w : Worker η δ) (handle : HostHandle)
    (h : Worker.OpenHandle δ) (t : HostTransfer) : Except HostError (List UInt8) :=
  t.result ((Host.transfer handle h.device t).run w.host).1

namespace UsbPlatform
open Session

variable {η δ κ : Type} [Host η δ]

/-- A connection is open in a worker that got there by what it was asked for. -/
structure Opened (p : UsbPlatform η δ) (connection : ConnectionId) (w : Worker η δ)
    (c : Worker.Connection) : Prop where
  worker : p.worker = some w
  reachable : w.Reachable
  connection : w.connections.get? connection = some c

section Opened
variable {p : UsbPlatform η δ} {connection : ConnectionId} {w : Worker η δ}
  {c : Worker.Connection} {h : Worker.OpenHandle δ} {r : TransferRequest} {t : HostTransfer}

theorem Opened.handle (opened : p.Opened connection w c) :
    ∃ h, w.handles.get? c.handle = some h := by
  have hkept := opened.reachable.valid.kept connection c opened.connection
  exact Option.isSome_iff_exists.mp hkept.isOpen

theorem Opened.journal_transfer (opened : p.Opened connection w c)
    (hhandle : w.handles.get? c.handle = some h) (hrequest : HostTransfer.ofRequest r = .ok t) :
    ((Platform.transfer connection r).run p).2.journal =
      p.journal ++ [⟨c.handle, Host.location η h.device, .transfer t⟩] := by
  obtain ⟨worker⟩ := p
  obtain ⟨rfl, -, hconnection⟩ := opened
  show (Worker.after (Worker.transfer connection r) w).journal.reverse = w.journal.reverse ++ _
  rw [Worker.journal_transfer hconnection hhandle hrequest, List.reverse_cons]

theorem Opened.moves (opened : p.Opened connection w c)
    (hhandle : w.handles.get? c.handle = some h) (hrequest : HostTransfer.ofRequest r = .ok t)
    {moved : List UInt8}
    (hresult : w.hostResult c.handle h t = .ok moved) :
    p.Moves connection r moved :=
  ⟨w, c, h, t, opened.worker, opened.connection, hhandle, hrequest, hresult⟩

theorem Opened.journal_startTransfer (opened : p.Opened connection w c)
    (hhandle : w.handles.get? c.handle = some h) (hrequest : HostTransfer.ofRequest r = .ok t)
    (ticket : Ticket) :
    ((Platform.startTransfer connection r ticket).run p).2.journal =
      p.journal ++ [⟨c.handle, Host.location η h.device, .transfer t⟩] :=
  opened.journal_transfer hhandle hrequest

end Opened

/-! ## Where the bytes that come in go -/

/-- The bytes that come in for a setup block that asks for input are the answer. -/
theorem responseData_toRequest {setup : Setup} (stage : List UInt8) (timeout : UInt32)
    (moved : List UInt8) (hinput : setup.direction = .input) :
    responseData (.control (setup.toRequest stage timeout)) moved = some moved := by
  have hdirection : (TransferRequest.control (setup.toRequest stage timeout)).direction = .input :=
    hinput
  rw [responseData, hdirection]

/-- A call that waits has the bytes at the start of its data. -/
theorem applied_input {moved data : List UInt8} (hle : moved.length ≤ data.length) :
    TransferOutcome.applied data (.succeeded (.success (some moved))) =
      (.ok moved.length, moved ++ data.drop moved.length) := by
  have hmoved : moved.take data.length = moved := List.take_of_length_le hle
  rw [TransferOutcome.applied, Response.apply_success, Nat.min_eq_left hle, hmoved, overwrite,
    hmoved]
  rfl

/-- A transfer has them where its data start. -/
theorem bytes_conclude_input (t : Transfer κ) {moved : List UInt8}
    (hle : moved.length ≤ t.requested) (hroom : t.dataStart + moved.length ≤ t.bytes.length) :
    (t.conclude (.succeeded (.success (some moved)))).bytes =
      t.bytes.take t.dataStart ++ moved ++ t.bytes.drop (t.dataStart + moved.length) := by
  refine List.ext_getElem? fun i => ?_
  rw [Transfer.getElem?_conclude, Nat.min_eq_left hle,
    getElem?_replaced _ _ (Nat.le_add_right ..) hroom (by omega)]
  by_cases hi : t.dataStart ≤ i ∧ i < t.dataStart + moved.length
  · rw [if_pos ⟨hi.1, hi.2, by omega⟩, if_pos hi]
  · rw [if_neg fun h => hi ⟨h.1, h.2.1⟩, if_neg hi]

/-- The call asks for what the setup block of its arguments says. -/
theorem controlTransfer_run (setup : Setup) (data : List UInt8) (timeout : UInt32)
    (hlength : setup.length.toNat = data.length) (handle : Handle)
    (s : Session (UsbPlatform η δ) κ) :
    ∃ ns, (controlTransfer handle setup.requestType setup.request setup.value setup.index data
        timeout).run.run s =
      (.ok (((Platform.transfer handle.connection
          (.control (setup.toRequest data timeout))).run s.platform).1.applied data),
        { s with
          platform := ((Platform.transfer handle.connection
            (.control (setup.toRequest data timeout))).run s.platform).2
          notices := ns }) := by
  have fits : (Exchange.control setup.requestType setup.request setup.value setup.index).Fits
      data := by
    show data.length < UInt16.size
    rw [← hlength]
    exact setup.length.toNat_lt
  have hsame : data.length.toUInt16 = setup.length := by
    rw [← hlength]
    exact UInt16.ofNat_toNat
  have hrun := Exchange.run_spec timeout fits handle s
  rw [Exchange.request, hsame] at hrun
  exact hrun

section Finalized
variable {s s' : Session (UsbPlatform η δ) κ} {id : TransferId} {handle : Handle}
  {r : TransferRequest} {moved : List UInt8}

/-- A transfer that has succeeded on the host is finalized, when it is its turn, with
the bytes that came in. -/
theorem transfer_after_turn (accepts : s.Accepts id handle r) (hc : s.HasContext handle.context)
    (moves : s.platform.Moves handle.connection r moved)
    (turn : Turn (after (submit id) s) s' handle.context id) :
    (after (finalize handle.context) s').transfer id =
      { ({ s.transfer id with count := 0 } : Transfer κ).conclude
          (.succeeded (.success (responseData r moved))) with callback := none } := by
  have submits := accepts.submits hc
  have hstart : (s.start id handle r).1 = some (.succeeded (.success (responseData r moved))) :=
    moves.startTransfer _
  have hentry : (s'.tracker handle.context).entries.get? id =
      some (.completed (.succeeded (.success (responseData r moved)))) := by
    rw [turn.tracked, submits.tracked, hstart]
    rfl
  have hextract : (s'.tracker handle.context).extract.1 =
      some (id, .succeeded (.success (responseData r moved))) := by
    obtain ⟨rest, hfirst⟩ := turn.first
    rw [Tracker.extract, hfirst, Tracker.extractFrom, hentry]
  have ha : s'.Allocated id := by
    rw [Allocated, turn.kept]
    exact accepts.allocated_after hc
  have htransfer : s'.transfer id = { s.transfer id with count := 0 } := by
    rw [transfer, turn.kept]
    exact submits.transfer
  rw [transfer_after_finalize hextract ha, htransfer]

end Finalized

/-- **The host gets the caller's setup block.**  A control transfer over an open
connection is one call of the host, with the request type of the setup block less
its reserved bits, with its request, value and index, and with a data stage of the
length that it states.  For input, the bytes that the host returns stand at the
start of the data stage afterwards and are counted, and no other byte is changed. -/
theorem control_on_bus (s : Session (UsbPlatform η δ) κ) (handle : Handle) {w : Worker η δ}
    {c : Worker.Connection} (opened : s.platform.Opened handle.connection w c) :
    ∃ h, w.handles.get? c.handle = some h ∧
    (∀ (setup : Setup) (data : List UInt8) (timeout : UInt32),
      setup.length.toNat = data.length →
      (after (controlTransfer handle setup.requestType setup.request setup.value setup.index data
          timeout) s).platform.journal =
        s.platform.journal ++ [⟨c.handle, Host.location η h.device,
          .transfer (setup.hostTransfer data timeout)⟩] ∧
      ∀ moved, setup.direction = .input →
        w.hostResult c.handle h (setup.hostTransfer data timeout) = .ok moved →
        result (controlTransfer handle setup.requestType setup.request setup.value setup.index data
          timeout) s = .ok (.ok moved.length, moved ++ data.drop moved.length)) ∧
    (∀ (id : TransferId) (r : ControlRequest) (t : Transfer κ), s.transfer id = t →
      s.Accepts id handle (.control r) →
      ∃ setup, t.HasSetup setup ∧ t.stage.length = setup.length.toNat ∧
      (after (submit id) s).platform.journal =
        s.platform.journal ++ [⟨c.handle, Host.location η h.device,
          .transfer (setup.hostTransfer t.stage t.timeout)⟩] ∧
      ∀ moved, setup.direction = .input →
        w.hostResult c.handle h (setup.hostTransfer t.stage t.timeout) = .ok moved →
        s.HasContext handle.context → ∀ s', Turn (after (submit id) s) s' handle.context id →
          ∃ t', (after (finalize handle.context) s').transfer id = t' ∧
            t'.count = moved.length ∧
            t'.bytes = t.bytes.take Setup.size ++ moved ++
              t.bytes.drop (Setup.size + moved.length)) := by
  obtain ⟨h, hhandle⟩ := opened.handle
  refine ⟨h, hhandle, fun setup data timeout hlength => ?_, ?_⟩
  · have hrequest := setup.ofRequest_toRequest data timeout hlength.symm
    obtain ⟨ns, hrun⟩ := controlTransfer_run setup data timeout hlength handle s
    refine ⟨?_, fun moved hinput hmoved => ?_⟩
    · rw [after, hrun]
      exact opened.journal_transfer hhandle hrequest
    · have moves := opened.moves hhandle hrequest hmoved
      have hle : moved.length ≤ data.length := by
        rw [← hlength]
        exact Nat.le_trans (moves.length_le hinput) (setup.inputLength_toRequest_le data timeout)
      rw [result, hrun, moves.transfer, responseData_toRequest _ _ _ hinput, applied_input hle]
  · rintro id r t rfl accepts
    obtain ⟨hkind, setup, hsetup, rfl⟩ := Transfer.hasSetup_of_request accepts.asks
    have hstage := hsetup.length_stage
    have hrequest := setup.ofRequest_toRequest _ (s.transfer id).timeout hstage
    refine ⟨setup, hsetup, hstage, ?_, fun moved hinput hmoved hc s' turn => ?_⟩
    · rw [platform_after_submit accepts]
      exact opened.journal_startTransfer hhandle hrequest _
    · have moves := opened.moves hhandle hrequest hmoved
      have hstart : (s.transfer id).dataStart = Setup.size := by
        rw [Transfer.dataStart, hkind]
      have hrequested : (s.transfer id).requested = setup.length.toNat := by
        rw [Transfer.requested, hstart, hsetup.length, Nat.add_sub_cancel_left]
      have hle : moved.length ≤ setup.length.toNat :=
        Nat.le_trans (moves.length_le hinput) (setup.inputLength_toRequest_le ..)
      have hroom : Setup.size + moved.length ≤ (s.transfer id).bytes.length := by
        have hlength := hsetup.length
        have hfits := hsetup.fits
        omega
      refine ⟨_, transfer_after_turn accepts hc moves turn, ?_, ?_⟩
      · rw [responseData_toRequest _ _ _ hinput]
        refine (Transfer.conclude_input _ moved).1.trans ?_
        show min moved.length (s.transfer id).requested = _
        rw [hrequested, Nat.min_eq_left hle]
      · rw [responseData_toRequest _ _ _ hinput, ← hstart]
        refine bytes_conclude_input { s.transfer id with count := 0 } ?_ ?_
        · show moved.length ≤ (s.transfer id).requested
          rwa [hrequested]
        · show (s.transfer id).dataStart + moved.length ≤ (s.transfer id).bytes.length
          rwa [hstart]

/-- A vendor request for four bytes, in whose request type the reserved bits are set. -/
def vendorRead : Setup := ⟨0xDC, 0x01, 0x0203, 0x0004, 4⟩

/-- A worker that has opened a device, which answers the next transfer with two bytes. -/
def answering : Worker ScriptedHost ScriptedDevice :=
  Worker.after (Worker.perform (.openDevice ⟨1⟩)) <| Worker.after (Worker.perform .getDevices)
    { host :=
        { devices :=
            [{ location := ⟨1, 1⟩, descriptor := .ok ⟨0x1234, 0x5678, 0x0100, none, none, none, 1⟩
               strings := [], configs := [], active := .ok 0 }]
          replies := [{ code := 0, data := [0xAA, 0xBB] }] } }

/-- A session over the open connection, with a transfer that makes the vendor request. -/
def reading : Session (UsbPlatform ScriptedHost ScriptedDevice) Unit where
  platform := { worker := some answering }
  handles := [{ device := ⟨0⟩, context := .default, connection := ⟨1⟩ }]
  transfers :=
    [({} : Transfer Unit).fillControl ⟨0⟩ (vendorRead.toBytes ++ [0, 0, 0, 0]) {} 100]

theorem opened_reading : reading.platform.Opened ⟨1⟩ answering ⟨⟨1⟩, ⟨1⟩, []⟩ where
  worker := rfl
  reachable := ((Worker.Reachable.new _ []).perform .getDevices).perform (.openDevice ⟨1⟩)
  connection := by rfl

/-- The call has its two bytes, and so has the transfer, behind its setup block. -/
theorem control_on_bus_vendor :
    reading.platform.Opened ⟨1⟩ answering ⟨⟨1⟩, ⟨1⟩, []⟩ ∧
    result (controlTransfer replyingHandle vendorRead.requestType vendorRead.request
      vendorRead.value vendorRead.index [0, 0, 0, 0] 100) reading =
        .ok (.ok 2, [0xAA, 0xBB, 0, 0]) ∧
    (after (submit ⟨1⟩) reading).platform.journal = reading.platform.journal ++
      [⟨⟨1⟩, ⟨1, 1⟩, .transfer (.control 0xC0 0x01 0x0203 0x0004 (.input 4) 100)⟩] ∧
    ((after (finalize .default) (after (submit ⟨1⟩) reading)).transfer ⟨1⟩).bytes =
      vendorRead.toBytes ++ [0xAA, 0xBB, 0, 0] := by
  obtain ⟨h, hhandle, call, submitted⟩ := control_on_bus reading replyingHandle opened_reading
  obtain rfl := Option.some.inj hhandle
  obtain ⟨-, hcall⟩ := call vendorRead [0, 0, 0, 0] 100 rfl
  obtain ⟨setup, hsetup, -, hjournal, hbytes⟩ := submitted ⟨1⟩
    (vendorRead.toRequest [0, 0, 0, 0] 100) _ rfl ⟨rfl, rfl, rfl⟩
  obtain rfl : vendorRead = setup := Option.some.inj hsetup.parses
  obtain ⟨t', rfl, -, ht'⟩ := hbytes [0xAA, 0xBB] rfl rfl trivial _ ⟨rfl, ⟨[], rfl⟩, rfl⟩
  exact ⟨opened_reading, hcall [0xAA, 0xBB] rfl rfl, hjournal, ht'⟩

end UsbPlatform
end UsbHost
