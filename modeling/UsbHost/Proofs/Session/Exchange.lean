import UsbHost.Proofs.Session.Results
import UsbHost.Proofs.Transfer.Completion
import UsbHost.Proofs.Transfer.SetupBlock

/-! # Exchanges

Data go to a device, or come from it, by a control request or over an endpoint.
An `Exchange` says which.  There are two ways to make one: a call that waits for
its end (`Exchange.run`), and a transfer that is filled (`Exchange.fill`),
submitted, answered and finalized.

Both make the same request of the platform (`Exchange.request_fill`), and both
apply its answer to the data alone (`Exchange.result_run`,
`Exchange.covers_fill`).
-/
namespace UsbHost

/-- A control request, or an endpoint over which data are sent or received. -/
inductive Exchange where
  | control (requestType request : UInt8) (value index : UInt16)
  | bulk (endpoint : UInt8)
  | interrupt (endpoint : UInt8)
deriving DecidableEq, Repr

/-- What a synchronous transfer over `data` comes to with an answer: its result,
and the data afterwards. -/
def TransferOutcome.applied (data : List UInt8) :
    TransferOutcome → Except UsbError Nat × List UInt8
  | .succeeded r =>
    ((r.apply false data.length data).result, (r.apply false data.length data).dest)
  | _ => (.error .other, data)

/-! ## Requests of transfers over a whole buffer -/

namespace Transfer
variable {κ : Type} {t : Transfer κ} {data : List UInt8}

theorem controlRequest_of_covers {setup : Setup} (h : t.Covers setup.toBytes data)
    (hlength : setup.length.toNat = data.length) :
    t.controlRequest = .ok (setup.toRequest data t.timeout) := by
  have hbuffer : t.buffer.getD [] = setup.toBytes ++ data := by rw [h.buffer, Option.getD_some]
  have hsize : t.length = Setup.size + data.length := h.length
  have hall : (setup.toBytes ++ data).length = t.length := by rw [List.length_append, h.length]
  have hrest : t.length - Setup.size = data.length := by rw [hsize, Nat.add_sub_cancel_left]
  have hdata : ((setup.toBytes ++ data).take t.length).drop Setup.size = data := by
    rw [← hall, List.take_length, ← setup.length_toBytes, List.drop_left]
  rw [controlRequest, hbuffer, if_neg (by rw [hsize]; exact Nat.not_lt.mpr (Nat.le_add_right ..)),
    if_neg (by rw [hall]; exact Nat.lt_irrefl _), Setup.parse_toBytes_append]
  dsimp only
  rw [if_neg (by rw [hrest, hlength]; exact not_not_intro rfl), hdata]

theorem dataRequest_of_covers (h : t.Covers [] data) :
    t.dataRequest = .ok (.over t.endpoint data t.timeout) := by
  have hbuffer : t.buffer.getD [] = data := by rw [h.buffer, Option.getD_some, List.nil_append]
  have hsize : data.length = t.length := by rw [h.length, List.length_nil, Nat.zero_add]
  rw [dataRequest, hbuffer, if_neg (by rw [hsize]; exact Nat.lt_irrefl _), ← hsize,
    List.take_length]

end Transfer

/-- A synchronous transfer asks the platform once and changes nothing else in the
session but the notices. -/
theorem Session.runSync_run {σ κ : Type} [Platform σ] (operation : Operation) (handle : Handle)
    (request : TransferRequest) (data : List UInt8) (s : Session σ κ) :
    ∃ ns, (Session.runSync operation handle request data).run.run s =
      (.ok (((Platform.transfer handle.connection request).run s.platform).1.applied data),
        { s with
          platform := ((Platform.transfer handle.connection request).run s.platform).2
          notices := ns }) := by
  rw [runSync, run_bind_of_ok (result_onPlatform ..), after_onPlatform]
  cases ((Platform.transfer handle.connection request).run s.platform).1 with
  | succeeded r => exact ⟨s.notices, rfl⟩
  | failed message => exact ⟨_, rfl⟩
  | canceled => exact ⟨_, rfl⟩

namespace Exchange
variable {σ κ : Type} (x : Exchange) (data : List UInt8) (timeout : UInt32)

/-- The direction is in the request type or in the endpoint. -/
def direction : Exchange → Direction
  | control requestType .. => .ofByte requestType
  | bulk endpoint | interrupt endpoint => .ofByte endpoint

/-- A control request has a length of 16 bits. -/
def Fits : Exchange → Prop
  | control .. => data.length < UInt16.size
  | bulk _ | interrupt _ => True

/-- What stands before the data in the buffer of a transfer. -/
def head : Exchange → List UInt8
  | control requestType request value index =>
    Setup.toBytes ⟨requestType, request, value, index, data.length.toUInt16⟩
  | bulk _ | interrupt _ => []

/-- What the platform is asked for. -/
def request : Exchange → TransferRequest
  | control requestType request value index =>
    .control (Setup.toRequest ⟨requestType, request, value, index, data.length.toUInt16⟩ data
      timeout)
  | bulk endpoint => .bulk (.over endpoint data timeout)
  | interrupt endpoint => .interrupt (.over endpoint data timeout)

/-- The call that waits for the end. -/
def run [Platform σ] (handle : Handle) :
    Exchange → SessionM σ κ (Except UsbError Nat × List UInt8)
  | control requestType request value index =>
    Session.controlTransfer handle requestType request value index data timeout
  | bulk endpoint => Session.bulkTransfer handle endpoint data timeout
  | interrupt endpoint => Session.interruptTransfer handle endpoint data timeout

/-- The transfer, filled with the data behind what stands before them. -/
def fill (key : HandleKey) (callback : Callback κ) (t : Transfer κ) : Transfer κ :=
  match x with
  | control .. => t.fillControl key (x.head data ++ data) callback timeout
  | bulk endpoint => t.fillData .bulk key endpoint data callback timeout
  | interrupt endpoint => t.fillData .interrupt key endpoint data callback timeout

/-! ## The call -/

section Call
variable [Platform σ] {x data} (fits : x.Fits data) (handle : Handle) (s : Session σ κ)

include fits in
theorem run_spec :
    ∃ ns, (x.run data timeout handle).run.run s =
      (.ok (((Platform.transfer handle.connection (x.request data timeout)).run
          s.platform).1.applied data),
        { s with
          platform := ((Platform.transfer handle.connection (x.request data timeout)).run
            s.platform).2
          notices := ns }) := by
  cases x with
  | control requestType request value index =>
    have fits : data.length < UInt16.size := fits
    rw [run, Session.controlTransfer, if_pos fits,
      Session.run_bind_of_ok (Session.result_note ..), Session.after_note]
    exact Session.runSync_run _ _ _ _ { s with notices := _ }
  | bulk endpoint | interrupt endpoint =>
    exact Session.runSync_run _ _ _ _ { s with notices := _ }

end Call

/-! ## The transfer -/

section Fill
variable {x data} (fits : x.Fits data) (key : HandleKey) (callback : Callback κ)
  (t : Transfer κ)

@[simp] theorem flags_fill : (x.fill data timeout key callback t).flags = t.flags := by
  cases x <;> rfl

include fits in
theorem covers_fill : (x.fill data timeout key callback t).Covers (x.head data) data := by
  cases x with
  | control requestType request value index =>
    have fits : data.length < UInt16.size := fits
    have hlength : data.length.toUInt16.toNat = data.length := UInt16.toNat_ofNat_of_lt fits
    refine ⟨rfl, rfl, ?_⟩
    simp only [fill, Transfer.fillControl, head, Setup.parse_toBytes_append, hlength,
      Setup.length_toBytes]
  | bulk endpoint | interrupt endpoint => exact ⟨rfl, rfl, (Nat.zero_add _).symm⟩

include fits in
/-- **A filled transfer makes the request of the call.** -/
theorem request_fill (hflags : t.flags.contains .addZeroPacket = false) :
    (x.fill data timeout key callback t).request = .ok (x.request data timeout) := by
  have hcovers := covers_fill timeout fits key callback t
  cases x with
  | control requestType request value index =>
    have fits : data.length < UInt16.size := fits
    have hlength : data.length.toUInt16.toNat = data.length := UInt16.toNat_ofNat_of_lt fits
    rw [Transfer.request, if_neg (by rw [Bool.not_eq_true]; exact hflags)]
    exact congrArg (TransferRequest.control <$> ·)
      (Transfer.controlRequest_of_covers hcovers hlength)
  | bulk endpoint =>
    rw [Transfer.request, if_neg (by rw [Bool.not_eq_true]; exact hflags)]
    exact congrArg (TransferRequest.bulk <$> ·) (Transfer.dataRequest_of_covers hcovers)
  | interrupt endpoint =>
    rw [Transfer.request, if_neg (by rw [Bool.not_eq_true]; exact hflags)]
    exact congrArg (TransferRequest.interrupt <$> ·) (Transfer.dataRequest_of_covers hcovers)

end Fill

end Exchange
end UsbHost
