import UsbHost.Proofs.Session.Submitting
import UsbHost.Proofs.Session.Waiting

/-! # How much data a request asks for

A request for a transfer over an endpoint has the data that go out, or the number of
bytes that are to come in.  This number is kept in 32 bits, and nothing keeps a longer
buffer from being used: a request over 2³² bytes asks for none
(`Session.exists_request_for_nothing`).  So the number is that of the transfer exactly if
this is less than 2³² (`Session.asks_for_data`).
-/
namespace UsbHost

/-- The direction of an endpoint is in the highest bit of its address. -/
theorem Direction.ofByte_eq (b : UInt8) :
    ofByte b = if b.toNat.testBit 7 then .input else .output := by
  have hbits : ∀ bits : BitVec 8,
      ofByte ⟨bits⟩ = if bits.toNat.testBit 7 then Direction.input else .output := by decide
  exact hbits b.toBitVec

/-- What a request asks for that is made for data over an endpoint.  The number of bytes
that are to come in is right as far as 32 bits go. -/
structure DataRequest.Asks (r : DataRequest) (endpoint : UInt8) (data : List UInt8)
    (timeout : UInt32) : Prop where
  direction : r.direction = if endpoint.toNat.testBit 7 then .input else .output
  endpoint : r.endpoint = endpoint
  timeout : r.timeout = timeout
  input : r.direction = .input → r.data = none ∧ ∃ n, r.length = some n ∧
    n.toNat = data.length % UInt32.size ∧ (n.toNat = data.length ↔ data.length < UInt32.size)
  output : r.direction = .output → r.length = none ∧ r.data = some data

theorem DataRequest.asks_over (endpoint : UInt8) (data : List UInt8) (timeout : UInt32) :
    (DataRequest.over endpoint data timeout).Asks endpoint data timeout where
  direction := Direction.ofByte_eq endpoint
  endpoint := rfl
  timeout := rfl
  input hinput := by
    have hendpoint : Direction.ofByte endpoint = .input := hinput
    have hover : DataRequest.over endpoint data timeout =
        ⟨.input, endpoint, some data.length.toUInt32, none, timeout⟩ := by
      simp only [DataRequest.over, hendpoint]
    have hnumber : data.length.toUInt32.toNat = data.length % UInt32.size := UInt32.toNat_ofNat'
    have hfits : data.length % UInt32.size = data.length ↔ data.length < UInt32.size :=
      Nat.mod_eq_iff_lt (by decide)
    rw [hover]
    exact ⟨rfl, _, rfl, hnumber, hnumber ▸ hfits⟩
  output houtput := by
    have hendpoint : Direction.ofByte endpoint = .output := houtput
    have hover : DataRequest.over endpoint data timeout =
        ⟨.output, endpoint, none, some data, timeout⟩ := by
      simp only [DataRequest.over, hendpoint]
    rw [hover]
    exact ⟨rfl, rfl⟩

namespace Session

variable {σ κ : Type} [Platform σ]

/-- **What is asked for over an endpoint**, by a call that waits and by a transfer that is
accepted: the direction, endpoint and timeout are those of the caller; the data that go
out are all of the transfer's; and the number of bytes that are to come in is that of the
transfer, if it is less than 2³². -/
theorem asks_for_data (s : Session σ κ) :
    (∀ endpoint data timeout handle, ∃ r : DataRequest, r.Asks endpoint data timeout ∧
      (after (bulkTransfer handle endpoint data timeout) s).platform =
        ((Platform.transfer handle.connection (.bulk r)).run s.platform).2 ∧
      (after (interruptTransfer handle endpoint data timeout) s).platform =
        ((Platform.transfer handle.connection (.interrupt r)).run s.platform).2) ∧
    (∀ id t, s.transfer id = t → t.kind ≠ .control → result (submit id) s = .ok () →
      (t.bytes.take t.length).length = t.length ∧
      ∃ handle request, (∃ r : DataRequest, r.Asks t.endpoint (t.bytes.take t.length) t.timeout ∧
          (t.kind = .bulk ∧ request = .bulk r ∨ t.kind = .interrupt ∧ request = .interrupt r)) ∧
        t.handle.bind s.handle? = some handle ∧
        (after (submit id) s).platform = (s.start id handle request).2) := by
  constructor
  · intro endpoint data timeout handle
    obtain ⟨_, hbulk⟩ := Exchange.run_spec timeout
      (show (Exchange.bulk endpoint).Fits data from trivial) handle s
    obtain ⟨_, hinterrupt⟩ := Exchange.run_spec timeout
      (show (Exchange.interrupt endpoint).Fits data from trivial) handle s
    refine ⟨.over endpoint data timeout, DataRequest.asks_over .., ?_, ?_⟩
    · exact congrArg (·.2.platform) hbulk
    · exact congrArg (·.2.platform) hinterrupt
  · rintro id t rfl hkind hok
    obtain ⟨handle, request, accepts⟩ := result_submit_eq_ok_iff.mp hok
    have hplatform := platform_after_submit accepts
    cases Transfer.makes_of_request accepts.asks with
    | control kind_eq => exact absurd kind_eq hkind
    | bulk kind_eq fits =>
      exact ⟨List.length_take_of_le fits, handle, _,
        ⟨_, DataRequest.asks_over .., .inl ⟨kind_eq, rfl⟩⟩, accepts.opened, hplatform⟩
    | interrupt kind_eq fits =>
      exact ⟨List.length_take_of_le fits, handle, _,
        ⟨_, DataRequest.asks_over .., .inr ⟨kind_eq, rfl⟩⟩, accepts.opened, hplatform⟩

/-- A transfer over an endpoint for input. -/
def listening (data : List UInt8) : Session ScriptedPlatform Unit :=
  (Exchange.answering .canceled).alter ⟨1⟩ ((Exchange.bulk 0x81).fill data 1000 ⟨0⟩ {})

theorem accepts_listening (data : List UInt8) :
    (listening data).Accepts ⟨1⟩ Exchange.answeringHandle (.bulk (.over 0x81 data 1000)) :=
  (Exchange.fresh_answering .canceled).accepts
    (show (Exchange.bulk 0x81).Fits data from trivial) 1000 {}

/-- Two bytes are asked for. -/
theorem asks_for_data_listening :
    ∃ r : DataRequest, (after (submit ⟨1⟩) (listening [0, 0])).platform.requests =
        [.transfer ⟨101⟩ (.bulk r) true] ∧
      r.direction = .input ∧ r.data = none ∧ ∃ n, r.length = some n ∧ n.toNat = 2 := by
  obtain ⟨-, hsubmit⟩ := asks_for_data (listening [0, 0])
  obtain ⟨-, handle, request, ⟨r, hasks, hkind⟩, hopened, hplatform⟩ :=
    hsubmit ⟨1⟩ _ rfl (show TransferKind.bulk ≠ .control by decide)
      (result_submit (accepts_listening [0, 0]))
  obtain rfl : Exchange.answeringHandle = handle := Option.some.inj hopened
  obtain ⟨-, rfl⟩ := hkind.resolve_right fun h => nomatch h.1
  have hinput : r.direction = .input := hasks.direction
  obtain ⟨hdata, n, hlength, hnumber, -⟩ := hasks.input hinput
  refine ⟨r, ?_, hinput, hdata, n, hlength, hnumber⟩
  rw [hplatform]
  exact ScriptedPlatform.requests_startTransfer ..

/-- **A request for nothing** is made for 2³² bytes, by a call and by a transfer. -/
theorem exists_request_for_nothing :
    ∃ data : List UInt8, data.length = UInt32.size ∧
      DataRequest.over 0x81 data 1000 = ⟨.input, 0x81, some 0, none, 1000⟩ ∧
      (after (bulkTransfer Exchange.answeringHandle 0x81 data 1000)
        (Exchange.answering .canceled)).platform.requests =
          [.transfer ⟨101⟩ (.bulk (.over 0x81 data 1000)) false] ∧
      (after (submit ⟨1⟩) (listening data)).platform.requests =
        [.transfer ⟨101⟩ (.bulk (.over 0x81 data 1000)) true] := by
  obtain ⟨data, hlength⟩ : ∃ data : List UInt8, data.length = UInt32.size :=
    ⟨List.replicate UInt32.size 0, List.length_replicate ..⟩
  have hover : DataRequest.over 0x81 data 1000 =
      ⟨.input, 0x81, some data.length.toUInt32, none, 1000⟩ := rfl
  have hnothing : data.length.toUInt32 = 0 := by
    rw [hlength]
    rfl
  refine ⟨data, hlength, by rw [hover, hnothing], ?_, ?_⟩
  · obtain ⟨_, hrun⟩ := Exchange.run_spec 1000
      (show (Exchange.bulk 0x81).Fits data from trivial) Exchange.answeringHandle
      (Exchange.answering .canceled)
    have hplatform := congrArg (·.2.platform.requests) hrun
    exact hplatform.trans (ScriptedPlatform.requests_transfer ..)
  · rw [platform_after_submit (accepts_listening data)]
    exact ScriptedPlatform.requests_startTransfer ..

end Session
end UsbHost
