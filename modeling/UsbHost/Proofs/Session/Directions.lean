import UsbHost.Proofs.Session.Agreement

/-! # What a completed transfer reports

A platform that says a transfer went well gives the bytes that came in, or none.
Whether it gave any is all that the completion of a transfer looks at, in a call
that waits and in `handleEvents` alike; the direction of the transfer plays no
part.  So an input reports no more than came in if the answer has bytes, and an
output is left alone if it has none.  But an input without bytes counts as
complete, and bytes that answer an output are written over it.
-/
namespace UsbHost

/-- The direction of a transfer: a control transfer has it in its setup block. -/
def Transfer.direction {κ : Type} (t : Transfer κ) : Direction :=
  match t.kind with
  | .control => .ofByte (t.bytes.headD 0)
  | _ => .ofByte t.endpoint

namespace Response

/-- What is reported of a response: without bytes, all that was requested, and the
destination stays as it is; with bytes, those that were requested, which stand in
the destination from `start` on. -/
def Reported (data : Option (List UInt8)) (requested start : Nat) (dest dest' : List UInt8)
    (count : Nat) : Prop :=
  match data with
  | none => count = requested ∧ dest' = dest
  | some bytes => count = min bytes.length requested ∧
      ∀ i, dest'[i]? =
        if start ≤ i ∧ i < start + count ∧ i < dest.length then bytes[i - start]? else dest[i]?

variable {data : Option (List UInt8)} {requested start count : Nat} {dest dest' : List UInt8}

/-- An input whose answer has bytes reports no more than these. -/
theorem Reported.le_length (h : Reported data requested start dest dest' count)
    {bytes : List UInt8} (hdata : data = some bytes) : count ≤ bytes.length := by
  subst hdata
  exact h.1 ▸ Nat.min_le_left ..

/-- An output whose answer has no bytes is reported as complete. -/
theorem Reported.unchanged (h : Reported data requested start dest dest' count)
    (hdata : data = none) : count = requested ∧ dest' = dest := by
  subst hdata
  exact h

/-- What a synchronous transfer reports. -/
theorem reported_apply (data : Option (List UInt8)) (short : Bool) (dest : List UInt8) :
    Reported data dest.length 0 dest ((success data).apply short dest.length dest).dest
      ((success data).apply short dest.length dest).count := by
  cases data with
  | none => exact ⟨rfl, rfl⟩
  | some bytes =>
    rw [apply_success]
    refine ⟨rfl, fun i => ?_⟩
    dsimp only
    rw [getElem?_overwrite, List.length_take, Nat.zero_add, Nat.sub_zero, Nat.min_comm]
    by_cases hi : i < min bytes.length dest.length
    · rw [if_pos ⟨hi, by omega⟩, if_pos ⟨Nat.zero_le i, hi, by omega⟩,
        List.getElem?_take_of_lt (by omega)]
    · rw [if_neg fun h => hi h.1, if_neg fun h => hi h.2.1]

/-- What an asynchronous transfer reports. -/
theorem reported_conclude {κ : Type} (t : Transfer κ) (data : Option (List UInt8)) :
    Reported data t.requested t.dataStart t.bytes
      (t.conclude (.succeeded (success data))).bytes
      (t.conclude (.succeeded (success data))).count := by
  cases data with
  | none =>
    rw [t.conclude_output]
    exact ⟨rfl, rfl⟩
  | some bytes =>
    obtain ⟨hcount, -⟩ := t.conclude_input bytes
    refine ⟨hcount, fun i => ?_⟩
    rw [hcount]
    exact t.getElem?_conclude bytes i

end Response

namespace Exchange
open Session Response

variable {σ κ : Type} [Platform σ]

/-- **What is reported of a transfer that went well** depends on whether its answer
has bytes.  For a call that waits, and for a transfer that `handleEvents`
finalizes:
* an input whose answer has bytes reports no more than these;
* an output whose answer has none reports all that was requested, and its bytes
  stay;
* but in either direction an answer without bytes is taken as that of an output,
  and one with bytes as that of an input. -/
theorem reported_of_success (s : Session σ κ) (data : Option (List UInt8)) :
    (∀ (x : Exchange) (dest : List UInt8) (timeout : UInt32) (handle : Handle), x.Fits dest →
      ((Platform.transfer handle.connection (x.request dest timeout)).run s.platform).1 =
        .succeeded (success data) →
      ∃ count dest', result (x.run dest timeout handle) s = .ok (.ok count, dest') ∧
        (x.direction = .input → ∀ bytes, data = some bytes → count ≤ bytes.length) ∧
        (x.direction = .output → data = none → count = dest.length ∧ dest' = dest) ∧
        Reported data dest.length 0 dest dest' count) ∧
    (∀ (c : ContextId) (id : TransferId), s.Allocated id →
      (s.tracker c).extract.1 = some (id, .succeeded (success data)) →
      ∃ t t', s.transfer id = t ∧ (after (finalize c) s).transfer id = t' ∧
        (t.direction = .input → ∀ bytes, data = some bytes → t'.count ≤ bytes.length) ∧
        (t.direction = .output → data = none → t'.count = t.requested ∧ t'.bytes = t.bytes) ∧
        Reported data t.requested t.dataStart t.bytes t'.bytes t'.count) := by
  refine ⟨fun x dest timeout handle fits answered => ?_, fun c id ha first => ?_⟩
  · obtain ⟨ns, hrun⟩ := run_spec timeout fits handle s
    have hreported := reported_apply data false dest
    refine ⟨_, _, ?_, fun _ bytes => hreported.le_length, fun _ => hreported.unchanged, hreported⟩
    rw [result, hrun, answered]
    cases data <;> rfl
  · have hfinal := transfer_after_finalize first ha
    have hreported := reported_conclude (s.transfer id) data
    exact ⟨s.transfer id, _, rfl, hfinal, fun _ bytes => hreported.le_length,
      fun _ => hreported.unchanged, hreported⟩

/-- Two bytes come in where four were asked for, by a call and by a transfer. -/
theorem reported_of_success_short :
    (∃ count dest, result ((Exchange.bulk 0x81).run [0, 0, 0, 0] 0 answeringHandle)
        (answering (.succeeded (.success (some [18, 1])))) = .ok (.ok count, dest) ∧
      count ≤ 2) ∧
    ((after (finalize .default)
        (after (deliver ⟨.default, ⟨⟨1⟩, 1⟩⟩ (.succeeded (.success (some [18, 1]))))
          (after (launch (.bulk 0x81) [0, 0, 0, 0] 0 ⟨0⟩ {} ⟨1⟩)
            (answering .canceled)))).transfer ⟨1⟩).count ≤ 2 := by
  obtain ⟨call, -⟩ := reported_of_success
    (answering (.succeeded (.success (some [18, 1])))) (some [18, 1])
  obtain ⟨-, finalized⟩ := reported_of_success
    (after (deliver ⟨.default, ⟨⟨1⟩, 1⟩⟩ (.succeeded (.success (some [18, 1]))))
      (after (launch (.bulk 0x81) [0, 0, 0, 0] 0 ⟨0⟩ {} ⟨1⟩) (answering .canceled)))
    (some [18, 1])
  obtain ⟨count, dest, hresult, hinput, -⟩ :=
    call (.bulk 0x81) [0, 0, 0, 0] 0 answeringHandle trivial rfl
  obtain ⟨t, t', ht, rfl, hinput', -⟩ := finalized .default ⟨1⟩ rfl rfl
  subst ht
  exact ⟨⟨count, dest, hresult, hinput rfl _ rfl⟩, hinput' rfl _ rfl⟩

/-- **The direction is not looked at**: an input without bytes counts as complete,
and an output is written over by the bytes of its answer. -/
theorem exists_reported_against_direction :
    ((Exchange.bulk 0x81).direction = .input ∧
      ((Platform.transfer answeringHandle.connection
        ((Exchange.bulk 0x81).request [0, 0, 0, 0] 0)).run
        (answering (.succeeded (.success none))).platform).1 = .succeeded (.success none) ∧
      result ((Exchange.bulk 0x81).run [0, 0, 0, 0] 0 answeringHandle)
        (answering (.succeeded (.success none))) = .ok (.ok 4, [0, 0, 0, 0])) ∧
    ((Exchange.bulk 2).direction = .output ∧
      ((Platform.transfer answeringHandle.connection
        ((Exchange.bulk 2).request [0xaa, 0xbb] 0)).run
        (answering (.succeeded (.success (some [0xff, 0xff])))).platform).1 =
          .succeeded (.success (some [0xff, 0xff])) ∧
      result ((Exchange.bulk 2).run [0xaa, 0xbb] 0 answeringHandle)
        (answering (.succeeded (.success (some [0xff, 0xff])))) =
          .ok (.ok 2, [0xff, 0xff])) :=
  ⟨⟨rfl, rfl, rfl⟩, rfl, rfl, rfl⟩

end Exchange
end UsbHost
