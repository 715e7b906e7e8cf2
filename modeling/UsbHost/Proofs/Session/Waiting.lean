import UsbHost.Proofs.Session.Agreement

/-! # Calls that wait for their end

A call that waits asks the platform once and gives back a result with the data of its
caller (`Exchange.run_settles`).  The data are only written to when it succeeds, and then
only as far as it says; it succeeds exactly if the platform says that the transfer went
well.  A control request with more data than fit is refused before the platform is asked.
-/
namespace UsbHost

/-- What a platform keeps of the transfers it was asked for, latest first. -/
structure Recorder (σ α : Type) [Platform σ] where
  log : σ → List α
  entry : ConnectionId → TransferRequest → α
  log_transfer : ∀ connection request p,
    log ((Platform.transfer connection request).run p).2 = entry connection request :: log p

/-- A transfer is recorded, once. -/
theorem ScriptedPlatform.requests_transfer (p : ScriptedPlatform) (connection : ConnectionId)
    (request : TransferRequest) :
    ((Platform.transfer connection request).run p).2.requests =
      .transfer connection request false :: p.requests := by
  obtain ⟨devices, configurations, openOutcome, closeOutcome, interfaceOutcome, resetOutcome,
    answers, immediate, requests, parked⟩ := p
  cases answers <;> rfl

/-- The requests that a scripted platform has seen. -/
def ScriptedPlatform.recorder : Recorder ScriptedPlatform RecordedRequest where
  log := requests
  entry := fun connection request => .transfer connection request false
  log_transfer := fun connection request p => p.requests_transfer connection request

theorem ScriptedPlatform.log_recorder (p : ScriptedPlatform) : recorder.log p = p.requests := rfl

/-- What comes of data that an answer is applied to, when the caller is told `outcome`. -/
structure TransferOutcome.Settles (answer : TransferOutcome) (data : List UInt8)
    (outcome : Except UsbError Nat) (dest : List UInt8) : Prop where
  kept : ∀ e, outcome = .error e → dest = data
  count_le : ∀ n, outcome = .ok n → n ≤ data.length
  rest : ∀ n, outcome = .ok n → dest.drop n = data.drop n ∧ dest.length = data.length
  start : ∀ n code bytes, outcome = .ok n → answer = .succeeded ⟨code, some bytes⟩ →
    n ≤ bytes.length ∧ dest.take n = bytes.take n

namespace TransferOutcome
variable {data : List UInt8}

/-- Of the bytes of an answer those count for which there is room. -/
theorem applied_data (data bytes : List UInt8) :
    applied data (.succeeded (.success (some bytes))) =
      (.ok (min bytes.length data.length),
        bytes.take (min bytes.length data.length) ++ data.drop (min bytes.length data.length)) := by
  have hcount : min (min bytes.length data.length) data.length = min bytes.length data.length :=
    Nat.min_eq_left (Nat.min_le_right ..)
  rw [applied, Response.apply_success, overwrite_take, hcount]
  rfl

theorem applied_noData (data : List UInt8) :
    applied data (.succeeded (.success none)) = (.ok data.length, data) := rfl

/-- Without the word that all went well the data are left alone. -/
theorem applied_refused {answer : TransferOutcome}
    (h : ∀ bytes, answer ≠ .succeeded (.success bytes)) :
    applied data answer = (.error .other, data) := by
  cases answer with
  | succeeded response =>
    obtain ⟨code, bytes⟩ := response
    have hcode : code ≠ some Response.successCode := by
      rintro rfl
      exact h bytes rfl
    rw [applied, Response.apply_refused _ _ _ bytes hcode]
    rfl
  | failed message => rfl
  | canceled => rfl

/-- An answer either says that all went well or does not. -/
theorem success_cases (answer : TransferOutcome) :
    (∃ bytes, answer = .succeeded (.success bytes)) ∨
      ∀ bytes, answer ≠ .succeeded (.success bytes) :=
  (Classical.em _).imp_right not_exists.mp

/-- A refusal settles with whatever answer. -/
theorem settles_error (answer : TransferOutcome) (data : List UInt8) (e : UsbError) :
    answer.Settles data (.error e) data where
  kept _ _ := rfl
  count_le := nofun
  rest := nofun
  start := nofun

theorem settles_applied (answer : TransferOutcome) (data : List UInt8) :
    answer.Settles data (applied data answer).1 (applied data answer).2 := by
  rcases answer.success_cases with ⟨bytes, rfl⟩ | hrefused
  · cases bytes with
    | none =>
      rw [applied_noData]
      constructor
      case kept => nofun
      case count_le =>
        intro n hn
        cases hn
        exact Nat.le_refl _
      case rest =>
        intro n _
        exact ⟨rfl, rfl⟩
      case start =>
        intro n code bytes _ hanswer
        cases hanswer
    | some bytes =>
      have hlength := List.length_take_of_le (Nat.min_le_left bytes.length data.length)
      rw [applied_data]
      constructor
      case kept => nofun
      case count_le =>
        intro n hn
        cases hn
        exact Nat.min_le_right ..
      case rest =>
        intro n hn
        cases hn
        refine ⟨List.drop_left' hlength, ?_⟩
        rw [List.length_append, hlength, List.length_drop]
        omega
      case start =>
        intro n code bytes' hn hanswer
        cases hn
        cases hanswer
        exact ⟨Nat.min_le_left .., List.take_left' hlength⟩
  · rw [applied_refused hrefused]
    exact settles_error ..

/-- The caller is told of a success exactly if all went well. -/
theorem applied_eq_ok_iff (answer : TransferOutcome) (data : List UInt8) :
    (∃ n, (applied data answer).1 = .ok n) ↔ ∃ bytes, answer = .succeeded (.success bytes) := by
  rcases answer.success_cases with ⟨bytes, rfl⟩ | hrefused
  · refine iff_of_true ?_ ⟨bytes, rfl⟩
    cases bytes with
    | none => exact ⟨_, congrArg Prod.fst (applied_noData data)⟩
    | some bytes => exact ⟨_, congrArg Prod.fst (applied_data data bytes)⟩
  · rw [applied_refused hrefused]
    exact iff_of_false nofun fun ⟨bytes, h⟩ => hrefused bytes h

end TransferOutcome

namespace Exchange
open Session

variable {σ κ α : Type} [Platform σ]

/-- The answer that a call gets. -/
def answer (x : Exchange) (data : List UInt8) (timeout : UInt32) (handle : Handle)
    (s : Session σ κ) : TransferOutcome :=
  ((Platform.transfer handle.connection (x.request data timeout)).run s.platform).1

/-- More data than fit are refused at once. -/
theorem run_of_not_fits {x : Exchange} {data : List UInt8} (h : ¬ x.Fits data) (timeout : UInt32)
    (handle : Handle) (s : Session σ κ) :
    (x.run data timeout handle).run.run s = (.ok (.error .invalidParam, data), s) := by
  cases x with
  | control requestType request value index =>
    have h : ¬ data.length < UInt16.size := h
    rw [run, controlTransfer, if_neg h]
    rfl
  | bulk endpoint | interrupt endpoint => exact absurd trivial h

/-- **What a call that waits comes to**, whatever the platform answers:
* if it fails the data are as before; if it succeeds they are changed up to the count it
  gives at most, to the bytes of the answer if this has any;
* it succeeds exactly if the data fit and the platform says that all went well;
* the platform has recorded one request, and none if the data do not fit. -/
theorem run_settles (recorder : Recorder σ α) (x : Exchange) (data : List UInt8)
    (timeout : UInt32) (handle : Handle) (s : Session σ κ) :
    ∃ outcome dest, result (x.run data timeout handle) s = .ok (outcome, dest) ∧
      (x.answer data timeout handle s).Settles data outcome dest ∧
      ((∃ n, outcome = .ok n) ↔
        x.Fits data ∧ ∃ bytes, x.answer data timeout handle s = .succeeded (.success bytes)) ∧
      (x.Fits data → recorder.log (after (x.run data timeout handle) s).platform =
        recorder.entry handle.connection (x.request data timeout) ::
          recorder.log s.platform) ∧
      (¬ x.Fits data → outcome = .error .invalidParam ∧
        recorder.log (after (x.run data timeout handle) s).platform =
          recorder.log s.platform) := by
  by_cases fits : x.Fits data
  · obtain ⟨ns, hrun⟩ := run_spec timeout fits handle s
    have happlied := TransferOutcome.applied_eq_ok_iff (x.answer data timeout handle s) data
    refine ⟨_, _, congrArg Prod.fst hrun, TransferOutcome.settles_applied .., ?_, fun _ => ?_,
      fun h => absurd fits h⟩
    · exact happlied.trans (and_iff_right fits).symm
    · rw [after, hrun]
      exact recorder.log_transfer ..
  · have hrun := run_of_not_fits fits timeout handle s
    refine ⟨_, _, congrArg Prod.fst hrun, TransferOutcome.settles_error .., ?_,
      fun h => absurd h fits, fun _ => ⟨rfl, ?_⟩⟩
    · have hrefused : ¬ ∃ n, (.error .invalidParam : Except UsbError Nat) = .ok n := by
        rintro ⟨n, ⟨⟩⟩
      exact iff_of_false hrefused fun h => fits h.1
    · rw [after, hrun]

/-- Three bytes come in where two were asked for.  Of a control request with too many
data nothing is recorded. -/
theorem run_settles_long :
    (∃ dest, result ((bulk 0x81).run [0, 0] 0 answeringHandle)
        (answering (.succeeded (.success (some [1, 2, 3])))) = .ok (.ok 2, dest) ∧
      dest.take 2 = [1, 2]) ∧
    (after ((bulk 0x81).run [0, 0] 0 answeringHandle)
      (answering (.succeeded (.success (some [1, 2, 3]))))).platform.requests =
        [.transfer ⟨101⟩ ((bulk 0x81).request [0, 0] 0) false] ∧
    (after ((control 0x40 1 0 0).run (List.replicate 65536 0) 0 answeringHandle)
      (answering .canceled)).platform.requests = [] := by
  obtain ⟨outcome, dest, hresult, hsettles, -, hrecorded, -⟩ :=
    run_settles ScriptedPlatform.recorder (bulk 0x81) [0, 0] 0 answeringHandle
      (answering (.succeeded (.success (some [1, 2, 3]))))
  obtain ⟨_, _, -, -, -, -, hrefused⟩ :=
    run_settles ScriptedPlatform.recorder (control 0x40 1 0 0) (List.replicate 65536 0) 0
      answeringHandle (answering .canceled)
  have hok : Except.ok (Except.ok 2, [1, 2]) = Except.ok (outcome, dest) := hresult
  cases hok
  have hlong : ¬ Fits (List.replicate 65536 0) (control 0x40 1 0 0) := by
    change ¬ (List.replicate 65536 (0 : UInt8)).length < 65536
    rw [List.length_replicate]
    exact Nat.lt_irrefl _
  have hnone := (hrefused hlong).2
  rw [ScriptedPlatform.log_recorder, ScriptedPlatform.log_recorder] at hnone
  exact ⟨⟨_, hresult, (hsettles.start 2 _ _ rfl rfl).2⟩, hrecorded trivial, hnone⟩

end Exchange
end UsbHost
