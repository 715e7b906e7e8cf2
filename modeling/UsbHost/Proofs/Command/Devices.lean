import UsbHost.Command
import UsbHost.Proofs.Session.Results

/-! # Devices of a command

A command lists devices, opens one of them and closes it again, and frees the list.  Each
call either succeeds or is an error to be reported; none of them faults, and none touches a
transfer or a tracker (`Undisturbed`).
-/
namespace UsbHost
namespace Command
open Session

variable {σ κ : Type}

/-! ## Attempts -/

section Attempt
variable {α : Type} {x : SessionM σ κ α} {s s' : Session σ κ}

/-- An error is the result of an attempt; a fault ends the attempt, too. -/
theorem attempt_run (x : SessionM σ κ α) (s : Session σ κ) :
    (attempt x).run.run s = match x.run.run s with
      | (.ok a, s') => (.ok (.ok a), s')
      | (.error (.error e), s') => (.ok (.error e), s')
      | (.error (.fault f), s') => (.error (.fault f), s') := by
  rw [attempt, run_bind, ExceptT.run_tryCatch, StateT.run_bind, run_bind]
  rcases x.run.run s with ⟨(e | f) | a, s'⟩ <;> rfl

theorem attempt_of_ok {a : α} (h : x.run.run s = (.ok a, s')) :
    (attempt x).run.run s = (.ok (.ok a), s') := by
  rw [attempt_run, h]

theorem attempt_of_error {e : UsbError} (h : x.run.run s = (.error (.error e), s')) :
    (attempt x).run.run s = (.ok (.error e), s') := by
  rw [attempt_run, h]

theorem run_discard {a : α} (h : x.run.run s = (.ok a, s')) :
    (discard x).run.run s = (.ok (), s') := by
  have hresult : result x s = .ok a := congrArg Prod.fst h
  have hafter : after x s = s' := congrArg Prod.snd h
  refine Prod.ext ?_ ((after_discard ..).trans hafter)
  change result (discard x) s = _
  rw [result_discard, hresult]
  rfl

end Attempt

/-! ## Lists of devices -/

section Lists
variable {s : Session σ κ}

theorem unrefDevice_run {d : DeviceKey} {device : Device} {n : Nat} (h : s.device? d = some device)
    (references : device.references = n + 1) :
    (unrefDevice d).run.run s = (.ok (), s.setReferences d n) := by
  rw [unrefDevice, run_bind_of_ok (result_get s), after_get, h]
  dsimp only
  rw [references]
  rfl

/-- The devices of a list, with the same number of references each. -/
def devicesWith (references : Nat) (records : List DeviceRecord) : List Device :=
  records.map fun record => { context := .default, record, references }

/-- **Freeing a list that was just made** leaves no reference to its devices. -/
theorem freeDeviceList_run {ds : List Device} {records : List DeviceRecord}
    (h : s.devices = ds ++ devicesWith 1 records) :
    (freeDeviceList ((List.range' ds.length records.length).map DeviceKey.mk) true).run.run s =
      (.ok (), { s with devices := ds ++ devicesWith 0 records }) := by
  induction records generalizing ds s with
  | nil =>
    have hs : { s with devices := ds ++ devicesWith 0 [] } = s := by
      rw [show devicesWith 0 [] = devicesWith 1 [] from rfl, ← h]
    rw [hs]
    rfl
  | cons record records ih =>
    have hfirst : s.device? ⟨ds.length⟩ =
        some { context := .default, record, references := 1 } := by
      rw [device?, h, devicesWith, List.map_cons, List.getElem?_append_right (Nat.le_refl _)]
      simp
    have hfreed : (s.setReferences ⟨ds.length⟩ 0).devices =
        (ds ++ [{ context := .default, record, references := 0 }]) ++ devicesWith 1 records := by
      have hchange := List.modifyTailIdx_add
        (List.modifyHead fun device : Device => { device with references := 0 }) 0 ds
        (devicesWith 1 (record :: records))
      rw [← h] at hchange
      rw [List.append_assoc]
      exact hchange
    have hrest := ih hfreed
    rw [List.length_append, List.length_singleton, List.append_assoc] at hrest
    exact (run_bind_of_run (unrefDevice_run hfirst rfl) _).trans hrest

/-- The device that is found at an index of a new list. -/
theorem found_eq {ds : List Device} {records : List DeviceRecord}
    (h : s.devices = ds ++ devicesWith 1 records) (index : Nat) :
    (((List.range' ds.length records.length).map DeviceKey.mk)[index]?.bind fun key =>
        (s.device? key).map (key, ·)) =
      records[index]?.map fun record =>
        (⟨ds.length + index⟩, { context := .default, record, references := 1 }) := by
  rw [List.getElem?_map]
  by_cases hindex : index < records.length
  · have hdevice : s.device? ⟨ds.length + index⟩ =
        records[index]?.map fun record => { context := .default, record, references := 1 } := by
      rw [device?, h, List.getElem?_append_right (Nat.le_add_right ..), Nat.add_sub_cancel_left,
        devicesWith, List.getElem?_map]
    rw [List.getElem?_range' hindex, Nat.one_mul, Option.map_some, Option.bind_some, hdevice,
      Option.map_map]
    rfl
  · have hnone : records[index]? = none := List.getElem?_eq_none (Nat.le_of_not_lt hindex)
    rw [hnone, List.getElem?_eq_none (by simpa using hindex)]
    rfl

end Lists

/-! ## Calls to the platform -/

/-- Transfers and trackers are as they were. -/
structure Undisturbed (s s' : Session σ κ) : Prop where
  transfers : s'.transfers = s.transfers
  tracker : ∀ c, s'.tracker c = s.tracker c

namespace Undisturbed
variable {s s' : Session σ κ}

theorem sound (same : Undisturbed s s') (sound : s.Sound) : s'.Sound :=
  fun c => same.tracker c ▸ sound c

end Undisturbed

section Calls
variable [Platform σ]

/-- What the platform answers when devices are listed. -/
def listing (s : Session σ κ) : Outcome (List DeviceRecord) × σ :=
  (Platform.getDevices (σ := σ)).run s.platform

/-- The devices that are listed; without an answer there are none. -/
def listed (s : Session σ κ) : List DeviceRecord :=
  match (listing s).1 with
  | .succeeded records => records
  | _ => []

/-- The keys of the devices that are listed next. -/
def newDevices (s : Session σ κ) (records : List DeviceRecord) : List DeviceKey :=
  (List.range' s.devices.length records.length).map DeviceKey.mk

/-- Listing either gives the devices or is an error. -/
theorem attempt_listDevices (s : Session σ κ) :
    ∃ s', s'.platform = (listing s).2 ∧ Undisturbed s s' ∧
      ((∃ records, (listing s).1 = .succeeded records ∧
          s'.devices = s.devices ++ devicesWith 1 records ∧
          (attempt (listDevices .default)).run.run s = (.ok (.ok (newDevices s records)), s')) ∨
        ((∀ records, (listing s).1 ≠ .succeeded records) ∧ s'.devices = s.devices ∧
          (attempt (listDevices .default)).run.run s = (.ok (.error .other), s'))) := by
  have hrun : ∀ outcome, (listing s).1 = outcome → (listDevices .default).run.run s =
      (check .listDevices outcome >>= fun records => do
        note (.devicesListed records.length)
        modifyGet fun s =>
          ((List.range' s.devices.length records.length).map DeviceKey.mk,
            { s with devices := s.devices ++ devicesWith 1 records }) :
          SessionM σ κ (List DeviceKey)).run.run { s with platform := (listing s).2 } := by
    rintro _ rfl
    exact run_bind_of_ok (result_onPlatform ..) _
  cases houtcome : (listing s).1 with
  | succeeded records =>
    refine ⟨_, ?_, ⟨?_, ?tracker⟩, .inl ⟨records, rfl, ?_, attempt_of_ok (hrun _ houtcome)⟩⟩
    case tracker => exact fun c => by cases c <;> rfl
    all_goals rfl
  | failed message | canceled =>
    refine ⟨_, ?_, ⟨?_, ?tracker⟩, .inr ⟨nofun, ?_, attempt_of_error (hrun _ houtcome)⟩⟩
    case tracker => exact fun c => by cases c <;> rfl
    all_goals rfl

/-- Opening either gives a handle or is an error. -/
theorem attempt_openDevice (key : DeviceKey) (device : Device) (s : Session σ κ) :
    ∃ s', s'.platform = ((Platform.openDevice device.record).run s.platform).2 ∧
      Undisturbed s s' ∧ s'.devices = s.devices ∧
      ((∃ connection, ((Platform.openDevice device.record).run s.platform).1 =
            .succeeded connection ∧
          s'.handle? ⟨s.handles.length⟩ =
            some { device := key, context := device.context, connection } ∧
          (attempt (openDevice key device)).run.run s =
            (.ok (.ok ⟨s.handles.length⟩), s')) ∨
        ((∀ connection, ((Platform.openDevice device.record).run s.platform).1 ≠
            .succeeded connection) ∧
          (attempt (openDevice key device)).run.run s = (.ok (.error .other), s'))) := by
  have hrun : ∀ outcome, ((Platform.openDevice device.record).run s.platform).1 = outcome →
      (openDevice key device).run.run s =
        (check .openDevice outcome >>= fun connection => do
          note (.deviceOpened device.record.device connection)
          let handle : Handle := { device := key, context := device.context, connection }
          modifyGet fun s => (⟨s.handles.length⟩, { s with handles := s.handles ++ [handle] }) :
          SessionM σ κ HandleKey).run.run
            { s with platform := ((Platform.openDevice device.record).run s.platform).2 } := by
    rintro _ rfl
    exact run_bind_of_ok (result_onPlatform ..) _
  cases houtcome : ((Platform.openDevice device.record).run s.platform).1 with
  | succeeded connection =>
    refine ⟨_, ?_, ⟨?_, ?tracker⟩, ?_,
      .inl ⟨connection, rfl, ?handle, attempt_of_ok (hrun _ houtcome)⟩⟩
    case tracker => exact fun c => by cases c <;> rfl
    case handle => simp [handle?]
    all_goals rfl
  | failed message | canceled =>
    refine ⟨_, ?_, ⟨?_, ?tracker⟩, ?_, .inr ⟨nofun, attempt_of_error (hrun _ houtcome)⟩⟩
    case tracker => exact fun c => by cases c <;> rfl
    all_goals rfl

/-- An open handle is closed, whether the platform manages to or not. -/
theorem closeHandle_spec {s : Session σ κ} {h : HandleKey} {handle : Handle}
    (opened : s.handle? h = some handle) (notClosed : handle.closed = false) :
    ∃ s', (closeHandle h).run.run s = (.ok (), s') ∧
      s'.platform = ((Platform.closeDevice handle.connection).run s.platform).2 ∧
      Undisturbed s s' ∧ s'.devices = s.devices := by
  rw [closeHandle, run_bind_of_ok (result_get s), after_get, opened]
  dsimp only
  rw [closeDevice, notClosed, if_neg Bool.false_ne_true, run_bind_of_ok (result_modify ..),
    after_modify, run_bind_of_ok (result_onPlatform ..), after_onPlatform]
  split
  · exact ⟨_, rfl, rfl, ⟨rfl, fun c => by cases c <;> rfl⟩, rfl⟩
  · exact ⟨_, rfl, rfl, ⟨rfl, fun c => by cases c <;> rfl⟩, rfl⟩

end Calls

end Command
end UsbHost
