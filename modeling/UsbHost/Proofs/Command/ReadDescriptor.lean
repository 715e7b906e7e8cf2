import UsbHost.Platform.Scripted
import UsbHost.Proofs.Command.Printing
import UsbHost.Proofs.Command.Reading
import UsbHost.Proofs.Session.Moves
import UsbHost.Record.Sample

/-! # Reading the descriptor of a listed device

The command that reads a device descriptor lists the devices, opens the one at an index,
asks it for its descriptor and closes it, and frees the list.  Listing and opening may be
refused, the transfer may be refused, answered with too little, cancelled or not answered
at all, and closing may fail: each of these ways leads out of the command.

On all of them a device that was opened is closed again, no transfer is tracked that was
not before, and no reference to a device is left (`readDescriptor_cleans_up`).  A
descriptor is printed if and only if the device sent one in time, and it is that one.
-/
namespace UsbHost
namespace Command
open Session

variable {σ κ : Type}

/-! ## One device -/

section Device
variable [Platform σ] {s s' : Session (Observed σ) κ} {opened : Outcome ConnectionId × Observed σ}

/-- What is opened, and closed again, with an outcome of opening. -/
def visit : Outcome ConnectionId → List Passage
  | .succeeded connection => [.opened connection, .closed connection]
  | _ => []

/-- What is printed of a descriptor that was read, or was not. -/
def reportText : Except Error DeviceDescriptor → String
  | .ok d => descriptorText d
  | .error _ => ""

/-- How a command ends that has come to a result in a session. -/
def reported (result : Except Error DeviceDescriptor) (s : Session σ κ) (printed : String) :
    Except Failure (Except Error Unit) × State σ κ :=
  (.ok (result.map fun _ => ()), ⟨s, printed ++ reportText result⟩)

omit [Platform σ] in
theorem reported_error (e : Error) (s : Session σ κ) (printed : String) :
    reported (.error e) s printed = (.ok (.error e), ⟨s, printed⟩) := by
  rw [reported, reportText, String.append_empty]
  rfl

/-- **The text is that of the descriptor that was read**, and of no other one. -/
theorem reportText_eq_iff (result : Except Error DeviceDescriptor) (d : DeviceDescriptor) :
    reportText result = descriptorText d ↔ result = .ok d := by
  cases result with
  | ok d' =>
    rw [Except.ok.injEq]
    exact descriptorText_injective.eq_iff
  | error e => exact iff_of_false (descriptorText_ne_empty d).symm nofun

/-- The device was opened, and within so many rounds it answered that all went well, with some
bytes. -/
def Sends (opened : Outcome ConnectionId × Observed σ) (patience : Nat) (ticket : Ticket)
    (data : List UInt8) : Prop :=
  ∃ connection, opened.1 = .succeeded connection ∧
    answering patience ticket opened.2 connection = some (.succeeded (.success (some data)))

/-- Reading has come to a result.  A descriptor was read from what was sent, and nothing is left
behind but the passages that were written down. -/
structure Reads (sends : List UInt8 → Prop) (passages : List Passage) (patience : Nat)
    (s : Session (Observed σ) κ) (result : Except Error DeviceDescriptor)
    (s' : Session (Observed σ) κ) : Prop where
  devices : s'.devices = s.devices
  passages : s'.platform.passages = s.platform.passages ++ passages
  untracked : ∀ id, (s.tracker .default).entries.get? id = none →
    (s'.tracker .default).entries.get? id = none
  only : ∀ d, result = .ok d → ∃ data, sends data ∧ DeviceDescriptor.parse (data.take 18) = some d
  always : (∀ id, (s.tracker .default).entries.get? id = none) → 0 < patience →
    ∀ d data, sends data → DeviceDescriptor.parse (data.take 18) = some d → result = .ok d

theorem passages_list (s : Session (Observed σ) κ) :
    (listing s).2.passages = s.platform.passages := rfl

theorem passages_open (w : Observed σ) (record : DeviceRecord) :
    ((Platform.openDevice record).run w).2.passages =
      w.passages ++ Observed.openedBy ((Platform.openDevice record).run w).1 := rfl

theorem passages_close (w : Observed σ) (connection : ConnectionId) :
    ((Platform.closeDevice connection).run w).2.passages = w.passages ++ [.closed connection] := rfl

theorem run_readDevice_of_opened {s₁ s₂ s₃ : Session (Observed σ) κ} {key : DeviceKey}
    {device : Device} {h : HandleKey} {patience : Nat} {result : Except Error DeviceDescriptor}
    (hopen : (attempt (openDevice key device)).run.run s = (.ok (.ok h), s₁))
    (hread : (readOver (σ := Observed σ) (κ := κ) (round .default : SessionM (Observed σ) κ Unit)
      patience h).run.run s₁ = (.ok result, s₂))
    (hclose : (closeHandle h).run.run s₂ = (.ok (), s₃)) (printed : String) :
    (readDevice (σ := Observed σ) (κ := κ) (lift (round .default)) patience key
      device).run.run ⟨s, printed⟩ = reported result s₃ printed := by
  rw [readDevice]
  refine (run_bind_of_run (lift_run_of_run hopen) _).trans ?_
  dsimp only
  rw [lift_readOver, run_bind_of_run (lift_run_of_run hread)]
  refine (run_bind_of_run (lift_run_of_run hclose) _).trans ?_
  cases result with
  | ok d => rfl
  | error e =>
    rw [reported_error]
    rfl

/-- **Reading the descriptor of a device** opens it and closes it again, and leaves nothing
behind. -/
theorem readDevice_spec (sound : s.Sound)
    (untracked : (s.tracker .default).entries.get? (newTransfer s) = none) (key : DeviceKey)
    {device : Device} (context : device.context = .default) (patience : Nat)
    (hopened : (Platform.openDevice device.record).run s.platform = opened) (printed : String) :
    ∃ result s', (readDevice (σ := Observed σ) (κ := κ) (lift (round .default)) patience key
        device).run.run ⟨s, printed⟩ = reported result s' printed ∧
      Reads (Sends opened patience (newTicket s)) (visit opened.1) patience s result s' := by
  subst hopened
  obtain ⟨s₁, hplatform, same, hdevices,
    ⟨connection, hconnection, hhandle, hrun⟩ | ⟨hrefused, hrun⟩⟩ := attempt_openDevice key device s
  · -- The device is open, and reading leaves its handle to be closed.
    have hnew : (s₁.tracker .default).entries.get? (newTransfer s₁) = none := by
      rw [same.tracker, same.newTransfer_eq]
      exact untracked
    obtain ⟨result, s₂, hread, hleft, honly, halways⟩ :=
      readOver_spec (same.sound sound) hhandle context hnew patience
    have hstill := hhandle
    rw [handle?, ← hleft.handles] at hstill
    obtain ⟨s₃, hclose, hclosed, same', hdevices'⟩ := closeHandle_spec hstill rfl
    rw [same.newTicket_eq, hplatform] at honly halways
    refine ⟨result, s₃, run_readDevice_of_opened hrun hread hclose printed,
      hdevices'.trans (hleft.devices.trans hdevices), ?_, fun id hfree => ?_,
      fun d hd => ?_, fun idle enough d data hsends hparse => ?_⟩
    · rw [hclosed, passages_close, hleft.platform, hplatform, passages_open, hconnection,
        List.append_assoc]
      rfl
    · rw [same'.tracker]
      exact hleft.untracked (same.sound sound) .default id (by rw [same.tracker, hfree])
    · obtain ⟨data, hanswer, hparse⟩ := honly d hd
      exact ⟨data, ⟨connection, hconnection, hanswer⟩, hparse⟩
    · obtain ⟨connection', hconnection', hanswer⟩ := hsends
      cases hconnection.symm.trans hconnection'
      exact halways (fun id => by rw [same.tracker, idle id]) enough d ⟨data, hanswer, hparse⟩
  · -- Opening was refused, so nothing was asked of the device.
    refine ⟨.error (.opening .other), s₁, ?_, hdevices, ?_, fun id hfree => ?_,
      fun d hd => ?_, fun _ _ _ _ hsends _ => ?_⟩
    · rw [reported_error]
      exact run_bind_of_run (lift_run_of_run hrun) _
    · rw [hplatform, passages_open]
      cases houtcome : ((Platform.openDevice device.record).run s.platform).1 with
      | succeeded connection => exact absurd houtcome (hrefused connection)
      | failed message | canceled => rfl
    · rw [same.tracker, hfree]
    · cases hd
    · obtain ⟨connection, hconnection, -⟩ := hsends
      exact absurd hconnection (hrefused connection)

end Device

/-! ## The device at an index -/

section Listed
variable [Platform σ] {s : Session (Observed σ) κ}

/-- What the platform answers when a listed device is opened. -/
def opening (s : Session (Observed σ) κ) (record : DeviceRecord) :
    Outcome ConnectionId × Observed σ :=
  (Platform.openDevice record).run (listing s).2

/-- What is opened, and closed again, when the device at an index is read. -/
def visited (s : Session (Observed σ) κ) (index : Nat) : List Passage :=
  ((listed s)[index]?.map fun record => visit (opening s record).1).getD []

/-- The device at an index was opened, and within so many rounds it answered that all went well,
with some bytes. -/
def Answered (s : Session (Observed σ) κ) (index patience : Nat) (data : List UInt8) : Prop :=
  ∃ record, (listed s)[index]? = some record ∧
    Sends (opening s record) patience (newTicket s) data

/-- What is done with the device that is found, if there is one. -/
def readFound (patience : Nat) (otherwise : Error) :
    Option (DeviceKey × Device) → CommandM (Observed σ) κ (Except Error Unit)
  | some (key, device) =>
    readDevice (σ := Observed σ) (κ := κ) (lift (round .default)) patience key device
  | none => pure (.error otherwise)

theorem readFound_spec (sound : s.Sound)
    (untracked : (s.tracker .default).entries.get? (newTransfer s) = none) (key : DeviceKey)
    (record? : Option DeviceRecord) (patience : Nat) (otherwise : Error)
    {opened : DeviceRecord → Outcome ConnectionId × Observed σ}
    (hopened : ∀ record, (Platform.openDevice record).run s.platform = opened record)
    (printed : String) :
    ∃ result s', (readFound patience otherwise (record?.map fun record =>
          (key, { context := .default, record, references := 1 }))).run.run ⟨s, printed⟩ =
          reported result s' printed ∧
      Reads (fun data => ∃ record, record? = some record ∧
          Sends (opened record) patience (newTicket s) data)
        ((record?.map fun record => visit (opened record).1).getD []) patience s result s' := by
  cases record? with
  | none =>
    exact ⟨.error otherwise, s, (reported_error ..).symm, rfl, (List.append_nil _).symm,
      fun _ h => h, nofun, nofun⟩
  | some record =>
    let device : Device := { context := .default, record, references := 1 }
    have context : device.context = .default := rfl
    obtain ⟨result, s', hrun, reads⟩ :=
      readDevice_spec sound untracked key context patience (hopened record) printed
    refine ⟨result, s', hrun, reads.devices, reads.passages, reads.untracked, fun d hd => ?_, ?_⟩
    · obtain ⟨data, hsends, hparse⟩ := reads.only d hd
      exact ⟨data, ⟨record, rfl, hsends⟩, hparse⟩
    · rintro idle enough d data ⟨_, ⟨⟩, hsends⟩ hparse
      exact reads.always idle enough d data hsends hparse

/-! ## The command -/

theorem run_readDescriptor_of_listed (index patience : Nat) {s₁ s₂ s₃ : Session (Observed σ) κ}
    {records : List DeviceRecord} {result : Except Error DeviceDescriptor} {printed : String}
    (hlist : (attempt (Session.listDevices .default)).run.run s =
      (.ok (.ok (newDevices s records)), s₁))
    (hdevices : s₁.devices = s.devices ++ devicesWith 1 records)
    (hread : (readFound patience (.noDevice index records.length)
      (records[index]?.map fun record => (⟨s.devices.length + index⟩,
        { context := .default, record, references := 1 }))).run.run ⟨s₁, printed⟩ =
          reported result s₂ printed)
    (hfree : (freeDeviceList (newDevices s records) true).run.run s₂ = (.ok (), s₃)) :
    (run (σ := Observed σ) (κ := κ) (lift (round .default)) patience
      (.readDescriptor index)).run.run ⟨s, printed⟩ = reported result s₃ printed := by
  rw [run, withDevice]
  refine (run_bind_of_run (lift_run_of_run hlist) _).trans ?_
  dsimp only
  have hget : (lift get : CommandM (Observed σ) κ _).run.run ⟨s₁, printed⟩ =
      (.ok s₁, ⟨s₁, printed⟩) := rfl
  refine (run_bind_of_run hget _).trans ?_
  have hcount : (newDevices s records).length = records.length := by
    rw [newDevices, List.length_map, List.length_range']
  rw [newDevices, found_eq hdevices index, ← newDevices, hcount]
  cases hrecord : records[index]? with
  | none | some record =>
    rw [hrecord] at hread
    exact (run_bind_of_run hread _).trans (run_bind_of_run (lift_run_of_run hfree) _)

theorem listed_of_refused (hrefused : ∀ records, (listing s).1 ≠ .succeeded records) :
    listed s = [] := by
  rw [listed]
  cases houtcome : (listing s).1 with
  | succeeded records => exact absurd houtcome (hrefused records)
  | failed message | canceled => rfl

/-- **The command comes to a result**, whether there is a list or not. -/
theorem run_readDescriptor (sound : s.Sound)
    (untracked : (s.tracker .default).entries.get? (newTransfer s) = none) (index patience : Nat)
    (printed : String) :
    ∃ result s' s'', (run (σ := Observed σ) (κ := κ) (lift (round .default)) patience
        (.readDescriptor index)).run.run ⟨s, printed⟩ =
          reported result { s' with devices := s.devices ++ devicesWith 0 (listed s) } printed ∧
      Undisturbed s s'' ∧ s''.platform.passages = s.platform.passages ∧
      Reads (Answered s index patience) (visited s index) patience s'' result s' := by
  obtain ⟨s₁, hplatform, same, ⟨records, hlisted, hdevices, hlist⟩ | ⟨hrefused, hdevices, hlist⟩⟩ :=
    attempt_listDevices s
  · have hrecords : listed s = records := by rw [listed, hlisted]
    have hnew : (s₁.tracker .default).entries.get? (newTransfer s₁) = none := by
      rw [same.tracker, same.newTransfer_eq]
      exact untracked
    have hopened : ∀ record, (Platform.openDevice record).run s₁.platform = opening s record :=
      fun record => by rw [hplatform, opening]
    obtain ⟨result, s₂, hread, reads⟩ :=
      readFound_spec (same.sound sound) hnew ⟨s.devices.length + index⟩ records[index]? patience
        (.noDevice index records.length) hopened printed
    have hfree := freeDeviceList_run (reads.devices.trans hdevices)
    rw [same.newTicket_eq] at reads
    subst hrecords
    exact ⟨result, s₂, s₁, run_readDescriptor_of_listed index patience hlist hdevices hread hfree,
      same, by rw [hplatform, passages_list], reads⟩
  · -- There is no list, and so no device at the index.
    have hnone := listed_of_refused hrefused
    have hlast : { s₁ with devices := s.devices ++ devicesWith 0 (listed s) } = s₁ := by
      rw [hnone, ← hdevices]
      exact congrArg (fun devices => { s₁ with devices }) (List.append_nil _)
    refine ⟨.error (.listing .other), s₁, s₁, ?_, same, by rw [hplatform, passages_list],
      rfl, ?_, fun _ h => h, nofun, ?_⟩
    · rw [hlast, reported_error, run, withDevice]
      exact run_bind_of_run (lift_run_of_run hlist) _
    · rw [visited, hnone]
      exact (List.append_nil _).symm
    · rintro - - d data ⟨record, hrecord, -⟩ -
      rw [hnone] at hrecord
      cases hrecord

/-- **Reading a device descriptor cleans up on every way out and reports what the device sent.**
Whatever the platform answers, at once or in the intervals, and whatever the index is,

* the command does not fault,
* it prints the text of the descriptor that it has read and of no other one, and nothing if it
  ends with an error,
* no device of the list has a reference left,
* what was opened is closed once after it, and nothing else is opened or closed,
* no transfer is tracked that was not allocated before,
* a descriptor is that of the first 18 bytes that were sent, and
* if nothing was in flight before, as when the program starts, there is one if and only if the
  device at the index was opened and said in time that all went well, with at least 18 bytes of
  which the second says that they are a device descriptor. -/
theorem readDescriptor_cleans_up (reached : s.Reached) (index patience : Nat)
    (printed : String) :
    ∃ (result : Except Error DeviceDescriptor) (s' : Session (Observed σ) κ) (text : String),
      (run (σ := Observed σ) (κ := κ) (lift (round .default)) patience
        (.readDescriptor index)).run.run ⟨s, printed⟩ =
          (.ok (result.map fun _ => ()), ⟨s', printed ++ text⟩) ∧
      (∀ d, text = descriptorText d ↔ result = .ok d) ∧
      (∀ e, result = .error e → text = "") ∧
      s'.devices = s.devices ++ devicesWith 0 (listed s) ∧
      s'.platform.passages = s.platform.passages ++ visited s index ∧
      (∀ id, ¬ s.Allocated id → (s'.tracker .default).isTracked id = false) ∧
      (∀ d, result = .ok d → ∃ data, Answered s index patience data ∧
        DeviceDescriptor.parse (data.take 18) = some d) ∧
      ((∀ id, (s.tracker .default).isTracked id = false) → 0 < patience →
        ∀ d, result = .ok d ↔ ∃ data, Answered s index patience data ∧
          18 ≤ data.length ∧ data[1]? = some 1 ∧
          DeviceDescriptor.parse (data.take 18) = some d) := by
  have hgone : ∀ id, ¬ s.Allocated id → (s.tracker .default).entries.get? id = none := by
    intro id ha
    refine Tracker.isTracked_eq_false.mp (Bool.eq_false_iff.mpr fun tracked => ?_)
    exact ha (reached.allocated tracked)
  have hnew := hgone _ (not_allocated_newTransfer s)
  obtain ⟨result, s', s'', hrun, same, hpassages, reads⟩ :=
    run_readDescriptor reached.sound hnew index patience printed
  refine ⟨result, _, reportText result, hrun, reportText_eq_iff result, ?_, rfl, ?_,
    fun id ha => ?_, reads.only, fun idle enough d => ⟨fun hd => ?_, ?_⟩⟩
  · rintro e rfl
    rfl
  · rw [← hpassages]
    exact reads.passages
  · refine Tracker.isTracked_eq_false.mpr (reads.untracked id ?_)
    rw [same.tracker]
    exact hgone id ha
  · obtain ⟨data, hanswered, hparse⟩ := reads.only d hd
    obtain ⟨hlength, htype⟩ := exists_parse_iff.mp ⟨d, hparse⟩
    exact ⟨data, hanswered, hlength, htype, hparse⟩
  · rintro ⟨data, hanswered, -, -, hparse⟩
    refine reads.always (fun id => ?_) enough d data hanswered hparse
    rw [same.tracker]
    exact Tracker.isTracked_eq_false.mp (idle id)

end Listed

/-- A device that sends its descriptor in the second round. -/
def answeredLate : Session (Observed ScriptedPlatform) Empty where
  platform :=
    { platform := { devices := .succeeded [Sample.device 1 0x1234 0x5678] }
      intervals := [{}, { answers := [(⟨.default, ⟨1⟩, 1⟩, .succeeded (.success (some sent)))] }] }
where
  sent := [18, 1, 0x00, 0x02, 0, 0, 0, 64, 0x34, 0x12, 0x78, 0x56, 0x00, 0x01, 1, 2, 3, 1]

/-- What is printed of its descriptor. -/
def answeredLate.text : String := String.join
  ["DeviceDescriptor \x7b\n",
    "    b_length: 18,\n",
    "    b_descriptor_type: 1,\n",
    "    bcd_usb: 512,\n",
    "    b_device_class: 0,\n",
    "    b_device_sub_class: 0,\n",
    "    b_device_protocol: 0,\n",
    "    b_max_packet_size0: 64,\n",
    "    id_vendor: 4660,\n",
    "    id_product: 22136,\n",
    "    bcd_device: 256,\n",
    "    i_manufacturer: 1,\n",
    "    i_product: 2,\n",
    "    i_serial_number: 3,\n",
    "    b_num_configurations: 1,\n",
    "\x7d\n"]

theorem readDescriptor_cleans_up_second_round :
    answeredLate.Reached ∧ ∃ s', (run (σ := Observed ScriptedPlatform) (κ := Empty)
        (lift (round .default)) 50 (.readDescriptor 0)).run.run ⟨answeredLate, ""⟩ =
          (.ok (.ok ()), ⟨s', answeredLate.text⟩) ∧
      s'.devices.map (·.references) = [0] ∧
      s'.platform.passages = [.opened ⟨101⟩, .closed ⟨101⟩] ∧
      (s'.tracker .default).isTracked ⟨1⟩ = false := by
  have reached : answeredLate.Reached := .new _
  obtain ⟨result, s', text, hrun, htext, -, hdevices, hpassages, huntracked, -, hiff⟩ :=
    readDescriptor_cleans_up reached 0 50 ""
  have hanswered : Answered answeredLate 0 50 answeredLate.sent :=
    ⟨Sample.device 1 0x1234 0x5678, rfl, ⟨101⟩, rfl, rfl⟩
  obtain ⟨d, hparse⟩ : ∃ d, DeviceDescriptor.parse (answeredLate.sent.take 18) = some d :=
    ⟨_, rfl⟩
  have hresult := (hiff (fun _ => rfl) (by decide) d).mpr
    ⟨_, hanswered, by decide, rfl, hparse⟩
  have hd : descriptorText d = answeredLate.text := by
    cases hparse
    decide +kernel
  rw [(htext d).mpr hresult, hd, hresult] at hrun
  exact ⟨reached, s', hrun, by rw [hdevices]; rfl, hpassages,
    huntracked _ (not_allocated_newTransfer answeredLate)⟩

end Command
end UsbHost
