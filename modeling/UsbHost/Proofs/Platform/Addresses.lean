import UsbHost.Platform.Usb
import UsbHost.Proofs.Session.Results
import UsbHost.Proofs.Worker.Enumerations

/-! # Addresses of devices

The address of a device is the number under which the worker knows it, and 255 and
beyond are no addresses.  The worker counts the devices it enters, from 1 and without
ever using a number again (`Run.consecutive`).  So every device has an address as long
as the worker has entered at most 254 of them, and the devices that it enters later
have none (`Watched.addresses`): it does not help that the host has but one device at
a time (`exists_no_address`).
-/
namespace UsbHost

namespace Worker
variable {η δ : Type} [Host η δ]

/-! ## Ids are consecutive -/

/-- The ids count up from 1, in the order they are given out. -/
def Consecutive (given : List DeviceId) : Prop :=
  ∀ i id, given[i]? = some id → id.value.toNat = i + 1

section Counting
variable {w w' : Worker η δ} {given : List DeviceId} {h : List (Event δ)} {e : Event δ}

omit [Host η δ] in
theorem Consecutive.snoc (hgiven : Consecutive given) {id : DeviceId}
    (hid : id.value.toNat = given.length + 1) : Consecutive (given ++ [id]) := by
  intro i id' hi
  rcases Nat.lt_trichotomy i given.length with hlt | rfl | hgt
  · rw [List.getElem?_append_left hlt] at hi
    exact hgiven i id' hi
  · rw [List.getElem?_concat_length] at hi
    cases hi
    exact hid
  · rw [List.getElem?_eq_none (by simpa using Nat.succ_le_of_lt hgt)] at hi
    cases hi

theorem consecutive_identify (acc : w.registry.Accounted given) (hgiven : Consecutive given)
    (device : δ) : Consecutive (given ++ newIds device w) := by
  unfold newIds
  rcases identify_cases device w with ⟨id, hplace, -⟩ | ⟨hplace, -, hnone, -⟩ |
    ⟨known, hplace, -, hid, -⟩
  · rw [hplace, List.append_nil]
    exact hgiven
  · rw [hplace, hnone, Option.toList_none, List.append_nil]
    exact hgiven
  · rw [hplace, hid, Option.toList_some]
    exact hgiven.snoc acc.next

theorem consecutive_identified {devices : List δ} (acc : w.registry.Accounted given)
    (hgiven : Consecutive given) (room : (given ++ givenOut devices w).length < idLimit) :
    Consecutive (given ++ givenOut devices w) := by
  induction devices generalizing w given with
  | nil => exact (List.append_nil given).symm ▸ hgiven
  | cons device devices ih =>
    rw [givenOut, ← List.append_assoc] at room ⊢
    rw [List.length_append] at room
    exact ih (accounted_identify acc (by omega)) (consecutive_identify acc hgiven device)
      (by rwa [List.length_append])

theorem Turn.consecutive (turn : Turn w e w') (acc : w.registry.Accounted given)
    (hgiven : Consecutive given) (room : (given ++ e.given).length < idLimit) :
    Consecutive (given ++ e.given) := by
  cases e with
  | listed found ids =>
    obtain ⟨rfl, -⟩ := turn.registry_listed acc room
    exact consecutive_identified (w := after (onHost Host.list) w) acc hgiven room
  | refused => exact (List.append_nil given).symm ▸ hgiven
  | other => exact (List.append_nil given).symm ▸ hgiven

/-- **The ids that are given out in a run count up from 1.** -/
theorem Run.consecutive {host : η} {filters : List String}
    (run : Run ({ host, filters } : Worker η δ) h w) (few : (givenIn h).length < idLimit) :
    Consecutive (givenIn h) := by
  obtain ⟨w₀, hw₀⟩ : ∃ w₀ : Worker η δ, w₀ = { host, filters } := ⟨_, rfl⟩
  rw [← hw₀] at run
  induction run with
  | refl => intro i id hi; cases hi
  | @snoc w w' h e run turn ih =>
    rw [givenIn_snoc] at few ⊢
    have hfew : (givenIn h).length < idLimit := by
      rw [List.length_append] at few
      omega
    have hfollowed := (hw₀ ▸ run).followed (.new host filters) hfew
    exact turn.consecutive hfollowed.accounted (ih hfew) few

/-- An enumeration succeeds when the host has a list. -/
theorem exists_records {found : List δ} (h : result (onHost Host.list) w = .ok found) :
    ∃ records, result getDevices w = .succeeded records := by
  unfold getDevices
  rw [result_bind, h]
  exact ⟨_, rfl⟩

end Counting
end Worker

namespace Session
open Worker (Event Turn Run givenIn newlyGiven idLimit onHost)

variable {η δ κ : Type} [Host η δ]

/-! ## Sessions whose devices come and go -/

/-- A session on a worker, while devices are plugged in and out and are listed.  The
keys are those of the list that was returned last. -/
inductive Watched (filters : List String) :
    List (Event δ) → List DeviceKey → Session (UsbPlatform η δ) κ → Prop
  | new (host : η) : Watched filters [] [] { platform := .start host 0 filters }
  | plugged {h : List (Event δ)} {keys : List DeviceKey} {s : Session (UsbPlatform η δ) κ}
      {w : Worker η δ} (hs : Watched filters h keys s) (hw : s.platform.worker = some w)
      (host : η) :
      Watched filters (h ++ [.other]) keys { s with platform := ⟨some { w with host }⟩ }
  | refused {h : List (Event δ)} {keys : List DeviceKey} {s : Session (UsbPlatform η δ) κ}
      {w : Worker η δ} {e : HostError} (hs : Watched filters h keys s)
      (hw : s.platform.worker = some w)
      (he : Worker.result (onHost Host.list) w = .error e) (c : ContextId) :
      Watched filters (h ++ [.refused]) keys (after (listDevices c) s)
  | listed {h : List (Event δ)} {keys keys' : List DeviceKey} {s : Session (UsbPlatform η δ) κ}
      {w : Worker η δ} {found : List δ} (hs : Watched filters h keys s)
      (hw : s.platform.worker = some w)
      (hfound : Worker.result (onHost Host.list) w = .ok found)
      (distinct : (found.map (Host.location η)).Nodup) (c : ContextId)
      (hkeys : result (listDevices c) s = .ok keys') :
      Watched filters (h ++ [.listed found (newlyGiven found w)]) keys' (after (listDevices c) s)

/-- The id under which the worker knows a device of a session. -/
def idOf? (s : Session σ κ) (key : DeviceKey) : Option DeviceId :=
  (s.device? key).map (·.record.device)

section Listing
variable {s : Session (UsbPlatform η δ) κ} {w : Worker η δ} {c : ContextId}

theorem getDevices_run {p : UsbPlatform η δ} (hw : p.worker = some w) :
    StateT.run Platform.getDevices p =
      (Worker.result Worker.getDevices w, ⟨some (Worker.after Worker.getDevices w)⟩) := by
  obtain ⟨worker⟩ := p
  cases hw
  rfl

/-- Listing goes on with what the worker has answered. -/
theorem listDevices_run (hw : s.platform.worker = some w) :
    ((listDevices c).run.run s : Except Failure (List DeviceKey) × _) =
      (do
        let records ← check .listDevices (Worker.result Worker.getDevices w)
        note (.devicesListed records.length)
        modifyGet fun s =>
          ((List.range' s.devices.length records.length).map DeviceKey.mk,
            { s with devices := s.devices ++ records.map fun record => { context := c, record } })
        : SessionM (UsbPlatform η δ) κ (List DeviceKey)).run.run
        { s with platform := ⟨some (Worker.after Worker.getDevices w)⟩ } := by
  unfold listDevices
  rw [run_bind_of_ok (result_onPlatform ..), after_onPlatform, getDevices_run hw]

/-- A list that succeeds makes a device of every record, each with a key of its own. -/
theorem listDevices_succeeded (hw : s.platform.worker = some w) {records : List DeviceRecord}
    (h : Worker.result Worker.getDevices w = .succeeded records) :
    result (listDevices c) s =
        .ok ((List.range' s.devices.length records.length).map DeviceKey.mk) ∧
      (after (listDevices c) s).platform.worker = some (Worker.after Worker.getDevices w) ∧
      (after (listDevices c) s).devices =
        s.devices ++ records.map fun record => { context := c, record } := by
  have hrun := listDevices_run (c := c) hw
  rw [h] at hrun
  unfold result after
  rw [hrun]
  exact ⟨rfl, rfl, rfl⟩

omit [Host η δ] in
/-- The keys of new devices lead to the ids of their records. -/
theorem map_idOf? {before : List Device} {records : List DeviceRecord}
    (h : s.devices = before ++ records.map fun record => { context := c, record }) :
    ((List.range' before.length records.length).map DeviceKey.mk).map s.idOf? =
      (records.map (·.device)).map some := by
  refine List.ext_getElem (by simp) fun i _ hi => ?_
  have hi : i < records.length := by simpa using hi
  simp [idOf?, device?, h, hi]

/-- A list that fails changes no device. -/
theorem listDevices_failed (hw : s.platform.worker = some w) {reason : String}
    (h : Worker.result Worker.getDevices w = .failed reason) :
    (after (listDevices c) s).platform.worker = some (Worker.after Worker.getDevices w) ∧
      (after (listDevices c) s).devices = s.devices := by
  have hrun := listDevices_run (c := c) hw
  rw [h] at hrun
  unfold after
  rw [hrun]
  exact ⟨rfl, rfl⟩

end Listing

section Watching
variable {filters : List String} {h : List (Event δ)} {keys : List DeviceKey}
  {s : Session (UsbPlatform η δ) κ}

/-- The session's worker went through what happened, and the keys lead to different
devices that it has entered. -/
structure Sighted (filters : List String) (h : List (Event δ)) (keys : List DeviceKey)
    (s : Session (UsbPlatform η δ) κ) : Prop where
  worker : ∃ (host : η) (w : Worker η δ), s.platform.worker = some w ∧ Run { host, filters } h w
  ids : ∃ ids : List DeviceId, keys.map s.idOf? = ids.map some ∧ ids.Nodup ∧
    ∀ id ∈ ids, id ∈ givenIn h

/-- What makes no list leaves the keys as they are. -/
theorem Sighted.unlisted (hs : Sighted filters h keys s) {s' : Session (UsbPlatform η δ) κ}
    {w w' : Worker η δ} {e : Event δ} (hw : s.platform.worker = some w) (turn : Turn w e w')
    (hw' : s'.platform.worker = some w') (hdevices : s'.devices = s.devices)
    (hnone : e.given = []) : Sighted filters (h ++ [e]) keys s' := by
  obtain ⟨⟨host, v, hv, run⟩, hids⟩ := hs
  cases hw.symm.trans hv
  refine ⟨⟨host, w', hw', run.snoc turn⟩, ?_⟩
  have hsame : s'.idOf? = s.idOf? := by
    funext key
    rw [idOf?, device?, hdevices]
    rfl
  rw [Worker.givenIn_snoc, hnone, List.append_nil, hsame]
  exact hids

/-- **A list shows different devices that the worker has entered.** -/
theorem Sighted.listed (hs : Sighted filters h keys s) {w : Worker η δ} {found : List δ}
    {c : ContextId} {keys' : List DeviceKey} (hw : s.platform.worker = some w)
    (hfound : Worker.result (onHost Host.list) w = .ok found)
    (distinct : (found.map (Host.location η)).Nodup) (hkeys : result (listDevices c) s = .ok keys')
    (few : (givenIn (h ++ [.listed found (newlyGiven found w)])).length < idLimit) :
    Sighted filters (h ++ [.listed found (newlyGiven found w)]) keys'
      (after (listDevices c) s) := by
  obtain ⟨⟨host, v, hv, run⟩, -⟩ := hs
  cases hw.symm.trans hv
  rw [Worker.givenIn_snoc] at few
  have turn := Turn.listed w found hfound distinct
  have acc : w.registry.Accounted (givenIn h) := (run.followed (.new host filters) (by
    rw [List.length_append] at few
    exact Nat.lt_of_le_of_lt (Nat.le_add_right _ _) few)).accounted
  obtain ⟨records, hanswer, hshown, -⟩ := turn.shown acc few
  rw [Worker.result_perform, WorkerAnswer.devices.injEq] at hanswer
  obtain ⟨hlist, hworker, hdevices⟩ := listDevices_succeeded (c := c) hw hanswer
  rw [hlist, Except.ok.injEq] at hkeys
  refine ⟨⟨host, _, hworker, run.snoc turn⟩, records.map (·.device), ?_, hshown.nodup, ?_⟩
  · rw [← hkeys, map_idOf? hdevices]
  · intro id hid
    rw [Worker.givenIn_snoc]
    exact (turn.accounted acc few).registered id ((hshown.registered id).mpr hid)

theorem Watched.sighted (hs : Watched filters h keys s) (few : (givenIn h).length < idLimit) :
    Sighted filters h keys s := by
  induction hs with
  | new host => exact ⟨⟨host, _, rfl, .refl _⟩, [], rfl, .nil, by simp⟩
  | plugged _ hw host ih =>
    rw [Worker.givenIn_snoc, List.length_append] at few
    exact (ih (Nat.lt_of_le_of_lt (Nat.le_add_right _ _) few)).unlisted hw
      (.hostChange _ host) rfl rfl rfl
  | refused _ hw he c ih =>
    rw [Worker.givenIn_snoc, List.length_append] at few
    obtain ⟨hworker, hdevices⟩ := listDevices_failed (c := c) hw (Worker.getDevices_refused he).1
    exact (ih (Nat.lt_of_le_of_lt (Nat.le_add_right _ _) few)).unlisted hw (.refused _ _ he)
      hworker hdevices rfl
  | listed _ hw hfound distinct c hkeys ih =>
    have hfew := few
    rw [Worker.givenIn_snoc, List.length_append] at hfew
    exact (ih (Nat.lt_of_le_of_lt (Nat.le_add_right _ _) hfew)).listed hw hfound distinct hkeys few

theorem Sighted.exists_device (hs : Sighted filters h keys s) {key : DeviceKey}
    (hkey : key ∈ keys) :
    ∃ device, s.device? key = some device ∧ device.record.device ∈ givenIn h := by
  obtain ⟨ids, hids, -, hgiven⟩ := hs.ids
  obtain ⟨id, hid, hof⟩ := List.mem_map.mp (hids ▸ List.mem_map_of_mem hkey)
  obtain ⟨device, hdevice, rfl⟩ := Option.map_eq_some_iff.mp hof.symm
  exact ⟨device, hdevice, hgiven _ hid⟩

/-- Different keys lead to different ids. -/
theorem Sighted.ne_of_ne (hs : Sighted filters h keys s) {key key' : DeviceKey}
    (hkey : key ∈ keys) (hkey' : key' ∈ keys) (hne : key ≠ key') : s.idOf? key ≠ s.idOf? key' := by
  obtain ⟨ids, hids, hnodup, -⟩ := hs.ids
  have hmap : (keys.map s.idOf?).Nodup := hids ▸ hnodup.map fun _ _ => Option.some.inj
  exact fun heq => hne (List.inj_on_of_nodup_map hmap hkey hkey' heq)

end Watching

/-- The device that was entered after `i` others has the address `i + 1`, or none. -/
theorem deviceAddress_of_nth {device : Device} {i : Nat}
    (h : device.record.device.value.toNat = i + 1) :
    deviceAddress device =
      if i < 254 then .ok (i + 1).toUInt8 else .error (.noAddress device.record.device) := by
  have hlt : device.record.device.value < 255 ↔ i < 254 := by
    rw [UInt32.lt_iff_toNat_lt, h]
    exact Nat.succ_lt_succ_iff
  have hbyte : device.record.device.value.toUInt8 = (i + 1).toUInt8 := by
    rw [← h]
    rfl
  rw [deviceAddress, hbyte]
  exact if_congr hlt rfl rfl

/-- Addresses tell the devices apart that have one. -/
theorem deviceAddress_injective {device device' : Device} {a : UInt8}
    (h : deviceAddress device = .ok a) (h' : deviceAddress device' = .ok a) :
    device.record.device = device'.record.device := by
  have hvalue : ∀ {d : Device}, deviceAddress d = .ok a →
      d.record.device.value.toNat = a.toNat := by
    intro d hd
    rw [deviceAddress] at hd
    split at hd
    · case isTrue hlt =>
      cases hd
      have hsmall := UInt32.lt_iff_toNat_lt.mp hlt
      exact (Nat.mod_eq_of_lt (Nat.lt_trans hsmall (by decide))).symm
    · cases hd
  have hvalues := UInt32.toNat_inj.mp ((hvalue h).trans (hvalue h').symm)
  exact congrArg DeviceId.mk hvalues

section Watching
variable {filters : List String} {h : List (Event δ)} {keys : List DeviceKey}
  {s : Session (UsbPlatform η δ) κ}

/-- **The first 254 devices that the worker enters have addresses, and no later one.**
A device of the list that was returned last has the address `i + 1` if `i` devices were
entered before it since the start, and `i` is below 254; otherwise asking for its
address ends the program.  Different devices of the list never have the same address. -/
theorem Watched.addresses (hs : Watched filters h keys s) (few : (givenIn h).length < idLimit) :
    (∀ key ∈ keys, ∃ device i, s.device? key = some device ∧
      (givenIn h)[i]? = some device.record.device ∧
      deviceAddress device =
        if i < 254 then .ok (i + 1).toUInt8 else .error (.noAddress device.record.device)) ∧
    (∀ key ∈ keys, ∀ key' ∈ keys, key ≠ key' → ∀ device device' a,
      s.device? key = some device → s.device? key' = some device' →
        deviceAddress device = .ok a → deviceAddress device' ≠ .ok a) ∧
    ((givenIn h).length ≤ 254 →
      ∀ key ∈ keys, ∃ device a, s.device? key = some device ∧ deviceAddress device = .ok a) := by
  have hsighted := hs.sighted few
  have hplaced : ∀ key ∈ keys, ∃ device i, s.device? key = some device ∧
      (givenIn h)[i]? = some device.record.device ∧
      deviceAddress device =
        if i < 254 then .ok (i + 1).toUInt8 else .error (.noAddress device.record.device) := by
    intro key hkey
    obtain ⟨device, hdevice, hid⟩ := hsighted.exists_device hkey
    obtain ⟨host, w, -, run⟩ := hsighted.worker
    obtain ⟨i, hi⟩ := List.getElem?_of_mem hid
    exact ⟨device, i, hdevice, hi, deviceAddress_of_nth (run.consecutive few i _ hi)⟩
  refine ⟨hplaced, ?_, fun hall key hkey => ?_⟩
  · intro key hkey key' hkey' hne device device' a hdevice hdevice' ha ha'
    refine hsighted.ne_of_ne hkey hkey' hne ?_
    rw [idOf?, hdevice, idOf?, hdevice']
    exact congrArg some (deviceAddress_injective ha ha')
  · obtain ⟨device, i, hdevice, hi, haddress⟩ := hplaced key hkey
    obtain ⟨hlt, -⟩ := List.getElem?_eq_some_iff.mp hi
    rw [if_pos (Nat.lt_of_lt_of_le hlt hall)] at haddress
    exact ⟨device, _, hdevice, haddress⟩

end Watching

/-- A session on a scripted host. -/
abbrev Scripted := Session (UsbPlatform ScriptedHost ScriptedDevice) Empty

/-- A session whose host has two devices. -/
def sideBySide : Scripted := { platform := .start { devices := Worker.laterDevices } 0 [] }

/-- What the worker finds and gives out. -/
def sighting : List (Event ScriptedDevice) :=
  [.listed Worker.laterDevices (newlyGiven (η := ScriptedHost) Worker.laterDevices
    { host := { devices := Worker.laterDevices } })]

/-- Both devices have addresses. -/
theorem addresses_side_by_side :
    Watched [] sighting [⟨0⟩, ⟨1⟩] (after (listDevices .default) sideBySide) ∧
      (givenIn sighting).length < idLimit ∧
      ∀ key ∈ [⟨0⟩, ⟨1⟩], ∃ device a,
        (after (listDevices .default) sideBySide).device? key = some device ∧
          deviceAddress device = .ok a := by
  have hnew : Watched [] [] [] sideBySide := .new _
  have hkeys : result (listDevices .default) sideBySide = .ok [⟨0⟩, ⟨1⟩] := by decide +kernel
  have hs : Watched [] sighting [⟨0⟩, ⟨1⟩] (after (listDevices .default) sideBySide) :=
    hnew.listed rfl rfl (by decide) .default hkeys
  have few : (givenIn sighting).length < idLimit := by decide +kernel
  exact ⟨hs, few, (hs.addresses few).2.2 (by decide +kernel)⟩

/-! ## A device that moves about -/

/-- A host with one device, which is at one of two places by turns. -/
def hostAt (n : Nat) : ScriptedHost where
  devices := [Worker.busDevice (if n % 2 = 0 then 1 else 2) 0x1234 0x5678]

def moved (n : Nat) (s : Scripted) : Scripted :=
  { s with platform := ⟨s.platform.worker.map fun w => { w with host := hostAt n }⟩ }

/-- The device was moved and listed again and again. -/
def moving : Nat → Scripted
  | 0 => { platform := .start {} 0 [] }
  | n + 1 => after (listDevices .default) (moved n (moving n))

/-- The lists that the host has are short. -/
def ShortLists (h : List (Event ScriptedDevice)) : Prop :=
  ∀ found given, .listed found given ∈ h → found.length ≤ 254

section Moving
variable {h : List (Event ScriptedDevice)} {keys keys' : List DeviceKey} {s : Scripted}
  {w : Worker ScriptedHost ScriptedDevice} {n : Nat}

theorem worker_moved (hw : s.platform.worker = some w) :
    (moved n s).platform.worker = some { w with host := hostAt n } :=
  congrArg (Option.map _) hw

theorem Watched.moved_listed (hs : Watched [] h keys s) (hshort : ShortLists h)
    (hw : s.platform.worker = some w)
    (hkeys : result (listDevices .default) (moved n s) = .ok keys') :
    ∃ h', Watched [] h' keys' (after (listDevices .default) (moved n s)) ∧ ShortLists h' := by
  have hmoved : Watched [] (h ++ [.other]) keys (moved n s) := by
    rw [moved, hw]
    exact hs.plugged hw (hostAt n)
  refine ⟨_, hmoved.listed (worker_moved hw) rfl (List.nodup_singleton _) .default hkeys, ?_⟩
  intro found given hmem
  simp only [List.mem_append, List.mem_singleton, or_assoc] at hmem
  rcases hmem with hmem | hmem | hmem
  · exact hshort found given hmem
  · cases hmem
  · cases hmem
    exact (by decide : 1 ≤ 254)

theorem watched_moving (n : Nat) :
    ∃ h keys w, Watched [] h keys (moving n) ∧ ShortLists h ∧
      (moving n).platform.worker = some w := by
  induction n with
  | zero =>
    exact ⟨[], [], _, .new (η := ScriptedHost) {}, by simp [ShortLists], rfl⟩
  | succ n ih =>
    obtain ⟨h, keys, w, hs, hshort, hw⟩ := ih
    have hlist : Worker.result (onHost (Host.list (η := ScriptedHost)))
        { w with host := hostAt n } = .ok (hostAt n).devices := rfl
    obtain ⟨records, hrecords⟩ := Worker.exists_records hlist
    obtain ⟨hkeys, hworker, -⟩ :=
      listDevices_succeeded (c := .default) (worker_moved hw) hrecords
    obtain ⟨h', hs', hshort'⟩ := hs.moved_listed hshort hw hkeys
    exact ⟨h', _, _, hs', hshort', hworker⟩

end Moving

/-- **There is a device without an address, though the host never has more than one**:
the device that was plugged in for the 255th time. -/
theorem exists_no_address :
    ∃ (h : List (Event ScriptedDevice)) (keys : List DeviceKey) (s : Scripted),
      Watched [] h keys s ∧ ShortLists h ∧
        ∃ key ∈ keys, ∃ device fault, s.device? key = some device ∧
          deviceAddress device = .error fault := by
  obtain ⟨h, keys, w, hs, hshort, hw⟩ := watched_moving 254
  have hkeys : result (listDevices .default) (moved 254 (moving 254)) = .ok [⟨254⟩] := by
    decide +kernel
  obtain ⟨h', hs', hshort'⟩ := hs.moved_listed hshort hw hkeys
  have haddress : ((moving 255).device? ⟨254⟩).map deviceAddress =
      some (.error (.noAddress ⟨255⟩)) := by
    decide +kernel
  obtain ⟨device, hdevice, hnone⟩ := Option.map_eq_some_iff.mp haddress
  exact ⟨h', _, _, hs', hshort', ⟨254⟩, .head _, device, _, hdevice, hnone⟩

end Session
end UsbHost
