import UsbHost.Proofs.Platform.Addresses
import UsbHost.Proofs.Worker.Connections

/-! # What a descriptor says of its device

The registry has every device with what the device itself tells
(`Worker.Reachable.descriptor_of_known`), and a list shows what the registry has.  So
the descriptor of a listed device has the ids that the device tells.  Its release
number goes through the three parts of a `Version` and comes out of them unchanged
exactly below 0x1000 (`Session.listDevices_identifies`): from 10.00 on, the two digits
of the major number are put together as a decimal and written as a byte.
-/
namespace UsbHost

/-! ## Release numbers -/

namespace Version

/-- A digit of a number that is read as hexadecimal. -/
theorem toNat_digit {shift : UInt16} (h : shift.toNat < 16) (bcd : UInt16) :
    (((bcd >>> shift) &&& 0x0F).toUInt8).toNat = bcd.toNat >>> shift.toNat % 16 := by
  have h15 : (0x0F : UInt16).toNat = 2 ^ 4 - 1 := rfl
  rw [UInt16.toNat_toUInt8, UInt16.toNat_and, h15, Nat.and_two_pow_sub_one_eq_mod,
    UInt16.toNat_shiftRight, Nat.mod_eq_of_lt h]
  omega

/-- The major number and the digits stand side by side. -/
theorem toNat_toWord (v : Version) :
    v.toWord.toNat = v.major.toNat * 256 + v.minor.toNat % 16 * 16 + v.sub.toNat % 16 := by
  have hmajor := v.major.toNat_lt
  have hdigit (x : UInt8) : ((x &&& 0x0F).toUInt16).toNat = x.toNat % 16 := by
    rw [UInt8.toNat_toUInt16, UInt8.toNat_and]
    exact Nat.and_two_pow_sub_one_eq_mod x.toNat 4
  have hhigh : (v.major.toUInt16 <<< 8).toNat = v.major.toNat <<< 8 := by
    rw [UInt16.toNat_shiftLeft, UInt8.toNat_toUInt16, Nat.mod_eq_of_lt]
    · rfl
    · rw [Nat.shiftLeft_eq]
      show v.major.toNat * 256 < 65536
      omega
  have hmiddle : ((v.minor &&& 0x0F).toUInt16 <<< 4).toNat = (v.minor.toNat % 16) <<< 4 := by
    rw [UInt16.toNat_shiftLeft, hdigit, Nat.mod_eq_of_lt]
    · rfl
    · rw [Nat.shiftLeft_eq]
      show v.minor.toNat % 16 * 16 < 65536
      omega
  have hminor : (v.minor.toNat % 16) <<< 4 < 2 ^ 8 := by
    rw [Nat.shiftLeft_eq]
    omega
  have hsub : v.sub.toNat % 16 < 2 ^ 4 := Nat.mod_lt _ (by decide)
  rw [toWord, UInt16.toNat_or, UInt16.toNat_or, hhigh, hmiddle, hdigit, Nat.or_assoc,
    ← Nat.shiftLeft_add_eq_or_of_lt hsub, ← Nat.shiftLeft_add_eq_or_of_lt (by
      rw [Nat.shiftLeft_eq]; omega), Nat.shiftLeft_eq, Nat.shiftLeft_eq, Nat.add_assoc]

/-- **The word of a release number** falls short of it by 0x600 for every unit of the
top digit, which counts ten where it stands for sixteen. -/
theorem toNat_toWord_ofBcd (bcd : UInt16) :
    (ofBcd bcd).toWord.toNat = bcd.toNat - 0x600 * (bcd.toNat / 0x1000) := by
  have hbcd := bcd.toNat_lt
  have hten : (10 : UInt8).toNat = 10 := rfl
  have h0 : (((bcd >>> 0) &&& 0x0F).toUInt8).toNat = bcd.toNat >>> 0 % 16 :=
    toNat_digit (by decide) bcd
  have h4 : (((bcd >>> 4) &&& 0x0F).toUInt8).toNat = bcd.toNat >>> 4 % 16 :=
    toNat_digit (by decide) bcd
  have h8 : (((bcd >>> 8) &&& 0x0F).toUInt8).toNat = bcd.toNat >>> 8 % 16 :=
    toNat_digit (by decide) bcd
  have h12 : (((bcd >>> 12) &&& 0x0F).toUInt8).toNat = bcd.toNat >>> 12 % 16 :=
    toNat_digit (by decide) bcd
  rw [toNat_toWord, ofBcd]
  dsimp only
  rw [UInt8.toNat_add, UInt8.toNat_mul, hten, h0, h4, h8, h12]
  -- With the top digit at most 15 no byte overflows.
  have htop : bcd.toNat >>> 12 % 16 = bcd.toNat / 0x1000 := by omega
  have hmajor : (bcd.toNat >>> 8 % 16 + 10 * (bcd.toNat / 0x1000) % 2 ^ 8) % 2 ^ 8 =
      bcd.toNat >>> 8 % 16 + 10 * (bcd.toNat / 0x1000) := by omega
  rw [htop, hmajor]
  omega

theorem toWord_ofBcd_eq_iff (bcd : UInt16) : (ofBcd bcd).toWord = bcd ↔ bcd < 0x1000 := by
  have hlt : bcd < 0x1000 ↔ bcd.toNat < 0x1000 := UInt16.lt_iff_toNat_lt
  rw [hlt, ← UInt16.toNat_inj, toNat_toWord_ofBcd]
  have hbcd := bcd.toNat_lt
  omega

end Version
namespace Worker
variable {η δ : Type} [Host η δ] {w : Worker η δ} {found : List δ} {id : DeviceId}
  {known : KnownDevice δ}

/-! ## What the registry has of a device -/

theorem known_of_identify {device : δ}
    (h : (after (identify device) w).registry.devices.get? id = some known) :
    w.registry.devices.get? id = some known ∨
      admitted? η w.registry.filters device = some known := by
  rcases identify_cases device w with ⟨_, -, -, hw⟩ | ⟨-, -, -, hw⟩ |
    ⟨entered, -, hadmitted, -, hw⟩
  · exact .inl (hw ▸ h)
  · exact .inl (hw ▸ h)
  · rw [hw] at h
    change (w.registry.devices.put _ entered).get? id = some known at h
    rw [Table.get?_put] at h
    split at h
    · exact .inr (h ▸ hadmitted)
    · exact .inl h

theorem known_of_identified {devices : List δ}
    (h : (after (devices.mapM identify) w).registry.devices.get? id = some known) :
    w.registry.devices.get? id = some known ∨
      ∃ device ∈ devices, admitted? η w.registry.filters device = some known := by
  induction devices generalizing w with
  | nil => exact .inl h
  | cons device devices ih =>
    rw [after_mapM_cons] at h
    rcases ih h with hold | ⟨d, hd, hadmitted⟩
    · rcases known_of_identify hold with hold | hadmitted
      · exact .inl hold
      · exact .inr ⟨device, .head _, hadmitted⟩
    · rw [filters_identify] at hadmitted
      exact .inr ⟨d, .tail _ hd, hadmitted⟩

/-- **What is known after an enumeration** was known before, or was found by it. -/
theorem known_of_getDevices (h : result (onHost Host.list) w = .ok found)
    (hknown : (after getDevices w).registry.devices.get? id = some known) :
    w.registry.devices.get? id = some known ∨
      ∃ device ∈ found, admitted? η w.registry.filters device = some known := by
  rw [(getDevices_kept h).1, Registry.devices_retain] at hknown
  split at hknown
  · exact known_of_identified (w := after (onHost Host.list) w) hknown
  · cases hknown

/-- **A known device is known with what it tells itself.** -/
theorem Reachable.descriptor_of_known (hw : Reachable w)
    (h : w.registry.devices.get? id = some known) :
    Host.descriptor η known.device = .ok known.descriptor := by
  induction hw generalizing id known with
  | new host filters => exact absurd h (by simp [registry])
  | @perform w _ command ih =>
    by_cases hlist : command = .getDevices
    · subst hlist
      change (after getDevices w).registry.devices.get? id = some known at h
      cases hfound : result (onHost Host.list) w with
      | error e =>
        rw [(getDevices_refused hfound).2] at h
        exact ih h
      | ok found =>
        rcases known_of_getDevices hfound h with h | ⟨device, -, hadmitted⟩
        · exact ih h
        · obtain ⟨rfl, -, hread, -⟩ := admitted?_eq_some hadmitted
          exact hread
    · rw [KeepsRegistry.perform hlist] at h
      exact ih h
  | beginTransfer _ id request ih =>
    rw [KeepsRegistry.beginTransfer] at h
    exact ih h
  | finishTransfer _ job _ ih =>
    rw [KeepsRegistry.finishTransfer] at h
    exact ih h
  | hostChange _ host ih => exact ih h

/-- Every record of a list shows a device that is known then. -/
theorem exists_known_of_record (h : result (onHost Host.list) w = .ok found) :
    ∃ records, result getDevices w = .succeeded records ∧ ∀ r ∈ records, ∃ known,
      (after getDevices w).registry.devices.get? r.device = some known ∧
        Shows (r.device, known) r := by
  obtain ⟨-, records, hrecords, hshows⟩ := getDevices_kept h
  refine ⟨records, hrecords, fun r hr => ?_⟩
  obtain ⟨⟨id, known⟩, hmem, hshow⟩ := exists_of_forall₂ hshows hr
  obtain ⟨id', -, hpair⟩ := List.mem_filterMap.mp hmem
  obtain ⟨known', hknown, heq⟩ := Option.map_eq_some_iff.mp hpair
  cases heq
  have hid : r.device = id := hshow.device
  exact ⟨known, hid ▸ hknown, hid ▸ hshow⟩

end Worker

namespace Session
open Worker (onHost)

section Listing
variable {η δ κ : Type} [Host η δ] {s : Session (UsbPlatform η δ) κ} {w : Worker η δ}
  {found : List δ}

/-! ## Descriptors of listed devices -/

/-- **The descriptor of a listed device has the ids that the device tells, and its
release number exactly below 0x1000.**  The device is one of the host's list, or one
that was known before under its id. -/
theorem listDevices_identifies (hw : s.platform.worker = some w) (reachable : w.Reachable)
    (hfound : Worker.result (onHost Host.list) w = .ok found) (c : ContextId) :
    ∃ keys w', result (listDevices c) s = .ok keys ∧
      (after (listDevices c) s).platform.worker = some w' ∧
      ∀ key ∈ keys, ∃ device known own,
        (after (listDevices c) s).device? key = some device ∧
        w'.devices.get? device.record.device = some known ∧
        (known.device ∈ found ∨ w.devices.get? device.record.device = some known) ∧
        Host.descriptor η known.device = .ok own ∧
        (deviceDescriptor device).vendor = own.vendor ∧
        (deviceDescriptor device).product = own.product ∧
        (deviceDescriptor device).deviceVersion.toNat =
          own.release.toNat - 0x600 * (own.release.toNat / 0x1000) ∧
        ((deviceDescriptor device).deviceVersion = own.release ↔ own.release < 0x1000) := by
  obtain ⟨records, hrecords, hknown⟩ := Worker.exists_known_of_record hfound
  obtain ⟨hkeys, hworker, hdevices⟩ := listDevices_succeeded (c := c) hw hrecords
  refine ⟨_, _, hkeys, hworker, fun key hkey => ?_⟩
  -- A new key leads to the device that was made of a record.
  obtain ⟨n, hn, rfl⟩ := List.mem_map.mp hkey
  obtain ⟨i, hi, rfl⟩ := List.mem_range'.mp hn
  have hdevice : (after (listDevices c) s).device? ⟨s.devices.length + 1 * i⟩ =
      some { context := c, record := records[i] } := by
    simp [device?, hdevices, hi]
  obtain ⟨known, hget, hshow⟩ := hknown _ (List.getElem_mem hi)
  have hafter : (Worker.after Worker.getDevices w).Reachable := reachable.perform .getDevices
  have hversion : (deviceDescriptor { context := c, record := records[i] }).deviceVersion =
      (Version.ofBcd known.descriptor.release).toWord := by
    show records[i].version.getD 0 = _
    rw [hshow.version]
    rfl
  refine ⟨_, known, _, hdevice, hget, ?_, hafter.descriptor_of_known hget, hshow.vendor,
    hshow.product, ?_, ?_⟩
  · rcases Worker.known_of_getDevices hfound hget with hold | ⟨device, hmem, hadmitted⟩
    · exact .inr hold
    · obtain ⟨rfl, -⟩ := Worker.admitted?_eq_some hadmitted
      exact .inl hmem
  · rw [hversion, Version.toNat_toWord_ofBcd]
  · rw [hversion, Version.toWord_ofBcd_eq_iff]

end Listing

/-- A device of a given release. -/
def releasedDevice (release : UInt16) : ScriptedDevice where
  location := ⟨1, 1⟩
  descriptor := .ok ⟨0x1234, 0x5678, release, none, none, none, 0⟩
  strings := []
  configs := []
  active := .error 0

/-- A session whose host has just this device. -/
def released (release : UInt16) : Scripted :=
  { platform := .start { devices := [releasedDevice release] } 0 [] }

/-- Before anything was listed. -/
def unlisted (release : UInt16) : Worker ScriptedHost ScriptedDevice :=
  { host := { devices := [releasedDevice release] } }

/-- A device of release 2.10 is identified. -/
theorem identified_release_0210 :
    (released 0x0210).platform.worker = some (unlisted 0x0210) ∧ (unlisted 0x0210).Reachable ∧
      Worker.result (onHost Host.list) (unlisted 0x0210) = .ok [releasedDevice 0x0210] ∧
      result (listDevices .default) (released 0x0210) = .ok [⟨0⟩] ∧
      ∃ device, (after (listDevices .default) (released 0x0210)).device? ⟨0⟩ = some device ∧
        (deviceDescriptor device).vendor = 0x1234 ∧ (deviceDescriptor device).product = 0x5678 ∧
        (deviceDescriptor device).deviceVersion = 0x0210 := by
  have hw : (released 0x0210).platform.worker = some (unlisted 0x0210) := rfl
  have reachable : (unlisted 0x0210).Reachable := .new _ _
  have hfound : Worker.result (onHost Host.list) (unlisted 0x0210) =
      .ok [releasedDevice 0x0210] := rfl
  have hkeys : result (listDevices .default) (released 0x0210) = .ok [⟨0⟩] := by decide +kernel
  obtain ⟨keys, w', hkeys', -, hall⟩ := listDevices_identifies hw reachable hfound .default
  cases hkeys.symm.trans hkeys'
  obtain ⟨device, known, own, hdevice, -, hfrom, hread, hvendor, hproduct, -, hiff⟩ :=
    hall ⟨0⟩ (.head _)
  have hone : known.device = releasedDevice 0x0210 := by
    rcases hfrom with hmem | hold
    · exact List.mem_singleton.mp hmem
    · exact absurd hold (by simp [unlisted])
  rw [hone] at hread
  cases hread
  exact ⟨hw, reachable, hfound, hkeys, device, hdevice, hvendor, hproduct, hiff.mpr (by decide)⟩

/-- **A device of release 12.34 is not identified**: its descriptor says 0x0c34. -/
theorem exists_unidentified_release :
    result (listDevices .default) (released 0x1234) = .ok [⟨0⟩] ∧
      ∃ device own, (after (listDevices .default) (released 0x1234)).device? ⟨0⟩ = some device ∧
        Host.descriptor ScriptedHost (releasedDevice 0x1234) = .ok own ∧
        own.release = 0x1234 ∧ (deviceDescriptor device).deviceVersion = 0x0c34 := by
  have hversion : ((after (listDevices .default) (released 0x1234)).device? ⟨0⟩).map
      (deviceDescriptor · |>.deviceVersion) = some 0x0c34 := by decide +kernel
  obtain ⟨device, hdevice, hversion⟩ := Option.map_eq_some_iff.mp hversion
  exact ⟨by decide +kernel, device, _, hdevice, rfl, rfl, hversion⟩

end Session
end UsbHost
