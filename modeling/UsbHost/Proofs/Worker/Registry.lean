import Mathlib.Data.List.Nodup
import UsbHost.Proofs.Worker.Journal

/-! # The registry of devices

The worker keeps two tables of the devices it knows: the devices by their ids, and
the ids by the places where the devices are.  They are in step with each other, and
with the ids that were given out (`Registry.Accounted`); entering a device at a free
place and keeping only what is at some places leave them so.
-/
namespace UsbHost
namespace Worker

variable {η δ α β : Type}

/-- What a worker knows of devices, and which it lets pass. -/
structure Registry (δ : Type) where
  filters : List String
  devices : Table DeviceId (KnownDevice δ)
  locations : Table Location DeviceId
  nextDevice : UInt32

def registry (w : Worker η δ) : Registry δ where
  filters := w.filters
  devices := w.devices
  locations := w.locations
  nextDevice := w.nextDevice

/-! ## The two tables -/

/-- How many ids there are. -/
def idLimit : Nat := UInt32.size - 1

namespace Registry
variable {r : Registry δ} {given : List DeviceId} {id : DeviceId} {place : Location}
  {known : KnownDevice δ}

/-- A device is entered under the next id. -/
def enter (known : KnownDevice δ) (r : Registry δ) : Registry δ :=
  { r with
    nextDevice := r.nextDevice + 1
    locations := r.locations.put known.location ⟨r.nextDevice⟩
    devices := r.devices.put ⟨r.nextDevice⟩ known }

/-- Only the devices among `present` are kept. -/
def retain (present : List DeviceId) (r : Registry δ) : Registry δ :=
  { r with
    devices := r.devices.filter fun id _ => id ∈ present
    locations := r.locations.filter fun _ id => id ∈ present }

/-- The device that is known at a place. -/
def known? (r : Registry δ) (place : Location) : Option (KnownDevice δ) :=
  (r.locations.get? place).bind r.devices.get?

/-- The tables are in step with each other, and `given` are the ids that were
given out, one after the other. -/
structure Accounted (r : Registry δ) (given : List DeviceId) : Prop where
  located : ∀ place id, r.locations.get? place = some id ↔
    ∃ known, r.devices.get? id = some known ∧ known.location = place
  registered : ∀ id, r.devices.contains id → id ∈ given
  below : ∀ id ∈ given, id.value.toNat < r.nextDevice.toNat
  nodup : given.Nodup
  next : r.nextDevice.toNat = given.length + 1

theorem accounted_new (filters : List String) :
    Accounted (δ := δ) ⟨filters, .empty, .empty, 1⟩ [] where
  located place id := by simp
  registered id h := by simp [Table.contains] at h
  below id h := by simp at h
  nodup := .nil
  next := rfl

namespace Accounted

theorem registered_of_get? (acc : Accounted r given) (h : r.devices.get? id = some known) :
    id ∈ given :=
  acc.registered id (by rw [Table.contains, h]; rfl)

/-- The next id is not in use. -/
theorem ne_next (acc : Accounted r given) (h : id ∈ given) : id ≠ ⟨r.nextDevice⟩ := by
  rintro rfl
  exact Nat.lt_irrefl _ (acc.below _ h)

theorem get?_known (acc : Accounted r given) (h : r.locations.get? place = some id) :
    ∃ known, r.known? place = some known ∧ r.devices.get? id = some known ∧
      known.location = place := by
  obtain ⟨known, hknown, hplace⟩ := (acc.located place id).mp h
  exact ⟨known, by rw [known?, h]; exact hknown, hknown, hplace⟩

/-- Every id has one place. -/
theorem place_unique (acc : Accounted r given) {place' : Location}
    (h : r.locations.get? place = some id) (h' : r.locations.get? place' = some id) :
    place = place' := by
  obtain ⟨known, hknown, rfl⟩ := (acc.located place id).mp h
  obtain ⟨known', hknown', rfl⟩ := (acc.located place' id).mp h'
  rw [hknown] at hknown'
  cases hknown'
  rfl

/-- **A device may be entered at a place where none is known**, while there are
ids. -/
theorem enter (acc : Accounted r given) (free : r.locations.get? known.location = none)
    (room : given.length + 1 < idLimit) :
    Accounted (r.enter known) (given ++ [⟨r.nextDevice⟩]) := by
  -- There is room, so the next id does not wrap around.
  have hnext : (r.nextDevice + 1).toNat = r.nextDevice.toNat + 1 := by
    have hone : (1 : UInt32).toNat = 1 := rfl
    have hlimit : idLimit = 4294967295 := rfl
    have hcount := acc.next
    rw [UInt32.toNat_add, hone]
    omega
  refine ⟨fun place id => ?_, fun id h => ?_, fun id h => ?_, ?_, ?_⟩
  · show (r.locations.put _ _).get? place = some id ↔
      ∃ k, (r.devices.put _ known).get? id = some k ∧ k.location = place
    rw [Table.get?_put, Table.get?_put]
    by_cases hid : id = ⟨r.nextDevice⟩
    · subst hid
      by_cases hplace : place = known.location
      · simp [hplace]
      · have hold : r.locations.get? place ≠ some ⟨r.nextDevice⟩ := by
          intro h
          obtain ⟨k, hk, -⟩ := (acc.located place _).mp h
          exact acc.ne_next (acc.registered_of_get? hk) rfl
        simp [hplace, hold, Ne.symm hplace]
    · rw [if_neg hid, ← acc.located]
      by_cases hplace : place = known.location
      · subst hplace
        simp [free, Ne.symm hid]
      · rw [if_neg hplace]
  · rw [Table.contains] at h
    change ((r.devices.put _ known).get? id).isSome at h
    rw [Table.get?_put] at h
    by_cases hid : id = ⟨r.nextDevice⟩
    · exact List.mem_append_right _ (List.mem_singleton.mpr hid)
    · rw [if_neg hid] at h
      exact List.mem_append_left _ (acc.registered id h)
  · show id.value.toNat < (r.nextDevice + 1).toNat
    rw [hnext]
    rcases List.mem_append.mp h with h | h
    · have hlt := acc.below id h
      omega
    · rw [List.mem_singleton.mp h]
      exact Nat.lt_succ_self _
  · refine List.nodup_append.mpr ⟨acc.nodup, by simp, fun id h id' h' => ?_⟩
    rw [List.mem_singleton.mp h']
    exact acc.ne_next h
  · show (r.nextDevice + 1).toNat = _
    rw [hnext, acc.next, List.length_append, List.length_singleton]

/-- Forgetting devices keeps the tables in step. -/
theorem retain (acc : Accounted r given) (present : List DeviceId) :
    Accounted (r.retain present) given where
  located place id := by
    show (r.locations.filter _).get? place = some id ↔
      ∃ k, (r.devices.filter _).get? id = some k ∧ k.location = place
    rw [Table.get?_filter, Table.get?_filter, Option.filter_eq_some_iff, acc.located]
    constructor
    · rintro ⟨⟨known, hknown, hplace⟩, hid⟩
      exact ⟨known, Option.filter_eq_some_iff.mpr ⟨hknown, hid⟩, hplace⟩
    · rintro ⟨known, hknown, hplace⟩
      obtain ⟨hknown, hid⟩ := Option.filter_eq_some_iff.mp hknown
      exact ⟨⟨known, hknown, hplace⟩, hid⟩
  registered id h := by
    obtain ⟨known, hknown⟩ := Option.isSome_iff_exists.mp h
    have hknown : (r.devices.filter _).get? id = some known := hknown
    rw [Table.get?_filter] at hknown
    exact acc.registered_of_get? (Option.filter_eq_some_iff.mp hknown).1
  below := acc.below
  nodup := acc.nodup
  next := acc.next

/-- What is known after a device was entered. -/
theorem known?_enter (acc : Accounted r given) (place : Location) :
    (r.enter known).known? place =
      if place = known.location then some known else r.known? place := by
  show ((r.locations.put _ _).get? place).bind (r.devices.put _ known).get? = _
  rw [Table.get?_put]
  by_cases hplace : place = known.location
  · simp [hplace]
  · rw [if_neg hplace, if_neg hplace, known?]
    cases hid : r.locations.get? place with
    | none => rfl
    | some id =>
      obtain ⟨k, -, hk, -⟩ := acc.get?_known hid
      show (r.devices.put _ known).get? id = r.devices.get? id
      rw [Table.get?_put, if_neg (acc.ne_next (acc.registered_of_get? hk))]

end Accounted

theorem devices_retain (present : List DeviceId) (r : Registry δ) (id : DeviceId) :
    (r.retain present).devices.get? id = if id ∈ present then r.devices.get? id else none := by
  show (r.devices.filter _).get? id = _
  rw [Table.get?_filter]
  by_cases h : id ∈ present
  · rw [if_pos h]
    cases r.devices.get? id <;> simp [h]
  · rw [if_neg h]
    simp [h]

/-! ## What is at some places -/

/-- The ids of the devices at some places, in the order of the places. -/
def present (r : Registry δ) (places : List Location) : List DeviceId :=
  places.filterMap r.locations.get?

/-- The devices at some places, with their ids. -/
def listed (r : Registry δ) (places : List Location) : List (DeviceId × KnownDevice δ) :=
  (r.present places).filterMap fun id => (r.devices.get? id).map (id, ·)

theorem mem_present_iff {places : List Location} :
    id ∈ r.present places ↔ ∃ place ∈ places, r.locations.get? place = some id :=
  List.mem_filterMap

namespace Accounted

variable {places : List Location}

/-- Keeping the devices at some places keeps what is at these places. -/
theorem locations_retain (acc : Accounted r given) (places : List Location) (place : Location) :
    (r.retain (r.present places)).locations.get? place =
      if place ∈ places then r.locations.get? place else none := by
  show (r.locations.filter _).get? place = _
  rw [Table.get?_filter]
  cases hid : r.locations.get? place with
  | none => simp
  | some id =>
    have hmem : id ∈ r.present places ↔ place ∈ places := by
      rw [mem_present_iff]
      constructor
      · rintro ⟨place', hplace', hid'⟩
        exact acc.place_unique hid hid' ▸ hplace'
      · exact fun hplace => ⟨place, hplace, hid⟩
    by_cases hplace : place ∈ places
    · simp [hmem, hplace]
    · simp [hmem, hplace]

theorem present_retain (acc : Accounted r given) (places : List Location) :
    (r.retain (r.present places)).present places = r.present places := by
  refine List.filterMap_congr fun place hplace => ?_
  rw [acc.locations_retain, if_pos hplace]

theorem known?_retain (acc : Accounted r given) (places : List Location) (place : Location) :
    (r.retain (r.present places)).known? place =
      if place ∈ places then r.known? place else none := by
  rw [known?, acc.locations_retain]
  by_cases hplace : place ∈ places
  · rw [if_pos hplace, if_pos hplace, known?]
    cases hid : r.locations.get? place with
    | none => rfl
    | some id =>
      show (r.retain _).devices.get? id = r.devices.get? id
      rw [devices_retain, if_pos (mem_present_iff.mpr ⟨place, hplace, hid⟩)]
  · rw [if_neg hplace, if_neg hplace]
    rfl

/-- What is kept is exactly what is present. -/
theorem contains_retain_iff (acc : Accounted r given) (places : List Location) (id : DeviceId) :
    (r.retain (r.present places)).devices.contains id ↔ id ∈ r.present places := by
  rw [Table.contains, devices_retain]
  constructor
  · intro h
    by_contra hmem
    rw [if_neg hmem] at h
    cases h
  · intro hmem
    obtain ⟨place, -, hid⟩ := mem_present_iff.mp hmem
    obtain ⟨known, -, hknown, -⟩ := acc.get?_known hid
    rw [if_pos hmem, hknown]
    rfl

/-- No device is present twice. -/
theorem nodup_present (acc : Accounted r given) (distinct : places.Nodup) :
    (r.present places).Nodup :=
  distinct.filterMap fun _ _ _ h h' => acc.place_unique h h'

theorem map_fst_listed (acc : Accounted r given) (places : List Location) :
    (r.listed places).map (·.1) = r.present places := by
  have hfst : ∀ ids : List DeviceId, (∀ id ∈ ids, ∃ known, r.devices.get? id = some known) →
      (ids.filterMap fun id => (r.devices.get? id).map (id, ·)).map (·.1) = ids := by
    intro ids hids
    induction ids with
    | nil => rfl
    | cons id ids ih =>
      obtain ⟨known, hknown⟩ := hids id (.head _)
      rw [List.filterMap_cons, hknown]
      exact congrArg (id :: ·) (ih fun id hid => hids id (.tail _ hid))
  refine hfst _ fun id hid => ?_
  obtain ⟨place, -, hplace⟩ := mem_present_iff.mp hid
  obtain ⟨known, -, hknown, -⟩ := acc.get?_known hplace
  exact ⟨known, hknown⟩

theorem of_mem_listed (acc : Accounted r given) (h : (id, known) ∈ r.listed places) :
    known.location ∈ places ∧ r.locations.get? known.location = some id ∧
      r.known? known.location = some known := by
  obtain ⟨id', hid', hpair⟩ := List.mem_filterMap.mp h
  obtain ⟨known', hknown', heq⟩ := Option.map_eq_some_iff.mp hpair
  cases heq
  obtain ⟨place, hplace, hlocated⟩ := mem_present_iff.mp hid'
  obtain ⟨known', hat, hknown, rfl⟩ := acc.get?_known hlocated
  rw [hknown'] at hknown
  cases hknown
  exact ⟨hplace, hlocated, hat⟩

end Accounted

end Registry

end Worker
end UsbHost
