import Mathlib.Data.List.Forall2
import UsbHost.Proofs.Worker.Scope

/-! # Identifying devices

An enumeration goes through the host's list device by device.  `identify_cases`
says what becomes of one: it is at a place that is known, or it is passed over, or
it is entered.  From it come the ids that are given out, and what is known of a
place after a whole list (`known?_identified`).  `getDevices_listed` is what the
enumeration as a whole does and answers.
-/
namespace UsbHost
namespace Worker

variable {η δ α β : Type}

/-! ## One device -/

section Identifying
variable [Host η δ]

variable (η) in
/-- What a device is to be known as; nothing if its descriptor cannot be read or the
filters hold it back. -/
def admitted? (filters : List String) (device : δ) : Option (KnownDevice δ) :=
  match Host.descriptor η device with
  | .error _ => none
  | .ok descriptor =>
    if Filter.allow filters descriptor.vendor descriptor.product then
      some { device, location := Host.location η device, descriptor }
    else none

variable {w : Worker η δ} {device : δ} {filters : List String} {given : List DeviceId}
  {id : DeviceId} {place : Location} {known : KnownDevice δ}

theorem admitted?_eq_some (h : admitted? η filters device = some known) :
    known.device = device ∧ known.location = Host.location η device ∧
      Host.descriptor η device = .ok known.descriptor ∧
      Filter.allow filters known.descriptor.vendor known.descriptor.product = true := by
  unfold admitted? at h
  cases hread : Host.descriptor η device with
  | error e =>
    rw [hread] at h
    cases h
  | ok descriptor =>
    rw [hread] at h
    dsimp only at h
    split at h
    · case isTrue hallow =>
      cases h
      exact ⟨rfl, rfl, rfl, hallow⟩
    · cases h

/-- **What becomes of a device** of the host's list: it is at a place that is known,
or it is passed over, or it is entered. -/
theorem identify_cases (device : δ) (w : Worker η δ) :
    (∃ id, w.registry.locations.get? (Host.location η device) = some id ∧
      result (identify device) w = some id ∧
      (after (identify device) w).registry = w.registry) ∨
    (w.registry.locations.get? (Host.location η device) = none ∧
      admitted? η w.registry.filters device = none ∧ result (identify device) w = none ∧
      (after (identify device) w).registry = w.registry) ∨
    ∃ known, w.registry.locations.get? (Host.location η device) = none ∧
      admitted? η w.registry.filters device = some known ∧
      result (identify device) w = some ⟨w.registry.nextDevice⟩ ∧
      (after (identify device) w).registry = w.registry.enter known := by
  unfold identify
  rw [result_bind, after_bind, result_get, after_get]
  dsimp only
  cases hplace : w.locations.get? (Host.location η device) with
  | some id => exact .inl ⟨id, hplace, rfl, rfl⟩
  | none =>
    refine .inr ?_
    unfold admitted?
    cases hread : Host.descriptor η device with
    | error e => exact .inl ⟨hplace, rfl, rfl, rfl⟩
    | ok descriptor =>
      dsimp only
      by_cases hallow : Filter.allow w.filters descriptor.vendor descriptor.product = true
      · rw [if_pos hallow]
        exact .inr ⟨_, hplace, if_pos hallow, rfl, rfl⟩
      · rw [if_neg hallow]
        exact .inl ⟨hplace, if_neg hallow, rfl, rfl⟩

/-- The ids that identifying a device gives out. -/
def newIds (device : δ) (w : Worker η δ) : List DeviceId :=
  match w.registry.locations.get? (Host.location η device) with
  | some _ => []
  | none => (result (identify device) w).toList

theorem accounted_identify (acc : w.registry.Accounted given)
    (room : (given ++ newIds device w).length < idLimit) :
    (after (identify device) w).registry.Accounted (given ++ newIds device w) := by
  revert room
  unfold newIds
  rcases identify_cases device w with ⟨id, hplace, -, hw⟩ | ⟨hplace, -, hnone, hw⟩ |
    ⟨known, hplace, hadmitted, hid, hw⟩
  · rw [hplace, hw, List.append_nil]
    exact fun _ => acc
  · rw [hplace, hw, hnone, Option.toList_none, List.append_nil]
    exact fun _ => acc
  · rw [hplace, hw, hid, Option.toList_some]
    obtain ⟨-, hlocation, -⟩ := admitted?_eq_some hadmitted
    intro room
    rw [List.length_append, List.length_singleton] at room
    exact acc.enter (hlocation ▸ hplace) room

@[simp] theorem filters_identify (device : δ) (w : Worker η δ) :
    (after (identify device) w).registry.filters = w.registry.filters := by
  rcases identify_cases device w with ⟨id, -, -, hw⟩ | ⟨-, -, -, hw⟩ | ⟨known, -, -, -, hw⟩
  all_goals rw [hw]
  rfl

/-- Other places are not touched. -/
theorem locations_identify_of_ne (h : place ≠ Host.location η device) :
    (after (identify device) w).registry.locations.get? place =
      w.registry.locations.get? place := by
  rcases identify_cases device w with ⟨id, -, -, hw⟩ | ⟨-, -, -, hw⟩ | ⟨known, -, hadmitted, -, hw⟩
  · rw [hw]
  · rw [hw]
  · obtain ⟨-, hlocation, -⟩ := admitted?_eq_some hadmitted
    rw [hw]
    show (w.registry.locations.put _ _).get? place = _
    rw [Table.get?_put, if_neg (hlocation ▸ h)]

/-- A place that is known keeps its id. -/
theorem locations_identify_of_known (h : w.registry.locations.get? place = some id) :
    (after (identify device) w).registry.locations.get? place = some id := by
  by_cases hplace : place = Host.location η device
  · subst hplace
    rcases identify_cases device w with ⟨id, -, -, hw⟩ | ⟨-, -, -, hw⟩ | ⟨known, hnone, -⟩
    · rw [hw, h]
    · rw [hw, h]
    · rw [h] at hnone
      cases hnone
  · rw [locations_identify_of_ne hplace, h]

/-- What comes of it is what the registry has then. -/
theorem result_identify (device : δ) (w : Worker η δ) :
    result (identify device) w =
      (after (identify device) w).registry.locations.get? (Host.location η device) := by
  rcases identify_cases device w with ⟨id, hplace, hid, hw⟩ | ⟨hplace, -, hid, hw⟩ |
    ⟨known, -, hadmitted, hid, hw⟩
  · rw [hw, hid, hplace]
  · rw [hw, hid, hplace]
  · obtain ⟨-, hlocation, -⟩ := admitted?_eq_some hadmitted
    rw [hw, hid, ← hlocation]
    exact (Table.get?_put_self ..).symm

theorem known?_identify (acc : w.registry.Accounted given) (device : δ) (place : Location) :
    (after (identify device) w).registry.known? place =
      if place = Host.location η device then
        (w.registry.known? place).or (admitted? η w.registry.filters device)
      else w.registry.known? place := by
  rcases identify_cases device w with ⟨id, hplace, -, hw⟩ | ⟨-, hnone, -, hw⟩ |
    ⟨known, hplace, hadmitted, -, hw⟩
  · obtain ⟨known, hknown, -⟩ := acc.get?_known hplace
    rw [hw]
    split
    · case isTrue h => rw [h, hknown, Option.some_or]
    · rfl
  · rw [hw, hnone, Option.or_none, ite_self]
  · obtain ⟨-, hlocation, -⟩ := admitted?_eq_some hadmitted
    rw [hw, acc.known?_enter, hlocation, hadmitted]
    split
    · case isTrue h =>
      have hunknown : w.registry.known? place = none := by
        rw [Registry.known?, h, hplace]
        rfl
      rw [hunknown, Option.none_or]
    · rfl

/-! ## A list of devices -/

omit [Host η δ] in
theorem after_mapM_cons (f : α → WorkerM η δ β) (a : α) (as : List α) (w : Worker η δ) :
    after ((a :: as).mapM f) w = after (as.mapM f) (after (f a) w) := by
  rw [List.mapM_cons]
  rfl

omit [Host η δ] in
theorem result_mapM_cons (f : α → WorkerM η δ β) (a : α) (as : List α) (w : Worker η δ) :
    result ((a :: as).mapM f) w = result (f a) w :: result (as.mapM f) (after (f a) w) := by
  rw [List.mapM_cons]
  rfl

omit [Host η δ] in
/-- What holds of each result holds of them all. -/
theorem forall₂_result_mapM {P : α → β → Prop} {f : α → WorkerM η δ β}
    (h : ∀ a w, P a (result (f a) w)) (as : List α) (w : Worker η δ) :
    List.Forall₂ P as (result (as.mapM f) w) := by
  induction as generalizing w with
  | nil => exact .nil
  | cons a as ih =>
    rw [result_mapM_cons]
    exact .cons (h a w) (ih _)

/-- The ids that identifying devices one after the other gives out. -/
def givenOut : List δ → Worker η δ → List DeviceId
  | [], _ => []
  | device :: devices, w => newIds device w ++ givenOut devices (after (identify device) w)

theorem accounted_identified {devices : List δ} (acc : w.registry.Accounted given)
    (room : (given ++ givenOut devices w).length < idLimit) :
    (after (devices.mapM identify) w).registry.Accounted (given ++ givenOut devices w) := by
  induction devices generalizing w given with
  | nil => exact (List.append_nil given).symm ▸ acc
  | cons device devices ih =>
    rw [givenOut, ← List.append_assoc] at room ⊢
    rw [after_mapM_cons]
    rw [List.length_append] at room
    exact ih (accounted_identify acc (by omega)) (by rwa [List.length_append])

theorem filters_identified (devices : List δ) (w : Worker η δ) :
    (after (devices.mapM identify) w).registry.filters = w.registry.filters := by
  induction devices generalizing w with
  | nil => rfl
  | cons device devices ih => rw [after_mapM_cons, ih, filters_identify]

theorem locations_identified_of_not_mem {devices : List δ}
    (h : place ∉ devices.map (Host.location η)) :
    (after (devices.mapM identify) w).registry.locations.get? place =
      w.registry.locations.get? place := by
  induction devices generalizing w with
  | nil => rfl
  | cons device devices ih =>
    rw [List.map_cons, List.mem_cons, not_or] at h
    rw [after_mapM_cons, ih h.2, locations_identify_of_ne h.1]

theorem locations_identified_of_known (h : w.registry.locations.get? place = some id)
    (devices : List δ) :
    (after (devices.mapM identify) w).registry.locations.get? place = some id := by
  induction devices generalizing w with
  | nil => exact h
  | cons device devices ih =>
    rw [after_mapM_cons]
    exact ih (locations_identify_of_known h)

/-- Devices at distinct places do not get in each other's way. -/
theorem result_identified {devices : List δ} (distinct : (devices.map (Host.location η)).Nodup)
    (w : Worker η δ) :
    result (devices.mapM identify) w = (devices.map (Host.location η)).map
      (after (devices.mapM identify) w).registry.locations.get? := by
  induction devices generalizing w with
  | nil => rfl
  | cons device devices ih =>
    obtain ⟨hnew, distinct⟩ := List.nodup_cons.mp distinct
    rw [result_mapM_cons, after_mapM_cons, List.map_cons, List.map_cons, ih distinct,
      locations_identified_of_not_mem hnew, result_identify]

/-- **What is known of a place after a list of devices**: what was known of it, or
else the device of the list that is there, if it is admitted. -/
theorem known?_identified {devices : List δ} (acc : w.registry.Accounted given)
    (room : (given ++ givenOut devices w).length < idLimit)
    (distinct : (devices.map (Host.location η)).Nodup) (place : Location) :
    (after (devices.mapM identify) w).registry.known? place =
      (w.registry.known? place).or ((devices.find? (Host.location η · = place)).bind
        (admitted? η w.registry.filters)) := by
  induction devices generalizing w given with
  | nil => exact (Option.or_none ..).symm
  | cons device devices ih =>
    obtain ⟨hnew, distinct⟩ := List.nodup_cons.mp distinct
    rw [givenOut, ← List.append_assoc] at room
    have hone : (given ++ newIds device w).length < idLimit := by
      rw [List.length_append] at room
      omega
    rw [after_mapM_cons, ih (accounted_identify acc hone) room distinct, known?_identify acc,
      filters_identify, List.find?_cons]
    by_cases hplace : place = Host.location η device
    · -- The rest of the list has no device at this place.
      subst hplace
      have hrest : devices.find? (Host.location η · = Host.location η device) = none := by
        rw [List.find?_eq_none]
        intro d hd heq
        exact hnew (List.mem_map.mpr ⟨d, hd, of_decide_eq_true heq⟩)
      rw [if_pos rfl, hrest, decide_eq_true rfl, Option.bind_none, Option.or_none,
        Option.bind_some]
    · rw [if_neg hplace, decide_eq_false (Ne.symm hplace)]

/-! ## An enumeration -/

/-- A record shows a device under its id. -/
structure Shows (known : DeviceId × KnownDevice δ) (r : DeviceRecord) : Prop where
  device : r.device = known.1
  vendor : r.vendor = known.2.descriptor.vendor
  product : r.product = known.2.descriptor.product
  version : r.version = some (Version.ofBcd known.2.descriptor.release).toWord

/-- A record shows its device, whether or not the device can be opened. -/
theorem shows_recordOf (known : DeviceId × KnownDevice δ) (w : Worker η δ) :
    Shows known (result (recordOf known.1 known.2) w) := by
  unfold recordOf
  rw [result_bind]
  cases result (openHandle known.2.device) w with
  | error e => exact ⟨rfl, rfl, rfl, rfl⟩
  | ok handle => exact ⟨rfl, rfl, rfl, rfl⟩

/-- What an enumeration gives out when the host has a list. -/
def newlyGiven (found : List δ) (w : Worker η δ) : List DeviceId :=
  givenOut found (after (onHost (Host.list (η := η))) w)

/-- What is known when the devices of the host's list were identified. -/
def identified (found : List δ) (w : Worker η δ) : Registry δ :=
  (after (found.mapM identify) (after (onHost (Host.list (η := η))) w)).registry

section Enumerating
variable {found : List δ} {e : HostError}

/-- An enumeration that the host refuses changes nothing that is known. -/
theorem getDevices_refused (h : result (onHost Host.list) w = .error e) :
    result getDevices w = .failed s!"enumeration failed: {e.message}" ∧
      (after getDevices w).registry = w.registry := by
  unfold getDevices
  rw [result_bind, after_bind, h]
  exact ⟨rfl, rfl⟩

/-- The ids that identifying the devices of the host's list comes to. -/
def presentIn (found : List δ) (w : Worker η δ) : List DeviceId :=
  (result (found.mapM identify) (after (onHost (Host.list (η := η))) w)).filterMap fun id => id

/-- An enumeration keeps what it has identified, and shows what it keeps. -/
theorem getDevices_kept (h : result (onHost Host.list) w = .ok found) :
    (after getDevices w).registry = (identified found w).retain (presentIn found w) ∧
      ∃ records, result getDevices w = .succeeded records ∧
        List.Forall₂ Shows
          ((presentIn found w).filterMap fun id =>
            ((after getDevices w).registry.devices.get? id).map (id, ·)) records := by
  have hkeeps (known : List (DeviceId × KnownDevice δ)) :
      KeepsRegistry (known.mapM fun entry => recordOf (η := η) entry.1 entry.2) :=
    (StaysWithin.mapM (fun _ => .recordOf _ _) known).keepsRegistry
  have hregistry : (after getDevices w).registry =
      (identified found w).retain (presentIn found w) := by
    unfold getDevices
    rw [after_bind, h]
    dsimp only
    rw [after_bind, after_bind, after_modify, after_bind, after_get]
    exact hkeeps _ _
  refine ⟨hregistry, ?_⟩
  rw [hregistry]
  unfold getDevices
  rw [result_bind, h]
  dsimp only
  rw [result_bind, result_bind, after_modify, result_bind, result_get, after_get, result_bind]
  exact ⟨_, rfl, forall₂_result_mapM shows_recordOf _ _⟩

/-- **An enumeration keeps what is at the places of the host's list, and shows it.** -/
theorem getDevices_listed (acc : w.registry.Accounted given)
    (h : result (onHost Host.list) w = .ok found)
    (distinct : (found.map (Host.location η)).Nodup)
    (room : (given ++ newlyGiven found w).length < idLimit) :
    (after getDevices w).registry =
        (identified found w).retain
          ((identified found w).present (found.map (Host.location η))) ∧
      ∃ records, result getDevices w = .succeeded records ∧
        List.Forall₂ Shows
          ((after getDevices w).registry.listed (found.map (Host.location η))) records := by
  have hpresent : presentIn found w =
      (identified found w).present (found.map (Host.location η)) := by
    rw [presentIn, result_identified distinct, List.filterMap_map]
    rfl
  have hacc : (identified found w).Accounted (given ++ newlyGiven found w) :=
    accounted_identified acc room
  obtain ⟨hregistry, records, hrecords, hshows⟩ := getDevices_kept h
  rw [hpresent] at hregistry hshows
  refine ⟨hregistry, records, hrecords, ?_⟩
  have hplaces := hacc.present_retain (found.map (Host.location η))
  rw [← hregistry] at hplaces
  rw [Registry.listed, hplaces]
  exact hshows

end Enumerating

end Identifying

end Worker
end UsbHost
