import UsbHost.Host

/-! # Records that have descriptors

A descriptor holds its counts in one byte, and says of an isochronous endpoint how it
keeps its clock and what it is for.  The records that have a descriptor are those that
keep within this (`isOk_ofConfig_iff`).  The endpoints that a host tells of always do,
whatever their attribute byte; so of a host's configuration only the counts matter
(`HostConfig.isExpressible_toRecord_iff`).
-/
namespace UsbHost

/-! ## What a descriptor can say -/

/-- An isochronous endpoint has a synchronization and a usage. -/
def EndpointRecord.IsComplete (r : EndpointRecord) : Prop :=
  r.kind = .isochronous → r.synchronization.isSome ∧ r.usage.isSome

/-- The endpoints can be counted, and each of them is complete. -/
structure InterfaceRecord.IsExpressible (r : InterfaceRecord) : Prop where
  endpoints_length_le : r.endpoints.length ≤ 255
  isComplete : ∀ e ∈ r.endpoints, e.IsComplete

/-- The interfaces can be counted, and each of them is expressible. -/
structure ConfigRecord.IsExpressible (r : ConfigRecord) : Prop where
  interfaces_length_le : r.interfaces.length ≤ 255
  isExpressible : ∀ i ∈ r.interfaces, i.IsExpressible

theorem InterfaceRecord.isExpressible_iff {r : InterfaceRecord} :
    r.IsExpressible ↔ r.endpoints.length ≤ 255 ∧ ∀ e ∈ r.endpoints, e.IsComplete :=
  ⟨fun h => ⟨h.endpoints_length_le, h.isComplete⟩, fun h => ⟨h.1, h.2⟩⟩

theorem ConfigRecord.isExpressible_iff {r : ConfigRecord} :
    r.IsExpressible ↔ r.interfaces.length ≤ 255 ∧ ∀ i ∈ r.interfaces, i.IsExpressible :=
  ⟨fun h => ⟨h.interfaces_length_le, h.isExpressible⟩, fun h => ⟨h.1, h.2⟩⟩

namespace Descriptor

section Programs
variable {ε α β : Type}

theorem isOk_bind_iff {x : Except ε α} {f : α → Except ε β} :
    (x >>= f).isOk ↔ ∃ a, x = .ok a ∧ (f a).isOk := by
  cases x with
  | ok a => exact ⟨fun h => ⟨a, rfl, h⟩, fun ⟨_, heq, h⟩ => Except.ok.inj heq ▸ h⟩
  | error e => exact ⟨fun h => (Bool.false_ne_true h).elim, fun ⟨_, heq, _⟩ => nomatch heq⟩

theorem isOk_iff_exists {x : Except ε α} : x.isOk ↔ ∃ a, x = .ok a := by
  cases x with
  | ok a => exact ⟨fun _ => ⟨a, rfl⟩, fun _ => rfl⟩
  | error e => exact ⟨fun h => (Bool.false_ne_true h).elim, fun ⟨_, heq⟩ => nomatch heq⟩

theorem exists_error_iff {x : Except ε α} : (∃ e, x = .error e) ↔ ¬ x.isOk := by
  cases x with
  | ok a => exact iff_of_false nofun fun h => h rfl
  | error e => exact iff_of_true ⟨e, rfl⟩ nofun

/-- Going through a list comes to its end if nothing in the list stops it. -/
theorem isOk_mapM_iff {f : α → Except ε β} {as : List α} :
    (as.mapM f).isOk ↔ ∀ a ∈ as, (f a).isOk := by
  induction as with
  | nil => exact ⟨fun _ => nofun, fun _ => rfl⟩
  | cons a as ih =>
    rw [List.mapM_cons, isOk_bind_iff, List.forall_mem_cons, ← ih, isOk_iff_exists]
    constructor
    · rintro ⟨b, hb, h⟩
      obtain ⟨bs, hbs, -⟩ := isOk_bind_iff.mp h
      exact ⟨⟨b, hb⟩, isOk_iff_exists.mpr ⟨bs, hbs⟩⟩
    · rintro ⟨⟨b, hb⟩, h⟩
      obtain ⟨bs, hbs⟩ := isOk_iff_exists.mp h
      exact ⟨b, hb, isOk_bind_iff.mpr ⟨bs, hbs, rfl⟩⟩

end Programs

/-! ## Translating records -/

theorem count_of_le {n : Nat} (h : n ≤ 255) (what : Counted) : count n what = .ok n.toUInt8 :=
  if_pos (Nat.lt_succ_of_le h)

theorem count_of_gt {n : Nat} (h : 255 < n) (what : Counted) :
    count n what = .error (.tooMany n what) :=
  if_neg (Nat.not_lt.mpr h)

theorem isOk_count_iff {n : Nat} (what : Counted) : (count n what).isOk ↔ n ≤ 255 := by
  by_cases h : n ≤ 255
  · rw [count_of_le h]
    exact ⟨fun _ => h, fun _ => rfl⟩
  · rw [count_of_gt (Nat.lt_of_not_le h)]
    exact ⟨fun hok => (Bool.false_ne_true hok).elim, fun hle => (h hle).elim⟩

theorem isOk_pack_iff {a : EndpointAttributes} :
    a.pack.isOk ↔ (a.kind = .isochronous → a.synchronization.isSome ∧ a.usage.isSome) := by
  rcases a with ⟨kind, synchronization, usage⟩
  cases kind <;> cases synchronization <;> cases usage <;>
    simp [EndpointAttributes.pack, Except.isOk, Except.toBool]

/-- A translation that counts first and goes through a list then succeeds if both do. -/
theorem isOk_counted_iff {α β γ : Type} {f : α → Except Fault β} {as : List α} {what : Counted}
    {build : UInt8 → List β → γ} :
    (do
      let n ← count as.length what
      let bs ← as.mapM f
      return build n bs : Except Fault γ).isOk ↔
      as.length ≤ 255 ∧ ∀ a ∈ as, (f a).isOk := by
  rw [isOk_bind_iff, ← isOk_mapM_iff, ← isOk_count_iff what, isOk_iff_exists]
  constructor
  · rintro ⟨n, hn, h⟩
    obtain ⟨bs, hbs, -⟩ := isOk_bind_iff.mp h
    exact ⟨⟨n, hn⟩, isOk_iff_exists.mpr ⟨bs, hbs⟩⟩
  · rintro ⟨⟨n, hn⟩, h⟩
    obtain ⟨bs, hbs⟩ := isOk_iff_exists.mp h
    exact ⟨n, hn, isOk_bind_iff.mpr ⟨bs, hbs, rfl⟩⟩

theorem isOk_ofEndpoint_iff {r : EndpointRecord} : (ofEndpoint r).isOk ↔ r.IsComplete := by
  refine Iff.trans ?_ (isOk_pack_iff (a := ⟨r.kind, r.synchronization, r.usage⟩))
  rw [ofEndpoint, isOk_bind_iff, isOk_iff_exists]
  exact ⟨fun ⟨b, hb, _⟩ => ⟨b, hb⟩, fun ⟨b, hb⟩ => ⟨b, hb, rfl⟩⟩

theorem isOk_ofSetting_iff {r : InterfaceRecord} : (ofSetting r).isOk ↔ r.IsExpressible := by
  rw [InterfaceRecord.isExpressible_iff]
  simp only [← isOk_ofEndpoint_iff]
  exact isOk_counted_iff

theorem isOk_ofInterface_iff {r : InterfaceRecord} : (ofInterface r).isOk ↔ r.IsExpressible := by
  rw [← isOk_ofSetting_iff, ofInterface, isOk_bind_iff, isOk_iff_exists]
  exact ⟨fun ⟨d, hd, _⟩ => ⟨d, hd⟩, fun ⟨d, hd⟩ => ⟨d, hd, rfl⟩⟩

/-- **A record has a descriptor exactly if it is expressible.** -/
theorem isOk_ofConfig_iff {r : ConfigRecord} : (ofConfig r).isOk ↔ r.IsExpressible := by
  rw [ConfigRecord.isExpressible_iff]
  simp only [← isOk_ofInterface_iff]
  exact isOk_counted_iff

/-- The interfaces are counted before anything else. -/
theorem ofConfig_of_too_many {r : ConfigRecord} (h : 255 < r.interfaces.length) :
    ofConfig r = .error (.tooMany r.interfaces.length .interfaces) := by
  rw [ofConfig, count_of_gt h]
  rfl

end Descriptor

/-! ## What a host tells -/

/-- All alternate settings of all interfaces. -/
def HostConfig.settings (c : HostConfig) : List HostSetting := c.interfaces.flatten

/-- Whatever its attribute byte says, the record of an endpoint is complete. -/
theorem HostEndpoint.isComplete_toRecord (e : HostEndpoint) : e.toRecord.IsComplete := by
  intro h
  have hkind : (EndpointAttributes.unpack e.attributes).kind = .isochronous := h
  simp [toRecord, hkind]

theorem HostSetting.isExpressible_toRecord_iff {s : HostSetting} :
    s.toRecord.IsExpressible ↔ s.endpoints.length ≤ 255 := by
  have hlength : s.toRecord.endpoints.length = s.endpoints.length := List.length_map _
  refine ⟨fun h => hlength ▸ h.endpoints_length_le, fun h => ⟨hlength.symm ▸ h, fun r hr => ?_⟩⟩
  obtain ⟨e, -, rfl⟩ := List.mem_map.mp hr
  exact e.isComplete_toRecord

theorem HostConfig.length_interfaces_toRecord (c : HostConfig) (active : Bool) :
    (c.toRecord active).interfaces.length = c.settings.length := List.length_map _

/-- **A host's configuration is expressible exactly if its settings can be counted, and
the endpoints of each.** -/
theorem HostConfig.isExpressible_toRecord_iff (c : HostConfig) (active : Bool) :
    (c.toRecord active).IsExpressible ↔
      c.settings.length ≤ 255 ∧ ∀ s ∈ c.settings, s.endpoints.length ≤ 255 := by
  have hlength := c.length_interfaces_toRecord active
  constructor
  · rintro ⟨hle, h⟩
    refine ⟨hlength ▸ hle, fun s hs => ?_⟩
    exact HostSetting.isExpressible_toRecord_iff.mp (h _ (List.mem_map_of_mem hs))
  · rintro ⟨hle, h⟩
    refine ⟨hlength.symm ▸ hle, fun r hr => ?_⟩
    obtain ⟨s, hs, rfl⟩ := List.mem_map.mp hr
    exact HostSetting.isExpressible_toRecord_iff.mpr (h s hs)

end UsbHost
