import UsbHost.Host.Scripted
import UsbHost.Platform.Usb
import UsbHost.Proofs.Descriptor.Expressible
import UsbHost.Proofs.Session.Frame
import UsbHost.Proofs.Worker.Journal

/-! # The active configuration of a device on a host

A host tells the number of a device's active configuration, and all configurations.
The one with that number is flattened into a record, a setting an interface, and the
record is translated into a descriptor.  No attribute byte can make this fail, but the
count of the settings has one byte: with more than 255 of them, asking for the
descriptor ends the program (`activeConfig_faults_iff`), although a device may well
have so many (`exists_faulting_device`).
-/
namespace UsbHost

namespace Worker
variable {η δ : Type} [Host η δ]

/-! ## What the host tells -/

/-- What a host tells about the configurations of a device. -/
structure Told where
  /-- The number of the active one, if the host knows it. -/
  active : Option UInt8
  configs : List HostConfig

namespace Told

/-- The configurations that have the number of the active one. -/
def selected (t : Told) : List HostConfig := t.configs.filter fun c => t.active == some c.value

def records (t : Told) : List ConfigRecord :=
  t.configs.map fun c => c.toRecord (t.active == some c.value)

theorem active_records (t : Told) :
    t.records.filter (·.active) = t.selected.map (HostConfig.toRecord · true) := by
  rw [records, selected, List.filter_map]
  refine List.map_congr_left fun c hc => ?_
  have hactive : (t.active == some c.value) = true := (List.mem_filter.mp hc).2
  rw [hactive]

end Told

/-- Asks a host for the configurations of a device. -/
def askConfigs (known : KnownDevice δ) : StateM η (Except HostError Told) := do
  let active := (← Host.activeConfig known.device).toOption.map (·.value)
  let configs ← ExceptT.run <|
    (List.range known.descriptor.configurations.toNat).mapM fun index =>
      ExceptT.mk (Host.config known.device index.toUInt8)
  return configs.map (⟨active, ·⟩)

/-- The worker answers with the records of what the host tells. -/
theorem result_getConfigurations {w : Worker η δ} {id : DeviceId} {known : KnownDevice δ}
    (h : w.devices.get? id = some known) :
    result (getConfigurations id) w =
      outcomeOf (((askConfigs known).run w.host).1.map Told.records) := by
  have records (active : Option UInt8) (answer : Except HostError (List HostConfig)) :
      outcomeOf (answer.map (·.map fun c => c.toRecord (active == some c.value))) =
        outcomeOf ((answer.map (Told.mk active)).map Told.records) := by
    cases answer <;> rfl
  unfold getConfigurations askConfigs
  rw [result_bind, result_get, after_get, h]
  exact records _ _

theorem result_getConfigurations_of_none {w : Worker η δ} {id : DeviceId}
    (h : w.devices.get? id = none) : result (getConfigurations id) w = unknownDevice id := by
  unfold getConfigurations
  rw [result_bind, result_get, h]
  rfl

end Worker

namespace Session
variable {η δ κ : Type} [Host η δ] {s : Session (UsbPlatform η δ) κ} {device : Device}
  {c : HostConfig}

/-! ## The active configuration -/

/-- The host tells that this is the device's one active configuration. -/
def IsActive (s : Session (UsbPlatform η δ) κ) (device : Device) (c : HostConfig) : Prop :=
  ∃ w known told, s.platform.worker = some w ∧ w.devices.get? device.record.device = some known ∧
    ((Worker.askConfigs known).run w.host).1 = .ok told ∧ told.selected = [c]

/-- The platform answers for its worker. -/
theorem run_getConfigurations (p : UsbPlatform η δ) (record : DeviceRecord) :
    (StateT.run (Platform.getConfigurations record) p).1 =
      match p.worker with
      | some w => Worker.result (Worker.getConfigurations record.device) w
      | none => .failed Bridge.noWorker := by
  obtain ⟨_ | w⟩ := p <;> rfl

/-- The descriptor is made of the records with which the platform answers. -/
theorem result_activeConfig (s : Session (UsbPlatform η δ) κ) (device : Device) :
    result (activeConfig device) s =
      match (StateT.run (Platform.getConfigurations device.record) s.platform).1 with
      | .succeeded records =>
        match Descriptor.ofActive records with
        | .error fault => .error (.fault fault)
        | .ok (.ok config) => .ok config
        | .ok (.error _) => .error (.error .other)
      | _ => .error (.error .other) := by
  unfold activeConfig
  rw [result_bind, result_onPlatform]
  dsimp only
  rw [result_bind]
  cases (StateT.run (Platform.getConfigurations device.record) s.platform).1 with
  | succeeded records =>
    have hcheck : ∀ s' : Session (UsbPlatform η δ) κ,
        result (check .activeConfig (.succeeded records)) s' = .ok records := fun _ => rfl
    rw [hcheck]
    dsimp only
    rcases Descriptor.ofActive records with fault | (e | config) <;> rfl
  | failed message => rfl
  | canceled => rfl

/-- The one active configuration is translated. -/
theorem activeConfig_of_active (h : s.IsActive device c) :
    result (activeConfig device) s =
      (Descriptor.ofConfig (c.toRecord true)).mapError .fault := by
  obtain ⟨w, known, told, hw, hknown, htold, hselected⟩ := h
  have hactive : told.records.filter (·.active) = [c.toRecord true] := by
    rw [told.active_records, hselected]
    rfl
  rw [result_activeConfig, run_getConfigurations, hw]
  dsimp only
  rw [Worker.result_getConfigurations hknown, htold]
  dsimp only [Except.map, Worker.outcomeOf]
  rw [Descriptor.ofActive, hactive]
  dsimp only
  cases Descriptor.ofConfig (c.toRecord true) <;> rfl

/-- Without one active configuration the call answers with an error. -/
theorem activeConfig_of_not_active (h : ∀ c, ¬ s.IsActive device c) :
    result (activeConfig device) s = .error (.error .other) := by
  rw [result_activeConfig, run_getConfigurations]
  cases hw : s.platform.worker with
  | none => rfl
  | some w =>
    dsimp only
    cases hknown : w.devices.get? device.record.device with
    | none =>
      rw [Worker.result_getConfigurations_of_none hknown]
      rfl
    | some known =>
      rw [Worker.result_getConfigurations hknown]
      cases htold : ((Worker.askConfigs known).run w.host).1 with
      | error e => rfl
      | ok told =>
        dsimp only [Except.map, Worker.outcomeOf]
        rw [Descriptor.ofActive, told.active_records]
        -- Of no active configurations, and of several, nothing is translated.
        rcases hselected : told.selected with _ | ⟨c, _ | ⟨c', rest⟩⟩
        · rfl
        · exact absurd ⟨w, known, told, hw, hknown, htold, hselected⟩ (h c)
        · rfl

/-- **Asking for the active configuration ends the program exactly if this has more than
255 settings**, and answers with a descriptor exactly if there is one with no more.
The endpoints of each setting can be counted, as they come from one byte. -/
theorem activeConfig_faults_iff
    (counted : ∀ c, s.IsActive device c → ∀ setting ∈ c.settings, setting.endpoints.length ≤ 255) :
    (∀ fault, result (activeConfig device) s = .error (.fault fault) ↔
      ∃ c, s.IsActive device c ∧ 255 < c.settings.length ∧
        fault = .tooMany c.settings.length .interfaces) ∧
    ((∃ descriptor, result (activeConfig device) s = .ok descriptor) ↔
      ∃ c, s.IsActive device c ∧ c.settings.length ≤ 255) := by
  by_cases hactive : ∃ c, s.IsActive device c
  · obtain ⟨c, hc⟩ := hactive
    -- The host tells one thing, so there is no other active configuration.
    have hunique : ∀ c', s.IsActive device c' → c' = c := by
      obtain ⟨w, known, told, hw, hknown, htold, hselected⟩ := hc
      rintro c' ⟨w', known', told', hw', hknown', htold', hselected'⟩
      cases hw.symm.trans hw'
      cases hknown.symm.trans hknown'
      cases htold.symm.trans htold'
      exact (List.cons.inj (hselected'.symm.trans hselected)).1
    rw [activeConfig_of_active hc]
    by_cases hle : c.settings.length ≤ 255
    · obtain ⟨descriptor, hdescriptor⟩ := Descriptor.isOk_iff_exists.mp
        (Descriptor.isOk_ofConfig_iff.mpr
          ((c.isExpressible_toRecord_iff true).mpr ⟨hle, counted c hc⟩))
      rw [hdescriptor]
      refine ⟨fun fault => ⟨nofun, ?_⟩, fun _ => ⟨c, hc, hle⟩, fun _ => ⟨descriptor, rfl⟩⟩
      rintro ⟨c', hc', hlt, -⟩
      rw [hunique c' hc'] at hlt
      exact absurd hle (Nat.not_le.mpr hlt)
    · have hlength := c.length_interfaces_toRecord true
      have hlt : 255 < c.settings.length := Nat.lt_of_not_le hle
      rw [Descriptor.ofConfig_of_too_many (hlength.symm ▸ hlt), hlength]
      refine ⟨fun fault => ⟨fun h => ?_, ?_⟩, nofun, ?_⟩
      · cases h
        exact ⟨c, hc, hlt, rfl⟩
      · rintro ⟨c', hc', -, rfl⟩
        rw [hunique c' hc']
        rfl
      · rintro ⟨c', hc', hle'⟩
        rw [hunique c' hc'] at hle'
        exact absurd hle' hle
  · have hnone : ∀ c, ¬ s.IsActive device c := fun c hc => hactive ⟨c, hc⟩
    rw [activeConfig_of_not_active hnone]
    refine ⟨fun fault => ⟨nofun, ?_⟩, nofun, ?_⟩
    · rintro ⟨c, hc, -⟩
      exact absurd hc (hnone c)
    · rintro ⟨c, hc, -⟩
      exact absurd hc (hnone c)

/-! ## A device with many settings -/

/-- An alternate setting with an isochronous endpoint of no synchronization. -/
def wideSetting (alternate : Nat) : HostSetting where
  number := 0
  alternate := alternate.toUInt8
  classCode := 0xff
  subclassCode := 0
  protocolCode := 0
  endpoints := [⟨0x81, 0x01, 512, 1⟩]

/-- A configuration whose one interface has a number of alternate settings. -/
def wideConfig (settings : Nat) : HostConfig where
  value := 1
  attributes := 0x80
  maxPower := 50
  interfaces := [(List.range settings).map wideSetting]

/-- A device with such a configuration. -/
def wideDevice (settings : Nat) : ScriptedDevice where
  location := ⟨1, 1⟩
  descriptor := .ok ⟨0x1234, 0x5678, 0x0100, none, none, none, 1⟩
  strings := []
  configs := [.ok (wideConfig settings)]
  active := .ok 0

/-- A session that has listed the device. -/
def wideListed (settings : Nat) : Session (UsbPlatform ScriptedHost ScriptedDevice) Empty :=
  after (listDevices .default)
    { platform := .start { devices := [wideDevice settings] } 0 [] }

/-- The device in that session. -/
def wideKnown : Device where
  context := .default
  record := ⟨⟨1⟩, 0x1234, 0x5678, some 0x0100, none, none, none⟩

theorem device?_wideListed : (wideListed 256).device? ⟨0⟩ = some wideKnown := by decide +kernel

theorem isActive_wideListed (settings : Nat) :
    (wideListed settings).IsActive wideKnown (wideConfig settings) :=
  ⟨_, _, ⟨some 1, [wideConfig settings]⟩, rfl, rfl, rfl, rfl⟩

theorem length_settings_wideConfig (settings : Nat) :
    (wideConfig settings).settings.length = settings := by
  simp [HostConfig.settings, wideConfig]

/-- A device with 255 settings is answered with a descriptor. -/
theorem activeConfig_of_255_settings :
    (∀ c, (wideListed 255).IsActive wideKnown c →
      ∀ setting ∈ c.settings, setting.endpoints.length ≤ 255) ∧
    ∃ descriptor, result (activeConfig wideKnown) (wideListed 255) = .ok descriptor := by
  have counted : ∀ c, (wideListed 255).IsActive wideKnown c →
      ∀ setting ∈ c.settings, setting.endpoints.length ≤ 255 := by
    rintro c ⟨w, known, told, hw, hknown, htold, hselected⟩ setting hsetting
    cases hw
    cases hknown
    cases htold
    cases hselected
    simp only [HostConfig.settings, wideConfig, List.flatten_cons, List.flatten_nil,
      List.append_nil, List.mem_map] at hsetting
    obtain ⟨n, -, rfl⟩ := hsetting
    exact (by decide : 1 ≤ 255)
  exact ⟨counted, (activeConfig_faults_iff counted).2.mpr
    ⟨_, isActive_wideListed 255, Nat.le_of_eq (length_settings_wideConfig 255)⟩⟩

/-- **A device can end the program by its configuration**: an interface that has all 256
alternate settings is enough. -/
theorem exists_faulting_device :
    ∃ (s : Session (UsbPlatform ScriptedHost ScriptedDevice) Empty) (device : Device),
      s = after (listDevices .default)
        { platform := .start { devices := [wideDevice 256] } 0 [] } ∧
      s.device? ⟨0⟩ = some device ∧
      (∀ setting ∈ (wideConfig 256).settings, setting.endpoints.length ≤ 255) ∧
      result (activeConfig device) s = .error (.fault (.tooMany 256 .interfaces)) := by
  refine ⟨wideListed 256, wideKnown, rfl, device?_wideListed, fun setting hsetting => ?_, ?_⟩
  · simp only [HostConfig.settings, wideConfig, List.flatten_cons, List.flatten_nil,
      List.append_nil, List.mem_map] at hsetting
    obtain ⟨n, -, rfl⟩ := hsetting
    exact (by decide : 1 ≤ 255)
  · have hlength : ((wideConfig 256).toRecord true).interfaces.length = 256 := by
      rw [HostConfig.length_interfaces_toRecord, length_settings_wideConfig]
    rw [activeConfig_of_active (isActive_wideListed 256),
      Descriptor.ofConfig_of_too_many (hlength.symm ▸ by decide), hlength]
    rfl

end Session
end UsbHost
