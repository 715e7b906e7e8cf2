import Mathlib.Data.List.Forall2
import UsbHost.Proofs.Descriptor.Expressible
import UsbHost.Record.Sample

/-! # Records read back from descriptors

A record can be read back from its tree of descriptors (`ConfigDescriptor.toRecord`),
but for what a descriptor cannot express: whether the configuration is active, a
direction other than that of the address, the synchronization and usage of an endpoint
that is not isochronous, and whether a polling interval of zero was given at all.  Two
records have the same tree exactly if they differ in nothing but this
(`ofConfig_recovers`).
-/
namespace UsbHost

/-! ## What a descriptor expresses -/

/-- The record of an endpoint with what its descriptor expresses, and all else as it is
understood where nothing is said. -/
def EndpointRecord.expressed (r : EndpointRecord) : EndpointRecord :=
  { r with
    direction := .ofByte r.address
    synchronization := if r.kind = .isochronous then r.synchronization else none
    usage := if r.kind = .isochronous then r.usage else none
    pollingInterval := some (r.pollingInterval.getD 0) }

def InterfaceRecord.expressed (r : InterfaceRecord) : InterfaceRecord :=
  { r with endpoints := r.endpoints.map EndpointRecord.expressed }

/-- A descriptor that is asked for is that of the active configuration. -/
def ConfigRecord.expressed (r : ConfigRecord) : ConfigRecord :=
  { r with active := true, interfaces := r.interfaces.map InterfaceRecord.expressed }

/-! ## Reading descriptors -/

def EndpointDescriptor.toRecord (d : EndpointDescriptor) : EndpointRecord :=
  let attributes := EndpointAttributes.unpack d.attributes
  { address := d.address
    kind := attributes.kind
    direction := .ofByte d.address
    maxPacketSize := d.maxPacketSize
    synchronization := attributes.synchronization
    usage := attributes.usage
    pollingInterval := some d.interval
    extra := d.extra }

def InterfaceDescriptor.toRecord (d : InterfaceDescriptor) : InterfaceRecord where
  number := d.number
  alternate := d.alternate
  classCode := d.classCode
  subclassCode := d.subclassCode
  protocolCode := d.protocolCode
  endpoints := d.endpoints.map EndpointDescriptor.toRecord
  extra := d.extra

/-- Every alternate setting is an interface of the record. -/
def ConfigDescriptor.toRecord (d : ConfigDescriptor) : ConfigRecord where
  active := true
  value := d.value
  remoteWakeup := d.attributes &&& Descriptor.remoteWakeupBit ≠ 0
  selfPowered := d.attributes &&& Descriptor.selfPoweredBit ≠ 0
  maxPower := d.maxPower
  interfaces := d.interfaces.flatMap fun i => i.settings.map InterfaceDescriptor.toRecord
  extra := d.extra

/-! ## Trees of records -/

/-- A record has a setting that is made of it, with its endpoints in order, and their number. -/
structure InterfaceRecord.HasSetting (r : InterfaceRecord) (s : InterfaceDescriptor) : Prop where
  made : Descriptor.ofSetting r = .ok s
  count : s.endpointCount.toNat = s.endpoints.length
  endpoints : List.Forall₂ (fun e d => Descriptor.ofEndpoint e = .ok d) r.endpoints s.endpoints

/-- A record has an interface with one setting. -/
def InterfaceRecord.HasInterface (r : InterfaceRecord) (i : Interface) : Prop :=
  ∃ s, i.settings = [s] ∧ r.HasSetting s

namespace Descriptor

section Programs
variable {ε α β γ : Type}

theorem bind_eq_ok_iff {x : Except ε α} {f : α → Except ε β} {b : β} :
    x >>= f = .ok b ↔ ∃ a, x = .ok a ∧ f a = .ok b := by
  cases x with
  | ok a => exact ⟨fun h => ⟨a, rfl, h⟩, fun ⟨_, heq, h⟩ => Except.ok.inj heq ▸ h⟩
  | error e => exact ⟨nofun, fun ⟨_, heq, _⟩ => nomatch heq⟩

/-- Going through a list makes a list of the same shape. -/
theorem mapM_eq_ok_iff {f : α → Except ε β} {as : List α} {bs : List β} :
    as.mapM f = .ok bs ↔ List.Forall₂ (fun a b => f a = .ok b) as bs := by
  induction as generalizing bs with
  | nil =>
    rw [List.mapM_nil, List.forall₂_nil_left_iff]
    exact ⟨fun h => (Except.ok.inj h).symm, fun h => h ▸ rfl⟩
  | cons a as ih =>
    rw [List.mapM_cons, bind_eq_ok_iff]
    constructor
    · rintro ⟨b, hb, h⟩
      obtain ⟨rest, hrest, h⟩ := bind_eq_ok_iff.mp h
      cases h
      exact .cons hb (ih.mp hrest)
    · rintro (_ | ⟨hb, hrest⟩)
      exact ⟨_, hb, bind_eq_ok_iff.mpr ⟨_, ih.mpr hrest, rfl⟩⟩

theorem map_eq_of_forall₂ {P : α → β → Prop} {f : α → γ} {g : β → γ}
    (hP : ∀ a b, P a b → g b = f a) {as : List α} {bs : List β} (h : List.Forall₂ P as bs) :
    bs.map g = as.map f := by
  induction h with
  | nil => rfl
  | cons hab _ ih => rw [List.map_cons, List.map_cons, hP _ _ hab, ih]

end Programs

theorem count_eq_ok_iff {n : Nat} {what : Counted} {b : UInt8} :
    count n what = .ok b ↔ b.toNat = n := by
  by_cases h : n ≤ 255
  · rw [count_of_le h]
    have hn : n.toUInt8.toNat = n := Nat.mod_eq_of_lt (Nat.lt_succ_of_le h)
    constructor
    · rintro ⟨⟩
      exact hn
    · rintro rfl
      exact congrArg _ (UInt8.toNat_inj.mp hn)
  · rw [count_of_gt (Nat.lt_of_not_le h)]
    refine iff_of_false nofun fun heq => h ?_
    have hlt := b.toNat_lt
    omega

/-- A translation that counts first and goes through a list then counts what it makes. -/
theorem counted_eq_ok {α β γ : Type} {f : α → Except Fault β} {as : List α} {what : Counted}
    {build : UInt8 → List β → γ} {c : γ}
    (h : (do
      let n ← count as.length what
      let bs ← as.mapM f
      return build n bs : Except Fault γ) = .ok c) :
    ∃ n bs, n.toNat = bs.length ∧ List.Forall₂ (fun a b => f a = .ok b) as bs ∧
      c = build n bs := by
  obtain ⟨n, hcount, h⟩ := bind_eq_ok_iff.mp h
  obtain ⟨bs, hbs, h⟩ := bind_eq_ok_iff.mp h
  have hall := mapM_eq_ok_iff.mp hbs
  exact ⟨n, bs, (count_eq_ok_iff.mp hcount).trans hall.length_eq, hall, (Except.ok.inj h).symm⟩

/-! ### Endpoints -/

/-- **An attribute byte says what was packed into it.** -/
theorem unpack_of_pack {a : EndpointAttributes} {b : UInt8} (h : a.pack = .ok b) :
    EndpointAttributes.unpack b =
      { kind := a.kind
        synchronization := if a.kind = .isochronous then a.synchronization else none
        usage := if a.kind = .isochronous then a.usage else none } := by
  obtain ⟨kind, synchronization, usage⟩ := a
  cases kind with
  | isochronous =>
    rcases synchronization with _ | s <;> rcases usage with _ | u
    case some.some =>
      cases h
      cases s <;> cases u <;> rfl
    all_goals cases h
  | _ =>
    cases h
    simp only [reduceCtorEq, if_false]
    rfl

theorem toRecord_of_ofEndpoint {r : EndpointRecord} {d : EndpointDescriptor}
    (h : ofEndpoint r = .ok d) : d.toRecord = r.expressed := by
  obtain ⟨b, hpack, h⟩ := bind_eq_ok_iff.mp h
  cases h
  rw [EndpointDescriptor.toRecord, unpack_of_pack hpack]
  rfl

/-- Of synchronization and usage only what is expressed goes into the attribute byte. -/
theorem ofEndpoint_expressed (r : EndpointRecord) : ofEndpoint r.expressed = ofEndpoint r := by
  have hpack : EndpointAttributes.pack ⟨r.kind, r.expressed.synchronization, r.expressed.usage⟩ =
      EndpointAttributes.pack ⟨r.kind, r.synchronization, r.usage⟩ := by
    unfold EndpointRecord.expressed
    cases r.kind <;> rfl
  unfold ofEndpoint
  exact congrArg (· >>= _) hpack

/-! ### Interfaces -/

theorem hasSetting_of_ofSetting {r : InterfaceRecord} {s : InterfaceDescriptor}
    (h : ofSetting r = .ok s) : r.HasSetting s := by
  obtain ⟨n, endpoints, hcount, hall, rfl⟩ := counted_eq_ok h
  exact ⟨h, hcount, hall⟩

theorem toRecord_of_ofSetting {r : InterfaceRecord} {s : InterfaceDescriptor}
    (h : ofSetting r = .ok s) : s.toRecord = r.expressed := by
  obtain ⟨n, endpoints, -, hall, rfl⟩ := counted_eq_ok h
  have hread : endpoints.map EndpointDescriptor.toRecord =
      r.endpoints.map EndpointRecord.expressed :=
    map_eq_of_forall₂ (f := EndpointRecord.expressed) (g := EndpointDescriptor.toRecord)
      (fun _ _ => toRecord_of_ofEndpoint) hall
  unfold InterfaceDescriptor.toRecord InterfaceRecord.expressed
  rw [← hread]

theorem ofSetting_expressed (r : InterfaceRecord) : ofSetting r.expressed = ofSetting r := by
  unfold ofSetting InterfaceRecord.expressed
  simp only [List.length_map, List.mapM_map]
  have heach : ofEndpoint ∘ EndpointRecord.expressed = ofEndpoint := funext ofEndpoint_expressed
  rw [heach]

theorem hasInterface_of_ofInterface {r : InterfaceRecord} {i : Interface}
    (h : ofInterface r = .ok i) : r.HasInterface i := by
  obtain ⟨s, hs, h⟩ := bind_eq_ok_iff.mp h
  cases h
  exact ⟨s, rfl, hasSetting_of_ofSetting hs⟩

theorem ofInterface_expressed (r : InterfaceRecord) : ofInterface r.expressed = ofInterface r := by
  unfold ofInterface
  rw [ofSetting_expressed]

/-- The settings of the interfaces in a tree are the interfaces of the record. -/
theorem settings_of_forall₂ {rs : List InterfaceRecord} {is : List Interface}
    (h : List.Forall₂ InterfaceRecord.HasInterface rs is) :
    (is.flatMap fun i => i.settings.map InterfaceDescriptor.toRecord) =
      rs.map InterfaceRecord.expressed := by
  induction h with
  | nil => rfl
  | cons hi _ ih =>
    obtain ⟨s, hsettings, hs⟩ := hi
    rw [List.flatMap_cons, ih, hsettings, List.map_singleton, toRecord_of_ofSetting hs.made]
    rfl

/-! ### Configurations -/

/-- The two attribute bits of a configuration do not meet. -/
theorem configBits (wakeup powered : Bool) :
    let attributes : UInt8 :=
      (if wakeup then remoteWakeupBit else 0) ||| (if powered then selfPoweredBit else 0)
    decide (attributes &&& remoteWakeupBit ≠ 0) = wakeup ∧
      decide (attributes &&& selfPoweredBit ≠ 0) = powered := by
  revert wakeup powered
  decide

theorem hasInterfaces_of_ofConfig {r : ConfigRecord} {d : ConfigDescriptor}
    (h : ofConfig r = .ok d) :
    d.interfaceCount.toNat = d.interfaces.length ∧
      List.Forall₂ InterfaceRecord.HasInterface r.interfaces d.interfaces := by
  obtain ⟨n, interfaces, hcount, hall, rfl⟩ := counted_eq_ok h
  exact ⟨hcount, hall.imp fun _ _ => hasInterface_of_ofInterface⟩

theorem toRecord_of_ofConfig {r : ConfigRecord} {d : ConfigDescriptor} (h : ofConfig r = .ok d) :
    d.toRecord = r.expressed := by
  have hread := settings_of_forall₂ (hasInterfaces_of_ofConfig h).2
  obtain ⟨hwakeup, hpowered⟩ := configBits r.remoteWakeup r.selfPowered
  obtain ⟨n, interfaces, -, -, rfl⟩ := counted_eq_ok h
  unfold ConfigDescriptor.toRecord ConfigRecord.expressed
  rw [← hread, hwakeup, hpowered]

theorem ofConfig_expressed (r : ConfigRecord) : ofConfig r.expressed = ofConfig r := by
  unfold ofConfig ConfigRecord.expressed
  simp only [List.length_map, List.mapM_map]
  have heach : ofInterface ∘ InterfaceRecord.expressed = ofInterface :=
    funext ofInterface_expressed
  rw [heach]

/-- **A tree of descriptors determines its record.**  Its counts are right, it has the
interfaces and endpoints of the record in order, with one setting for each interface,
and all that it expresses of the record is read back from it.  So two records have the
same tree exactly if they express the same. -/
theorem ofConfig_recovers {r : ConfigRecord} {d : ConfigDescriptor} (h : ofConfig r = .ok d) :
    d.interfaceCount.toNat = d.interfaces.length ∧
      List.Forall₂ InterfaceRecord.HasInterface r.interfaces d.interfaces ∧
      d.toRecord = r.expressed ∧
      ∀ r', ofConfig r' = .ok d ↔ r'.expressed = r.expressed := by
  obtain ⟨hcount, hall⟩ := hasInterfaces_of_ofConfig h
  have hrecord := toRecord_of_ofConfig h
  refine ⟨hcount, hall, hrecord, ?_⟩
  intro r'
  constructor
  · intro h'
    rw [← hrecord, toRecord_of_ofConfig h']
  · intro heq
    rw [← h, ← ofConfig_expressed r', heq, ofConfig_expressed]

/-- A configuration with an isochronous and a bulk endpoint.  Which of the configurations is
active is not expressed, nor is what a bulk endpoint is for. -/
def streamingConfig (active : Bool) (usage : Option Usage) (interval : Option UInt8) :
    ConfigRecord :=
  Sample.config 1 active [Sample.interface 0 [Sample.isochronousEndpoint 0x81 .adaptive .feedback,
    { Sample.bulkEndpoint 0x02 512 with usage, pollingInterval := interval }]]

theorem ofConfig_recovers_streaming :
    ∃ d, ofConfig (streamingConfig true none none) = .ok d ∧
      d.toRecord = (streamingConfig true none none).expressed ∧
      ofConfig (streamingConfig false (some .feedback) (some 0)) = .ok d ∧
      ¬ ofConfig (streamingConfig true none (some 1)) = .ok d := by
  obtain ⟨d, hd⟩ : ∃ d, ofConfig (streamingConfig true none none) = .ok d := ⟨_, rfl⟩
  obtain ⟨-, -, hrecord, hsame⟩ := ofConfig_recovers hd
  refine ⟨d, hd, hrecord, (hsame _).mpr rfl, ?_⟩
  intro h
  exact absurd ((hsame _).mp h) (by decide)

end Descriptor

end UsbHost
