import Mathlib.Data.List.Induction
import UsbHost.Host.Scripted
import UsbHost.Proofs.Worker.Identifying

/-! # Enumerations

A worker is followed through whatever happens to it.  A turn is a command, a step
of a transfer or a change of the host, and an event records what the turn was to
the registry: a list of devices with the ids that were given out for it, a list
that the host refused, or nothing.  Only a list changes the registry, and it keeps
the tables in step (`Turn.accounted`).

So the ids are stable (`Run.ids_stable`): they are never given out twice, and a
device keeps its id from one list to the next.  What a record says of a device is
older.  It was read when a device was first seen at that place, and stays as long
as every list has some device there (`Run.shows_entered`); when another device has
taken the place, the record shows the one that was there before
(`exists_outdated_record`).
-/
namespace UsbHost
namespace Worker

variable {η δ : Type} [Host η δ]

/-- What a turn is to the registry. -/
inductive Event (δ : Type) where
  /-- The devices that the host has, and the ids that are given out for them. -/
  | listed (found : List δ) (given : List DeviceId)
  | refused
  | other

namespace Event

def given : Event δ → List DeviceId
  | .listed _ given => given
  | .refused | .other => []

/-- The host had a list. -/
def IsList (e : Event δ) : Prop := ∃ found given, e = .listed found given

variable (η) in
/-- The device that is entered at a place, when `before` was entered there until
now: as long as every list has a device at the place, it is the first that was
admitted. -/
def entering (filters : List String) (place : Location) (before : Option (KnownDevice δ)) :
    Event δ → Option (KnownDevice δ)
  | .listed found _ => (found.find? (Host.location η · = place)).bind fun device =>
      before.or (admitted? η filters device)
  | .refused | .other => before

end Event

/-- The ids that were given out. -/
def givenIn (h : List (Event δ)) : List DeviceId := h.flatMap Event.given

variable (η) in
/-- The device that is entered at a place. -/
def entered (filters : List String) (place : Location) (h : List (Event δ)) :
    Option (KnownDevice δ) :=
  h.foldl (Event.entering η filters place) none

/-- One thing that happens to a worker. -/
inductive Turn : Worker η δ → Event δ → Worker η δ → Prop
  | hostChange (w : Worker η δ) (host : η) : Turn w .other { w with host }
  | perform (w : Worker η δ) (command : WorkerCommand) (h : command ≠ .getDevices) :
      Turn w .other (after (perform command) w)
  | beginTransfer (w : Worker η δ) (id : ConnectionId) (request : TransferRequest) :
      Turn w .other (after (beginTransfer id request) w)
  | finishTransfer (w : Worker η δ) (job : Job) (running : job ∈ w.jobs) :
      Turn w .other (after (finishTransfer job) w)
  | refused (w : Worker η δ) (e : HostError) (h : result (onHost Host.list) w = .error e) :
      Turn w .refused (after (Worker.perform .getDevices) w)
  | listed (w : Worker η δ) (found : List δ) (h : result (onHost Host.list) w = .ok found)
      (distinct : (found.map (Host.location η)).Nodup) :
      Turn w (.listed found (newlyGiven found w)) (after (Worker.perform .getDevices) w)

/-- What happens to a worker, one thing after the other. -/
inductive Run : Worker η δ → List (Event δ) → Worker η δ → Prop
  | refl (w : Worker η δ) : Run w [] w
  | snoc {w w' w'' : Worker η δ} {h : List (Event δ)} {e : Event δ} (run : Run w h w')
      (turn : Turn w' e w'') : Run w (h ++ [e]) w''

/-- All running transfers may come to their end at once, which is one turn for each. -/
theorem Run.finishTransfers {w w' : Worker η δ} {h : List (Event δ)} (run : Run w h w') :
    ∃ n, Run w (h ++ List.replicate n .other) (after finishTransfers w') := by
  refine finishTransfers_induction (P := fun v => ∃ n, Run w (h ++ List.replicate n .other) v)
    (fun v job running hv => ?_) ⟨0, ?_⟩
  · obtain ⟨n, run'⟩ := hv
    refine ⟨n + 1, ?_⟩
    rw [List.replicate_succ', ← List.append_assoc]
    exact run'.snoc (.finishTransfer v job running)
  · rw [List.replicate_zero, List.append_nil]
    exact run

omit [Host η δ] in
theorem givenIn_snoc (h : List (Event δ)) (e : Event δ) :
    givenIn (h ++ [e]) = givenIn h ++ e.given := by
  simp [givenIn]

theorem entered_snoc (filters : List String) (place : Location) (h : List (Event δ))
    (e : Event δ) :
    entered η filters place (h ++ [e]) = e.entering η filters place (entered η filters place h) :=
  List.foldl_append ..

section Turns
variable {w w' : Worker η δ} {e : Event δ} {h : List (Event δ)} {given : List DeviceId}
  {found : List δ} {place : Location}

/-! ## One turn -/

theorem result_perform (w : Worker η δ) :
    result (Worker.perform .getDevices) w = .devices (result getDevices w) := rfl

/-- Only a list changes the registry. -/
theorem Turn.keeps (turn : Turn w e w') (he : ¬ e.IsList) : w'.registry = w.registry := by
  cases turn with
  | hostChange host => rfl
  | perform command h => exact KeepsRegistry.perform h w
  | beginTransfer id request => exact KeepsRegistry.beginTransfer id request w
  | finishTransfer job running => exact KeepsRegistry.finishTransfer job w
  | refused e h => exact (getDevices_refused h).2
  | listed found h distinct => exact absurd ⟨_, _, rfl⟩ he

/-- The registry after a list: what was identified is kept, as far as it is at the
places of the list. -/
theorem Turn.registry_listed (turn : Turn w (.listed found given) w')
    {before : List DeviceId} (acc : w.registry.Accounted before)
    (room : (before ++ given).length < idLimit) :
    given = newlyGiven found w ∧ (found.map (Host.location η)).Nodup ∧
    (identified found w).Accounted (before ++ given) ∧
    w'.registry = (identified found w).retain
      ((identified found w).present (found.map (Host.location η))) ∧
    ∃ records, result (Worker.perform .getDevices) w = .devices (.succeeded records) ∧
      List.Forall₂ Shows (w'.registry.listed (found.map (Host.location η))) records := by
  cases turn with
  | listed found h distinct =>
    obtain ⟨hregistry, records, hresult, hshows⟩ := getDevices_listed acc h distinct room
    exact ⟨rfl, distinct, accounted_identified acc room, hregistry, records,
      by rw [result_perform, hresult], hshows⟩

theorem Turn.accounted (turn : Turn w e w') (acc : w.registry.Accounted given)
    (room : (given ++ e.given).length < idLimit) :
    w'.registry.Accounted (given ++ e.given) := by
  cases e with
  | listed found ids =>
    obtain ⟨-, -, hacc, hw', -⟩ := turn.registry_listed acc room
    rw [hw']
    exact hacc.retain _
  | refused =>
    rw [turn.keeps (by rintro ⟨_, _, h⟩; cases h)]
    exact (List.append_nil given).symm ▸ acc
  | other =>
    rw [turn.keeps (by rintro ⟨_, _, h⟩; cases h)]
    exact (List.append_nil given).symm ▸ acc

theorem Turn.filters (turn : Turn w e w') (acc : w.registry.Accounted given)
    (room : (given ++ e.given).length < idLimit) : w'.registry.filters = w.registry.filters := by
  by_cases he : e.IsList
  · obtain ⟨found, ids, rfl⟩ := he
    obtain ⟨-, -, -, hw', -⟩ := turn.registry_listed acc room
    rw [hw']
    exact filters_identified found _
  · rw [turn.keeps he]

/-- What is known of a place goes by what is entered there. -/
theorem Turn.known? (turn : Turn w e w') (acc : w.registry.Accounted given)
    (room : (given ++ e.given).length < idLimit) (place : Location) :
    w'.registry.known? place =
      e.entering η w.registry.filters place (w.registry.known? place) := by
  cases e with
  | listed found ids =>
    obtain ⟨rfl, distinct, hacc, hw', -⟩ := turn.registry_listed acc room
    have hknown : (identified found w).known? place = _ :=
      known?_identified (w := after (onHost Host.list) w) acc room distinct place
    rw [hw', hacc.known?_retain, hknown]
    cases hfind : found.find? (Host.location η · = place) with
    | none =>
      -- No device of the list is there.
      rw [if_neg, Event.entering, hfind, Option.bind_none]
      intro hplace
      obtain ⟨d, hd, heq⟩ := List.mem_map.mp hplace
      have hne := List.find?_eq_none.mp hfind d hd
      exact hne (decide_eq_true heq)
    | some d =>
      have heq : Host.location η d = place := by
        simpa using List.find?_some (p := fun d => decide (Host.location η d = place)) hfind
      have hd := List.mem_of_find?_eq_some hfind
      rw [if_pos (List.mem_map.mpr ⟨d, hd, heq⟩), Event.entering, hfind]
      rfl
  | refused => rw [turn.keeps (by rintro ⟨_, _, h⟩; cases h), Event.entering]
  | other => rw [turn.keeps (by rintro ⟨_, _, h⟩; cases h), Event.entering]

/-! ## A whole run -/

/-- What a worker knows goes by what happened to it. -/
structure Followed (filters : List String) (h : List (Event δ)) (w : Worker η δ) : Prop where
  passes : w.registry.filters = filters
  accounted : w.registry.Accounted (givenIn h)
  known : ∀ place, w.registry.known? place = entered η filters place h

theorem Followed.new (host : η) (filters : List String) :
    Followed filters [] ({ host, filters } : Worker η δ) where
  passes := rfl
  accounted := Registry.accounted_new filters
  known _ := rfl

theorem Followed.turn {filters : List String} (hw : Followed filters h w) (turn : Turn w e w')
    (few : (givenIn (h ++ [e])).length < idLimit) : Followed filters (h ++ [e]) w' := by
  rw [givenIn_snoc] at few
  refine ⟨?_, ?_, fun place => ?_⟩
  · rw [turn.filters hw.accounted few, hw.passes]
  · rw [givenIn_snoc]
    exact turn.accounted hw.accounted few
  · rw [turn.known? hw.accounted few, hw.passes, hw.known, entered_snoc]

theorem Run.followed {filters : List String} {before : List (Event δ)} (run : Run w h w')
    (hw : Followed filters before w) (few : (givenIn (before ++ h)).length < idLimit) :
    Followed filters (before ++ h) w' := by
  induction run with
  | refl => exact (List.append_nil before).symm ▸ hw
  | @snoc w' w'' h e run turn ih =>
    rw [← List.append_assoc] at few ⊢
    have hfew : (givenIn (before ++ h)).length < idLimit := by
      rw [givenIn_snoc, List.length_append] at few
      omega
    exact (ih hfew).turn turn few

theorem Run.keeps (run : Run w h w') (hh : ∀ e ∈ h, ¬ e.IsList) :
    w'.registry = w.registry := by
  induction run with
  | refl => rfl
  | snoc run turn ih => rw [turn.keeps (hh _ (by simp)), ih fun e he => hh e (by simp [he])]

/-! ## What a list shows -/

/-- The records show exactly what is registered, once each, in the order of the places. -/
structure Registry.ShownBy (r : Registry δ) (places : List Location)
    (records : List DeviceRecord) : Prop where
  order : records.map (·.device) = r.present places
  nodup : (records.map (·.device)).Nodup
  registered : ∀ id, r.devices.contains id ↔ id ∈ records.map (·.device)

omit [Host η δ] in
theorem map_device_of_shows {known : List (DeviceId × KnownDevice δ)} {records : List DeviceRecord}
    (h : List.Forall₂ Shows known records) : records.map (·.device) = known.map (·.1) := by
  induction h with
  | nil => rfl
  | cons hshows _ ih => rw [List.map_cons, List.map_cons, ih, hshows.device]

omit [Host η δ] in
theorem exists_of_forall₂ {known : List (DeviceId × KnownDevice δ)} {records : List DeviceRecord}
    (h : List.Forall₂ Shows known records) {r : DeviceRecord} (hr : r ∈ records) :
    ∃ k ∈ known, Shows k r := by
  induction h with
  | nil => cases hr
  | cons hshows _ ih =>
    rcases List.mem_cons.mp hr with rfl | hr
    · exact ⟨_, .head _, hshows⟩
    · obtain ⟨k, hk, hshow⟩ := ih hr
      exact ⟨k, .tail _ hk, hshow⟩

theorem Turn.shown (turn : Turn w (.listed found given) w') {before : List DeviceId}
    (acc : w.registry.Accounted before) (room : (before ++ given).length < idLimit) :
    ∃ records, result (Worker.perform .getDevices) w = .devices (.succeeded records) ∧
      w'.registry.ShownBy (found.map (Host.location η)) records ∧
      List.Forall₂ Shows (w'.registry.listed (found.map (Host.location η))) records := by
  obtain ⟨-, distinct, hacc, hw', records, hresult, hshows⟩ := turn.registry_listed acc room
  have hacc' : w'.registry.Accounted (before ++ given) := turn.accounted acc room
  have horder : records.map (·.device) = w'.registry.present (found.map (Host.location η)) := by
    rw [map_device_of_shows hshows, hacc'.map_fst_listed]
  refine ⟨records, hresult, ⟨horder, ?_, fun id => ?_⟩, hshows⟩
  · rw [horder]
    exact hacc'.nodup_present distinct
  · rw [horder, hw', hacc.present_retain]
    exact hacc.contains_retain_iff _ id

/-- A place that is known keeps its id when a device is there. -/
theorem Turn.keeps_id (turn : Turn w (.listed found given) w') {before : List DeviceId}
    (acc : w.registry.Accounted before) (room : (before ++ given).length < idLimit)
    (hplace : place ∈ found.map (Host.location η)) {id : DeviceId}
    (hid : w.registry.locations.get? place = some id) :
    w'.registry.locations.get? place = some id := by
  obtain ⟨-, -, hacc, hw', -⟩ := turn.registry_listed acc room
  rw [hw', hacc.locations_retain, if_pos hplace]
  exact locations_identified_of_known (w := after (onHost Host.list) w) hid found

theorem find?_location (distinct : (found.map (Host.location η)).Nodup) {d : δ} (hd : d ∈ found) :
    found.find? (Host.location η · = Host.location η d) = some d := by
  induction found with
  | nil => cases hd
  | cons d' found ih =>
    obtain ⟨hnew, distinct⟩ := List.nodup_cons.mp distinct
    rw [List.find?_cons]
    rcases List.mem_cons.mp hd with rfl | hd
    · rw [decide_eq_true rfl]
    · have hne : Host.location η d' ≠ Host.location η d :=
        fun heq => hnew (heq ▸ List.mem_map.mpr ⟨d, hd, rfl⟩)
      rw [decide_eq_false hne]
      exact ih distinct hd

/-- What is entered at a place was admitted, when it was there. -/
theorem admitted_of_entered {filters : List String} {known : KnownDevice δ}
    (hentered : entered η filters place h = some known) :
    admitted? η filters known.device = some known ∧ known.location = place := by
  induction h using List.reverseRecOn generalizing known with
  | nil => cases hentered
  | append_singleton h e ih =>
    rw [entered_snoc] at hentered
    cases e with
    | refused => exact ih hentered
    | other => exact ih hentered
    | listed found given =>
      obtain ⟨d, hfind, hor⟩ := Option.bind_eq_some_iff.mp hentered
      rcases Option.or_eq_some_iff.mp hor with hbefore | ⟨-, hadmitted⟩
      · exact ih hbefore
      · obtain ⟨hdevice, hlocation, -⟩ := admitted?_eq_some hadmitted
        refine ⟨hdevice ▸ hadmitted, hlocation.trans ?_⟩
        simpa using List.find?_some (p := fun d => decide (Host.location η d = place)) hfind

/-- **Ids are stable.**  In every run, with fewer ids given out than there are: the
tables of devices and of places are in step, and no id is given out twice; a list
that is refused changes nothing; a list shows exactly what is registered, which is
what was there before or is admitted now; and what one list registers keeps its id
in the next, as long as a device is at its place. -/
theorem Run.ids_stable {host : η} {filters : List String}
    (run : Run ({ host, filters } : Worker η δ) h w) (turn : Turn w e w')
    (few : (givenIn (h ++ [e])).length < idLimit) :
    w'.registry.Accounted (givenIn (h ++ [e])) ∧
    (e = .refused →
      (∃ reason, result (Worker.perform .getDevices) w = .devices (.failed reason)) ∧
        w'.registry = w.registry) ∧
    ∀ found given, e = .listed found given →
      (∃ records, result (Worker.perform .getDevices) w = .devices (.succeeded records) ∧
        w'.registry.ShownBy (found.map (Host.location η)) records) ∧
      (∀ d ∈ found, w'.registry.known? (Host.location η d) =
        (w.registry.known? (Host.location η d)).or (admitted? η filters d)) ∧
      ∀ w₀ between, Run w₀ between w → (∀ e ∈ between, ¬ e.IsList) →
        ∀ place ∈ found.map (Host.location η), ∀ id,
          w₀.registry.locations.get? place = some id →
            w'.registry.locations.get? place = some id := by
  have hfew : (givenIn h).length < idLimit := by
    rw [givenIn_snoc, List.length_append] at few
    omega
  have hw : Followed filters h w := run.followed (.new host filters) hfew
  have hw' : Followed filters (h ++ [e]) w' := hw.turn turn few
  rw [givenIn_snoc] at few
  refine ⟨hw'.accounted, ?_, ?_⟩
  · rintro rfl
    cases turn with
    | refused e hlist =>
      obtain ⟨hanswer, hregistry⟩ := getDevices_refused hlist
      exact ⟨⟨_, by rw [result_perform, hanswer]⟩, hregistry⟩
  · rintro found given rfl
    obtain ⟨records, hanswer, hshown, -⟩ := turn.shown hw.accounted few
    refine ⟨⟨records, hanswer, hshown⟩, fun d hd => ?_, ?_⟩
    · obtain ⟨-, distinct, -⟩ := turn.registry_listed hw.accounted few
      rw [turn.known? hw.accounted few, hw.passes, Event.entering, find?_location distinct hd,
        Option.bind_some]
    · intro w₀ between idle hbetween place hplace id hid
      rw [← idle.keeps hbetween] at hid
      exact turn.keeps_id hw.accounted few hplace hid

end Turns

/-! ## A device that takes the place of another -/

/-- A device on the first bus. -/
def busDevice (address : UInt8) (vendor product : UInt16) : ScriptedDevice where
  location := ⟨1, address⟩
  descriptor := .ok ⟨vendor, product, 0x0100, none, none, none, 1⟩
  strings := []
  configs := []
  active := .ok 0

/-- What is plugged in at first. -/
def firstDevices : List ScriptedDevice := [busDevice 1 0x1234 0x5678]

/-- What is plugged in later: another device is in the place of the first. -/
def laterDevices : List ScriptedDevice := [busDevice 1 0x4321 0x8765, busDevice 2 0x1234 0x5678]

/-- A worker that has listed the first devices. -/
def enumerated : Worker ScriptedHost ScriptedDevice :=
  after (perform .getDevices) { host := { devices := firstDevices } }

/-- The worker that is to list the later ones. -/
def replaced : Worker ScriptedHost ScriptedDevice :=
  { enumerated with host := { devices := laterDevices } }

def replacing : List (Event ScriptedDevice) := [.listed firstDevices [⟨1⟩], .other]

theorem run_replacing : Run { host := { devices := firstDevices } } replacing replaced :=
  ((Run.refl _).snoc (.listed _ firstDevices rfl (by decide))).snoc (.hostChange _ _)

theorem turn_replaced :
    Turn replaced (.listed laterDevices [⟨2⟩]) (after (perform .getDevices) replaced) :=
  .listed replaced laterDevices rfl (by decide)

/-- The id of the first device stays with its place, which another device has taken. -/
theorem ids_stable_replaced :
    (givenIn (replacing ++ [.listed laterDevices [⟨2⟩]])).length < idLimit ∧
    Run { host := { devices := firstDevices } } replacing replaced ∧
    Turn replaced (.listed laterDevices [⟨2⟩]) (after (perform .getDevices) replaced) ∧
      (after (perform .getDevices) replaced).registry.Accounted [⟨1⟩, ⟨2⟩] ∧
      (after (perform .getDevices) replaced).registry.locations.get? ⟨1, 1⟩ = some ⟨1⟩ := by
  have few : (givenIn (replacing ++ [.listed laterDevices [⟨2⟩]])).length < idLimit := by decide
  obtain ⟨accounted, -, listed⟩ := run_replacing.ids_stable turn_replaced few
  obtain ⟨-, -, keeps⟩ := listed _ _ rfl
  have noList : ∀ e ∈ ([] : List (Event ScriptedDevice)), ¬ e.IsList := by simp
  have taken : ⟨1, 1⟩ ∈ laterDevices.map (Host.location ScriptedHost) := by decide
  have known : replaced.registry.locations.get? ⟨1, 1⟩ = some ⟨1⟩ := rfl
  have kept := keeps replaced [] (.refl _) noList ⟨1, 1⟩ taken ⟨1⟩ known
  exact ⟨few, run_replacing, turn_replaced, accounted, kept⟩

section Turns
variable {w w' : Worker η δ} {h : List (Event δ)} {given : List DeviceId} {found : List δ}

variable (η) in
/-- The host reports these ids for a device. -/
def HasIds (device : δ) (vendor product : UInt16) : Prop :=
  ∃ descriptor, Host.descriptor η device = .ok descriptor ∧ descriptor.vendor = vendor ∧
    descriptor.product = product

/-- **A record shows the device that was entered at its place**, and this passes the
filters.  It is right about the device that is there now exactly if the two have the
same ids. -/
theorem Run.shows_entered {host : η} {filters : List String}
    (run : Run ({ host, filters } : Worker η δ) h w)
    (turn : Turn w (.listed found given) w')
    (few : (givenIn (h ++ [.listed found given])).length < idLimit) :
    ∃ records, result (Worker.perform .getDevices) w = .devices (.succeeded records) ∧
      ∀ r ∈ records, ∃ d ∈ found, ∃ first,
        w'.registry.locations.get? (Host.location η d) = some r.device ∧
        entered η filters (Host.location η d) (h ++ [.listed found given]) = some first ∧
        HasIds η first.device r.vendor r.product ∧
        Filter.allow filters r.vendor r.product = true ∧
        (HasIds η d r.vendor r.product ↔
          ∃ vendor product, HasIds η first.device vendor product ∧ HasIds η d vendor product) := by
  have hfew : (givenIn h).length < idLimit := by
    rw [givenIn_snoc, List.length_append] at few
    omega
  have hw : Followed filters h w := run.followed (.new host filters) hfew
  have hw' : Followed filters (h ++ [.listed found given]) w' := hw.turn turn few
  rw [givenIn_snoc] at few
  obtain ⟨records, hanswer, -, hshows⟩ := turn.shown hw.accounted few
  refine ⟨records, hanswer, fun r hr => ?_⟩
  obtain ⟨⟨id, first⟩, hlisted, hshow⟩ := exists_of_forall₂ hshows hr
  obtain ⟨hplace, hid, hknown⟩ := hw'.accounted.of_mem_listed hlisted
  obtain ⟨d, hd, hlocation⟩ := List.mem_map.mp hplace
  have hentered := (hw'.known first.location).symm.trans hknown
  obtain ⟨hadmitted, -⟩ := admitted_of_entered hentered
  obtain ⟨-, -, hread, hallow⟩ := admitted?_eq_some hadmitted
  rw [← hshow.vendor, ← hshow.product] at hallow
  have hfirst : HasIds η first.device r.vendor r.product :=
    ⟨first.descriptor, hread, hshow.vendor.symm, hshow.product.symm⟩
  refine ⟨d, hd, first, by rw [hlocation, hid, hshow.device], by rw [hlocation, hentered], hfirst,
    hallow, fun h => ⟨_, _, hfirst, h⟩, ?_⟩
  rintro ⟨vendor, product, ⟨descriptor, hread', rfl, rfl⟩, h⟩
  rw [hread] at hread'
  cases hread'
  rwa [hshow.vendor, hshow.product]

end Turns

theorem shows_entered_replaced :
    (givenIn (replacing ++ [.listed laterDevices [⟨2⟩]])).length < idLimit ∧
    Run { host := { devices := firstDevices } } replacing replaced ∧
    Turn replaced (.listed laterDevices [⟨2⟩]) (after (perform .getDevices) replaced) ∧
    ∃ records, result (perform .getDevices) replaced = .devices (.succeeded records) ∧
      ∀ r ∈ records, Filter.allow [] r.vendor r.product = true ∧
        ∃ d ∈ laterDevices, ∃ first,
          entered ScriptedHost [] d.location (replacing ++ [.listed laterDevices [⟨2⟩]]) =
            some first ∧ HasIds ScriptedHost first.device r.vendor r.product := by
  have few : (givenIn (replacing ++ [.listed laterDevices [⟨2⟩]])).length < idLimit := by decide
  obtain ⟨records, hanswer, hrecords⟩ := run_replacing.shows_entered turn_replaced few
  refine ⟨few, run_replacing, turn_replaced, records, hanswer, fun r hr => ?_⟩
  obtain ⟨d, hd, first, -, hentered, hids, hallow, -⟩ := hrecords r hr
  exact ⟨hallow, d, hd, first, hentered, hids⟩

/-- The record of the first device, and of one like it. -/
def recordAt (id : UInt32) : DeviceRecord where
  device := ⟨id⟩
  vendor := 0x1234
  product := 0x5678
  version := some 0x0100
  productName := none
  manufacturerName := none
  serialNumber := none

/-- **A record may be out of date**: the device at its place has other ids than it says. -/
theorem exists_outdated_record :
    ∃ (h : List (Event ScriptedDevice)) (w w' : Worker ScriptedHost ScriptedDevice)
      (found : List ScriptedDevice) (given : List DeviceId) (records : List DeviceRecord)
      (r : DeviceRecord) (d : ScriptedDevice),
      Run { host := { devices := firstDevices } } h w ∧ Turn w (.listed found given) w' ∧
        result (perform .getDevices) w = .devices (.succeeded records) ∧
        r ∈ records ∧ d ∈ found ∧ w'.locations.get? d.location = some r.device ∧
        ¬ HasIds ScriptedHost d r.vendor r.product := by
  have hanswer : result getDevices replaced = .succeeded [recordAt 1, recordAt 2] := by
    decide +kernel
  have hplace : (after (perform .getDevices) replaced).locations.get?
      (busDevice 1 0x4321 0x8765).location = some (recordAt 1).device := by
    decide +kernel
  refine ⟨replacing, replaced, _, laterDevices, [⟨2⟩], _, recordAt 1, busDevice 1 0x4321 0x8765,
    run_replacing, turn_replaced, by rw [result_perform, hanswer], .head _, .head _, hplace, ?_⟩
  rintro ⟨descriptor, hread, hvendor, -⟩
  cases hread
  cases hvendor

end Worker
end UsbHost
