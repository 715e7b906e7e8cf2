import UsbHost.Proofs.Descriptor.Expressible
import UsbHost.Record.Sample

/-! # The one active configuration

Of the records of a device's configurations the one that is active is translated, and
the others are only counted.  So what is wrong with a record stops the program only if
this record is the one that is active (`ofActive_selects`).
-/
namespace UsbHost

/-- A record has more than a descriptor can count, or an isochronous endpoint of which it
does not say how it keeps its clock or what it is for. -/
def ConfigRecord.IsMalformed (r : ConfigRecord) : Prop :=
  255 < r.interfaces.length ∨ ∃ i ∈ r.interfaces, 255 < i.endpoints.length ∨
    ∃ e ∈ i.endpoints, e.kind = .isochronous ∧ (e.synchronization = none ∨ e.usage = none)

theorem EndpointRecord.not_isComplete_iff {e : EndpointRecord} :
    ¬ e.IsComplete ↔ e.kind = .isochronous ∧ (e.synchronization = none ∨ e.usage = none) := by
  unfold IsComplete
  cases e.synchronization <;> cases e.usage <;> simp

/-- What cannot be counted and gone through is too long, or has an item that is wrong. -/
theorem not_counted_iff {α : Type} {as : List α} {P : α → Prop} :
    ¬ (as.length ≤ 255 ∧ ∀ a ∈ as, P a) ↔ 255 < as.length ∨ ∃ a ∈ as, ¬ P a := by
  rw [Classical.not_and_iff_not_or_not, Nat.not_le]
  simp only [Classical.not_forall, exists_prop]

/-- **What has no descriptor is malformed.** -/
theorem ConfigRecord.isMalformed_iff {r : ConfigRecord} : r.IsMalformed ↔ ¬ r.IsExpressible := by
  rw [ConfigRecord.isExpressible_iff, not_counted_iff]
  simp only [InterfaceRecord.isExpressible_iff, not_counted_iff, EndpointRecord.not_isComplete_iff]
  rfl

namespace Descriptor
variable {records : List ConfigRecord}

/-- A record cannot be translated exactly if it is malformed. -/
theorem exists_fault_iff {r : ConfigRecord} :
    (∃ fault, ofConfig r = .error fault) ↔ r.IsMalformed := by
  rw [exists_error_iff, isOk_ofConfig_iff, ConfigRecord.isMalformed_iff]

/-! ## Selecting a record -/

/-- There is no active record, or one, which is translated, or there are several. -/
theorem ofActive_cases (records : List ConfigRecord) :
    (records.filter (·.active) = [] ∧ ofActive records = .ok (.error .noneActive)) ∨
    (∃ r, records.filter (·.active) = [r] ∧ ofActive records = (ofConfig r).map .ok) ∨
    (2 ≤ (records.filter (·.active)).length ∧
      ofActive records = .ok (.error (.severalActive (records.filter (·.active)).length))) := by
  unfold ofActive
  generalize records.filter (·.active) = active
  rcases active with _ | ⟨r, _ | ⟨r', rest⟩⟩
  · exact .inl ⟨rfl, rfl⟩
  · refine .inr (.inl ⟨r, rfl, ?_⟩)
    dsimp only
    cases ofConfig r <;> rfl
  · exact .inr (.inr ⟨Nat.le_add_left 2 _, rfl⟩)

/-- A translation is none of the errors. -/
theorem map_ofConfig_ne (r : ConfigRecord) (e : ActiveConfigError) :
    (ofConfig r).map Except.ok ≠ .ok (.error e) := by
  cases ofConfig r <;> nofun

theorem ofActive_eq_none_iff :
    ofActive records = .ok (.error .noneActive) ↔ records.filter (·.active) = [] := by
  rcases ofActive_cases records with ⟨hactive, h⟩ | ⟨r, hactive, h⟩ | ⟨htwo, h⟩
  · exact iff_of_true h hactive
  · rw [h, hactive]
    exact iff_of_false (map_ofConfig_ne r _) (List.cons_ne_nil _ _)
  · rw [h]
    refine iff_of_false nofun ?_
    intro hactive
    rw [hactive, List.length_nil] at htwo
    omega

theorem ofActive_eq_several_iff {n : Nat} :
    ofActive records = .ok (.error (.severalActive n)) ↔
      2 ≤ n ∧ (records.filter (·.active)).length = n := by
  rcases ofActive_cases records with ⟨hactive, h⟩ | ⟨r, hactive, h⟩ | ⟨htwo, h⟩
  · rw [h, hactive, List.length_nil]
    exact iff_of_false nofun (by omega)
  · rw [h, hactive, List.length_singleton]
    exact iff_of_false (map_ofConfig_ne r _) (by omega)
  · rw [h]
    constructor
    · intro heq
      cases heq
      exact ⟨htwo, rfl⟩
    · rintro ⟨-, rfl⟩
      rfl

/-- Any other answer is the translation of the one active record. -/
theorem ofActive_eq_iff {x : Except Fault (Except ActiveConfigError ConfigDescriptor)}
    (hx : ∀ e, x ≠ .ok (.error e)) :
    ofActive records = x ↔ ∃ r, records.filter (·.active) = [r] ∧ (ofConfig r).map .ok = x := by
  rcases ofActive_cases records with ⟨hactive, h⟩ | ⟨r, hactive, h⟩ | ⟨htwo, h⟩
  · rw [h, hactive]
    exact iff_of_false (hx _).symm nofun
  · rw [h, hactive]
    constructor
    · intro heq
      exact ⟨r, rfl, heq⟩
    · rintro ⟨_, ⟨⟩, heq⟩
      exact heq
  · rw [h]
    refine iff_of_false (hx _).symm ?_
    rintro ⟨r, hactive, -⟩
    rw [hactive, List.length_singleton] at htwo
    omega

/-- **Selecting the active configuration looks at the active records alone.**  Without one,
or with several, that is the answer, whatever they are.  If there is one, the answer is its
translation, and the program stops exactly if it is malformed. -/
theorem ofActive_selects (records : List ConfigRecord) :
    (ofActive records = .ok (.error .noneActive) ↔ ∀ r ∈ records, ¬ r.active) ∧
    (∀ n, ofActive records = .ok (.error (.severalActive n)) ↔
      2 ≤ n ∧ records.countP (·.active) = n) ∧
    (∀ d, ofActive records = .ok (.ok d) ↔
      ∃ r, records.filter (·.active) = [r] ∧ ofConfig r = .ok d) ∧
    ((∃ fault, ofActive records = .error fault) ↔
      ∃ r, records.filter (·.active) = [r] ∧ r.IsMalformed) := by
  refine ⟨?_, ?_, ?_, ?_⟩
  · rw [ofActive_eq_none_iff, List.filter_eq_nil_iff]
  · intro n
    rw [ofActive_eq_several_iff, List.countP_eq_length_filter]
  · intro d
    rw [ofActive_eq_iff (x := .ok (.ok d)) (by simp)]
    refine exists_congr fun r => and_congr_right fun _ => ?_
    cases ofConfig r <;> simp [Except.map]
  · have hfault : ∀ fault, ofActive records = .error fault ↔
        ∃ r, records.filter (·.active) = [r] ∧ ofConfig r = .error fault := by
      intro fault
      rw [ofActive_eq_iff (x := .error fault) (by simp)]
      refine exists_congr fun r => and_congr_right fun _ => ?_
      cases ofConfig r <;> simp [Except.map]
    simp only [hfault, ← exists_fault_iff]
    rw [exists_comm]
    simp only [exists_and_left]

/-- Two configurations, of which one is active.  The second has an isochronous endpoint that does
not say how it keeps its clock. -/
def twoConfigs (first : Bool) : List ConfigRecord :=
  let endpoint := { Sample.bulkEndpoint 0x81 512 with kind := .isochronous }
  [Sample.config 1 first [], Sample.config 2 (!first) [Sample.interface 0 [endpoint]]]

/-- The endpoint only matters while its configuration is active. -/
theorem ofActive_selects_second :
    (∃ d, ofActive (twoConfigs true) = .ok (.ok d) ∧ d.value = 1) ∧
      ∃ fault, ofActive (twoConfigs false) = .error fault := by
  obtain ⟨-, -, hok, -⟩ := ofActive_selects (twoConfigs true)
  obtain ⟨-, -, -, hfault⟩ := ofActive_selects (twoConfigs false)
  refine ⟨⟨_, (hok _).mpr ⟨Sample.config 1 true [], rfl, rfl⟩, rfl⟩, hfault.mpr ⟨_, rfl, ?_⟩⟩
  exact .inr ⟨_, .head _, .inr ⟨_, .head _, rfl, .inl rfl⟩⟩

end Descriptor

end UsbHost
