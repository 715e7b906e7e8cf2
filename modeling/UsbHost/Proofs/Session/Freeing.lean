import Mathlib.Data.List.Induction
import UsbHost.Platform.Scripted
import UsbHost.Proofs.Session.EventLoop
import UsbHost.Record.Sample

/-! # What a freed transfer holds

Freeing takes the handle, the buffer and the callback from a transfer, and takes
it out of the tracker of its handle's context.  Only two things can bring
something back before it is filled again.  An activation that is busy with the
transfer puts back the callback that it runs, and writes a successful response
into a buffer that it makes (`Stage.Brings`).  And a transfer that was filled
anew while another context tracked it is still tracked there, so it may complete
and be finished once more.

Between the freeing and the next filling the transfer has no handle, so it
cannot be submitted, and what is still to come is decided when it is freed:
`Run.holdsNothing_iff`.
-/
namespace UsbHost

namespace Record
variable {σ κ : Type}

/-- The step fills a transfer, or assigns what it is to hold. -/
def Fills (id : TransferId) : Record σ κ → Prop
  | .called call => call.Fills id
  | _ => False

/-- The step frees a transfer. -/
def Frees (id : TransferId) : Record σ κ → Prop
  | .called call => call.Frees id
  | .freed _ id' => id' = id
  | _ => False

/-- The step takes a transfer out of a tracker, in which it had succeeded. -/
def Succeeds (id : TransferId) : Record σ κ → Prop
  | .extracted _ _ id' outcome => id' = id ∧ outcome.isSuccessful = true
  | _ => False

end Record

/-- The activation is going to leave something in a transfer: the callback it
has taken, or a buffer for the response it brings. -/
def Stage.Brings {κ : Type} (id : TransferId) : Stage κ → Prop
  | .extracted id' outcome => id' = id ∧ outcome.isSuccessful = true
  | .taken id' callback => id' = id ∧ callback ≠ none
  | .running id' _ => id' = id
  | .idle | .freeing _ | .done => False

theorem Stage.Brings.concerns {κ : Type} {stage : Stage κ} {id : TransferId}
    (h : stage.Brings id) : stage.Concerns id := by
  cases stage with
  | extracted | taken => exact h.1
  | running => exact h
  | _ => exact h.elim

/-- A transfer holds nothing, and nobody tracks it. -/
structure Session.HoldsNothing {σ κ : Type} (s : Session σ κ) (id : TransferId) : Prop where
  handle : (s.transfer id).handle = none
  buffer : (s.transfer id).buffer = none
  callback : (s.transfer id).callback = none
  untracked : ∀ c, (s.tracker c).isTracked id = false

namespace EventLoop
variable {σ κ : Type}

/-- A transfer has no buffer and no callback, and no activation brings one. -/
structure Bare (m : EventLoop σ κ) (id : TransferId) : Prop where
  buffer : (m.session.transfer id).buffer = none
  callback : (m.session.transfer id).callback = none
  none_brings : ∀ i, ¬ (m.stage i).Brings id

/-! ## One step -/

section Step
open Session
variable {m m' : EventLoop σ κ} {r : Record σ κ} {id : TransferId}

theorem brings_become {i : Nat} {stage : Stage κ} {s : Session σ κ} :
    (∀ j, ¬ ((m.become i stage s).stage j).Brings id) ↔
      ¬ stage.Brings id ∧ ∀ j, j ≠ i → ¬ (m.stage j).Brings id := by
  refine ⟨fun h => ⟨?_, fun j hj => ?_⟩, fun ⟨hi, hne⟩ j => ?_⟩
  · simpa [become] using h i
  · simpa [become, hj] using h j
  · unfold become
    dsimp only
    split
    · exact hi
    · rename_i hj
      exact hne j hj

theorem brings_split (i : Nat) :
    (∀ j, ¬ (m.stage j).Brings id) ↔
      ¬ (m.stage i).Brings id ∧ ∀ j, j ≠ i → ¬ (m.stage j).Brings id := by
  refine ⟨fun h => ⟨h i, fun j _ => h j⟩, fun ⟨hi, hne⟩ j => ?_⟩
  by_cases hj : j = i
  · exact hj ▸ hi
  · exact hne j hj

/-- Whether a transfer stays bare when activation `i` moves on is decided by
what that leaves in the transfer and goes on to bring. -/
theorem bare_become {i : Nat} {stage : Stage κ} {s : Session σ κ} {P : Prop}
    (h : ((s.transfer id).buffer = none ∧ (s.transfer id).callback = none ∧ ¬ stage.Brings id) ↔
      ((m.session.transfer id).buffer = none ∧ (m.session.transfer id).callback = none ∧
        ¬ (m.stage i).Brings id) ∧ P) :
    Bare (m.become i stage s) id ↔ Bare m id ∧ P := by
  constructor
  · rintro ⟨hbuffer, hcallback, hbrings⟩
    obtain ⟨hstage, hothers⟩ := brings_become.mp hbrings
    obtain ⟨⟨hb, hc, hs⟩, hp⟩ := h.mp ⟨hbuffer, hcallback, hstage⟩
    exact ⟨⟨hb, hc, (brings_split i).mpr ⟨hs, hothers⟩⟩, hp⟩
  · rintro ⟨⟨hbuffer, hcallback, hbrings⟩, hp⟩
    obtain ⟨hstage, hothers⟩ := (brings_split i).mp hbrings
    obtain ⟨hb, hc, hs⟩ := h.mpr ⟨⟨hbuffer, hcallback, hstage⟩, hp⟩
    exact ⟨hb, hc, brings_become.mpr ⟨hs, hothers⟩⟩

variable [Platform σ]

/-- Steps that neither fill nor free a transfer leave it the handle. -/
theorem Step.handle (now : Step m r m') (kept : ¬ r.Fills id ∧ ¬ r.Frees id) :
    (m'.session.transfer id).handle = (m.session.transfer id).handle := by
  cases now with
  | call call known => exact (call.sameHoldings m.session).handle id kept
  | nothing i c | extract i c => exact (poll_sameHoldings c m.session).handle id (by trivial)
  | finish i id' outcome callback extracted took =>
    obtain ⟨ns, h⟩ := after_finish m.session id' outcome
    rw [session_become, h]
    exact field_alter Transfer.handle fun _ => Transfer.conclude_handle ..
  | run i id' callback taken => rfl
  | restore i id' callback free returns flagged => exact field_alter Transfer.handle fun _ => rfl
  | free i id' freeing => exact (keeps_holdings_free id' m.session).handle id (Ne.symm kept.2)

/-- **What a step that neither fills nor frees a bare transfer leaves in it.** -/
theorem Step.bare_iff (hv : m.Valid) (now : Step m r m') (kept : ¬ r.Fills id ∧ ¬ r.Frees id) :
    Bare m' id ↔ Bare m id ∧ ¬ r.Succeeds id := by
  cases now with
  | call call known =>
    have same := call.sameHoldings m.session
    have hbuffer := same.buffer id kept
    have hcallback := same.callback id kept
    exact ⟨fun h => ⟨⟨hbuffer ▸ h.buffer, hcallback ▸ h.callback, h.none_brings⟩, fun hs => hs⟩,
      fun h => ⟨hbuffer.trans h.1.buffer, hcallback.trans h.1.callback, h.1.none_brings⟩⟩
  | nothing i c idle none =>
    have same := poll_sameHoldings (K := fun _ => True) c m.session
    refine bare_become ?_
    rw [same.buffer id trivial, same.callback id trivial, idle]
    simp [Stage.Brings, Record.Succeeds]
  | extract i c id' outcome idle first =>
    have same := poll_sameHoldings (K := fun _ => True) c m.session
    refine bare_become ?_
    rw [same.buffer id trivial, same.callback id trivial, idle]
    simp [Stage.Brings, Record.Succeeds, and_assoc]
  | finish i id' outcome callback extracted took =>
    refine bare_become ?_
    rw [extracted]
    by_cases h : id' = id
    · subst h
      have hid := hv.concerned i id' (by rw [extracted]; rfl)
      -- A response that succeeds makes a buffer, and the callback is brought from now on.
      rw [result_finish] at took
      rw [transfer_after_finish outcome hid, ← Except.ok.inj took]
      simp [Stage.Brings, Record.Succeeds, Transfer.conclude_buffer_eq_none]
      tauto
    · have same := finish_sameHoldings m.session id' outcome
      rw [same.buffer id (Ne.symm h), same.callback id (Ne.symm h)]
      simp [Stage.Brings, Record.Succeeds, h]
  | run i id' callback taken =>
    refine bare_become ?_
    rw [taken]
    simp [Stage.Brings, Record.Succeeds]
  | restore i id' callback free returns flagged =>
    have hover : ¬ (if free then Stage.freeing id' else Stage.done : Stage κ).Brings id := by
      cases free <;> exact fun h => h
    refine bare_become ?_
    by_cases h : id' = id
    · subst h
      have hid := hv.concerned i id' (Stage.concerns_of_returns returns)
      -- What is put back now is what the activation was to bring.
      rw [after_restore, transfer_alter_self hid]
      cases hs : m.stage i with
      | taken id callback' =>
        rw [hs] at returns
        cases callback' with
        | none =>
          cases returns
          have hbefore : ¬ (Stage.taken id' none : Stage κ).Brings id' := fun hb => hb.2 rfl
          simp [hover, hbefore, Record.Succeeds]
        | some callback' => cases returns
      | running id callback' =>
        rw [hs] at returns
        cases returns
        simp [Stage.Brings, Record.Succeeds]
      | _ => rw [hs] at returns; cases returns
    · rw [after_restore, transfer_alter_of_ne (Ne.symm h)]
      have hbefore : ¬ (m.stage i).Brings id := fun hb =>
        h (Stage.concerns_unique (Stage.concerns_of_returns returns) hb.concerns)
      simp [hover, hbefore, Record.Succeeds]
  | free i id' freeing =>
    have same := keeps_holdings_free id' m.session
    have h : id ≠ id' := Ne.symm kept.2
    refine bare_become ?_
    rw [same.buffer id h, same.callback id h, freeing]
    simp [Stage.Brings, Record.Succeeds]

/-- A transfer without a handle is only lost by trackers. -/
theorem Step.tracked_iff (hv : m.Valid) (now : Step m r m') (kept : ¬ r.Frees id)
    (hhandle : (m.session.transfer id).handle = none) (c : ContextId) :
    (m'.session.tracker c).isTracked id = true ↔
      (m.session.tracker c).isTracked id = true ∧ ∀ i outcome, .extracted i c id outcome ≠ r := by
  cases now with
  | call call known =>
    rw [call.tracked_of_no_handle hv.sound hhandle kept]
    simp
  | nothing i c' idle none =>
    rw [result_poll] at none
    simp [become, isTracked_after_poll hv.sound, Except.ok.inj none]
  | extract i c' id' outcome idle first =>
    rw [result_poll] at first
    have hother : (∀ i' outcome', Record.extracted i' c id outcome' ≠
        (.extracted i c' id' outcome : Record σ κ)) ↔ c ≠ c' ∨ id' ≠ id := by
      constructor
      · intro h
        by_cases hc : c = c'
        · exact Or.inr fun hid => h i outcome (by rw [hc, hid])
        · exact Or.inl hc
      · rintro (hc | hid) i' outcome' heq <;> cases heq
        · exact hc rfl
        · exact hid rfl
    rw [session_become, isTracked_after_poll hv.sound, Except.ok.inj first, hother]
    simp
  | finish i id' outcome callback extracted took =>
    have same := (finish_sameTracking (K := fun _ => True) m.session id' outcome hv.sound).2
    rw [session_become, same c id trivial]
    simp
  | run i id' callback taken => simp [become]
  | restore i id' callback free returns flagged =>
    simp [become, after_restore]
  | free i id' freeing =>
    have h : id ≠ id' := Ne.symm kept
    rw [session_become, (keeps_tracking_free id' m.session hv.sound).2 c id h]
    simp

end Step

/-! ## From the freeing on -/

section Run
open Session
variable [Platform σ] {platform : σ} {m m' : EventLoop σ κ} {id : TransferId}

/-- From a transfer without a handle on, as long as it is neither filled nor
freed. -/
theorem Run.since_freed {since : List (Record σ κ)} (run : Run m since m') (hv : m.Valid)
    (hhandle : (m.session.transfer id).handle = none)
    (kept : ∀ r ∈ since, ¬ r.Fills id ∧ ¬ r.Frees id) :
    m'.Valid ∧ (m'.session.transfer id).handle = none ∧
      (Bare m' id ↔ Bare m id ∧ ∀ r ∈ since, ¬ r.Succeeds id) ∧
      ∀ c, (m'.session.tracker c).isTracked id = true ↔
        (m.session.tracker c).isTracked id = true ∧
          ∀ i outcome, .extracted i c id outcome ∉ since := by
  induction run with
  | refl => exact ⟨hv, hhandle, by simp, by simp⟩
  | @step since m₁ m₂ r before now ih =>
    obtain ⟨hv₁, hhandle₁, hbare, htracked⟩ := ih fun r h => kept r (by simp [h])
    have hr := kept r (by simp)
    refine ⟨hv₁.next now, (now.handle hr).trans hhandle₁, ?_, fun c => ?_⟩
    · rw [now.bare_iff hv₁ hr, hbare, and_assoc]
      simp [or_imp, forall_and]
    · rw [now.tracked_iff hv₁ hr.2 hhandle₁, htracked, and_assoc]
      simp only [List.mem_append, List.mem_singleton, not_or, forall_and]

/-- What a step that frees a transfer leaves of it. -/
theorem Step.frees {r : Record σ κ} (now : Step m r m') (frees : r.Frees id) :
    (m'.session.transfer id).handle = none ∧ (m'.session.transfer id).buffer = none ∧
      (m'.session.transfer id).callback = none := by
  cases now with
  | call call known =>
    cases call with
    | free id' =>
      cases frees
      rw [Call.after_free]
      exact transfer_after_free m.session id
    | _ => exact frees.elim
  | free i id' freeing =>
    cases frees
    exact transfer_after_free m.session id
  | _ => exact frees.elim

/-- **When a freed transfer holds nothing.**  A step frees a transfer, whoever
takes it; then it is neither filled nor freed, and in the end no activation is
busy with it.  It holds nothing and is not tracked exactly if
* when it was freed, no activation was to bring a callback or a response to it,
* no completion of it has succeeded since, and
* every context that still tracked it then has extracted it. -/
theorem Run.holdsNothing_iff {before since : List (Record σ κ)} {m₀ m₁ m₂ : EventLoop σ κ}
    {r : Record σ κ} (run : Run (start platform) before m₀) (now : Step m₀ r m₁)
    (frees : r.Frees id) (later : Run m₁ since m₂)
    (kept : ∀ r ∈ since, ¬ r.Fills id ∧ ¬ r.Frees id) (idle : ∀ i, ¬ (m₂.stage i).Concerns id) :
    m₂.session.HoldsNothing id ↔
      (∀ i, ¬ (m₁.stage i).Brings id) ∧ (∀ r ∈ since, ¬ r.Succeeds id) ∧
        ∀ c, (m₁.session.tracker c).isTracked id = true →
          ∃ i outcome, .extracted i c id outcome ∈ since := by
  obtain ⟨hhandle, hbuffer, hcallback⟩ := now.frees frees
  obtain ⟨-, hhandle₂, hbare, htracked⟩ := later.since_freed (run.valid.next now) hhandle kept
  -- Freed, the transfer holds nothing: whether it is bare is up to the activations.
  have hbare₁ : Bare m₁ id ↔ ∀ i, ¬ (m₁.stage i).Brings id :=
    ⟨Bare.none_brings, fun h => ⟨hbuffer, hcallback, h⟩⟩
  -- In the end it is the other way around, since no activation is busy with it.
  have hbare₂ : Bare m₂ id ↔
      (m₂.session.transfer id).buffer = none ∧ (m₂.session.transfer id).callback = none :=
    ⟨fun h => ⟨h.buffer, h.callback⟩, fun h => ⟨h.1, h.2, fun i hb => idle i hb.concerns⟩⟩
  have huntracked : (∀ c, (m₂.session.tracker c).isTracked id = false) ↔
      ∀ c, (m₁.session.tracker c).isTracked id = true →
        ∃ i outcome, .extracted i c id outcome ∈ since := by
    refine forall_congr' fun c => ?_
    rw [← Bool.not_eq_true, htracked c]
    simp only [not_and, not_forall, not_not]
  rw [hbare₁] at hbare
  rw [← huntracked, ← and_assoc, ← hbare, hbare₂]
  exact ⟨fun h => ⟨⟨h.buffer, h.callback⟩, h.untracked⟩, fun h => ⟨hhandle₂, h.1.1, h.1.2, h.2⟩⟩

end Run

/-! ## A transfer freed by its flag, and one freed in its own callback -/

/-- A transfer with the flag is freed when its callback returns. -/
theorem holdsNothing_freed_by_flag :
    ∃ (before : List (Record ScriptedPlatform Unit)) (m₀ m₁ : EventLoop ScriptedPlatform Unit),
      Run (start {}) before m₀ ∧ Step m₀ (.freed 0 ⟨1⟩) m₁ ∧ m₁.session.HoldsNothing ⟨1⟩ := by
  have filled := ((((Run.refl (m := (start {} : EventLoop ScriptedPlatform Unit))).step
    (.call (.openDevice ⟨0⟩ ⟨.default, Sample.device 1 0x1000 0x2000, 1⟩) (by rintro _ ⟨⟩))).step
    (.call (.allocTransfer 0) (by rintro _ ⟨⟩))).step
    (.call (.fillData ⟨1⟩ .bulk ⟨0⟩ 0x81 [] {} 0) (by rintro _ ⟨⟩; rfl))).step
    (.call (.assign ⟨1⟩ (.flags .freeTransfer)) (by rintro _ ⟨⟩; rfl))
  have completed := (filled.step (.call (.submit ⟨1⟩) (by rintro _ ⟨⟩; rfl))).step
    (.call (.deliver ⟨.default, ⟨⟨1⟩, 1⟩⟩ .canceled) (by rintro _ ⟨⟩))
  have returned := (((completed.step (.extract 0 .default ⟨1⟩ .canceled rfl rfl)).step
    (.finish 0 ⟨1⟩ .canceled (some {}) rfl rfl)).step (.run 0 ⟨1⟩ {} rfl)).step
    (.restore 0 ⟨1⟩ (some ⟨[], 1⟩) true rfl rfl)
  refine ⟨_, _, _, returned, .free 0 ⟨1⟩ rfl, ?_⟩
  refine (returned.holdsNothing_iff (.free 0 ⟨1⟩ rfl) rfl .refl (by simp) ?_).mpr
    ⟨?_, by simp, ?_⟩
  · rintro (_ | i) h <;> exact h
  · rintro (_ | i) h <;> exact h
  · rintro (_ | i) h <;> cases h

/-- A transfer whose callback frees it gets the callback back. -/
theorem exists_freed_in_callback :
    ∃ (before since : List (Record ScriptedPlatform Unit))
      (m₀ m₁ m₂ : EventLoop ScriptedPlatform Unit),
      Run (start {}) before m₀ ∧ Step m₀ (.called (.free ⟨1⟩)) m₁ ∧ Run m₁ since m₂ ∧
        (∀ r ∈ since, ¬ r.Fills ⟨1⟩ ∧ ¬ r.Frees ⟨1⟩) ∧ (∀ i, ¬ (m₂.stage i).Concerns ⟨1⟩) ∧
        (m₂.session.transfer ⟨1⟩).callback.isSome ∧ ¬ m₂.session.HoldsNothing ⟨1⟩ := by
  have filled := (((Run.refl (m := (start {} : EventLoop ScriptedPlatform Unit))).step
    (.call (.openDevice ⟨0⟩ ⟨.default, Sample.device 1 0x1000 0x2000, 1⟩) (by rintro _ ⟨⟩))).step
    (.call (.allocTransfer 0) (by rintro _ ⟨⟩))).step
    (.call (.fillData ⟨1⟩ .bulk ⟨0⟩ 0x81 [] {} 0) (by rintro _ ⟨⟩; rfl))
  have completed := (filled.step (.call (.submit ⟨1⟩) (by rintro _ ⟨⟩; rfl))).step
    (.call (.deliver ⟨.default, ⟨⟨1⟩, 1⟩⟩ .canceled) (by rintro _ ⟨⟩))
  have inside := ((completed.step (.extract 0 .default ⟨1⟩ .canceled rfl rfl)).step
    (.finish 0 ⟨1⟩ .canceled (some {}) rfl rfl)).step (.run 0 ⟨1⟩ {} rfl)
  refine ⟨_, _, _, _, _, inside, .call (.free ⟨1⟩) (by rintro _ ⟨⟩; rfl),
    Run.refl.step (.restore 0 ⟨1⟩ (some ⟨[], 1⟩) false rfl rfl), ?_, ?_, rfl, fun h => ?_⟩
  · rintro r (_ | ⟨_, ⟨⟩⟩)
    exact ⟨fun h => h, fun h => h⟩
  · rintro (_ | i) h <;> exact h
  · cases h.callback

end EventLoop
end UsbHost
