import Mathlib.Data.List.Induction
import UsbHost.Platform.Scripted
import UsbHost.Proofs.Session.EventLoop
import UsbHost.Proofs.Tracker.History
import UsbHost.Record.Sample

/-! # Which extractions run a callback

`finish` takes the callback out of the transfer and `restore` puts it back when
it has run.  In between the transfer has none, but it may be submitted again
and completed, so another activation can take it out of its tracker and find no
callback to run.

What a history says of a transfer's callback is `resting`; a run agrees with it
(`Run.callback_eq_resting`), and an activation that has finished a transfer runs
exactly what rested there (`Run.calls_of_extracted`).  So an extraction runs the
callback once if every activation that took it before has given it back
(`Home`), and otherwise never.
-/
namespace UsbHost

namespace Record
variable {σ κ : Type}

/-- The callback that a step runs. -/
def callback? : Record σ κ → Option (Callback κ)
  | .ran _ _ callback => some callback
  | _ => none

/-- The callback that rests in a transfer after a step, if `slot` rested there
before. -/
def rest (id : TransferId) (slot : Option (Callback κ)) : Record σ κ → Option (Callback κ)
  | .called call => (call.sets? id).getD slot
  | .finished _ id' _ _ => if id' = id then none else slot
  | .restored _ id' callback => if id' = id then slot.or callback else slot
  | .freed _ id' => if id' = id then none else slot
  | .nothing .. | .extracted .. | .ran .. => slot

/-- The step fills a transfer with a callback. -/
def Installs (id : TransferId) (callback : Callback κ) : Record σ κ → Prop
  | .called call => call.sets? id = some (some callback)
  | _ => False

/-- The step fills or frees a transfer, or assigns its callback. -/
def Sets (id : TransferId) : Record σ κ → Prop
  | .called call => call.sets? id ≠ none
  | .freed _ id' => id' = id
  | _ => False

/-- The step takes the callback out of a transfer to finish it. -/
def Takes (id : TransferId) : Record σ κ → Prop
  | .finished _ id' _ _ => id' = id
  | _ => False

/-- The step puts a callback back that has run. -/
def Returns (id : TransferId) : Record σ κ → Prop
  | .restored _ id' (some _) => id' = id
  | _ => False

/-- A step that does not set the callback leaves one unless it takes it or found
none and puts none back. -/
theorem isSome_rest {r : Record σ κ} {id : TransferId} (kept : ¬ r.Sets id)
    (slot : Option (Callback κ)) :
    (r.rest id slot).isSome ↔ ¬ r.Takes id ∧ (slot.isSome ∨ r.Returns id) := by
  cases r with
  | called call =>
    have hsets : call.sets? id = none := Classical.not_not.mp kept
    simp [rest, hsets, Takes, Returns]
  | freed i id' => simp [rest, show id' ≠ id from kept, Takes, Returns]
  | finished i id' outcome callback =>
    by_cases h : id' = id <;> simp [rest, h, Takes, Returns]
  | restored i id' callback =>
    by_cases h : id' = id <;> cases callback <;> simp [rest, h, Takes, Returns]
  | _ => simp [rest, Takes, Returns]

end Record

namespace EventLoop
variable {σ κ : Type}

/-- The steps of one activation. -/
def story (h : List (Record σ κ)) (i : Nat) : List (Record σ κ) :=
  h.filter (·.activation? = some i)

/-- The callbacks that an activation has run. -/
def calls (h : List (Record σ κ)) (i : Nat) : List (Callback κ) :=
  (story h i).filterMap (·.callback?)

/-- The callback that rests in a transfer. -/
def resting (h : List (Record σ κ)) (id : TransferId) : Option (Callback κ) :=
  h.foldl (fun slot r => r.rest id slot) none

/-- The callback of a transfer was taken, and none was put back since. -/
def Out (h : List (Record σ κ)) (id : TransferId) : Prop :=
  ∃ before r after, h = before ++ r :: after ∧ r.Takes id ∧ ∀ r' ∈ after, ¬ r'.Returns id

/-! ## The story of an activation -/

/-- The steps of an activation that has given back what it took. -/
def given (i : Nat) (c : ContextId) (id : TransferId) (outcome : TransferOutcome) :
    Option (Callback κ) → List (Record σ κ)
  | none => [.extracted i c id outcome, .finished i id outcome none, .restored i id none]
  | some callback =>
    [.extracted i c id outcome, .finished i id outcome (some callback), .ran i id callback,
      .restored i id (some callback.called)]

/-- What an activation has done when it is at a stage. -/
def Told (i : Nat) (h : List (Record σ κ)) : Stage κ → Prop
  | .idle => h = []
  | .extracted id outcome => ∃ c, h = [.extracted i c id outcome]
  | .taken id callback => ∃ c outcome,
    h = [.extracted i c id outcome, .finished i id outcome callback]
  | .running id callback => ∃ c outcome,
    h = [.extracted i c id outcome, .finished i id outcome (some callback), .ran i id callback]
  | .freeing id => ∃ c outcome callback, h = given i c id outcome callback
  | .done => (∃ c, h = [.nothing i c]) ∨ ∃ c id outcome callback,
    h = given i c id outcome callback ∨ h = given i c id outcome callback ++ [.freed i id]

section Story
variable {i : Nat} {h : List (Record σ κ)} {r : Record σ κ} {m m' : EventLoop σ κ}

theorem story_snoc_self (hr : r.activation? = some i) : story (h ++ [r]) i = story h i ++ [r] := by
  simp [story, hr]

theorem story_snoc_other (hr : r.activation? ≠ some i) : story (h ++ [r]) i = story h i := by
  simp [story, hr]

theorem told_become {stage : Stage κ} {s : Session σ κ}
    (told : ∀ j, Told j (story h j) (m.stage j)) (hr : r.activation? = some i)
    (new : Told i (story h i ++ [r]) stage) (j : Nat) :
    Told j (story (h ++ [r]) j) ((m.become i stage s).stage j) := by
  unfold become
  dsimp only
  split
  · rename_i hj
    subst hj
    rw [story_snoc_self hr]
    exact new
  · rename_i hj
    rw [story_snoc_other fun he => hj (Option.some.inj (hr.symm.trans he)).symm]
    exact told j

theorem told_next [Platform σ] (told : ∀ j, Told j (story h j) (m.stage j)) (now : Step m r m') :
    ∀ j, Told j (story (h ++ [r]) j) (m'.stage j) := by
  cases now with
  | call call known =>
    intro j
    rw [story_snoc_other (by simp [Record.activation?])]
    exact told j
  | nothing i c idle none =>
    have before := told i
    rw [idle] at before
    exact told_become told rfl (Or.inl ⟨c, by rw [before]; rfl⟩)
  | extract i c id outcome idle first =>
    have before := told i
    rw [idle] at before
    exact told_become told rfl ⟨c, by rw [before]; rfl⟩
  | finish i id outcome callback extracted took =>
    have before := told i
    rw [extracted] at before
    obtain ⟨c, before⟩ := before
    exact told_become told rfl ⟨c, outcome, by rw [before]; rfl⟩
  | run i id callback taken =>
    have before := told i
    rw [taken] at before
    obtain ⟨c, outcome, before⟩ := before
    exact told_become told rfl ⟨c, outcome, by rw [before]; rfl⟩
  | restore i id callback free returns flagged =>
    -- Two stages give back: after a callback has run, and where none was found.
    have gave : ∃ c outcome callback', story h i ++ [.restored i id callback] =
        given i c id outcome callback' := by
      have before := told i
      cases hs : m.stage i with
      | taken id' callback' =>
        rw [hs] at returns before
        cases callback' with
        | none =>
          cases returns
          obtain ⟨c, outcome, before⟩ := before
          exact ⟨c, outcome, none, by rw [before]; rfl⟩
        | some callback' => cases returns
      | running id' callback' =>
        rw [hs] at returns before
        cases returns
        obtain ⟨c, outcome, before⟩ := before
        exact ⟨c, outcome, some callback', by rw [before]; rfl⟩
      | _ => rw [hs] at returns; cases returns
    obtain ⟨c, outcome, callback', gave⟩ := gave
    refine told_become told rfl ?_
    cases free with
    | true => exact ⟨c, outcome, callback', gave⟩
    | false => exact Or.inr ⟨c, id, outcome, callback', Or.inl gave⟩
  | free i id freeing =>
    have before := told i
    rw [freeing] at before
    obtain ⟨c, outcome, callback, before⟩ := before
    exact told_become told rfl (Or.inr ⟨c, id, outcome, callback, Or.inr (by rw [before])⟩)

/-- **Each activation takes its steps in order.** -/
theorem Run.told [Platform σ] {platform : σ} (run : Run (start platform) h m) (i : Nat) :
    Told i (story h i) (m.stage i) := by
  induction run generalizing i with
  | refl => exact rfl
  | step _ now ih => exact told_next ih now i

end Story

/-! ## Where the callback of a transfer is -/

section Resting
open Session
variable {platform : σ} {h : List (Record σ κ)} {r : Record σ κ}
  {m m' : EventLoop σ κ} {id : TransferId}

theorem resting_snoc (h : List (Record σ κ)) (r : Record σ κ) (id : TransferId) :
    resting (h ++ [r]) id = r.rest id (resting h id) := by
  simp [resting]

theorem Step.callback [Platform σ] (hv : m.Valid) (now : Step m r m') (id : TransferId) :
    (m'.session.transfer id).callback = r.rest id (m.session.transfer id).callback := by
  cases now with
  | call call known => exact call.callback m.session known id
  | nothing i c | extract i c => exact (poll_sameHoldings c m.session).callback id (by trivial)
  | finish i id' outcome callback extracted took =>
    have hid := hv.concerned i id' (by rw [extracted]; rfl)
    simp only [Record.rest, become]
    split
    · rename_i heq
      subst heq
      rw [transfer_after_finish outcome hid]
    · rename_i hne
      exact (finish_sameHoldings m.session id' outcome).callback id (Ne.symm hne)
  | run i id' callback taken => rfl
  | restore i id' callback free returns flagged =>
    have hid := hv.concerned i id' (Stage.concerns_of_returns returns)
    simp only [Record.rest, become, after_restore]
    split
    · rename_i heq
      subst heq
      rw [transfer_alter_self hid]
    · rename_i hne
      rw [transfer_alter_of_ne (Ne.symm hne)]
  | free i id' freeing =>
    simp only [Record.rest, become]
    split
    · rename_i heq
      subst heq
      exact (transfer_after_free m.session id').2.2
    · rename_i hne
      exact (keeps_holdings_free id' m.session).callback id (Ne.symm hne)

/-- **The history says which callback a transfer holds.** -/
theorem Run.callback_eq_resting [Platform σ] (run : Run (start platform) h m) (id : TransferId) :
    (m.session.transfer id).callback = resting h id := by
  induction run with
  | refl => cases id with | mk n => cases n <;> rfl
  | step before now ih => rw [resting_snoc, ← ih, now.callback before.valid]

theorem out_snoc : Out (h ++ [r]) id ↔ r.Takes id ∨ (Out h id ∧ ¬ r.Returns id) := by
  unfold Out
  rw [split_snoc]
  refine or_congr (by simp) ⟨?_, ?_⟩
  · rintro ⟨before, x, after, rfl, hx, ha⟩
    simp only [List.mem_append, List.mem_singleton] at ha
    exact ⟨⟨before, x, after, rfl, hx, fun y hy => ha y (Or.inl hy)⟩, ha r (Or.inr rfl)⟩
  · rintro ⟨⟨before, x, after, rfl, hx, ha⟩, hr⟩
    refine ⟨before, x, after, rfl, hx, fun y hy => ?_⟩
    rcases List.mem_append.mp hy with hy | hy
    · exact ha y hy
    · exact List.mem_singleton.mp hy ▸ hr

/-- **After a filling, a transfer has its callback unless that is out.** -/
theorem isSome_resting_iff {earlier since : List (Record σ κ)} {fill : Record σ κ}
    {callback : Callback κ} (hfill : fill.Installs id callback)
    (kept : ∀ r ∈ since, ¬ r.Sets id) :
    (resting (earlier ++ fill :: since) id).isSome ↔ ¬ Out since id := by
  induction since using List.reverseRecOn with
  | nil =>
    have hnot : ¬ Out ([] : List (Record σ κ)) id := by
      rintro ⟨before, r, after, h, -⟩
      cases before <;> cases h
    cases fill with
    | called call => simp [resting_snoc, Record.rest, show call.sets? id = _ from hfill, hnot]
    | _ => exact hfill.elim
  | append_singleton since r ih =>
    have hr : ¬ r.Sets id := kept r (by simp)
    have ih := ih fun r' h => kept r' (by simp [h])
    rw [← List.cons_append, ← List.append_assoc, resting_snoc, Record.isSome_rest hr, ih, out_snoc]
    tauto

end Resting

/-! ## What an extraction runs -/

section Extractions
open Session
variable [Platform σ] {platform : σ} {h h' : List (Record σ κ)} {r : Record σ κ}
  {m m' : EventLoop σ κ}

/-- An activation that has extracted a transfer and is done has finished it, and
has run the callback that it found. -/
theorem Run.calls_of_extracted (run : Run (start platform) h m) {i : Nat} {c : ContextId}
    {id : TransferId} {outcome : TransferOutcome} (extracted : .extracted i c id outcome ∈ h)
    (done : m.stage i = .done) : ∃ callback,
      .finished i id outcome callback ∈ h ∧ calls h i = callback.toList := by
  have mem : ∀ r : Record σ κ, r ∈ story h i ↔ r ∈ h ∧ r.activation? = some i := by
    simp [story]
  have told := run.told i
  rw [done] at told
  have hx := (mem _).mpr ⟨extracted, rfl⟩
  -- The story has one extraction, so it is the one that is given.
  have key : ∀ {c' id' outcome' callback} (tail : List (Record σ κ)),
      tail.filterMap Record.callback? = [] → (∀ r ∈ tail, ∀ c id o, r ≠ .extracted i c id o) →
      story h i = given i c' id' outcome' callback ++ tail →
      .finished i id outcome callback ∈ h ∧ calls h i = callback.toList := by
    intro c' id' outcome' callback tail hcalls hother heq
    rw [heq, List.mem_append, or_iff_left fun hx => hother _ hx _ _ _ rfl] at hx
    have hsame : c = c' ∧ id = id' ∧ outcome = outcome' := by
      cases callback <;> simpa [given] using hx
    obtain ⟨rfl, rfl, rfl⟩ := hsame
    have hfinished : .finished i id outcome callback ∈ story h i := by
      rw [heq]
      cases callback <;> simp [given]
    refine ⟨((mem _).mp hfinished).1, ?_⟩
    rw [calls, heq, List.filterMap_append, hcalls, List.append_nil]
    cases callback <;> rfl
  rcases told with ⟨c', heq⟩ | ⟨c', id', outcome', callback, heq | heq⟩
  · rw [heq] at hx
    simp at hx
  · exact ⟨callback, key [] rfl (by simp) (by rw [heq, List.append_nil])⟩
  · exact ⟨callback, key _ rfl (by simp) heq⟩

/-- **Each extraction runs what rests in its transfer**, so it runs the callback
of a transfer that was filled and not freed since exactly if that is not out:
for every way in which threads and callbacks interleave, let an activation have
extracted a transfer and be done.  Then it has finished the transfer, and has
run the callback that rested there, if any.  If the transfer was filled before
and neither filled nor freed since, it has run one callback if whoever took the
callback since had put it back, and none otherwise. -/
theorem Run.callback_once_iff (run : Run (start platform) h m) {i : Nat} {c : ContextId}
    {id : TransferId} {outcome : TransferOutcome} (extracted : .extracted i c id outcome ∈ h)
    (done : m.stage i = .done) :
    ∃ before callback after, h = before ++ .finished i id outcome callback :: after ∧
      calls h i = (resting before id).toList ∧
      ∀ {earlier fill since installed}, before = earlier ++ fill :: since →
        fill.Installs id installed → (∀ r ∈ since, ¬ r.Sets id) →
        ((calls h i).length = 1 ↔ ¬ Out since id) := by
  obtain ⟨callback, hfinished, hcalls⟩ := run.calls_of_extracted extracted done
  obtain ⟨before, after, rfl⟩ := List.append_of_mem hfinished
  obtain ⟨m₁, m₂, run₁, now, -⟩ := run.split
  have htook : callback = resting before id := by
    rw [← run₁.callback_eq_resting id]
    cases now with
    | finish _ _ _ _ extracted took =>
      rw [result_finish] at took
      exact (Except.ok.inj took).symm
  refine ⟨before, callback, after, rfl, htook ▸ hcalls, ?_⟩
  -- What it ran is what rested there, and that is something unless it was out.
  rintro earlier fill since installed rfl hfill kept
  rw [hcalls, htook, ← isSome_resting_iff hfill kept]
  cases resting (earlier ++ fill :: since) id <;> simp

end Extractions

/-! ## A transfer resubmitted in its callback -/

/-- A transfer is filled, submitted and cancelled.  Its callback submits it
again, and another activation extracts the second completion before the callback
has returned. -/
def resubmission : List (Record ScriptedPlatform Unit) :=
  [.called (.openDevice ⟨0⟩ ⟨.default, Sample.device 1 0x1000 0x2000, 1⟩),
    .called (.allocTransfer 0), .called (.fillData ⟨1⟩ .bulk ⟨0⟩ 0x81 [] {} 0),
    .called (.submit ⟨1⟩), .called (.deliver ⟨.default, ⟨⟨1⟩, 1⟩⟩ .canceled),
    .extracted 0 .default ⟨1⟩ .canceled, .finished 0 ⟨1⟩ .canceled (some {}), .ran 0 ⟨1⟩ {},
    -- Here the first activation is in the callback, which is out.
    .called (.submit ⟨1⟩), .called (.deliver ⟨.default, ⟨⟨1⟩, 2⟩⟩ .canceled),
    .extracted 1 .default ⟨1⟩ .canceled, .finished 1 ⟨1⟩ .canceled none, .restored 1 ⟨1⟩ none,
    .restored 0 ⟨1⟩ (some ⟨[], 1⟩)]

theorem run_resubmission :
    ∃ m, Run (start {}) resubmission m ∧ m.stage 0 = .done ∧ m.stage 1 = .done := by
  have filled := (((Run.refl (m := (start {} : EventLoop ScriptedPlatform Unit))).step
    (.call (.openDevice ⟨0⟩ ⟨.default, Sample.device 1 0x1000 0x2000, 1⟩) (by rintro _ ⟨⟩))).step
    (.call (.allocTransfer 0) (by rintro _ ⟨⟩))).step
    (.call (.fillData ⟨1⟩ .bulk ⟨0⟩ 0x81 [] {} 0) (by rintro _ ⟨⟩; rfl))
  have completed := (filled.step (.call (.submit ⟨1⟩) (by rintro _ ⟨⟩; rfl))).step
    (.call (.deliver ⟨.default, ⟨⟨1⟩, 1⟩⟩ .canceled) (by rintro _ ⟨⟩))
  have inside := ((completed.step (.extract 0 .default ⟨1⟩ .canceled rfl rfl)).step
    (.finish 0 ⟨1⟩ .canceled (some {}) rfl rfl)).step (.run 0 ⟨1⟩ {} rfl)
  have again := (inside.step (.call (.submit ⟨1⟩) (by rintro _ ⟨⟩; rfl))).step
    (.call (.deliver ⟨.default, ⟨⟨1⟩, 2⟩⟩ .canceled) (by rintro _ ⟨⟩))
  have nested := ((again.step (.extract 1 .default ⟨1⟩ .canceled rfl rfl)).step
    (.finish 1 ⟨1⟩ .canceled none rfl rfl)).step (.restore 1 ⟨1⟩ none false rfl rfl)
  exact ⟨_, nested.step (.restore 0 ⟨1⟩ (some ⟨[], 1⟩) false rfl rfl), rfl, rfl⟩

/-- The first extraction of the transfer finds the callback it was filled with,
which was not out. -/
theorem callback_once_first :
    ∃ (m : EventLoop ScriptedPlatform Unit)
      (earlier since after : List (Record ScriptedPlatform Unit))
      (fill : Record ScriptedPlatform Unit) (callback : Option (Callback Unit)),
      Run (start {}) resubmission m ∧ m.stage 0 = .done ∧
        .extracted 0 .default ⟨1⟩ .canceled ∈ resubmission ∧
        resubmission = earlier ++ fill :: since ++ .finished 0 ⟨1⟩ .canceled callback :: after ∧
        fill.Installs ⟨1⟩ {} ∧ (∀ r ∈ since, ¬ r.Sets ⟨1⟩) ∧
        ((calls resubmission 0).length = 1 ↔ ¬ Out since ⟨1⟩) := by
  obtain ⟨m, run, done, -⟩ := run_resubmission
  have extracted : .extracted 0 .default ⟨1⟩ .canceled ∈ resubmission := by simp [resubmission]
  obtain ⟨before, callback, after, heq, -, hfilled⟩ := run.callback_once_iff extracted done
  -- The activation finishes the transfer once, as the seventh step.
  have hbefore : before = resubmission.take 2 ++
      .called (.fillData ⟨1⟩ .bulk ⟨0⟩ 0x81 [] {} 0) :: (resubmission.take 6).drop 3 := by
    have hseventh : resubmission = resubmission.take 6 ++
        .finished 0 ⟨1⟩ .canceled (some {}) :: resubmission.drop 7 := rfl
    rcases List.append_eq_append_iff.mp (hseventh.symm.trans heq) with
      ⟨_ | ⟨r, rest⟩, hb, hrest⟩ | ⟨_ | ⟨r, rest⟩, hb, hrest⟩
    · exact hb.trans (List.append_nil _)
    · have hmem : .finished 0 ⟨1⟩ .canceled callback ∈ resubmission.drop 7 := by
        simp [(List.cons.inj hrest).2]
      simp [resubmission] at hmem
    · exact ((List.append_nil _).symm.trans hb.symm)
    · have hmem : .finished 0 ⟨1⟩ .canceled callback ∈ resubmission.take 6 := by
        simp [hb, (List.cons.inj hrest).1]
      simp [resubmission] at hmem
  subst hbefore
  have hsince : ∀ r ∈ (resubmission.take 6).drop 3, ¬ r.Sets ⟨1⟩ := by
    intro r hr
    simp only [resubmission, List.take, List.drop, List.mem_cons, List.not_mem_nil, or_false] at hr
    rcases hr with rfl | rfl | rfl <;> simp [Record.Sets, Call.sets?]
  exact ⟨m, _, _, after, _, callback, run, done, extracted, heq, rfl, hsince,
    hfilled rfl rfl hsince⟩

/-- The second completion of the transfer, which was filled and never freed, is
extracted and runs no callback. -/
theorem exists_completion_without_callback :
    ∃ (earlier since after : List (Record ScriptedPlatform Unit))
      (fill : Record ScriptedPlatform Unit) (m : EventLoop ScriptedPlatform Unit),
      Run (start {}) (earlier ++ fill :: since ++ .finished 1 ⟨1⟩ .canceled none :: after) m ∧
        fill.Installs ⟨1⟩ {} ∧ (∀ r ∈ since, ¬ r.Sets ⟨1⟩) ∧ m.stage 1 = .done ∧
        .extracted 1 .default ⟨1⟩ .canceled ∈ since ∧
        calls (earlier ++ fill :: since ++ .finished 1 ⟨1⟩ .canceled none :: after) 1 = [] := by
  obtain ⟨m, run, -, done⟩ := run_resubmission
  refine ⟨resubmission.take 2, (resubmission.take 11).drop 3, resubmission.drop 12, _, m, run, rfl,
    ?_, done, by simp [resubmission], rfl⟩
  intro r hr
  simp only [resubmission, List.take, List.drop, List.mem_cons, List.not_mem_nil, or_false] at hr
  rcases hr with rfl | rfl | rfl | rfl | rfl | rfl | rfl | rfl <;>
    simp [Record.Sets, Call.sets?]

end EventLoop
end UsbHost
