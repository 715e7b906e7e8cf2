import UsbHost.Proofs.Session.Calls

/-! # Sessions used by several threads

Any number of activations of `handleEvents` may be under way at once, on any
contexts: in several threads, or one within a callback of another.  An
activation takes locks, but holds none between its steps, so between any two of
them anyone may call the session and others may take steps of theirs.

An `EventLoop` is a session with the stage of every activation.  `Step` says
what may happen next and records it; a `Run` is any sequence of steps.  Nothing
is assumed about who calls what and when, so a run of threads, of nested
callbacks and of both is a run here.  In particular one activation after the
other is: what `handleEvents` does is a run, if what the callbacks do is
(`leads_handleEvents`).
-/
namespace UsbHost

/-! ## The machine -/

/-- Where an activation of `handleEvents` stands. -/
inductive Stage (κ : Type) where
  /-- It has not begun. -/
  | idle
  /-- It has taken a transfer out of its tracker. -/
  | extracted (id : TransferId) (outcome : TransferOutcome)
  /-- It has written the outcome and taken what was in the place of the
  callback. -/
  | taken (id : TransferId) (callback : Option (Callback κ))
  /-- It is in the callback. -/
  | running (id : TransferId) (callback : Callback κ)
  /-- It has found that the transfer is to be freed. -/
  | freeing (id : TransferId)
  | done

/-- The transfer an activation is to give its callback back to, with what it
gives: there is none when none was found. -/
def Stage.returns? {κ : Type} : Stage κ → Option (TransferId × Option (Callback κ))
  | .taken id none => some (id, none)
  | .running id callback => some (id, some callback.called)
  | _ => none

/-- The activation has taken a transfer out of its tracker and is not done with
it. -/
def Stage.Concerns {κ : Type} (id : TransferId) : Stage κ → Prop
  | .extracted id' _ | .taken id' _ | .running id' _ | .freeing id' => id' = id
  | .idle | .done => False

theorem Stage.concerns_unique {κ : Type} {stage : Stage κ} {id id' : TransferId}
    (h : stage.Concerns id) (h' : stage.Concerns id') : id = id' := by
  cases stage with
  | idle | done => exact h.elim
  | _ => exact h.symm.trans h'

theorem Stage.concerns_of_returns {κ : Type} {stage : Stage κ} {id : TransferId}
    {callback : Option (Callback κ)} (h : stage.returns? = some (id, callback)) :
    stage.Concerns id := by
  cases stage with
  | taken id' c =>
    cases c with
    | none => cases h; rfl
    | some c => cases h
  | running id' c => cases h; rfl
  | _ => cases h

/-- A session, and where each activation of `handleEvents` stands. -/
structure EventLoop (σ κ : Type) where
  session : Session σ κ
  stage : Nat → Stage κ := fun _ => .idle

/-- What happens in one step; `i` numbers the activations. -/
inductive Record (σ κ : Type) where
  | called (call : Call σ κ)
  | nothing (i : Nat) (context : ContextId)
  | extracted (i : Nat) (context : ContextId) (id : TransferId) (outcome : TransferOutcome)
  | finished (i : Nat) (id : TransferId) (outcome : TransferOutcome)
    (callback : Option (Callback κ))
  | ran (i : Nat) (id : TransferId) (callback : Callback κ)
  | restored (i : Nat) (id : TransferId) (callback : Option (Callback κ))
  | freed (i : Nat) (id : TransferId)

namespace Record
variable {σ κ : Type}

/-- The activation whose step a record is. -/
def activation? : Record σ κ → Option Nat
  | .called _ => none
  | .nothing i _ | .extracted i .. | .finished i .. | .ran i .. | .restored i .. | .freed i _ =>
    some i

end Record

namespace EventLoop
variable {σ κ : Type}

/-- A new session, in which nothing happens yet. -/
def start (platform : σ) : EventLoop σ κ := { session := { platform } }

/-- The machine after a step of activation `i`. -/
def become (m : EventLoop σ κ) (i : Nat) (stage : Stage κ) (session : Session σ κ) :
    EventLoop σ κ where
  session := session
  stage j := if j = i then stage else m.stage j

@[simp] theorem session_become (m : EventLoop σ κ) (i : Nat) (stage : Stage κ)
    (s : Session σ κ) : (m.become i stage s).session = s := rfl

@[simp] theorem stage_become_self (m : EventLoop σ κ) (i : Nat) (stage : Stage κ)
    (s : Session σ κ) : (m.become i stage s).stage i = stage := if_pos rfl

/-- Reaches a context and takes the transfer that completed first there. -/
def poll (c : ContextId) : SessionM σ κ (Option (TransferId × TransferOutcome)) := do
  Session.reach c
  Session.extract c

section Steps
open Session

/-- **What may happen next.**  A call names transfers that were allocated; an
activation takes the steps of `handleEvents` one by one. -/
inductive Step [Platform σ] (m : EventLoop σ κ) : Record σ κ → EventLoop σ κ → Prop where
  | call (call : Call σ κ) (known : ∀ id, call.subject? = some id → m.session.Allocated id) :
      Step m (.called call) { m with session := after call.run m.session }
  | nothing (i : Nat) (c : ContextId) (idle : m.stage i = .idle)
      (none : result (poll c) m.session = .ok none) :
      Step m (.nothing i c) (m.become i .done (after (poll c) m.session))
  | extract (i : Nat) (c : ContextId) (id : TransferId) (outcome : TransferOutcome)
      (idle : m.stage i = .idle) (first : result (poll c) m.session = .ok (some (id, outcome))) :
      Step m (.extracted i c id outcome)
        (m.become i (.extracted id outcome) (after (poll c) m.session))
  | finish (i : Nat) (id : TransferId) (outcome : TransferOutcome)
      (callback : Option (Callback κ)) (extracted : m.stage i = .extracted id outcome)
      (took : result (finish id outcome) m.session = .ok callback) :
      Step m (.finished i id outcome callback)
        (m.become i (.taken id callback) (after (finish id outcome) m.session))
  | run (i : Nat) (id : TransferId) (callback : Callback κ)
      (taken : m.stage i = .taken id (some callback)) :
      Step m (.ran i id callback) (m.become i (.running id callback) m.session)
  | restore (i : Nat) (id : TransferId) (callback : Option (Callback κ)) (free : Bool)
      (returns : (m.stage i).returns? = some (id, callback))
      (flagged : result (restore id callback) m.session = .ok free) :
      Step m (.restored i id callback)
        (m.become i (if free then .freeing id else .done)
          (after (restore id callback) m.session))
  | free (i : Nat) (id : TransferId) (freeing : m.stage i = .freeing id) :
      Step m (.freed i id) (m.become i .done (after (free id) m.session))

/-- The runs from `m`: what happened, oldest first, and where it led to. -/
inductive Run [Platform σ] (m : EventLoop σ κ) : List (Record σ κ) → EventLoop σ κ → Prop where
  | refl : Run m [] m
  | step {h : List (Record σ κ)} {m' m'' : EventLoop σ κ} {r : Record σ κ} (before : Run m h m')
      (now : Step m' r m'') : Run m (h ++ [r]) m''

/-! ## Runs -/

section Runs
variable [Platform σ] {m m' m'' : EventLoop σ κ} {h : List (Record σ κ)} {r : Record σ κ}

/-- A run passes through every point of its history. -/
theorem Run.split {rest : List (Record σ κ)} (run : Run m (h ++ r :: rest) m') :
    ∃ m₁ m₂, Run m h m₁ ∧ Step m₁ r m₂ ∧ Run m₂ rest m' := by
  generalize heq : h ++ r :: rest = all at run
  induction run generalizing rest with
  | refl => cases h <;> cases heq
  | @step all' m₁ m₂ r' before now ih =>
    rcases List.eq_nil_or_concat rest with rfl | ⟨rest, x, rfl⟩
    · obtain ⟨rfl, hr⟩ := List.append_inj' heq rfl
      cases hr
      exact ⟨m₁, m₂, before, now, .refl⟩
    · rw [List.concat_eq_append, ← List.cons_append, ← List.append_assoc] at heq
      obtain ⟨hh, hx⟩ := List.append_inj' heq rfl
      cases hx
      obtain ⟨m₃, m₄, run, step, run'⟩ := ih hh
      exact ⟨m₃, m₄, run, step, by rw [List.concat_eq_append]; exact run'.step now⟩

theorem Run.cons (now : Step m r m') (run : Run m' h m'') : Run m (r :: h) m'' := by
  induction run with
  | refl => exact Run.refl.step now
  | step before now' ih => exact ih.step now'

/-- An activation can be brought to its end by steps of its own. -/
def CanEnd (m : EventLoop σ κ) (i : Nat) : Prop :=
  ∃ h m', Run m h m' ∧ m'.stage i = .done ∧ ∀ r ∈ h, r.activation? = some i

theorem CanEnd.of_step {i : Nat} (now : Step m r m') (hr : r.activation? = some i)
    (later : CanEnd m' i) : CanEnd m i := by
  obtain ⟨h, m'', run, done, own⟩ := later
  exact ⟨r :: h, m'', run.cons now, done, List.forall_mem_cons.mpr ⟨hr, own⟩⟩

/-- **An activation that has begun can always go on to its end**, whatever else
has happened in between. -/
theorem canEnd {i : Nat} (begun : m.stage i ≠ .idle) : CanEnd m i := by
  -- From the last stage back to the first.
  have of_done : ∀ {m : EventLoop σ κ}, m.stage i = .done → CanEnd m i :=
    fun done => ⟨[], _, .refl, done, by simp⟩
  have of_freeing : ∀ {m : EventLoop σ κ} {id}, m.stage i = .freeing id → CanEnd m i :=
    fun freeing => .of_step (.free i _ freeing) rfl (of_done (stage_become_self ..))
  have of_returns : ∀ {m : EventLoop σ κ} {id callback},
      (m.stage i).returns? = some (id, callback) → CanEnd m i := by
    intro m id callback returns
    refine .of_step (.restore i id callback _ returns (result_restore ..)) rfl ?_
    split
    · exact of_freeing (stage_become_self ..)
    · exact of_done (stage_become_self ..)
  have of_taken : ∀ {m : EventLoop σ κ} {id callback}, m.stage i = .taken id callback →
      CanEnd m i := by
    intro m id callback taken
    cases callback with
    | none => exact of_returns (by rw [taken]; rfl)
    | some callback =>
      exact .of_step (.run i id callback taken) rfl
        (of_returns (congrArg Stage.returns? (stage_become_self ..)))
  cases hs : m.stage i with
  | idle => exact absurd hs begun
  | done => exact of_done hs
  | freeing id => exact of_freeing hs
  | running id callback => exact of_returns (by rw [hs]; rfl)
  | taken id callback => exact of_taken hs
  | extracted id outcome =>
    refine .of_step (.finish i id outcome _ hs (result_finish ..)) rfl ?_
    exact of_taken (stage_become_self ..)

end Runs

/-! ## What polling does -/

theorem result_poll (c : ContextId) (s : Session σ κ) :
    result (poll c) s = .ok (s.tracker c).extract.1 := by
  have hreach : (after (reach c) s).tracker c = s.tracker c := neutral_sameTrackers.reach c s c
  rw [poll, result_bind, result_reach, ← hreach]
  exact result_extract _ c

theorem after_poll (c : ContextId) (s : Session σ κ) :
    after (poll c) s = after (extract c) (after (reach c) s) := by
  rw [poll, after_bind, result_reach]

theorem tracker_after_poll (c c' : ContextId) (s : Session σ κ) :
    (after (poll c) s).tracker c' = if c' = c then (s.tracker c).extract.2 else s.tracker c' := by
  have hreach : ∀ c', (after (reach c) s).tracker c' = s.tracker c' :=
    neutral_sameTrackers.reach c s
  rw [after_poll, tracker_after_extract, hreach, hreach]

theorem poll_sameHoldings {K : TransferId → Prop} (c : ContextId) (s : Session σ κ) :
    SameHoldings K s (after (poll c) s) := by
  rw [after_poll, after_extract]
  exact neutral_sameHoldings.trans (neutral_sameHoldings.reach c s)
    (keeps_holdings_track c .extract _)

theorem poll_sound {s : Session σ κ} (hs : s.Sound) (c : ContextId) : (after (poll c) s).Sound := by
  intro c'
  rw [tracker_after_poll]
  split
  · exact (hs c).next (hs c).extract_effect
  · exact hs c'

/-- Polling takes the transfer it finds out of its tracker and no other. -/
theorem isTracked_after_poll {s : Session σ κ} (hs : s.Sound) (c c' : ContextId)
    (id : TransferId) :
    ((after (poll c) s).tracker c').isTracked id =
      ((s.tracker c').isTracked id && (c' ≠ c || (s.tracker c).extract.1.all (·.1 ≠ id))) := by
  rw [tracker_after_poll]
  split
  · rename_i h
    subst h
    simp [(hs c').isTracked_extract]
  · rename_i h
    simp [h]

/-! ## Transfers in use were allocated -/

/-- Trackers are sound, and what is tracked or taken out was allocated. -/
structure Valid (m : EventLoop σ κ) : Prop where
  sound : m.session.Sound
  tracked : ∀ c id, (m.session.tracker c).isTracked id = true → m.session.Allocated id
  concerned : ∀ i id, (m.stage i).Concerns id → m.session.Allocated id

theorem valid_start (platform : σ) : (start platform : EventLoop σ κ).Valid where
  sound c := by
    cases c with
    | default => exact Tracker.consistent_empty
    | explicit i => simpa [start, tracker] using Tracker.consistent_empty
  tracked c id h := by
    cases c with
    | default => cases h
    | explicit i => simp [start, tracker, Tracker.isTracked, Table.contains] at h
  concerned i id h := h.elim

variable {m m' : EventLoop σ κ}

/-- An activation moves on; the session has only lost entries of trackers. -/
theorem Valid.become (hv : m.Valid) {i : Nat} {stage : Stage κ} {s : Session σ κ}
    (hsound : s.Sound) (hallocated : ∀ id, m.session.Allocated id → s.Allocated id)
    (htracked : ∀ c id, (s.tracker c).isTracked id = true →
      (m.session.tracker c).isTracked id = true)
    (hstage : ∀ id, stage.Concerns id → m.session.Allocated id) : (m.become i stage s).Valid where
  sound := hsound
  tracked c id h := hallocated id (hv.tracked c id (htracked c id h))
  concerned j id h := by
    refine hallocated id ?_
    unfold EventLoop.become at h
    dsimp only at h
    split at h
    · exact hstage id h
    · exact hv.concerned j id h

/-- What was allocated stays so. -/
theorem Step.allocated [Platform σ] {r : Record σ κ} (now : Step m r m') {id : TransferId}
    (h : m.session.Allocated id) : m'.session.Allocated id := by
  cases now with
  | call call known => exact (call.sameHoldings m.session).allocated id h
  | nothing i c idle none => exact (poll_sameHoldings (K := fun _ => True) c _).allocated id h
  | extract i c id' outcome idle first =>
    exact (poll_sameHoldings (K := fun _ => True) c _).allocated id h
  | finish i id' outcome callback extracted took =>
    exact (finish_sameHoldings m.session id' outcome).allocated id h
  | run i id' callback taken => exact h
  | restore i id' callback free returns flagged => exact allocated_alter.mpr h
  | free i id' freeing => exact (keeps_holdings_free id' m.session).allocated id h

theorem Valid.next [Platform σ] {r : Record σ κ} (hv : m.Valid) (h : Step m r m') : m'.Valid := by
  have hallocated : ∀ id, m.session.Allocated id → m'.session.Allocated id := fun _ => h.allocated
  cases h with
  | call call known =>
    obtain ⟨hsound, htracked⟩ := call.sameTracking m.session hv.sound
    refine ⟨hsound, fun c id h => hallocated id ?_,
      fun i id h => hallocated id (hv.concerned i id h)⟩
    -- Only submitting and freeing change what is tracked, and they name what was allocated.
    by_cases hsubmit : call = .submit id
    · exact known id (hsubmit ▸ rfl)
    · by_cases hfree : call = .free id
      · exact known id (hfree ▸ rfl)
      · exact hv.tracked c id ((htracked c id ⟨hsubmit, hfree⟩).symm.trans h)
  | nothing i c idle none =>
    refine hv.become (poll_sound hv.sound c) hallocated (fun c' id h => ?_) fun id h => h.elim
    rw [isTracked_after_poll hv.sound, Bool.and_eq_true] at h
    exact h.1
  | extract i c id outcome idle first =>
    rw [result_poll] at first
    refine hv.become (poll_sound hv.sound c) hallocated (fun c' id h => ?_) fun id' h => ?_
    · rw [isTracked_after_poll hv.sound, Bool.and_eq_true] at h
      exact h.1
    · cases h
      exact hv.tracked c id ((hv.sound c).tracked_of_extract (Except.ok.inj first))
  | finish i id outcome callback extracted took =>
    obtain ⟨hsound, htracked⟩ :=
      finish_sameTracking (K := fun _ => True) m.session id outcome hv.sound
    refine hv.become hsound hallocated
      (fun c id' h => (htracked c id' trivial).symm.trans h) fun id' h => ?_
    cases h
    exact hv.concerned i id (by rw [extracted]; rfl)
  | run i id callback taken =>
    refine hv.become hv.sound (fun _ h => h) (fun _ _ h => h) fun id' h => ?_
    cases h
    exact hv.concerned i id (by rw [taken]; rfl)
  | restore i id callback free returns flagged =>
    have hid := hv.concerned i id (Stage.concerns_of_returns returns)
    obtain ⟨hsound, htracked⟩ := sameTracking_alter (K := fun _ => True) _ hv.sound
    refine hv.become hsound hallocated
      (fun c id' h => (htracked c id' trivial).symm.trans h) fun id' h => ?_
    cases free with
    | true => cases h; exact hid
    | false => exact h.elim
  | free i id freeing =>
    obtain ⟨hsound, htracked⟩ := keeps_tracking_free id m.session hv.sound
    refine hv.become hsound (keeps_holdings_free id m.session).allocated (fun c id' h => ?_)
      fun id' h => h.elim
    by_cases hid : id' = id
    · subst hid
      rw [isTracked_after_free, Bool.and_eq_true] at h
      exact h.1
    · exact (htracked c id' hid).symm.trans h

theorem Valid.later [Platform σ] {h : List (Record σ κ)} (hv : m.Valid) (run : Run m h m') :
    m'.Valid := by
  induction run with
  | refl => exact hv
  | step _ now ih => exact ih.next now

theorem Run.valid [Platform σ] {platform : σ} {h : List (Record σ κ)}
    (run : Run (start platform) h m) : m.Valid :=
  (valid_start platform).later run

theorem Run.allocated [Platform σ] {h : List (Record σ κ)} (run : Run m h m') {id : TransferId}
    (hid : m.session.Allocated id) : m'.session.Allocated id := by
  induction run with
  | refl => exact hid
  | step _ now ih => exact now.allocated ih

/-! ## `handleEvents` as a run -/

section Leading
variable [Platform σ] {own : Nat → Prop} {m m' : EventLoop σ κ} {h : List (Record σ κ)}
  {r : Record σ κ} {s : Session σ κ} {i : Nat}

/-- A run leads from `m` to a session, in which the activations that are under
way wait, except `own`. -/
def Leads (own : Nat → Prop) (m : EventLoop σ κ) (s : Session σ κ) : Prop :=
  ∃ h m', Run m h m' ∧ m'.session = s ∧
    ∀ j, ¬ own j → m.stage j ≠ .idle → m'.stage j = m.stage j

theorem Leads.refl (own : Nat → Prop) (m : EventLoop σ κ) : Leads own m m.session :=
  ⟨[], m, .refl, rfl, fun _ _ _ => rfl⟩

theorem Leads.mono {own' : Nat → Prop} (leads : Leads own m s)
    (h : ∀ j, m.stage j ≠ .idle → own j → own' j) : Leads own' m s := by
  obtain ⟨h', m', run, hs, hstage⟩ := leads
  exact ⟨h', m', run, hs, fun j hj begun => hstage j (fun ho => hj (h j begun ho)) begun⟩

theorem Run.trans {m'' : EventLoop σ κ} {h' : List (Record σ κ)} (run : Run m h m')
    (run' : Run m' h' m'') : Run m (h ++ h') m'' := by
  induction run' with
  | refl => rwa [List.append_nil]
  | step before now ih => exact List.append_assoc h _ _ ▸ ih.step now

theorem Leads.trans (run : Run m h m')
    (waiting : ∀ j, ¬ own j → m.stage j ≠ .idle → m'.stage j = m.stage j)
    (later : Leads own m' s) : Leads own m s := by
  obtain ⟨h', m'', run', hs, waiting'⟩ := later
  refine ⟨h ++ h', m'', run.trans run', hs, fun j hj begun => ?_⟩
  have hsame := waiting j hj begun
  rw [← hsame] at begun ⊢
  exact waiting' j hj begun

/-- A step of activation `i`, which goes on after it. -/
theorem Leads.become {stage : Stage κ} {s' : Session σ κ} (now : Step m r (m.become i stage s'))
    (later : Leads (· = i) (m.become i stage s') s) : Leads (· = i) m s :=
  .trans (Run.refl.step now) (fun _ hj _ => if_neg hj) later

/-- An activation that is to give a callback back does so as `settle` does. -/
theorem leads_settle {id : TransferId} {callback : Option (Callback κ)}
    (returns : (m.stage i).returns? = some (id, callback)) :
    Leads (· = i) m (after (settle id callback) m.session) := by
  refine .become (.restore i id callback _ returns (result_restore ..)) ?_
  rw [settle, after_bind, result_restore]
  dsimp only
  split
  · rw [after_discard]
    exact .become (.free i id (stage_become_self ..)) (.refl _ _)
  · exact .refl _ _

/-- What a callback does is a run in which the activation that runs it waits. -/
def Follows (m : EventLoop σ κ) (i : Nat) (run : TransferId → Callback κ → SessionM σ κ Unit) :
    Prop :=
  ∀ h m' id callback, Run m h m' → m'.stage i = .running id callback →
    Leads (fun _ => False) m' (after (run id callback) m'.session)

theorem leads_conclude {run : TransferId → Callback κ → SessionM σ κ Unit} {id : TransferId}
    {outcome : TransferOutcome} (follows : Follows m i run)
    (extracted : m.stage i = .extracted id outcome) :
    Leads (· = i) m (after (conclude (σ := σ) run id outcome) m.session) := by
  have took := result_finish m.session id outcome
  have now := Step.finish i id outcome _ extracted took
  refine .become now ?_
  change Leads _ _ (after (finish id outcome >>= _) m.session)
  rw [after_bind, took]
  cases hcallback : (m.session.transfer id).callback with
  | none => exact leads_settle (by rw [stage_become_self]; rfl)
  | some callback =>
    rw [hcallback] at now
    have now' := Step.run (m := m.become i (.taken id (some callback))
      (after (finish id outcome) m.session)) i id callback (stage_become_self ..)
    refine .become now' ?_
    obtain ⟨h, m', runs, hs, waiting⟩ :=
      follows _ _ id callback ((Run.refl.step now).step now') (stage_become_self ..)
    have hrunning : m'.stage i = .running id callback := by
      rw [waiting i not_false (by rw [stage_become_self]; exact nofun), stage_become_self]
    refine .trans runs (fun j _ begun => waiting j not_false begun) ?_
    change Leads _ _ (after (run id callback >>= fun _ => settle id (some callback.called)) _)
    rw [after_bind]
    have hs : m'.session = after (run id callback) (after (finish id outcome) m.session) := hs
    rw [← hs]
    -- A callback that fails leaves its activation where it is.
    cases result (run id callback) (after (finish id outcome) m.session) with
    | error e => exact .refl _ _
    | ok _ => exact leads_settle (by rw [hrunning]; rfl)

/-- **`handleEvents` is a run of the machine** by a new activation, if what the
callbacks do is. -/
theorem leads_handleEvents {run : TransferId → Callback κ → SessionM σ κ Unit} (c : ContextId)
    (follows : Follows m i run) (idle : m.stage i = .idle) :
    Leads (fun _ => False) m (after (handleEvents (σ := σ) run c) m.session) := by
  have own : ∀ j, m.stage j ≠ .idle → j = i → False := fun j begun hj => begun (hj ▸ idle)
  have hreach : (after (reach c) m.session).tracker c = m.session.tracker c :=
    neutral_sameTrackers.reach c m.session c
  have hresult := result_poll c m.session
  change Leads _ _ (after (reach c >>= fun _ => extract c >>= _) m.session)
  rw [after_bind, result_reach]
  dsimp only
  rw [after_bind, result_extract, hreach, ← after_poll]
  cases hfound : (m.session.tracker c).extract.1 with
  | none =>
    rw [hfound] at hresult
    exact .mono (.become (.nothing i c idle hresult) (.refl _ _)) own
  | some found =>
    obtain ⟨id, outcome⟩ := found
    rw [hfound] at hresult
    have now := Step.extract i c id outcome idle hresult
    refine .mono (.become now (leads_conclude ?_ (stage_become_self ..))) own
    exact fun h m' id callback later => follows _ m' id callback (later.cons now)

theorem leads_calls (calls : List (Call σ κ))
    (known : ∀ call ∈ calls, ∀ id, call.subject? = some id → m.session.Allocated id) :
    Leads own m (after (calls.forM Call.run) m.session) := by
  induction calls generalizing m with
  | nil => exact .refl own m
  | cons call calls ih =>
    have now := Step.call call (known call (.head _))
    refine .trans (Run.refl.step now) (fun _ _ _ => rfl) ?_
    change Leads own _ (after (call.run >>= fun _ => calls.forM Call.run) m.session)
    rw [after_bind]
    -- A call that fails ends the calls, but stays done.
    cases result call.run m.session with
    | error e => exact .refl own _
    | ok _ => exact ih fun call' hcall id hid => now.allocated (known call' (.tail _ hcall) id hid)

/-- Callbacks that call the session follow the machine, whatever calls they
make, on their own transfer and on others that were allocated. -/
theorem follows_calls (hv : m.Valid) (calls : TransferId → Callback κ → List (Call σ κ))
    (known : ∀ id callback, ∀ call ∈ calls id callback, ∀ id', call.subject? = some id' →
      id' = id ∨ m.session.Allocated id') :
    Follows m i fun id callback => (calls id callback).forM Call.run := by
  intro h m' id callback run running
  refine leads_calls _ fun call hcall id' hid' => ?_
  rcases known id callback call hcall id' hid' with rfl | hid'
  · exact (hv.later run).concerned i id' (by rw [running]; rfl)
  · exact run.allocated hid'

end Leading

end Steps

end EventLoop
end UsbHost
