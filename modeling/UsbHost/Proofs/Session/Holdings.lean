import UsbHost.Proofs.Session.Frame
import UsbHost.Proofs.Tracker.Steps

/-! # What transfers hold and who tracks them

A transfer holds a handle, a buffer and a callback, and is in flight as long as
some tracker has an entry for it.  Only filling and freeing change what a
transfer holds (`SameHoldings`), and only submitting, freeing and extracting
change whether it is tracked (`SameTracking`); no call touches another transfer.

The steps that finish a transfer are described one by one: `extract`, `finish`,
`restore` and `free` each say what they leave in the transfer and in the
trackers.
-/
namespace UsbHost

/-! ## Trackers -/

namespace Tracker
variable {t t' : Tracker} {id : TransferId}

theorem isTracked_iff : t.isTracked id = true ↔ t.entries.get? id ≠ none := by
  rw [isTracked, Table.contains, Option.isSome_iff_ne_none]

theorem isTracked_eq_false : t.isTracked id = false ↔ t.entries.get? id = none := by
  rw [← Bool.not_eq_true, isTracked_iff, ne_eq, Classical.not_not]

theorem isTracked_congr (h : t'.entries.get? id = none ↔ t.entries.get? id = none) :
    t'.isTracked id = t.isTracked id := by
  rw [Bool.eq_iff_iff, isTracked_iff, isTracked_iff, ne_eq, ne_eq, not_congr h]

/-- **Answers and cancellations leave everything tracked that was**, and the
other operations only concern their own transfer. -/
theorem Effect.isTracked {e : Event} (h : Effect t e t')
    (hop : e.op ≠ .register id ∧ e.op ≠ .remove id ∧ e.op ≠ .extract) :
    t'.isTracked id = t.isTracked id := by
  obtain ⟨hregister, hremove, hextract⟩ := hop
  cases h with
  | registered id' free =>
    have hne : id ≠ id' := fun heq => hregister (heq ▸ rfl)
    exact isTracked_congr (by simp [hne])
  | removed id' e tracked =>
    have hne : id ≠ id' := fun heq => hremove (heq ▸ rfl)
    exact isTracked_congr (by simp [hne])
  | accepted s r pending =>
    refine isTracked_congr ?_
    by_cases hs : id = s.transfer <;> simp [hs, pending]
  | cancelled id' n pending =>
    refine isTracked_congr ?_
    by_cases hs : id = id' <;> simp [hs, pending]
  | extracted => exact absurd rfl hextract
  | dropped | notPending | notTracked | nothing => rfl

theorem isTracked_remove (t : Tracker) (id id' : TransferId) :
    (t.remove id).2.isTracked id' = (t.isTracked id' && id' ≠ id) := by
  unfold remove
  split
  · by_cases h : id' = id <;> simp [isTracked, Table.contains, Table.get?_erase, h]
  · rename_i hc
    by_cases h : id' = id
    · simpa [h, isTracked] using hc
    · simp [h]

/-- An extraction takes its transfer out of the tracker and no other. -/
theorem Consistent.isTracked_extract (hc : t.Consistent) (id : TransferId) :
    t.extract.2.isTracked id = (t.isTracked id && t.extract.1.all (·.1 ≠ id)) := by
  have h := hc.extract_effect
  generalize t.extract = p at h
  obtain ⟨r, t'⟩ := p
  cases h with
  | extracted id' r queue first outcome =>
    by_cases h : id = id'
    · simp [isTracked, Table.contains, h]
    · simp [isTracked, Table.contains, Table.get?_erase, h, Ne.symm h]
  | nothing empty => simp

theorem Consistent.tracked_of_extract (hc : t.Consistent) {r : TransferOutcome}
    (h : t.extract.1 = some (id, r)) : t.isTracked id = true := by
  have he := hc.extract_effect
  rw [h] at he
  generalize t.extract.2 = t' at he
  cases he with
  | extracted id r queue first outcome => exact isTracked_iff.mpr (by simp [outcome])

end Tracker

/-! ## Answers -/

namespace Transfer
variable {κ : Type} (t : Transfer κ) (outcome : TransferOutcome)

@[simp] theorem conclude_handle : (t.conclude outcome).handle = t.handle := by
  cases outcome <;> rfl

@[simp] theorem conclude_callback : (t.conclude outcome).callback = t.callback := by
  cases outcome <;> rfl

/-- A response is written into a buffer, which is made when there is none. -/
theorem conclude_buffer_eq_none :
    (t.conclude outcome).buffer = none ↔ t.buffer = none ∧ outcome.isSuccessful = false := by
  cases outcome <;> simp [conclude, Outcome.isSuccessful]

end Transfer

namespace Session

variable {σ κ : Type}

/-! ## Reading after a change -/

section Reading
variable {s : Session σ κ} {id id' : TransferId} {f : Transfer κ → Transfer κ}

/-- The transfers that were allocated. -/
def Allocated (s : Session σ κ) (id : TransferId) : Prop := (s.transfer? id).isSome

theorem transfer?_alter (s : Session σ κ) (id id' : TransferId) (f : Transfer κ → Transfer κ) :
    (s.alter id f).transfer? id' =
      if id' = id then (s.transfer? id').map f else s.transfer? id' := by
  obtain ⟨n⟩ := id
  obtain ⟨n'⟩ := id'
  unfold alter transfer?
  cases n with
  | zero => cases n' <;> simp
  | succ n =>
    cases n' with
    | zero => simp
    | succ n' =>
      by_cases h : n' = n
      · simp [h]
      · simp [h, Ne.symm h]

theorem transfer_alter_of_ne (h : id' ≠ id) : (s.alter id f).transfer id' = s.transfer id' := by
  rw [transfer, transfer?_alter, if_neg h, transfer]

theorem transfer_alter_self (h : s.Allocated id) :
    (s.alter id f).transfer id = f (s.transfer id) := by
  obtain ⟨t, ht⟩ := Option.isSome_iff_exists.mp h
  simp [transfer, transfer?_alter, ht]

theorem transfer_of_not_allocated (h : ¬ s.Allocated id) : s.transfer id = {} := by
  have hnone : s.transfer? id = none := by simpa [Allocated] using h
  rw [transfer, hnone, Option.getD_none]

theorem alter_of_not_allocated (h : ¬ s.Allocated id) :
    (s.alter id f).transfer id = s.transfer id := by
  have hnone : s.transfer? id = none := by simpa [Allocated] using h
  simp [transfer, transfer?_alter, hnone]

/-- A change of one transfer keeps a field that the change keeps. -/
theorem field_alter {γ : Type} (field : Transfer κ → γ)
    (hf : id' = id → field (f (s.transfer id)) = field (s.transfer id)) :
    field ((s.alter id f).transfer id') = field (s.transfer id') := by
  by_cases h : id' = id
  · by_cases ha : s.Allocated id
    · rw [h, transfer_alter_self ha, hf h]
    · rw [h, alter_of_not_allocated ha]
  · rw [transfer_alter_of_ne h]

theorem allocated_alter : (s.alter id f).Allocated id' ↔ s.Allocated id' := by
  unfold Allocated
  rw [transfer?_alter]
  split <;> simp

theorem tracker_explicit (s : Session σ κ) (i : Nat) :
    s.tracker (.explicit i) = s.trackers.getD i {} := rfl

theorem setTracker_explicit (i : Nat) (t : Tracker) (s : Session σ κ) :
    setTracker (.explicit i) t s = { s with trackers := s.trackers.set i t } := rfl

@[simp] theorem tracker_alter (c : ContextId) : (s.alter id f).tracker c = s.tracker c := by
  unfold alter
  cases id.number <;> cases c <;> rfl

@[simp] theorem transfer?_setTracker (c : ContextId) (t : Tracker) :
    (setTracker c t s).transfer? id = s.transfer? id := by
  cases c <;> rfl

theorem tracker_setTracker_of_ne {c c' : ContextId} (h : c' ≠ c) (t : Tracker) :
    (setTracker c t s).tracker c' = s.tracker c' := by
  cases c with
  | default =>
    cases c' with
    | default => exact absurd rfl h
    | explicit i => rfl
  | explicit j =>
    cases c' with
    | default => rfl
    | explicit i =>
      have hij : j ≠ i := fun he => h (he ▸ rfl)
      simp [setTracker_explicit, tracker_explicit, List.getElem?_set_ne hij]

theorem tracker_setTracker (s : Session σ κ) (c c' : ContextId) (t : Tracker) :
    (setTracker c t s).tracker c' = s.tracker c' ∨
      c' = c ∧ (setTracker c t s).tracker c' = t := by
  by_cases h : c' = c
  · subst h
    cases c' with
    | default => exact Or.inr ⟨rfl, rfl⟩
    | explicit i =>
      by_cases hi : i < s.trackers.length
      · exact Or.inr ⟨rfl, by simp [setTracker_explicit, tracker_explicit, hi]⟩
      · exact Or.inl (by simp [setTracker_explicit, tracker_explicit, hi])
  · exact Or.inl (tracker_setTracker_of_ne h t)

/-- Only a context that was made gets another tracker; the others have the empty
one. -/
theorem tracker_setTracker_self {c : ContextId} {t : Tracker}
    (ht : s.tracker c = {} → t = {}) : (setTracker c t s).tracker c = t := by
  cases c with
  | default => rfl
  | explicit i =>
    by_cases hi : i < s.trackers.length
    · simp [setTracker_explicit, tracker_explicit, hi]
    · have hempty : s.tracker (.explicit i) = {} := by simp [tracker_explicit, hi]
      rw [ht hempty]
      simp [setTracker_explicit, tracker_explicit, hi]

end Reading

/-! ## Holdings -/

/-- The transfers in `K` hold what they held. -/
structure SameHoldings (K : TransferId → Prop) (s s' : Session σ κ) : Prop where
  allocated : ∀ id, s.Allocated id → s'.Allocated id
  handle : ∀ id, K id → (s'.transfer id).handle = (s.transfer id).handle
  buffer : ∀ id, K id → (s'.transfer id).buffer = (s.transfer id).buffer
  callback : ∀ id, K id → (s'.transfer id).callback = (s.transfer id).callback

section Holdings
variable {K : TransferId → Prop} {s s' : Session σ κ} {id : TransferId}

theorem SameHoldings.of_transfer? (h : ∀ id, s'.transfer? id = s.transfer? id) :
    SameHoldings K s s' := by
  refine ⟨fun id hs => ?_, fun id _ => ?_, fun id _ => ?_, fun id _ => ?_⟩
  · rw [Allocated, h]; exact hs
  all_goals simp only [transfer, h]

theorem neutral_sameHoldings : Neutral AnyChange (SameHoldings (κ := κ) (σ := σ) K) where
  refl _ := .of_transfer? fun _ => rfl
  trans h h' :=
    ⟨fun id hs => h'.allocated id (h.allocated id hs),
      fun id hk => (h'.handle id hk).trans (h.handle id hk),
      fun id hk => (h'.buffer id hk).trans (h.buffer id hk),
      fun id hk => (h'.callback id hk).trans (h.callback id hk)⟩
  platform s p _ := .of_transfer? fun _ => rfl
  notices s ns := .of_transfer? fun _ => rfl
  devices s ds := .of_transfer? fun _ => rfl
  opened s handle := .of_transfer? fun _ => rfl
  closed s i := .of_transfer? fun _ => rfl
  reached s hd := .of_transfer? fun _ => rfl
  context s := .of_transfer? fun _ => rfl
  allocated s := by
    -- A transfer is idle before it is allocated and after.
    have same : ∀ id, ({ s with transfers := s.transfers ++ [{}] } : Session σ κ).transfer id =
        s.transfer id := by
      rintro ⟨_ | n⟩
      · rfl
      · simp only [transfer, transfer?, List.getElem?_append]
        split
        · rfl
        · rename_i hn
          rw [List.getElem?_eq_none (by omega : s.transfers.length ≤ n)]
          cases n - s.transfers.length <;> simp
    refine ⟨?_, fun id _ => ?_, fun id _ => ?_, fun id _ => ?_⟩
    · rintro ⟨_ | n⟩ hs
      · exact hs
      · have hn : n < s.transfers.length := by simpa [Allocated, transfer?] using hs
        simp only [Allocated, transfer?, isSome_getElem?, List.length_append]
        omega
    all_goals rw [same]

theorem sameHoldings_setTracker (c : ContextId) (t : Tracker) :
    SameHoldings K s (setTracker c t s) :=
  .of_transfer? fun _ => transfer?_setTracker c t

/-- A change of one transfer keeps what the others hold. -/
theorem sameHoldings_alter {f : Transfer κ → Transfer κ}
    (hf : K id → (f (s.transfer id)).handle = (s.transfer id).handle ∧
      (f (s.transfer id)).buffer = (s.transfer id).buffer ∧
      (f (s.transfer id)).callback = (s.transfer id).callback) :
    SameHoldings K s (s.alter id f) := by
  refine ⟨fun _ => allocated_alter.mpr, fun id' hk => ?_, fun id' hk => ?_, fun id' hk => ?_⟩
  · exact field_alter Transfer.handle fun h => (hf (h ▸ hk)).1
  · exact field_alter Transfer.buffer fun h => (hf (h ▸ hk)).2.1
  · exact field_alter Transfer.callback fun h => (hf (h ▸ hk)).2.2

theorem sameHoldings_alter_ne {f : Transfer κ → Transfer κ} :
    SameHoldings (· ≠ id) s (s.alter id f) :=
  sameHoldings_alter fun h => absurd rfl h

theorem keeps_holdings_track (c : ContextId) (op : Tracker.Op) :
    Keeps (SameHoldings (κ := κ) (σ := σ) K) (track c op) :=
  neutral_sameHoldings.track fun _ _ _ _ => sameHoldings_setTracker ..

theorem keeps_holdings_submit [Platform σ] (id : TransferId) :
    Keeps (SameHoldings (κ := κ) (σ := σ) K) (submit id) :=
  neutral_sameHoldings.submit (fun _ _ _ _ => trivial)
    (fun _ => sameHoldings_alter fun _ => ⟨rfl, rfl, rfl⟩)
    (fun _ _ _ _ _ => sameHoldings_setTracker ..) fun _ _ _ _ _ _ _ => sameHoldings_setTracker ..

/-- Submitting a transfer without a handle is a fault. -/
theorem after_submit_of_no_handle [Platform σ] (h : (s.transfer id).handle = none) :
    after (submit id) s = s := by
  simp [submit, after_bind, h]

theorem keeps_holdings_free (id : TransferId) :
    Keeps (SameHoldings (κ := κ) (σ := σ) (· ≠ id)) (free id) :=
  neutral_sameHoldings.free (fun _ _ _ _ _ => sameHoldings_setTracker ..)
    fun _ => sameHoldings_alter_ne

end Holdings

/-! ## Tracking -/

/-- Every tracker's queue and entries agree. -/
def Sound (s : Session σ κ) : Prop := ∀ c, (s.tracker c).Consistent

/-- The transfers in `K` are tracked where they were. -/
def SameTracking (K : TransferId → Prop) (s s' : Session σ κ) : Prop :=
  s.Sound → s'.Sound ∧ ∀ c id, K id → (s'.tracker c).isTracked id = (s.tracker c).isTracked id

section Tracking
variable {K : TransferId → Prop} {s s' : Session σ κ} {id : TransferId}

theorem SameTracking.of_tracker (h : ∀ c, s'.tracker c = s.tracker c) :
    SameTracking K s s' :=
  fun hs => ⟨fun c => (h c).symm ▸ hs c, fun c id _ => by rw [h c]⟩

theorem neutral_sameTrackers :
    Neutral AnyChange fun s s' : Session σ κ => ∀ c, s'.tracker c = s.tracker c where
  refl _ _ := rfl
  trans h h' c := (h' c).trans (h c)
  platform s p _ c := by cases c <;> rfl
  notices s ns c := by cases c <;> rfl
  devices s ds c := by cases c <;> rfl
  opened s handle c := by cases c <;> rfl
  closed s i c := by cases c <;> rfl
  reached s hd c := by cases c <;> simp [tracker, hd]
  context s c := by
    cases c with
    | default => rfl
    | explicit i =>
      simp only [tracker_explicit, List.getD_eq_getElem?_getD, List.getElem?_append]
      split
      · rfl
      · rename_i hi
        rw [List.getElem?_eq_none (by omega : s.trackers.length ≤ i)]
        cases i - s.trackers.length <;> simp
  allocated _ c := by cases c <;> rfl

theorem neutral_sameTracking : Neutral AnyChange (SameTracking (κ := κ) (σ := σ) K) where
  refl _ := .of_tracker fun _ => rfl
  trans h h' hs :=
    have ⟨hsound, hsame⟩ := h hs
    have ⟨hsound', hsame'⟩ := h' hsound
    ⟨hsound', fun c id hk => (hsame' c id hk).trans (hsame c id hk)⟩
  platform s p h := .of_tracker (neutral_sameTrackers.platform s p h)
  notices s ns := .of_tracker (neutral_sameTrackers.notices s ns)
  devices s ds := .of_tracker (neutral_sameTrackers.devices s ds)
  opened s handle := .of_tracker (neutral_sameTrackers.opened s handle)
  closed s i := .of_tracker (neutral_sameTrackers.closed s i)
  reached s hd := .of_tracker (neutral_sameTrackers.reached s hd)
  context s := .of_tracker (neutral_sameTrackers.context s)
  allocated s := .of_tracker (neutral_sameTrackers.allocated s)

theorem sameTracking_alter (f : Transfer κ → Transfer κ) :
    SameTracking K s (s.alter id f) :=
  .of_tracker fun c => tracker_alter c

/-- An operation on a tracker keeps the others as they are, and in its own the
transfers it does not concern. -/
theorem sameTracking_step {c : ContextId} {op : Tracker.Op} {reply : Tracker.Reply} {t : Tracker}
    (h : (s.tracker c).step op = .ok (reply, t)) (hextract : op ≠ .extract)
    (hkept : ∀ id, K id → op ≠ .register id ∧ op ≠ .remove id) :
    SameTracking K s (setTracker c t s) := by
  intro hs
  have effect := (hs c).effect h
  refine ⟨fun c' => ?_, fun c' id hk => ?_⟩
  · rcases tracker_setTracker s c c' t with h' | ⟨rfl, h'⟩
    · exact h' ▸ hs c'
    · rw [h']
      exact (hs c').next effect
  · rcases tracker_setTracker s c c' t with h' | ⟨rfl, h'⟩
    · rw [h']
    · rw [h']
      exact effect.isTracked ⟨(hkept id hk).1, (hkept id hk).2, hextract⟩

theorem keeps_tracking_deliver (ticket : Ticket) (outcome : TransferOutcome) :
    Keeps (SameTracking (κ := κ) (σ := σ) K) (deliver ticket outcome) :=
  neutral_sameTracking.deliver fun _ _ _ h => sameTracking_step h nofun fun _ _ => ⟨nofun, nofun⟩

theorem keeps_tracking_cancel (id : TransferId) :
    Keeps (SameTracking (κ := κ) (σ := σ) K) (cancel id) :=
  neutral_sameTracking.cancel fun _ _ _ _ h => sameTracking_step h nofun fun _ _ => ⟨nofun, nofun⟩

theorem keeps_tracking_submit [Platform σ] (id : TransferId) :
    Keeps (SameTracking (κ := κ) (σ := σ) (· ≠ id)) (submit id) := by
  refine neutral_sameTracking.submit (fun _ _ _ _ => trivial) (fun _ => sameTracking_alter _)
    (fun _ _ _ _ h => ?_)
    fun _ _ _ _ _ _ h => sameTracking_step h nofun fun _ _ => ⟨nofun, nofun⟩
  exact sameTracking_step h nofun fun _ hne => ⟨fun he => hne (by cases he; rfl), nofun⟩

theorem keeps_tracking_free (id : TransferId) :
    Keeps (SameTracking (κ := κ) (σ := σ) (· ≠ id)) (free id) :=
  neutral_sameTracking.free
    (fun _ _ _ _ h => sameTracking_step h nofun fun _ hne =>
      ⟨nofun, fun he => hne (by cases he; rfl)⟩)
    fun _ => sameTracking_alter _

end Tracking

/-! ## The steps that finish a transfer -/

section Finishing
variable (s : Session σ κ) (c : ContextId) (id : TransferId) (outcome : TransferOutcome)

theorem result_extract : result (extract c) s = .ok (s.tracker c).extract.1 := by
  have h : (s.tracker c).step .extract =
      .ok (.extracted (s.tracker c).extract.1, (s.tracker c).extract.2) := rfl
  rw [extract, result_bind, result_track h]
  rfl

theorem after_extract :
    after (extract c) s = after (track c .extract : SessionM σ κ _) s := by
  have h : (s.tracker c).step .extract =
      .ok (.extracted (s.tracker c).extract.1, (s.tracker c).extract.2) := rfl
  rw [extract, after_bind, result_track h]
  rfl

theorem tracker_after_extract (c' : ContextId) :
    (after (extract c) s).tracker c' =
      if c' = c then (s.tracker c).extract.2 else s.tracker c' := by
  have h : (after (extract c) s).tracker c' =
      (setTracker c (s.tracker c).extract.2 s).tracker c' := by
    rw [after_extract, after_track rfl]
    cases c' <;> rfl
  rw [h]
  split
  · rename_i heq
    subst heq
    exact tracker_setTracker_self fun hempty => by rw [hempty]; rfl
  · rename_i hne
    exact tracker_setTracker_of_ne hne _

theorem result_noteConcluded (t : Transfer κ) : result (noteConcluded id outcome t) s = .ok () := by
  unfold noteConcluded
  cases outcome <;> cases t.callback <;> simp [result_bind]

theorem after_noteConcluded (t : Transfer κ) :
    ∃ ns, after (noteConcluded id outcome t) s = { s with notices := ns } := by
  unfold noteConcluded
  cases outcome <;> cases t.callback <;> simp [after_bind]

theorem result_finish : result (finish id outcome) s = .ok (s.transfer id).callback := by
  simp [finish, result_bind, result_noteConcluded, Except.map]

theorem after_finish : ∃ ns, after (finish id outcome) s =
    alter id (fun _ => { (s.transfer id).conclude outcome with callback := none })
      { s with notices := ns } := by
  obtain ⟨ns, h⟩ := after_noteConcluded s id outcome ((s.transfer id).conclude outcome)
  refine ⟨ns, ?_⟩
  rw [← h]
  simp [finish, after_bind, result_noteConcluded]

/-- Finishing only concerns the transfer that is finished. -/
theorem finish_sameHoldings : SameHoldings (· ≠ id) s (after (finish id outcome) s) := by
  obtain ⟨ns, h⟩ := after_finish s id outcome
  rw [h]
  exact neutral_sameHoldings.trans (neutral_sameHoldings.notices s ns) sameHoldings_alter_ne

theorem finish_sameTracking {K : TransferId → Prop} :
    SameTracking K s (after (finish id outcome) s) := by
  obtain ⟨ns, h⟩ := after_finish s id outcome
  rw [h]
  exact neutral_sameTracking.trans (neutral_sameTracking.notices s ns) (sameTracking_alter _)

variable {s id} in
theorem transfer_after_finish (ha : s.Allocated id) :
    (after (finish id outcome) s).transfer id =
      { (s.transfer id).conclude outcome with callback := none } := by
  obtain ⟨ns, h⟩ := after_finish s id outcome
  rw [h]
  exact transfer_alter_self ha

theorem result_restore (callback : Option (Callback κ)) :
    result (restore id callback) s =
      .ok ((after (restore id callback) s).transfer id |>.flags.contains .freeTransfer) := rfl

theorem after_restore (callback : Option (Callback κ)) :
    after (restore id callback) s =
      s.alter id fun t => { t with callback := t.callback.or callback } := rfl

/-- The session in which the context of a transfer's handle no longer tracks it. -/
def withdrawn : Session σ κ :=
  match s.contextOf? (s.transfer id) with
  | some context => after (track context (.remove id)) (after (reach context) s)
  | none => s

theorem after_free : after (free id) s =
    (s.withdrawn id).alter id fun _ => ((s.withdrawn id).transfer id).release.2 := by
  unfold free withdrawn
  rw [after_bind, result_get]
  dsimp only [after_get]
  cases s.contextOf? (s.transfer id) with
  | none => rfl
  | some context =>
    have hremove : ∀ s' : Session σ κ, result (track context (.remove id)) s' =
        .ok (.removed id (s'.tracker context |>.remove id).1) := fun _ => result_track rfl
    simp only [after_bind, result_reach, result_discard, after_discard, hremove, Except.map]
    rfl

/-- **A freed transfer holds nothing.** -/
theorem transfer_after_free :
    ((after (free id) s).transfer id).handle = none ∧
      ((after (free id) s).transfer id).buffer = none ∧
      ((after (free id) s).transfer id).callback = none := by
  rw [after_free]
  by_cases ha : (s.withdrawn id).Allocated id
  · simp [transfer_alter_self ha, Transfer.release]
  · simp [alter_of_not_allocated ha, transfer_of_not_allocated ha]

/-- **A freed transfer is not tracked in the context of its handle**, and in the
others as before. -/
theorem isTracked_after_free :
    ((after (free id) s).tracker c).isTracked id =
      ((s.tracker c).isTracked id && s.contextOf? (s.transfer id) ≠ some c) := by
  rw [after_free, tracker_alter]
  unfold withdrawn
  cases hc : s.contextOf? (s.transfer id) with
  | none => simp
  | some context =>
    have hreach : ∀ c, (after (reach context) s).tracker c = s.tracker c :=
      neutral_sameTrackers.reach context s
    have hstep : ∀ s' : Session σ κ, s'.tracker context = s.tracker context →
        ((after (track context (.remove id)) s').tracker c).isTracked id =
          ((setTracker context (s.tracker context |>.remove id).2 s').tracker c).isTracked id := by
      intro s' hs'
      rw [after_track rfl, hs']
      cases c <;> rfl
    rw [hstep _ (hreach context)]
    by_cases h : c = context
    · subst h
      rw [tracker_setTracker_self (fun hempty => by rw [← hreach, hempty]; rfl)]
      simp [Tracker.isTracked_remove]
    · rw [tracker_setTracker_of_ne h, hreach]
      simp [Ne.symm h]

end Finishing

end Session
end UsbHost
