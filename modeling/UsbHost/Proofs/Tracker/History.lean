import UsbHost.Proofs.Tracker.Steps

/-! # What becomes of a submission

A transfer keeps its id when it is submitted again, so an id alone does not say
which submission an extraction answers.  The history of a run does: an
extraction hands out the outcome of the latest submission of its transfer
(`latest`, `handedOut`).

`Pending`, `Finished` and `Withdrawn` say what has become of a submission, in
terms of the events of the history only.  `Ledger` ties them to the tracker: an
entry in flight is the entry of a pending submission, an entry with an outcome
that of a finished one that has not been handed out.
-/
namespace UsbHost

/-- A list with one more element splits at that element or before it. -/
theorem split_snoc {α : Type} {h : List α} {e : α} {P : List α → α → List α → Prop} :
    (∃ before x after, h ++ [e] = before ++ x :: after ∧ P before x after) ↔
      P h e [] ∨ ∃ before x after, h = before ++ x :: after ∧ P before x (after ++ [e]) := by
  constructor
  · rintro ⟨before, x, after, heq, hp⟩
    rcases List.eq_nil_or_concat after with rfl | ⟨after', y, rfl⟩
    · obtain ⟨rfl, hx⟩ := List.append_inj' heq rfl
      cases hx
      exact Or.inl hp
    · rw [List.concat_eq_append, ← List.cons_append, ← List.append_assoc] at heq
      obtain ⟨rfl, hy⟩ := List.append_inj' heq rfl
      cases hy
      exact Or.inr ⟨before, x, after', rfl, by simpa using hp⟩
  · rintro (hp | ⟨before, x, after, rfl, hp⟩)
    · exact ⟨h, e, [], rfl, hp⟩
    · exact ⟨before, x, after ++ [e], by simp, hp⟩

namespace Tracker

/-! ## Histories -/

/-- `e` completes the submission `s` with the outcome `r`, if `s` is pending: it
delivers `r` to `s`, or cancels the transfer. -/
def Event.Completes (e : Event) (s : Submission) (r : TransferOutcome) : Prop :=
  e.op = .deliver s r ∨ e.op = .cancel s.transfer ∧ r = .canceled

/-- `e` leaves `s` no longer pending. -/
def Event.Settles (e : Event) (s : Submission) : Prop :=
  (∃ r, e.Completes s r) ∨ e.op = .remove s.transfer

/-- `s` has been given out by `register`. -/
def Registered (h : List Event) (s : Submission) : Prop :=
  ∃ e ∈ h, e.reply = .registered s

/-- `s` was given out and nothing has settled it since. -/
def Pending (h : List Event) (s : Submission) : Prop :=
  ∃ before e after, h = before ++ e :: after ∧ e.reply = .registered s ∧
    ∀ e' ∈ after, ¬ e'.Settles s

/-- The event that completed `s` with `r`: the first one that found it pending. -/
def Finished (h : List Event) (s : Submission) (r : TransferOutcome) : Prop :=
  ∃ before e after, h = before ++ e :: after ∧ Pending before s ∧ e.Completes s r

/-- The submission of a transfer that an event registers. -/
def Event.submission? (e : Event) (id : TransferId) : Option Submission :=
  match e.reply with
  | .registered s => if s.transfer = id then some s else none
  | _ => none

/-- The last submission of a transfer. -/
def latest (h : List Event) (id : TransferId) : Option Submission :=
  (h.filterMap (·.submission? id)).getLast?

/-- What an event hands out, if it is an extraction. -/
def Event.extraction? (e : Event) : Option (TransferId × TransferOutcome) :=
  match e.reply with
  | .extracted result => result
  | _ => none

/-- What an event after `before` hands out, with the submission it answers. -/
def Event.handsOut? (before : List Event) (e : Event) : Option (Submission × TransferOutcome) :=
  e.extraction?.bind fun (id, r) => (latest before id).map (·, r)

/-- What the events after `before` hand out. -/
def handedOutAfter (before : List Event) : List Event → List (Submission × TransferOutcome)
  | [] => []
  | e :: h => (e.handsOut? before).toList ++ handedOutAfter (before ++ [e]) h

/-- The submissions that were handed out, with their outcomes, oldest first. -/
def handedOut (h : List Event) : List (Submission × TransferOutcome) := handedOutAfter [] h

/-- `s` was removed before it was handed out. -/
def Withdrawn (h : List Event) (s : Submission) : Prop :=
  ∃ before e after, h = before ++ e :: after ∧ Registered before s ∧
    s ∉ (handedOut before).map Prod.fst ∧ e.op = .remove s.transfer

/-! ## One event more -/

section Snoc
variable {h : List Event} {e : Event} {s : Submission} {r : TransferOutcome} {id : TransferId}

theorem registered_snoc :
    Registered (h ++ [e]) s ↔ Registered h s ∨ e.reply = .registered s := by
  simp [Registered, or_and_right, exists_or]

theorem pending_snoc :
    Pending (h ++ [e]) s ↔ e.reply = .registered s ∨ (Pending h s ∧ ¬ e.Settles s) := by
  unfold Pending
  rw [split_snoc]
  refine or_congr (by simp) ⟨?_, ?_⟩
  · rintro ⟨before, x, after, rfl, hx, ha⟩
    simp only [List.mem_append, List.mem_singleton] at ha
    exact ⟨⟨before, x, after, rfl, hx, fun y hy => ha y (Or.inl hy)⟩, ha e (Or.inr rfl)⟩
  · rintro ⟨⟨before, x, after, rfl, hx, ha⟩, he⟩
    refine ⟨before, x, after, rfl, hx, fun y hy => ?_⟩
    rcases List.mem_append.mp hy with hy | hy
    · exact ha y hy
    · exact List.mem_singleton.mp hy ▸ he

theorem finished_snoc :
    Finished (h ++ [e]) s r ↔ Finished h s r ∨ (Pending h s ∧ e.Completes s r) := by
  unfold Finished
  rw [split_snoc, or_comm]

theorem latest_snoc : latest (h ++ [e]) id = (e.submission? id).or (latest h id) := by
  unfold latest
  rw [List.filterMap_append]
  cases he : e.submission? id <;> simp [he]

theorem handedOutAfter_snoc (before : List Event) :
    handedOutAfter before (h ++ [e]) =
      handedOutAfter before h ++ (e.handsOut? (before ++ h)).toList := by
  induction h generalizing before with
  | nil => simp [handedOutAfter]
  | cons x h ih => simp [handedOutAfter, ih]

theorem handedOut_snoc : handedOut (h ++ [e]) = handedOut h ++ (e.handsOut? h).toList :=
  handedOutAfter_snoc []

theorem withdrawn_snoc :
    Withdrawn (h ++ [e]) s ↔ Withdrawn h s ∨
      (Registered h s ∧ s ∉ (handedOut h).map Prod.fst ∧ e.op = .remove s.transfer) := by
  unfold Withdrawn
  rw [split_snoc, or_comm]

theorem submission?_eq_some :
    e.submission? id = some s ↔ e.reply = .registered s ∧ s.transfer = id := by
  unfold Event.submission?
  split
  · rename_i u hu
    rw [hu, Reply.registered.injEq, Option.ite_none_right_eq_some, Option.some.injEq]
    constructor
    · rintro ⟨ht, rfl⟩
      exact ⟨rfl, ht⟩
    · rintro ⟨rfl, ht⟩
      exact ⟨ht, rfl⟩
  · rename_i hu
    exact ⟨nofun, fun h => absurd h.1 (hu s)⟩

/-- The latest submission of a transfer is one of its own that was given out. -/
theorem latest_spec (hl : latest h id = some s) : s.transfer = id ∧ Registered h s := by
  obtain ⟨e, hmem, he⟩ := List.mem_filterMap.mp (List.mem_of_getLast? hl)
  obtain ⟨hreply, htransfer⟩ := submission?_eq_some.mp he
  exact ⟨htransfer, e, hmem, hreply⟩

theorem Withdrawn.registered (hw : Withdrawn h s) : Registered h s := by
  obtain ⟨before, x, after, rfl, ⟨y, hy, hreply⟩, -, -⟩ := hw
  exact ⟨y, List.mem_append_left _ hy, hreply⟩

/-! Events that neither register nor hand out anything. -/

variable (hreg : ∀ s, e.reply ≠ .registered s) (hout : e.extraction? = none)

include hreg in
theorem latest_snoc_of_not_registered : latest (h ++ [e]) id = latest h id := by
  have hnone : e.submission? id = none :=
    Option.eq_none_iff_forall_ne_some.mpr fun s hs => hreg s (submission?_eq_some.mp hs).1
  rw [latest_snoc, hnone, Option.none_or]

include hout in
theorem handedOut_snoc_of_not_extraction : handedOut (h ++ [e]) = handedOut h := by
  simp [handedOut_snoc, Event.handsOut?, hout]

end Snoc

/-! ## What is handed out -/

/-- What a history hands out is right: every extraction hands out something, and
each submission once, with the outcome it finished with. -/
structure Sound (h : List Event) : Prop where
  handed : ∀ s r, (s, r) ∈ handedOut h → Registered h s ∧ Finished h s r
  nodup : ((handedOut h).map Prod.fst).Nodup
  extractions : (handedOut h).map (fun p => (p.1.transfer, p.2)) = h.filterMap (·.extraction?)

theorem sound_nil : Sound [] where
  handed := by simp [handedOut, handedOutAfter]
  nodup := List.nodup_nil
  extractions := rfl

theorem Sound.snoc_of_not_extraction {h : List Event} {e : Event} (hs : Sound h)
    (hout : e.extraction? = none) : Sound (h ++ [e]) where
  handed s r hsr := by
    rw [handedOut_snoc_of_not_extraction hout] at hsr
    obtain ⟨hreg, hf⟩ := hs.handed s r hsr
    exact ⟨registered_snoc.mpr (Or.inl hreg), finished_snoc.mpr (Or.inl hf)⟩
  nodup := by
    rw [handedOut_snoc_of_not_extraction hout]
    exact hs.nodup
  extractions := by
    rw [handedOut_snoc_of_not_extraction hout, hs.extractions]
    simp [hout]

theorem Sound.snoc_extraction {h : List Event} {e : Event} {s : Submission}
    {r : TransferOutcome} (hs : Sound h) (hout : e.extraction? = some (s.transfer, r))
    (hl : latest h s.transfer = some s) (hf : Finished h s r)
    (hnew : s ∉ (handedOut h).map Prod.fst) :
    handedOut (h ++ [e]) = handedOut h ++ [(s, r)] ∧ Sound (h ++ [e]) := by
  have heq : handedOut (h ++ [e]) = handedOut h ++ [(s, r)] := by
    simp [handedOut_snoc, Event.handsOut?, hout, hl]
  refine ⟨heq, ?_, ?_, ?_⟩
  · intro u q hu
    rw [registered_snoc, finished_snoc]
    rw [heq, List.mem_append, List.mem_singleton] at hu
    rcases hu with hu | hu
    · obtain ⟨hreg, hfin⟩ := hs.handed u q hu
      exact ⟨Or.inl hreg, Or.inl hfin⟩
    · cases hu
      exact ⟨Or.inl (latest_spec hl).2, Or.inl hf⟩
  · rw [heq, List.map_append]
    refine List.nodup_append.mpr ⟨hs.nodup, by simp, ?_⟩
    intro a ha b hb hab
    rw [List.map_singleton, List.mem_singleton] at hb
    subst hb hab
    exact hnew ha
  · rw [heq, List.map_append, hs.extractions]
    simp [hout]

/-! ## The ledger -/

/-- What the history `h` says of a tracker `t` that it led to. -/
structure Ledger (h : List Event) (t : Tracker) : Prop where
  consistent : t.Consistent
  sound : Sound h
  registered_le : ∀ s, Registered h s → s.number ≤ t.submissions
  pending : ∀ s, t.entries.get? s.transfer = some (.pending s.number) ↔ Pending h s
  pending_latest : ∀ id n, t.entries.get? id = some (.pending n) → latest h id = some ⟨id, n⟩
  finished : ∀ id r, t.entries.get? id = some (.completed r) →
    ∃ s, latest h id = some s ∧ Finished h s r
  kept : ∀ id e s, t.entries.get? id = some e → latest h id = some s →
    s ∉ (handedOut h).map Prod.fst
  withdrawn : ∀ s, Withdrawn h s → s ∉ (handedOut h).map Prod.fst ∧
    (latest h s.transfer = some s → t.entries.get? s.transfer = none)

namespace Ledger
variable {h : List Event} {t t' : Tracker} {e : Event}

theorem new : Ledger [] {} where
  consistent := consistent_empty
  sound := sound_nil
  registered_le := by simp [Registered]
  pending := by simp [Pending]
  pending_latest := by simp
  finished := by simp
  kept := by simp
  withdrawn := by simp [Withdrawn]

theorem handed_le (l : Ledger h t) {s : Submission} (hs : s ∈ (handedOut h).map Prod.fst) :
    s.number ≤ t.submissions := by
  obtain ⟨⟨u, r⟩, hmem, rfl⟩ := List.mem_map.mp hs
  exact l.registered_le u (l.sound.handed u r hmem).1

/-- The entry of a transfer in flight belongs to one submission only. -/
theorem pending_unique (l : Ledger h t) {s s' : Submission}
    (hs : t.entries.get? s.transfer = some (.pending s.number)) (hs' : Pending h s')
    (htransfer : s'.transfer = s.transfer) : s' = s := by
  have hn := (l.pending s').mpr hs'
  rw [htransfer, hs] at hn
  obtain ⟨id, n⟩ := s
  obtain ⟨id', n'⟩ := s'
  cases hn
  cases htransfer
  rfl

/-- An event that changes nothing: it settles nobody who is pending. -/
theorem still (l : Ledger h t) (hreg : ∀ s, e.reply ≠ .registered s)
    (hout : e.extraction? = none) (hsettle : ∀ s, e.Settles s → ¬ Pending h s)
    (hremove : ∀ id, e.op = .remove id → t.entries.get? id = none) : Ledger (h ++ [e]) t where
  consistent := l.consistent
  sound := l.sound.snoc_of_not_extraction hout
  registered_le s hs := l.registered_le s ((registered_snoc.mp hs).resolve_right (hreg s))
  pending s := by
    rw [l.pending, pending_snoc]
    exact ⟨fun hp => Or.inr ⟨hp, fun he => hsettle s he hp⟩,
      fun hp => (hp.resolve_left (hreg s)).1⟩
  pending_latest id n hn := by
    rw [latest_snoc_of_not_registered hreg]
    exact l.pending_latest id n hn
  finished id r hr := by
    rw [latest_snoc_of_not_registered hreg]
    obtain ⟨s, hs, hf⟩ := l.finished id r hr
    exact ⟨s, hs, finished_snoc.mpr (Or.inl hf)⟩
  kept id x s hx hs := by
    rw [latest_snoc_of_not_registered hreg] at hs
    rw [handedOut_snoc_of_not_extraction hout]
    exact l.kept id x s hx hs
  withdrawn s hs := by
    rw [latest_snoc_of_not_registered hreg, handedOut_snoc_of_not_extraction hout]
    rcases withdrawn_snoc.mp hs with hs | ⟨-, hnot, hop⟩
    · exact l.withdrawn s hs
    · exact ⟨hnot, fun _ => hremove _ hop⟩

/-- A new submission of a transfer that is not tracked. -/
theorem enlist (l : Ledger h t) {id : TransferId} (hfree : t.entries.get? id = none) :
    Ledger (h ++ [⟨.register id, .registered ⟨id, t.submissions + 1⟩⟩]) (t.enlist id) := by
  have hlatest : ∀ i, latest (h ++ [⟨.register id, .registered ⟨id, t.submissions + 1⟩⟩]) i =
      if id = i then some ⟨id, t.submissions + 1⟩ else latest h i := by
    intro i
    by_cases hi : id = i <;> simp [latest_snoc, Event.submission?, hi]
  refine ⟨l.consistent.enlist hfree, l.sound.snoc_of_not_extraction rfl, ?_, ?_, ?_, ?_, ?_, ?_⟩
  · intro s hs
    change s.number ≤ t.submissions + 1
    rcases registered_snoc.mp hs with hs | hs
    · exact Nat.le_succ_of_le (l.registered_le s hs)
    · cases hs
      exact Nat.le_refl _
  · intro s
    rw [get?_enlist, pending_snoc]
    -- Registering settles nobody, so those who were pending stay so.
    have hsettle : ¬ Event.Settles ⟨.register id, .registered ⟨id, t.submissions + 1⟩⟩ s := by
      simp [Event.Settles, Event.Completes]
    by_cases hs : s.transfer = id
    · have hp : ¬ Pending h s := fun hp => by
        rw [← l.pending, hs, hfree] at hp
        cases hp
      obtain ⟨i, n⟩ := s
      cases hs
      simp [hp]
    · simp [hs, l.pending, hsettle, show ¬ (⟨id, t.submissions + 1⟩ : Submission) = s from
        fun he => hs (he ▸ rfl)]
  · intro i n hn
    rw [get?_enlist] at hn
    rw [hlatest]
    by_cases hi : i = id
    · subst hi
      simpa using hn
    · rw [if_neg hi] at hn
      rw [if_neg (Ne.symm hi)]
      exact l.pending_latest i n hn
  · intro i r hr
    rw [get?_enlist] at hr
    rw [hlatest]
    by_cases hi : i = id
    · simp [hi] at hr
    · rw [if_neg hi] at hr
      obtain ⟨s, hs, hf⟩ := l.finished i r hr
      exact ⟨s, by rw [if_neg (Ne.symm hi)]; exact hs, finished_snoc.mpr (Or.inl hf)⟩
  · intro i x s hx hs
    rw [handedOut_snoc_of_not_extraction rfl]
    rw [hlatest] at hs
    rw [get?_enlist] at hx
    by_cases hi : i = id
    · rw [if_pos hi.symm] at hs
      cases hs
      -- The number of the new submission is above all that were handed out.
      exact fun hmem => absurd (l.handed_le hmem) (Nat.not_succ_le_self _)
    · rw [if_neg hi] at hx
      rw [if_neg (Ne.symm hi)] at hs
      exact l.kept i x s hx hs
  · intro s hs
    have hw : Withdrawn h s := (withdrawn_snoc.mp hs).resolve_right (by simp)
    rw [handedOut_snoc_of_not_extraction rfl, hlatest, get?_enlist]
    refine ⟨(l.withdrawn s hw).1, fun hl => ?_⟩
    by_cases hi : s.transfer = id
    · rw [if_pos hi.symm] at hl
      cases hl
      exact absurd (l.registered_le _ hw.registered) (Nat.not_succ_le_self _)
    · rw [if_neg (Ne.symm hi)] at hl
      rw [if_neg hi]
      exact (l.withdrawn s hw).2 hl

/-- An event that completes a submission in flight. -/
theorem complete (l : Ledger h t) {s : Submission} {r : TransferOutcome}
    (hpending : t.entries.get? s.transfer = some (.pending s.number)) (hdone : e.Completes s r)
    (hsettle : ∀ s', e.Settles s' → Pending h s' → s' = s) (hreg : ∀ s, e.reply ≠ .registered s)
    (hout : e.extraction? = none) (hremove : ∀ id, e.op ≠ .remove id) :
    Ledger (h ++ [e]) (t.complete s.transfer r) where
  consistent := l.consistent.complete hpending r
  sound := l.sound.snoc_of_not_extraction hout
  registered_le u hu := l.registered_le u ((registered_snoc.mp hu).resolve_right (hreg u))
  pending u := by
    rw [get?_complete, pending_snoc]
    by_cases hu : u.transfer = s.transfer
    · rw [if_pos hu]
      refine ⟨nofun, fun hp => ?_⟩
      -- Of each transfer one submission is pending at most, and this one is completed.
      obtain ⟨hp, hnot⟩ := hp.resolve_left (hreg u)
      have hus : u = s := l.pending_unique hpending hp hu
      exact absurd (hus ▸ Or.inl ⟨r, hdone⟩) hnot
    · rw [if_neg hu, l.pending]
      exact ⟨fun hp => Or.inr ⟨hp, fun he => hu (hsettle u he hp ▸ rfl)⟩,
        fun hp => (hp.resolve_left (hreg u)).1⟩
  pending_latest i n hn := by
    rw [get?_complete] at hn
    rw [latest_snoc_of_not_registered hreg]
    split at hn
    · cases hn
    · exact l.pending_latest i n hn
  finished i q hq := by
    rw [get?_complete] at hq
    rw [latest_snoc_of_not_registered hreg]
    split at hq
    · rename_i hi
      cases hq
      subst hi
      exact ⟨s, l.pending_latest _ _ hpending,
        finished_snoc.mpr (Or.inr ⟨(l.pending s).mp hpending, hdone⟩)⟩
    · obtain ⟨u, hu, hf⟩ := l.finished i q hq
      exact ⟨u, hu, finished_snoc.mpr (Or.inl hf)⟩
  kept i x u hx hu := by
    rw [latest_snoc_of_not_registered hreg] at hu
    rw [get?_complete] at hx
    rw [handedOut_snoc_of_not_extraction hout]
    split at hx
    · rename_i hi
      subst hi
      exact l.kept _ _ u hpending hu
    · exact l.kept i x u hx hu
  withdrawn u hu := by
    rw [latest_snoc_of_not_registered hreg, handedOut_snoc_of_not_extraction hout, get?_complete]
    have hw := l.withdrawn u ((withdrawn_snoc.mp hu).resolve_right fun hn => hremove _ hn.2.2)
    refine ⟨hw.1, fun hl => ?_⟩
    split
    · rename_i hi
      -- A submission that was withdrawn and is the latest has no entry left to complete.
      rw [hi] at hw hl
      have hnone := hw.2 hl
      rw [hpending] at hnone
      cases hnone
    · exact hw.2 hl

/-- The removal of a transfer. -/
theorem forget (l : Ledger h t) (id : TransferId) :
    Ledger (h ++ [⟨.remove id, .removed id true⟩]) (t.forget id) where
  consistent := l.consistent.forget id
  sound := l.sound.snoc_of_not_extraction rfl
  registered_le s hs := l.registered_le s ((registered_snoc.mp hs).resolve_right (by simp))
  pending s := by
    rw [get?_forget, pending_snoc]
    by_cases hs : s.transfer = id
    · simp [hs, Event.Settles, Event.Completes]
    · simp [hs, Ne.symm hs, l.pending, Event.Settles, Event.Completes]
  pending_latest i n hn := by
    rw [get?_forget] at hn
    rw [latest_snoc_of_not_registered (by simp)]
    split at hn
    · cases hn
    · exact l.pending_latest i n hn
  finished i r hr := by
    rw [get?_forget] at hr
    rw [latest_snoc_of_not_registered (by simp)]
    split at hr
    · cases hr
    · obtain ⟨s, hs, hf⟩ := l.finished i r hr
      exact ⟨s, hs, finished_snoc.mpr (Or.inl hf)⟩
  kept i x s hx hs := by
    rw [latest_snoc_of_not_registered (by simp)] at hs
    rw [handedOut_snoc_of_not_extraction rfl]
    rw [get?_forget] at hx
    split at hx
    · cases hx
    · exact l.kept i x s hx hs
  withdrawn s hs := by
    rw [latest_snoc_of_not_registered (by simp), handedOut_snoc_of_not_extraction rfl, get?_forget]
    rcases withdrawn_snoc.mp hs with hw | ⟨-, hnot, hop⟩
    · refine ⟨(l.withdrawn s hw).1, fun hl => ?_⟩
      split
      · rfl
      · exact (l.withdrawn s hw).2 hl
    · cases hop
      exact ⟨hnot, fun _ => if_pos rfl⟩

/-- The extraction of the oldest outcome. -/
theorem takeFirst (l : Ledger h t) {id : TransferId} {r : TransferOutcome}
    {queue : List TransferId} (hq : t.completed = id :: queue)
    (hr : t.entries.get? id = some (.completed r)) :
    Ledger (h ++ [⟨.extract, .extracted (some (id, r))⟩])
      { t with entries := t.entries.erase id, completed := queue } := by
  obtain ⟨s, hs, hf⟩ := l.finished id r hr
  obtain rfl : s.transfer = id := (latest_spec hs).1
  obtain ⟨heq, hsound⟩ := l.sound.snoc_extraction
    (e := ⟨.extract, .extracted (some (s.transfer, r))⟩) rfl hs hf (l.kept _ _ s hr hs)
  have hlatest : ∀ i, latest (h ++ [⟨.extract, .extracted (some (s.transfer, r))⟩]) i =
      latest h i := fun i => latest_snoc_of_not_registered (by simp)
  refine ⟨l.consistent.takeFirst hq, hsound, ?_, ?_, ?_, ?_, ?_, ?_⟩
  · exact fun u hu => l.registered_le u ((registered_snoc.mp hu).resolve_right (by simp))
  · intro u
    rw [Table.get?_erase, pending_snoc]
    by_cases hu : u.transfer = s.transfer
    · have hp : ¬ Pending h u := fun hp => by
        rw [← l.pending, hu, hr] at hp
        cases hp
      simp [hu, hp]
    · simp [hu, l.pending, Event.Settles, Event.Completes]
  · intro i n hn
    rw [Table.get?_erase] at hn
    rw [hlatest]
    split at hn
    · cases hn
    · exact l.pending_latest i n hn
  · intro i q hi
    rw [Table.get?_erase] at hi
    rw [hlatest]
    split at hi
    · cases hi
    · obtain ⟨u, hu, hfu⟩ := l.finished i q hi
      exact ⟨u, hu, finished_snoc.mpr (Or.inl hfu)⟩
  · intro i x u hx hu
    rw [hlatest] at hu
    rw [Table.get?_erase] at hx
    split at hx
    · cases hx
    · rename_i hi
      -- The submission handed out now is one of the transfer that lost its entry.
      rw [heq, List.map_append, List.mem_append, not_or]
      refine ⟨l.kept i x u hx hu, fun hmem => hi ?_⟩
      rw [← (latest_spec hu).1, List.mem_singleton.mp hmem]
  · intro u hu
    rw [hlatest, heq, List.map_append, List.mem_append, not_or, Table.get?_erase]
    obtain ⟨hnot, hnone⟩ := l.withdrawn u ((withdrawn_snoc.mp hu).resolve_right (by simp))
    refine ⟨⟨hnot, fun hmem => ?_⟩, fun hl => ?_⟩
    · obtain rfl : u = s := List.mem_singleton.mp hmem
      rw [hr] at hnone
      cases hnone hs
    · split
      · rfl
      · exact hnone hl

/-- **One effect, one more event in the ledger.** -/
theorem next (l : Ledger h t) (he : Effect t e t') : Ledger (h ++ [e]) t' := by
  cases he with
  | registered id free => exact l.enlist free
  | accepted s r pending =>
    refine l.complete pending (Or.inl rfl) ?_ (by simp) rfl (by simp)
    rintro s' (⟨r', hc | ⟨hc, -⟩⟩ | hc) - <;> cases hc
    rfl
  | cancelled id n pending =>
    -- A cancellation names a transfer; it settles the submission that is pending.
    refine l.complete (s := ⟨id, n⟩) pending (Or.inr ⟨rfl, rfl⟩) ?_ (by simp) rfl (by simp)
    rintro s' (⟨r', hc | ⟨hc, -⟩⟩ | hc) hp <;> cases hc
    exact l.pending_unique (s := ⟨s'.transfer, n⟩) pending hp rfl
  | removed id e tracked => exact l.forget id
  | extracted id r queue first outcome => exact l.takeFirst first outcome
  | dropped s r d late other =>
    -- Nobody is pending under this number, so the answer settles nobody.
    refine l.still (by simp) rfl ?_ (by simp)
    rintro s' (⟨r', hc | ⟨hc, -⟩⟩ | hc) hp <;> cases hc
    exact other ((l.pending s).mpr hp)
  | notPending id other =>
    refine l.still (by simp) rfl ?_ (by simp)
    rintro s' (⟨r', hc | ⟨hc, -⟩⟩ | hc) hp <;> cases hc
    exact other _ ((l.pending s').mpr hp)
  | notTracked id free =>
    refine l.still (by simp) rfl ?_ (by simpa using free)
    rintro s' (⟨r', hc | ⟨hc, -⟩⟩ | hc) hp <;> cases hc
    rw [← l.pending, free] at hp
    cases hp
  | nothing empty =>
    refine l.still (by simp) rfl ?_ (by simp)
    rintro s' (⟨r', hc | ⟨hc, -⟩⟩ | hc) <;> cases hc

end Ledger

theorem Run.ledger {h : List Event} {t : Tracker} (run : Run h t) : Ledger h t := by
  induction run with
  | new => exact .new
  | step _ now ih => exact ih.next (ih.consistent.effect now)

/-! ## Main result -/

/-- **Each submission has one outcome.**  In every run, with the calls in any
order:
* every extraction hands out the outcome of a submission, and no submission is
  handed out twice;
* what is handed out is what the first completing event brought that found the
  submission pending: a cancellation, or the delivery made to this submission;
* a submission that was removed before is never handed out;
* an answer is accepted exactly when its submission is pending, and one that is
  not leaves the tracker as it is. -/
theorem Run.outcome_exactly_once {h : List Event} {t : Tracker} (run : Run h t) :
    ((handedOut h).map (fun p => (p.1.transfer, p.2)) = h.filterMap (·.extraction?) ∧
      ((handedOut h).map Prod.fst).Nodup) ∧
    (∀ s r, (s, r) ∈ handedOut h → Registered h s ∧ Finished h s r) ∧
    (∀ s, Withdrawn h s → s ∉ (handedOut h).map Prod.fst) ∧
    (∀ s r, ((t.deliver s r).1 = .accepted ↔ Pending h s) ∧
      (¬ Pending h s → ∃ d, t.step (.deliver s r) = .ok (.delivered s d, t))) := by
  have l := run.ledger
  refine ⟨⟨l.sound.extractions, l.sound.nodup⟩, l.sound.handed, fun s hs => (l.withdrawn s hs).1,
    fun s r => ⟨?_, fun hp => ?_⟩⟩
  · rw [deliver_accepted_iff, l.pending]
  · have hsame := deliver_of_other r fun he => hp ((l.pending s).mp he)
    exact ⟨(t.deliver s r).1,
      congrArg (fun u => Except.ok (Reply.delivered s (t.deliver s r).1, u)) hsame⟩

/-- A transfer that is cancelled, submitted again, and answered for both submissions. -/
theorem outcome_exactly_once_resubmitted :
    ∃ h t, Run h t ∧
      handedOut h = [(⟨⟨1⟩, 1⟩, .canceled), (⟨⟨1⟩, 2⟩, .failed "second")] ∧
      ((handedOut h).map Prod.fst).Nodup := by
  have run : Run
      [⟨.register ⟨1⟩, .registered ⟨⟨1⟩, 1⟩⟩, ⟨.cancel ⟨1⟩, .cancelled ⟨1⟩ true⟩,
        ⟨.deliver ⟨⟨1⟩, 1⟩ (.failed "first"), .delivered ⟨⟨1⟩, 1⟩ .late⟩,
        ⟨.extract, .extracted (some (⟨1⟩, .canceled))⟩,
        ⟨.register ⟨1⟩, .registered ⟨⟨1⟩, 2⟩⟩,
        ⟨.deliver ⟨⟨1⟩, 1⟩ (.failed "first"), .delivered ⟨⟨1⟩, 1⟩ .late⟩,
        ⟨.deliver ⟨⟨1⟩, 2⟩ (.failed "second"), .delivered ⟨⟨1⟩, 2⟩ .accepted⟩,
        ⟨.extract, .extracted (some (⟨1⟩, .failed "second"))⟩] _ :=
    .step (.step (.step (.step (.step (.step (.step (.step .new rfl) rfl) rfl) rfl) rfl) rfl) rfl)
      rfl
  exact ⟨_, _, run, rfl, run.outcome_exactly_once.1.2⟩

end Tracker
end UsbHost
