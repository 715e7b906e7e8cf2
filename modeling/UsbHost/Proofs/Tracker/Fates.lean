import UsbHost.Proofs.Tracker.History

/-! # The end of a submission

In a run a submission finishes once (`Run.finished_unique`), and as long as its
transfer is tracked on its behalf it can be handed out; otherwise it has been
handed out or withdrawn (`Run.accounted`).
-/
namespace UsbHost
namespace Tracker

variable {h : List Event} {t t' : Tracker} {e : Event} {s : Submission} {r r' : TransferOutcome}
  {id : TransferId}

/-! ## What is tracked after an event -/

/-- Only registering makes a transfer tracked. -/
theorem Effect.tracked_before (now : Effect t e t') (hop : e.op ≠ .register id)
    (tracked : t'.entries.get? id ≠ none) : t.entries.get? id ≠ none := by
  cases now with
  | registered id' free =>
    have hne : id ≠ id' := fun heq => hop (heq ▸ rfl)
    simpa [hne] using tracked
  | accepted s r pending =>
    by_cases hs : id = s.transfer
    · simp [hs, pending]
    · simpa [hs] using tracked
  | cancelled id' n pending =>
    by_cases hs : id = id'
    · simp [hs, pending]
    · simpa [hs] using tracked
  | removed id' e present =>
    rw [get?_forget] at tracked
    split at tracked
    · exact absurd rfl tracked
    · exact tracked
  | extracted id' r queue first outcome =>
    rw [Table.get?_erase] at tracked
    split at tracked
    · exact absurd rfl tracked
    · exact tracked
  | dropped | notPending | notTracked | nothing => exact tracked

/-- Only removing and handing out ends the tracking of a transfer. -/
theorem Effect.tracked_after (now : Effect t e t') (hremove : e.op ≠ .remove id)
    (hextract : ∀ r, e.reply ≠ .extracted (some (id, r))) (tracked : t.entries.get? id ≠ none) :
    t'.entries.get? id ≠ none := by
  cases now with
  | registered | accepted | cancelled =>
    simp only [get?_enlist, get?_complete]
    split
    · exact Option.some_ne_none _
    · exact tracked
  | removed id' e present =>
    have hne : id ≠ id' := fun heq => hremove (heq ▸ rfl)
    rw [get?_forget, if_neg hne]
    exact tracked
  | extracted id' r queue first outcome =>
    have hne : id ≠ id' := fun heq => hextract r (heq ▸ rfl)
    rw [Table.get?_erase, if_neg hne]
    exact tracked
  | dropped | notPending | notTracked | nothing => exact tracked

/-- What is registered is tracked. -/
theorem Effect.tracked_of_register (now : Effect t e t') (hop : e.op = .register id) :
    t'.entries.get? id ≠ none := by
  cases now with
  | registered id' free =>
    cases hop
    simp
  | _ => cases hop

theorem get?_remove_self (t : Tracker) (id : TransferId) :
    (t.remove id).2.entries.get? id = none := by
  unfold remove
  split
  · exact (get?_forget t id id).trans (if_pos rfl)
  · rename_i hc
    simpa [Table.contains] using hc

/-- What is extracted has completed. -/
theorem Consistent.get?_of_extract (hc : t.Consistent) (h : t.extract.1 = some (id, r)) :
    t.entries.get? id = some (.completed r) := by
  have effect := hc.extract_effect
  rw [h] at effect
  generalize t.extract.2 = t' at effect
  cases effect with
  | extracted _ _ queue first outcome => exact outcome

/-! ## Finishing -/

theorem Pending.registered (pending : Pending h s) : Registered h s := by
  obtain ⟨before, e, after, rfl, hreply, -⟩ := pending
  exact ⟨e, by simp, hreply⟩

theorem Finished.registered (finished : Finished h s r) : Registered h s := by
  obtain ⟨before, e, after, rfl, pending, -⟩ := finished
  obtain ⟨x, hx, hreply⟩ := pending.registered
  exact ⟨x, List.mem_append_left _ hx, hreply⟩

theorem Withdrawn.append (withdrawn : Withdrawn h s) (later : List Event) :
    Withdrawn (h ++ later) s := by
  obtain ⟨before, e, after, rfl, hs⟩ := withdrawn
  exact ⟨before, e, after ++ later, by simp, hs⟩

/-- What completes a submission completes it with one outcome. -/
theorem Event.Completes.unique (completes : e.Completes s r) (completes' : e.Completes s r') :
    r = r' := by
  rcases completes with hop | ⟨hop, rfl⟩ <;> rcases completes' with hop' | ⟨hop', rfl⟩
  · rw [hop] at hop'
    cases hop'
    rfl
  · rw [hop] at hop'
    cases hop'
  · rw [hop] at hop'
    cases hop'
  · rfl

/-- A submission that is given out was not given out before. -/
theorem Ledger.fresh (l : Ledger h t) (now : Effect t e t') (hreply : e.reply = .registered s) :
    ¬ Registered h s := by
  intro before
  have hle := l.registered_le s before
  cases now with
  | registered id free =>
    cases hreply
    exact absurd hle (Nat.not_succ_le_self _)
  | _ => cases hreply

/-- A submission that has finished is not in flight any more. -/
theorem Run.not_pending (run : Run h t) (finished : Finished h s r) : ¬ Pending h s := by
  induction run with
  | new =>
    obtain ⟨x, hx, -⟩ := finished.registered
    cases hx
  | step before now ih =>
    intro pending
    have effect := before.consistent.effect now
    rcases finished_snoc.mp finished with earlier | ⟨hpending, completes⟩
    · rcases pending_snoc.mp pending with hreply | ⟨hpending, -⟩
      · exact before.ledger.fresh effect hreply earlier.registered
      · exact ih earlier hpending
    · rcases pending_snoc.mp pending with hreply | ⟨-, unsettled⟩
      · exact before.ledger.fresh effect hreply hpending.registered
      · exact unsettled (Or.inl ⟨r, completes⟩)

/-- **A submission finishes once.** -/
theorem Run.finished_unique (run : Run h t) (finished : Finished h s r)
    (finished' : Finished h s r') : r = r' := by
  induction run with
  | new =>
    obtain ⟨x, hx, -⟩ := finished.registered
    cases hx
  | step before now ih =>
    rcases finished_snoc.mp finished with earlier | ⟨pending, completes⟩
    · rcases finished_snoc.mp finished' with earlier' | ⟨pending, -⟩
      · exact ih earlier earlier'
      · exact absurd pending (before.not_pending earlier)
    · rcases finished_snoc.mp finished' with earlier' | ⟨-, completes'⟩
      · exact absurd pending (before.not_pending earlier')
      · exact completes.unique completes'

/-! ## What becomes of a submission -/

/-- What may have become of a submission: it was handed out, or withdrawn, or its
transfer is tracked for it. -/
def Accounted (h : List Event) (t : Tracker) (s : Submission) : Prop :=
  s ∈ (handedOut h).map Prod.fst ∨ Withdrawn h s ∨
    (latest h s.transfer = some s ∧ t.entries.get? s.transfer ≠ none)

/-- A transfer that is tracked is not submitted again. -/
theorem Effect.latest_snoc (now : Effect t e t') (tracked : t.entries.get? id ≠ none) :
    latest (h ++ [e]) id = latest h id := by
  have hnone : e.submission? id = none := by
    refine Option.eq_none_iff_forall_ne_some.mpr fun u hu => ?_
    obtain ⟨hreply, rfl⟩ := submission?_eq_some.mp hu
    cases now with
    | registered id free =>
      cases hreply
      exact tracked free
    | _ => cases hreply
  rw [Tracker.latest_snoc, hnone, Option.none_or]

/-- A submission that is tracked stays so, unless this very event hands it out or
withdraws it. -/
theorem Ledger.accounted_of_tracked (l : Ledger h t) (now : Effect t e t')
    (last : latest h s.transfer = some s) (tracked : t.entries.get? s.transfer ≠ none) :
    Accounted (h ++ [e]) t' s := by
  by_cases hremove : e.op = .remove s.transfer
  · obtain ⟨x, hx⟩ := Option.ne_none_iff_exists'.mp tracked
    have kept : s ∉ (handedOut h).map Prod.fst := l.kept _ _ s hx last
    exact Or.inr (Or.inl (withdrawn_snoc.mpr (Or.inr ⟨(latest_spec last).2, kept, hremove⟩)))
  · by_cases hextract : ∃ r, e.reply = .extracted (some (s.transfer, r))
    · obtain ⟨r, hreply⟩ := hextract
      exact Or.inl (by simp [handedOut_snoc, Event.handsOut?, Event.extraction?, hreply, last])
    · have tracked' := now.tracked_after hremove (fun r hr => hextract ⟨r, hr⟩) tracked
      exact Or.inr (Or.inr ⟨(now.latest_snoc tracked).trans last, tracked'⟩)

/-- **Every submission is accounted for.** -/
theorem Run.accounted (run : Run h t) (registered : Registered h s) : Accounted h t s := by
  induction run with
  | new =>
    obtain ⟨x, hx, -⟩ := registered
    cases hx
  | @step h t t' op reply before now ih =>
    have effect := before.consistent.effect now
    rcases registered_snoc.mp registered with earlier | hreply
    · rcases ih earlier with handed | withdrawn | ⟨last, tracked⟩
      · refine Or.inl ?_
        rw [handedOut_snoc, List.map_append]
        exact List.mem_append_left _ handed
      · exact Or.inr (Or.inl (withdrawn_snoc.mpr (Or.inl withdrawn)))
      · exact before.ledger.accounted_of_tracked effect last tracked
    · refine Or.inr (Or.inr ?_)
      cases effect with
      | registered id free =>
        cases hreply
        simp [latest_snoc, Event.submission?]
      | _ => cases hreply

/-- A submission whose transfer is not tracked any more, and that was not handed out
until then, was withdrawn. -/
theorem Run.withdrawn_of_untracked (run : Run h t) (registered : Registered h s)
    (kept : s ∉ (handedOut h).map Prod.fst) (untracked : t.entries.get? s.transfer = none) :
    Withdrawn h s :=
  ((run.accounted registered).resolve_left kept).resolve_right fun h => h.2 untracked

/-- **What an extraction hands out**: the last submission of the transfer, which has
finished with this outcome and was not handed out before. -/
theorem Run.handsOut (run : Run h t) (first : t.extract.1 = some (id, r)) :
    ∃ s : Submission, s.transfer = id ∧ Registered h s ∧ Finished h s r ∧
      s ∉ (handedOut h).map Prod.fst ∧
      handedOut (h ++ [⟨.extract, .extracted (some (id, r))⟩]) = handedOut h ++ [(s, r)] := by
  have entry := run.consistent.get?_of_extract first
  obtain ⟨s, last, finished⟩ := run.ledger.finished id r entry
  obtain ⟨hid, registered⟩ := latest_spec last
  refine ⟨s, hid, registered, finished, run.ledger.kept id _ s entry last, ?_⟩
  simp [handedOut_snoc, Event.handsOut?, Event.extraction?, last]

end Tracker
end UsbHost
