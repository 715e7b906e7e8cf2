import UsbHost.Proofs.Session.Turns
import UsbHost.Record.Sample

/-! # No cross-talk between submissions

A transfer can be cancelled and submitted again while the answer to its earlier
submission is still to come, so it may be parked several times, and what is
parked may be of no use any more.  Here answers are followed from the parking lot
to the transfer that gets them: a submission is finalized with its own answer, or
as cancelled, and as long as it is in flight nothing happens to its transfer.

A history of turns holds a history of every tracker (`events`), so what becomes
of a submission in its tracker is what `Tracker.Run` knows of it.  `Told` ties
the two together.
-/
namespace UsbHost

theorem filterMap_snoc {α β : Type} (f : α → Option β) (l : List α) (a : α) :
    (l ++ [a]).filterMap f = l.filterMap f ++ (f a).toList := by
  rw [List.filterMap_append, List.filterMap_cons, List.filterMap_nil]
  cases f a <;> rfl

namespace Bench
open Session
variable {κ : Type} {m m' m'' : Bench κ} {h : List Entry} {e : Entry} {c : ContextId}
  {ticket : Ticket} {outcome : TransferOutcome} {id : TransferId}

/-! ## Reading a history -/

/-- The submissions in a context that were finalized, oldest first.  What is found
is the last submission of its transfer. -/
def finalized (c : ContextId) (h : List Entry) : List Submission :=
  (Tracker.handedOut (events c h)).map Prod.fst

/-- A submission is in flight: since it was made it was neither answered nor
cancelled, and its transfer was not freed. -/
def InFlight (h : List Entry) (ticket : Ticket) : Prop :=
  Tracker.Pending (events ticket.context h) ticket.submission

/-- A submission was cancelled while it was in flight. -/
def Cancelled (h : List Entry) (ticket : Ticket) : Prop :=
  ∃ before done later,
    h = before ++ .cancelled ticket.context ticket.submission.transfer done :: later ∧
      InFlight before ticket

theorem events_snoc : events c (h ++ [e]) = events c h ++ (e.eventIn c).toList :=
  filterMap_snoc ..

theorem submitted_snoc : submitted (h ++ [e]) = submitted h ++ e.ticket?.toList :=
  filterMap_snoc ..

theorem answered_snoc : answered (h ++ [e]) = answered h ++ e.answer?.toList :=
  filterMap_snoc ..

theorem events_append (h' : List Entry) : events c (h ++ h') = events c h ++ events c h' :=
  List.filterMap_append

/-- An event of a tracker was written down as some turn. -/
theorem eq_append_of_events {before later : List Tracker.Event} {event : Tracker.Event}
    (heq : events c h = before ++ event :: later) :
    ∃ before' e later', h = before' ++ e :: later' ∧ events c before' = before ∧
      e.event? = some (c, event) := by
  obtain ⟨before', rest, rfl, hbefore, hrest⟩ := List.filterMap_eq_append_iff.mp heq
  obtain ⟨skipped, e, later', rfl, hskipped, he, -⟩ := List.filterMap_eq_cons_iff.mp hrest
  refine ⟨before' ++ skipped, e, later', by simp, ?_, ?_⟩
  · rw [events_append, events, events, List.filterMap_eq_nil_iff.mpr hskipped, List.append_nil]
    exact hbefore
  · exact Entry.eventIn_eq_some_iff.mp he

/-- Freeing hands nothing out. -/
theorem Entry.extraction_of_frees {event : Tracker.Event} (h : e.event? = some (c, event))
    (frees : e.Frees id) : event.extraction? = none := by
  cases e with
  | freed id' removed =>
    cases removed <;> cases h
    rfl
  | _ => exact frees.elim

/-- The submissions that were made are those that the trackers have given out. -/
theorem mem_submitted_iff : ticket ∈ submitted h ↔
    Tracker.Registered (events ticket.context h) ticket.submission := by
  constructor
  · intro hmem
    obtain ⟨e, he, hticket⟩ := List.mem_filterMap.mp hmem
    obtain rfl := Entry.eq_submitted_of_ticket hticket
    exact ⟨_, List.mem_filterMap.mpr ⟨_, he, Entry.eventIn_eq_some_iff.mpr rfl⟩, rfl⟩
  · rintro ⟨event, hmem, hreply⟩
    obtain ⟨e, he, hevent⟩ := List.mem_filterMap.mp hmem
    obtain rfl := Entry.eq_submitted (Entry.eventIn_eq_some_iff.mp hevent) hreply
    exact List.mem_filterMap.mpr ⟨_, he, rfl⟩

/-! ## What a history says of the bench -/

/-- What the history `h` says of a bench that it led to. -/
structure Told (h : List Entry) (m : Bench κ) : Prop where
  tracked : ∀ c, Tracker.Run (events c h) (m.session.tracker c)
  home : m.session.Home
  parked : submitted h = (answered h).map Prod.fst ++ m.session.platform.parked
  distinct : (submitted h).Nodup
  manual : m.session.platform.immediate = none

/-- A bench on which nothing has been done. -/
def start (platform : ScriptedPlatform) : Bench κ := ⟨{ platform }, []⟩

theorem told_start {platform : ScriptedPlatform} (manual : platform.immediate = none)
    (empty : platform.parked = []) : Told [] (start platform : Bench κ) := by
  have htracker : ∀ c, (start platform : Bench κ).session.tracker c = {} := by
    intro c
    cases c <;> rfl
  refine ⟨fun c => ?_, fun c id tracked => ?_, ?_, List.nodup_nil, manual⟩
  · rw [htracker]
    exact .new
  · rw [htracker] at tracked
    exact absurd (Table.get?_empty id) tracked
  · exact empty.symm

namespace Told

theorem sound (told : Told h m) : m.session.Sound := fun c => (told.tracked c).consistent

/-- **What a turn adds to the history is true of the bench after it.** -/
theorem next (told : Told h m) (now : Turn m e m') : Told (h ++ [e]) m' := by
  have effect := now.effect told.home told.sound told.manual
  obtain ⟨hparked, hmanual⟩ := now.parking told.manual
  refine ⟨fun c => ?_, effect.home, ?_, ?_, hmanual⟩
  · rw [events_snoc]
    cases he : e.eventIn c with
    | none =>
      rw [effect.steps.still c he, Option.toList_none, List.append_nil]
      exact told.tracked c
    | some event => exact (told.tracked c).step (effect.steps.step c event he)
  · rw [submitted_snoc, answered_snoc, told.parked, List.append_assoc, hparked, List.map_append,
      List.append_assoc]
    cases e.answer? <;> rfl
  · rw [submitted_snoc]
    cases hticket : e.ticket? with
    | none => simpa using told.distinct
    | some ticket =>
      -- The tracker has given the ticket's number out only now.
      obtain rfl := Entry.eq_submitted_of_ticket hticket
      have step := effect.steps.step ticket.context _ (Entry.eventIn_eq_some_iff.mpr rfl)
      have fresh : ¬ Tracker.Registered (events ticket.context h) ticket.submission :=
        (told.tracked _).ledger.fresh ((told.sound _).effect step) rfl
      refine List.nodup_append.mpr ⟨told.distinct, by simp, ?_⟩
      intro a ha b hb heq
      rw [Option.toList_some, List.mem_singleton] at hb
      rw [heq, hb] at ha
      exact fresh (mem_submitted_iff.mp ha)

theorem later (told : Told h m) {h' : List Entry} (run : Run m h' m') : Told (h ++ h') m' := by
  induction run with
  | refl => rwa [List.append_nil]
  | turn before now ih => exact List.append_assoc h _ _ ▸ ih.next now

end Told

/-! ## What becomes of a submission -/

/-- A submission that was cancelled in flight finishes as cancelled. -/
theorem Cancelled.finished (cancelled : Cancelled h ticket) :
    Tracker.Finished (events ticket.context h) ticket.submission .canceled := by
  obtain ⟨before, done, later, rfl, pending⟩ := cancelled
  refine ⟨events ticket.context before,
    ⟨.cancel ticket.submission.transfer, .cancelled ticket.submission.transfer done⟩,
    events ticket.context later, ?_, pending, Or.inr ⟨rfl, rfl⟩⟩
  rw [events_append]
  exact congrArg _ (List.filterMap_cons_some (Entry.eventIn_eq_some_iff.mpr rfl))

/-- A submission finishes as cancelled, or with an answer to its own ticket. -/
theorem cancelled_or_answered
    (finished : Tracker.Finished (events ticket.context h) ticket.submission outcome) :
    (Cancelled h ticket ∧ outcome = .canceled) ∨ (ticket, outcome) ∈ answered h := by
  obtain ⟨before, event, later, heq, pending, completes⟩ := finished
  obtain ⟨before, e, later, rfl, rfl, he⟩ := eq_append_of_events heq
  rcases completes with hop | ⟨hop, rfl⟩
  · obtain ⟨delivery, rfl⟩ := Entry.eq_answered he hop
    have hmem : Entry.answered ticket outcome delivery ∈
        before ++ .answered ticket outcome delivery :: later := by simp
    exact Or.inr (List.mem_filterMap.mpr ⟨_, hmem, rfl⟩)
  · obtain ⟨done, rfl⟩ := Entry.eq_cancelled he hop
    exact Or.inl ⟨⟨before, done, later, rfl, pending⟩, rfl⟩

/-- What a tracker hands out was submitted in its context and is finalized for the first
time. -/
theorem submission_of_found {t : Tracker} (run : Tracker.Run (events c h) t)
    (first : t.extract.1 = some (id, outcome)) :
    ∃ s : Submission, s.transfer = id ∧ ⟨c, s⟩ ∈ submitted h ∧
      Tracker.Finished (events c h) s outcome ∧ s ∉ finalized c h ∧
      finalized c (h ++ [.found c (some (id, outcome))]) = finalized c h ++ [s] := by
  obtain ⟨s, hid, registered, finished, kept, hands⟩ := run.handsOut first
  refine ⟨s, hid, mem_submitted_iff.mpr registered, finished, kept, ?_⟩
  rw [finalized, events_snoc, Entry.eventIn_eq_some_iff.mpr rfl, Option.toList_some, hands,
    List.map_append, ← finalized]
  rfl

/-- A submission is finalized from `m` to `m'`, and this is right after the history
`h`. -/
structure Finalizes (h : List Entry) (m : Bench κ) (ticket : Ticket) (outcome : TransferOutcome)
    (m' : Bench κ) : Prop where
  submitted : ticket ∈ submitted h
  first : ticket.submission ∉ finalized ticket.context h
  /-- A submission that was cancelled in flight leaves its buffer as it is. -/
  cancelled : Cancelled h ticket → m'.session.transfer ticket.submission.transfer =
    { m.session.transfer ticket.submission.transfer with status := .cancelled, callback := none }
  /-- Any other gets what its own request was answered. -/
  answered : ¬ Cancelled h ticket → (ticket, outcome) ∈ answered h ∧
    m'.session.transfer ticket.submission.transfer =
      { (m.session.transfer ticket.submission.transfer).conclude outcome with callback := none }
  others : ∀ id, id ≠ ticket.submission.transfer → m'.session.transfer? id = m.session.transfer? id

/-- **What is found is finalized as it should be.** -/
theorem Told.finalizes (told : Told h m) (now : Turn m (.found c (some (id, outcome))) m') :
    ∃ s : Submission, s.transfer = id ∧ Finalizes h m ⟨c, s⟩ outcome m' ∧
      finalized c (h ++ [.found c (some (id, outcome))]) = finalized c h ++ [s] := by
  cases now with
  | find _ _ _ first =>
    obtain ⟨s, rfl, made, finished, kept, hfinalized⟩ :=
      submission_of_found (told.tracked c) first
    have tracked : (m.session.tracker c).entries.get? s.transfer ≠ none := by
      rw [(told.sound c).get?_of_extract first]
      exact nofun
    have htransfer := transfer_after_finalize first
      (allocated_of_contextOf (told.home c s.transfer tracked))
    refine ⟨s, rfl, ⟨made, kept, fun cancelled => ?_, fun hnot => ?_,
      fun _ hid => transfer?_after_finalize_of_ne first hid⟩, hfinalized⟩
    · have houtcome : outcome = .canceled :=
        (told.tracked c).finished_unique finished cancelled.finished
      rw [htransfer, houtcome]
      rfl
    · have ends : (Cancelled h ⟨c, s⟩ ∧ outcome = .canceled) ∨ (⟨c, s⟩, outcome) ∈ answered h :=
        cancelled_or_answered finished
      exact ⟨ends.resolve_left fun cancelled => hnot cancelled.1, htransfer⟩

/-- **A submission whose transfer was freed before is never finalized.** -/
theorem Told.not_finalized_of_freed (told : Told h m) (made : ticket ∈ submitted h)
    (kept : ticket.submission ∉ finalized ticket.context h) (now : Turn m e m')
    (frees : e.Frees ticket.submission.transfer) {h' : List Entry} (run : Run m' h' m'') :
    ticket.submission ∉ finalized ticket.context (h ++ e :: h') := by
  have told₁ := told.next now
  have untracked := now.untracked_freed frees told₁.home
  have registered : Tracker.Registered (events ticket.context (h ++ [e])) ticket.submission := by
    rw [← mem_submitted_iff, submitted_snoc]
    exact List.mem_append_left _ made
  have kept₁ : ticket.submission ∉ finalized ticket.context (h ++ [e]) := by
    rw [finalized, events_snoc]
    cases he : e.eventIn ticket.context with
    | none =>
      rw [Option.toList_none, List.append_nil]
      exact kept
    | some event =>
      rw [Option.toList_some, Tracker.handedOut_snoc_of_not_extraction ?_]
      · exact kept
      · exact Entry.extraction_of_frees (Entry.eventIn_eq_some_iff.mp he) frees
  have withdrawn := (told₁.tracked _).withdrawn_of_untracked registered kept₁ (untracked _)
  have ledger := ((told₁.later run).tracked ticket.context).ledger
  rw [events_append] at ledger
  have hwhole : h ++ e :: h' = h ++ [e] ++ h' := by simp
  rw [hwhole, finalized, events_append]
  exact (ledger.withdrawn _ (withdrawn.append _)).1

/-- **A transfer in flight is as it was.** -/
theorem Told.undisturbed (told : Told h m) (tracked : ¬ m.session.Untracked id)
    (inside : ¬ m.Out id) {h' : List Entry} (run : Run m h' m')
    (kept : ∀ e ∈ h', ¬ e.Frees id ∧ ¬ e.Finds id) :
    m'.session.transfer? id = m.session.transfer? id ∧ ¬ m'.session.Untracked id ∧
      ¬ m'.Out id := by
  induction run with
  | refl => exact ⟨rfl, tracked, inside⟩
  | @turn before m₁ m₂ e earlier now ih =>
    obtain ⟨hsame, tracked₁, inside₁⟩ := ih fun e he => kept e (List.mem_append_left _ he)
    have told₁ := told.later earlier
    have effect := now.effect told₁.home told₁.sound told₁.manual
    have hkept := kept e (by simp)
    refine ⟨?_, effect.tracked told₁.sound tracked₁ hkept, fun out => ?_⟩
    · rw [effect.transfers id tracked₁ hkept.1 hkept.2 inside₁, hsame]
    · exact (now.out out).elim inside₁ hkept.2

/-! ## Main result -/

/-- **No cross-talk between submissions.**  On a platform that parks its
asynchronous transfers, in every run:
* completions answer the submissions in the order in which these were made, each
  at most once, and the others are parked in that order;
* no submission is finalized twice;
* what is found is a submission not finalized before.  If it was cancelled in
  flight its transfer becomes cancelled and is otherwise as it was, and if not the
  transfer gets the answer to this very submission; no other transfer changes;
* a submission is never finalized after its transfer was freed;
* from a submission outside its transfer's callback on, until the transfer is
  found or freed, the transfer stays as the submission has left it. -/
theorem Run.no_crosstalk {platform : ScriptedPlatform} (manual : platform.immediate = none)
    (empty : platform.parked = []) (run : Run (start platform) h m) :
    (submitted h = (answered h).map Prod.fst ++ m.session.platform.parked ∧
      (submitted h).Nodup) ∧
    (∀ c, (finalized c h).Nodup) ∧
    (∀ c id outcome m', Turn m (.found c (some (id, outcome))) m' →
      ∃ s : Submission, s.transfer = id ∧ Finalizes h m ⟨c, s⟩ outcome m' ∧
        finalized c (h ++ [.found c (some (id, outcome))]) = finalized c h ++ [s]) ∧
    (∀ ticket ∈ submitted h, ticket.submission ∉ finalized ticket.context h →
      ∀ e m₁ h' m₂, Turn m e m₁ → e.Frees ticket.submission.transfer → Run m₁ h' m₂ →
        ticket.submission ∉ finalized ticket.context (h ++ e :: h')) ∧
    ∀ ticket m₁ h' m₂, Turn m (.submitted ticket) m₁ → ¬ m.Out ticket.submission.transfer →
      Run m₁ h' m₂ →
      (∀ e ∈ h', ¬ e.Frees ticket.submission.transfer ∧ ¬ e.Finds ticket.submission.transfer) →
      m₂.session.transfer? ticket.submission.transfer =
        m₁.session.transfer? ticket.submission.transfer := by
  have told : Told h m := (told_start manual empty).later run
  refine ⟨⟨told.parked, told.distinct⟩, fun c => (told.tracked c).ledger.sound.nodup,
    fun c id outcome m' now => told.finalizes now, ?_, ?_⟩
  · intro ticket made kept e m₁ h' m₂ now frees run
    exact told.not_finalized_of_freed made kept now frees run
  · intro ticket m₁ h' m₂ now inside run kept
    have tracked := now.tracked_submitted told.home told.sound told.manual
    have inside₁ : ¬ m₁.Out ticket.submission.transfer :=
      fun out => (now.out out).elim inside fun h => h
    exact ((told.next now).undisturbed tracked inside₁ run kept).1

/-! ## A transfer cancelled and submitted again -/

/-- A transfer is submitted, cancelled, found and submitted again; then both its
submissions are answered. -/
def resubmission : List Entry :=
  [.other, .other, .other, .submitted ⟨.default, ⟨⟨1⟩, 1⟩⟩, .cancelled .default ⟨1⟩ true,
    .found .default (some (⟨1⟩, .canceled)), .other, .submitted ⟨.default, ⟨⟨1⟩, 2⟩⟩,
    .answered ⟨.default, ⟨⟨1⟩, 1⟩⟩ (.succeeded (.success (some [1]))) .late,
    .answered ⟨.default, ⟨⟨1⟩, 2⟩⟩ (.succeeded (.success (some [2]))) .accepted]

theorem run_resubmission : ∃ m m' : Bench Unit, Run (start {}) resubmission m ∧
    Turn m (.found .default (some (⟨1⟩, .succeeded (.success (some [2]))))) m' ∧
    ((m.session.transfer ⟨1⟩).conclude (.succeeded (.success (some [2])))).buffer = some [2, 7] ∧
    (m'.session.transfer ⟨1⟩).status = .completed := by
  have filled := (((Run.refl (m := (start {} : Bench Unit))).turn
    (.call (.openDevice ⟨0⟩ ⟨.default, Sample.device 1 0x1000 0x2000, 1⟩) trivial)).turn
    (.call (.allocTransfer 0) trivial)).turn
    (.call (.fillData ⟨1⟩ .bulk ⟨0⟩ 0x81 [7, 7] {} 0) (fun c => by cases c <;> rfl))
  have cancelled := (filled.turn (.submit ⟨1⟩ _ _ ⟨rfl, rfl, rfl⟩ trivial)).turn
    (.cancel ⟨1⟩ .default rfl)
  have again := ((cancelled.turn (.find .default ⟨1⟩ .canceled rfl)).turn
    (.putBack [] [] ⟨1⟩ _ rfl)).turn (.submit ⟨1⟩ _ _ ⟨rfl, rfl, rfl⟩ trivial)
  have answered := (again.turn
    (.complete (.succeeded (.success (some [1]))) ⟨.default, ⟨⟨1⟩, 1⟩⟩ _ rfl)).turn
    (.complete (.succeeded (.success (some [2]))) ⟨.default, ⟨⟨1⟩, 2⟩⟩ _ rfl)
  exact ⟨_, _, answered, .find .default ⟨1⟩ _ rfl, rfl, rfl⟩

/-- The first answer is for the submission that was cancelled and comes to nothing;
the transfer gets the second. -/
theorem no_crosstalk_resubmission :
    ∃ m m' : Bench Unit, Run (start {}) resubmission m ∧
      submitted resubmission = (answered resubmission).map Prod.fst ++ m.session.platform.parked ∧
      finalized .default (resubmission ++
        [.found .default (some (⟨1⟩, .succeeded (.success (some [2]))))]) =
          [⟨⟨1⟩, 1⟩, ⟨⟨1⟩, 2⟩] ∧
      (m'.session.transfer ⟨1⟩).buffer = some [2, 7] := by
  obtain ⟨m, m', run, now, hbuffer, hstatus⟩ := run_resubmission
  obtain ⟨⟨hparked, -⟩, -, hfound, -, -⟩ := run.no_crosstalk rfl rfl
  obtain ⟨s, hs, finalizes, hfinalized⟩ := hfound _ _ _ _ now
  have hnot : ¬ Cancelled resubmission ⟨.default, s⟩ := by
    intro cancelled
    have htransfer := finalizes.cancelled cancelled
    rw [hs] at htransfer
    rw [htransfer] at hstatus
    cases hstatus
  have htransfer := (finalizes.answered hnot).2
  rw [hs] at htransfer
  exact ⟨m, m', run, hparked, rfl, by rw [htransfer, ← hbuffer]⟩

end Bench
end UsbHost
