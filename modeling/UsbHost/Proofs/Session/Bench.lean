import UsbHost.Proofs.Session.Results
import UsbHost.Rehearsal

/-! # A session on a test bench

On a scripted platform that answers nothing by itself, asynchronous transfers are
parked until somebody completes them, the oldest first.  A `Bench` is a session
over such a platform, with the callbacks that were taken out of finalized
transfers and have not been put back yet.

`Turn` says what may be done next and what is written down of it; a `Run` is any
sequence of turns.  Callbacks are turns too: whatever a callback does stands
between the turn that found its transfer and the turn that puts it back, so
`handleEvents` is a run of the bench if its callbacks are (`leads_handleEvents`).
A call that meets a fault ends the program and is not a turn.
-/
namespace UsbHost

/-! ## Parking -/

namespace ScriptedPlatform

/-- The same transfers are parked, and new ones are treated the same way. -/
structure SameParking (p p' : ScriptedPlatform) : Prop where
  parked : p'.parked = p.parked
  immediate : p'.immediate = p.immediate

/-- **Only starting a transfer parks one.** -/
theorem respects_sameParking : Session.Respects SameParking where
  getDevices _ := ⟨rfl, rfl⟩
  getConfigurations _ _ := ⟨rfl, rfl⟩
  openDevice _ _ := ⟨rfl, rfl⟩
  closeDevice _ _ := ⟨rfl, rfl⟩
  claimInterface _ _ _ := ⟨rfl, rfl⟩
  releaseInterface _ _ _ := ⟨rfl, rfl⟩
  resetDevice _ _ := ⟨rfl, rfl⟩
  transfer connection request p := by
    obtain ⟨devices, configurations, openOutcome, closeOutcome, interfaceOutcome, resetOutcome,
      answers, immediate, requests, parked⟩ := p
    cases answers <;> exact ⟨rfl, rfl⟩

/-- A transfer is parked unless the platform is told to answer at once. -/
theorem run_startTransfer {p : ScriptedPlatform} (manual : p.immediate = none)
    (connection : ConnectionId) (request : TransferRequest) (ticket : Ticket) :
    (Platform.startTransfer connection request ticket).run p =
      (none, { p with
        requests := .transfer connection request true :: p.requests
        parked := p.parked ++ [ticket] }) := by
  obtain ⟨devices, configurations, openOutcome, closeOutcome, interfaceOutcome, resetOutcome,
    answers, immediate, requests, parked⟩ := p
  cases manual
  rfl

theorem run_unpark_cons {p : ScriptedPlatform} {ticket : Ticket} {parked : List Ticket}
    (oldest : p.parked = ticket :: parked) :
    unpark.run p = (some ticket, { p with parked := parked }) := by
  obtain ⟨devices, configurations, openOutcome, closeOutcome, interfaceOutcome, resetOutcome,
    answers, immediate, requests, _⟩ := p
  cases oldest
  rfl

theorem run_unpark_nil {p : ScriptedPlatform} (empty : p.parked = []) :
    unpark.run p = (none, p) := by
  obtain ⟨devices, configurations, openOutcome, closeOutcome, interfaceOutcome, resetOutcome,
    answers, immediate, requests, _⟩ := p
  cases empty
  rfl

end ScriptedPlatform

namespace Session
variable {κ : Type}

/-- Answers the transfer that has been parked longest, and says whether there was
one. -/
def completeNext (outcome : TransferOutcome) : SessionM ScriptedPlatform κ Bool := do
  match ← onPlatform ScriptedPlatform.unpark with
  | some ticket =>
    deliver ticket outcome
    return true
  | none => return false

theorem plain_after_completeNext {s : Session ScriptedPlatform κ} {ticket : Ticket}
    {parked : List Ticket} (oldest : s.platform.parked = ticket :: parked)
    (outcome : TransferOutcome) :
    (after (completeNext outcome) s).plain =
      { setTracker ticket.context
          ((s.tracker ticket.context).deliver ticket.submission outcome).2 s.plain with
        platform := { s.platform with parked := parked } } := by
  rw [completeNext, after_bind, result_onPlatform, after_onPlatform,
    ScriptedPlatform.run_unpark_cons oldest]
  dsimp only
  rw [after_bind, result_deliver]
  dsimp only
  rw [after_pure, plain_after_deliver, plain_platform,
    neutral_sameTrackers.platform s _ trivial ticket.context]
  cases ticket.context <;> rfl

theorem after_completeNext_of_empty {s : Session ScriptedPlatform κ}
    (empty : s.platform.parked = []) (outcome : TransferOutcome) :
    after (completeNext outcome) s = s := by
  rw [completeNext, after_bind, result_onPlatform, after_onPlatform,
    ScriptedPlatform.run_unpark_nil empty]
  rfl

/-- No context tracks the transfer. -/
def Untracked {σ : Type} (s : Session σ κ) (id : TransferId) : Prop :=
  ∀ c, (s.tracker c).entries.get? id = none

/-- The calls that are no concern of transfers in flight: they change transfers
only that nobody tracks, and neither park anything nor answer what is parked. -/
def Permits (s : Session ScriptedPlatform κ) : Call ScriptedPlatform κ → Prop
  | .platform change => ScriptedPlatform.SameParking s.platform (change s.platform)
  | .fillControl id .. | .fillData id .. | .assign id _ => s.Untracked id
  | .deliver .. | .submit _ | .cancel _ | .free _ => False
  | _ => True

end Session

namespace Rehearsal
variable {α β : Type}

theorem lift_bind (x : SessionM ScriptedPlatform Action α)
    (f : α → SessionM ScriptedPlatform Action β) :
    lift (x >>= f) = lift x >>= fun a => lift (f a) := by
  funext r
  have hlift : (lift x).run.run r =
      ((x.run.run r.session).1, { r with session := (x.run.run r.session).2 }) := rfl
  have hparts : (lift x >>= fun a => lift (f a)).run.run r =
      (ExceptT.bindCont (fun a => lift (f a)) ((lift x).run.run r).1).run
        ((lift x).run.run r).2 := rfl
  have hwhole : (lift (x >>= f)).run.run r =
      (((x >>= f).run.run r.session).1, { r with session := ((x >>= f).run.run r.session).2 }) :=
    rfl
  change (lift (x >>= f)).run.run r = (lift x >>= fun a => lift (f a)).run.run r
  rw [hparts, hwhole, hlift, Session.run_bind]
  rcases x.run.run r.session with ⟨a | e, s'⟩ <;> rfl

/-- This is how a rehearsal completes a transfer. -/
theorem complete_eq (outcome : TransferOutcome) :
    complete outcome = lift (Session.completeNext outcome) := by
  rw [Session.completeNext, lift_bind, complete]
  refine congrArg _ (funext fun ticket? => ?_)
  cases ticket? with
  | none => rfl
  | some ticket => exact (lift_bind (Session.deliver ticket outcome) fun _ => pure true).symm

end Rehearsal

/-! ## The bench -/

structure Bench (κ : Type) where
  session : Session ScriptedPlatform κ
  /-- The callbacks that are to be put back into their transfers. -/
  out : List (TransferId × Option (Callback κ)) := []

namespace Bench
open Session
variable {κ : Type}

/-- What is written down of a turn. -/
inductive Entry where
  /-- A transfer was submitted, and its answer is to come under this ticket. -/
  | submitted (ticket : Ticket)
  /-- A transfer was completed. -/
  | answered (ticket : Ticket) (outcome : TransferOutcome) (delivery : Delivery)
  | cancelled (context : ContextId) (id : TransferId) (done : Bool)
  /-- A transfer was freed, and removed from the tracker of a context. -/
  | freed (id : TransferId) (removed : Option (ContextId × Bool))
  /-- The first completed transfer of a context was finalized, if there was one. -/
  | found (context : ContextId) (result : Option (TransferId × TransferOutcome))
  | other

namespace Entry

/-- The operation on a tracker that a turn does. -/
def event? : Entry → Option (ContextId × Tracker.Event)
  | .submitted ticket =>
    some (ticket.context,
      ⟨.register ticket.submission.transfer, .registered ticket.submission⟩)
  | .answered ticket outcome delivery =>
    some (ticket.context,
      ⟨.deliver ticket.submission outcome, .delivered ticket.submission delivery⟩)
  | .cancelled c id done => some (c, ⟨.cancel id, .cancelled id done⟩)
  | .freed id (some (c, done)) => some (c, ⟨.remove id, .removed id done⟩)
  | .found c result => some (c, ⟨.extract, .extracted result⟩)
  | .freed _ none | .other => none

/-- What a turn does to the tracker of a context. -/
def eventIn (c : ContextId) (e : Entry) : Option Tracker.Event :=
  e.event?.bind fun (c', event) => if c' = c then some event else none

def ticket? : Entry → Option Ticket
  | .submitted ticket => some ticket
  | _ => none

def answer? : Entry → Option (Ticket × TransferOutcome)
  | .answered ticket outcome _ => some (ticket, outcome)
  | _ => none

def Frees (id : TransferId) : Entry → Prop
  | .freed id' _ => id' = id
  | _ => False

/-- The turn finalizes a transfer. -/
def Finds (id : TransferId) : Entry → Prop
  | .found _ (some (id', _)) => id' = id
  | _ => False

variable {e : Entry} {c : ContextId} {event : Tracker.Event}

theorem eventIn_eq_some_iff : e.eventIn c = some event ↔ e.event? = some (c, event) := by
  rw [eventIn]
  constructor
  · intro h
    obtain ⟨⟨c', event'⟩, hevent, hif⟩ := Option.bind_eq_some_iff.mp h
    dsimp only at hif
    split at hif
    · rename_i hc
      cases hif
      rw [hevent, hc]
    · cases hif
  · intro h
    rw [h]
    exact if_pos rfl

theorem eq_submitted_of_ticket {ticket : Ticket} (h : e.ticket? = some ticket) :
    e = .submitted ticket := by
  cases e <;> cases h
  rfl

/-- Submissions are what trackers give out, ... -/
theorem eq_submitted {s : Submission} (h : e.event? = some (c, event))
    (hreply : event.reply = .registered s) : e = .submitted ⟨c, s⟩ := by
  rcases e with ticket | _ | _ | ⟨_, _ | _⟩ | _ | _ <;> cases h <;> cases hreply
  rfl

/-- ... completions what they take answers from, ... -/
theorem eq_answered {s : Submission} {outcome : TransferOutcome}
    (h : e.event? = some (c, event)) (hop : event.op = .deliver s outcome) :
    ∃ delivery, e = .answered ⟨c, s⟩ outcome delivery := by
  rcases e with _ | ⟨ticket, outcome, delivery⟩ | _ | ⟨_, _ | _⟩ | _ | _ <;> cases h <;> cases hop
  exact ⟨delivery, rfl⟩

/-- ... and cancellations what they cancel. -/
theorem eq_cancelled {id : TransferId} (h : e.event? = some (c, event))
    (hop : event.op = .cancel id) : ∃ done, e = .cancelled c id done := by
  rcases e with _ | _ | ⟨c, id, done⟩ | ⟨_, _ | _⟩ | _ | _ <;> cases h <;> cases hop
  exact ⟨done, rfl⟩

theorem frees_of_event {id : TransferId} (h : e.event? = some (c, event))
    (hop : event.op = .remove id) : e.Frees id := by
  rcases e with _ | _ | _ | ⟨_, _ | _⟩ | _ | _ <;> cases h <;> cases hop
  rfl

theorem finds_of_event {id : TransferId} {outcome : TransferOutcome}
    (h : e.event? = some (c, event)) (hreply : event.reply = .extracted (some (id, outcome))) :
    e.Finds id := by
  rcases e with _ | _ | _ | ⟨_, _ | _⟩ | _ | _ <;> cases h <;> cases hreply
  rfl

end Entry

/-- What was done to the tracker of a context. -/
def events (c : ContextId) (h : List Entry) : List Tracker.Event := h.filterMap (·.eventIn c)

/-- The submissions, oldest first. -/
def submitted (h : List Entry) : List Ticket := h.filterMap (·.ticket?)

/-- The completions, oldest first. -/
def answered (h : List Entry) : List (Ticket × TransferOutcome) := h.filterMap (·.answer?)

/-- **What may be done next.**  A transfer is submitted in a context that was made,
since there are no handles of others. -/
inductive Turn (m : Bench κ) : Entry → Bench κ → Prop where
  | call (call : Call ScriptedPlatform κ) (permitted : m.session.Permits call) :
      Turn m .other ⟨after call.run m.session, m.out⟩
  | submit (id : TransferId) (handle : Handle) (request : TransferRequest)
      (accepts : m.session.Accepts id handle request)
      (made : m.session.HasContext handle.context) :
      Turn m (.submitted (m.session.nextTicket handle.context id))
        ⟨after (submit id) m.session, m.out⟩
  | refuse (id : TransferId) (e : UsbError)
      (refused : result (submit id) m.session = .error (.error e)) :
      Turn m .other ⟨after (submit id) m.session, m.out⟩
  | cancel (id : TransferId) (c : ContextId)
      (context : m.session.contextOf? (m.session.transfer id) = some c) :
      Turn m (.cancelled c id ((m.session.tracker c).cancel id).1)
        ⟨after (cancel id) m.session, m.out⟩
  | free (id : TransferId) :
      Turn m (.freed id ((m.session.contextOf? (m.session.transfer id)).map fun c =>
          (c, ((m.session.tracker c).remove id).1)))
        ⟨after (free id) m.session, m.out⟩
  | complete (outcome : TransferOutcome) (ticket : Ticket) (parked : List Ticket)
      (oldest : m.session.platform.parked = ticket :: parked) :
      Turn m (.answered ticket outcome
          ((m.session.tracker ticket.context).deliver ticket.submission outcome).1)
        ⟨after (completeNext outcome) m.session, m.out⟩
  | completeNone (outcome : TransferOutcome) (empty : m.session.platform.parked = []) :
      Turn m .other ⟨after (completeNext outcome) m.session, m.out⟩
  | find (c : ContextId) (id : TransferId) (outcome : TransferOutcome)
      (first : (m.session.tracker c).extract.1 = some (id, outcome)) :
      Turn m (.found c (some (id, outcome)))
        ⟨after (finalize c) m.session,
          (id, (m.session.transfer id).callback.map (·.called)) :: m.out⟩
  | findNone (c : ContextId) (empty : (m.session.tracker c).extract.1 = none) :
      Turn m (.found c none) ⟨after (finalize c) m.session, m.out⟩
  | putBack (before later : List (TransferId × Option (Callback κ))) (id : TransferId)
      (callback : Option (Callback κ)) (out : m.out = before ++ (id, callback) :: later) :
      Turn m .other ⟨after (restore id callback) m.session, before ++ later⟩

/-- The runs from `m`: what was done, oldest first, and where it led to. -/
inductive Run (m : Bench κ) : List Entry → Bench κ → Prop where
  | refl : Run m [] m
  | turn {h : List Entry} {m' m'' : Bench κ} {e : Entry} (before : Run m h m')
      (now : Turn m' e m'') : Run m (h ++ [e]) m''

/-- A submission that succeeds is a turn. -/
theorem exists_turn_submit {m : Bench κ} {id : TransferId}
    (made : ∀ c, m.session.contextOf? (m.session.transfer id) = some c → m.session.HasContext c)
    (ok : result (submit id) m.session = .ok ()) :
    ∃ ticket, ticket.submission.transfer = id ∧
      Turn m (.submitted ticket) ⟨after (submit id) m.session, m.out⟩ := by
  obtain ⟨handle, request, accepts⟩ := result_submit_eq_ok_iff.mp ok
  exact ⟨_, rfl, .submit id handle request accepts (made _ accepts.contextOf)⟩

/-- A cancellation that succeeds is a turn, written down as done. -/
theorem exists_turn_cancel {m : Bench κ} {id : TransferId}
    (ok : result (cancel id) m.session = .ok ()) :
    ∃ c, Turn m (.cancelled c id true) ⟨after (cancel id) m.session, m.out⟩ := by
  cases hc : m.session.contextOf? (m.session.transfer id) with
  | none => simp [cancel, result_bind, hc] at ok
  | some c =>
    rw [result_cancel hc] at ok
    split at ok
    · rename_i done
      exact ⟨c, done ▸ .cancel id c hc⟩
    · cases ok

theorem Run.trans {m m' m'' : Bench κ} {h h' : List Entry} (run : Run m h m')
    (run' : Run m' h' m'') : Run m (h ++ h') m'' := by
  induction run' with
  | refl => rwa [List.append_nil]
  | turn before now ih => exact List.append_assoc h _ _ ▸ ih.turn now

/-! ## Handling events -/

/-- Some run leads from one bench to the other. -/
def Leads (m m' : Bench κ) : Prop := ∃ h, Run m h m'

section Leading
variable {m m' m'' : Bench κ} {e : Entry}

theorem Leads.trans (leads : Leads m m') (later : Leads m' m'') : Leads m m'' := by
  obtain ⟨h, run⟩ := leads
  obtain ⟨h', run'⟩ := later
  exact ⟨h ++ h', run.trans run'⟩

theorem Turn.leads (now : Turn m e m') : Leads m m' := ⟨[e], Run.refl.turn now⟩

/-- `settle` puts back the callback that was taken last. -/
theorem leads_settle {s : Session ScriptedPlatform κ} {id : TransferId}
    {callback : Option (Callback κ)} {out : List (TransferId × Option (Callback κ))} :
    Leads ⟨s, (id, callback) :: out⟩ ⟨after (settle id callback) s, out⟩ := by
  have now : Turn ⟨s, (id, callback) :: out⟩ .other ⟨after (restore id callback) s, out⟩ :=
    .putBack [] out id callback rfl
  rw [settle, after_bind, result_restore]
  dsimp only
  split
  · rw [after_discard]
    exact now.leads.trans (Turn.free (m := ⟨_, out⟩) id).leads
  · exact now.leads

/-- What a callback does, if it comes to its end, is a run of the bench on which
it is out. -/
def Follows (m : Bench κ) (run : TransferId → Callback κ → SessionM ScriptedPlatform κ Unit) :
    Prop :=
  ∀ s id callback, Leads m ⟨s, (id, some callback.called) :: m.out⟩ →
    result (run id callback) s = .ok () →
    Leads ⟨s, (id, some callback.called) :: m.out⟩
      ⟨after (run id callback) s, (id, some callback.called) :: m.out⟩

/-- **`handleEvents` is a run of the bench**, if what the callbacks do is. -/
theorem leads_handleEvents {run : TransferId → Callback κ → SessionM ScriptedPlatform κ Unit}
    (c : ContextId) (follows : Follows m run)
    (ok : result (handleEvents (σ := ScriptedPlatform) run c) m.session = .ok ()) :
    Leads m ⟨after (handleEvents (σ := ScriptedPlatform) run c) m.session, m.out⟩ := by
  rw [handleEvents_eq, after_bind]
  rw [handleEvents_eq, result_bind] at ok
  cases hfound : (m.session.tracker c).extract.1 with
  | none =>
    rw [result_finalize_of_none hfound]
    exact (Turn.findNone c hfound).leads
  | some found =>
    obtain ⟨id, outcome⟩ := found
    have found := (Turn.find c id outcome hfound).leads
    rw [result_finalize hfound] at ok ⊢
    cases hcallback : (m.session.transfer id).callback with
    | none =>
      rw [hcallback] at found
      exact found.trans leads_settle
    | some callback =>
      rw [hcallback] at found ok
      dsimp only at ok ⊢
      rw [result_bind] at ok
      rw [after_bind]
      cases hrun : result (run id callback) (after (finalize c) m.session) with
      | error e =>
        rw [hrun] at ok
        cases ok
      | ok _ => exact (found.trans (follows _ id callback found hrun)).trans leads_settle

end Leading

end Bench

end UsbHost
