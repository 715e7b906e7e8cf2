import UsbHost.Proofs.Session.Contexts
import UsbHost.Proofs.Session.Submissions

/-! # Histories of sessions

What becomes of a session is a sequence of moves: calls, what the platform does, and
the steps in which events are handled, of any number of threads.  A move writes down
the operations that it does on trackers, as the turns of a test bench do; here the
platform may be any.

A tracker has gone through the operations that are written down for its context and
no others (`Move.follows`).  So a move leaves every tracker as it is but that of the
one context it is about (`Move.tracker_of_ne`), and a history of the session holds a
history of each tracker (`Reaches.tracked`).
-/
namespace UsbHost

namespace Tracker

/-- The events that lead from one tracker to another. -/
inductive Path (t : Tracker) : List Event → Tracker → Prop where
  | refl : Path t [] t
  | step {h : List Event} {t' t'' : Tracker} {e : Event} (before : Path t h t')
      (now : t'.step e.op = .ok (e.reply, t'')) : Path t (h ++ [e]) t''

variable {t t' : Tracker} {h h' : List Event}

theorem Path.eq_of_nil (path : Path t [] t') : t' = t := by
  generalize hnil : [] = h at path
  cases path with
  | refl => rfl
  | step => cases List.append_ne_nil_of_right_ne_nil _ (List.cons_ne_nil _ _) hnil.symm

theorem Path.trans {t'' : Tracker} (path : Path t h t') (path' : Path t' h' t'') :
    Path t (h ++ h') t'' := by
  induction path' with
  | refl => rwa [List.append_nil]
  | step _ now ih => exact List.append_assoc h _ _ ▸ ih.step now

theorem Run.later (run : Run h t) (path : Path t h' t') : Run (h ++ h') t' := by
  induction path with
  | refl => rwa [List.append_nil]
  | step _ now ih => exact List.append_assoc h _ _ ▸ ih.step now

/-- Only registering makes something of an empty tracker. -/
theorem eq_empty_of_step {op : Op} {reply : Reply} (h : ({} : Tracker).step op = .ok (reply, t))
    (hop : ∀ id, op ≠ .register id) : t = {} := by
  cases op with
  | register id => exact absurd rfl (hop id)
  | deliver | cancel | remove | extract =>
    cases h
    rfl

end Tracker

/-- What is done to the tracker of a context is nothing to the others. -/
theorem Bench.Entry.eventIn_eq_none {e : Entry} {c d : ContextId} {event : Tracker.Event}
    (h : e.event? = some (c, event)) (hc : c ≠ d) : e.eventIn d = none := by
  rw [eventIn, h]
  exact if_neg hc

/-- What becomes of a session at one go. -/
inductive Move (σ κ : Type) where
  | call (call : Call σ κ)
  /-- Events of a context are polled. -/
  | poll (context : ContextId)
  /-- A transfer that was polled is finished. -/
  | finish (id : TransferId) (outcome : TransferOutcome)
  /-- The callback of a transfer is put back. -/
  | restore (id : TransferId) (callback : Option (Callback κ))

namespace Session
open Bench (events)

variable {σ κ : Type} {s s' s'' : Session σ κ} {es : List Bench.Entry} {e : Bench.Entry}
  {c : ContextId} {id : TransferId}

theorem tracker_new (platform : σ) (c : ContextId) :
    ({ platform } : Session σ κ).tracker c = {} := by
  cases c <;> rfl

/-- Every tracker goes through what is written down for its context. -/
def Follows (es : List Bench.Entry) (s s' : Session σ κ) : Prop :=
  ∀ c, Tracker.Path (s.tracker c) (events c es) (s'.tracker c)

namespace Follows

theorem of_same (quiet : ∀ c, events c es = []) (same : ∀ c, s'.tracker c = s.tracker c) :
    Follows es s s' := by
  intro c
  rw [quiet, same]
  exact .refl

theorem congr (follows : Follows es s s') (same : ∀ c, s''.tracker c = s'.tracker c) :
    Follows es s s'' := by
  intro c
  rw [same]
  exact follows c

theorem of_plain (follows : Follows es s s') (h : s''.plain = s'.plain) : Follows es s s'' :=
  follows.congr fun c => by rw [← tracker_plain, h, tracker_plain]

theorem trans {es' : List Bench.Entry} (follows : Follows es s s') (later : Follows es' s' s'') :
    Follows (es ++ es') s s'' := by
  intro c
  rw [Bench.events_append]
  exact (follows c).trans (later c)

/-- An operation on the tracker of one context, which keeps what it is given. -/
theorem set {event : Tracker.Event} {t : Tracker} (h : e.event? = some (c, event))
    (step : (s.tracker c).step event.op = .ok (event.reply, t))
    (kept : (setTracker c t s).tracker c = t) : Follows [e] s (setTracker c t s) := by
  intro c'
  by_cases hc : c' = c
  · subst hc
    rw [kept, events, List.filterMap_cons_some (Bench.Entry.eventIn_eq_some_iff.mpr h)]
    exact Tracker.Path.refl.step step
  · rw [tracker_setTracker_of_ne hc, events,
      List.filterMap_cons_none (Bench.Entry.eventIn_eq_none h (Ne.symm hc))]
    exact .refl

/-- An operation that registers nothing, also where there is no tracker. -/
theorem operate {event : Tracker.Event} {t : Tracker} (h : e.event? = some (c, event))
    (step : (s.tracker c).step event.op = .ok (event.reply, t))
    (hop : ∀ id, event.op ≠ .register id) : Follows [e] s (setTracker c t s) :=
  .set h step (tracker_setTracker_self fun hempty =>
    Tracker.eq_empty_of_step (hempty ▸ step) hop)

end Follows

theorem follows_deliver (ticket : Ticket) (outcome : TransferOutcome) (s : Session σ κ) :
    Follows [.answered ticket outcome
        ((s.tracker ticket.context).deliver ticket.submission outcome).1] s
      (after (deliver ticket outcome) s) :=
  (Follows.operate rfl (Tracker.step_deliver ..) fun _ h => by cases h).of_plain
    ((plain_after_deliver ..).trans (plain_setTracker ..).symm)

variable [Platform σ]

/-! ## What a submission writes down -/

/-- A submission that is made, and its answer if the platform has it at once. -/
def launched (s : Session σ κ) (id : TransferId) : List Bench.Entry :=
  match (s.transfer id).handle.bind s.handle?, (s.transfer id).request with
  | some handle, .ok request =>
    if (s.tracker handle.context).isTracked id then []
    else
      let ticket := s.nextTicket handle.context id
      .submitted ticket :: ((s.start id handle request).1.map (.answered ticket · .accepted)).toList
  | _, _ => []

theorem Accepts.launched {handle : Handle} {request : TransferRequest}
    (accepts : s.Accepts id handle request) :
    s.launched id = .submitted (s.nextTicket handle.context id) ::
      ((s.start id handle request).1.map
        (.answered (s.nextTicket handle.context id) · .accepted)).toList := by
  have hfree : (s.tracker handle.context).isTracked id = false := by
    rw [← Bool.not_eq_true, Tracker.isTracked_iff]
    exact fun tracked => tracked accepts.free
  simp [Session.launched, accepts.opened, accepts.asks, hfree]

omit [Platform σ] in
theorem Accepts.hasContext {handle : Handle} {request : TransferRequest}
    (accepts : s.Accepts id handle request) (made : s.Made) : s.HasContext handle.context := by
  obtain ⟨key, -, hkey⟩ := Option.bind_eq_some_iff.mp accepts.opened
  exact made handle (List.mem_of_getElem? hkey)

/-- A transfer that is not accepted is not submitted: at most its count has been
reset. -/
theorem accepts_or_not_launched (s : Session σ κ) (id : TransferId) :
    (∃ handle request, s.Accepts id handle request) ∨
    (s.launched id = [] ∧ ((after (submit id) s).plain = s.plain ∨
      (after (submit id) s).plain = (s.alter id fun t => { t with count := 0 }).plain)) := by
  by_cases accepts : ∃ handle request, s.Accepts id handle request
  · exact .inl accepts
  refine .inr ?_
  unfold Session.launched
  cases hhandle : (s.transfer id).handle.bind s.handle? with
  | none => exact ⟨rfl, .inl (by simp [submit, after_bind, result_get, hhandle])⟩
  | some handle =>
    cases hrequest : (s.transfer id).request with
    | error refusal => exact ⟨rfl, .inl (by simp [submit, after_bind, hhandle, hrequest])⟩
    | ok request =>
      have tracked : (s.tracker handle.context).entries.get? id ≠ none :=
        fun free => accepts ⟨handle, request, hhandle, hrequest, free⟩
      have hfault : (((after (reach handle.context)
          (s.alter id fun t => { t with count := 0 })).tracker handle.context).step
            (.register id)) = .error (.registeredTwice id) := by
        rw [tracker_after_reach, tracker_alter]
        exact Tracker.step_register_of_tracked _ id tracked
      refine ⟨if_pos (Tracker.isTracked_iff.mpr tracked), .inr ?_⟩
      refine Eq.trans (congrArg plain ?_) (plain_after_reach _ handle.context)
      simp [submit, after_bind, hhandle, hrequest, result_reach, after_track_of_fault hfault,
        result_track_of_fault hfault]

theorem follows_submit (made : s.Made) (id : TransferId) :
    Follows (s.launched id) s (after (submit id) s) := by
  rcases s.accepts_or_not_launched id with ⟨handle, request, accepts⟩ | ⟨hnone, hplain⟩
  · have hc := accepts.hasContext made
    obtain ⟨s', hs', hrun⟩ := submit_run accepts
    have htracker : s'.tracker handle.context = (s.tracker handle.context).enlist id := by
      rw [← tracker_plain, hs', tracker_plain, tracker_submitted hc]
    -- The transfer is registered first, and answered then if it is at once.
    have registered : Follows [.submitted (s.nextTicket handle.context id)] s s' := by
      have count : Follows [] s (s.alter id fun t => { t with count := 0 }) :=
        .of_same (fun _ => rfl) fun _ => tracker_alter _
      have hstep : ((s.alter id fun t => { t with count := 0 }).tracker handle.context).step
          (.register id) = .ok (.registered (s.nextTicket handle.context id).submission,
            (s.tracker handle.context).enlist id) := by
        rw [tracker_alter]
        exact Tracker.step_register _ id accepts.free
      have enlisted := count.trans (Follows.set
        (e := .submitted (s.nextTicket handle.context id)) rfl hstep
        ((hasContext_alter.mpr hc).tracker_setTracker _))
      exact (enlisted.congr (neutral_sameTrackers.platform _ _ trivial)).of_plain hs'
    rw [accepts.launched, after, hrun]
    cases hstart : (s.start id handle request).1 with
    | none => exact registered
    | some outcome =>
      have answered := follows_deliver (s.nextTicket handle.context id) outcome s'
      have haccepted : ((s'.tracker handle.context).deliver
          (s.nextTicket handle.context id).submission outcome).1 = .accepted := by
        rw [htracker]
        simp [Tracker.deliver, nextTicket]
      rw [context_nextTicket, haccepted] at answered
      exact registered.trans answered
  · rw [hnone]
    rcases hplain with hplain | hplain
    · exact (Follows.of_same (fun _ => rfl) fun _ => rfl).of_plain hplain
    · exact (Follows.of_same (fun _ => rfl) fun _ => tracker_alter _).of_plain hplain

end Session

namespace Move
open Session
open Bench (events)

variable {σ κ : Type} [Platform σ]

/-- What a move does to a session. -/
def run : Move σ κ → SessionM σ κ Unit
  | .call now => now.run
  | .poll c => discard (EventLoop.poll c)
  | .finish id outcome => discard (Session.finish id outcome)
  | .restore id callback => discard (Session.restore id callback)

/-- What a move writes down. -/
def entries (s : Session σ κ) : Move σ κ → List Bench.Entry
  | .call (.submit id) => s.launched id
  | .call (.deliver ticket outcome) =>
    [.answered ticket outcome ((s.tracker ticket.context).deliver ticket.submission outcome).1]
  | .call (.cancel id) =>
    ((s.contextOf? (s.transfer id)).map fun c =>
      .cancelled c id ((s.tracker c).cancel id).1).toList
  | .call (.free id) =>
    [.freed id ((s.contextOf? (s.transfer id)).map fun c => (c, ((s.tracker c).remove id).1))]
  | .poll c => [.found c (s.tracker c).extract.1]
  | .call _ | .finish .. | .restore .. => []

/-- The context that a move is about. -/
def context? (s : Session σ κ) : Move σ κ → Option ContextId
  | .call (.submit id) | .call (.cancel id) | .call (.free id) => s.contextOf? (s.transfer id)
  | .call (.deliver ticket _) => some ticket.context
  | .poll c => some c
  | .call _ | .finish .. | .restore .. => none

variable {s : Session σ κ}

@[simp] theorem after_call (call : Call σ κ) :
    after (Move.call call).run s = after call.run s := rfl

@[simp] theorem after_poll (c : ContextId) :
    after (Move.poll c : Move σ κ).run s = after (EventLoop.poll c) s := after_discard ..

@[simp] theorem after_finish (id : TransferId) (outcome : TransferOutcome) :
    after (Move.finish id outcome : Move σ κ).run s = after (Session.finish id outcome) s :=
  after_discard ..

@[simp] theorem after_restore (id : TransferId) (callback : Option (Callback κ)) :
    after (Move.restore id callback).run s = after (Session.restore id callback) s :=
  after_discard ..

/-- **Trackers go through what is written down of a move.** -/
theorem follows (made : s.Made) (move : Move σ κ) :
    Follows (move.entries s) s (after move.run s) := by
  have still : ∀ {s' : Session σ κ}, (∀ c, s'.tracker c = s.tracker c) → Follows [] s s' :=
    fun same => .of_same (fun _ => rfl) same
  cases move with
  | call call =>
    induction call using Call.byCases with
    | neutral call named keeps =>
      have same := keeps _ _ respects_anyChange neutral_sameTrackers s
      -- A delivery names no transfer either, but it is written down.
      cases call with
      | deliver ticket outcome => exact follows_deliver ticket outcome s
      | submit | cancel | free => cases named
      | _ => exact still same
    | platform change => exact still (neutral_sameTrackers.platform s _ trivial)
    | deliver ticket outcome => exact follows_deliver ticket outcome s
    | fillControl | fillData | assign => exact still fun _ => tracker_alter _
    | submit id => exact follows_submit made id
    | cancel id =>
      rw [entries]
      cases hc : s.contextOf? (s.transfer id) with
      | none => exact still fun _ => by simp [run, Call.run, cancel, after_bind, hc]
      | some c =>
        exact (Follows.operate rfl (Tracker.step_cancel ..) fun _ h => by cases h).of_plain
          ((plain_after_cancel hc).trans (plain_setTracker ..).symm)
    | free id =>
      rw [entries, run, Call.after_free]
      cases hc : s.contextOf? (s.transfer id) with
      | none =>
        refine .of_same (fun _ => rfl) fun c => ?_
        rw [← tracker_plain, plain_after_free_of_no_context hc, tracker_alter, tracker_plain]
      | some c =>
        refine (Follows.operate rfl (Tracker.step_remove ..) fun _ h => by cases h).congr
          fun c' => ?_
        rw [← tracker_plain, plain_after_free hc, tracker_alter, ← plain_setTracker, tracker_plain]
  | poll c =>
    rw [entries, after_poll]
    exact (Follows.operate rfl (Tracker.step_extract ..) fun _ h => by cases h).of_plain
      ((plain_after_poll s c).trans (plain_setTracker ..).symm)
  | finish id outcome =>
    refine still fun c => ?_
    rw [after_finish, ← tracker_plain, plain_after_finish, tracker_alter, tracker_plain]
  | restore id callback =>
    refine still fun c => ?_
    rw [after_restore, Session.after_restore, tracker_alter]

/-- Nothing is written down for any context but the one that a move is about. -/
theorem events_of_ne {move : Move σ κ} {d : ContextId} (h : move.context? s ≠ some d) :
    events d (move.entries s) = [] := by
  have single : ∀ {e : Bench.Entry} {c event}, e.event? = some (c, event) → c ≠ d →
      events d [e] = [] :=
    fun he hc => List.filterMap_cons_none (Bench.Entry.eventIn_eq_none he hc)
  cases move with
  | poll c => exact single rfl fun hc => h (congrArg some hc)
  | finish | restore => rfl
  | call call =>
    cases call with
    | deliver ticket outcome => exact single rfl fun hc => h (congrArg some hc)
    | submit id =>
      rcases s.accepts_or_not_launched id with ⟨handle, request, accepts⟩ | ⟨hnone, -⟩
      · have hc : handle.context ≠ d := fun hc => h (accepts.contextOf.trans (congrArg some hc))
        rw [entries, accepts.launched]
        cases (s.start id handle request).1 with
        | none => exact single rfl hc
        | some outcome =>
          refine (Bench.events_append (h := [_]) [_]).trans ?_
          rw [single rfl hc, single rfl hc, List.append_nil]
      · exact congrArg (events d) hnone
    | cancel id =>
      rw [entries]
      cases hc : s.contextOf? (s.transfer id) with
      | none => rfl
      | some c => exact single rfl fun heq => h (hc.trans (congrArg some heq))
    | free id =>
      rw [entries]
      cases hc : s.contextOf? (s.transfer id) with
      | none => rfl
      | some c => exact single rfl fun heq => h (hc.trans (congrArg some heq))
    | _ => rfl

/-- **A move leaves the trackers of other contexts as they are.** -/
theorem tracker_of_ne (made : s.Made) {move : Move σ κ} {d : ContextId}
    (h : move.context? s ≠ some d) : (after move.run s).tracker d = s.tracker d := by
  have path := move.follows made d
  rw [events_of_ne h] at path
  exact path.eq_of_nil

end Move

namespace Session
open Bench (events)

variable {σ κ : Type} [Platform σ]

/-! ## Sessions with their histories -/

/-- If the call opens a device, that is of a context that was made. -/
def Opens (s : Session σ κ) (call : Call σ κ) : Prop :=
  ∀ key device, call = .openDevice key device → s.HasContext device.context

/-- The sessions that moves lead to, with all that was written down, oldest first; the
calls are of those that `P` allows. -/
inductive Reaches (P : Session σ κ → Call σ κ → Prop) : List Bench.Entry → Session σ κ → Prop where
  | new (platform : σ) : Reaches P [] { platform }
  | move {h : List Bench.Entry} {s : Session σ κ} (before : Reaches P h s) (move : Move σ κ)
      (allowed : ∀ call, move = .call call → P s call) :
      Reaches P (h ++ move.entries s) (after move.run s)

variable {P : Session σ κ → Call σ κ → Prop} {h : List Bench.Entry} {s : Session σ κ}

section Moves
variable (before : Reaches P h s)
include before

theorem Reaches.call (call : Call σ κ) (allowed : P s call) :
    Reaches P (h ++ (Move.call call).entries s) (after call.run s) :=
  before.move (.call call) fun _ heq => by cases heq; exact allowed

theorem Reaches.poll (c : ContextId) :
    Reaches P (h ++ [.found c (s.tracker c).extract.1]) (after (EventLoop.poll c) s) := by
  rw [← Move.after_poll]
  exact before.move (.poll c) nofun

theorem Reaches.finish (id : TransferId) (outcome : TransferOutcome) :
    Reaches P (h ++ []) (after (Session.finish id outcome) s) := by
  rw [← Move.after_finish]
  exact before.move (.finish id outcome) nofun

theorem Reaches.restore (id : TransferId) (callback : Option (Callback κ)) :
    Reaches P (h ++ []) (after (Session.restore id callback) s) := by
  rw [← Move.after_restore]
  exact before.move (.restore id callback) nofun

end Moves

theorem Reaches.reached (opens : ∀ s call, P s call → Opens s call) (reaches : Reaches P h s) :
    s.Reached := by
  induction reaches with
  | new platform => exact .new platform
  | move before move allowed ih =>
    cases move with
    | call call => exact ih.call call (opens _ _ (allowed call rfl))
    | poll c =>
      rw [Move.after_poll]
      exact ih.poll c
    | finish id outcome =>
      rw [Move.after_finish]
      exact ih.finish id outcome
    | restore id callback =>
      rw [Move.after_restore]
      exact ih.restore id callback

/-- Every session that can be reached has a history. -/
theorem Reached.exists_reaches (reached : s.Reached) : ∃ h, Reaches Opens h s := by
  induction reached with
  | new platform => exact ⟨_, .new platform⟩
  | call _ call opens ih => exact ih.elim fun _ reaches => ⟨_, reaches.call call opens⟩
  | poll _ c ih => exact ih.elim fun _ reaches => ⟨_, reaches.poll c⟩
  | finish _ id outcome ih => exact ih.elim fun _ reaches => ⟨_, reaches.finish id outcome⟩
  | restore _ id callback ih => exact ih.elim fun _ reaches => ⟨_, reaches.restore id callback⟩

/-- **The history of a session holds a history of every tracker.** -/
theorem Reaches.tracked (opens : ∀ s call, P s call → Opens s call) (reaches : Reaches P h s)
    (c : ContextId) : Tracker.Run (events c h) (s.tracker c) := by
  induction reaches with
  | new platform =>
    rw [tracker_new]
    exact .new
  | move before move allowed ih =>
    rw [Bench.events_append]
    exact ih.later (move.follows (before.reached opens).made c)

theorem Reaches.sound (opens : ∀ s call, P s call → Opens s call) (reaches : Reaches P h s) :
    s.Sound :=
  fun c => (reaches.tracked opens c).consistent

/-- Handling events is a matter of moves, if what the callbacks do is. -/
theorem exists_reaches_handleEvents {run : TransferId → Callback κ → SessionM σ κ Unit}
    (frees : ∀ s id, P s (.free id))
    (hrun : ∀ id callback s, (∃ h, Reaches P h s) → ∃ h, Reaches P h (after (run id callback) s))
    (reaches : Reaches P h s) (c : ContextId) :
    ∃ h', Reaches P h' (after (handleEvents (σ := σ) run c) s) := by
  refine handleEvents_induction (Q := fun s => ∃ h, Reaches P h s) ?_ ?_ ?_ ?_ hrun ⟨h, reaches⟩
  · rintro s ⟨h, reaches⟩
    exact ⟨_, reaches.poll c⟩
  · rintro id outcome s ⟨h, reaches⟩
    exact ⟨_, reaches.finish id outcome⟩
  · rintro id callback s ⟨h, reaches⟩
    exact ⟨_, reaches.restore id callback⟩
  · rintro id s ⟨h, reaches⟩
    exact ⟨_, Call.after_free id s ▸ reaches.call (.free id) (frees s id)⟩

/-! ## Sessions that can be reached -/

/-- The trackers of a session that can be reached are sound. -/
theorem Reached.sound (reached : s.Reached) : s.Sound := by
  obtain ⟨h, reaches⟩ := reached.exists_reaches
  exact reaches.sound fun _ _ opens => opens

/-- What is tracked was allocated. -/
theorem Reached.allocated (reached : s.Reached) {c : ContextId} {id : TransferId}
    (tracked : (s.tracker c).isTracked id = true) : s.Allocated id := by
  induction reached generalizing c with
  | new platform =>
    rw [tracker_new] at tracked
    cases tracked
  | @call s hs call opens ih =>
    have kept := (call.sameHoldings s).allocated id
    by_cases hsubmit : call = .submit id
    · subst hsubmit
      by_cases ha : s.Allocated id
      · exact kept ha
      · -- A transfer that was never allocated has no handle to be submitted to.
        have hsame : after (Call.submit id : Call σ κ).run s = s :=
          after_submit_of_no_handle (by rw [transfer_of_not_allocated ha])
        rw [hsame] at tracked
        exact absurd (ih tracked) ha
    · by_cases hfree : call = .free id
      · subst hfree
        rw [Call.after_free, isTracked_after_free, Bool.and_eq_true] at tracked
        exact kept (ih tracked.1)
      · have hsame := (call.sameTracking s hs.sound).2 c id ⟨hsubmit, hfree⟩
        exact kept (ih (hsame.symm.trans tracked))
  | @poll s hs c' ih =>
    rw [EventLoop.isTracked_after_poll hs.sound, Bool.and_eq_true] at tracked
    exact (EventLoop.poll_sameHoldings (K := fun _ => True) c' s).allocated id (ih tracked.1)
  | @finish s hs id' outcome ih =>
    have hsame := (finish_sameTracking (K := fun _ => True) s id' outcome hs.sound).2 c id trivial
    exact (finish_sameHoldings s id' outcome).allocated id (ih (hsame.symm.trans tracked))
  | @restore s hs id' callback ih =>
    rw [after_restore, tracker_alter] at tracked
    exact allocated_alter.mpr (ih tracked)

end Session
end UsbHost
