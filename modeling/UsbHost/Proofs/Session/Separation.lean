import UsbHost.Platform.Scripted
import UsbHost.Proofs.Session.Indifference
import UsbHost.Proofs.Session.Moves
import UsbHost.Record.Sample

/-! # Contexts are kept apart

Every context has a tracker of its own, and what is done in one context does nothing to
the trackers of the others: a submission and a cancellation are of the context of the
transfer's handle, and an answer is of the context that its ticket names, whatever has
become of the transfer since.  So what is handled in a context are submissions that were
made in it (`Reaches.contexts_apart`).

The default context may be named or left out, which comes to the same in every call
(`resolve_bind`).
-/
namespace UsbHost
namespace Session
open Bench (answered finalized Cancelled)

variable {σ κ : Type} [Platform σ] {s : Session σ κ} {c d : ContextId} {h : List Bench.Entry}
  {run run' : TransferId → Callback κ → SessionM σ κ Unit} {id : TransferId}
  {outcome : TransferOutcome}

/-- The callbacks of a transfer make no calls, and do not ask for it to be freed. -/
structure Silent (run : TransferId → Callback κ → SessionM σ κ Unit) (id : TransferId) : Prop where
  trackers : ∀ callback s c, (after (run id callback) s).tracker c = s.tracker c
  flags : ∀ callback s, ((after (run id callback) s).transfer id).flags.contains .freeTransfer =
    (s.transfer id).flags.contains .freeTransfer

/-- Whatever was submitted of a transfer in a context has been finalized. -/
def Settled (h : List Bench.Entry) (c : ContextId) (id : TransferId) : Prop :=
  ∀ ticket ∈ Bench.submitted h, ticket.context = c → ticket.submission.transfer = id →
    ticket.submission ∈ finalized c h

/-! ## Events of another context -/

omit [Platform σ] in
theorem tracker_after_finalize_of_ne (hne : d ≠ c) :
    (after (finalize c) s).tracker d = s.tracker d := by
  rw [← tracker_plain]
  cases first : (s.tracker c).extract.1 with
  | none =>
    rw [plain_after_finalize_of_none first, tracker_setTracker_of_ne hne, tracker_plain]
  | some found =>
    obtain ⟨id, outcome⟩ := found
    rw [plain_after_finalize first, tracker_alter, tracker_setTracker_of_ne hne, tracker_plain]

omit [Platform σ] in
/-- Finalizing a transfer leaves its flags as they are. -/
theorem flags_after_finalize (first : (s.tracker c).extract.1 = some (id, outcome)) :
    ((after (finalize c) s).transfer id).flags = (s.transfer id).flags := by
  rw [← transfer_plain, plain_after_finalize first]
  refine (field_alter Transfer.flags fun _ => ?_).trans ?_
  · rw [transfer_setTracker, transfer_plain]
    cases outcome <;> rfl
  · rw [transfer_setTracker, transfer_plain]

/-- Handling events in a context leaves the trackers of the others as they are, unless a
callback makes calls or the transfer is freed. -/
theorem tracker_after_handleEvents_of_ne (hne : d ≠ c)
    (silent : ∀ id outcome, (s.tracker c).extract.1 = some (id, outcome) →
      (s.transfer id).flags.contains .freeTransfer = false ∧ Silent run id) :
    (after (handleEvents (σ := σ) run c) s).tracker d = s.tracker d := by
  have hfinal : (after (finalize c) s).tracker d = s.tracker d := tracker_after_finalize_of_ne hne
  rw [handleEvents_eq, after_bind]
  cases first : (s.tracker c).extract.1 with
  | none =>
    rw [result_finalize_of_none first]
    exact hfinal
  | some found =>
    obtain ⟨id, outcome⟩ := found
    obtain ⟨hkeep, silent⟩ := silent id outcome first
    rw [← flags_after_finalize first] at hkeep
    rw [result_finalize first]
    cases (s.transfer id).callback with
    | none =>
      dsimp only
      rw [after_settle_of_kept _ _ _ hkeep, tracker_alter, hfinal]
    | some callback =>
      have hran := (silent.trackers callback (after (finalize c) s) d).trans hfinal
      rw [← silent.flags callback] at hkeep
      dsimp only
      rw [after_bind]
      cases result (run id callback) (after (finalize c) s) with
      | error e => exact hran
      | ok _ =>
        dsimp only
        rw [after_settle_of_kept _ _ _ hkeep, tracker_alter, hran]

/-- The ticket of a submission names the context that the transfer's handle has then. -/
theorem context_of_launched (hc : s.contextOf? (s.transfer id) = some c) {ticket : Ticket}
    (hmem : ticket ∈ Bench.submitted (s.launched id)) : ticket.context = c := by
  rcases s.accepts_or_not_launched id with ⟨handle, request, accepts⟩ | ⟨hnone, -⟩
  · have hticket : ticket = s.nextTicket handle.context id := by
      rw [accepts.launched] at hmem
      cases hstart : (s.start id handle request).1 <;>
        simpa [hstart, Bench.submitted, Bench.Entry.ticket?] using hmem
    rw [hticket]
    exact Option.some.inj (accepts.contextOf.symm.trans hc)
  · rw [hnone] at hmem
    cases hmem

/-! ## Main result -/

/-- What is done in the context `c` does nothing to the tracker of `d`, and what is
handled in `d` are submissions that were made in `d`. -/
structure Apart (h : List Bench.Entry) (s : Session σ κ) (c d : ContextId) : Prop where
  /-- A submission to a device of `c` gets a ticket of `c`. -/
  submit : ∀ id, s.contextOf? (s.transfer id) = some c →
    (∀ ticket ∈ Bench.submitted (s.launched id), ticket.context = c) ∧
    (after (submit id) s).tracker d = s.tracker d
  /-- Whatever has become of its transfer, the answer to a submission made in `c`. -/
  deliver : ∀ ticket outcome, ticket.context = c →
    (after (deliver ticket outcome) s).tracker d = s.tracker d
  cancel : ∀ id, s.contextOf? (s.transfer id) = some c →
    (after (cancel id) s).tracker d = s.tracker d
  events : ∀ run : TransferId → Callback κ → SessionM σ κ Unit,
    (∀ id outcome, (s.tracker c).extract.1 = some (id, outcome) →
      (s.transfer id).flags.contains .freeTransfer = false ∧ Silent run id) →
    (after (handleEvents (σ := σ) run c) s).tracker d = s.tracker d
  /-- What is found in `d` was submitted in `d`, was not finalized before, and finishes as
  this submission was answered, or cancelled; of `c` nothing is finalized. -/
  found : ∀ id outcome, (s.tracker d).extract.1 = some (id, outcome) →
    (∃ submission : Submission, submission.transfer = id ∧
      ⟨d, submission⟩ ∈ Bench.submitted h ∧ submission ∉ finalized d h ∧
      finalized d (h ++ [.found d (some (id, outcome))]) = finalized d h ++ [submission] ∧
      (Cancelled h ⟨d, submission⟩ ∧ outcome = .canceled ∨
        (⟨d, submission⟩, outcome) ∈ answered h)) ∧
    finalized c (h ++ [.found d (some (id, outcome))]) = finalized c h
  /-- A transfer of which nothing else was submitted in `d` is not finalized, ... -/
  kept : ∀ id, Settled h d id → (after (finalize d) s).transfer? id = s.transfer? id
  /-- ... and its callback is not run: it does not matter what it does. -/
  unheard : ∀ run run' : TransferId → Callback κ → SessionM σ κ Unit,
    (∀ id, ¬ Settled h d id → run id = run' id) →
    (handleEvents (σ := σ) run d).run.run s = (handleEvents (σ := σ) run' d).run.run s

/-- **Contexts are kept apart**, in every session that can be reached; and a caller who
names no context and one who names the default context mean the same tracker, in every
call and when events are handled. -/
theorem Reaches.contexts_apart (reaches : Reaches Opens h s) (hne : c ≠ d) :
    Apart h s c d ∧
    ∀ name?, NamesDefault name? →
      (∀ call : ContextId → Call σ κ,
        result (do (call (← resolve name?)).run) s = result (call .default).run s ∧
        (after (do (call (← resolve name?)).run) s).plain = (after (call .default).run s).plain) ∧
      ∀ run : TransferId → Callback κ → SessionM σ κ Unit,
        (do handleEvents (σ := σ) run (← resolve name?)) = handleEvents (σ := σ) run .default := by
  have made := (reaches.reached fun _ _ opens => opens).made
  -- A move in one context leaves the trackers of all others alone.
  have moved : ∀ move : Move σ κ, move.context? s = some c →
      (after move.run s).tracker d = s.tracker d :=
    fun move hc => move.tracker_of_ne made fun hd => hne (Option.some.inj (hc.symm.trans hd))
  have found := fun id outcome (first : (s.tracker d).extract.1 = some (id, outcome)) =>
    Bench.submission_of_found (reaches.tracked (fun _ _ opens => opens) d) first
  -- What is found in `d` was submitted there, and this is what finalizes it.
  have unsettled : ∀ {id outcome}, (s.tracker d).extract.1 = some (id, outcome) →
      ¬ Settled h d id := by
    intro id outcome first settled
    obtain ⟨submission, hid, submitted, -, kept, -⟩ := found id outcome first
    exact kept (settled ⟨d, submission⟩ submitted rfl hid)
  refine ⟨?_, fun name? named => ⟨fun call => resolve_bind (call .default).indifferent named s,
    fun run => resolve_bind_handleEvents named run⟩⟩
  constructor
  case submit =>
    exact fun id hc =>
      ⟨fun ticket hmem => context_of_launched hc hmem, moved (.call (.submit id)) hc⟩
  case deliver =>
    exact fun ticket outcome hc => moved (.call (.deliver ticket outcome)) (congrArg some hc)
  case cancel => exact fun id hc => moved (.call (.cancel id)) hc
  case events => exact fun run silent => tracker_after_handleEvents_of_ne (Ne.symm hne) silent
  case found =>
    intro id outcome first
    obtain ⟨submission, hid, submitted, finished, kept, hfinalized⟩ := found id outcome first
    refine ⟨⟨submission, hid, submitted, kept, hfinalized,
      Bench.cancelled_or_answered finished⟩, ?_⟩
    rw [finalized, Bench.events_snoc, Bench.Entry.eventIn_eq_none rfl (Ne.symm hne),
      Option.toList_none, List.append_nil, ← finalized]
  case kept =>
    intro id settled
    cases first : (s.tracker d).extract.1 with
    | none =>
      rw [← transfer?_plain, plain_after_finalize_of_none first, transfer?_setTracker,
        transfer?_plain]
    | some found =>
      obtain ⟨id', outcome⟩ := found
      refine transfer?_after_finalize_of_ne first ?_
      rintro rfl
      exact unsettled first settled
  case unheard =>
    intro run run' same
    rw [handleEvents_eq, handleEvents_eq]
    cases first : (s.tracker d).extract.1 with
    | none =>
      rw [run_bind_of_ok (result_finalize_of_none first),
        run_bind_of_ok (result_finalize_of_none first)]
    | some found =>
      obtain ⟨id, outcome⟩ := found
      rw [run_bind_of_ok (result_finalize first), run_bind_of_ok (result_finalize first)]
      cases (s.transfer id).callback with
      | none => rfl
      | some callback =>
        dsimp only
        rw [same id (unsettled first)]

/-- A transfer is submitted in a context, and is given a handle of the default one before
it is answered.  The default context knows nothing of it, and runs no callback. -/
theorem contexts_apart_moved :
    ∃ (h : List Bench.Entry) (s : Session ScriptedPlatform Unit), Reaches Opens h s ∧
      s.contextOf? (s.transfer ⟨1⟩) = some .default ∧
      (s.tracker (.explicit 0)).isPending ⟨1⟩ = true ∧
      (∀ outcome, (after (deliver ⟨.explicit 0, ⟨⟨1⟩, 1⟩⟩ outcome) s).tracker .default =
        s.tracker .default) ∧
      ∀ run run' : TransferId → Callback Unit → SessionM ScriptedPlatform Unit Unit,
        (handleEvents (σ := ScriptedPlatform) run .default).run.run s =
          (handleEvents (σ := ScriptedPlatform) run' .default).run.run s := by
  have opened := (((Reaches.new (P := Opens) (κ := Unit) ({} : ScriptedPlatform)).call
    .newContext nofun).call
    (.openDevice ⟨0⟩ ⟨.explicit 0, Sample.device 1 0x1000 0x2000, 1⟩)
      (by rintro _ _ ⟨⟩; exact Nat.one_pos)).call
    (.openDevice ⟨0⟩ ⟨.default, Sample.device 1 0x1000 0x2000, 1⟩) (by rintro _ _ ⟨⟩; trivial)
  have submitted := ((opened.call (.allocTransfer 0) nofun).call
    (.fillData ⟨1⟩ .bulk ⟨0⟩ 0x81 [] {} 0) nofun).call (.submit ⟨1⟩) nofun
  have moved := submitted.call (.assign ⟨1⟩ (.handle (some ⟨1⟩))) nofun
  have apart := (moved.contexts_apart (c := .explicit 0) (d := .default) nofun).1
  refine ⟨_, _, moved, rfl, rfl, fun outcome => apart.deliver _ outcome rfl, fun run run' => ?_⟩
  refine apart.unheard run run' fun id unsettled => absurd ?_ unsettled
  -- The only submission was made in the other context.
  intro ticket hmem hc
  have honly : ticket = ⟨.explicit 0, ⟨⟨1⟩, 1⟩⟩ := List.mem_singleton.mp hmem
  rw [honly] at hc
  cases hc

end Session
end UsbHost
