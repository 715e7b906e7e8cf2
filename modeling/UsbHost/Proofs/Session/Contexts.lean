import UsbHost.Proofs.Session.Results

/-! # The contexts of handles

A handle is of the context of its device, and a device is opened in a context that
was made.  Contexts are never taken away, so in every session that can be reached
the contexts of all handles are there (`Reached.made`): a transfer with a handle
always has a tracker to be submitted to.
-/
namespace UsbHost
namespace Session

variable {σ κ : Type} {K : ContextId → Prop} {s s' : Session σ κ} {c : ContextId}

/-- The contexts of all handles were made. -/
def Made (s : Session σ κ) : Prop := ∀ handle ∈ s.handles, s.HasContext handle.context

/-- Contexts stay, and handles are added in contexts of `K` only. -/
structure Within (K : ContextId → Prop) (s s' : Session σ κ) : Prop where
  contexts : ∀ c, s.HasContext c → s'.HasContext c
  handles : ∀ handle ∈ s'.handles,
    K handle.context ∨ ∃ handle' ∈ s.handles, handle'.context = handle.context

theorem Made.within (made : s.Made) (h : Within K s s') (hK : ∀ c, K c → s.HasContext c) :
    s'.Made := by
  intro handle hhandle
  rcases h.handles handle hhandle with hnew | ⟨handle', hold, hcontext⟩
  · exact h.contexts _ (hK _ hnew)
  · exact hcontext ▸ h.contexts _ (made handle' hold)

namespace Within

theorem of_handles (hhandles : s'.handles = s.handles)
    (hcontexts : ∀ c, s.HasContext c → s'.HasContext c) : Within K s s' :=
  ⟨hcontexts, fun handle h => .inr ⟨handle, hhandles ▸ h, rfl⟩⟩

theorem of_plain {s'' : Session σ κ} (h : Within K s s'') (hplain : s'.plain = s''.plain) :
    Within K s s' := by
  have hhandles : s'.handles = s''.handles := by
    show s'.plain.handles = s''.plain.handles
    rw [hplain]
  refine ⟨fun c hc => ?_, fun handle hmem => h.handles handle (hhandles ▸ hmem)⟩
  rw [← hasContext_plain, hplain, hasContext_plain]
  exact h.contexts c hc

theorem setTracker (c : ContextId) (t : Tracker) (s : Session σ κ) :
    Within K s (Session.setTracker c t s) :=
  of_handles (handles_setTracker ..) fun _ => hasContext_setTracker.mpr

theorem alter (id : TransferId) (f : Transfer κ → Transfer κ) (s : Session σ κ) :
    Within K s (s.alter id f) :=
  of_handles (handles_alter ..) fun _ => hasContext_alter.mpr

end Within

theorem still_within : Still AnyChange (Within (σ := σ) (κ := κ) K) where
  refl _ := .of_handles rfl fun _ h => h
  trans h h' := by
    refine ⟨fun c hc => h'.contexts c (h.contexts c hc), fun handle hhandle => ?_⟩
    rcases h'.handles handle hhandle with hnew | ⟨handle', hhandle', hcontext⟩
    · exact .inl hnew
    · exact hcontext ▸ h.handles handle' hhandle'
  platform _ _ _ := .of_handles rfl fun _ h => h
  notices _ _ := .of_handles rfl fun _ h => h
  devices _ _ := .of_handles rfl fun _ h => h
  closed s i := by
    -- Closing a handle leaves its context as it is.
    refine ⟨fun _ h => h, fun handle hhandle => .inr ?_⟩
    obtain ⟨j, hj⟩ := List.mem_iff_getElem?.mp hhandle
    rw [List.getElem?_modify] at hj
    obtain ⟨handle', hhandle', heq⟩ := Option.map_eq_some_iff.mp hj
    refine ⟨handle', List.mem_of_getElem? hhandle', ?_⟩
    rw [← heq]
    split <;> rfl
  reached _ _ := .of_handles rfl fun c h => by cases c <;> exact h
  context s := by
    refine .of_handles rfl fun c h => ?_
    cases c with
    | default => trivial
    | explicit index =>
      have hlt : index < s.trackers.length := h
      show index < (s.trackers ++ [({} : Tracker)]).length
      rw [List.length_append]
      omega
  allocated _ := .of_handles rfl fun _ h => h

variable [Platform σ]

/-- Only opening a device makes a handle, in the context of the device. -/
theorem within_call (call : Call σ κ) (s : Session σ κ) :
    Within (fun c => ∃ key device, call = .openDevice key device ∧ device.context = c) s
      (after call.run s) := by
  induction call using Call.byOpening with
  | still call named keeps => exact keeps _ _ respects_anyChange still_within s
  | openDevice key device =>
    refine (still_within.openDevice respects_anyChange key device fun s handle h => ?_).discard s
    refine ⟨fun _ h => h, fun handle' hmem => ?_⟩
    rcases List.mem_append.mp hmem with hold | hnew
    · exact .inr ⟨handle', hold, rfl⟩
    · rw [List.mem_singleton.mp hnew]
      exact .inl ⟨key, device, rfl, h.symm⟩
  | platform change => exact still_within.platform s _ trivial
  | deliver ticket outcome => exact still_within.deliver (fun s _ t _ => .setTracker _ t s) s
  | fillControl id | fillData id | assign id => exact .alter id _ s
  | submit id =>
    exact still_within.submit (fun _ _ _ _ => trivial) (fun s => .alter id _ s)
      (fun s c _ t _ => .setTracker c t s) (fun s c _ _ _ t _ => .setTracker c t s) s
  | cancel id => exact still_within.cancel (fun s c _ t _ => .setTracker c t s) s
  | free id =>
    exact (still_within.free (fun s c _ t _ => .setTracker c t s)
      fun s => .alter id _ s).discard s

/-- **What each step of handling events preserves is preserved by handling them**, if
callbacks preserve it too. -/
theorem handleEvents_induction {Q : Session σ κ → Prop} {c : ContextId}
    {run : TransferId → Callback κ → SessionM σ κ Unit}
    (hpoll : ∀ s, Q s → Q (after (EventLoop.poll c) s))
    (hfinish : ∀ id outcome s, Q s → Q (after (finish id outcome) s))
    (hrestore : ∀ id callback s, Q s → Q (after (restore id callback) s))
    (hfree : ∀ id s, Q s → Q (after (free id) s))
    (hrun : ∀ id callback s, Q s → Q (after (run id callback) s)) (hs : Q s) :
    Q (after (handleEvents (σ := σ) run c) s) := by
  have hsettle : ∀ id callback s, Q s → Q (after (settle id callback) s) := by
    intro id callback s hs
    have hrestored := hrestore id callback s hs
    rw [settle, after_bind, result_restore]
    dsimp only
    split
    · rw [after_discard]
      exact hfree id _ hrestored
    · exact hrestored
  have hfinal : Q (after (finalize c) s) := by
    rw [finalize, after_bind, EventLoop.result_poll]
    cases (s.tracker c).extract.1 with
    | none => exact hpoll s hs
    | some found =>
      dsimp only
      rw [after_bind, result_finish]
      exact hfinish found.1 found.2 _ (hpoll s hs)
  rw [handleEvents_eq, after_bind]
  cases result (finalize c) s with
  | error e => exact hfinal
  | ok found =>
    rcases found with _ | ⟨id, _ | callback⟩
    · exact hfinal
    · exact hsettle id none _ hfinal
    · have hran := hrun id callback _ hfinal
      dsimp only
      rw [after_bind]
      cases result (run id callback) (after (finalize c) s) with
      | error e => exact hran
      | ok _ => exact hsettle id (some callback.called) _ hran

/-- **The sessions that can be reached**, by calls and by the steps in which events
are handled, of any number of threads.  A device is opened in a context that was
made. -/
inductive Reached : Session σ κ → Prop where
  | new (platform : σ) : Reached { platform }
  | call {s : Session σ κ} (hs : Reached s) (call : Call σ κ)
      (opens : ∀ key device, call = .openDevice key device → s.HasContext device.context) :
      Reached (after call.run s)
  | poll {s : Session σ κ} (hs : Reached s) (c : ContextId) :
      Reached (after (EventLoop.poll c) s)
  | finish {s : Session σ κ} (hs : Reached s) (id : TransferId) (outcome : TransferOutcome) :
      Reached (after (finish id outcome) s)
  | restore {s : Session σ κ} (hs : Reached s) (id : TransferId)
      (callback : Option (Callback κ)) : Reached (after (restore id callback) s)

/-- Handling events leads to sessions that can be reached, if callbacks do. -/
theorem Reached.handleEvents {run : TransferId → Callback κ → SessionM σ κ Unit}
    (hrun : ∀ id callback s, s.Reached → (after (run id callback) s).Reached)
    (reached : s.Reached) (c : ContextId) :
    (after (handleEvents (σ := σ) run c) s).Reached :=
  handleEvents_induction (fun _ hs => .poll hs c) (fun id outcome _ hs => .finish hs id outcome)
    (fun id callback _ hs => .restore hs id callback)
    (fun id s hs => Call.after_free id s ▸ hs.call (.free id) nofun) hrun reached

/-- **The contexts of all handles are there.** -/
theorem Reached.made (reached : s.Reached) : s.Made := by
  induction reached with
  | new platform => exact nofun
  | @call s _ call opens ih =>
    refine ih.within (within_call call s) ?_
    rintro _ ⟨key, device, rfl, rfl⟩
    exact opens key device rfl
  | @poll s _ c ih =>
    have hplain := (plain_after_poll s c).trans (plain_setTracker ..).symm
    exact ih.within (K := fun _ => False) ((Within.setTracker ..).of_plain hplain) nofun
  | @finish s _ id outcome ih =>
    have hplain := (plain_after_finish s id outcome).trans (plain_alter ..).symm
    exact ih.within (K := fun _ => False) ((Within.alter ..).of_plain hplain) nofun
  | @restore s _ id callback ih =>
    exact ih.within (K := fun _ => False) (Within.alter id _ s) nofun

theorem Reached.hasContext (reached : s.Reached) {key : HandleKey} {handle : Handle}
    (h : s.handle? key = some handle) : s.HasContext handle.context :=
  reached.made handle (List.mem_of_getElem? h)

end Session
end UsbHost
