import UsbHost.Session.Devices
import UsbHost.Session.Events

/-! # What a call leaves alone

A session program may fail halfway, and what it changed until then stays.  So a
relation between sessions is shown to hold from before a program to after it
whatever the result is (`Keeps`), by going through the program's parts.

Most calls never touch a transfer or a tracker.  They are gone through once, for
every relation that allows what they do: handles are opened and closed, and the
platform changes as it does for calls that start no transfer (`Neutral`).  For
the calls that remain it is said which change of the transfers and trackers such
a relation has to allow.
-/
namespace UsbHost
namespace Session

variable {σ κ α β : Type}

/-- The session a program ends in, whether it comes to its result or fails. -/
def after (x : SessionM σ κ α) (s : Session σ κ) : Session σ κ := (x.run.run s).2

/-- What a program comes to. -/
def result (x : SessionM σ κ α) (s : Session σ κ) : Except Failure α := (x.run.run s).1

/-- A program takes every session to one to which `R` relates it. -/
def Keeps (R : Session σ κ → Session σ κ → Prop) (x : SessionM σ κ α) : Prop :=
  ∀ s, R s (after x s)

/-! ## Programs by their parts -/

section Run
variable {S : Type} (s : S)

/-- A program over any state goes on from where its first part ended, unless that fails. -/
theorem run_bind (x : ExceptT Failure (StateM S) α) (f : α → ExceptT Failure (StateM S) β) :
    (x >>= f).run.run s =
      match x.run.run s with
      | (.ok a, s') => (f a).run.run s'
      | (.error e, s') => (.error e, s') := by
  have hparts : (x >>= f).run.run s =
      (ExceptT.bindCont f (x.run.run s).1).run (x.run.run s).2 := rfl
  rw [hparts]
  rcases x.run.run s with ⟨a | e, s'⟩ <;> rfl

variable {s} in
theorem run_bind_of_run {x : ExceptT Failure (StateM S) α} {a : α} {s' : S}
    (h : x.run.run s = (.ok a, s')) (f : α → ExceptT Failure (StateM S) β) :
    (x >>= f).run.run s = (f a).run.run s' := by
  rw [run_bind, h]

end Run

section Parts
variable (s : Session σ κ)

variable {s} in
theorem run_bind_of_ok {x : SessionM σ κ α} {a : α} (h : result x s = .ok a)
    (f : α → SessionM σ κ β) : (x >>= f).run.run s = (f a).run.run (after x s) :=
  run_bind_of_run (Prod.ext h rfl) f

theorem after_bind (x : SessionM σ κ α) (f : α → SessionM σ κ β) :
    after (x >>= f) s =
      match result x s with
      | .ok a => after (f a) (after x s)
      | .error _ => after x s := by
  unfold after result
  rw [run_bind]
  rcases x.run.run s with ⟨a | a, s'⟩ <;> rfl

theorem result_bind (x : SessionM σ κ α) (f : α → SessionM σ κ β) :
    result (x >>= f) s =
      match result x s with
      | .ok a => result (f a) (after x s)
      | .error e => .error e := by
  unfold after result
  rw [run_bind]
  rcases x.run.run s with ⟨a | a, s'⟩ <;> rfl

@[simp] theorem after_map (x : SessionM σ κ α) (f : α → β) : after (f <$> x) s = after x s := by
  rw [map_eq_pure_bind, after_bind]
  cases result x s <;> rfl

@[simp] theorem result_map (x : SessionM σ κ α) (f : α → β) :
    result (f <$> x) s = (result x s).map f := by
  rw [map_eq_pure_bind, result_bind]
  cases result x s <;> rfl

@[simp] theorem after_discard (x : SessionM σ κ α) : after (discard x) s = after x s := by
  rw [Functor.discard, map_const]
  exact after_map s x _

@[simp] theorem result_discard (x : SessionM σ κ α) :
    result (discard x) s = (result x s).map fun _ => () := by
  rw [Functor.discard, map_const]
  exact result_map s x _

@[simp] theorem after_pure (a : α) : after (pure a) s = s := rfl

@[simp] theorem after_throw (e : Failure) : after (throw e : SessionM σ κ α) s = s := rfl

@[simp] theorem after_get : after (get : SessionM σ κ _) s = s := rfl

@[simp] theorem after_modify (f : Session σ κ → Session σ κ) : after (modify f) s = f s := rfl

@[simp] theorem after_note (n : Notice) :
    after (note n) s = { s with notices := n :: s.notices } := rfl

@[simp] theorem result_pure (a : α) : result (pure a) s = .ok a := rfl

theorem after_onPlatform (action : StateM σ α) :
    after (onPlatform action : SessionM σ κ α) s =
      { s with platform := (action.run s.platform).2 } := rfl

@[simp] theorem result_throw (e : Failure) :
    result (throw e : SessionM σ κ α) s = .error e := rfl

theorem result_onPlatform (action : StateM σ α) :
    result (onPlatform action : SessionM σ κ α) s = .ok (action.run s.platform).1 := rfl

@[simp] theorem result_get : result (get : SessionM σ κ _) s = .ok s := rfl

@[simp] theorem result_modify (f : Session σ κ → Session σ κ) : result (modify f) s = .ok () := rfl

@[simp] theorem result_note (n : Notice) : result (note n) s = .ok () := rfl

theorem result_reach (c : ContextId) : result (reach c) s = .ok () := by
  cases c <;> cases h : s.defaultTracker <;> simp [reach, result_bind, h, Except.map]

section Track
variable {s} {c : ContextId} {op : Tracker.Op} {reply : Tracker.Reply} {t : Tracker}

theorem after_track (h : (s.tracker c).step op = .ok (reply, t)) :
    after (track c op) s =
      { setTracker c t s with notices := .tracked reply :: (setTracker c t s).notices } := by
  simp [track, after_bind, h]

theorem result_track (h : (s.tracker c).step op = .ok (reply, t)) :
    result (track c op) s = .ok reply := by
  simp [track, result_bind, h, Except.map]

theorem after_track_of_fault {fault : Fault} (h : (s.tracker c).step op = .error fault) :
    after (track c op) s = s := by
  simp [track, after_bind, h]

theorem result_track_of_fault {fault : Fault} (h : (s.tracker c).step op = .error fault) :
    result (track c op) s = .error (.fault fault) := by
  simp [track, result_bind, h]

end Track

end Parts

theorem Keeps.discard {R : Session σ κ → Session σ κ → Prop} {x : SessionM σ κ α}
    (hx : Keeps R x) : Keeps R (discard x) := by
  intro s
  rw [after_discard]
  exact hx s

/-! ## Neutral relations -/

/-- What a platform does for calls that start no transfer takes it from one state
to another to which `P` relates it. -/
structure Respects [Platform σ] (P : σ → σ → Prop) : Prop where
  getDevices : ∀ p, P p ((Platform.getDevices (σ := σ)).run p).2
  getConfigurations : ∀ device p, P p ((Platform.getConfigurations (σ := σ) device).run p).2
  openDevice : ∀ device p, P p ((Platform.openDevice (σ := σ) device).run p).2
  closeDevice : ∀ connection p, P p ((Platform.closeDevice (σ := σ) connection).run p).2
  claimInterface : ∀ connection number p,
    P p ((Platform.claimInterface (σ := σ) connection number).run p).2
  releaseInterface : ∀ connection number p,
    P p ((Platform.releaseInterface (σ := σ) connection number).run p).2
  resetDevice : ∀ connection p, P p ((Platform.resetDevice (σ := σ) connection).run p).2
  transfer : ∀ connection request p,
    P p ((Platform.transfer (σ := σ) connection request).run p).2

/-- Any change of the platform. -/
def AnyChange (_ _ : σ) : Prop := True

theorem respects_anyChange [Platform σ] : Respects (AnyChange (σ := σ)) := by
  constructor <;> intros <;> trivial

/-- `R` allows what calls do that open no handle: making contexts, allocating
transfers, closing handles, and changes of the platform by `P`. -/
structure Still (P : σ → σ → Prop) (R : Session σ κ → Session σ κ → Prop) : Prop where
  refl : ∀ s, R s s
  trans : ∀ {s s' s''}, R s s' → R s' s'' → R s s''
  platform : ∀ s p, P s.platform p → R s { s with platform := p }
  notices : ∀ s ns, R s { s with notices := ns }
  devices : ∀ s ds, R s { s with devices := ds }
  closed : ∀ s i, R s
    { s with handles := s.handles.modify i fun handle => { handle with closed := true } }
  reached : ∀ s, s.defaultTracker = none → R s { s with defaultTracker := some {} }
  context : ∀ s, R s { s with trackers := s.trackers ++ [{}] }
  allocated : ∀ s, R s { s with transfers := s.transfers ++ [{}] }

/-- `R` does not look at anything but the trackers that were made, the transfers
that were allocated, the handles that were opened, and changes of the platform
other than by `P`. -/
structure Neutral (P : σ → σ → Prop) (R : Session σ κ → Session σ κ → Prop) : Prop
    extends Still P R where
  opened : ∀ s handle, R s { s with handles := s.handles ++ [handle] }

namespace Still

variable {P : σ → σ → Prop} {R : Session σ κ → Session σ κ → Prop} (hR : Still P R)

include hR

theorem pure (a : α) : Keeps R (pure a : SessionM σ κ α) := hR.refl

theorem throw (e : Failure) : Keeps R (throw e : SessionM σ κ α) := hR.refl

theorem get : Keeps R (get : SessionM σ κ _) := hR.refl

theorem note (n : Notice) : Keeps R (note n) := fun s => hR.notices s _

theorem bind {x : SessionM σ κ α} {f : α → SessionM σ κ β} (hx : Keeps R x)
    (hf : ∀ a, Keeps R (f a)) : Keeps R (x >>= f) := by
  intro s
  rw [after_bind]
  cases result x s with
  | ok a => exact hR.trans (hx s) (hf a _)
  | error e => exact hx s

theorem onPlatform {action : StateM σ α} (h : ∀ p, P p (action.run p).2) :
    Keeps R (onPlatform action) :=
  fun s => hR.platform s _ (h _)

theorem check (operation : Operation) (outcome : Outcome α) :
    Keeps R (check operation outcome) := by
  unfold Session.check
  split
  · exact hR.pure _
  · exact hR.bind (hR.note _) fun _ => hR.throw _

theorem reach (c : ContextId) : Keeps R (reach c) := by
  intro s
  cases c with
  | explicit index => exact hR.refl s
  | default =>
    cases hd : s.defaultTracker with
    | some t =>
      have hs : after (Session.reach .default) s = s := by
        simp [Session.reach, after_bind, hd]
      rw [hs]
      exact hR.refl s
    | none =>
      have hs : after (Session.reach .default) s =
          { s with notices := .defaultContextCreated :: s.notices, defaultTracker := some {} } := by
        simp [Session.reach, after_bind, hd]
      have hnoted := hR.notices s (.defaultContextCreated :: s.notices)
      rw [hs]
      exact hR.trans hnoted (hR.reached { s with notices := _ } hd)

theorem newContext : Keeps R newContext := hR.context

/-! ## Devices and handles -/

theorem setReferences (d : DeviceKey) (n : Nat) (s : Session σ κ) : R s (s.setReferences d n) :=
  hR.devices s _

theorem refDevice (d : DeviceKey) : Keeps R (refDevice d) := by
  intro s
  rw [Session.refDevice, after_modify]
  cases s.device? d with
  | some device => exact hR.setReferences ..
  | none => exact hR.refl s

theorem unrefDevice (d : DeviceKey) : Keeps R (unrefDevice d) := by
  refine hR.bind hR.get fun s => ?_
  split
  · exact hR.pure _
  · split
    · exact hR.throw _
    · exact fun s' => hR.setReferences d _ s'

theorem forM {f : β → SessionM σ κ PUnit} (hf : ∀ b, Keeps R (f b)) (bs : List β) :
    Keeps R (bs.forM f) := by
  induction bs with
  | nil => exact hR.pure _
  | cons b bs ih =>
    exact hR.bind (hf b) fun _ => ih

theorem freeDeviceList (ds : List DeviceKey) (unref : Bool) :
    Keeps R (freeDeviceList ds unref) := by
  unfold Session.freeDeviceList
  split
  · exact hR.forM hR.unrefDevice ds
  · exact hR.pure _

section Platform
variable [Platform σ] (hP : Respects P)

include hP

theorem listDevices (c : ContextId) : Keeps R (listDevices c) := by
  refine hR.bind (hR.onPlatform hP.getDevices) fun outcome =>
    hR.bind (hR.check _ _) fun records => ?_
  exact hR.bind (hR.note _) fun _ s => hR.devices s _

theorem activeConfig (device : Device) : Keeps R (activeConfig device) := by
  refine hR.bind (hR.onPlatform (hP.getConfigurations _)) fun outcome =>
    hR.bind (hR.check _ _) fun records => ?_
  split
  · exact hR.throw _
  · exact hR.pure _
  · exact hR.bind (hR.note _) fun _ => hR.throw _

theorem openDevice (d : DeviceKey) (device : Device)
    (hopened : ∀ s handle, handle.context = device.context →
      R s { s with handles := s.handles ++ [handle] }) :
    Keeps R (openDevice d device) := by
  refine hR.bind (hR.onPlatform (hP.openDevice _)) fun outcome =>
    hR.bind (hR.check _ _) fun connection => ?_
  exact hR.bind (hR.note _) fun _ s => hopened s _ rfl

theorem closeDevice (h : HandleKey) (handle : Handle) : Keeps R (closeDevice h handle) := by
  have close : Keeps R (do
      modify fun s => { s with
        handles := s.handles.modify h.index fun handle => { handle with closed := true } }
      let outcome ← Session.onPlatform (Platform.closeDevice handle.connection)
      unless outcome.isSuccessful do
        Session.note (.closeFailed handle.connection outcome.message)) := by
    refine hR.bind (fun s => hR.closed s _) fun _ =>
      hR.bind (hR.onPlatform (hP.closeDevice _)) fun outcome => ?_
    split
    · exact hR.pure _
    · exact hR.note _
  unfold Session.closeDevice
  split
  · exact hR.bind (hR.throw _) fun _ => close
  · exact close

theorem claimInterface (handle : Handle) (number : UInt8) :
    Keeps R (claimInterface handle number) :=
  hR.bind (hR.onPlatform (hP.claimInterface _ _)) fun _ => hR.check _ _

theorem releaseInterface (handle : Handle) (number : UInt8) :
    Keeps R (releaseInterface handle number) :=
  hR.bind (hR.onPlatform (hP.releaseInterface _ _)) fun _ => hR.check _ _

theorem resetDevice (handle : Handle) : Keeps R (resetDevice handle) :=
  hR.bind (hR.onPlatform (hP.resetDevice _)) fun _ => hR.check _ _

/-! ## Transfers without a tracker -/

theorem runSync (operation : Operation) (handle : Handle) (request : TransferRequest)
    (data : List UInt8) : Keeps R (runSync operation handle request data) := by
  refine hR.bind (hR.onPlatform (hP.transfer _ _)) fun outcome => ?_
  split
  · exact hR.pure _
  · exact hR.bind (hR.note _) fun _ => hR.pure _

theorem controlTransfer (handle : Handle) (requestType request : UInt8) (value index : UInt16)
    (data : List UInt8) (timeout : UInt32) :
    Keeps R (controlTransfer handle requestType request value index data timeout) := by
  unfold Session.controlTransfer
  split
  · exact hR.bind (hR.note _) fun _ => hR.runSync hP _ _ _ _
  · exact hR.pure _

theorem bulkTransfer (handle : Handle) (endpoint : UInt8) (data : List UInt8) (timeout : UInt32) :
    Keeps R (bulkTransfer handle endpoint data timeout) :=
  hR.bind (hR.note _) fun _ => hR.runSync hP _ _ _ _

theorem interruptTransfer (handle : Handle) (endpoint : UInt8) (data : List UInt8)
    (timeout : UInt32) : Keeps R (interruptTransfer handle endpoint data timeout) :=
  hR.bind (hR.note _) fun _ => hR.runSync hP _ _ _ _

end Platform

/-! ## Transfers with a tracker -/

theorem allocTransfer (packets : Nat) : Keeps R (allocTransfer packets) := by
  have alloc : Keeps R (modifyGet fun s =>
      ((⟨s.transfers.length + 1⟩ : TransferId), { s with transfers := s.transfers ++ [{}] })) :=
    hR.allocated
  unfold Session.allocTransfer
  split
  · exact hR.bind (hR.note _) fun _ => hR.bind (hR.throw _) fun _ => alloc
  · exact alloc

theorem track {c : ContextId} {op : Tracker.Op}
    (hop : ∀ s reply t, (s.tracker c).step op = .ok (reply, t) → R s (setTracker c t s)) :
    Keeps R (track c op) := by
  intro s
  cases hs : (s.tracker c).step op with
  | error fault =>
    rw [after_track_of_fault hs]
    exact hR.refl s
  | ok p =>
    rw [after_track hs]
    exact hR.trans (hop s p.1 p.2 hs) (hR.notices _ _)

theorem deliver {ticket : Ticket} {outcome : TransferOutcome}
    (hop : ∀ s reply t, (s.tracker ticket.context).step (.deliver ticket.submission outcome) =
      .ok (reply, t) → R s (setTracker ticket.context t s)) :
    Keeps R (deliver ticket outcome) :=
  (hR.track hop).discard

theorem cancel {id : TransferId}
    (hop : ∀ s c reply t, (s.tracker c).step (.cancel id) = .ok (reply, t) →
      R s (setTracker c t s)) :
    Keeps R (cancel id) := by
  refine hR.bind hR.get fun s => ?_
  split
  · refine hR.bind (hR.reach _) fun _ => hR.bind (hR.track fun s => hop s _) fun reply => ?_
    split
    · exact hR.note _
    · exact hR.throw _
  · exact hR.throw _

theorem free {id : TransferId}
    (hremove : ∀ s c reply t, (s.tracker c).step (.remove id) = .ok (reply, t) →
      R s (setTracker c t s))
    (hrelease : ∀ s, R s (s.alter id fun _ => (s.transfer id).release.2)) :
    Keeps R (free id) := by
  refine hR.bind hR.get fun s => ?_
  split
  · refine hR.bind (hR.reach _) fun _ => ?_
    exact hR.bind (hR.track fun s => hremove s _).discard fun _ => hrelease
  · exact hrelease

theorem submit [Platform σ] {id : TransferId}
    (hstart : ∀ connection request ticket p,
      P p ((Platform.startTransfer (σ := σ) connection request ticket).run p).2)
    (hcount : ∀ s, R s (s.alter id fun t => { t with count := 0 }))
    (hregister : ∀ s c reply t, (s.tracker c).step (.register id) = .ok (reply, t) →
      R s (setTracker c t s))
    (hdeliver : ∀ s c submission outcome reply t,
      (s.tracker c).step (.deliver submission outcome) = .ok (reply, t) →
      R s (setTracker c t s)) :
    Keeps R (submit id) := by
  refine hR.bind hR.get fun s => hR.bind hR.get fun s => ?_
  split
  · split
    · exact hR.bind (hR.note _) fun _ => hR.throw _
    · refine hR.bind hcount fun _ => hR.bind (hR.reach _) fun _ => ?_
      refine hR.bind (hR.track fun s => hregister s _) fun reply => ?_
      split
      · refine hR.bind (hR.note _) fun _ =>
          hR.bind (hR.onPlatform (hstart _ _ _)) fun outcome => ?_
        split
        · exact hR.deliver fun s => hdeliver s _ _ _
        · exact hR.pure _
      · exact hR.pure _
  · exact hR.throw _

end Still

theorem Neutral.openDevice [Platform σ] {P : σ → σ → Prop}
    {R : Session σ κ → Session σ κ → Prop} (hR : Neutral P R) (hP : Respects P) (d : DeviceKey)
    (device : Device) : Keeps R (openDevice d device) :=
  hR.toStill.openDevice hP d device fun s handle _ => hR.opened s handle

end Session
end UsbHost
