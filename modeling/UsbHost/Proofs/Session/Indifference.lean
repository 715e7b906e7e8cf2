import UsbHost.Proofs.Session.Results

/-! # What calls do not look at

No call looks at the notices, nor at whether the default context has been used yet
(`Call.indifferent`).  So it makes no difference whether a caller names no context, which
makes the default one when it is needed, or has asked for the default one before and
names it (`resolve_bind`).
-/
namespace UsbHost
namespace Session

variable {σ κ α β : Type}

/-- The program comes to the same, and does the same, whatever has been noticed, and
whether the default context has been used or not. -/
def Indifferent (x : SessionM σ κ α) : Prop :=
  ∀ s, result x s.plain = result x s ∧ (after x s.plain).plain = (after x s).plain

/-- Sessions that only differ in this are the same to an indifferent program. -/
theorem Indifferent.congr {x : SessionM σ κ α} (hx : Indifferent x) {s s' : Session σ κ}
    (h : s'.plain = s.plain) :
    result x s' = result x s ∧ (after x s').plain = (after x s).plain := by
  rw [← (hx s').1, ← (hx s').2, h, (hx s).1, (hx s).2]
  exact ⟨rfl, rfl⟩

namespace Indifferent

theorem pure (a : α) : Indifferent (Pure.pure a : SessionM σ κ α) := fun _ => ⟨rfl, rfl⟩

theorem throw (e : Failure) : Indifferent (MonadExcept.throw e : SessionM σ κ α) :=
  fun _ => ⟨rfl, rfl⟩

theorem note (n : Notice) : Indifferent (note n : SessionM σ κ Unit) := fun _ => ⟨rfl, rfl⟩

theorem bind {x : SessionM σ κ α} {f : α → SessionM σ κ β} (hx : Indifferent x)
    (hf : ∀ a, Indifferent (f a)) : Indifferent (x >>= f) := by
  intro s
  obtain ⟨hresult, hafter⟩ := hx s
  rw [result_bind, result_bind, after_bind, after_bind, hresult]
  cases result x s with
  | error e => exact ⟨rfl, hafter⟩
  | ok a => exact (hf a).congr hafter

/-- A program may look at everything but what is left out of account. -/
theorem get_bind {f : Session σ κ → SessionM σ κ α} (hsame : ∀ s, f s.plain = f s)
    (hf : ∀ s, Indifferent (f s)) : Indifferent (get >>= f) := by
  intro s
  have hrun : (get >>= f).run.run s.plain = (f s).run.run s.plain := by
    rw [run_bind_of_ok (result_get _), after_get, hsame]
  exact ⟨(congrArg Prod.fst hrun).trans (hf s s).1,
    (congrArg (fun p => p.2.plain) hrun).trans (hf s s).2⟩

theorem change {g : Session σ κ → Session σ κ} (hg : ∀ s, (g s.plain).plain = (g s).plain) :
    Indifferent (modify g : SessionM σ κ PUnit) := fun s => ⟨rfl, hg s⟩

theorem alter (id : TransferId) (f : Transfer κ → Transfer κ) :
    Indifferent (modify (Session.alter id f) : SessionM σ κ PUnit) :=
  change fun s => by rw [plain_alter, plain_alter]; rfl

theorem onPlatform (action : StateM σ α) : Indifferent (onPlatform action : SessionM σ κ α) :=
  fun _ => ⟨rfl, rfl⟩

theorem map {x : SessionM σ κ α} (hx : Indifferent x) (f : α → β) : Indifferent (f <$> x) := by
  rw [map_eq_pure_bind]
  exact hx.bind fun _ => .pure _

theorem discard {x : SessionM σ κ α} (hx : Indifferent x) : Indifferent (discard x) := by
  rw [Functor.discard, map_const]
  exact hx.map _

theorem check (operation : Operation) (outcome : Outcome α) :
    Indifferent (check operation outcome : SessionM σ κ α) := by
  unfold Session.check
  split
  · exact .pure _
  · exact (note _).bind fun _ => .throw _

theorem forM {f : β → SessionM σ κ PUnit} (hf : ∀ b, Indifferent (f b)) (bs : List β) :
    Indifferent (bs.forM f) := by
  induction bs with
  | nil => exact .pure _
  | cons b bs ih => exact (hf b).bind fun _ => ih

theorem reach (c : ContextId) : Indifferent (reach c : SessionM σ κ Unit) := by
  intro s
  rw [result_reach, result_reach, plain_after_reach, plain_after_reach]
  exact ⟨rfl, rfl⟩

theorem track (c : ContextId) (op : Tracker.Op) :
    Indifferent (track c op : SessionM σ κ Tracker.Reply) := by
  intro s
  have htracker : s.plain.tracker c = s.tracker c := tracker_plain ..
  cases h : (s.tracker c).step op with
  | error fault =>
    rw [result_track_of_fault h, result_track_of_fault (htracker.symm ▸ h),
      after_track_of_fault h, after_track_of_fault (htracker.symm ▸ h)]
    exact ⟨rfl, rfl⟩
  | ok p =>
    have h' : (s.plain.tracker c).step op = .ok (p.1, p.2) := htracker.symm ▸ h
    rw [result_track h, result_track h', plain_after_track h, plain_after_track h']
    exact ⟨rfl, rfl⟩

theorem deliver (ticket : Ticket) (outcome : TransferOutcome) :
    Indifferent (deliver ticket outcome : SessionM σ κ Unit) :=
  (track _ _).discard

theorem unrefDevice (d : DeviceKey) : Indifferent (unrefDevice d : SessionM σ κ Unit) := by
  refine get_bind (fun _ => rfl) fun s => ?_
  split
  · exact .pure _
  · split
    · exact .throw _
    · exact change fun _ => rfl

theorem freeDeviceList (ds : List DeviceKey) (unref : Bool) :
    Indifferent (freeDeviceList ds unref : SessionM σ κ Unit) := by
  unfold Session.freeDeviceList
  split
  · exact forM unrefDevice ds
  · exact .pure _

theorem cancel (id : TransferId) : Indifferent (cancel id : SessionM σ κ Unit) := by
  refine get_bind (fun _ => rfl) fun s => ?_
  split
  · refine (reach _).bind fun _ => (track _ _).bind fun reply => ?_
    split
    · exact note _
    · exact .throw _
  · exact .throw _

theorem free (id : TransferId) :
    Indifferent (free id : SessionM σ κ (Option (List UInt8))) := by
  have release : Indifferent (modifyGet fun s =>
      ((s.transfer id).release.1, s.alter id fun _ => (s.transfer id).release.2) :
      SessionM σ κ (Option (List UInt8))) := by
    refine fun s => ⟨rfl, ?_⟩
    change (s.plain.alter id _).plain = (s.alter id _).plain
    rw [plain_alter, plain_alter]
    rfl
  refine get_bind (fun _ => rfl) fun s => ?_
  split
  · exact (reach _).bind fun _ => (track _ _).discard.bind fun _ => release
  · exact release

theorem allocTransfer (packets : Nat) :
    Indifferent (allocTransfer packets : SessionM σ κ TransferId) := by
  have alloc : Indifferent (modifyGet fun s =>
      (⟨s.transfers.length + 1⟩, { s with transfers := s.transfers ++ [{}] }) :
      SessionM σ κ TransferId) := fun _ => ⟨rfl, rfl⟩
  unfold Session.allocTransfer
  split
  · exact (note _).bind fun _ => (Indifferent.throw _).bind fun _ => alloc
  · exact alloc

variable [Platform σ]

theorem listDevices (c : ContextId) :
    Indifferent (listDevices c : SessionM σ κ (List DeviceKey)) :=
  (onPlatform _).bind fun _ => (check _ _).bind fun _ => (note _).bind fun _ _ => ⟨rfl, rfl⟩

theorem activeConfig (device : Device) :
    Indifferent (activeConfig device : SessionM σ κ ConfigDescriptor) := by
  refine (onPlatform _).bind fun _ => (check _ _).bind fun _ => ?_
  split
  · exact .throw _
  · exact .pure _
  · exact (note _).bind fun _ => .throw _

theorem openDevice (d : DeviceKey) (device : Device) :
    Indifferent (openDevice d device : SessionM σ κ HandleKey) :=
  (onPlatform _).bind fun _ => (check _ _).bind fun _ => (note _).bind fun _ _ => ⟨rfl, rfl⟩

theorem closeDevice (h : HandleKey) (handle : Handle) :
    Indifferent (closeDevice h handle : SessionM σ κ Unit) := by
  have close : Indifferent (do
      modify fun s => { s with
        handles := s.handles.modify h.index fun handle => { handle with closed := true } }
      let outcome ← Session.onPlatform (Platform.closeDevice handle.connection)
      unless outcome.isSuccessful do
        Session.note (.closeFailed handle.connection outcome.message) : SessionM σ κ Unit) := by
    refine (change fun _ => rfl).bind fun _ => (onPlatform _).bind fun outcome => ?_
    split
    · exact .pure _
    · exact note _
  unfold Session.closeDevice
  split
  · exact (Indifferent.throw _).bind fun _ => close
  · exact close

theorem runSync (operation : Operation) (handle : Handle) (request : TransferRequest)
    (data : List UInt8) : Indifferent (runSync operation handle request data :
      SessionM σ κ (Except UsbError Nat × List UInt8)) := by
  refine (onPlatform _).bind fun outcome => ?_
  split
  · exact .pure _
  · exact (note _).bind fun _ => .pure _

theorem controlTransfer (handle : Handle) (requestType request : UInt8) (value index : UInt16)
    (data : List UInt8) (timeout : UInt32) :
    Indifferent (controlTransfer handle requestType request value index data timeout :
      SessionM σ κ (Except UsbError Nat × List UInt8)) := by
  unfold Session.controlTransfer
  split
  · exact (note _).bind fun _ => runSync _ _ _ _
  · exact .pure _

theorem submit (id : TransferId) : Indifferent (submit id : SessionM σ κ Unit) := by
  refine get_bind (fun _ => rfl) fun s => get_bind (fun _ => rfl) fun s => ?_
  split
  · split
    · exact (note _).bind fun _ => .throw _
    · refine (alter id _).bind fun _ => (reach _).bind fun _ => (track _ _).bind fun reply => ?_
      split
      · refine (note _).bind fun _ => (onPlatform _).bind fun outcome => ?_
        split
        · exact deliver _ _
        · exact .pure _
      · exact .pure _
  · exact .throw _

end Indifferent
end Session

namespace Call
open Session
variable {σ κ : Type} [Platform σ]

/-- **No call looks at the notices or at whether the default context has been used.** -/
theorem indifferent (call : Call σ κ) : Indifferent call.run := by
  cases call with
  | platform change => exact .onPlatform _
  | deliver ticket outcome => exact .deliver ticket outcome
  | newContext => exact .discard fun _ => ⟨rfl, rfl⟩
  | reach c => exact .reach c
  | listDevices c => exact (Indifferent.listDevices c).discard
  | refDevice d =>
    refine .change fun s => ?_
    have hdevice : s.plain.device? d = s.device? d := rfl
    rw [hdevice]
    cases s.device? d <;> rfl
  | unrefDevice d => exact .unrefDevice d
  | freeDeviceList ds unref => exact .freeDeviceList ds unref
  | activeConfig device => exact (Indifferent.activeConfig device).discard
  | openDevice key device => exact (Indifferent.openDevice key device).discard
  | closeDevice key handle => exact .closeDevice key handle
  | claimInterface handle number =>
    exact (Indifferent.onPlatform _).bind fun _ => .check _ _
  | releaseInterface handle number =>
    exact (Indifferent.onPlatform _).bind fun _ => .check _ _
  | resetDevice handle => exact (Indifferent.onPlatform _).bind fun _ => .check _ _
  | controlTransfer => exact (Indifferent.controlTransfer _ _ _ _ _ _ _).discard
  | bulkTransfer | interruptTransfer =>
    exact ((Indifferent.note _).bind fun _ => .runSync _ _ _ _).discard
  | allocTransfer packets => exact (Indifferent.allocTransfer packets).discard
  | fillControl | fillData | assign => exact .alter _ _
  | submit id => exact .submit id
  | cancel id => exact .cancel id
  | free id => exact (Indifferent.free id).discard

end Call

/-! ## Naming the default context -/

namespace Session
variable {σ κ α : Type} {name? : Option ContextId}

/-- The context that a caller names.  Who names none means the default one, which is
then made if need be. -/
def resolve : Option ContextId → SessionM σ κ ContextId
  | some c => pure c
  | none => do
    reach .default
    return .default

/-- A caller means the default context: it names none, or this one. -/
def NamesDefault (name? : Option ContextId) : Prop := name? = none ∨ name? = some .default

/-- **For an indifferent program the default context goes by both its names.** -/
theorem resolve_bind {f : ContextId → SessionM σ κ α} (hf : Indifferent (f .default))
    (named : NamesDefault name?) (s : Session σ κ) :
    result (do f (← resolve name?)) s = result (f .default) s ∧
      (after (do f (← resolve name?)) s).plain = (after (f .default) s).plain := by
  rcases named with rfl | rfl
  · simp only [resolve, bind_assoc, pure_bind]
    rw [result_bind, after_bind, result_reach]
    exact hf.congr (plain_after_reach s .default)
  · simp only [resolve, pure_bind, and_self]

theorem after_reach_reach (s : Session σ κ) (c : ContextId) :
    after (reach c) (after (reach c) s) = after (reach c) s := by
  cases c with
  | explicit index => rfl
  | default =>
    have made : ∀ {s : Session σ κ} {t}, s.defaultTracker = some t →
        after (reach .default) s = s := by
      intro s t h
      simp [reach, after_bind, h]
    cases h : s.defaultTracker with
    | some t => rw [made h, made h]
    | none =>
      refine made (t := {}) ?_
      simp [reach, after_bind, h]

/-- Handling events makes the default context itself if need be, so it is the same
whatever the callbacks look at. -/
theorem resolve_bind_handleEvents [Platform σ] (named : NamesDefault name?)
    (run : TransferId → Callback κ → SessionM σ κ Unit) :
    (do handleEvents (σ := σ) run (← resolve name?)) = handleEvents (σ := σ) run .default := by
  rcases named with rfl | rfl
  · have twice : (do reach .default; reach .default : SessionM σ κ Unit) = reach .default := by
      refine funext fun s => ?_
      change (reach .default >>= fun _ => reach .default).run.run s = (reach .default).run.run s
      rw [run_bind_of_ok (result_reach ..)]
      exact Prod.ext ((result_reach ..).trans (result_reach ..).symm)
        (after_reach_reach s .default)
    simp only [resolve, bind_assoc, pure_bind]
    rw [handleEvents, ← bind_assoc]
    exact congrArg (· >>= _) twice
  · simp only [resolve, pure_bind]

end Session
end UsbHost
