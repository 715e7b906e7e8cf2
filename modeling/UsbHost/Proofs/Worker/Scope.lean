import UsbHost.Proofs.Worker.Journal
import UsbHost.Proofs.Worker.Registry

/-! # The scope of what the worker does

Everything that the worker does is done through some handles, to the lists of some
connections, and with or without the registry.  These make up a *scope*, and what
is outside of it is left alone (`Within`): so it is said once for every program what
it may touch, and what it leaves alone follows from the scope that is chosen.

A handle that is still to be opened cannot be known before.  So a scope is used
where it has all of these (`Scope.Fresh`); opening a handle is then in the scope.

Connections are made and ended by two commands only, which are described apart
(`openDevice_cases`, `closeDevice_cases`).  And the registry changes by nothing but
an enumeration (`KeepsRegistry.perform`).
-/
namespace UsbHost

/-- The connection that a command is addressed to. -/
def WorkerCommand.connection? : WorkerCommand → Option ConnectionId
  | getDevices | getConfigurations _ | openDevice _ => none
  | closeDevice c | claimInterface c _ | releaseInterface c _ | resetDevice c | transfer c _ =>
    some c

/-- A command makes a connection, or ends one, or does neither. -/
theorem WorkerCommand.opens_or_closes (command : WorkerCommand) :
    (∃ device, command = openDevice device) ∨ (∃ id, command = closeDevice id) ∨
      (∀ device, command ≠ openDevice device) ∧ ∀ id, command ≠ closeDevice id := by
  cases command with
  | openDevice device => exact .inl ⟨device, rfl⟩
  | closeDevice id => exact .inr (.inl ⟨id, rfl⟩)
  | _ => refine .inr (.inr ⟨?_, ?_⟩) <;> rintro _ ⟨⟩

namespace Worker

variable {η δ α β : Type}

/-- Handles, connections whose lists may be changed, and whether the registry may. -/
structure Scope where
  handle : HostHandle → Prop
  connection : ConnectionId → Prop
  registry : Prop

namespace Scope

/-- The handles that are opened from now on are in the scope. -/
def Fresh (scope : Scope) (w : Worker η δ) : Prop :=
  ∀ handle : HostHandle, w.nextHandle ≤ handle.number → scope.handle handle

/-- A connection is in the scope, with the handle that it has, if it is open. -/
structure Has (scope : Scope) (w : Worker η δ) (id : ConnectionId) : Prop where
  connection : scope.connection id
  handle : ∀ c, w.connections.get? id = some c → scope.handle c.handle

end Scope

/-- What is outside of a scope is left alone, and no connection is made or ended. -/
structure Within (scope : Scope) (w w' : Worker η δ) : Prop where
  registry : ¬ scope.registry → w'.registry = w.registry
  nextConnection : w'.nextConnection = w.nextConnection
  contains : ∀ id, w'.connections.contains id = w.connections.contains id
  connection : ∀ id, ¬ scope.connection id → w'.connections.get? id = w.connections.get? id
  nextHandle : w.nextHandle ≤ w'.nextHandle
  handle : ∀ handle, ¬ scope.handle handle → w'.handles.get? handle = w.handles.get? handle
  journal : ∃ added, w'.journal = added ++ w.journal ∧ ∀ e ∈ added, scope.handle e.handle

namespace Within
variable {scope : Scope} {w w' w'' : Worker η δ}

theorem refl (w : Worker η δ) : Within scope w w where
  registry _ := rfl
  nextConnection := rfl
  contains _ := rfl
  connection _ _ := rfl
  nextHandle := Nat.le_refl _
  handle _ _ := rfl
  journal := ⟨[], rfl, by simp⟩

theorem trans (h : Within scope w w') (h' : Within scope w' w'') : Within scope w w'' where
  registry hout := (h'.registry hout).trans (h.registry hout)
  nextConnection := h'.nextConnection.trans h.nextConnection
  contains id := (h'.contains id).trans (h.contains id)
  connection id hid := (h'.connection id hid).trans (h.connection id hid)
  nextHandle := Nat.le_trans h.nextHandle h'.nextHandle
  handle k hk := (h'.handle k hk).trans (h.handle k hk)
  journal := by
    obtain ⟨added, hj, hadded⟩ := h.journal
    obtain ⟨added', hj', hadded'⟩ := h'.journal
    refine ⟨added' ++ added, by rw [hj', hj, List.append_assoc], fun e he => ?_⟩
    rcases List.mem_append.mp he with he | he
    · exact hadded' e he
    · exact hadded e he

theorem fresh (h : Within scope w w') (hw : scope.Fresh w) : scope.Fresh w' :=
  fun k hk => hw k (Nat.le_trans h.nextHandle hk)

/-! ### Single changes -/

/-- The host and the running transfers are in every scope. -/
theorem work (w : Worker η δ) (host : η) (jobs : List Job) :
    Within scope w { w with host, jobs } :=
  { refl w with }

theorem entry (w : Worker η δ) {e : HostEntry} (he : scope.handle e.handle) :
    Within scope w { w with journal := e :: w.journal } :=
  { refl w with journal := ⟨[e], rfl, by simpa using he⟩ }

/-- The handles may change where they are in the scope, and new ones be counted. -/
theorem handles (w : Worker η δ) {handles : Table HostHandle (OpenHandle δ)} {nextHandle : Nat}
    (hnext : w.nextHandle ≤ nextHandle)
    (h : ∀ k, ¬ scope.handle k → handles.get? k = w.handles.get? k) :
    Within scope w { w with handles, nextHandle } :=
  { refl w with nextHandle := hnext, handle := h }

/-- The list of an open connection changes. -/
theorem claimed (w : Worker η δ) {id : ConnectionId} {c : Connection}
    (hid : scope.connection id) (hopen : w.connections.contains id) :
    Within scope w { w with connections := w.connections.put id c } := by
  refine { refl w with contains := fun k => ?_, connection := fun k hk => ?_ }
  · show ((w.connections.put id c).get? k).isSome = _
    rw [Table.get?_put]
    split
    · case isTrue hk => rw [hk, hopen, Option.isSome_some]
    · rfl
  · have hne : k ≠ id := fun heq => hk (heq ▸ hid)
    show (w.connections.put id c).get? k = _
    rw [Table.get?_put, if_neg hne]

theorem known (w : Worker η δ) (hin : scope.registry)
    (devices : Table DeviceId (KnownDevice δ)) (locations : Table Location DeviceId)
    (nextDevice : UInt32) : Within scope w { w with devices, locations, nextDevice } :=
  { refl w with registry := fun hout => absurd hin hout }

end Within

/-! ## Programs -/

/-- A program stays within a scope that has the handles it opens. -/
def StaysWithin (scope : Scope) (x : WorkerM η δ α) : Prop :=
  ∀ w, scope.Fresh w → Within scope w (after x w)

namespace StaysWithin
variable {scope : Scope}

theorem pure (a : α) : StaysWithin scope (pure a : WorkerM η δ α) := fun w _ => .refl w

theorem bind {x : WorkerM η δ α} {f : α → WorkerM η δ β} (hx : StaysWithin scope x)
    (hf : ∀ a, StaysWithin scope (f a)) : StaysWithin scope (x >>= f) :=
  fun w hw => (hx w hw).trans (hf _ _ ((hx w hw).fresh hw))

/-- What follows may rely on what the first part comes to. -/
theorem bind_result {x : WorkerM η δ α} {f : α → WorkerM η δ β} {P : α → Prop}
    (hx : StaysWithin scope x) (hresult : ∀ w, scope.Fresh w → P (result x w))
    (hf : ∀ a, P a → StaysWithin scope (f a)) : StaysWithin scope (x >>= f) :=
  fun w hw => (hx w hw).trans (hf _ (hresult w hw) _ ((hx w hw).fresh hw))

/-- What is done with the state that was read may look at it. -/
theorem get_bind {f : Worker η δ → WorkerM η δ α}
    (h : ∀ w, scope.Fresh w → Within scope w (after (f w) w)) :
    StaysWithin scope (MonadState.get >>= f) := h

theorem discard {x : WorkerM η δ α} (hx : StaysWithin scope x) :
    StaysWithin scope (discard x) := hx

theorem forM {f : α → WorkerM η δ Unit} {as : List α}
    (hf : ∀ a ∈ as, StaysWithin scope (f a)) : StaysWithin scope (as.forM f) := by
  induction as with
  | nil => exact pure _
  | cons a as ih => exact (hf a (.head _)).bind fun _ => ih fun a ha => hf a (.tail _ ha)

theorem mapM {f : α → WorkerM η δ β} (hf : ∀ a, StaysWithin scope (f a)) (as : List α) :
    StaysWithin scope (as.mapM f) := by
  induction as with
  | nil => exact pure _
  | cons a as ih =>
    rw [List.mapM_cons]
    exact (hf a).bind fun _ => ih.bind fun _ => pure _

theorem onHost (action : StateM η α) : StaysWithin scope (onHost (δ := δ) action) :=
  fun w _ => .work w _ w.jobs

variable [Host η δ] {handle : HostHandle}

theorem record (hin : scope.handle handle) (device : δ) (call : HostCall) :
    StaysWithin scope (record (η := η) handle device call) := fun w _ => .entry w hin

theorem onInterface (hin : scope.handle handle) (op : InterfaceOp) (n : UInt8) :
    StaysWithin scope (onInterface (η := η) (δ := δ) op handle n) := by
  refine get_bind fun w hw => ?_
  cases w.handles.get? handle with
  | none => exact .refl w
  | some h =>
    refine ((onHost _).bind fun code => (record hin _ _).bind fun _ =>
      .bind (fun v _ => .handles v (Nat.le_refl _) fun k hk => ?_) fun _ => pure code) w hw
    have hne : k ≠ handle := fun heq => hk (heq ▸ hin)
    rw [Table.get?_put, if_neg hne]

theorem closeHandle (hin : scope.handle handle) :
    StaysWithin scope (closeHandle (η := η) (δ := δ) handle) := by
  refine get_bind fun w hw => ?_
  cases w.handles.get? handle with
  | none => exact .refl w
  | some h =>
    refine (forM (fun n _ => (onHost _).bind fun _ => record hin _ _)|>.bind fun _ =>
      (onHost _).bind fun _ => (record hin _ _).bind fun _ v _ =>
        .handles v (Nat.le_refl _) fun k hk => ?_) w hw
    have hne : k ≠ handle := fun heq => hk (heq ▸ hin)
    rw [Table.get?_erase, if_neg hne]

theorem dropHandle (hin : scope.handle handle) :
    StaysWithin scope (dropHandle (η := η) (δ := δ) handle) := by
  refine get_bind fun w hw => ?_
  split
  · exact .refl w
  · exact closeHandle hin w hw

theorem readText (hin : scope.handle handle) (device : δ) (index : Option UInt8) :
    StaysWithin scope (readText (η := η) handle device index) := by
  cases index with
  | none => exact pure _
  | some index =>
    refine (onHost _).bind fun bytes => (record hin _ _).bind fun _ => ?_
    cases bytes <;> exact pure _

/-- Opening a handle is in every scope that has the next one. -/
theorem openHandle (device : δ) : StaysWithin scope (openHandle (η := η) device) := by
  refine get_bind fun w hw => ?_
  have hnew : scope.handle ⟨w.nextHandle⟩ := hw _ (Nat.le_refl _)
  refine ((onHost _).bind fun code => (record hnew _ _).bind fun _ => ?_) w hw
  cases Host.checkCode code with
  | error e => exact pure _
  | ok _ =>
    refine .bind (fun v _ => .handles v (Nat.le_succ _) fun k hk => ?_) fun _ => pure _
    have hne : k ≠ ⟨w.nextHandle⟩ := fun heq => hk (heq ▸ hnew)
    rw [Table.get?_put, if_neg hne]

/-- The handle that is opened is in the scope. -/
theorem handle_openHandle {w : Worker η δ} (hw : scope.Fresh w) (device : δ)
    (h : result (Worker.openHandle device) w = .ok handle) : scope.handle handle := by
  rcases openHandle_cases device w with ⟨e, hresult, -⟩ | ⟨hresult, -⟩
  · rw [hresult] at h
    cases h
  · rw [hresult] at h
    cases h
    exact hw _ (Nat.le_refl _)

theorem recordOf (id : DeviceId) (known : KnownDevice δ) :
    StaysWithin scope (recordOf (η := η) id known) := by
  refine (openHandle known.device).bind_result
    (P := fun opened => ∀ handle, opened = .ok handle → scope.handle handle)
    (fun w hw _ => handle_openHandle hw _) fun opened hopened => ?_
  cases opened with
  | error e => exact pure _
  | ok handle =>
    have hin := hopened handle rfl
    exact (readText hin _ _).bind fun _ => (readText hin _ _).bind fun _ =>
      (readText hin _ _).bind fun _ => (closeHandle hin).bind fun _ => pure _

theorem identify (hin : scope.registry) (device : δ) :
    StaysWithin scope (identify (η := η) device) := by
  refine get_bind fun w _ => ?_
  dsimp only
  cases w.locations.get? (Host.location η device) with
  | some id => exact .refl w
  | none =>
    cases Host.descriptor η device with
    | error e => exact .refl w
    | ok descriptor =>
      dsimp only
      split
      · exact .known w hin _ _ _
      · exact .refl w

theorem getDevices (hin : scope.registry) : StaysWithin scope (getDevices (η := η) (δ := δ)) := by
  refine (onHost _).bind fun list => ?_
  cases list with
  | error e => exact pure _
  | ok list =>
    have hretain (present : List DeviceId) :
        StaysWithin scope (modify (retain present) : WorkerM η δ Unit) :=
      fun w _ => .known w hin _ _ w.nextDevice
    exact (mapM (fun _ => identify hin _) list).bind fun _ => (hretain _).bind fun _ =>
      get_bind fun w hw => ((mapM (fun _ => recordOf _ _) _).bind fun _ => pure _) w hw

theorem getConfigurations (id : DeviceId) :
    StaysWithin scope (getConfigurations (η := η) (δ := δ) id) := by
  refine get_bind fun w hw => ?_
  cases w.devices.get? id with
  | none => exact .refl w
  | some known => exact ((onHost _).bind fun _ => (onHost _).bind fun _ => pure _) w hw

theorem releaseClaimed {c : Connection} (hin : scope.handle c.handle) :
    StaysWithin scope (releaseClaimed (η := η) (δ := δ) c) :=
  forM fun n _ => (onInterface hin .release n).discard.bind fun _ =>
    (onInterface hin .attach n).discard

theorem detachDriver (hin : scope.handle handle) (n : UInt8) :
    StaysWithin scope (detachDriver (η := η) (δ := δ) handle n) := by
  refine (onInterface hin _ _).bind fun code => ?_
  split
  · exact (onInterface hin _ _).discard
  · exact pure _

theorem runRequest (hin : scope.handle handle) (request : TransferRequest) :
    StaysWithin scope (runRequest (η := η) (δ := δ) handle request) := by
  refine get_bind fun w hw => ?_
  cases HostTransfer.ofRequest request with
  | error e => exact .refl w
  | ok transfer =>
    cases w.handles.get? handle with
    | none => exact .refl w
    | some h => exact ((onHost _).bind fun _ => (record hin _ _).bind fun _ => pure _) w hw

end StaysWithin

section Connections
variable [Host η δ] {scope : Scope} {w : Worker η δ} {id : ConnectionId}

/-! ## Commands to a connection -/

omit [Host η δ] in
theorem within_withConnection {action : Connection → WorkerM η δ (Outcome α)}
    (h : ∀ c, w.connections.get? id = some c → Within scope w (after (action c) w)) :
    Within scope w (after (withConnection id action) w) := by
  unfold withConnection
  rw [after_bind, result_get, after_get]
  cases hc : w.connections.get? id with
  | none => exact .refl w
  | some c => exact h c hc

omit [Host η δ] in
/-- What is done with an open connection may change its list at the end. -/
theorem Within.setClaimed {v : Worker η δ} {c : Connection} (h : Within scope w v)
    (hid : scope.connection id) (hc : w.connections.get? id = some c) (claimed : List UInt8) :
    Within scope w (after (setClaimed id c claimed) v) := by
  have hopen : v.connections.contains id := by
    rw [h.contains, Table.contains, hc, Option.isSome_some]
  exact h.trans (.claimed v hid hopen)

theorem within_claimInterface (hw : scope.Fresh w) (hid : scope.Has w id) (n : UInt8) :
    Within scope w (after (claimInterface id n) w) := by
  refine within_withConnection fun c hc => ?_
  have hin := hid.handle c hc
  have hcalled := ((StaysWithin.detachDriver hin n).bind fun _ =>
    StaysWithin.onInterface hin .claim n) w hw
  rw [after_bind, after_bind]
  dsimp only
  split
  · exact hcalled.setClaimed hid.connection hc _
  · exact hcalled

theorem within_releaseInterface (hw : scope.Fresh w) (hid : scope.Has w id) (n : UInt8) :
    Within scope w (after (releaseInterface id n) w) := by
  refine within_withConnection fun c hc => ?_
  have hcalled := StaysWithin.onInterface (hid.handle c hc) .release n w hw
  rw [after_bind]
  dsimp only
  split
  · exact hcalled.setClaimed hid.connection hc _
  · exact hcalled

theorem within_resetDevice (hw : scope.Fresh w) (hid : scope.Has w id) :
    Within scope w (after (resetDevice id) w) := by
  refine within_withConnection fun c hc => ?_
  rw [after_bind, result_get, after_get]
  cases w.handles.get? c.handle with
  | none => exact .refl w
  | some h =>
    exact ((StaysWithin.onHost _).bind fun _ =>
      (StaysWithin.record (hid.handle c hc) _ _).bind fun _ => .pure _) w hw

theorem within_transfer (hw : scope.Fresh w) (hid : scope.Has w id) (request : TransferRequest) :
    Within scope w (after (transfer id request) w) :=
  within_withConnection fun c hc =>
    ((StaysWithin.runRequest (hid.handle c hc) request).bind fun _ => .pure _) w hw

theorem within_beginTransfer (hw : scope.Fresh w) (hid : scope.Has w id)
    (request : TransferRequest) : Within scope w (after (beginTransfer id request) w) :=
  within_withConnection fun c hc =>
    ((StaysWithin.runRequest (hid.handle c hc) request).bind fun _ =>
      .bind (fun v _ => .work v v.host _) fun _ => .pure _) w hw

/-- **Opening a device makes a connection with the next number, or makes none.** -/
theorem openDevice_cases (hw : scope.Fresh w) (device : DeviceId) :
    (∃ reason, result (openDevice device) w = .failed reason ∧
      Within scope w (after (openDevice device) w)) ∨
    ∃ v c, Within scope w v ∧ result (openDevice device) w = .succeeded ⟨w.nextConnection⟩ ∧
      after (openDevice device) w =
        { v with
          nextConnection := w.nextConnection + 1
          connections := v.connections.put ⟨w.nextConnection⟩ c } := by
  unfold openDevice
  rw [result_bind, after_bind, result_get, after_get]
  cases w.devices.get? device with
  | none => exact .inl ⟨_, rfl, .refl w⟩
  | some known =>
    have hopened := StaysWithin.openHandle known.device w hw
    dsimp only
    rw [result_bind, after_bind]
    rcases openHandle_cases known.device w with ⟨e, hresult, -⟩ | ⟨hresult, -⟩
    · rw [hresult]
      exact .inl ⟨_, rfl, hopened⟩
    · rw [hresult, ← hopened.nextConnection]
      exact .inr ⟨_, _, hopened, rfl, rfl⟩

/-- **Closing a device ends a connection that is open.** -/
theorem closeDevice_cases (hw : scope.Fresh w) (id : ConnectionId)
    (hin : ∀ c, w.connections.get? id = some c → scope.handle c.handle) :
    (w.connections.get? id = none ∧ result (closeDevice id) w = unknownConnection id ∧
      after (closeDevice id) w = w) ∨
    ((w.connections.get? id).isSome ∧ result (closeDevice id) w = .succeeded () ∧
      Within scope { w with connections := w.connections.erase id }
        (after (closeDevice id) w)) := by
  unfold closeDevice withConnection
  rw [result_bind, after_bind, result_get, after_get]
  cases hc : w.connections.get? id with
  | none => exact .inl ⟨rfl, rfl, rfl⟩
  | some c =>
    have hend := (StaysWithin.releaseClaimed (η := η) (δ := δ) (hin c hc)).bind fun _ =>
      StaysWithin.dropHandle (hin c hc)
    exact .inr ⟨rfl, rfl, hend { w with connections := w.connections.erase id } hw⟩

/-- A transfer that comes to its end stays within a scope that has its handle. -/
theorem within_finishTransfer (hw : scope.Fresh w) {job : Job}
    (hjob : scope.handle job.handle) : Within scope w (after (finishTransfer job) w) :=
  (Within.work w w.host _).trans (StaysWithin.dropHandle hjob _ hw)

/-- **A command stays within a scope that has the connection it is addressed to.** -/
theorem within_perform (hw : scope.Fresh w) {command : WorkerCommand}
    (hopen : ∀ device, command ≠ .openDevice device)
    (hclose : ∀ id, command ≠ .closeDevice id) (hlist : command = .getDevices → scope.registry)
    (hnamed : ∀ id, command.connection? = some id → scope.Has w id) :
    Within scope w (after (perform command) w) := by
  cases command with
  | getDevices => exact StaysWithin.getDevices (hlist rfl) w hw
  | getConfigurations device => exact StaysWithin.getConfigurations device w hw
  | openDevice device => exact absurd rfl (hopen device)
  | closeDevice id => exact absurd rfl (hclose id)
  | claimInterface id n => exact within_claimInterface hw (hnamed id rfl) n
  | releaseInterface id n => exact within_releaseInterface hw (hnamed id rfl) n
  | resetDevice id => exact within_resetDevice hw (hnamed id rfl)
  | transfer id request => exact within_transfer hw (hnamed id rfl) request

end Connections

/-! ## What leaves the registry alone -/

/-- A program does nothing to the registry. -/
def KeepsRegistry (x : WorkerM η δ α) : Prop := ∀ w, (after x w).registry = w.registry

/-- Everything but the registry. -/
def Scope.besidesRegistry : Scope := ⟨fun _ => True, fun _ => True, False⟩

namespace Scope

theorem besidesRegistry_fresh (w : Worker η δ) : besidesRegistry.Fresh w := fun _ _ => trivial

theorem besidesRegistry_has (w : Worker η δ) (id : ConnectionId) : besidesRegistry.Has w id :=
  ⟨trivial, fun _ _ => trivial⟩

end Scope

theorem StaysWithin.keepsRegistry {x : WorkerM η δ α}
    (hx : StaysWithin Scope.besidesRegistry x) : KeepsRegistry x :=
  fun w => (hx w (Scope.besidesRegistry_fresh w)).registry id

namespace KeepsRegistry
variable [Host η δ]

theorem beginTransfer (id : ConnectionId) (request : TransferRequest) :
    KeepsRegistry (beginTransfer (η := η) (δ := δ) id request) :=
  StaysWithin.keepsRegistry fun w hw =>
    within_beginTransfer hw (Scope.besidesRegistry_has w id) request

theorem finishTransfer (job : Job) : KeepsRegistry (finishTransfer (η := η) (δ := δ) job) :=
  StaysWithin.keepsRegistry fun _ hw => within_finishTransfer hw trivial

/-- **Only an enumeration changes the registry.** -/
theorem perform {command : WorkerCommand} (h : command ≠ .getDevices) :
    KeepsRegistry (perform (η := η) (δ := δ) command) := by
  intro w
  have hw := Scope.besidesRegistry_fresh w
  rcases command.opens_or_closes with ⟨device, rfl⟩ | ⟨c, rfl⟩ | ⟨hopen, hclose⟩
  · rcases openDevice_cases hw device with ⟨_, -, hwithin⟩ | ⟨v, c, hwithin, -, hafter⟩
    · exact hwithin.registry id
    · exact (congrArg registry hafter).trans (hwithin.registry id)
  · rcases closeDevice_cases hw c fun _ _ => trivial with ⟨-, -, hafter⟩ | ⟨-, -, hwithin⟩
    · exact congrArg registry hafter
    · exact hwithin.registry id
  · exact (within_perform hw hopen hclose (fun heq => absurd heq h)
      fun c _ => Scope.besidesRegistry_has w c).registry id

end KeepsRegistry

end Worker
end UsbHost
