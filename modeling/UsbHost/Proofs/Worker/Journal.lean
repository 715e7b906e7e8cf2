import UsbHost.Worker

/-! # The journal of the worker

Every call of the host goes through the journal, latest first.  A *claim* that
succeeded is written there, and so is every attempt to attach a kernel driver, so
what the worker did to the interfaces of a handle can be read off the journal.

Most of what the worker does concerns no interface.  It is shown once to leave
the connections, the handles and the interface calls alone (`Quiet`).  A call on
an interface is described by the one entry that it makes (`Called`).
-/
namespace UsbHost

/-! ## Reading the journal -/

namespace HostEntry

/-- An entry is a call on an interface. -/
def OnInterface (e : HostEntry) : Prop := ∃ op n code, e.call = .onInterface op n code

/-- An entry is a call of an operation on an interface of a handle, whatever came of it. -/
def Tries (e : HostEntry) (op : InterfaceOp) (handle : HostHandle) (n : UInt8) : Prop :=
  e.handle = handle ∧ ∃ code, e.call = .onInterface op n code

/-- An entry is a call of an operation on an interface of a handle that succeeded. -/
def Succeeds (e : HostEntry) (op : InterfaceOp) (handle : HostHandle) (n : UInt8) : Prop :=
  e.handle = handle ∧ e.call = .onInterface op n 0

/-- The operation that an entry tries on an interface, if that is what it does. -/
def attempt? (e : HostEntry) : Option (InterfaceOp × UInt8) :=
  match e.call with
  | .onInterface op n _ => some (op, n)
  | _ => none

variable {e : HostEntry} {op : InterfaceOp} {handle : HostHandle} {n : UInt8}

theorem attempt?_eq_some_iff :
    e.attempt? = some (op, n) ↔ ∃ code, e.call = .onInterface op n code := by
  unfold attempt?
  cases e.call <;> simp

theorem Succeeds.tries (h : e.Succeeds op handle n) : e.Tries op handle n := ⟨h.1, 0, h.2⟩

theorem Tries.onInterface (h : e.Tries op handle n) : e.OnInterface :=
  ⟨op, n, h.2⟩

end HostEntry

/-- The last successful claim or release of an interface through a handle was a claim. -/
def StillClaimed (journal : List HostEntry) (handle : HostHandle) (n : UInt8) : Prop :=
  ∃ later e earlier, journal = later ++ e :: earlier ∧ e.Succeeds .claim handle n ∧
    ∀ l ∈ later, ¬ l.Succeeds .release handle n

/-- A kernel driver was detached from an interface through a handle. -/
def Detached (journal : List HostEntry) (handle : HostHandle) (n : UInt8) : Prop :=
  ∃ e ∈ journal, e.Succeeds .detach handle n

/-- After every detaching of a kernel driver from an interface, attaching one was tried through the
same handle. -/
def HandedBack (journal : List HostEntry) (handle : HostHandle) (n : UInt8) : Prop :=
  ∀ later e earlier, journal = later ++ e :: earlier → e.Succeeds .detach handle n →
    ∃ l ∈ later, l.Tries .attach handle n

section Reading
variable {journal added : List HostEntry} {e : HostEntry} {handle : HostHandle} {n : UInt8}

theorem stillClaimed_cons :
    StillClaimed (e :: journal) handle n ↔
      e.Succeeds .claim handle n ∨
        ¬ e.Succeeds .release handle n ∧ StillClaimed journal handle n := by
  constructor
  · rintro ⟨later, claim, earlier, hsplit, hclaim, hlater⟩
    -- Either the claim is the last entry, or the last entry comes after it.
    rcases later with _ | ⟨l, later⟩
    · obtain ⟨rfl, rfl⟩ := List.cons.inj hsplit
      exact .inl hclaim
    · obtain ⟨rfl, rfl⟩ := List.cons.inj hsplit
      exact .inr ⟨hlater _ (.head _),
        later, claim, earlier, rfl, hclaim, fun l hl => hlater l (.tail _ hl)⟩
  · rintro (hclaim | ⟨hrelease, later, claim, earlier, rfl, hclaim, hlater⟩)
    · exact ⟨[], e, journal, rfl, hclaim, by simp⟩
    · refine ⟨e :: later, claim, earlier, rfl, hclaim, ?_⟩
      rintro l (_ | ⟨_, hl⟩)
      · exact hrelease
      · exact hlater l hl

/-- Entries that neither claim nor release the interface do not matter. -/
theorem stillClaimed_append
    (h : ∀ e ∈ added, ¬ e.Succeeds .claim handle n ∧ ¬ e.Succeeds .release handle n) :
    StillClaimed (added ++ journal) handle n ↔ StillClaimed journal handle n := by
  induction added with
  | nil => rfl
  | cons e added ih =>
    obtain ⟨hclaim, hrelease⟩ := h e (.head _)
    rw [List.cons_append, stillClaimed_cons, ih fun e he => h e (.tail _ he)]
    simp [hclaim, hrelease]

/-- An interface that is still claimed was claimed at some point. -/
theorem StillClaimed.exists_claim (h : StillClaimed journal handle n) :
    ∃ e ∈ journal, e.Succeeds .claim handle n := by
  obtain ⟨later, e, earlier, rfl, he, -⟩ := h
  exact ⟨e, by simp, he⟩

/-- What attaches nothing before `added` and detaches nothing in it hands a driver back exactly when
`added` does, if there was one to hand back. -/
theorem handedBack_append (hbefore : ∀ e ∈ journal, ¬ e.Tries .attach handle n)
    (hadded : ∀ e ∈ added, ¬ e.Succeeds .detach handle n) :
    HandedBack (added ++ journal) handle n ↔
      (Detached journal handle n → ∃ e ∈ added, e.Tries .attach handle n) := by
  constructor
  · rintro h ⟨e, he, hdetach⟩
    obtain ⟨later, earlier, rfl⟩ := List.append_of_mem he
    obtain ⟨l, hl, hattach⟩ := h (added ++ later) e earlier (by simp) hdetach
    rcases List.mem_append.mp hl with hl | hl
    · exact ⟨l, hl, hattach⟩
    · exact absurd hattach (hbefore l (by simp [hl]))
  · intro h later e earlier hsplit hdetach
    -- The detaching is not among the entries of `added`, so all of these come after it.
    rcases List.append_eq_append_iff.mp hsplit with ⟨rest, rfl, hrest⟩ | ⟨rest, rfl, hrest⟩
    · obtain ⟨l, hl, hattach⟩ := h ⟨e, by simp [hrest], hdetach⟩
      exact ⟨l, by simp [hl], hattach⟩
    · rcases rest with _ | ⟨r, rest⟩
      · have hrest : e :: earlier = journal := hrest
        obtain ⟨l, hl, hattach⟩ := h ⟨e, hrest ▸ .head _, hdetach⟩
        exact ⟨l, by simpa using hl, hattach⟩
      · obtain ⟨rfl, -⟩ := List.cons.inj hrest
        exact absurd hdetach (hadded e (by simp))

end Reading

namespace Worker

variable {η δ α β : Type}

/-! ## Programs by their parts -/

/-- The worker that a program ends with. -/
def after (x : WorkerM η δ α) (w : Worker η δ) : Worker η δ := (x.run w).2

/-- What a program comes to. -/
def result (x : WorkerM η δ α) (w : Worker η δ) : α := (x.run w).1

section Parts
variable (w : Worker η δ)

@[simp] theorem after_bind (x : WorkerM η δ α) (f : α → WorkerM η δ β) :
    after (x >>= f) w = after (f (result x w)) (after x w) := rfl

@[simp] theorem result_bind (x : WorkerM η δ α) (f : α → WorkerM η δ β) :
    result (x >>= f) w = result (f (result x w)) (after x w) := rfl

@[simp] theorem after_map (x : WorkerM η δ α) (f : α → β) : after (f <$> x) w = after x w := rfl

@[simp] theorem after_discard (x : WorkerM η δ α) : after (discard x) w = after x w := rfl

@[simp] theorem after_pure (a : α) : after (pure a) w = w := rfl

@[simp] theorem after_get : after (get : WorkerM η δ _) w = w := rfl

@[simp] theorem after_modify (f : Worker η δ → Worker η δ) : after (modify f) w = f w := rfl

@[simp] theorem result_get : result (get : WorkerM η δ _) w = w := rfl

end Parts

/-! ## What concerns no interface -/

/-- Nothing is done to connections, handles or interfaces. -/
structure Quiet (w w' : Worker η δ) : Prop where
  connections : w'.connections = w.connections
  handles : w'.handles = w.handles
  nextHandle : w'.nextHandle = w.nextHandle
  journal : ∃ added, w'.journal = added ++ w.journal ∧ ∀ e ∈ added, ¬ e.OnInterface

namespace Quiet

theorem refl (w : Worker η δ) : Quiet w w := ⟨rfl, rfl, rfl, [], rfl, by simp⟩

theorem trans {w w' w'' : Worker η δ} (h : Quiet w w') (h' : Quiet w' w'') : Quiet w w'' := by
  obtain ⟨added, hj, hadded⟩ := h.journal
  obtain ⟨added', hj', hadded'⟩ := h'.journal
  refine ⟨h'.connections.trans h.connections, h'.handles.trans h.handles,
    h'.nextHandle.trans h.nextHandle, added' ++ added, by rw [hj', hj, List.append_assoc], ?_⟩
  intro e he
  rcases List.mem_append.mp he with he | he
  · exact hadded' e he
  · exact hadded e he

end Quiet

/-- A program does nothing to connections, handles or interfaces, whatever state it starts from. -/
def IsQuiet (x : WorkerM η δ α) : Prop := ∀ w, Quiet w (after x w)

namespace IsQuiet

theorem pure (a : α) : IsQuiet (pure a : WorkerM η δ α) := Quiet.refl

theorem bind {x : WorkerM η δ α} {f : α → WorkerM η δ β} (hx : IsQuiet x)
    (hf : ∀ a, IsQuiet (f a)) : IsQuiet (x >>= f) :=
  fun w => (hx w).trans (hf _ _)

/-- What is done with the state that was read may look at it. -/
theorem get_bind {f : Worker η δ → WorkerM η δ α} (h : ∀ w, Quiet w (after (f w) w)) :
    IsQuiet (MonadState.get >>= f) := h

theorem get : IsQuiet (get : WorkerM η δ _) := Quiet.refl

theorem mapM {f : α → WorkerM η δ β} (hf : ∀ a, IsQuiet (f a)) (as : List α) :
    IsQuiet (as.mapM f) := by
  induction as with
  | nil => exact pure _
  | cons a as ih =>
    rw [List.mapM_cons]
    exact (hf a).bind fun _ => ih.bind fun _ => pure _

theorem onHost (action : StateM η α) : IsQuiet (onHost (δ := δ) action) :=
  fun _ => ⟨rfl, rfl, rfl, [], rfl, by simp⟩

theorem withConnection {id : ConnectionId} {action : Connection → WorkerM η δ (Outcome α)}
    (h : ∀ c, IsQuiet (action c)) : IsQuiet (withConnection id action) := by
  refine get.bind fun w => ?_
  cases w.connections.get? id with
  | none => exact pure _
  | some c => exact h c

theorem retain (present : List DeviceId) :
    IsQuiet (modify (retain present) : WorkerM η δ Unit) :=
  fun _ => ⟨rfl, rfl, rfl, [], rfl, by simp⟩

variable [Host η δ]

theorem record (handle : HostHandle) (device : δ) {call : HostCall}
    (hcall : ∀ op n code, call ≠ .onInterface op n code) :
    IsQuiet (record (η := η) handle device call) := by
  refine fun w => ⟨rfl, rfl, rfl, [_], rfl, ?_⟩
  rintro e he ⟨op, n, code, h⟩
  rw [List.mem_singleton.mp he] at h
  exact hcall op n code h

theorem readText (handle : HostHandle) (device : δ) (index : Option UInt8) :
    IsQuiet (readText (η := η) handle device index) := by
  unfold Worker.readText
  cases index with
  | none => exact pure _
  | some index =>
    refine (onHost _).bind fun bytes => (record handle device (by simp)).bind fun _ => ?_
    cases bytes <;> exact pure _

theorem identify (device : δ) : IsQuiet (identify (η := η) device) := by
  refine get_bind fun w => ?_
  dsimp only
  cases w.locations.get? (Host.location η device) with
  | some id => exact .refl w
  | none =>
    cases Host.descriptor η device with
    | error e => exact .refl w
    | ok descriptor =>
      cases h : Filter.allow w.filters descriptor.vendor descriptor.product with
      | false => simpa [h] using Quiet.refl w
      | true =>
        simp only [h, reduceIte]
        exact ⟨rfl, rfl, rfl, [], rfl, by simp⟩

theorem getConfigurations (id : DeviceId) : IsQuiet (getConfigurations (η := η) id) := by
  refine get.bind fun w => ?_
  cases w.devices.get? id with
  | none => exact pure _
  | some known => exact (onHost _).bind fun _ => (onHost _).bind fun _ => pure _

theorem resetDevice (id : ConnectionId) : IsQuiet (resetDevice (η := η) id) := by
  refine withConnection fun c => get.bind fun w => ?_
  cases w.handles.get? c.handle with
  | none => exact pure _
  | some h =>
    exact (onHost _).bind fun _ => (record _ _ (by simp)).bind fun _ => pure _

theorem runRequest (handle : HostHandle) (request : TransferRequest) :
    IsQuiet (runRequest (η := η) handle request) := by
  refine get.bind fun w => ?_
  cases HostTransfer.ofRequest request with
  | error e => exact pure _
  | ok transfer =>
    cases w.handles.get? handle with
    | none => exact pure _
    | some h => exact (onHost _).bind fun _ => (record _ _ (by simp)).bind fun _ => pure _

theorem transfer (id : ConnectionId) (request : TransferRequest) :
    IsQuiet (transfer (η := η) id request) :=
  withConnection fun c => (runRequest c.handle request).bind fun _ => pure _

theorem beginTransfer (id : ConnectionId) (request : TransferRequest) :
    IsQuiet (beginTransfer (η := η) id request) :=
  withConnection fun c => (runRequest c.handle request).bind fun _ =>
    .bind (fun _ => ⟨rfl, rfl, rfl, [], rfl, by simp⟩) fun _ => pure _

end IsQuiet

/-! ## What is done with a handle -/

/-- Nothing is done but through one open handle: `added` is what the journal gains, and no other
handle is opened or closed. -/
structure Touches (handle : HostHandle) (added : List HostEntry) (w w' : Worker η δ) : Prop where
  connections : w'.connections = w.connections
  nextHandle : w'.nextHandle = w.nextHandle
  journal : w'.journal = added ++ w.journal
  onHandle : ∀ e ∈ added, e.handle = handle ∧ w.handles.contains handle
  isOpen_other : ∀ h, h ≠ handle → w'.handles.contains h = w.handles.contains h
  isOpen_before : w'.handles.contains handle → w.handles.contains handle

namespace Touches

variable {w w' w'' : Worker η δ} {handle : HostHandle} {added added' : List HostEntry}

theorem refl (w : Worker η δ) (handle : HostHandle) : Touches handle [] w w :=
  ⟨rfl, rfl, rfl, by simp, fun _ _ => rfl, id⟩

theorem trans (h : Touches handle added w w') (h' : Touches handle added' w' w'') :
    Touches handle (added' ++ added) w w'' where
  connections := h'.connections.trans h.connections
  nextHandle := h'.nextHandle.trans h.nextHandle
  journal := by rw [h'.journal, h.journal, List.append_assoc]
  onHandle e he := by
    rcases List.mem_append.mp he with he | he
    · exact ⟨(h'.onHandle e he).1, h.isOpen_before (h'.onHandle e he).2⟩
    · exact h.onHandle e he
  isOpen_other k hk := (h'.isOpen_other k hk).trans (h.isOpen_other k hk)
  isOpen_before hopen := h.isOpen_before (h'.isOpen_before hopen)

end Touches

/-- The attempts at operations on interfaces, in the order they were made. -/
def attempts (journal : List HostEntry) : List (InterfaceOp × UInt8) :=
  journal.reverse.filterMap HostEntry.attempt?

@[simp] theorem attempts_nil : attempts [] = [] := rfl

theorem attempts_append (later earlier : List HostEntry) :
    attempts (later ++ earlier) = attempts earlier ++ attempts later := by
  simp [attempts]

theorem mem_attempts {journal : List HostEntry} {op : InterfaceOp} {n : UInt8} :
    (op, n) ∈ attempts journal ↔ ∃ e ∈ journal, ∃ code, e.call = .onInterface op n code := by
  simp [attempts, HostEntry.attempt?_eq_some_iff]

/-- What is done with one handle only tries an operation where it was attempted. -/
theorem Touches.exists_tries_iff {w w' : Worker η δ} {handle : HostHandle}
    {added : List HostEntry} (h : Touches handle added w w') (op : InterfaceOp) (k : HostHandle)
    (n : UInt8) :
    (∃ e ∈ added, e.Tries op k n) ↔ k = handle ∧ (op, n) ∈ attempts added := by
  rw [mem_attempts]
  constructor
  · rintro ⟨e, he, rfl, hcall⟩
    exact ⟨(h.onHandle e he).1, e, he, hcall⟩
  · rintro ⟨rfl, e, he, hcall⟩
    exact ⟨e, he, (h.onHandle e he).1, hcall⟩

section Handles
variable [Host η δ] {w : Worker η δ} {handle : HostHandle}

/-- **A call on an interface of an open handle makes one entry**, with the code that it comes to. -/
theorem touches_onInterface (op : InterfaceOp) (n : UInt8) (hopen : w.handles.contains handle) :
    let w' := after (onInterface op handle n) w
    let code := result (onInterface op handle n) w
    w'.handles.contains handle ∧
      ∃ location, Touches handle [⟨handle, location, .onInterface op n code⟩] w w' := by
  obtain ⟨h, hget⟩ := Option.isSome_iff_exists.mp hopen
  unfold onInterface
  simp only [after_bind, result_bind, after_get, result_get, hget]
  refine ⟨by simp [Table.contains], Host.location η h.device, rfl, rfl, rfl, by simp [hopen],
    ?_, ?_⟩
  · intro k hk
    simp [Table.contains, Table.get?_put, hk]
    rfl
  · exact fun _ => hopen

omit [Host η δ] in
/-- A loop attempts what its rounds attempt, if each keeps what the next one relies on. -/
theorem touches_forM (handle : HostHandle) {f : α → WorkerM η δ Unit}
    {g : α → List (InterfaceOp × UInt8)} {P : Worker η δ → Prop}
    (hround : ∀ a w, P w → P (after (f a) w) ∧
      ∃ added, Touches handle added w (after (f a) w) ∧ attempts added = g a)
    (as : List α) {w : Worker η δ} (hw : P w) :
    P (after (as.forM f) w) ∧
      ∃ added, Touches handle added w (after (as.forM f) w) ∧ attempts added = as.flatMap g := by
  induction as generalizing w with
  | nil => exact ⟨hw, [], .refl w handle, rfl⟩
  | cons a as ih =>
    obtain ⟨hnext, added, ha, hga⟩ := hround a w hw
    obtain ⟨hlast, rest, has, hgas⟩ := ih hnext
    refine ⟨hlast, rest ++ added, ha.trans has, ?_⟩
    rw [attempts_append, hga, hgas, List.flatMap_cons]

/-- A handle with the next number is opened. -/
structure Opens (w w' : Worker η δ) : Prop where
  connections : w'.connections = w.connections
  nextHandle : w'.nextHandle = w.nextHandle + 1
  journal : ∃ added, w'.journal = added ++ w.journal ∧ ∀ e ∈ added, ¬ e.OnInterface
  isOpen : ∀ h, w'.handles.contains h ↔ h = ⟨w.nextHandle⟩ ∨ w.handles.contains h

/-- Opening a device either fails quietly or opens a handle. -/
theorem openHandle_cases (device : δ) (w : Worker η δ) :
    (∃ e, result (openHandle device) w = .error e ∧ Quiet w (after (openHandle device) w)) ∨
      (result (openHandle device) w = .ok ⟨w.nextHandle⟩ ∧
        Opens w (after (openHandle device) w)) := by
  unfold openHandle
  simp only [after_bind, result_bind, after_get, result_get]
  cases Host.checkCode (result (onHost (Host.openDevice ⟨w.nextHandle⟩ device)) w) with
  | error e =>
    refine .inl ⟨e, rfl, rfl, rfl, rfl, [_], rfl, ?_⟩
    simp [HostEntry.OnInterface]
  | ok =>
    refine .inr ⟨rfl, rfl, rfl, ⟨[_], rfl, ?_⟩, fun h => ?_⟩
    · simp [HostEntry.OnInterface]
    · by_cases hh : h = ⟨w.nextHandle⟩
      · simp [Table.contains, hh]
      · simp [Table.contains, Table.get?_put, hh]
        rfl

/-- Closing an open handle releases what it still remembers, and then closes it. -/
theorem touches_closeHandle_of_open {h : OpenHandle δ} (hget : w.handles.get? handle = some h) :
    ∃ released,
      Touches handle (⟨handle, Host.location η h.device, .close⟩ :: released) w
        (after (closeHandle handle) w) ∧
      attempts released = h.remembered.map (.release, ·) := by
  have hopen : w.handles.contains handle := by simp [Table.contains, hget]
  obtain ⟨hopen', released, hreleased, hattempts⟩ :=
    touches_forM handle (g := fun n => [(.release, n)]) (P := fun v => v.handles.contains handle)
      (f := fun number => do
        let code ← onHost (Host.onInterface .release handle h.device number)
        record handle h.device (.onInterface .release number code))
      (fun n v hv => ⟨hv, [_], ⟨rfl, rfl, rfl, by simp [hv], fun _ _ => rfl, id⟩, rfl⟩)
      h.remembered hopen
  unfold closeHandle
  simp only [after_bind, after_get, result_get, hget]
  generalize after (h.remembered.forM _) w = v at hopen' hreleased ⊢
  have hclose : Touches handle [⟨handle, Host.location η h.device, .close⟩] v
      (after (do
        onHost (Host.close handle h.device)
        record handle h.device .close
        modify fun w => { w with handles := w.handles.erase handle }) v) := by
    refine ⟨rfl, rfl, rfl, ?_, fun k hk => ?_, ?_⟩
    · simpa using hopen'
    · simp [Table.contains, Table.get?_erase, hk]
      rfl
    · simp [Table.contains]
  exact ⟨released, hreleased.trans hclose, by rw [hattempts, List.map_eq_flatMap]⟩

/-- Closing a handle releases what is still remembered, and does nothing else to interfaces. -/
theorem touches_closeHandle (handle : HostHandle) (w : Worker η δ) :
    ∃ added, Touches handle added w (after (closeHandle handle) w) ∧
      ∀ p ∈ attempts added, p.1 = .release := by
  cases hget : w.handles.get? handle with
  | none =>
    unfold closeHandle
    simp only [after_bind, after_get, result_get, hget]
    exact ⟨[], .refl w handle, by simp⟩
  | some h =>
    obtain ⟨released, ht, hattempts⟩ := touches_closeHandle_of_open hget
    refine ⟨_, ht, ?_⟩
    have hclose : attempts [⟨handle, Host.location η h.device, .close⟩] = [] := rfl
    rw [← List.singleton_append, attempts_append, hattempts, hclose, List.append_nil]
    simp

theorem touches_dropHandle (handle : HostHandle) (w : Worker η δ) :
    ∃ added, Touches handle added w (after (dropHandle handle) w) ∧
      ∀ p ∈ attempts added, p.1 = .release := by
  unfold dropHandle
  simp only [after_bind, after_get, result_get]
  by_cases hused : w.isUsed handle
  · exact ⟨[], by simpa [hused] using .refl w handle, by simp⟩
  · simpa [hused] using touches_closeHandle handle w

/-- **Handing back the interfaces of a connection tries to release and to attach each in turn**,
whatever becomes of it, and keeps what every such call keeps. -/
theorem touches_releaseClaimed (c : Connection) {P : Worker η δ → Prop}
    (hopen : ∀ v, P v → v.handles.contains c.handle)
    (hcall : ∀ op n v, P v → P (after (onInterface op c.handle n) v)) (hw : P w) :
    P (after (releaseClaimed c) w) ∧
      ∃ added, Touches c.handle added w (after (releaseClaimed c) w) ∧
        attempts added = c.claimed.flatMap fun n => [(.release, n), (.attach, n)] := by
  refine touches_forM c.handle ?_ c.claimed hw
  intro n v hv
  have hreleased := hcall .release n v hv
  obtain ⟨-, _, hrelease⟩ := touches_onInterface .release n (hopen v hv)
  obtain ⟨-, _, hattach⟩ := touches_onInterface .attach n (hopen _ hreleased)
  exact ⟨hcall .attach n _ hreleased, _, hrelease.trans hattach, rfl⟩

/-- A connection that ends hands its interfaces back; letting go of the handle may release some more
and does nothing else to them. -/
theorem touches_endConnection (id : ConnectionId) (c : Connection)
    (hopen : w.handles.contains c.handle) :
    ∃ added rest,
      Touches c.handle added { w with connections := w.connections.erase id }
        (after (endConnection id c) w) ∧
      attempts added = (c.claimed.flatMap fun n => [(.release, n), (.attach, n)]) ++ rest ∧
      ∀ p ∈ rest, p.1 = .release := by
  let erased := { w with connections := w.connections.erase id }
  obtain ⟨-, added, hrelease, hattempts⟩ :=
    touches_releaseClaimed (w := erased) c (P := fun v => v.handles.contains c.handle)
      (fun _ h => h) (fun op n _ h => (touches_onInterface op n h).1) hopen
  obtain ⟨dropped, hdrop, hrest⟩ :=
    touches_dropHandle c.handle (after (releaseClaimed c) erased)
  refine ⟨dropped ++ added, attempts dropped, hrelease.trans hdrop, ?_, hrest⟩
  rw [attempts_append, hattempts]

end Handles

/-! ## Running transfers -/

section Jobs
variable [Host η δ]

/-- Closing a handle ends no transfer. -/
theorem jobs_closeHandle (handle : HostHandle) (w : Worker η δ) :
    (after (closeHandle handle) w).jobs = w.jobs := by
  have hreleases : ∀ (h : OpenHandle δ) (numbers : List UInt8) (v : Worker η δ),
      (after (numbers.forM fun number => do
        let code ← onHost (Host.onInterface .release handle h.device number)
        record handle h.device (.onInterface .release number code)) v).jobs = v.jobs := by
    intro h numbers
    induction numbers with
    | nil => exact fun _ => rfl
    | cons number numbers ih => exact fun v => ih _
  unfold closeHandle
  rw [after_bind, result_get, after_get]
  cases w.handles.get? handle with
  | none => rfl
  | some h => exact hreleases h h.remembered w

theorem jobs_finishTransfer (job : Job) (w : Worker η δ) :
    (after (finishTransfer job) w).jobs = w.jobs.erase job := by
  unfold finishTransfer dropHandle
  rw [after_bind, after_modify, after_bind, after_bind, result_get, after_get]
  by_cases hused : isUsed { w with jobs := w.jobs.erase job } job.handle
  · rw [if_pos hused]
    rfl
  · rw [if_neg hused]
    exact jobs_closeHandle ..

/-- **What every transfer keeps when it comes to its end** is kept when all of them do. -/
theorem finishTransfers_induction {P : Worker η δ → Prop} {w : Worker η δ}
    (finish : ∀ w : Worker η δ, ∀ job ∈ w.jobs, P w → P (after (finishTransfer job) w))
    (hw : P w) : P (after finishTransfers w) := by
  have hall : ∀ (jobs : List Job) (v : Worker η δ), v.jobs = jobs → P v →
      P (after (jobs.mapM finishTransfer) v) := by
    intro jobs
    induction jobs with
    | nil => exact fun _ _ hv => hv
    | cons job jobs ih =>
      intro v hjobs hv
      have hfirst : job ∈ v.jobs := hjobs ▸ .head _
      have hrest : (after (finishTransfer job) v).jobs = jobs := by
        rw [jobs_finishTransfer, hjobs, List.erase_cons_head]
      rw [List.mapM_cons, after_bind, after_bind, after_pure]
      exact ih _ hrest (finish v job hfirst hv)
  exact hall w.jobs w rfl hw

end Jobs

end Worker

end UsbHost
