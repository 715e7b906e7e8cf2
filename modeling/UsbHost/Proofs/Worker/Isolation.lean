import UsbHost.Platform.Usb
import UsbHost.Proofs.Worker.Connections
import UsbHost.Proofs.Worker.Enumerations

/-! # Connections are fresh and isolated

The worker is served command after command, and what it answered tells which
connections were handed out and which of these were ended.  These two lists account
for the connections that are open and for the number of the next one (`Counted`).

So a connection that is handed out is a new one; one that was never handed out, or
was ended, is unknown; and a command leaves alone every open connection but the one
it is addressed to (`Serves.isolated`).  An enumeration that forgets the device of a
connection makes no difference to any of this.
-/
namespace UsbHost

/-- The connection that an answer hands out. -/
def WorkerAnswer.opened? : WorkerAnswer → Option ConnectionId
  | connection (.succeeded id) => some id
  | _ => none

namespace Worker

variable {η δ : Type}

/-- The connection that is ended, by a command and its answer. -/
def closed? : WorkerCommand × WorkerAnswer → Option ConnectionId
  | (.closeDevice id, .done (.succeeded _)) => some id
  | _ => none

/-- The connections that were handed out. -/
def openedIn (h : List (WorkerCommand × WorkerAnswer)) : List ConnectionId :=
  h.filterMap (·.2.opened?)

/-- The connections that were ended. -/
def closedIn (h : List (WorkerCommand × WorkerAnswer)) : List ConnectionId := h.filterMap closed?

/-- A worker that was served some commands with these answers.  In between, transfers
begin and come to their end, one by one, and the host changes as it likes. -/
inductive Serves [Host η δ] : List (WorkerCommand × WorkerAnswer) → Worker η δ → Prop
  | new (host : η) (filters : List String) : Serves [] { host, filters }
  | perform {h : List (WorkerCommand × WorkerAnswer)} {w : Worker η δ} (hw : Serves h w)
      (command : WorkerCommand) :
      Serves (h ++ [(command, result (perform command) w)]) (after (perform command) w)
  | beginTransfer {h : List (WorkerCommand × WorkerAnswer)} {w : Worker η δ} (hw : Serves h w)
      (id : ConnectionId) (request : TransferRequest) :
      Serves h (after (beginTransfer id request) w)
  | finishTransfer {h : List (WorkerCommand × WorkerAnswer)} {w : Worker η δ} (hw : Serves h w)
      (job : Job) (running : job ∈ w.jobs) : Serves h (after (finishTransfer job) w)
  | hostChange {h : List (WorkerCommand × WorkerAnswer)} {w : Worker η δ} (hw : Serves h w)
      (host : η) : Serves h { w with host }

/-- The connections that are open are those that were handed out and not ended, and
they are numbered in the order they were handed out. -/
structure Counted (h : List (WorkerCommand × WorkerAnswer)) (w : Worker η δ) : Prop where
  next : w.nextConnection.toNat = (openedIn h).length + 1
  below : ∀ id ∈ openedIn h, id.value.toNat < w.nextConnection.toNat
  wasOpened : ∀ id ∈ closedIn h, id ∈ openedIn h
  isOpen : ∀ id, w.connections.contains id ↔ id ∈ openedIn h ∧ id ∉ closedIn h

section Counting
variable {h : List (WorkerCommand × WorkerAnswer)} {w w' : Worker η δ} {scope : Scope}
  {command : WorkerCommand} {answer : WorkerAnswer} {id : ConnectionId}

theorem openedIn_snoc :
    openedIn (h ++ [(command, answer)]) = openedIn h ++ answer.opened?.toList := by
  rw [openedIn, List.filterMap_append]
  cases hid : answer.opened? <;> simp [hid, openedIn]

theorem closedIn_snoc :
    closedIn (h ++ [(command, answer)]) = closedIn h ++ (closed? (command, answer)).toList := by
  rw [closedIn, List.filterMap_append]
  cases hid : closed? (command, answer) <;> simp [hid, closedIn]

namespace Counted

/-- The next connection was not handed out. -/
theorem not_mem_next (hw : Counted h w) : ⟨w.nextConnection⟩ ∉ openedIn h :=
  fun hmem => Nat.lt_irrefl _ (hw.below _ hmem)

theorem get?_eq_none (hw : Counted h w) (hid : id ∉ openedIn h ∨ id ∈ closedIn h) :
    w.connections.get? id = none := by
  by_contra hopen
  obtain ⟨hopened, hclosed⟩ := (hw.isOpen id).mp (Option.isSome_iff_ne_none.mpr hopen)
  rcases hid with hid | hid
  · exact hid hopened
  · exact hclosed hid

/-- Nothing is handed out or ended. -/
theorem within (hw : Counted h w) (hwithin : Within scope w w') : Counted h w' where
  next := hwithin.nextConnection ▸ hw.next
  below := hwithin.nextConnection ▸ hw.below
  wasOpened := hw.wasOpened
  isOpen id := by rw [hwithin.contains, hw.isOpen]

theorem answered (hw : Counted h w) (hopened : answer.opened? = none)
    (hclosed : closed? (command, answer) = none) : Counted (h ++ [(command, answer)]) w := by
  have ho : openedIn (h ++ [(command, answer)]) = openedIn h := by
    rw [openedIn_snoc, hopened, Option.toList_none, List.append_nil]
  have hc : closedIn (h ++ [(command, answer)]) = closedIn h := by
    rw [closedIn_snoc, hclosed, Option.toList_none, List.append_nil]
  exact ⟨by rw [ho, hw.next], by rw [ho]; exact hw.below, by rw [ho, hc]; exact hw.wasOpened,
    by rw [ho, hc]; exact hw.isOpen⟩

/-- The next connection is handed out, while there are numbers. -/
theorem opens (hw : Counted h w) (device : DeviceId) (c : Connection)
    (few : (openedIn h).length + 1 < idLimit) :
    Counted (h ++ [(.openDevice device, .connection (.succeeded ⟨w.nextConnection⟩))])
      { w with
        nextConnection := w.nextConnection + 1
        connections := w.connections.put ⟨w.nextConnection⟩ c } := by
  have hnext : (w.nextConnection + 1).toNat = w.nextConnection.toNat + 1 := by
    have hone : (1 : UInt32).toNat = 1 := rfl
    have hlimit : idLimit = 4294967295 := rfl
    have hcount := hw.next
    rw [UInt32.toNat_add, hone]
    omega
  have ho : openedIn (h ++ [(.openDevice device, .connection (.succeeded ⟨w.nextConnection⟩))]) =
      openedIn h ++ [⟨w.nextConnection⟩] := openedIn_snoc
  have hc : closedIn (h ++ [(.openDevice device, .connection (.succeeded ⟨w.nextConnection⟩))]) =
      closedIn h := closedIn_snoc.trans (List.append_nil _)
  refine ⟨?_, fun id hid => ?_, fun id hid => ?_, fun id => ?_⟩
  · show (w.nextConnection + 1).toNat = _
    rw [hnext, ho, List.length_append, List.length_singleton, hw.next]
  · show _ < (w.nextConnection + 1).toNat
    rw [ho] at hid
    rw [hnext]
    rcases List.mem_append.mp hid with hid | hid
    · exact Nat.lt_succ_of_lt (hw.below id hid)
    · rw [List.mem_singleton.mp hid]
      exact Nat.lt_succ_self _
  · rw [hc] at hid
    rw [ho]
    exact List.mem_append_left _ (hw.wasOpened id hid)
  · show ((w.connections.put _ c).get? id).isSome ↔ _
    rw [ho, hc, List.mem_append, List.mem_singleton, Table.get?_put]
    by_cases hid : id = ⟨w.nextConnection⟩
    · -- What was ended had been handed out, and this one had not.
      subst hid
      have hnew : ⟨w.nextConnection⟩ ∉ closedIn h :=
        fun hmem => hw.not_mem_next (hw.wasOpened _ hmem)
      simp [hnew]
    · rw [if_neg hid]
      simpa [hid, Table.contains] using hw.isOpen id

/-- A connection that is open is ended. -/
theorem closes (hw : Counted h w) (hid : (w.connections.get? id).isSome) :
    Counted (h ++ [(.closeDevice id, .done (.succeeded ()))])
      { w with connections := w.connections.erase id } := by
  have ho : openedIn (h ++ [(.closeDevice id, .done (.succeeded ()))]) = openedIn h :=
    openedIn_snoc.trans (List.append_nil _)
  have hc : closedIn (h ++ [(.closeDevice id, .done (.succeeded ()))]) = closedIn h ++ [id] :=
    closedIn_snoc
  refine ⟨by rw [ho]; exact hw.next, by rw [ho]; exact hw.below, fun k hk => ?_, fun k => ?_⟩
  · rw [hc] at hk
    rw [ho]
    rcases List.mem_append.mp hk with hk | hk
    · exact hw.wasOpened k hk
    · rw [List.mem_singleton.mp hk]
      exact ((hw.isOpen id).mp hid).1
  · show ((w.connections.erase id).get? k).isSome ↔ _
    rw [ho, hc, List.mem_append, List.mem_singleton, Table.get?_erase]
    by_cases hk : k = id
    · simp [hk]
    · rw [if_neg hk]
      simpa [hk, Table.contains] using hw.isOpen k

theorem new (host : η) (filters : List String) :
    Counted [] ({ host, filters } : Worker η δ) where
  next := rfl
  below id hid := by simp [openedIn] at hid
  wasOpened id hid := by simp [closedIn] at hid
  isOpen id := by simp [openedIn, Table.contains]

end Counted
end Counting

section Serving
variable [Host η δ] {h : List (WorkerCommand × WorkerAnswer)} {w : Worker η δ}
  {command : WorkerCommand} {id : ConnectionId} {c : Connection}

/-! ## Commands -/

/-- Everything. -/
def Scope.everything : Scope := ⟨fun _ => True, fun _ => True, True⟩

omit [Host η δ] in
theorem Scope.everything_fresh (w : Worker η δ) : everything.Fresh w := fun _ _ => trivial

omit [Host η δ] in
theorem Scope.everything_has (w : Worker η δ) (id : ConnectionId) : everything.Has w id :=
  ⟨trivial, fun _ _ => trivial⟩

/-- No command but opening a device hands out a connection. -/
theorem opened?_perform (hopen : ∀ device, command ≠ .openDevice device) :
    (result (perform command) w).opened? = none := by
  cases command with
  | openDevice device => exact absurd rfl (hopen device)
  | _ => rfl

/-- No command but closing a device ends a connection. -/
theorem closed?_perform (hclose : ∀ id, command ≠ .closeDevice id) :
    closed? (command, result (perform command) w) = none := by
  cases command with
  | closeDevice id => exact absurd rfl (hclose id)
  | _ => rfl

/-- The connection that is handed out has the next number. -/
theorem opened_perform (hid : (result (perform command) w).opened? = some id) :
    id = ⟨w.nextConnection⟩ := by
  rcases command.opens_or_closes with ⟨device, rfl⟩ | ⟨k, rfl⟩ | ⟨hopen, -⟩
  · change (WorkerAnswer.connection (result (openDevice device) w)).opened? = some id at hid
    rcases openDevice_cases (Scope.everything_fresh w) device with
      ⟨reason, hresult, -⟩ | ⟨v, c, -, hresult, -⟩
    · rw [hresult] at hid
      cases hid
    · rw [hresult] at hid
      cases hid
      rfl
  · cases hid
  · rw [opened?_perform hopen] at hid
    cases hid

/-- **A command keeps the connections accounted for.** -/
theorem Counted.perform (hw : Counted h w) (command : WorkerCommand)
    (few : (openedIn (h ++ [(command, result (perform command) w)])).length < idLimit) :
    Counted (h ++ [(command, result (perform command) w)]) (after (perform command) w) := by
  have hfresh := Scope.everything_fresh w
  rcases command.opens_or_closes with ⟨device, rfl⟩ | ⟨id, rfl⟩ | ⟨hopen, hclose⟩
  · change (openedIn (h ++ [(_, .connection (result (openDevice device) w))])).length < _ at few
    show Counted (h ++ [(_, .connection (result (openDevice device) w))])
      (after (openDevice device) w)
    rcases openDevice_cases hfresh device with
      ⟨reason, hresult, hwithin⟩ | ⟨v, c, hwithin, hresult, hafter⟩
    · rw [hresult]
      exact (hw.within hwithin).answered rfl rfl
    · rw [hresult, openedIn_snoc, List.length_append] at few
      rw [hresult, hafter, ← hwithin.nextConnection]
      exact (hw.within hwithin).opens device c few
  · show Counted (h ++ [(_, .done (result (closeDevice id) w))]) (after (closeDevice id) w)
    rcases closeDevice_cases hfresh id fun _ _ => trivial with
      ⟨-, hresult, hafter⟩ | ⟨hopened, hresult, hwithin⟩
    · rw [hresult, hafter]
      exact hw.answered rfl rfl
    · rw [hresult]
      exact (hw.closes hopened).within hwithin
  · exact (hw.within (within_perform hfresh hopen hclose (fun _ => trivial)
      fun id _ => Scope.everything_has w id)).answered (opened?_perform hopen)
        (closed?_perform hclose)

/-- **The answers account for the connections**, while there are numbers. -/
theorem Serves.counted (hw : Serves h w) (few : (openedIn h).length < idLimit) : Counted h w := by
  induction hw with
  | new host filters => exact .new host filters
  | perform hw command ih =>
    refine (ih ?_).perform command few
    rw [openedIn_snoc, List.length_append] at few
    exact Nat.lt_of_le_of_lt (Nat.le_add_right _ _) few
  | beginTransfer hw id request ih =>
    exact (ih few).within
      (within_beginTransfer (Scope.everything_fresh _) (Scope.everything_has _ id) request)
  | finishTransfer hw job running ih =>
    exact (ih few).within (within_finishTransfer (Scope.everything_fresh _) trivial)
  | @hostChange h w hw host ih =>
    have hwithin : Within .everything w { w with host } := .work w host w.jobs
    exact (ih few).within hwithin

theorem Serves.reachable (hw : Serves h w) : Reachable w := by
  induction hw with
  | new host filters => exact .new host filters
  | perform _ command ih => exact ih.perform command
  | beginTransfer _ id request ih => exact ih.beginTransfer id request
  | finishTransfer _ job running ih => exact ih.finishTransfer job running
  | hostChange _ host ih => exact ih.hostChange host

/-- All running transfers may come to their end at once. -/
theorem Serves.finishTransfers (hw : Serves h w) : Serves h (after finishTransfers w) :=
  finishTransfers_induction (fun _ job running hv => hv.finishTransfer job running) hw

/-! ## What is addressed to no connection -/

omit [Host η δ] in
/-- What is addressed to a connection that is not open is answered with a failure, and
nothing is done. -/
theorem withConnection_eq_unknown {action : Connection → WorkerM η δ (Outcome α)}
    (hid : w.connections.get? id = none) :
    result (withConnection id action) w = unknownConnection id ∧
      after (withConnection id action) w = w := by
  unfold withConnection
  rw [result_bind, after_bind, result_get, after_get, hid]
  exact ⟨rfl, rfl⟩

theorem perform_eq_unknown (hid : w.connections.get? id = none)
    (hnamed : command.connection? = some id) :
    result (perform command) w = command.failure s!"unknown connection {id.text}" ∧
      after (perform command) w = w := by
  cases command with
  | getDevices | getConfigurations _ | openDevice _ => cases hnamed
  | closeDevice k | resetDevice k =>
    cases hnamed
    obtain ⟨hresult, hafter⟩ := withConnection_eq_unknown hid
    exact ⟨congrArg WorkerAnswer.done hresult, hafter⟩
  | claimInterface k n | releaseInterface k n =>
    cases hnamed
    obtain ⟨hresult, hafter⟩ := withConnection_eq_unknown hid
    exact ⟨congrArg WorkerAnswer.done hresult, hafter⟩
  | transfer k request =>
    cases hnamed
    obtain ⟨hresult, hafter⟩ := withConnection_eq_unknown hid
    exact ⟨congrArg WorkerAnswer.transferred hresult, hafter⟩

/-! ## What is addressed to another connection -/

/-- An open connection is left alone: its device, its handle and its list stay, the
handle is as it was, and the host is not called on it. -/
structure Spared (id : ConnectionId) (c : Connection) (w w' : Worker η δ) : Prop where
  connection : w'.connections.get? id = some c
  handle : w'.handles.get? c.handle = w.handles.get? c.handle
  journal : ∃ added, w'.journal = added ++ w.journal ∧ ∀ e ∈ added, e.handle ≠ c.handle

/-- Everything but one connection and its handle. -/
def Scope.besides (id : ConnectionId) (c : Connection) : Scope :=
  ⟨(· ≠ c.handle), (· ≠ id), True⟩

omit [Host η δ] in
theorem Within.spared {w' : Worker η δ} (hwithin : Within (.besides id c) w w')
    (hc : w.connections.get? id = some c) : Spared id c w w' where
  connection := by rw [hwithin.connection id (not_not_intro rfl), hc]
  handle := hwithin.handle c.handle (not_not_intro rfl)
  journal := hwithin.journal

omit [Host η δ] in
/-- Handles that are still to be opened are no connection's. -/
theorem Valid.besides_fresh (hw : Valid w) (hc : w.connections.get? id = some c) :
    (Scope.besides id c).Fresh w := by
  intro handle hnew heq
  have hold := hw.open_lt c.handle (hw.kept id c hc).isOpen
  rw [heq] at hnew
  omega

omit [Host η δ] in
/-- Another connection has another handle. -/
theorem Valid.besides_has (hw : Valid w) (hc : w.connections.get? id = some c)
    {k : ConnectionId} (hk : k ≠ id) : (Scope.besides id c).Has w k :=
  ⟨hk, fun d hd heq => hk (hw.unique k d id c hd hc heq)⟩

/-- Ending a connection spares the others. -/
theorem spared_closeDevice (hw : Valid w) (hc : w.connections.get? id = some c)
    {k : ConnectionId} (hk : k ≠ id) : Spared id c w (after (closeDevice k) w) := by
  rcases closeDevice_cases (hw.besides_fresh hc) k (hw.besides_has hc hk).handle with
    ⟨-, -, hafter⟩ | ⟨-, -, hwithin⟩
  · rw [hafter]
    exact (Within.refl w).spared hc
  · have hleft : (w.connections.erase k).get? id = some c := by
      rw [Table.get?_erase, if_neg hk.symm, hc]
    have hspared := hwithin.spared hleft
    exact ⟨hspared.connection, hspared.handle, hspared.journal⟩

/-- A command that is addressed to another connection, or to none, spares an open one. -/
theorem spared_perform (hw : Valid w) (hcounted : Counted h w)
    (hc : w.connections.get? id = some c) (hnamed : command.connection? ≠ some id) :
    Spared id c w (after (perform command) w) := by
  have hfresh := hw.besides_fresh hc
  rcases command.opens_or_closes with ⟨device, rfl⟩ | ⟨k, rfl⟩ | ⟨hopen, hclose⟩
  · rcases openDevice_cases hfresh device with
      ⟨reason, -, hwithin⟩ | ⟨v, d, hwithin, -, hafter⟩
    · exact hwithin.spared hc
    · have hold : id ≠ ⟨w.nextConnection⟩ := by
        rintro rfl
        rw [hcounted.get?_eq_none (.inl hcounted.not_mem_next)] at hc
        cases hc
      have hspared := hwithin.spared hc
      show Spared id c w (after (openDevice device) w)
      rw [hafter]
      refine ⟨?_, hspared.handle, hspared.journal⟩
      show (v.connections.put _ d).get? id = _
      rw [Table.get?_put, if_neg hold, hspared.connection]
  · exact spared_closeDevice hw hc fun heq => hnamed (congrArg some heq)
  · exact (within_perform hfresh hopen hclose (fun _ => trivial) fun k hk =>
      hw.besides_has hc fun heq => hnamed (heq ▸ hk)).spared hc

/-- **Connections are fresh and isolated.**  Of a worker that has handed out fewer
connections than there are numbers: a connection that it hands out is none of those
before; whatever is addressed to a connection that was never handed out, or was ended,
is answered with a failure and does nothing at all, also when the answer goes back to
a ticket; and what is addressed to one connection, or to none, spares every other. -/
theorem Serves.isolated (hw : Serves h w) (command : WorkerCommand)
    (few : (openedIn (h ++ [(command, result (Worker.perform command) w)])).length < idLimit) :
    (∀ id, (result (Worker.perform command) w).opened? = some id → id ∉ openedIn h) ∧
    (∀ id, id ∉ openedIn h ∨ id ∈ closedIn h →
      (command.connection? = some id →
        result (Worker.perform command) w =
            command.failure s!"unknown connection {id.text}" ∧
          after (Worker.perform command) w = w) ∧
      ∀ request,
        result (Worker.beginTransfer id request) w = unknownConnection id ∧
        after (Worker.beginTransfer id request) w = w ∧
        ∀ ticket, StateT.run (Platform.startTransfer id request ticket)
            (⟨some w⟩ : UsbPlatform η δ) = (some (unknownConnection id), ⟨some w⟩)) ∧
    ∀ id c, w.connections.get? id = some c →
      (command.connection? ≠ some id → Spared id c w (after (Worker.perform command) w)) ∧
      ∀ k request, k ≠ id → Spared id c w (after (Worker.beginTransfer k request) w) := by
  have hvalid := hw.reachable.valid
  have hcounted : Counted h w := hw.counted (by
    rw [openedIn_snoc, List.length_append] at few
    omega)
  refine ⟨fun id hid => ?_, fun id hid => ?_, fun id c hc => ⟨fun hnamed => ?_, ?_⟩⟩
  · rw [opened_perform hid]
    exact hcounted.not_mem_next
  · have hnone := hcounted.get?_eq_none hid
    refine ⟨fun hnamed => perform_eq_unknown hnone hnamed, fun request => ?_⟩
    obtain ⟨hbegin, hkeep⟩ : result (Worker.beginTransfer id request) w = unknownConnection id ∧
        after (Worker.beginTransfer id request) w = w := withConnection_eq_unknown hnone
    obtain ⟨hresult, hafter⟩ : result (transfer id request) w = unknownConnection id ∧
        after (transfer id request) w = w := withConnection_eq_unknown hnone
    refine ⟨hbegin, hkeep, fun ticket => ?_⟩
    show (some (result (transfer id request) w),
      (⟨some (after (transfer id request) w)⟩ : UsbPlatform η δ)) = _
    rw [hresult, hafter]
  · exact spared_perform hvalid hcounted hc hnamed
  · intro k request hk
    exact (within_beginTransfer (hvalid.besides_fresh hc) (hvalid.besides_has hc hk) request).spared
      hc

end Serving

/-- A worker with two connections to a device that it has forgotten since. -/
def orphaned : Worker ScriptedHost ScriptedDevice :=
  let shared := after (perform (.openDevice ⟨1⟩)) (after (perform (.openDevice ⟨1⟩)) enumerated)
  after (perform .getDevices) { shared with host := {} }

theorem serves_orphaned : ∃ h, openedIn h = [⟨1⟩, ⟨2⟩] ∧ Serves h orphaned := by
  have listed := (Serves.new ({ devices := firstDevices } : ScriptedHost) []).perform .getDevices
  have connected := (listed.perform (.openDevice ⟨1⟩)).perform (.openDevice ⟨1⟩)
  exact ⟨_, by decide +kernel, (connected.hostChange {}).perform .getDevices⟩

/-- Claiming an interface through the second connection spares the first. -/
theorem isolated_orphaned :
    ∃ h, Serves h orphaned ∧
      (openedIn (h ++ [(.claimInterface ⟨2⟩ 0,
        result (perform (.claimInterface ⟨2⟩ 0)) orphaned)])).length < idLimit ∧
      orphaned.devices.contains ⟨1⟩ = false ∧
      orphaned.connections.get? ⟨1⟩ = some ⟨⟨1⟩, ⟨1⟩, []⟩ ∧
      Spared ⟨1⟩ ⟨⟨1⟩, ⟨1⟩, []⟩ orphaned
        (after (perform (.claimInterface ⟨2⟩ 0)) orphaned) := by
  obtain ⟨h, hopened, serves⟩ := serves_orphaned
  have few : (openedIn (h ++ [(.claimInterface ⟨2⟩ 0,
      result (perform (.claimInterface ⟨2⟩ 0)) orphaned)])).length < idLimit := by
    rw [openedIn_snoc, hopened]
    decide +kernel
  have hopen : orphaned.connections.get? ⟨1⟩ = some ⟨⟨1⟩, ⟨1⟩, []⟩ := by decide +kernel
  obtain ⟨-, -, spares⟩ := serves.isolated (.claimInterface ⟨2⟩ 0) few
  exact ⟨h, serves, few, by decide +kernel, hopen, (spares ⟨1⟩ _ hopen).1 (by decide)⟩

end Worker
end UsbHost
