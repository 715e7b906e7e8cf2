import UsbHost.Proofs.Worker.Drivers
import UsbHost.Proofs.Worker.Isolation

/-! # The lists of claimed interfaces

A connection's list has each interface once whose last successful claim or release was a
claim.  The handle of the connection remembers the same interfaces for itself
(`Remembers`), and both are kept in step by every command (`Reachable.orderly`).

When the connection ends, the worker releases each interface of the list once, and no
other, whatever comes of it.  Where the release fails the handle still remembers the
interface; so when it is closed it tries again of its own accord (`TornDown`).
-/
namespace UsbHost
namespace Worker

variable {η δ α : Type}

/-! ## What a handle remembers -/

/-- An open handle remembers each interface once that is still claimed through it. -/
def Remembers (w : Worker η δ) (handle : HostHandle) : Prop :=
  ∃ h, w.handles.get? handle = some h ∧ h.remembered.Nodup ∧
    ∀ n, n ∈ h.remembered ↔ StillClaimed w.journal handle n

section Remembering
variable {op : InterfaceOp} {n : UInt8} {code : Int} {remembered : List UInt8}

/-- What is remembered follows the calls as a list of claimed interfaces does. -/
theorem listedAfter_remembering (op : InterfaceOp) (n : UInt8) (code : Int)
    (remembered : List UInt8) :
    ListedAfter op n code remembered (remembering op n code remembered) := by
  intro m
  by_cases hcode : code = 0
  · subst hcode
    have hok : Host.checkCode 0 = .ok () := rfl
    cases op with
    | claim =>
      have hsplit : m < n ∨ n = m ∨ n < m := by
        rcases Nat.lt_trichotomy m.toNat n.toNat with h | h | h
        · exact .inl h
        · exact .inr (.inl (UInt8.toNat_inj.mp h.symm))
        · exact .inr (.inr h)
      simp only [remembering, hok, List.mem_append, List.mem_filter, List.mem_singleton,
        decide_eq_true_eq]
      grind
    | release =>
      simp only [remembering, hok, List.mem_filter, decide_eq_true_eq]
      grind
    | kernelActive | detach | attach => simp [remembering]
  · have hkept : remembering op n code remembered = remembered := by
      unfold remembering Host.checkCode
      rw [if_neg hcode]
      cases op <;> rfl
    rw [hkept]
    simp [hcode]

theorem nodup_remembering (h : remembered.Nodup) : (remembering op n code remembered).Nodup := by
  unfold remembering
  split
  · have hnew : n ∉ remembered.filter (· > n) := by simp
    have hapart : ∀ m ∈ remembered.filter (· < n), ∀ k ∈ n :: remembered.filter (· > n), m ≠ k := by
      grind
    rw [List.append_assoc]
    exact List.nodup_append.mpr
      ⟨h.filter _, List.nodup_cons.mpr ⟨hnew, h.filter _⟩, hapart⟩
  · exact h.filter _
  · exact h

end Remembering

namespace Remembers
variable {w w' : Worker η δ} {handle : HostHandle}

theorem isOpen (h : Remembers w handle) : w.handles.contains handle := by
  obtain ⟨_, hget, -⟩ := h
  rw [Table.contains, hget]
  rfl

/-- Nothing is done through the handle to an interface. -/
theorem same (h : Remembers w handle)
    (hget : w'.handles.get? handle = w.handles.get? handle)
    (hjournal : ∃ added, w'.journal = added ++ w.journal ∧
      ∀ e ∈ added, e.OnInterface → e.handle ≠ handle) : Remembers w' handle := by
  obtain ⟨o, hopen, hnodup, hmem⟩ := h
  obtain ⟨added, hj, hadded⟩ := hjournal
  refine ⟨o, hget.trans hopen, hnodup, ?_⟩
  intro n
  rw [hmem, hj, stillClaimed_append]
  intro e he
  exact ⟨fun hclaim => hadded e he hclaim.tries.onInterface hclaim.1,
    fun hrelease => hadded e he hrelease.tries.onInterface hrelease.1⟩

theorem quiet (h : Remembers w handle) (hq : Quiet w w') : Remembers w' handle := by
  obtain ⟨added, hj, hadded⟩ := hq.journal
  exact h.same (by rw [hq.handles]) ⟨added, hj, fun e he hi => absurd hi (hadded e he)⟩

variable [Host η δ]

/-- **A call on an interface is remembered.** -/
theorem call (h : Remembers w handle) (op : InterfaceOp) (n : UInt8) :
    Remembers (after (onInterface op handle n) w) handle := by
  obtain ⟨o, hopen, hnodup, hmem⟩ := h
  unfold onInterface
  simp only [after_bind, after_get, result_get, hopen]
  refine ⟨_, Table.get?_put_self _ _ _, nodup_remembering hnodup, ?_⟩
  intro m
  show m ∈ remembering _ _ _ _ ↔ StillClaimed (_ :: w.journal) handle m
  rw [listedAfter_remembering, stillClaimed_cons, hmem]
  simp [HostEntry.Succeeds]

end Remembers

/-! ## Lists in order -/

/-- A connection's list has no duplicates, and its handle remembers what is claimed. -/
structure Tidy (w : Worker η δ) (c : Connection) : Prop where
  nodup : c.claimed.Nodup
  remembers : Remembers w c.handle

/-- All open connections are tidy. -/
def Orderly (w : Worker η δ) : Prop :=
  ∀ id c, w.connections.get? id = some c → Tidy w c

section Steps
variable {w w' : Worker η δ} {id : ConnectionId} {c : Connection}

theorem Tidy.spared (h : Tidy w c) (hs : Spared id c w w') : Tidy w' c := by
  obtain ⟨added, hj, hadded⟩ := hs.journal
  exact ⟨h.nodup, h.remembers.same hs.handle ⟨added, hj, fun e he _ => hadded e he⟩⟩

theorem Tidy.quiet (h : Tidy w c) (hq : Quiet w w') : Tidy w' c :=
  ⟨h.nodup, h.remembers.quiet hq⟩

theorem Orderly.quiet (ho : Orderly w) (hq : Quiet w w') : Orderly w' := by
  intro id c hc
  rw [hq.connections] at hc
  exact (ho id c hc).quiet hq

/-- The connection that is found is the tidy one. -/
theorem Tidy.found (h : Tidy w c) (hc : w.connections.get? id = some c) {c' : Connection}
    (hc' : w.connections.get? id = some c') : Tidy w c' := by
  obtain rfl := Option.some.inj (hc.symm.trans hc')
  exact h

/-- Every connection is either seen to be tidy or was there before and is spared. -/
theorem Orderly.of_spared (ho : Orderly w)
    (h : ∀ id c', w'.connections.get? id = some c' →
      Tidy w' c' ∨ ∃ c, w.connections.get? id = some c ∧ Spared id c w w') : Orderly w' := by
  intro id c' hc'
  rcases h id c' hc' with htidy | ⟨c, hc, hs⟩
  · exact htidy
  · exact ((ho id c hc).spared hs).found hs.connection hc'

/-- A connection that is there was there before, if no connection was made. -/
theorem Within.exists_before {scope : Scope} (hwithin : Within scope w w') {c' : Connection}
    (hc' : w'.connections.get? id = some c') : ∃ c, w.connections.get? id = some c := by
  have hopen : w.connections.contains id := by
    rw [← hwithin.contains, Table.contains, hc']
    rfl
  exact Option.isSome_iff_exists.mp hopen

theorem after_withConnection {action : Connection → WorkerM η δ (Outcome α)}
    (hc : w.connections.get? id = some c) :
    after (withConnection id action) w = after (action c) w := by
  unfold withConnection
  rw [after_bind, result_get, after_get, hc]

/-- The list of a tidy connection is set to one without duplicates. -/
theorem Tidy.setClaimed (h : Tidy w c) {claimed : List UInt8} (hnodup : claimed.Nodup)
    {c' : Connection} (hc' : (after (setClaimed id c claimed) w).connections.get? id = some c') :
    Tidy (after (setClaimed id c claimed) w) c' := by
  have hset : Tidy (after (Worker.setClaimed id c claimed) w) { c with claimed } :=
    ⟨hnodup, h.remembers⟩
  exact hset.found (Table.get?_put_self _ _ _) hc'

/-- Nothing was claimed through a handle before it was opened, and nothing by opening it. -/
theorem Opens.not_stillClaimed (h : Opens w w') (hw : Valid w) (n : UInt8) :
    ¬ StillClaimed w'.journal ⟨w.nextHandle⟩ n := by
  intro hclaimed
  obtain ⟨e, he, hclaim⟩ := hclaimed.exists_claim
  obtain ⟨added, hj, hadded⟩ := h.journal
  rw [hj] at he
  rcases List.mem_append.mp he with he | he
  · exact hadded e he hclaim.tries.onInterface
  · have hlt := hw.entry_lt e he hclaim.tries.onInterface
    rw [hclaim.1] at hlt
    exact Nat.lt_irrefl _ hlt

variable [Host η δ]

theorem connections_onInterface (h : Tidy w c) (op : InterfaceOp) (n : UInt8) :
    (after (onInterface op c.handle n) w).connections = w.connections := by
  obtain ⟨-, _, ht⟩ := touches_onInterface op n h.remembers.isOpen
  exact ht.connections

theorem Tidy.call (h : Tidy w c) (op : InterfaceOp) (n : UInt8) :
    Tidy (after (onInterface op c.handle n) w) c :=
  ⟨h.nodup, h.remembers.call op n⟩

theorem Tidy.detachDriver (h : Tidy w c) (n : UInt8) :
    Tidy (after (detachDriver c.handle n) w) c := by
  unfold Worker.detachDriver
  rw [after_bind]
  by_cases hactive : result (onInterface .kernelActive c.handle n) w = 1
  · rw [if_pos hactive, after_discard]
    exact (h.call .kernelActive n).call .detach n
  · rw [if_neg hactive]
    exact h.call .kernelActive n

/-! ### Commands -/

/-- An interface is entered in a list that does not have it. -/
theorem tidy_claimInterface (hw : Valid w) (hc : w.connections.get? id = some c) (h : Tidy w c)
    (n : UInt8) {c' : Connection}
    (hc' : (after (claimInterface id n) w).connections.get? id = some c') :
    Tidy (after (claimInterface id n) w) c' := by
  have hsame := (hw.detachDriver hc n).2
  have hdetached := h.detachDriver n
  have hcalled := hdetached.call .claim n
  have hconn := (connections_onInterface hdetached .claim n).trans hsame
  unfold claimInterface at hc' ⊢
  rw [after_withConnection hc, after_bind, after_bind] at hc' ⊢
  generalize after (onInterface .claim c.handle n) (after (detachDriver c.handle n) w) = v at *
  by_cases hnew : n ∈ c.claimed
  · simp only [hnew, not_true_eq_false, decide_false, Bool.and_false] at hc' ⊢
    exact hcalled.found (hconn ▸ hc) hc'
  · dsimp only at hc' ⊢
    split at hc'
    case isTrue hok =>
      rw [if_pos hok]
      refine hcalled.setClaimed ?_ hc'
      refine List.nodup_append.mpr ⟨h.nodup, List.nodup_singleton n, ?_⟩
      intro m hm k hk heq
      exact hnew (List.mem_singleton.mp hk ▸ heq ▸ hm)
    case isFalse hfailed =>
      rw [if_neg hfailed]
      exact hcalled.found (hconn ▸ hc) hc'

theorem tidy_releaseInterface (hc : w.connections.get? id = some c) (h : Tidy w c) (n : UInt8)
    {c' : Connection} (hc' : (after (releaseInterface id n) w).connections.get? id = some c') :
    Tidy (after (releaseInterface id n) w) c' := by
  have hcalled := h.call .release n
  have hconn := connections_onInterface h .release n
  unfold releaseInterface at hc' ⊢
  rw [after_withConnection hc, after_bind] at hc' ⊢
  dsimp only at hc' ⊢
  split at hc'
  case isTrue hok =>
    rw [if_pos hok]
    exact hcalled.setClaimed (h.nodup.filter _) hc'
  case isFalse hfailed =>
    rw [if_neg hfailed]
    exact hcalled.found (hconn ▸ hc) hc'

/-- A handle that is opened remembers nothing. -/
theorem get?_openHandle {device : δ} {handle : HostHandle}
    (h : result (openHandle device) w = .ok handle) :
    (after (openHandle device) w).handles.get? handle = some { device } := by
  unfold openHandle at h ⊢
  simp only [after_bind, result_bind, after_get, result_get] at h ⊢
  generalize Host.checkCode _ = checked at h ⊢
  cases checked with
  | error e => cases h
  | ok _ =>
    cases h
    exact Table.get?_put_self _ _ _

/-- A new connection has an empty list, and its handle remembers nothing. -/
theorem Orderly.openDevice (hw : Valid w) (ho : Orderly w) (device : DeviceId) :
    Orderly (after (openDevice device) w) := by
  unfold Worker.openDevice
  simp only [after_bind, after_get, result_get]
  cases w.devices.get? device with
  | none => exact ho
  | some known =>
    simp only [after_bind]
    rcases openHandle_cases known.device w with ⟨e, hresult, hquiet⟩ | ⟨hresult, hopens⟩
    · rw [hresult]
      exact ho.quiet hquiet
    · rw [hresult]
      refine ho.of_spared ?_
      intro k c' hc'
      change (Table.put _ _ _).get? k = some c' at hc'
      rw [Table.get?_put, hopens.connections] at hc'
      split at hc'
      case isTrue hk =>
        obtain rfl := Option.some.inj hc'
        refine .inl ⟨List.nodup_nil, _, get?_openHandle hresult, List.nodup_nil, ?_⟩
        exact fun n => iff_of_false List.not_mem_nil (hopens.not_stillClaimed hw n)
      case isFalse hk =>
        have hspared := (StaysWithin.openHandle known.device w (hw.besides_fresh hc')).spared hc'
        refine .inr ⟨c', hc', ?_, hspared.handle, hspared.journal⟩
        change (Table.put _ _ _).get? k = some c'
        rw [Table.get?_put, if_neg hk, hspared.connection]

theorem Orderly.closeDevice (hw : Valid w) (ho : Orderly w) (id : ConnectionId) :
    Orderly (after (closeDevice id) w) := by
  rcases closeDevice_cases (Scope.everything_fresh w) id fun _ _ => trivial with
    ⟨-, -, hafter⟩ | ⟨-, -, hwithin⟩
  · rw [hafter]
    exact ho
  · refine ho.of_spared ?_
    intro k c' hc'
    obtain ⟨c, hc⟩ := hwithin.exists_before hc'
    rw [Table.get?_erase] at hc
    split at hc
    · cases hc
    case isFalse hk => exact .inr ⟨c, hc, spared_closeDevice hw hc (Ne.symm hk)⟩

/-- **A command keeps the connections tidy.** -/
theorem Orderly.perform (hw : Valid w) (ho : Orderly w) (command : WorkerCommand) :
    Orderly (after (perform command) w) := by
  rcases command.opens_or_closes with ⟨device, rfl⟩ | ⟨id, rfl⟩ | ⟨hopen, hclose⟩
  · exact ho.openDevice hw device
  · exact ho.closeDevice hw id
  · refine ho.of_spared ?_
    intro id c' hc'
    have hwithin := within_perform (Scope.everything_fresh w) hopen hclose (fun _ => trivial)
      fun id _ => Scope.everything_has w id
    obtain ⟨c, hc⟩ := hwithin.exists_before hc'
    by_cases hnamed : command.connection? = some id
    · -- The command is addressed to this connection.
      left
      have htidy := ho id c hc
      cases command with
      | claimInterface k n =>
        obtain rfl := Option.some.inj hnamed
        exact tidy_claimInterface hw hc htidy n hc'
      | releaseInterface k n =>
        obtain rfl := Option.some.inj hnamed
        exact tidy_releaseInterface hc htidy n hc'
      | resetDevice k => exact ho.quiet (IsQuiet.resetDevice k w) id c' hc'
      | transfer k request => exact ho.quiet (IsQuiet.transfer k request w) id c' hc'
      | closeDevice k => exact absurd rfl (hclose k)
      | getDevices | getConfigurations _ | openDevice _ => cases hnamed
    · refine .inr ⟨c, hc, Within.spared ?_ hc⟩
      exact within_perform (hw.besides_fresh hc) hopen hclose (fun _ => trivial)
        fun k hk => hw.besides_has hc fun heq => hnamed (heq ▸ hk)

/-- A handle that is closed is no connection's. -/
theorem spared_dropHandle (hw : Valid w) (hc : w.connections.get? id = some c)
    (handle : HostHandle) : Spared id c w (after (dropHandle handle) w) := by
  unfold dropHandle
  rw [after_bind, result_get, after_get]
  by_cases hused : w.isUsed handle
  · rw [if_pos hused]
    exact (Within.refl w).spared hc
  · rw [if_neg hused]
    have hne : handle ≠ c.handle := by
      intro heq
      have hmem : c ∈ w.connections.values := (w.connections.mem_values_iff c).mpr ⟨id, hc⟩
      refine hused ?_
      unfold isUsed
      rw [Bool.or_eq_true]
      exact .inl (List.any_eq_true.mpr ⟨c, hmem, decide_eq_true heq.symm⟩)
    exact (StaysWithin.closeHandle hne w (hw.besides_fresh hc)).spared hc

theorem Orderly.dropHandle (hw : Valid w) (ho : Orderly w) (handle : HostHandle) :
    Orderly (after (dropHandle handle) w) := by
  refine ho.of_spared ?_
  intro id c' hc'
  have hwithin : Within .everything w (after (Worker.dropHandle handle) w) :=
    StaysWithin.dropHandle trivial w (Scope.everything_fresh w)
  obtain ⟨c, hc⟩ := hwithin.exists_before hc'
  exact .inr ⟨c, hc, spared_dropHandle hw hc handle⟩

theorem Orderly.finishTransfer (hw : Valid w) (ho : Orderly w) (job : Job) :
    Orderly (after (finishTransfer job) w) := by
  have hquiet : Quiet w { w with jobs := w.jobs.erase job } := ⟨rfl, rfl, rfl, [], rfl, by simp⟩
  exact (ho.quiet hquiet).dropHandle (hw.quiet hquiet) job.handle

/-- **The connections of every worker that can be reached are tidy.** -/
theorem Reachable.orderly (hw : Reachable w) : Orderly w := by
  induction hw with
  | new host filters =>
    intro id c hc
    simp at hc
  | perform hw command ih => exact ih.perform hw.valid command
  | beginTransfer hw id request ih => exact ih.quiet (IsQuiet.beginTransfer id request _)
  | finishTransfer hw job running ih => exact ih.finishTransfer hw.valid job
  | hostChange hw host ih => exact ih.quiet ⟨rfl, rfl, rfl, [], rfl, by simp⟩

end Steps

/-! ## Claims and releases -/

/-- An operation on an interface of a connection was carried out.  The last thing that was done is a
call of the host, the list follows it, and the answer is that it succeeded exactly if the call
did. -/
def CarriedOut (op : InterfaceOp) (n : UInt8) (id : ConnectionId) (c : Connection)
    (w w' : Worker η δ) (answer : Outcome Unit) : Prop :=
  ∃ (code : Int) (location : Location) (added : List HostEntry) (claimed : List UInt8),
    w'.journal = ⟨c.handle, location, .onInterface op n code⟩ :: (added ++ w.journal) ∧
      w'.connections.get? id = some { c with claimed } ∧
      ListedAfter op n code c.claimed claimed ∧ (answer = .succeeded () ↔ code = 0)

section Carrying
variable [Host η δ] {w v : Worker η δ} {id : ConnectionId} {c : Connection} {op : InterfaceOp}
  {n : UInt8}

omit [Host η δ] in
theorem result_withConnection {action : Connection → WorkerM η δ (Outcome α)}
    (hc : w.connections.get? id = some c) :
    result (withConnection id action) w = result (action c) w := by
  unfold withConnection
  rw [result_bind, result_get, after_get, hc]

theorem outcomeOf_checkCode (code : Int) :
    outcomeOf (Host.checkCode code) = .succeeded () ↔ code = 0 := by
  unfold Host.checkCode
  by_cases hcode : code = 0
  · rw [if_pos hcode]
    exact iff_of_true rfl hcode
  · rw [if_neg hcode]
    exact iff_of_false nofun hcode

/-- The list is set where the call asks for another one. -/
theorem carriedOut_of_call (hc : v.connections.get? id = some c)
    (hopen : v.handles.contains c.handle) {added : List HostEntry}
    (hjournal : v.journal = added ++ w.journal) {claimed : List UInt8} {changes : Bool}
    (hlist : ListedAfter op n (result (onInterface op c.handle n) v) c.claimed
      (if changes then claimed else c.claimed)) :
    let u := after (onInterface op c.handle n) v
    let answer := outcomeOf (Host.checkCode (result (onInterface op c.handle n) v))
    let rest : WorkerM η δ (Outcome Unit) :=
      if changes then setClaimed id c claimed >>= fun _ => pure answer else pure answer
    CarriedOut op n id c w (after rest u) (result rest u) := by
  obtain ⟨-, location, ht⟩ := touches_onInterface op n hopen
  have hentry : (after (onInterface op c.handle n) v).journal = ⟨c.handle, location,
      .onInterface op n (result (onInterface op c.handle n) v)⟩ :: (added ++ w.journal) := by
    rw [ht.journal, hjournal]
    rfl
  have hanswer := outcomeOf_checkCode (result (onInterface op c.handle n) v)
  cases changes with
  | true => exact ⟨_, location, added, _, hentry, Table.get?_put_self _ _ _, hlist, hanswer⟩
  | false =>
    have hsame : (after (onInterface op c.handle n) v).connections.get? id = some c :=
      (congrArg (·.get? id) ht.connections).trans hc
    exact ⟨_, location, added, _, hentry, hsame, hlist, hanswer⟩

/-- **A claim is carried out**, after a driver was detached that is in the way. -/
theorem carriedOut_claimInterface (hw : Valid w) (hc : w.connections.get? id = some c)
    (n : UInt8) :
    CarriedOut .claim n id c w (after (claimInterface id n) w)
      (result (claimInterface id n) w) := by
  obtain ⟨hv, hsame⟩ := hw.detachDriver hc n
  have hdetached : StaysWithin .everything (detachDriver (η := η) (δ := δ) c.handle n) :=
    .detachDriver trivial n
  obtain ⟨added, hjournal, -⟩ := (hdetached w (Scope.everything_fresh w)).journal
  have hc' : (after (detachDriver c.handle n) w).connections.get? id = some c := hsame ▸ hc
  unfold claimInterface
  rw [after_withConnection hc, result_withConnection hc]
  have hlist := listedAfter_claim n (result (onInterface .claim c.handle n)
    (after (detachDriver c.handle n) w)) c.claimed
  exact carriedOut_of_call hc' (hv.kept id c hc').isOpen hjournal hlist

/-- **A release is carried out.** -/
theorem carriedOut_releaseInterface (hw : Valid w) (hc : w.connections.get? id = some c)
    (n : UInt8) :
    CarriedOut .release n id c w (after (releaseInterface id n) w)
      (result (releaseInterface id n) w) := by
  unfold releaseInterface
  rw [after_withConnection hc, result_withConnection hc]
  have hlist := listedAfter_release n (result (onInterface .release c.handle n) w) c.claimed
  exact carriedOut_of_call hc (hw.kept id c hc).isOpen (List.nil_append _).symm hlist

end Carrying

/-! ## The end of a connection -/

/-- The calls through a handle, latest first. -/
def callsOn (handle : HostHandle) (journal : List HostEntry) : List HostEntry :=
  journal.filter (·.handle = handle)

/-- What a handle does of its own accord when it is closed: it releases some interfaces,
each of them once, and closes. -/
def ClosesItself (handle : HostHandle) (IsLeft : UInt8 → Prop) (own : List HostEntry) : Prop :=
  ∃ (location : Location) (released : List HostEntry) (left : List UInt8),
    own = ⟨handle, location, .close⟩ :: released ∧
    attempts released = left.map (InterfaceOp.release, ·) ∧ left.Nodup ∧ ∀ n, n ∈ left ↔ IsLeft n

/-- The end of a connection, by the calls through its handle before and after.  The worker
releases each interface of the list in turn and attaches a kernel driver to it (`handed`).
Then the handle stays open, if it is used, or closes itself (`own`); what it releases are
those interfaces of the list that the worker could not release. -/
structure TornDown (c : Connection) (earlier later handed own : List HostEntry) : Prop where
  calls : callsOn c.handle later = own ++ handed ++ callsOn c.handle earlier
  releases : attempts handed = c.claimed.flatMap fun n => [(.release, n), (.attach, n)]
  closes : own = [] ∨ ClosesItself c.handle
    (fun n => n ∈ c.claimed ∧ ∀ e ∈ handed, ¬ e.Succeeds .release c.handle n) own

section Teardown
variable {w w' : Worker η δ} {id : ConnectionId} {c : Connection} {handle : HostHandle}
  {added journal : List HostEntry} {n : UInt8}

theorem callsOn_append (added journal : List HostEntry) :
    callsOn handle (added ++ journal) = callsOn handle added ++ callsOn handle journal :=
  List.filter_append ..

/-- All that is done through one handle shows among its calls. -/
theorem Touches.callsOn_self (h : Touches handle added w w') :
    callsOn handle w'.journal = added ++ callsOn handle w.journal := by
  have hall : callsOn handle added = added :=
    List.filter_eq_self.mpr fun e he => decide_eq_true (h.onHandle e he).1
  rw [h.journal, callsOn_append, hall]

/-- What is done through another handle does not show. -/
theorem Touches.callsOn_other (h : Touches handle added w w') {other : HostHandle}
    (hne : handle ≠ other) : callsOn other w'.journal = callsOn other w.journal := by
  have hnone : callsOn other added = [] := by
    refine List.filter_eq_nil_iff.mpr ?_
    intro e he
    rw [decide_eq_true_eq, (h.onHandle e he).1]
    exact hne
  rw [h.journal, callsOn_append, hnone, List.nil_append]

/-- Where nothing is claimed anew, what is still claimed is what was and was not released. -/
theorem stillClaimed_append_iff (h : ∀ e ∈ added, ¬ e.Succeeds .claim handle n) :
    StillClaimed (added ++ journal) handle n ↔
      StillClaimed journal handle n ∧ ∀ e ∈ added, ¬ e.Succeeds .release handle n := by
  induction added with
  | nil => simp
  | cons e added ih =>
    rw [List.cons_append, stillClaimed_cons, ih fun e he => h e (.tail _ he),
      List.forall_mem_cons]
    have hclaim := h e (.head _)
    tauto

/-- Handing back claims nothing. -/
theorem not_claims_of_handed {claimed : List UInt8}
    (h : attempts added = claimed.flatMap fun m => [(.release, m), (.attach, m)]) :
    ∀ e ∈ added, ¬ e.Succeeds .claim handle n := by
  intro e he hclaim
  have hmem : (InterfaceOp.claim, n) ∈ attempts added := mem_attempts.mpr ⟨e, he, 0, hclaim.2⟩
  rw [h] at hmem
  simp at hmem

variable [Host η δ]

/-- A handle that is dropped stays open, or is closed after it has released what it
remembers. -/
theorem own_dropHandle (hr : Remembers w handle) :
    ∃ own, Touches handle own w (after (dropHandle handle) w) ∧
      (own = [] ∨ ClosesItself handle (StillClaimed w.journal handle) own) := by
  obtain ⟨h, hget, hnodup, hmem⟩ := hr
  unfold dropHandle
  rw [after_bind, result_get, after_get]
  by_cases hused : w.isUsed handle
  · rw [if_pos hused]
    exact ⟨[], .refl w handle, .inl rfl⟩
  · rw [if_neg hused]
    obtain ⟨released, ht, hattempts⟩ := touches_closeHandle_of_open hget
    exact ⟨_, ht, .inr ⟨_, released, h.remembered, rfl, hattempts, hnodup, hmem⟩⟩

/-- **A connection that ends is torn down.** -/
theorem tornDown_endConnection (hw : Valid w) (ho : Orderly w)
    (hc : w.connections.get? id = some c) :
    ∃ handed own, TornDown c w.journal (after (endConnection id c) w).journal handed own := by
  let erased := { w with connections := w.connections.erase id }
  have hr : Remembers erased c.handle := (ho id c hc).remembers
  obtain ⟨hkept, handed, hhanded, hattempts⟩ :=
    touches_releaseClaimed c (P := (Remembers · c.handle)) (fun _ h => h.isOpen)
      (fun op n _ h => h.call op n) hr
  obtain ⟨own, hown, hcloses⟩ := own_dropHandle hkept
  have hcalls : callsOn c.handle (after (endConnection id c) w).journal =
      own ++ (handed ++ callsOn c.handle w.journal) :=
    hown.callsOn_self.trans (congrArg _ hhanded.callsOn_self)
  -- What the handle still remembers are the interfaces that it could not release.
  have hleft : StillClaimed (after (releaseClaimed c) erased).journal c.handle =
      fun n => n ∈ c.claimed ∧ ∀ e ∈ handed, ¬ e.Succeeds .release c.handle n := by
    funext n
    rw [hhanded.journal, (hw.kept id c hc).claimed]
    exact propext (stillClaimed_append_iff (not_claims_of_handed hattempts))
  rw [hleft] at hcloses
  exact ⟨handed, own, hcalls.trans (List.append_assoc ..).symm, hattempts, hcloses⟩

/-- Ending connections does not show among the calls through another handle. -/
theorem callsOn_endConnections (hw : Valid w) (ps : List (ConnectionId × Connection))
    (hdistinct : (ps.map (·.1)).Nodup)
    (hps : ∀ p ∈ ps, w.connections.get? p.1 = some p.2)
    (hother : ∀ p ∈ ps, p.2.handle ≠ handle) :
    callsOn handle (after (endConnections ps) w).journal =
      callsOn handle w.journal := by
  induction ps generalizing w with
  | nil => rfl
  | cons p ps ih =>
    obtain ⟨id, c⟩ := p
    obtain ⟨hnew, hdistinct⟩ := List.nodup_cons.mp hdistinct
    have hc := hps (id, c) (.head _)
    have hleft := hw.get?_endConnection hc hnew fun p hp => hps p (.tail _ hp)
    obtain ⟨added, _, ht, -⟩ := touches_endConnection id c (hw.kept id c hc).isOpen
    have hhead : callsOn handle (after (endConnection id c) w).journal =
        callsOn handle w.journal := ht.callsOn_other (hother (id, c) (.head _))
    exact (ih (hw.endConnection hc) hdistinct hleft fun p hp => hother p (.tail _ hp)).trans hhead

/-- Of connections that are ended one after another each is torn down. -/
theorem tornDown_endConnections (hw : Valid w) (ho : Orderly w)
    (ps : List (ConnectionId × Connection)) (hdistinct : (ps.map (·.1)).Nodup)
    (hps : ∀ p ∈ ps, w.connections.get? p.1 = some p.2) (hmem : (id, c) ∈ ps) :
    ∃ handed own, TornDown c w.journal (after (endConnections ps) w).journal handed own := by
  induction ps generalizing w with
  | nil => cases hmem
  | cons p ps ih =>
    obtain ⟨k, d⟩ := p
    have hc := hps (id, c) hmem
    obtain ⟨hnew, hdistinct'⟩ := List.nodup_cons.mp hdistinct
    have hd := hps (k, d) (.head _)
    have hleft := hw.get?_endConnection hd hnew fun p hp => hps p (.tail _ hp)
    have hw' := hw.endConnection hd
    -- The other connections have other handles.
    have hother : ∀ p ∈ (k, d) :: ps, p.1 ≠ id → p.2.handle ≠ c.handle :=
      fun p hp hne heq => hne (hw.unique p.1 p.2 id c (hps p hp) hc heq)
    rcases List.mem_cons.mp hmem with heq | hmem
    · obtain ⟨rfl, rfl⟩ := Prod.mk.inj heq
      obtain ⟨handed, own, htorn⟩ := tornDown_endConnection hw ho hc
      have hafter := callsOn_endConnections hw' ps hdistinct' hleft fun p hp =>
        hother p (.tail _ hp) fun heq => hnew (List.mem_map.mpr ⟨p, hp, heq⟩)
      exact ⟨handed, own, hafter.trans htorn.calls, htorn.releases, htorn.closes⟩
    · have hne : k ≠ id := fun heq => hnew (List.mem_map.mpr ⟨(id, c), hmem, heq.symm⟩)
      obtain ⟨added, _, ht, -⟩ := touches_endConnection k d (hw.kept k d hd).isOpen
      have hbefore : callsOn c.handle (after (endConnection k d) w).journal =
          callsOn c.handle w.journal := ht.callsOn_other (hother (k, d) (.head _) hne)
      have ho' : Orderly (after (endConnection k d) w) := by
        rw [← closeDevice_eq hd]
        exact ho.closeDevice hw k
      obtain ⟨handed, own, htorn⟩ := ih hw' ho' hdistinct' hleft hmem
      exact ⟨handed, own, hbefore ▸ htorn.calls, htorn.releases, htorn.closes⟩

/-- An interface of a list without duplicates is released once. -/
theorem count_handed {claimed : List UInt8} (hnodup : claimed.Nodup) (n : UInt8) :
    (claimed.flatMap fun m => [(InterfaceOp.release, m), (.attach, m)]).count (.release, n) =
      if n ∈ claimed then 1 else 0 := by
  rw [← hnodup.count]
  clear hnodup
  induction claimed with
  | nil => rfl
  | cons m claimed ih => simp [List.count_cons, ih]

end Teardown

/-- **The list of a connection is exact.**  It has each interface once, namely those whose
last successful claim or release was a claim.  A claim or a release is carried out on the
host, succeeds exactly if the host does, and the list follows.  When the connection is
closed, or the worker stops, the worker releases each interface of the list once, and no
other, whatever becomes of it, and in whatever order the connections that are left are
ended; `stop` is one way of it (`stopped_stop`). -/
theorem Reachable.claimed_exact [Host η δ] {w : Worker η δ} (hw : Reachable w)
    {id : ConnectionId} {c : Connection} (hc : w.connections.get? id = some c) :
    c.claimed.Nodup ∧ (∀ n, n ∈ c.claimed ↔ StillClaimed w.journal c.handle n) ∧
    (∀ n, CarriedOut .claim n id c w (after (claimInterface id n) w)
        (result (claimInterface id n) w) ∧
      CarriedOut .release n id c w (after (releaseInterface id n) w)
        (result (releaseInterface id n) w)) ∧
    ∀ w', w' = after (closeDevice id) w ∨ Stopped w w' →
      ∃ handed own, TornDown c w.journal w'.journal handed own ∧
        ∀ n, (attempts handed).count (.release, n) = if n ∈ c.claimed then 1 else 0 := by
  have hv := hw.valid
  have ho := hw.orderly
  have hnodup := (ho id c hc).nodup
  refine ⟨hnodup, (hv.kept id c hc).claimed,
    fun n => ⟨carriedOut_claimInterface hv hc n, carriedOut_releaseInterface hv hc n⟩, ?_⟩
  intro w' hend
  obtain ⟨handed, own, htorn⟩ : ∃ handed own, TornDown c w.journal w'.journal handed own := by
    rcases hend with rfl | ⟨ps, hps, rfl⟩
    · rw [closeDevice_eq hc]
      exact tornDown_endConnection hv ho hc
    · obtain ⟨hdistinct, hmem⟩ := ended_of_perm hps
      exact tornDown_endConnections hv ho ps hdistinct (fun p => (hmem p).mp)
        ((hmem (id, c)).mpr hc)
  refine ⟨handed, own, htorn, ?_⟩
  intro n
  rw [htorn.releases, count_handed hnodup]

/-- A worker that has claimed two interfaces of a device, of which one cannot be released. -/
def holding : Worker ScriptedHost ScriptedDevice :=
  let device := { drivenDevice 0 with releaseCodes := ⟨fun n => if n = 1 then -1 else 0⟩ }
  after (perform (.claimInterface ⟨1⟩ 1)) <| after (perform (.claimInterface ⟨1⟩ 0)) <|
    after (perform (.openDevice ⟨1⟩)) <|
      after (perform .getDevices) { host := { devices := [device] } }

/-- The interface that cannot be released is tried once, as the other is. -/
theorem claimed_exact_stubborn :
    Reachable holding ∧ holding.connections.get? ⟨1⟩ = some ⟨⟨1⟩, ⟨1⟩, [0, 1]⟩ ∧
      ∃ handed own, TornDown ⟨⟨1⟩, ⟨1⟩, [0, 1]⟩ holding.journal (after stop holding).journal
          handed own ∧
        (attempts handed).count (.release, 1) = 1 ∧ (attempts handed).count (.release, 2) = 0 := by
  have hreachable : Reachable holding :=
    ((((Reachable.new _ []).perform _).perform _).perform _).perform _
  have hc : holding.connections.get? ⟨1⟩ = some ⟨⟨1⟩, ⟨1⟩, [0, 1]⟩ := by rfl
  obtain ⟨-, -, -, hends⟩ := hreachable.claimed_exact hc
  obtain ⟨handed, own, htorn, hcount⟩ := hends _ (.inr (stopped_stop holding))
  exact ⟨hreachable, hc, handed, own, htorn, hcount 1, hcount 2⟩

end Worker
end UsbHost
