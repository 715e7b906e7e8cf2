import UsbHost.Proofs.Worker.Journal

/-! # Connections and their handles

An open connection has an open handle that no other connection shares, and its
list of claimed interfaces says what the journal says: an interface is in it
exactly when the last successful claim or release through the handle was a claim.
Kernel drivers are attached only when a connection ends, so none was attached
through the handle of an open connection (`Kept`).

This holds of a new worker, every step keeps it, and so it holds of every worker
that can be reached (`Reachable.valid`).
-/
namespace UsbHost
namespace Worker

variable {η δ α β : Type}

/-- An open connection's handle is open, its list is that of the journal, and nothing was attached
through it. -/
structure Kept (w : Worker η δ) (c : Connection) : Prop where
  isOpen : w.handles.contains c.handle
  claimed : ∀ n, n ∈ c.claimed ↔ StillClaimed w.journal c.handle n
  unattached : ∀ n, ∀ e ∈ w.journal, ¬ e.Tries .attach c.handle n

/-- What a list of claimed interfaces becomes by a call on interface `n`: a successful claim adds
it, a successful release removes it, and nothing else matters. -/
def ListedAfter (op : InterfaceOp) (n : UInt8) (code : Int) (before after : List UInt8) : Prop :=
  ∀ m, m ∈ after ↔
    (op = .claim ∧ n = m ∧ code = 0) ∨ ¬ (op = .release ∧ n = m ∧ code = 0) ∧ m ∈ before

/-- A list follows a claim when the interface is entered after one that succeeds, if it is not there
yet. -/
theorem listedAfter_claim (n : UInt8) (code : Int) (claimed : List UInt8) :
    ListedAfter .claim n code claimed
      (if (Host.checkCode code).isOk && n ∉ claimed then claimed ++ [n] else claimed) := by
  intro m
  have hok := Host.isOk_checkCode code
  by_cases hcode : code = 0
  · rw [hok.mpr hcode, Bool.true_and]
    -- A claim that succeeds and changes nothing is one of an interface that is in the list.
    by_cases hold : n ∈ claimed
    · rw [if_neg (by simpa using hold)]
      refine ⟨fun hm => .inr ⟨by simp, hm⟩, ?_⟩
      rintro (⟨-, rfl, -⟩ | ⟨-, hm⟩)
      · exact hold
      · exact hm
    · rw [if_pos (by simpa using hold)]
      simp [hcode, or_comm, eq_comm]
  · rw [Bool.eq_false_iff.mpr fun h => hcode (hok.mp h), Bool.false_and]
    simp [hcode]

/-- A list follows a release when the interface is removed after one that succeeds. -/
theorem listedAfter_release (n : UInt8) (code : Int) (claimed : List UInt8) :
    ListedAfter .release n code claimed
      (if (Host.checkCode code).isOk then claimed.filter (· ≠ n) else claimed) := by
  intro m
  have hok := Host.isOk_checkCode code
  by_cases hcode : code = 0
  · rw [hok.mpr hcode, if_pos rfl]
    simp [hcode, and_comm, eq_comm (a := n)]
  · rw [Bool.eq_false_iff.mpr fun h => hcode (hok.mp h)]
    simp [hcode]

/-- The connections are in order: each has a handle of its own, and handles are numbered in the
order they are opened. -/
structure Valid (w : Worker η δ) : Prop where
  open_lt : ∀ h, w.handles.contains h → h.number < w.nextHandle
  entry_lt : ∀ e ∈ w.journal, e.OnInterface → e.handle.number < w.nextHandle
  kept : ∀ id c, w.connections.get? id = some c → Kept w c
  unique : ∀ id c id' c', w.connections.get? id = some c → w.connections.get? id' = some c' →
    c.handle = c'.handle → id = id'

/-! ## What one connection relies on -/

namespace Kept

variable {w w' : Worker η δ} {c : Connection} {handle : HostHandle} {added : List HostEntry}

/-- Entries that are not on interfaces of the connection's handle change nothing for it. -/
theorem append (h : Kept w c) (hopen : w'.handles.contains c.handle)
    (hjournal : w'.journal = added ++ w.journal)
    (hadded : ∀ e ∈ added, e.OnInterface → e.handle ≠ c.handle) : Kept w' c where
  isOpen := hopen
  claimed n := by
    rw [h.claimed, hjournal, stillClaimed_append]
    intro e he
    exact ⟨fun hclaim => hadded e he hclaim.tries.onInterface hclaim.1,
      fun hrelease => hadded e he hrelease.tries.onInterface hrelease.1⟩
  unattached n e he hattach := by
    rw [hjournal] at he
    rcases List.mem_append.mp he with he | he
    · exact hadded e he hattach.onInterface hattach.1
    · exact h.unattached n e he hattach

theorem quiet (h : Kept w c) (hq : Quiet w w') : Kept w' c := by
  obtain ⟨added, hjournal, hadded⟩ := hq.journal
  exact h.append (by rw [hq.handles]; exact h.isOpen) hjournal
    fun e he hi => absurd hi (hadded e he)

/-- What is done with another handle changes nothing. -/
theorem apart (h : Kept w c) (ht : Touches handle added w w') (hne : c.handle ≠ handle) :
    Kept w' c := by
  refine h.append (by rw [ht.isOpen_other _ hne]; exact h.isOpen) ht.journal fun e he _ => ?_
  rw [(ht.onHandle e he).1]
  exact hne.symm

/-- After a call on an interface the list has to follow. -/
theorem call (h : Kept w c) {location : Location} {op : InterfaceOp} {n : UInt8} {code : Int}
    (ht : Touches c.handle [⟨c.handle, location, .onInterface op n code⟩] w w')
    (hopen : w'.handles.contains c.handle) (hop : op ≠ .attach) {claimed : List UInt8}
    (hclaimed : ListedAfter op n code c.claimed claimed) :
    Kept w' { c with claimed } where
  isOpen := hopen
  claimed m := by
    rw [hclaimed, ht.journal, List.singleton_append, stillClaimed_cons, h.claimed]
    simp [HostEntry.Succeeds]
  unattached m e he hattach := by
    rw [ht.journal, List.singleton_append] at he
    rcases List.mem_cons.mp he with rfl | he
    · obtain ⟨-, code', hcall⟩ := hattach
      exact hop (HostCall.onInterface.inj hcall).1
    · exact h.unattached m e he hattach

end Kept

/-! ## Steps of the worker -/

namespace Valid

variable {w w' : Worker η δ} {id : ConnectionId} {c : Connection} {handle : HostHandle}
  {added : List HostEntry}

theorem quiet (hw : Valid w) (hq : Quiet w w') : Valid w' := by
  obtain ⟨added, hjournal, hadded⟩ := hq.journal
  refine ⟨?_, ?_, ?_, ?_⟩
  · rw [hq.handles, hq.nextHandle]
    exact hw.open_lt
  · intro e he hi
    rw [hjournal] at he
    rw [hq.nextHandle]
    rcases List.mem_append.mp he with he | he
    · exact absurd hi (hadded e he)
    · exact hw.entry_lt e he hi
  · rw [hq.connections]
    exact fun id c hc => (hw.kept id c hc).quiet hq
  · rw [hq.connections]
    exact hw.unique

/-- What is done with one handle keeps the numbering. -/
theorem numbered (hw : Valid w) (ht : Touches handle added w w') :
    (∀ h, w'.handles.contains h → h.number < w'.nextHandle) ∧
      ∀ e ∈ w'.journal, e.OnInterface → e.handle.number < w'.nextHandle := by
  rw [ht.nextHandle]
  constructor
  · intro h hopen
    by_cases heq : h = handle
    · subst h
      exact hw.open_lt handle (ht.isOpen_before hopen)
    · rw [ht.isOpen_other h heq] at hopen
      exact hw.open_lt h hopen
  · intro e he hi
    rw [ht.journal] at he
    rcases List.mem_append.mp he with he | he
    · obtain ⟨hhandle, hopen⟩ := ht.onHandle e he
      rw [hhandle]
      exact hw.open_lt handle hopen
    · exact hw.entry_lt e he hi

/-- A handle that no connection uses may be used and closed. -/
theorem apart (hw : Valid w) (ht : Touches handle added w w')
    (hunused : ∀ id c, w.connections.get? id = some c → c.handle ≠ handle) : Valid w' := by
  obtain ⟨hopen, hentry⟩ := hw.numbered ht
  refine ⟨hopen, hentry, ?_, ?_⟩
  · rw [ht.connections]
    exact fun id c hc => (hw.kept id c hc).apart ht (hunused id c hc)
  · rw [ht.connections]
    exact hw.unique

/-- The handle of a connection may be used, if the connection is replaced by one that fits what was
done. -/
theorem replace (hw : Valid w) (hc : w.connections.get? id = some c)
    (ht : Touches c.handle added w w') {claimed : List UInt8} (hkept : Kept w' { c with claimed })
    {connections : Table ConnectionId Connection}
    (hconn : ∀ k, connections.get? k =
      if k = id then some { c with claimed } else w.connections.get? k) :
    Valid { w' with connections } := by
  obtain ⟨hopen, hentry⟩ := hw.numbered ht
  -- Every connection has the handle it had.
  have hold : ∀ k d, connections.get? k = some d →
      ∃ d', w.connections.get? k = some d' ∧ d'.handle = d.handle := by
    intro k d hd
    rw [hconn] at hd
    split at hd
    · subst k
      cases hd
      exact ⟨c, hc, rfl⟩
    · exact ⟨d, hd, rfl⟩
  refine ⟨hopen, hentry, ?_, ?_⟩
  · intro k d (hd : connections.get? k = some d)
    rw [hconn] at hd
    split at hd
    · cases hd
      exact ⟨hkept.isOpen, hkept.claimed, hkept.unattached⟩
    case isFalse hk =>
      have hd' := (hw.kept k d hd).apart ht fun heq => hk (hw.unique k d id c hd hc heq)
      exact ⟨hd'.isOpen, hd'.claimed, hd'.unattached⟩
  · intro k d k' d' hd hd' heq
    obtain ⟨e, he, heh⟩ := hold k d hd
    obtain ⟨e', he', heh'⟩ := hold k' d' hd'
    exact hw.unique k e k' e' he he' (heh.trans (heq.trans heh'.symm))

/-- A connection may go. -/
theorem forget (hw : Valid w) (id : ConnectionId) :
    Valid { w with connections := w.connections.erase id } := by
  have hold : ∀ k d, (w.connections.erase id).get? k = some d → w.connections.get? k = some d := by
    intro k d hd
    rw [Table.get?_erase] at hd
    split at hd
    · cases hd
    · exact hd
  refine ⟨hw.open_lt, hw.entry_lt, ?_, ?_⟩
  · intro k d hd
    have h := hw.kept k d (hold k d hd)
    exact ⟨h.isOpen, h.claimed, h.unattached⟩
  · intro k d k' d' hd hd'
    exact hw.unique k d k' d' (hold k d hd) (hold k' d' hd')

/-- A handle may be opened. -/
theorem opens (hw : Valid w) (ho : Opens w w') : Valid w' := by
  obtain ⟨added, hjournal, hadded⟩ := ho.journal
  refine ⟨?_, ?_, ?_, ?_⟩
  · intro h hopen
    rw [ho.nextHandle]
    rcases (ho.isOpen h).mp hopen with rfl | hopen
    · exact Nat.lt_succ_self _
    · exact Nat.lt_succ_of_lt (hw.open_lt h hopen)
  · intro e he hi
    rw [hjournal] at he
    rw [ho.nextHandle]
    rcases List.mem_append.mp he with he | he
    · exact absurd hi (hadded e he)
    · exact Nat.lt_succ_of_lt (hw.entry_lt e he hi)
  · rw [ho.connections]
    intro id c hc
    have h := hw.kept id c hc
    exact h.append ((ho.isOpen _).mpr (.inr h.isOpen)) hjournal
      fun e he hi => absurd hi (hadded e he)
  · rw [ho.connections]
    exact hw.unique

/-- A connection's handle is older than one that is opened. -/
theorem handle_ne_next (hw : Valid w) (hc : w.connections.get? id = some c) :
    c.handle ≠ ⟨w.nextHandle⟩ := by
  intro heq
  have hlt := hw.open_lt _ (hw.kept id c hc).isOpen
  rw [heq] at hlt
  exact Nat.lt_irrefl _ hlt

/-- A new connection may have the handle that was opened for it. -/
theorem connect (hw : Valid w) (ho : Opens w w') (id : ConnectionId) (device : DeviceId)
    (nextConnection : UInt32) :
    Valid { w' with
      nextConnection
      connections := w'.connections.put id { device, handle := ⟨w.nextHandle⟩ } } := by
  have hw' := hw.opens ho
  obtain ⟨added, hjournal, hadded⟩ := ho.journal
  -- Nothing was done to an interface through the new handle.
  have hfresh : ∀ e ∈ w'.journal, e.OnInterface → e.handle ≠ ⟨w.nextHandle⟩ := by
    intro e he hi heq
    rw [hjournal] at he
    rcases List.mem_append.mp he with he | he
    · exact hadded e he hi
    · have hlt := hw.entry_lt e he hi
      rw [heq] at hlt
      exact Nat.lt_irrefl _ hlt
  have hcase : ∀ k d, (w'.connections.put id { device, handle := ⟨w.nextHandle⟩ }).get? k = some d →
      (k = id ∧ d = { device, handle := ⟨w.nextHandle⟩ }) ∨ w.connections.get? k = some d := by
    intro k d hd
    rw [Table.get?_put, ho.connections] at hd
    split at hd
    case isTrue hk => exact .inl ⟨hk, (Option.some.inj hd).symm⟩
    case isFalse => exact .inr hd
  -- So the empty list is right for the new connection, and the others are as before.
  refine ⟨hw'.open_lt, hw'.entry_lt, ?_, ?_⟩
  · intro k d hd
    rcases hcase k d hd with ⟨-, rfl⟩ | hd
    · refine ⟨(ho.isOpen _).mpr (.inl rfl), fun n => ?_, fun n e he hattach => ?_⟩
      · refine iff_of_false (by simp) fun hclaimed => ?_
        obtain ⟨e, he, hclaim⟩ := hclaimed.exists_claim
        exact hfresh e he hclaim.tries.onInterface hclaim.1
      · exact hfresh e he hattach.onInterface hattach.1
    · have h := hw'.kept k d (by rw [ho.connections]; exact hd)
      exact ⟨h.isOpen, h.claimed, h.unattached⟩
  · intro k d k' d' hd hd' heq
    rcases hcase k d hd with ⟨hk, rfl⟩ | hold <;> rcases hcase k' d' hd' with ⟨hk', rfl⟩ | hold'
    · exact hk.trans hk'.symm
    · exact absurd heq.symm (hw.handle_ne_next hold')
    · exact absurd heq (hw.handle_ne_next hold)
    · exact hw.unique k d k' d' hold hold' heq

theorem withConnection {action : Connection → WorkerM η δ (Outcome α)} (hw : Valid w)
    (h : ∀ c, w.connections.get? id = some c → Valid (after (action c) w)) :
    Valid (after (withConnection id action) w) := by
  unfold Worker.withConnection
  simp only [after_bind, after_get, result_get]
  cases hc : w.connections.get? id with
  | none => exact hw
  | some c => exact h c hc

theorem mapM {f : α → WorkerM η δ β} (hf : ∀ a w, Valid w → Valid (after (f a) w)) (as : List α)
    (hw : Valid w) : Valid (after (as.mapM f) w) := by
  induction as generalizing w with
  | nil => exact hw
  | cons a as ih =>
    rw [List.mapM_cons]
    exact ih (hf a w hw)

theorem forM {f : α → WorkerM η δ Unit} (hf : ∀ a w, Valid w → Valid (after (f a) w)) (as : List α)
    (hw : Valid w) : Valid (after (as.forM f) w) := by
  induction as generalizing w with
  | nil => exact hw
  | cons a as ih => exact ih (hf a w hw)

variable [Host η δ]

/-- The handle that strings are read through is no connection's, and is closed at once. -/
theorem recordOf (hw : Valid w) (id : DeviceId) (known : KnownDevice δ) :
    Valid (after (recordOf id known) w) := by
  unfold Worker.recordOf
  dsimp only
  rw [after_bind]
  rcases openHandle_cases known.device w with ⟨e, hresult, hquiet⟩ | ⟨hresult, hopens⟩
  · rw [hresult]
    exact hw.quiet hquiet
  · rw [hresult]
    -- The state in which the handle is closed: reading the strings was quiet.
    have hread (v : Worker η δ) (index : Option UInt8) :=
      IsQuiet.readText ⟨w.nextHandle⟩ known.device index v
    have hquiet := ((hread (after (openHandle known.device) w) known.descriptor.manufacturer).trans
      (hread _ known.descriptor.productName)).trans (hread _ known.descriptor.serialNumber)
    obtain ⟨added, ht, -⟩ :=
      touches_closeHandle (η := η) (δ := δ) ⟨w.nextHandle⟩ _
    refine ((hw.opens hopens).quiet hquiet).apart ht fun k c hc => ?_
    rw [hquiet.connections, hopens.connections] at hc
    exact hw.handle_ne_next hc

theorem getDevices (hw : Valid w) : Valid (after (getDevices (η := η)) w) := by
  unfold Worker.getDevices
  rw [after_bind]
  have hlist := hw.quiet (IsQuiet.onHost (η := η) Host.list w)
  cases result (onHost Host.list) w with
  | error e => exact hlist
  | ok list =>
    have hknown := (hlist.quiet (IsQuiet.mapM .identify list _)).quiet (IsQuiet.retain
      ((result (list.mapM Worker.identify) (after (onHost Host.list) w)).filterMap id) _)
    exact mapM (fun known v hv => hv.recordOf known.1 known.2) _ hknown

theorem openDevice (hw : Valid w) (id : DeviceId) : Valid (after (openDevice id) w) := by
  unfold Worker.openDevice
  simp only [after_bind, after_get, result_get]
  cases w.devices.get? id with
  | none => exact hw
  | some known =>
    simp only [after_bind]
    rcases openHandle_cases known.device w with ⟨e, hresult, hquiet⟩ | ⟨hresult, hopens⟩
    · rw [hresult]
      exact hw.quiet hquiet
    · rw [hresult]
      exact hw.connect hopens _ id _

/-- A handle is only closed when no connection uses it. -/
theorem dropHandle (hw : Valid w) (handle : HostHandle) : Valid (after (dropHandle handle) w) := by
  unfold Worker.dropHandle
  rw [after_bind, result_get, after_get]
  by_cases hused : w.isUsed handle
  · rw [if_pos hused]
    exact hw
  · rw [if_neg hused]
    obtain ⟨added, ht, -⟩ := touches_closeHandle handle w
    refine hw.apart ht fun id c hc heq => hused ?_
    have hmem : c ∈ w.connections.values := (w.connections.mem_values_iff c).mpr ⟨id, hc⟩
    unfold isUsed
    rw [Bool.or_eq_true]
    exact .inl (List.any_eq_true.mpr ⟨c, hmem, decide_eq_true heq⟩)

theorem endConnection (hw : Valid w) (hc : w.connections.get? id = some c) :
    Valid (after (endConnection id c) w) := by
  obtain ⟨added, rest, ht, -⟩ := touches_endConnection id c (hw.kept id c hc).isOpen
  refine (hw.forget id).apart ht fun k d hd heq => ?_
  rw [Table.get?_erase] at hd
  split at hd
  · cases hd
  case isFalse hk => exact hk (hw.unique k d id c hd hc heq)

theorem connections_endConnection (hw : Valid w) (hc : w.connections.get? id = some c) :
    (after (Worker.endConnection id c) w).connections = w.connections.erase id := by
  obtain ⟨_, _, ht, -⟩ := touches_endConnection id c (hw.kept id c hc).isOpen
  exact ht.connections

/-- Where a connection is ended before others, these are still there. -/
theorem get?_endConnection (hw : Valid w) (hc : w.connections.get? id = some c)
    {ps : List (ConnectionId × Connection)} (hnew : id ∉ ps.map (·.1))
    (hps : ∀ p ∈ ps, w.connections.get? p.1 = some p.2) :
    ∀ p ∈ ps, (after (Worker.endConnection id c) w).connections.get? p.1 = some p.2 := by
  intro p hp
  have hne : p.1 ≠ id := fun heq => hnew (List.mem_map.mpr ⟨p, hp, heq⟩)
  rw [hw.connections_endConnection hc, Table.get?_erase, if_neg hne]
  exact hps p hp

theorem closeDevice (hw : Valid w) (id : ConnectionId) : Valid (after (closeDevice id) w) :=
  hw.withConnection fun _ hc => hw.endConnection hc

/-- A call on an interface is made, and the list follows it. -/
theorem called (hw : Valid w) (hc : w.connections.get? id = some c) {op : InterfaceOp} {n : UInt8}
    (hop : op ≠ .attach) {claimed : List UInt8}
    (hclaimed : ListedAfter op n (result (onInterface op c.handle n) w) c.claimed claimed)
    {connections : Table ConnectionId Connection}
    (hconn : ∀ k, connections.get? k =
      if k = id then some { c with claimed } else w.connections.get? k) :
    Valid { after (onInterface op c.handle n) w with connections } := by
  have hkept := hw.kept id c hc
  obtain ⟨hopen, location, ht⟩ := touches_onInterface op n hkept.isOpen
  exact hw.replace hc ht (hkept.call ht hopen hop hclaimed) hconn

theorem connections_onInterface (hw : Valid w) (hc : w.connections.get? id = some c)
    (op : InterfaceOp) (n : UInt8) :
    (after (onInterface op c.handle n) w).connections = w.connections := by
  obtain ⟨-, location, ht⟩ := touches_onInterface op n (hw.kept id c hc).isOpen
  exact ht.connections

/-- The list is set to what it has to become. -/
theorem called_set (hw : Valid w) (hc : w.connections.get? id = some c) (op : InterfaceOp)
    (n : UInt8) (hop : op ≠ .attach) {claimed : List UInt8}
    (hclaimed : ListedAfter op n (result (onInterface op c.handle n) w) c.claimed claimed) :
    Valid (after (setClaimed id c claimed) (after (onInterface op c.handle n) w)) :=
  hw.called hc hop hclaimed fun k => by rw [Table.get?_put, hw.connections_onInterface hc]

/-- The list needs no change. -/
theorem called_same (hw : Valid w) (hc : w.connections.get? id = some c) (op : InterfaceOp)
    (n : UInt8) (hop : op ≠ .attach)
    (hclaimed : ListedAfter op n (result (onInterface op c.handle n) w) c.claimed c.claimed) :
    Valid (after (onInterface op c.handle n) w) := by
  refine hw.called hc hop hclaimed fun k => ?_
  change (after (onInterface op c.handle n) w).connections.get? k = _
  rw [hw.connections_onInterface hc]
  split
  case isTrue hk => rw [hk, hc]
  case isFalse => rfl

theorem detachDriver (hw : Valid w) (hc : w.connections.get? id = some c) (n : UInt8) :
    Valid (after (detachDriver c.handle n) w) ∧
      (after (detachDriver c.handle n) w).connections = w.connections := by
  have hasked := hw.called_same hc .kernelActive n (by simp) (by simp [ListedAfter])
  have hsame := hw.connections_onInterface hc .kernelActive n
  unfold Worker.detachDriver
  rw [after_bind]
  by_cases hactive : result (onInterface .kernelActive c.handle n) w = 1
  · rw [if_pos hactive, after_discard]
    exact ⟨hasked.called_same (hsame ▸ hc) .detach n (by simp) (by simp [ListedAfter]),
      (hasked.connections_onInterface (hsame ▸ hc) .detach n).trans hsame⟩
  · rw [if_neg hactive]
    exact ⟨hasked, hsame⟩

/-- A claim that succeeds enters the interface in the list, if it is not there. -/
theorem claimInterface (hw : Valid w) (id : ConnectionId) (n : UInt8) :
    Valid (after (claimInterface id n) w) := by
  refine hw.withConnection fun c hc => ?_
  obtain ⟨hw', hsame⟩ := hw.detachDriver hc n
  have hc' : (after (Worker.detachDriver c.handle n) w).connections.get? id = some c := hsame ▸ hc
  rw [after_bind, after_bind]
  generalize after (Worker.detachDriver c.handle n) w = v at *
  have hlist := listedAfter_claim n (result (onInterface .claim c.handle n) v) c.claimed
  dsimp only
  split
  case isTrue h =>
    rw [if_pos h] at hlist
    exact hw'.called_set hc' .claim n (by simp) hlist
  case isFalse h =>
    rw [if_neg h] at hlist
    exact hw'.called_same hc' .claim n (by simp) hlist

/-- A release that succeeds removes the interface from the list. -/
theorem releaseInterface (hw : Valid w) (id : ConnectionId) (n : UInt8) :
    Valid (after (releaseInterface id n) w) := by
  refine hw.withConnection fun c hc => ?_
  have hlist := listedAfter_release n (result (onInterface .release c.handle n) w) c.claimed
  rw [after_bind]
  dsimp only
  split
  case isTrue h =>
    rw [if_pos h] at hlist
    exact hw.called_set hc .release n (by simp) hlist
  case isFalse h =>
    rw [if_neg h] at hlist
    exact hw.called_same hc .release n (by simp) hlist

theorem finishTransfer (hw : Valid w) (job : Job) : Valid (after (finishTransfer job) w) := by
  have hover : Valid { w with jobs := w.jobs.erase job } :=
    hw.quiet ⟨rfl, rfl, rfl, [], rfl, by simp⟩
  exact hover.dropHandle job.handle

theorem perform (hw : Valid w) (command : WorkerCommand) : Valid (after (perform command) w) := by
  cases command with
  | getDevices => exact hw.getDevices
  | getConfigurations device => exact hw.quiet (IsQuiet.getConfigurations device w)
  | openDevice device => exact hw.openDevice device
  | closeDevice connection => exact hw.closeDevice connection
  | claimInterface connection number => exact hw.claimInterface connection number
  | releaseInterface connection number => exact hw.releaseInterface connection number
  | resetDevice connection => exact hw.quiet (IsQuiet.resetDevice connection w)
  | transfer connection request => exact hw.quiet (IsQuiet.transfer connection request w)

end Valid

/-! ## Workers that can be reached -/

/-- What becomes of a new worker by commands and transfers, over a host that may change in between
as it likes. Running transfers come to their end one by one, in any order. -/
inductive Reachable [Host η δ] : Worker η δ → Prop
  | new (host : η) (filters : List String) : Reachable { host, filters }
  | perform {w : Worker η δ} (hw : Reachable w) (command : WorkerCommand) :
      Reachable (after (perform command) w)
  | beginTransfer {w : Worker η δ} (hw : Reachable w) (id : ConnectionId)
      (request : TransferRequest) : Reachable (after (beginTransfer id request) w)
  | finishTransfer {w : Worker η δ} (hw : Reachable w) (job : Job) (running : job ∈ w.jobs) :
      Reachable (after (finishTransfer job) w)
  | hostChange {w : Worker η δ} (hw : Reachable w) (host : η) : Reachable { w with host }

theorem Valid.new (host : η) (filters : List String) : Valid ({ host, filters } : Worker η δ) where
  open_lt _ hopen := by simp [Table.contains] at hopen
  entry_lt := by simp
  kept _ _ hc := by simp at hc
  unique _ _ _ _ hc := by simp at hc

/-- **The connections of every worker that can be reached are in order.** -/
theorem Reachable.valid [Host η δ] {w : Worker η δ} (hw : Reachable w) : Valid w := by
  induction hw with
  | new host filters => exact .new host filters
  | perform _ command ih => exact ih.perform command
  | beginTransfer _ id request ih => exact ih.quiet (IsQuiet.beginTransfer id request _)
  | finishTransfer _ job _ ih => exact ih.finishTransfer job
  | hostChange _ host ih => exact ih.quiet ⟨rfl, rfl, rfl, [], rfl, by simp⟩

/-- All running transfers may come to their end at once. -/
theorem Reachable.finishTransfers [Host η δ] {w : Worker η δ} (hw : Reachable w) :
    Reachable (after finishTransfers w) :=
  finishTransfers_induction (fun _ job running hv => hv.finishTransfer job running) hw

/-- The worker has stopped: the connections that were left were ended, in some order. -/
def Stopped [Host η δ] (w w' : Worker η δ) : Prop :=
  ∃ ps : List (ConnectionId × Connection), ps.Perm w.connections.entries ∧
    w' = after (endConnections ps) w

theorem stopped_stop [Host η δ] (w : Worker η δ) : Stopped w (after stop w) := ⟨_, .refl _, rfl⟩

/-- What is ended when the worker stops are the open connections, each of them once. -/
theorem ended_of_perm {w : Worker η δ} {ps : List (ConnectionId × Connection)}
    (hps : ps.Perm w.connections.entries) :
    (ps.map (·.1)).Nodup ∧ ∀ p, p ∈ ps ↔ w.connections.get? p.1 = some p.2 :=
  ⟨(hps.map _).nodup_iff.mpr w.connections.distinct,
    fun p => hps.mem_iff.trans (w.connections.get?_eq_some_iff p.1 p.2).symm⟩

end Worker

end UsbHost
