import UsbHost.Host.Scripted
import UsbHost.Proofs.Worker.Connections

/-! # Kernel drivers are handed back

Claiming an interface detaches a kernel driver that is in the way.  What is
detached should be attached again when the connection is closed or the worker
stops.  But only the interfaces in the connection's list are handed back, and a
driver is detached before it is known whether the interface can be claimed.  So a
driver comes back exactly when its interface is still claimed
(`Reachable.handedBack_iff`): after a claim that failed, or a release by hand, it
does not (`exists_not_handedBack`).
-/
namespace UsbHost
namespace Worker

variable {η δ : Type} [Host η δ]

/-- Kernel drivers are attached to the interfaces in `S`, by handle and number, and none is
detached. -/
def Attaches (S : HostHandle → UInt8 → Prop) (w w' : Worker η δ) : Prop :=
  ∃ added, w'.journal = added ++ w.journal ∧ ∀ handle n,
    (∀ e ∈ added, ¬ e.Tries .detach handle n) ∧
      ((∃ e ∈ added, e.Tries .attach handle n) ↔ S handle n)

section Attaching
variable {w w' : Worker η δ} {id : ConnectionId} {c : Connection}

omit [Host η δ] in
/-- Nothing was attached through an open handle before, so what was detached is handed back exactly
if it is attached now. -/
theorem Attaches.comesBack_iff {S : HostHandle → UInt8 → Prop} (h : Attaches S w w')
    (hc : Kept w c) (n : UInt8) :
    HandedBack w'.journal c.handle n ↔ (Detached w.journal c.handle n → S c.handle n) := by
  obtain ⟨added, hjournal, hadded⟩ := h
  obtain ⟨hdetach, hattach⟩ := hadded c.handle n
  rw [hjournal, handedBack_append (hc.unattached n) fun e he h => hdetach e he h.tries, hattach]

/-- Ending a connection attaches to what it has claimed. -/
theorem attaches_endConnection (hw : Valid w) (hc : w.connections.get? id = some c) :
    Attaches (fun handle n => handle = c.handle ∧ n ∈ c.claimed) w
      (after (endConnection id c) w) := by
  obtain ⟨added, rest, ht, hattempts, hrest⟩ :=
    touches_endConnection id c (hw.kept id c hc).isOpen
  refine ⟨added, ht.journal, fun handle n => ⟨fun e he hdetach => ?_, ?_⟩⟩
  · obtain ⟨-, hmem⟩ := (ht.exists_tries_iff .detach handle n).mp ⟨e, he, hdetach⟩
    rw [hattempts, List.mem_append, List.mem_flatMap] at hmem
    rcases hmem with ⟨m, -, hm⟩ | hmem
    · simp at hm
    · exact absurd (hrest _ hmem) (by simp)
  · rw [ht.exists_tries_iff, hattempts, List.mem_append, List.mem_flatMap]
    refine and_congr_right fun _ => ?_
    constructor
    · rintro (⟨m, hm, hpair⟩ | hmem)
      · have hn : n = m := by simpa using hpair
        exact hn ▸ hm
      · exact absurd (hrest _ hmem) (by simp)
    · exact fun hn => .inl ⟨n, hn, by simp⟩

theorem closeDevice_eq (hc : w.connections.get? id = some c) :
    after (closeDevice id) w = after (endConnection id c) w := by
  unfold closeDevice withConnection
  rw [after_bind, result_get, after_get, hc, after_bind, after_pure]

/-- Ending connections one after another attaches to what they have claimed. -/
theorem attaches_endConnections (hw : Valid w) (ps : List (ConnectionId × Connection))
    (hdistinct : (ps.map (·.1)).Nodup)
    (hps : ∀ p ∈ ps, w.connections.get? p.1 = some p.2) :
    Attaches (fun handle n => ∃ p ∈ ps, handle = p.2.handle ∧ n ∈ p.2.claimed) w
      (after (endConnections ps) w) := by
  induction ps generalizing w with
  | nil => exact ⟨[], rfl, by simp⟩
  | cons p ps ih =>
    obtain ⟨id, c⟩ := p
    obtain ⟨hnew, hdistinct⟩ := List.nodup_cons.mp hdistinct
    have hc := hps (id, c) (.head _)
    have hleft := hw.get?_endConnection hc hnew fun p hp => hps p (.tail _ hp)
    obtain ⟨added, hjournal, hadded⟩ := attaches_endConnection hw hc
    obtain ⟨rest, hjournal', hrest⟩ := ih (hw.endConnection hc) hdistinct hleft
    refine ⟨rest ++ added, ?_, fun handle n => ?_⟩
    · rw [List.append_assoc, ← hjournal]
      exact hjournal'
    obtain ⟨hdetach, hattach⟩ := hadded handle n
    obtain ⟨hdetach', hattach'⟩ := hrest handle n
    constructor
    · intro e he
      rcases List.mem_append.mp he with he | he
      · exact hdetach' e he
      · exact hdetach e he
    · simp only [List.mem_append, or_and_right, exists_or, hattach, hattach', List.mem_cons,
        exists_eq_left, or_comm]

/-- Stopping the worker attaches to what the open connections have claimed. -/
theorem attaches_of_stopped (hw : Valid w) (stopped : Stopped w w') :
    Attaches (fun handle n => ∃ id c, w.connections.get? id = some c ∧ handle = c.handle ∧
      n ∈ c.claimed) w w' := by
  obtain ⟨ps, hps, rfl⟩ := stopped
  obtain ⟨hdistinct, hmem⟩ := ended_of_perm hps
  obtain ⟨added, hjournal, hadded⟩ :=
    attaches_endConnections hw ps hdistinct fun p => (hmem p).mp
  refine ⟨added, hjournal, fun handle n => ⟨(hadded handle n).1, (hadded handle n).2.trans ?_⟩⟩
  simp only [hmem, Prod.exists]

end Attaching

/-- **Closing a connection, or stopping the worker, hands a kernel driver back exactly when it was
never detached or its interface is still claimed.** It does not matter in which order the
connections that are left are ended; `stop` is one way of it (`stopped_stop`). -/
theorem Reachable.handedBack_iff {w : Worker η δ} (hw : Reachable w) {id : ConnectionId}
    {c : Connection} (hc : w.connections.get? id = some c) (n : UInt8) :
    (HandedBack (after (closeDevice id) w).journal c.handle n ↔
      (Detached w.journal c.handle n → StillClaimed w.journal c.handle n)) ∧
    ∀ w', Stopped w w' → (HandedBack w'.journal c.handle n ↔
      (Detached w.journal c.handle n → StillClaimed w.journal c.handle n)) := by
  have hv := hw.valid
  have hkept := hv.kept id c hc
  rw [← hkept.claimed, closeDevice_eq hc]
  constructor
  · rw [(attaches_endConnection hv hc).comesBack_iff hkept]
    simp
  · intro w' stopped
    rw [(attaches_of_stopped hv stopped).comesBack_iff hkept]
    refine imp_congr_right fun _ => ⟨?_, fun hn => ⟨id, c, hc, rfl, hn⟩⟩
    rintro ⟨id', c', hc', heq, hn⟩
    obtain rfl := hv.unique id c id' c' hc hc' heq
    obtain rfl := Option.some.inj (hc.symm.trans hc')
    exact hn

/-- A device with kernel drivers on its interfaces, which answers a claim with a code. -/
def drivenDevice (claimCode : Int) : ScriptedDevice where
  location := ⟨1, 1⟩
  descriptor := .ok ⟨0x1234, 0x5678, 0x0100, none, none, none, 1⟩
  strings := []
  configs := []
  active := .ok 0
  claimCodes := ⟨fun _ => claimCode⟩
  kernelCodes := ⟨fun _ => 1⟩

/-- A worker that has opened the device and has tried to claim its first interface. -/
def claiming (claimCode : Int) : Worker ScriptedHost ScriptedDevice :=
  after (perform (.claimInterface ⟨1⟩ 0)) <| after (perform (.openDevice ⟨1⟩)) <|
    after (perform .getDevices) { host := { devices := [drivenDevice claimCode] } }

theorem reachable_claiming (claimCode : Int) : Reachable (claiming claimCode) :=
  (((Reachable.new _ []).perform _).perform _).perform _

theorem handedBack_claimed :
    Reachable (claiming 0) ∧ (claiming 0).connections.get? ⟨1⟩ = some ⟨⟨1⟩, ⟨1⟩, [0]⟩ ∧
      HandedBack (after (closeDevice ⟨1⟩) (claiming 0)).journal ⟨1⟩ 0 := by
  have hc : (claiming 0).connections.get? ⟨1⟩ = some ⟨⟨1⟩, ⟨1⟩, [0]⟩ := by rfl
  refine ⟨reachable_claiming 0, hc, ?_⟩
  refine ((reachable_claiming 0).handedBack_iff hc 0).1.mpr fun _ => ?_
  exact ⟨[], _, _, rfl, ⟨rfl, rfl⟩, by simp⟩

/-- The claim fails after the driver was detached, and closing the connection does not attach it
again. -/
theorem exists_not_handedBack :
    ∃ (w : Worker ScriptedHost ScriptedDevice) (id : ConnectionId) (c : Connection) (n : UInt8),
      Reachable w ∧ w.connections.get? id = some c ∧
        ¬ HandedBack (after (closeDevice id) w).journal c.handle n := by
  refine ⟨claiming (-6), ⟨1⟩, ⟨⟨1⟩, ⟨1⟩, []⟩, 0, reachable_claiming (-6), by rfl, fun h => ?_⟩
  -- The journal ends with the detaching, the claim that fails and the closing of the handle.
  obtain ⟨e, he, hattach⟩ := h
    [⟨⟨1⟩, ⟨1, 1⟩, .close⟩, ⟨⟨1⟩, ⟨1, 1⟩, .onInterface .claim 0 (-6)⟩] _ _ rfl ⟨rfl, rfl⟩
  rcases he with _ | ⟨_, _ | ⟨_, he⟩⟩
  · simp [HostEntry.Tries] at hattach
  · simp [HostEntry.Tries] at hattach
  · cases he

end Worker

end UsbHost
