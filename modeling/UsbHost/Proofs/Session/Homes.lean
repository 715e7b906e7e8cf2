import UsbHost.Platform.Scripted
import UsbHost.Proofs.Session.Moves
import UsbHost.Record.Sample

/-! # Transfers are tracked where their handles point to

A transfer is registered in the context that its handle has when it is submitted, and
is cancelled and freed in the context that its handle has then.  These are the same as
long as a transfer gets another handle only while nobody tracks it (`Proper`), however
calls, callbacks and events follow each other: then every tracked transfer is at home
(`Orderly`), and that is what cancelling and freeing rely on (`Reaches.at_home`).
-/
namespace UsbHost

namespace Tracker
variable (t : Tracker) (id : TransferId)

theorem cancel_fst : (t.cancel id).1 = t.isPending id := by
  unfold cancel isPending
  split <;> rfl

variable {t id} in
theorem cancel_of_not_pending (h : t.isPending id = false) : (t.cancel id).2 = t := by
  unfold isPending at h
  unfold cancel
  split at h
  · cases h
  · rfl

variable {t id} in
theorem isTracked_of_isPending (h : t.isPending id = true) : t.isTracked id = true := by
  unfold isPending at h
  rw [isTracked_iff]
  intro hnone
  rw [hnone] at h
  cases h

end Tracker

/-- The transfer that a call gives a handle, or takes one from, with that handle. -/
def Call.rehandles? {σ κ : Type} : Call σ κ → Option (TransferId × Option HandleKey)
  | .fillControl id key .. => some (id, some key)
  | .fillData id _ key .. => some (id, some key)
  | .assign id (.handle key) => some (id, key)
  | _ => none

namespace Session

variable {σ κ : Type} {s s' : Session σ κ} {c : ContextId} {t : Tracker} {id : TransferId}

/-- The call opens devices of contexts that were made only, and gives handles that
were opened to transfers that nobody tracks only. -/
structure Proper (s : Session σ κ) (call : Call σ κ) : Prop where
  opens : Opens s call
  fills : ∀ id key?, call.rehandles? = some (id, key?) →
    s.Untracked id ∧ ∀ key, key? = some key → (s.handle? key).isSome

/-- Every tracked transfer is at home, and the handles of all transfers were opened. -/
structure Orderly (s : Session σ κ) : Prop where
  home : s.Home
  opened : ∀ id key, (s.transfer id).handle = some key → (s.handle? key).isSome

theorem handle?_congr (h : s'.handles = s.handles) (key : HandleKey) :
    s'.handle? key = s.handle? key := by
  rw [handle?, h, handle?]

theorem setTracker_tracker_plain (s : Session σ κ) (c : ContextId) :
    Session.setTracker c (s.tracker c) s.plain = s.plain := by
  cases c with
  | default => rfl
  | explicit i =>
    have hsame : s.trackers.set i (s.trackers.getD i {}) = s.trackers := by
      by_cases hi : i < s.trackers.length
      · simp [hi]
      · exact List.set_eq_of_length_le (by omega)
    exact congrArg (fun ts => { s.plain with trackers := ts }) hsame

namespace Orderly

theorem new (platform : σ) : Orderly ({ platform } : Session σ κ) where
  home c id tracked := by
    rw [tracker_new] at tracked
    exact absurd (Table.get?_empty id) tracked
  opened id key h := by
    obtain ⟨_ | n⟩ := id <;> cases h

theorem of_plain (orderly : s.Orderly) (h : s'.plain = s.plain) : s'.Orderly where
  home := home_plain.mp (h ▸ home_plain.mpr orderly.home)
  opened id key hkey := by
    rw [← transfer_plain, h, transfer_plain] at hkey
    exact handle?_congr (congrArg handles h) key ▸ orderly.opened id key hkey

theorem platform (orderly : s.Orderly) (p : σ) : Orderly { s with platform := p } where
  home := orderly.home.of_extends (neutral_extends.platform s p trivial)
    (neutral_sameTrackers.platform s p trivial)
  opened := orderly.opened

theorem setTracker (orderly : s.Orderly) (home : (Session.setTracker c t s).Home) :
    (Session.setTracker c t s).Orderly where
  home := home
  opened id key hkey := by
    rw [transfer_setTracker] at hkey
    rw [handle?_congr (handles_setTracker ..)]
    exact orderly.opened id key hkey

/-- An operation on a tracker that registers nothing. -/
theorem operate (orderly : s.Orderly) {e : Tracker.Event}
    (effect : Tracker.Effect (s.tracker c) e t) (hop : ∀ id, e.op ≠ .register id) :
    (Session.setTracker c t s).Orderly :=
  orderly.setTracker (orderly.home.setTracker fun id tracked =>
    .inl (effect.tracked_before (hop id) tracked))

/-- A transfer keeps its handle, or gets another while nobody tracks it. -/
theorem alter (orderly : s.Orderly) {f : Transfer κ → Transfer κ}
    (hf : (f (s.transfer id)).handle = (s.transfer id).handle ∨
      s.Untracked id ∧ ∀ key, (f (s.transfer id)).handle = some key → (s.handle? key).isSome) :
    (s.alter id f).Orderly where
  home := orderly.home.alter (hf.imp_right And.left)
  opened id' key hkey := by
    rw [handle?_congr (handles_alter ..)]
    by_cases hid : id' = id ∧ s.Allocated id
    · obtain ⟨rfl, ha⟩ := hid
      rw [transfer_alter_self ha] at hkey
      exact hf.elim (fun h => orderly.opened id' key (h ▸ hkey)) fun h => h.2 key hkey
    · have hsame : (s.alter id f).transfer id' = s.transfer id' := by
        by_cases hne : id' = id
        · subst hne
          exact alter_of_not_allocated fun ha => hid ⟨rfl, ha⟩
        · exact transfer_alter_of_ne hne
      exact orderly.opened id' key (hsame ▸ hkey)

theorem deliver (orderly : s.Orderly) (ticket : Ticket) (outcome : TransferOutcome) :
    (after (Session.deliver ticket outcome) s).Orderly :=
  (orderly.operate (Tracker.deliver_effect ..) fun _ h => by cases h).of_plain
    ((plain_after_deliver ..).trans (plain_setTracker ..).symm)

theorem cancel (orderly : s.Orderly) (id : TransferId) :
    (after (Session.cancel id) s).Orderly := by
  cases hc : s.contextOf? (s.transfer id) with
  | none =>
    have hsame : after (Session.cancel id) s = s := by simp [Session.cancel, after_bind, hc]
    exact hsame.symm ▸ orderly
  | some c =>
    exact (orderly.operate (Tracker.cancel_effect ..) fun _ h => by cases h).of_plain
      ((plain_after_cancel hc).trans (plain_setTracker ..).symm)

/-- Freeing takes the handle from a transfer that nobody tracks any more. -/
theorem free (orderly : s.Orderly) (id : TransferId) : (after (Session.free id) s).Orderly := by
  have released : ∀ key, (s.transfer id).release.2.handle = some key → (s.handle? key).isSome :=
    fun key h => by cases h
  cases hc : s.contextOf? (s.transfer id) with
  | none =>
    exact (orderly.alter (.inr ⟨orderly.home.untracked hc, released⟩)).of_plain
      ((plain_after_free_of_no_context hc).trans (plain_alter ..).symm)
  | some c =>
    have removed := orderly.operate (Tracker.remove_effect (s.tracker c) id) fun _ h => by cases h
    refine (removed.alter (f := fun _ => (s.transfer id).release.2)
      (.inr ⟨orderly.home.untracked_of_removed hc, fun key h => by cases h⟩)).of_plain ?_
    rw [plain_after_free hc, plain_alter, plain_setTracker]

theorem poll (orderly : s.Orderly) (sound : s.Sound) (c : ContextId) :
    (after (EventLoop.poll c) s).Orderly :=
  (orderly.operate (sound c).extract_effect fun _ h => by cases h).of_plain
    ((plain_after_poll s c).trans (plain_setTracker ..).symm)

theorem finish (orderly : s.Orderly) (id : TransferId) (outcome : TransferOutcome) :
    (after (Session.finish id outcome) s).Orderly :=
  (orderly.alter (f := fun _ => { (s.transfer id).conclude outcome with callback := none })
    (.inl (Transfer.conclude_handle ..))).of_plain
    ((plain_after_finish ..).trans (plain_alter ..).symm)

variable [Platform σ]

/-- A submission registers a transfer at home. -/
theorem submit (orderly : s.Orderly) (id : TransferId) :
    (after (Session.submit id) s).Orderly := by
  have counted : (s.alter id fun t => { t with count := 0 }).Orderly := orderly.alter (.inl rfl)
  rcases s.accepts_or_not_launched id with ⟨handle, request, accepts⟩ | ⟨-, hplain | hplain⟩
  · have hid : (s.alter id fun t => { t with count := 0 }).contextOf?
        ((s.alter id fun t => { t with count := 0 }).transfer id) = some handle.context := by
      rw [← accepts.contextOf]
      exact contextOf?_congr (handles_alter ..) (field_alter Transfer.handle fun _ => rfl)
    have enlisted : (s.submitted id handle request).Orderly := by
      refine (counted.setTracker ?_).platform _
      rw [← tracker_alter]
      exact counted.home.enlist hid
    obtain ⟨s', hs', hrun⟩ := submit_run accepts
    have registered : s'.Orderly := enlisted.of_plain hs'
    rw [after, hrun]
    cases (s.start id handle request).1 with
    | none => exact registered
    | some outcome => exact registered.deliver _ outcome
  · exact orderly.of_plain hplain
  · exact counted.of_plain hplain

/-- **Every move of a proper session leaves transfers at home.** -/
theorem move (orderly : s.Orderly) (sound : s.Sound) (move : Move σ κ)
    (proper : ∀ call, move = .call call → s.Proper call) : (after move.run s).Orderly := by
  cases move with
  | poll c =>
    rw [Move.after_poll]
    exact orderly.poll sound c
  | finish id outcome =>
    rw [Move.after_finish]
    exact orderly.finish id outcome
  | restore id callback =>
    rw [Move.after_restore]
    exact orderly.alter (.inl rfl)
  | call call =>
    have proper := proper call rfl
    rw [Move.after_call]
    induction call using Call.byCases with
    | neutral call named keeps =>
      -- Handles are only added, so those that transfers have stay open.
      have same := keeps _ _ respects_anyChange (neutral_sameHoldings (K := fun _ => True)) s
      have kept := keeps _ _ respects_anyChange neutral_extends s
      refine ⟨orderly.home.of_extends kept
        (keeps _ _ respects_anyChange neutral_sameTrackers s), fun id key hkey => ?_⟩
      rw [same.handle id trivial] at hkey
      obtain ⟨handle, hhandle⟩ := Option.isSome_iff_exists.mp (orderly.opened id key hkey)
      obtain ⟨handle', hhandle', -⟩ := Option.map_eq_some_iff.mp
        (kept.contexts key handle.context (by rw [hhandle]; rfl))
      exact Option.isSome_of_mem hhandle'
    | platform change => exact orderly.platform _
    | deliver ticket outcome => exact orderly.deliver ticket outcome
    | fillControl id handle | fillData id _ handle =>
      obtain ⟨untracked, hopened⟩ := proper.fills id _ rfl
      exact orderly.alter (.inr ⟨untracked, hopened⟩)
    | assign id a =>
      cases a with
      | handle key? =>
        obtain ⟨untracked, hopened⟩ := proper.fills id key? rfl
        exact orderly.alter (.inr ⟨untracked, hopened⟩)
      | _ => exact orderly.alter (.inl rfl)
    | submit id => exact orderly.submit id
    | cancel id => exact orderly.cancel id
    | free id =>
      rw [Call.after_free]
      exact orderly.free id

end Orderly

/-! ## Main result -/

section Reaching
variable [Platform σ] {h : List Bench.Entry}

theorem Reaches.orderly (reaches : Reaches Proper h s) : s.Orderly := by
  induction reaches with
  | new platform => exact .new platform
  | move before move allowed ih =>
    exact ih.move (before.sound fun _ _ => Proper.opens) move allowed

omit [Platform σ] in
/-- A cancellation finds a transfer that is pending anywhere, and leaves any other as
it is. -/
theorem Orderly.result_cancel (orderly : s.Orderly) {key : HandleKey}
    (handle : (s.transfer id).handle = some key) :
    (result (Session.cancel id) s = .ok () ↔ ∃ c, (s.tracker c).isPending id) ∧
    ((¬ ∃ c, (s.tracker c).isPending id) →
      result (Session.cancel id) s = .error (.error .notFound) ∧
      (after (Session.cancel id) s).plain = s.plain) := by
  obtain ⟨found, hfound⟩ := Option.isSome_iff_exists.mp (orderly.opened id key handle)
  have hc : s.contextOf? (s.transfer id) = some found.context := by
    rw [contextOf?, handle, Option.bind_some, hfound]
    rfl
  have hpending : (∃ c, (s.tracker c).isPending id) ↔ (s.tracker found.context).isPending id := by
    refine ⟨?_, fun pending => ⟨_, pending⟩⟩
    rintro ⟨c, pending⟩
    have tracked := Tracker.isTracked_iff.mp (Tracker.isTracked_of_isPending pending)
    have hsame : some found.context = some c := hc.symm.trans (orderly.home c id tracked)
    cases hsame
    exact pending
  have hresult := Session.result_cancel hc
  rw [Tracker.cancel_fst] at hresult
  rw [hpending, hresult]
  cases pending : (s.tracker found.context).isPending id with
  | true => exact ⟨iff_of_true rfl rfl, fun hnot => absurd rfl hnot⟩
  | false =>
    refine ⟨iff_of_false (fun h => by cases h) (fun h => by cases h), fun _ => ⟨rfl, ?_⟩⟩
    rw [plain_after_cancel hc, Tracker.cancel_of_not_pending pending, setTracker_tracker_plain]

/-- **Transfers are tracked where their handles point to.**  In every session in which
transfers get handles only while nobody tracks them:
* a transfer is tracked in one context at most, and if it is, it has a handle, which
  is of this context;
* a transfer with a handle is cancelled exactly if it is in flight in some context, and
  otherwise it is not found and nothing changes;
* a transfer that was freed is tracked in no context;
* it stays so when events are handled, if it does in the callbacks. -/
theorem Reaches.at_home (reaches : Reaches Proper h s) :
    (∀ id c c', (s.tracker c).isTracked id → (s.tracker c').isTracked id → c = c') ∧
    (∀ id c, (s.tracker c).isTracked id → ∃ key handle, (s.transfer id).handle = some key ∧
      s.handle? key = some handle ∧ handle.context = c) ∧
    (∀ id key, (s.transfer id).handle = some key →
      (result (cancel id) s = .ok () ↔ ∃ c, (s.tracker c).isPending id) ∧
      ((¬ ∃ c, (s.tracker c).isPending id) →
        result (cancel id) s = .error (.error .notFound) ∧
        (after (cancel id) s).plain = s.plain)) ∧
    (∀ id c, ((after (free id) s).tracker c).isTracked id = false) ∧
    (∀ (run : TransferId → Callback κ → SessionM σ κ Unit) (c : ContextId),
      (∀ id callback s, (∃ h, Reaches Proper h s) →
        ∃ h, Reaches Proper h (after (run id callback) s)) →
      ∃ h, Reaches Proper h (after (handleEvents (σ := σ) run c) s)) := by
  have orderly := reaches.orderly
  have home : ∀ id c, (s.tracker c).isTracked id = true →
      s.contextOf? (s.transfer id) = some c :=
    fun id c tracked => orderly.home c id (Tracker.isTracked_iff.mp tracked)
  refine ⟨fun id c c' tracked tracked' => ?_, fun id c tracked => ?_,
    fun id key handle => orderly.result_cancel handle, fun id c => ?_, fun run c hrun => ?_⟩
  · exact Option.some.inj ((home id c tracked).symm.trans (home id c' tracked'))
  · obtain ⟨handle, hbind, hcontext⟩ := Option.map_eq_some_iff.mp (home id c tracked)
    obtain ⟨key, hkey, hhandle⟩ := Option.bind_eq_some_iff.mp hbind
    exact ⟨key, handle, hkey, hhandle, hcontext⟩
  · rw [isTracked_after_free]
    cases tracked : (s.tracker c).isTracked id with
    | true => simp [home id c tracked]
    | false => rfl
  · exact exists_reaches_handleEvents (fun s id => ⟨nofun, nofun⟩) hrun reaches c

end Reaching

/-- A transfer is in its callback when it is given a handle of another context and is
submitted again. -/
theorem at_home_moved :
    ∃ (h : List Bench.Entry) (s : Session ScriptedPlatform Unit), Reaches Proper h s ∧
      (s.tracker (.explicit 0)).isPending ⟨1⟩ = true ∧
      (s.tracker .default).isTracked ⟨1⟩ = false ∧
      (∃ key handle, (s.transfer ⟨1⟩).handle = some key ∧ s.handle? key = some handle ∧
        handle.context = .explicit 0) ∧
      result (cancel ⟨1⟩) s = .ok () ∧
      ∀ c, ((after (free ⟨1⟩) s).tracker c).isTracked ⟨1⟩ = false := by
  have opened := (((Reaches.new (P := Proper) (κ := Unit) ({} : ScriptedPlatform)).call
    .newContext ⟨nofun, nofun⟩).call
    (.openDevice ⟨0⟩ ⟨.default, Sample.device 1 0x1000 0x2000, 1⟩)
      ⟨by rintro _ _ ⟨⟩; trivial, nofun⟩).call
    (.openDevice ⟨0⟩ ⟨.explicit 0, Sample.device 1 0x1000 0x2000, 1⟩)
      ⟨by rintro _ _ ⟨⟩; exact Nat.one_pos, nofun⟩
  have filled := (opened.call (.allocTransfer 0) ⟨nofun, nofun⟩).call
    (.fillData ⟨1⟩ .bulk ⟨0⟩ 0x81 [] {} 0) ⟨nofun, by
      rintro _ _ ⟨⟩
      exact ⟨by rintro (_ | _ | _) <;> rfl, by rintro _ ⟨⟩; rfl⟩⟩
  have completed := (filled.call (.submit ⟨1⟩) ⟨nofun, nofun⟩).call
    (.deliver ⟨.default, ⟨⟨1⟩, 1⟩⟩ .canceled) ⟨nofun, nofun⟩
  have inside := (completed.poll .default).finish ⟨1⟩ .canceled
  have again := ((inside.call (.fillData ⟨1⟩ .bulk ⟨1⟩ 0x81 [] {} 0) ⟨nofun, by
      rintro _ _ ⟨⟩
      exact ⟨by rintro (_ | _ | _) <;> rfl, by rintro _ ⟨⟩; rfl⟩⟩).call
    (.submit ⟨1⟩) ⟨nofun, nofun⟩).restore ⟨1⟩ (some ⟨[], 1⟩)
  obtain ⟨once, home, cancels, frees, -⟩ := again.at_home
  refine ⟨_, _, again, rfl, ?_, home ⟨1⟩ (.explicit 0) rfl,
    (cancels ⟨1⟩ ⟨1⟩ rfl).1.mpr ⟨.explicit 0, rfl⟩, frees ⟨1⟩⟩
  rw [← Bool.not_eq_true]
  intro tracked
  cases once ⟨1⟩ _ (.explicit 0) tracked rfl

end Session
end UsbHost
