import UsbHost.Proofs.Session.Bench
import UsbHost.Proofs.Tracker.Fates

/-! # What a turn on a test bench does

A turn does at most one operation on one tracker, and it changes no transfer in
flight but one that it frees, finds or puts a callback back into (`Turn.effect`).
The parking lot is a queue: a turn puts the ticket of its submission at the end,
or takes that of its answer from the front (`Turn.parking`).

Both rest on it that a transfer is tracked in the context of its handle and
nowhere else (`Session.Home`), which every turn keeps.
-/
namespace UsbHost

/-! ## Where transfers are tracked -/

namespace Session
variable {σ κ : Type} {s s' : Session σ κ} {c : ContextId} {t : Tracker} {id : TransferId}
  {f : Transfer κ → Transfer κ}

/-- A transfer is tracked in the context of its handle only. -/
def Home (s : Session σ κ) : Prop :=
  ∀ c id, (s.tracker c).entries.get? id ≠ none → s.contextOf? (s.transfer id) = some c

theorem contextOf?_congr (hhandles : s'.handles = s.handles) {t t' : Transfer κ}
    (hhandle : t'.handle = t.handle) : s'.contextOf? t' = s.contextOf? t := by
  have hfind : s'.handle? = s.handle? := funext fun key => by rw [handle?, hhandles, handle?]
  rw [contextOf?, hfind, hhandle, contextOf?]

/-- The context of a transfer is not a matter of trackers. -/
theorem contextOf?_setTracker (id : TransferId) :
    (Session.setTracker c t s).contextOf? ((Session.setTracker c t s).transfer id) =
      s.contextOf? (s.transfer id) :=
  contextOf?_congr (handles_setTracker ..) (by rw [transfer_setTracker])

theorem home_plain : s.plain.Home ↔ s.Home := by
  simp only [Home, tracker_plain, transfer_plain, contextOf?_plain]

/-- A tracker may come to track transfers that are at home in its context. -/
theorem Home.setTracker (home : s.Home)
    (ht : ∀ id, t.entries.get? id ≠ none →
      (s.tracker c).entries.get? id ≠ none ∨ s.contextOf? (s.transfer id) = some c) :
    (Session.setTracker c t s).Home := by
  intro c' id tracked
  rw [contextOf?_setTracker]
  rcases tracker_setTracker s c c' t with hsame | ⟨rfl, hset⟩
  · exact home c' id (hsame ▸ tracked)
  · exact (ht id (hset ▸ tracked)).elim (home c' id) fun hid => hid

/-- A transfer may be given another handle as long as nobody tracks it. -/
theorem Home.alter (home : s.Home)
    (hf : (f (s.transfer id)).handle = (s.transfer id).handle ∨ s.Untracked id) :
    (s.alter id f).Home := by
  intro c id' tracked
  rw [tracker_alter] at tracked
  rw [← home c id' tracked]
  refine contextOf?_congr (handles_alter ..) (field_alter Transfer.handle ?_)
  rintro rfl
  exact hf.resolve_right fun untracked => tracked (untracked c)

theorem Home.untracked (home : s.Home) (h : s.contextOf? (s.transfer id) = none) :
    s.Untracked id := by
  intro c
  by_cases hc : (s.tracker c).entries.get? id = none
  · exact hc
  · rw [home c id hc] at h
    cases h

/-- A transfer that is submitted in the context of its handle is at home there. -/
theorem Home.enlist (home : s.Home) (hid : s.contextOf? (s.transfer id) = some c) :
    (Session.setTracker c ((s.tracker c).enlist id) s).Home := by
  refine home.setTracker fun id' tracked => ?_
  rw [Tracker.get?_enlist] at tracked
  split at tracked
  · rename_i heq
    exact .inr (heq ▸ hid)
  · exact .inl tracked

/-- A transfer that is removed from the context of its handle is tracked nowhere. -/
theorem Home.untracked_of_removed (home : s.Home)
    (hid : s.contextOf? (s.transfer id) = some c) :
    (Session.setTracker c ((s.tracker c).remove id).2 s).Untracked id := by
  intro c'
  by_cases hc : c' = c
  · rw [hc, tracker_setTracker_self fun h => by rw [h]; rfl, Tracker.get?_remove_self]
  · rw [tracker_setTracker_of_ne hc]
    by_cases h : (s.tracker c').entries.get? id = none
    · exact h
    · rw [home c' id h] at hid
      exact absurd (Option.some.inj hid) hc

/-- What was handed out is kept: handles are of the same context, and transfers
are as they were. -/
structure Extends (s s' : Session σ κ) : Prop where
  contexts : ∀ key c, (s.handle? key).map (·.context) = some c →
    (s'.handle? key).map (·.context) = some c
  transfers : ∀ id, s.Allocated id → s'.transfer? id = s.transfer? id

theorem neutral_extends : Neutral AnyChange (Extends (σ := σ) (κ := κ)) where
  refl _ := ⟨fun _ _ h => h, fun _ _ => rfl⟩
  trans h h' := by
    refine ⟨fun key c hc => h'.contexts key c (h.contexts key c hc), fun id ha => ?_⟩
    have hsame := h.transfers id ha
    rw [h'.transfers id (by rw [Allocated, hsame]; exact ha), hsame]
  platform _ _ _ := ⟨fun _ _ h => h, fun _ _ => rfl⟩
  notices _ _ := ⟨fun _ _ h => h, fun _ _ => rfl⟩
  devices _ _ := ⟨fun _ _ h => h, fun _ _ => rfl⟩
  opened s handle := by
    refine ⟨fun key c hc => ?_, fun _ _ => rfl⟩
    obtain ⟨found, hfound, rfl⟩ := Option.map_eq_some_iff.mp hc
    obtain ⟨hlt, -⟩ := List.getElem?_eq_some_iff.mp hfound
    have hsame : (s.handles ++ [handle])[key.index]? = some found := by
      rw [List.getElem?_append_left hlt]
      exact hfound
    exact congrArg (Option.map (·.context)) hsame
  closed s i := by
    refine ⟨fun key c hc => ?_, fun _ _ => rfl⟩
    have hsame : (s.handles.modify i fun handle => { handle with closed := true })[key.index]?.map
        (·.context) = s.handles[key.index]?.map (·.context) := by
      rw [List.getElem?_modify]
      cases s.handles[key.index]? with
      | none => rfl
      | some found => by_cases hi : i = key.index <;> simp [hi]
    exact hsame.trans hc
  reached _ _ := ⟨fun _ _ h => h, fun _ _ => rfl⟩
  context _ := ⟨fun _ _ h => h, fun _ _ => rfl⟩
  allocated s := by
    refine ⟨fun _ _ h => h, ?_⟩
    rintro ⟨_ | n⟩ ha
    · rfl
    · have hn : n < s.transfers.length := by simpa [Allocated, transfer?] using ha
      exact List.getElem?_append_left hn

theorem allocated_of_contextOf (h : s.contextOf? (s.transfer id) = some c) : s.Allocated id := by
  by_cases ha : s.Allocated id
  · exact ha
  · rw [transfer_of_not_allocated ha] at h
    cases h

theorem Home.of_extends (home : s.Home) (kept : s.Extends s')
    (htracker : ∀ c, s'.tracker c = s.tracker c) : s'.Home := by
  intro c id tracked
  have hcontext := home c id (htracker c ▸ tracked)
  have htransfer : s'.transfer id = s.transfer id := by
    rw [transfer, kept.transfers id (allocated_of_contextOf hcontext), transfer]
  rw [htransfer]
  unfold contextOf? at hcontext ⊢
  cases hkey : (s.transfer id).handle with
  | none => rw [hkey] at hcontext; cases hcontext
  | some key =>
    rw [hkey] at hcontext
    exact kept.contexts key c hcontext

end Session

namespace Bench
open Session
variable {κ : Type} {m m' : Bench κ} {e : Entry} {id : TransferId}

/-! ## What a turn does -/

/-- The operation of a turn, if it has one, is a step of one tracker, and the other
trackers stay as they are. -/
structure Steps (e : Entry) (s s' : Session ScriptedPlatform κ) : Prop where
  still : ∀ c, e.eventIn c = none → s'.tracker c = s.tracker c
  step : ∀ c event, e.eventIn c = some event →
    (s.tracker c).step event.op = .ok (event.reply, s'.tracker c)

namespace Steps
variable {s s' s'' : Session ScriptedPlatform κ}

theorem congr (steps : Steps e s s'') (h : ∀ c, s'.tracker c = s''.tracker c) : Steps e s s' where
  still c hc := (h c).trans (steps.still c hc)
  step c event hc := by rw [h c, steps.step c event hc]

theorem of_no_event (quiet : e.event? = none) (h : ∀ c, s'.tracker c = s.tracker c) :
    Steps e s s' where
  still c _ := h c
  step c event hc := by
    rw [Entry.eventIn_eq_some_iff, quiet] at hc
    cases hc

theorem of_event {c : ContextId} {event : Tracker.Event} (h : e.event? = some (c, event))
    (step : (s.tracker c).step event.op = .ok (event.reply, s'.tracker c))
    (others : ∀ c', c' ≠ c → s'.tracker c' = s.tracker c') : Steps e s s' where
  still c' hc' := by
    refine others c' ?_
    rintro rfl
    rw [Entry.eventIn_eq_some_iff.mpr h] at hc'
    cases hc'
  step c' event' hc' := by
    rw [Entry.eventIn_eq_some_iff, h] at hc'
    cases hc'
    exact step

end Steps

/-- What a turn does to a session: one operation on a tracker at most, and no
change of a transfer in flight, unless the turn frees it or finds it, or puts its
callback back. -/
structure Effect (s : Session ScriptedPlatform κ) (e : Entry) (out : TransferId → Prop)
    (s' : Session ScriptedPlatform κ) : Prop where
  steps : Steps e s s'
  home : s'.Home
  transfers : ∀ id, ¬ s.Untracked id → ¬ e.Frees id → ¬ e.Finds id → ¬ out id →
    s'.transfer? id = s.transfer? id

namespace Effect
variable {s s' s'' : Session ScriptedPlatform κ} {out : TransferId → Prop}

theorem of_plain (effect : Effect s e out s'') (h : s'.plain = s''.plain) : Effect s e out s' where
  steps := effect.steps.congr fun c => by rw [← tracker_plain, h, tracker_plain]
  home := home_plain.mp (h ▸ home_plain.mpr effect.home)
  transfers id tracked hfree hfind hout := by
    rw [← transfer?_plain, h, transfer?_plain, effect.transfers id tracked hfree hfind hout]

theorem refl (home : s.Home) (quiet : e.event? = none) : Effect s e out s where
  steps := .of_no_event quiet fun _ => rfl
  home := home
  transfers _ _ _ _ _ := rfl

/-- An operation on the tracker of a context that submits nothing. -/
theorem track (home : s.Home) (sound : s.Sound) {c : ContextId} {event : Tracker.Event}
    {t : Tracker} (h : e.event? = some (c, event))
    (step : (s.tracker c).step event.op = .ok (event.reply, t))
    (set : s.tracker c = {} → t = {}) (hop : ∀ id, event.op ≠ .register id) :
    Effect s e out (setTracker c t s) where
  steps := .of_event h ((tracker_setTracker_self set).symm ▸ step)
    fun _ hne => tracker_setTracker_of_ne hne t
  home := home.setTracker fun id tracked =>
    .inl (((sound c).effect step).tracked_before (hop id) tracked)
  transfers _ _ _ _ _ := transfer?_setTracker ..

/-- A change of a transfer that the turn may change. -/
theorem alter (effect : Effect s e out s') (f : Transfer κ → Transfer κ)
    (hid : s.Untracked id ∨ e.Frees id ∨ e.Finds id ∨ out id)
    (hf : (f (s'.transfer id)).handle = (s'.transfer id).handle ∨ s'.Untracked id) :
    Effect s e out (s'.alter id f) where
  steps := effect.steps.congr fun _ => tracker_alter _
  home := effect.home.alter hf
  transfers id' tracked hfree hfind hout := by
    have hne : id' ≠ id := by
      rintro rfl
      exact hid.elim tracked fun h => h.elim hfree fun h => h.elim hfind hout
    rw [transfer?_alter, if_neg hne, effect.transfers id' tracked hfree hfind hout]

theorem platform (effect : Effect s e out s') (p : ScriptedPlatform) :
    Effect s e out { s' with platform := p } where
  steps := effect.steps.congr (neutral_sameTrackers.platform s' p trivial)
  home := effect.home.of_extends (neutral_extends.platform s' p trivial)
    (neutral_sameTrackers.platform s' p trivial)
  transfers := effect.transfers

/-- A transfer in flight stays so unless it is freed or found. -/
theorem tracked (effect : Effect s e out s') (sound : s.Sound) (tracked : ¬ s.Untracked id)
    (kept : ¬ e.Frees id ∧ ¬ e.Finds id) : ¬ s'.Untracked id := by
  obtain ⟨c, hc⟩ := Classical.not_forall.mp tracked
  refine fun untracked => absurd (untracked c) ?_
  cases hevent : e.eventIn c with
  | none =>
    rw [effect.steps.still c hevent]
    exact hc
  | some event =>
    have hevent' := Entry.eventIn_eq_some_iff.mp hevent
    refine ((sound c).effect (effect.steps.step c event hevent)).tracked_after ?_ ?_ hc
    · intro hop
      exact kept.1 (Entry.frees_of_event hevent' hop)
    · intro r hreply
      exact kept.2 (Entry.finds_of_event hevent' hreply)

/-- A call that is no concern of transfers in flight. -/
theorem call (home : s.Home) (call : Call ScriptedPlatform κ) (permitted : s.Permits call) :
    Effect s .other out (after call.run s) := by
  have of_extends : s.Extends (after call.run s) →
      (∀ c, (after call.run s).tracker c = s.tracker c) →
      Effect s .other out (after call.run s) := by
    intro kept htracker
    refine ⟨.of_no_event rfl htracker, home.of_extends kept htracker, fun id tracked _ _ _ => ?_⟩
    obtain ⟨c, hc⟩ := Classical.not_forall.mp tracked
    exact kept.transfers id (allocated_of_contextOf (home c id hc))
  induction call using Call.byCases with
  | neutral call named keeps =>
    exact of_extends (keeps _ _ respects_anyChange neutral_extends s)
      (keeps _ _ respects_anyChange neutral_sameTrackers s)
  | platform change => exact (refl home rfl).platform _
  | fillControl id | fillData id | assign id =>
    exact (refl home rfl).alter _ (Or.inl permitted) (Or.inr permitted)
  | deliver | submit | cancel | free => exact permitted.elim

end Effect

/-- The callback of a transfer is out. -/
def Out (m : Bench κ) (id : TransferId) : Prop := ∃ callback, (id, callback) ∈ m.out

/-- A submission is an operation on the tracker of the transfer's context. -/
theorem effect_submit {s : Session ScriptedPlatform κ} {handle : Handle}
    {request : TransferRequest} {out : TransferId → Prop} (home : s.Home)
    (manual : s.platform.immediate = none)
    (accepts : s.Accepts id handle request) (made : s.HasContext handle.context) :
    Effect s (.submitted (s.nextTicket handle.context id)) out (after (submit id) s) := by
  have hstart : (s.start id handle request).1 = none :=
    congrArg Prod.fst (ScriptedPlatform.run_startTransfer manual ..)
  obtain ⟨s₀, hs₀⟩ : ∃ s₀, s₀ = s.alter id fun t => { t with count := 0 } := ⟨_, rfl⟩
  have htracker : ∀ c, s₀.tracker c = s.tracker c := fun c => by rw [hs₀, tracker_alter]
  have made₀ : s₀.HasContext handle.context := hs₀ ▸ hasContext_alter.mpr made
  have home₀ : s₀.Home := hs₀ ▸ home.alter (Or.inl rfl)
  have hcontext : s₀.contextOf? (s₀.transfer id) = some handle.context := by
    rw [← accepts.contextOf, hs₀]
    exact contextOf?_congr (handles_alter ..) (field_alter Transfer.handle fun _ => rfl)
  refine Effect.of_plain (.platform ?_ _) (plain_after_submit accepts hstart)
  rw [← hs₀, ← htracker]
  refine ⟨.of_event rfl ?_ fun c hc => ?_, home₀.enlist hcontext,
    fun id' tracked _ _ _ => ?_⟩
  · rw [context_nextTicket, made₀.tracker_setTracker, htracker]
    exact Tracker.step_register _ id accepts.free
  · rw [context_nextTicket] at hc
    rw [tracker_setTracker_of_ne hc, htracker]
  · -- The transfer that is submitted was not in flight.
    have hne : id' ≠ id := by
      rintro rfl
      obtain ⟨c, hc⟩ := Classical.not_forall.mp tracked
      have hc' := (home c id' hc).symm.trans accepts.contextOf
      cases hc'
      exact hc accepts.free
    rw [transfer?_setTracker, hs₀, transfer?_alter, if_neg hne]

/-- **What a turn does.** -/
theorem Turn.effect (now : Turn m e m') (home : m.session.Home) (sound : m.session.Sound)
    (manual : m.session.platform.immediate = none) :
    Effect m.session e m.Out m'.session := by
  cases now with
  | call call permitted => exact .call home call permitted
  | submit id handle request accepts made => exact effect_submit home manual accepts made
  | refuse id e refused =>
    exact .of_plain (.refl home rfl) (plain_after_submit_refused refused)
  | cancel id c context =>
    have tracked : Effect m.session (.cancelled c id ((m.session.tracker c).cancel id).1) m.Out
        (setTracker c ((m.session.tracker c).cancel id).2 m.session) :=
      .track home sound rfl (Tracker.step_cancel ..) (fun h => by rw [h]; rfl) nofun
    exact tracked.of_plain ((plain_after_cancel context).trans (plain_setTracker ..).symm)
  | free id =>
    cases hc : m.session.contextOf? (m.session.transfer id) with
    | none =>
      -- Without a handle there is no context, and no tracker that has the transfer.
      have untracked := home.untracked hc
      exact ((Effect.refl home rfl).alter _ (Or.inl untracked) (Or.inr untracked)).of_plain
        ((plain_after_free_of_no_context hc).trans (plain_alter ..).symm)
    | some c =>
      have tracked : Effect m.session (.freed id (some (c, ((m.session.tracker c).remove id).1)))
          m.Out (setTracker c ((m.session.tracker c).remove id).2 m.session) :=
        .track home sound rfl (Tracker.step_remove ..) (fun h => by rw [h]; rfl) nofun
      refine (tracked.alter (fun _ => (m.session.transfer id).release.2)
        (Or.inr (Or.inl rfl)) (Or.inr (home.untracked_of_removed hc))).of_plain
        ((plain_after_free hc).trans ?_)
      rw [plain_alter, plain_setTracker]
  | complete outcome ticket parked oldest =>
    have tracked : Effect m.session (.answered ticket outcome
          ((m.session.tracker ticket.context).deliver ticket.submission outcome).1) m.Out
        (setTracker ticket.context
          ((m.session.tracker ticket.context).deliver ticket.submission outcome).2 m.session) :=
      .track home sound rfl (Tracker.step_deliver ..) (fun h => by rw [h]; rfl) nofun
    have tracked := tracked.platform { m.session.platform with parked := parked }
    refine tracked.of_plain ((plain_after_completeNext oldest outcome).trans ?_)
    exact congrArg (fun s : Session ScriptedPlatform κ =>
      { s with platform := { m.session.platform with parked := parked } })
      (plain_setTracker ..).symm
  | completeNone outcome empty =>
    rw [after_completeNext_of_empty empty]
    exact .refl home rfl
  | find c id outcome first =>
    -- The callback is taken out, and concluding the transfer keeps its handle.
    have tracked : Effect m.session (.found c (some (id, outcome))) m.Out
        (setTracker c (m.session.tracker c).extract.2 m.session) :=
      .track home sound rfl (by rw [← first]; exact Tracker.step_extract ..)
        (fun h => by rw [h]; rfl) nofun
    refine (tracked.alter
      (fun _ => { (m.session.transfer id).conclude outcome with callback := none })
      (Or.inr (Or.inr (Or.inl rfl))) (Or.inl ?_)).of_plain ((plain_after_finalize first).trans ?_)
    · rw [transfer_setTracker]
      exact Transfer.conclude_handle ..
    · rw [plain_alter, plain_setTracker]
  | findNone c empty =>
    have tracked : Effect m.session (.found c none) m.Out
        (setTracker c (m.session.tracker c).extract.2 m.session) :=
      .track home sound rfl (by rw [← empty]; exact Tracker.step_extract ..)
        (fun h => by rw [h]; rfl) nofun
    exact tracked.of_plain ((plain_after_finalize_of_none empty).trans (plain_setTracker ..).symm)
  | putBack before later id callback out =>
    exact (Effect.refl home rfl).alter _
      (Or.inr (Or.inr (Or.inr ⟨callback, by rw [out]; simp⟩))) (Or.inl rfl)

/-! ## The parking lot -/

theorem neutral_sameParking : Neutral ScriptedPlatform.SameParking
    fun s s' : Session ScriptedPlatform κ =>
      ScriptedPlatform.SameParking s.platform s'.platform where
  refl _ := ⟨rfl, rfl⟩
  trans h h' := ⟨h'.parked.trans h.parked, h'.immediate.trans h.immediate⟩
  platform _ _ h := h
  notices _ _ := ⟨rfl, rfl⟩
  devices _ _ := ⟨rfl, rfl⟩
  opened _ _ := ⟨rfl, rfl⟩
  closed _ _ := ⟨rfl, rfl⟩
  reached _ _ := ⟨rfl, rfl⟩
  context _ := ⟨rfl, rfl⟩
  allocated _ := ⟨rfl, rfl⟩

theorem sameParking_call {s : Session ScriptedPlatform κ} (call : Call ScriptedPlatform κ)
    (permitted : s.Permits call) :
    ScriptedPlatform.SameParking s.platform (after call.run s).platform := by
  have of_alter : ∀ {id : TransferId} {f : Transfer κ → Transfer κ},
      ScriptedPlatform.SameParking s.platform (s.alter id f).platform := by
    intro id f
    rw [platform_alter]
    exact ⟨rfl, rfl⟩
  induction call using Call.byCases with
  | neutral call named keeps =>
    exact keeps _ _ ScriptedPlatform.respects_sameParking neutral_sameParking s
  | platform change => exact permitted
  | fillControl | fillData | assign => exact of_alter
  | deliver | submit | cancel | free => exact permitted.elim

/-- **Turns treat the parked transfers as a queue.** -/
theorem Turn.parking (now : Turn m e m') (manual : m.session.platform.immediate = none) :
    m.session.platform.parked ++ e.ticket?.toList =
        (e.answer?.map Prod.fst).toList ++ m'.session.platform.parked ∧
      m'.session.platform.immediate = none := by
  -- Most turns neither park a transfer nor answer one, and leave the platform as it is.
  have same : ∀ {s' : Session ScriptedPlatform κ}, e.ticket? = none → e.answer? = none →
      ScriptedPlatform.SameParking m.session.platform s'.platform →
      m.session.platform.parked ++ e.ticket?.toList =
          (e.answer?.map Prod.fst).toList ++ s'.platform.parked ∧
        s'.platform.immediate = none := by
    intro s' hticket hanswer hs'
    rw [hticket, hanswer, hs'.parked, hs'.immediate]
    exact ⟨List.append_nil _, manual⟩
  have of_plain : ∀ {s' s'' : Session ScriptedPlatform κ}, s'.plain = s'' →
      s''.platform = m.session.platform →
      ScriptedPlatform.SameParking m.session.platform s'.platform := by
    intro s' s'' hplain hs''
    have hplatform : s'.platform = m.session.platform := (congrArg platform hplain).trans hs''
    rw [hplatform]
    exact ⟨rfl, rfl⟩
  cases now with
  | call call permitted => exact same rfl rfl (sameParking_call call permitted)
  | submit id handle request accepts made =>
    rw [platform_after_submit accepts, start, ScriptedPlatform.run_startTransfer manual]
    exact ⟨rfl, manual⟩
  | refuse id e refused => exact same rfl rfl (of_plain (plain_after_submit_refused refused) rfl)
  | cancel id c context =>
    exact same rfl rfl (of_plain (plain_after_cancel context) (platform_setTracker ..))
  | free id =>
    refine same rfl rfl ?_
    cases hc : m.session.contextOf? (m.session.transfer id) with
    | none => exact of_plain (plain_after_free_of_no_context hc) (platform_alter ..)
    | some c =>
      exact of_plain (plain_after_free hc)
        ((platform_alter ..).trans (platform_setTracker ..))
  | complete outcome ticket parked oldest =>
    have hplatform : (after (completeNext outcome) m.session).platform =
        { m.session.platform with parked := parked } := by
      rw [← platform_plain, plain_after_completeNext oldest outcome]
    rw [hplatform, oldest]
    exact ⟨List.append_nil _, manual⟩
  | completeNone outcome empty =>
    rw [after_completeNext_of_empty empty]
    exact same rfl rfl ⟨rfl, rfl⟩
  | find c id outcome first =>
    exact same rfl rfl (of_plain (plain_after_finalize first)
      ((platform_alter ..).trans (platform_setTracker ..)))
  | findNone c empty =>
    exact same rfl rfl (of_plain (plain_after_finalize_of_none empty) (platform_setTracker ..))
  | putBack before later id callback out =>
    exact same rfl rfl (of_plain (plain_alter ..) (platform_alter ..))

/-! ## What is tracked, and what is out -/

/-- A transfer that was submitted is tracked. -/
theorem Turn.tracked_submitted {ticket : Ticket} (now : Turn m (.submitted ticket) m')
    (home : m.session.Home) (sound : m.session.Sound)
    (manual : m.session.platform.immediate = none) :
    ¬ m'.session.Untracked ticket.submission.transfer := by
  have step := (now.effect home sound manual).steps.step ticket.context _
    (Entry.eventIn_eq_some_iff.mpr rfl)
  exact fun untracked =>
    ((sound _).effect step).tracked_of_register rfl (untracked ticket.context)

/-- A transfer that was freed is not tracked. -/
theorem Turn.untracked_freed (now : Turn m e m') (frees : e.Frees id)
    (home : m'.session.Home) : m'.session.Untracked id := by
  refine home.untracked ?_
  cases now with
  | free id' =>
    obtain rfl : id' = id := frees
    rw [contextOf?, (transfer_after_free m.session id').1]
    rfl
  | _ => exact frees.elim

/-- Only finding a transfer takes its callback out. -/
theorem Turn.out (now : Turn m e m') (out : m'.Out id) : m.Out id ∨ e.Finds id := by
  obtain ⟨callback, hmem⟩ := out
  cases now with
  | find c id' outcome first =>
    rcases List.mem_cons.mp hmem with heq | hmem
    · cases heq
      exact Or.inr rfl
    · exact Or.inl ⟨callback, hmem⟩
  | putBack before later id' callback' hout =>
    refine Or.inl ⟨callback, ?_⟩
    rw [hout]
    rcases List.mem_append.mp hmem with hmem | hmem
    · exact List.mem_append_left _ hmem
    · exact List.mem_append_right _ (List.mem_cons_of_mem _ hmem)
  | _ => exact Or.inl ⟨callback, hmem⟩

end Bench

end UsbHost
