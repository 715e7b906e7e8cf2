import UsbHost.Proofs.Session.Holdings

/-! # Calls as data

`Call` lists what callers of a session and its platform can do at one go.  For
each it is said which transfers may hold something else afterwards
(`Call.sameHoldings`), which callback it leaves in a transfer (`Call.callback`)
and which transfers may be tracked elsewhere (`Call.sameTracking`).
-/
namespace UsbHost

/-- What a caller assigns to a field of a transfer. -/
inductive Assignment (κ : Type) where
  | handle (handle : Option HandleKey)
  | buffer (buffer : Option (List UInt8))
  | callback (callback : Option (Callback κ))
  | flags (flags : TransferFlags)
  | endpoint (endpoint : UInt8)
  | kind (kind : TransferKind)
  | timeout (timeout : UInt32)
  | length (length : Nat)
  | status (status : TransferStatus)
  | count (count : Nat)

def Assignment.apply {κ : Type} (t : Transfer κ) : Assignment κ → Transfer κ
  | .handle h => { t with handle := h }
  | .buffer bytes => { t with buffer := bytes }
  | .callback c => { t with callback := c }
  | .flags bits => { t with flags := bits }
  | .endpoint number => { t with endpoint := number }
  | .kind k => { t with kind := k }
  | .timeout time => { t with timeout := time }
  | .length n => { t with length := n }
  | .status code => { t with status := code }
  | .count n => { t with count := n }

/-- What callers of a session, and its platform, do at one go. -/
inductive Call (σ κ : Type) where
  /-- The platform changes by itself. -/
  | platform (change : σ → σ)
  /-- The platform answers a transfer. -/
  | deliver (ticket : Ticket) (outcome : TransferOutcome)
  | newContext
  | reach (context : ContextId)
  | listDevices (context : ContextId)
  | refDevice (device : DeviceKey)
  | unrefDevice (device : DeviceKey)
  | freeDeviceList (devices : List DeviceKey) (unref : Bool)
  | activeConfig (device : Device)
  | openDevice (key : DeviceKey) (device : Device)
  | closeDevice (key : HandleKey) (handle : Handle)
  | claimInterface (handle : Handle) (number : UInt8)
  | releaseInterface (handle : Handle) (number : UInt8)
  | resetDevice (handle : Handle)
  | controlTransfer (handle : Handle) (requestType request : UInt8) (value index : UInt16)
    (data : List UInt8) (timeout : UInt32)
  | bulkTransfer (handle : Handle) (endpoint : UInt8) (data : List UInt8) (timeout : UInt32)
  | interruptTransfer (handle : Handle) (endpoint : UInt8) (data : List UInt8) (timeout : UInt32)
  | allocTransfer (isochronousPackets : Nat)
  | fillControl (id : TransferId) (handle : HandleKey) (buffer : List UInt8)
    (callback : Callback κ) (timeout : UInt32)
  | fillData (id : TransferId) (kind : TransferKind) (handle : HandleKey) (endpoint : UInt8)
    (buffer : List UInt8) (callback : Callback κ) (timeout : UInt32)
  | assign (id : TransferId) (assignment : Assignment κ)
  | submit (id : TransferId)
  | cancel (id : TransferId)
  | free (id : TransferId)

namespace Call
variable {σ κ : Type}

/-- The transfer that a call names. -/
def subject? : Call σ κ → Option TransferId
  | .fillControl id .. | .fillData id .. | .assign id _ | .submit id | .cancel id | .free id =>
    some id
  | _ => none

/-- What a call does to a session. -/
def run [Platform σ] : Call σ κ → SessionM σ κ Unit
  | .platform change => Session.onPlatform (modify change)
  | .deliver ticket outcome => Session.deliver ticket outcome
  | .newContext => discard Session.newContext
  | .reach context => Session.reach context
  | .listDevices context => discard (Session.listDevices context)
  | .refDevice device => Session.refDevice device
  | .unrefDevice device => Session.unrefDevice device
  | .freeDeviceList devices unref => Session.freeDeviceList devices unref
  | .activeConfig device => discard (Session.activeConfig device)
  | .openDevice key device => discard (Session.openDevice key device)
  | .closeDevice key handle => Session.closeDevice key handle
  | .claimInterface handle number => Session.claimInterface handle number
  | .releaseInterface handle number => Session.releaseInterface handle number
  | .resetDevice handle => Session.resetDevice handle
  | .controlTransfer handle requestType request value index data timeout =>
    discard (Session.controlTransfer handle requestType request value index data timeout)
  | .bulkTransfer handle endpoint data timeout =>
    discard (Session.bulkTransfer handle endpoint data timeout)
  | .interruptTransfer handle endpoint data timeout =>
    discard (Session.interruptTransfer handle endpoint data timeout)
  | .allocTransfer packets => discard (Session.allocTransfer packets)
  | .fillControl id handle buffer callback timeout =>
    modify (Session.alter id fun t => t.fillControl handle buffer callback timeout)
  | .fillData id kind handle endpoint buffer callback timeout =>
    modify (Session.alter id fun t => t.fillData kind handle endpoint buffer callback timeout)
  | .assign id assignment => modify (Session.alter id fun t => assignment.apply t)
  | .submit id => Session.submit id
  | .cancel id => Session.cancel id
  | .free id => discard (Session.free id)

@[simp] theorem after_free [Platform σ] (id : TransferId) (s : Session σ κ) :
    Session.after (Call.free id : Call σ κ).run s = Session.after (Session.free id) s :=
  Session.after_discard s _

/-- The callback that a call leaves in a transfer, if it sets it. -/
def sets? (id : TransferId) : Call σ κ → Option (Option (Callback κ))
  | .fillControl id' _ _ callback _ => if id' = id then some (some callback) else none
  | .fillData id' _ _ _ _ callback _ => if id' = id then some (some callback) else none
  | .assign id' (.callback callback) => if id' = id then some callback else none
  | .free id' => if id' = id then some none else none
  | _ => none

/-- The call gives something to a transfer: it fills it, or assigns what it is
to hold. -/
def Fills (id : TransferId) : Call σ κ → Prop
  | .fillControl id' .. => id' = id
  | .fillData id' .. => id' = id
  | .assign id' (.handle _) => id' = id
  | .assign id' (.buffer _) => id' = id
  | .assign id' (.callback _) => id' = id
  | _ => False

/-- The call frees a transfer. -/
def Frees (id : TransferId) : Call σ κ → Prop
  | .free id' => id' = id
  | _ => False

/-- A call that sets, fills or frees a transfer names it. -/
theorem subject?_of_sets {call : Call σ κ} {id : TransferId} {callback : Option (Callback κ)}
    (h : call.sets? id = some callback) : call.subject? = some id := by
  cases call with
  | fillControl id' | fillData id' | free id' =>
    simp only [sets?] at h
    split at h
    · rename_i heq
      rw [← heq]
      rfl
    · cases h
  | assign id' a =>
    cases a with
    | callback c =>
      simp only [sets?] at h
      split at h
      · rename_i heq
        rw [← heq]
        rfl
      · cases h
    | _ => cases h
  | _ => cases h

/-- Calls that name no transfer do what any relation allows that stands still when
no handle is opened, what the platform does by itself apart; so only the others are
left to be looked at. -/
@[elab_as_elim]
theorem byOpening [Platform σ] {motive : Call σ κ → Prop}
    (still : ∀ call : Call σ κ, call.subject? = none →
      (∀ P R, Session.Respects P → Session.Still P R → Session.Keeps R call.run) → motive call)
    (openDevice : ∀ key device, motive (.openDevice key device))
    (platform : ∀ change, motive (.platform change))
    (deliver : ∀ ticket outcome, motive (.deliver ticket outcome))
    (fillControl : ∀ id handle buffer callback timeout,
      motive (.fillControl id handle buffer callback timeout))
    (fillData : ∀ id kind handle endpoint buffer callback timeout,
      motive (.fillData id kind handle endpoint buffer callback timeout))
    (assign : ∀ id assignment, motive (.assign id assignment))
    (submit : ∀ id, motive (.submit id)) (cancel : ∀ id, motive (.cancel id))
    (free : ∀ id, motive (.free id)) (call : Call σ κ) : motive call := by
  cases call with
  | openDevice key device => exact openDevice key device
  | deliver ticket outcome => exact deliver ticket outcome
  | fillControl id handle buffer callback timeout => exact fillControl ..
  | fillData id kind handle endpoint buffer callback timeout => exact fillData ..
  | assign id assignment => exact assign ..
  | submit id => exact submit id
  | cancel id => exact cancel id
  | free id => exact free id
  | platform change => exact platform change
  | newContext => exact still _ rfl fun _ _ _ hR => hR.newContext.discard
  | reach context => exact still _ rfl fun _ _ _ hR => hR.reach _
  | listDevices context => exact still _ rfl fun _ _ hP hR => (hR.listDevices hP _).discard
  | refDevice device => exact still _ rfl fun _ _ _ hR => hR.refDevice _
  | unrefDevice device => exact still _ rfl fun _ _ _ hR => hR.unrefDevice _
  | freeDeviceList devices unref => exact still _ rfl fun _ _ _ hR => hR.freeDeviceList _ _
  | activeConfig device => exact still _ rfl fun _ _ hP hR => (hR.activeConfig hP _).discard
  | closeDevice key handle => exact still _ rfl fun _ _ hP hR => hR.closeDevice hP _ _
  | claimInterface handle number => exact still _ rfl fun _ _ hP hR => hR.claimInterface hP _ _
  | releaseInterface handle number =>
    exact still _ rfl fun _ _ hP hR => hR.releaseInterface hP _ _
  | resetDevice handle => exact still _ rfl fun _ _ hP hR => hR.resetDevice hP _
  | controlTransfer =>
    exact still _ rfl fun _ _ hP hR => (hR.controlTransfer hP _ _ _ _ _ _ _).discard
  | bulkTransfer => exact still _ rfl fun _ _ hP hR => (hR.bulkTransfer hP _ _ _ _).discard
  | interruptTransfer =>
    exact still _ rfl fun _ _ hP hR => (hR.interruptTransfer hP _ _ _ _).discard
  | allocTransfer packets => exact still _ rfl fun _ _ _ hR => (hR.allocTransfer _).discard

/-- Calls that name no transfer do what any neutral relation allows, what the
platform does by itself apart; so only the others are left to be looked at. -/
@[elab_as_elim]
theorem byCases [Platform σ] {motive : Call σ κ → Prop}
    (neutral : ∀ call : Call σ κ, call.subject? = none →
      (∀ P R, Session.Respects P → Session.Neutral P R → Session.Keeps R call.run) → motive call)
    (platform : ∀ change, motive (.platform change))
    (deliver : ∀ ticket outcome, motive (.deliver ticket outcome))
    (fillControl : ∀ id handle buffer callback timeout,
      motive (.fillControl id handle buffer callback timeout))
    (fillData : ∀ id kind handle endpoint buffer callback timeout,
      motive (.fillData id kind handle endpoint buffer callback timeout))
    (assign : ∀ id assignment, motive (.assign id assignment))
    (submit : ∀ id, motive (.submit id)) (cancel : ∀ id, motive (.cancel id))
    (free : ∀ id, motive (.free id)) (call : Call σ κ) : motive call := by
  induction call using byOpening with
  | still call named keeps =>
    exact neutral call named fun P R hP hR => keeps P R hP hR.toStill
  | openDevice key device => exact neutral _ rfl fun _ _ hP hR => (hR.openDevice hP _ _).discard
  | platform change => exact platform change
  | deliver ticket outcome => exact deliver ticket outcome
  | fillControl id handle buffer callback timeout => exact fillControl ..
  | fillData id kind handle endpoint buffer callback timeout => exact fillData ..
  | assign id assignment => exact assign ..
  | submit id => exact submit id
  | cancel id => exact cancel id
  | free id => exact free id

/-! ## What a call does to transfers and trackers -/

section Effects
open Session
variable [Platform σ] (call : Call σ κ) (s : Session σ κ)

/-- **Only a call that fills or frees a transfer changes what it holds.** -/
theorem sameHoldings :
    SameHoldings (fun id => ¬ call.Fills id ∧ ¬ call.Frees id) s (after call.run s) := by
  induction call using byCases with
  | neutral call named keeps => exact keeps _ _ respects_anyChange neutral_sameHoldings s
  | platform change => exact neutral_sameHoldings.platform s _ trivial
  | deliver ticket outcome => exact (keeps_holdings_track _ _).discard s
  | fillControl id | fillData id => exact sameHoldings_alter fun h => absurd rfl h.1
  | assign id a =>
    refine sameHoldings_alter fun h => ?_
    cases a with
    | handle | buffer | callback => exact absurd rfl h.1
    | _ => exact ⟨rfl, rfl, rfl⟩
  | submit id => exact keeps_holdings_submit id s
  | cancel id => exact neutral_sameHoldings.cancel (fun _ _ _ _ _ => sameHoldings_setTracker ..) s
  | free id =>
    obtain ⟨hallocated, hhandle, hbuffer, hcallback⟩ := (keeps_holdings_free id).discard s
    have hne : ∀ id', ¬ (Call.free id : Call σ κ).Frees id' → id' ≠ id :=
      fun id' h heq => h heq.symm
    exact ⟨hallocated, fun id' h => hhandle id' (hne id' h.2),
      fun id' h => hbuffer id' (hne id' h.2), fun id' h => hcallback id' (hne id' h.2)⟩

/-- The callback in a transfer is the one that the call sets, if it sets it. -/
theorem callback (known : ∀ id, call.subject? = some id → s.Allocated id) (id : TransferId) :
    ((after call.run s).transfer id).callback = (call.sets? id).getD (s.transfer id).callback := by
  have of_alter : ∀ {id' : TransferId} {f : Transfer κ → Transfer κ}, s.Allocated id' →
      ((s.alter id' f).transfer id).callback =
        if id' = id then (f (s.transfer id)).callback else (s.transfer id).callback := by
    intro id' f ha
    split
    · rename_i heq
      subst heq
      rw [transfer_alter_self ha]
    · rename_i hne
      rw [transfer_alter_of_ne (Ne.symm hne)]
  have same : (∀ id, ¬ call.Fills id ∧ ¬ call.Frees id) → call.sets? id = none →
      ((after call.run s).transfer id).callback =
        (call.sets? id).getD (s.transfer id).callback := by
    intro h hsets
    rw [hsets]
    exact (sameHoldings call s).callback id (h id)
  induction call using byCases with
  | neutral call named keeps =>
    -- A neutral call names no transfer, so it sets no callback either.
    have hsets : call.sets? id = none := by
      cases h : call.sets? id with
      | none => rfl
      | some c =>
        rw [subject?_of_sets h] at named
        cases named
    rw [hsets]
    exact (keeps _ _ respects_anyChange (neutral_sameHoldings (K := fun _ => True)) s).callback id
      trivial
  | platform change => exact same (fun _ => ⟨nofun, nofun⟩) rfl
  | deliver ticket outcome => exact same (fun _ => ⟨nofun, nofun⟩) rfl
  | submit id' => exact same (fun _ => ⟨nofun, nofun⟩) rfl
  | cancel id' => exact same (fun _ => ⟨nofun, nofun⟩) rfl
  | fillControl id' | fillData id' =>
    refine (of_alter (known id' rfl)).trans ?_
    simp only [sets?]
    split <;> rfl
  | assign id' a =>
    refine (of_alter (known id' rfl)).trans ?_
    cases a with
    | callback c =>
      simp only [sets?]
      split <;> rfl
    | _ => exact ite_self _
  | free id' =>
    simp only [sets?, run, after_discard]
    split
    · rename_i heq
      subst heq
      exact (transfer_after_free s id').2.2
    · rename_i hne
      exact (keeps_holdings_free id' s).callback id (Ne.symm hne)

/-- **Only submitting and freeing change where a transfer is tracked.** -/
theorem sameTracking :
    SameTracking (fun id => call ≠ .submit id ∧ call ≠ .free id) s (after call.run s) := by
  induction call using byCases with
  | neutral call named keeps => exact keeps _ _ respects_anyChange neutral_sameTracking s
  | platform change => exact neutral_sameTracking.platform s _ trivial
  | deliver ticket outcome => exact keeps_tracking_deliver ticket outcome s
  | fillControl id | fillData id | assign id => exact sameTracking_alter _
  | cancel id => exact keeps_tracking_cancel id s
  | submit id =>
    intro hs
    obtain ⟨hsound, hsame⟩ := keeps_tracking_submit id s hs
    exact ⟨hsound, fun c id' h => hsame c id' fun heq => h.1 (heq ▸ rfl)⟩
  | free id =>
    intro hs
    obtain ⟨hsound, hsame⟩ := (keeps_tracking_free id).discard s hs
    exact ⟨hsound, fun c id' h => hsame c id' fun heq => h.2 (heq ▸ rfl)⟩

/-- A transfer without a handle stays tracked where it was, until it is freed. -/
theorem tracked_of_no_handle {s : Session σ κ} {id : TransferId} (hs : s.Sound)
    (hhandle : (s.transfer id).handle = none) (hfree : ¬ call.Frees id) (c : ContextId) :
    ((after call.run s).tracker c).isTracked id = (s.tracker c).isTracked id := by
  by_cases hsubmit : call = .submit id
  · subst hsubmit
    rw [show after (Call.submit id : Call σ κ).run s = s from after_submit_of_no_handle hhandle]
  · refine ((sameTracking call s) hs).2 c id ⟨hsubmit, ?_⟩
    rintro rfl
    exact hfree rfl

end Effects

end Call

end UsbHost
