import UsbHost.Proofs.Command.Devices
import UsbHost.Proofs.Command.Surroundings
import UsbHost.Proofs.Descriptor.Wire
import UsbHost.Proofs.Session.Waiting

/-! # Asking for a device descriptor

A transfer asks a device for its descriptor, and the caller handles events until the
transfer is finished or patience comes to its end (`readOver_spec`).  In both cases the
transfer is freed and nothing is left behind of it.  A descriptor is read only if the
device sent one in time (`descriptorIn_finished`), and whenever it did, if no other
transfer was in flight.
-/
namespace UsbHost
namespace Command
open Session

variable {σ κ : Type}

/-! ## What is asked and what is made of the answer -/

/-- The request for the device descriptor. -/
def descriptorExchange : Exchange := .control 0x80 0x06 0x100 0

/-- The place of the descriptor in the buffer. -/
def blank : List UInt8 := List.replicate 18 0

/-- The buffer of the request: the setup block, and the place of the descriptor behind it. -/
def requestBuffer : List UInt8 := descriptorExchange.head blank ++ blank

/-- There is room for the setup block. -/
theorem descriptorRequest_eq : descriptorRequest = .ok requestBuffer := rfl

/-- The transfer that asks for the descriptor over a handle. -/
def asking (h : HandleKey) : Transfer κ :=
  ({} : Transfer κ).fillControl h requestBuffer {} descriptorTimeout

/-- What the platform is asked for. -/
def descriptorAsked : TransferRequest :=
  .control
    { direction := .input
      recipient := .device
      kind := .standard
      request := 6
      value := 0x100
      index := 0
      length := some 18
      data := none
      timeout := 1000 }

theorem asking_eq_fill (h : HandleKey) :
    asking h = descriptorExchange.fill blank descriptorTimeout h ({} : Callback κ) {} := rfl

theorem fits_blank : descriptorExchange.Fits blank := show 18 < UInt16.size by decide

theorem request_asking (h : HandleKey) : (asking h : Transfer κ).request = .ok descriptorAsked := by
  have noFlags : TransferFlags.empty.contains .addZeroPacket = false := by decide
  rw [asking_eq_fill, Exchange.request_fill _ fits_blank _ _ _ noFlags]
  rfl

theorem covers_asking (h : HandleKey) :
    (asking h : Transfer κ).Covers (descriptorExchange.head blank) blank :=
  Exchange.covers_fill descriptorTimeout fits_blank h {} {}

/-- The first 18 bytes hold a descriptor if there are so many and the second says so. -/
theorem exists_parse_iff {data : List UInt8} :
    (∃ d, DeviceDescriptor.parse (data.take 18) = some d) ↔
      18 ≤ data.length ∧ data[1]? = some 1 := by
  rw [← Option.isSome_iff_exists, DeviceDescriptor.isSome_parse_iff, List.length_take,
    List.getElem?_take_of_lt (by decide)]
  refine and_congr_left fun _ => ?_
  omega

/-- Without the word that all went well the transfer has not completed. -/
theorem status_of_refused (h : HandleKey) {outcome : TransferOutcome}
    (refused : ∀ bytes, outcome ≠ .succeeded (.success bytes)) :
    ((asking h : Transfer κ).conclude outcome).status ≠ .completed := by
  cases outcome with
  | succeeded response =>
    obtain ⟨code, bytes⟩ := response
    have hcode : code ≠ some Response.successCode := fun hcode => refused bytes (by rw [hcode]; rfl)
    rw [Transfer.conclude_refused _ bytes hcode]
    exact nofun
  | failed message => exact nofun
  | canceled => exact nofun

/-- **The buffer can be cut exactly if there is room for a setup block in it**, or if the
transfer has not completed and it is not looked at. -/
theorem descriptorOf_faults_iff {status : TransferStatus} {count : Nat} {buffer : List UInt8} :
    (∃ fault, descriptorOf status count buffer = .error fault) ↔
      status = .completed ∧ buffer.length < Setup.size := by
  rw [descriptorOf]
  by_cases hstatus : status = .completed
  · rw [if_neg (not_not_intro hstatus)]
    by_cases hsize : Setup.size ≤ buffer.length
    · rw [slice_of_le (Nat.le_min.mpr ⟨Nat.le_add_right .., hsize⟩) (Nat.min_le_right ..)]
      refine iff_of_false ?_ fun h => Nat.not_lt.mpr hsize h.2
      rintro ⟨fault, hfault⟩
      cases hfault
    · have hcut : ¬ Setup.size ≤ min (Setup.size + count) buffer.length :=
        fun h => hsize (Nat.le_trans h (Nat.min_le_right ..))
      rw [slice_of_not_le fun h => hcut h.1]
      exact iff_of_true ⟨_, rfl⟩ ⟨hstatus, Nat.lt_of_not_le hsize⟩
  · rw [if_pos hstatus]
    refine iff_of_false ?_ fun h => hstatus h.1
    rintro ⟨fault, hfault⟩
    cases hfault

/-- Of a transfer that has completed the bytes behind the setup block are read. -/
theorem descriptorOf_of_completed {head bytes : List UInt8} (hhead : head.length = Setup.size)
    (count : Nat) :
    descriptorOf .completed count (head ++ bytes) =
      .ok ((DeviceDescriptor.parse (bytes.take count)).elim (.error (.shortDescriptor count))
        .ok) := by
  have hsize : Setup.size ≤ (head ++ bytes).length := by
    rw [List.length_append, hhead]
    exact Nat.le_add_right ..
  have hbytes : ((head ++ bytes).take (min (Setup.size + count) (head ++ bytes).length)).drop
      Setup.size = bytes.take count := by
    rw [← List.take_take, List.take_length, ← hhead, List.take_length_add_append,
      List.drop_left]
  rw [descriptorOf, if_neg (not_not_intro rfl),
    slice_of_le (Nat.le_min.mpr ⟨Nat.le_add_right .., hsize⟩) (Nat.min_le_right ..), hbytes]
  rfl

/-- What is read in a transfer that was finished, once it has been freed. -/
def descriptorIn (t : Transfer κ) : Except Fault (Except Error DeviceDescriptor) :=
  descriptorOf t.status t.count (t.release.1.getD [])

theorem descriptorIn_of_completed {t : Transfer κ} {head bytes : List UInt8}
    (noFlags : t.flags = .empty) (completed : t.status = .completed)
    (hbuffer : t.buffer = some (head ++ bytes)) (hhead : head.length = Setup.size) :
    descriptorIn t = .ok ((DeviceDescriptor.parse (bytes.take t.count)).elim
      (.error (.shortDescriptor t.count)) .ok) := by
  have hrelease : t.release.1 = some (head ++ bytes) := by
    have hkeep : TransferFlags.empty.contains .freeBuffer = false := by decide
    rw [Transfer.release, noFlags, hkeep, if_neg Bool.false_ne_true, hbuffer]
  rw [descriptorIn, completed, hrelease, Option.getD_some]
  exact descriptorOf_of_completed hhead t.count

theorem descriptorIn_answered (h : HandleKey) {r : Response} {a : Applied}
    (ha : r.apply false 18 blank = a) (completed : a.status = .completed) :
    descriptorIn ((asking h : Transfer κ).finished (.succeeded r)) =
      .ok ((DeviceDescriptor.parse (a.dest.take a.count)).elim
        (.error (.shortDescriptor a.count)) .ok) := by
  have hshort : (asking h : Transfer κ).flags.contains .shortNotOk = false :=
    show TransferFlags.empty.contains .shortNotOk = false by decide
  have hblank : blank.length = 18 := rfl
  rw [Transfer.finished, (covers_asking h).conclude, hshort, hblank, ha]
  exact descriptorIn_of_completed rfl completed rfl rfl

/-- A descriptor arrived in the first bytes of an answer. -/
def Brings (d : DeviceDescriptor) (answer : Option TransferOutcome) : Prop :=
  ∃ data, answer = some (.succeeded (.success (some data))) ∧
    DeviceDescriptor.parse (data.take 18) = some d

theorem brings_some {outcome : TransferOutcome} {d : DeviceDescriptor} :
    Brings d (some outcome) ↔ ∃ data, outcome = .succeeded (.success (some data)) ∧
      DeviceDescriptor.parse (data.take 18) = some d := by
  simp only [Brings, Option.some.injEq]

/-- **A descriptor is what the device sent**, as far as there was room for it, and whatever
was sent, the buffer can be cut. -/
theorem descriptorIn_finished (h : HandleKey) (outcome : TransferOutcome) :
    ∃ result, descriptorIn ((asking h : Transfer κ).finished outcome) = .ok result ∧
      ∀ d, result = .ok d ↔ Brings d (some outcome) := by
  simp only [brings_some]
  rcases outcome.success_cases with ⟨_ | data, rfl⟩ | refused
  · -- An answer without bytes leaves the buffer blank, and a blank one holds no descriptor.
    refine ⟨_, descriptorIn_answered h (Response.apply_output ..) rfl, fun d => ?_⟩
    constructor
    · intro hd
      cases hd
    · rintro ⟨data, hdata, -⟩
      cases hdata
  · have htake : (overwrite (data.take 18) blank).take (min data.length 18) = data.take 18 := by
      have hcount : (data.take 18).length = min data.length 18 := by
        rw [List.length_take, Nat.min_comm]
      rw [overwrite_of_le _ _ (by rw [hcount]; exact Nat.min_le_right ..), List.take_left' hcount]
    refine ⟨_, descriptorIn_answered h (Response.apply_success ..) rfl, fun d => ?_⟩
    dsimp only
    rw [htake]
    constructor
    · intro hd
      cases hparse : DeviceDescriptor.parse (data.take 18) with
      | none =>
        rw [hparse] at hd
        cases hd
      | some d' =>
        rw [hparse] at hd
        cases hd
        exact ⟨data, rfl, hparse⟩
    · rintro ⟨data', hdata, hd⟩
      cases hdata
      rw [hd]
      rfl
  · have hstatus := status_of_refused (κ := κ) h refused
    refine ⟨_, if_pos hstatus, fun d => ?_⟩
    constructor
    · intro hd
      cases hd
    · rintro ⟨data, hdata, -⟩
      exact absurd hdata (refused _)

/-! ## Starting -/

section Prepare
variable {s : Session σ κ} {h : HandleKey} {handle : Handle}

/-- The transfer that is allocated next. -/
def newTransfer (s : Session σ κ) : TransferId := ⟨s.transfers.length + 1⟩

theorem not_allocated_newTransfer (s : Session σ κ) : ¬ s.Allocated (newTransfer s) := by
  rw [Allocated, transfer?, newTransfer]
  simp

theorem Undisturbed.newTransfer_eq {s' : Session σ κ} (same : Undisturbed s s') :
    newTransfer s' = newTransfer s := by
  rw [newTransfer, same.transfers, newTransfer]

/-- The session in which the transfer has been allocated and filled. -/
def prepared (s : Session σ κ) (h : HandleKey) : Session σ κ :=
  alter (newTransfer s) (fun t => t.fillControl h requestBuffer {} descriptorTimeout)
    { s with transfers := s.transfers ++ [{}] }

theorem transfer?_prepared (s : Session σ κ) (h : HandleKey) :
    (prepared s h).transfer? (newTransfer s) = some (asking h) := by
  rw [prepared, transfer?_alter, if_pos rfl]
  have hlast : (s.transfers ++ [({} : Transfer κ)])[s.transfers.length]? = some {} := by simp
  exact congrArg (Option.map _) hlast

theorem tracker_prepared (s : Session σ κ) (h : HandleKey) (c : ContextId) :
    (prepared s h).tracker c = s.tracker c := by
  rw [prepared, tracker_alter]
  exact neutral_sameTrackers.allocated s c

theorem platform_prepared (s : Session σ κ) (h : HandleKey) :
    (prepared s h).platform = s.platform := platform_alter ..

theorem devices_prepared (s : Session σ κ) (h : HandleKey) :
    (prepared s h).devices = s.devices := devices_alter ..

theorem handles_prepared (s : Session σ κ) (h : HandleKey) :
    (prepared s h).handles = s.handles := handles_alter ..

theorem accepts_prepared (opened : s.handle? h = some handle)
    (free : (s.tracker handle.context).entries.get? (newTransfer s) = none) :
    (prepared s h).Accepts (newTransfer s) handle descriptorAsked where
  opened := by
    rw [transfer, transfer?_prepared]
    exact (congrArg (·[h.index]?) (handles_prepared s h)).trans opened
  asks := by
    rw [transfer, transfer?_prepared]
    exact request_asking h
  free := by rw [tracker_prepared]; exact free

end Prepare

section Start
variable [Platform σ] {s : Session σ κ} {h : HandleKey} {handle : Handle}

/-- The ticket under which the transfer is submitted. -/
def newTicket (s : Session σ κ) : Ticket := s.nextTicket .default (newTransfer s)

omit [Platform σ] in
theorem Undisturbed.newTicket_eq {s' : Session σ κ} (same : Undisturbed s s') :
    newTicket s' = newTicket s := by
  rw [newTicket, nextTicket, same.tracker, same.newTransfer_eq]
  rfl

/-- What the platform does to start the transfer. -/
def starting (s : Session σ κ) (connection : ConnectionId) : Option TransferOutcome × σ :=
  (Platform.startTransfer connection descriptorAsked (newTicket s)).run s.platform

theorem start_prepared (context : handle.context = .default) :
    (prepared s h).start (newTransfer s) handle descriptorAsked =
      starting s handle.connection := by
  rw [start, platform_prepared, context, nextTicket, tracker_prepared]
  rfl

/-- The session in which the transfer has been submitted, whatever the platform did. -/
structure Begun (s : Session σ κ) (h : HandleKey) (p : σ) (s' : Session σ κ) : Prop where
  waits : Waits (newTicket s) (asking h) none s'
  platform : s'.platform = p
  devices : s'.devices = s.devices
  handles : s'.handles = s.handles
  tracker : ∀ c, s'.tracker c =
    if c = .default then (s.tracker .default).enlist (newTransfer s) else s.tracker c

theorem begun_of_plain (context : handle.context = .default) {s' : Session σ κ}
    (hs' : s'.plain =
      ((prepared s h).submitted (newTransfer s) handle descriptorAsked).plain) :
    Begun s h (starting s handle.connection).2 s' := by
  have htracker : ∀ c, s'.tracker c =
      if c = .default then (s.tracker .default).enlist (newTransfer s) else s.tracker c := by
    intro c
    rw [← tracker_plain, hs', tracker_plain]
    split
    · rename_i hc
      rw [hc, ← context, tracker_submitted (context ▸ trivial), tracker_prepared]
    · rename_i hc
      rw [tracker_submitted_of_ne (context ▸ hc), tracker_prepared]
  refine ⟨⟨?_, ?_⟩, ?_, ?_, ?_, htracker⟩
  · rw [← transfer?_plain, hs', transfer?_plain]
    change (setTracker _ _ _).transfer? (newTransfer s) = _
    rw [transfer?_setTracker, transfer?_alter, if_pos rfl, transfer?_prepared]
    rfl
  · change (s'.tracker .default).entries.get? (newTransfer s) = _
    rw [htracker, if_pos rfl, Tracker.get?_enlist, if_pos rfl]
    rfl
  · rw [← platform_plain, hs', platform_plain, platform_submitted, start_prepared context]
  · refine (congrArg Session.devices hs').trans ?_
    change (setTracker _ _ _).devices = _
    rw [devices_setTracker, devices_alter, devices_prepared]
  · refine (congrArg Session.handles hs').trans ?_
    change (setTracker _ _ _).handles = _
    rw [handles_setTracker, handles_alter, handles_prepared]

omit [Platform σ] in
theorem Begun.sound {s' : Session σ κ} {p : σ} (begun : Begun s h p s') (sound : s.Sound)
    (free : (s.tracker .default).entries.get? (newTransfer s) = none) : s'.Sound := by
  intro c
  rw [begun.tracker]
  split
  · exact (sound .default).enlist free
  · exact sound c

omit [Platform σ] in
/-- Once the transfer is not tracked any more, nothing is left behind of it. -/
theorem Begun.leavesNothing {α : Type} {view : σ → α} {s' s'' : Session σ κ} {p : σ}
    (begun : Begun s h p s') (sound : s.Sound) (hp : view p = view s.platform)
    (free : (s.tracker .default).entries.get? (newTransfer s) = none)
    (later : LeavesNothing view s' s'')
    (gone : (s''.tracker .default).entries.get? (newTransfer s) = none) :
    LeavesNothing view s s'' := by
  have sound' := begun.sound sound free
  refine ⟨?_, later.devices.trans begun.devices, later.handles.trans begun.handles,
    fun _ => later.sound sound', fun _ c id hfree => ?_⟩
  · rw [later.platform, begun.platform, hp]
  · by_cases hnew : c = .default ∧ id = newTransfer s
    · rw [hnew.1, hnew.2, gone]
    · refine later.untracked sound' c id ?_
      rw [begun.tracker]
      split
      · rename_i hc
        rw [Tracker.get?_enlist, if_neg fun hid => hnew ⟨hc, hid⟩, ← hc, hfree]
      · exact hfree

/-- **The transfer is started**: it waits, with the answer if the platform had it at once. -/
theorem startReading_spec (opened : s.handle? h = some handle)
    (context : handle.context = .default)
    (free : (s.tracker .default).entries.get? (newTransfer s) = none) :
    ∃ s₁ s', (startReading h).run.run s = (.ok (.ok (newTransfer s)), s') ∧
      Begun s h (starting s handle.connection).2 s₁ ∧ LeavesNothing id s₁ s' ∧
      Waits (newTicket s) (asking h) (starting s handle.connection).1 s' := by
  obtain ⟨s₁, hs₁, hsubmit⟩ := submit_run (accepts_prepared (h := h) opened (context ▸ free))
  have begun := begun_of_plain context hs₁
  rw [start_prepared context] at hsubmit
  have hrun : ∀ {s'}, (submit (newTransfer s)).run.run (prepared s h) = (.ok (), s') →
      (startReading h).run.run s = (.ok (.ok (newTransfer s)), s') := by
    intro s' hdone
    have halloc : (attempt (allocTransfer 0)).run.run s =
        (.ok (.ok (newTransfer s)), { s with transfers := s.transfers ++ [{}] }) :=
      attempt_of_ok rfl
    rw [startReading, descriptorRequest_eq, orFault, run_bind_of_ok (result_pure ..), after_pure,
      run_bind_of_run halloc]
    dsimp only
    rw [run_bind_of_ok (result_modify ..), after_modify]
    change (attempt (submit (newTransfer s)) >>= _).run.run (prepared s h) = _
    rw [run_bind_of_run (attempt_of_ok hdone)]
    rfl
  have hticket : (prepared s h).nextTicket handle.context (newTransfer s) = newTicket s := by
    rw [context, nextTicket, tracker_prepared]
    rfl
  cases hanswer : (starting s handle.connection).1 with
  | none =>
    -- The platform has parked the transfer.
    rw [hanswer] at hsubmit
    exact ⟨s₁, s₁, hrun hsubmit, begun, .refl id s₁, begun.waits⟩
  | some outcome =>
    -- The answer came at once, and waits until events are handled.
    have waits := begun.waits.deliver (newTicket s) outcome
    rw [if_pos rfl, Option.none_or] at waits
    rw [hanswer, hticket] at hsubmit
    refine ⟨s₁, _, hrun (hsubmit.trans (Prod.ext (result_deliver ..) rfl)), begun,
      .deliver _ outcome s₁, waits⟩

end Start

/-! ## The whole exchange -/

section Exchange
variable [Platform σ] {s : Session (Observed σ) κ} {h : HandleKey} {handle : Handle}

/-- The answer to the request for a descriptor over a connection of a platform, at once or
within so many rounds. -/
def answering (patience : Nat) (ticket : Ticket) (w : Observed σ) (connection : ConnectionId) :
    Option TransferOutcome :=
  ((Platform.startTransfer connection descriptorAsked ticket).run w).1.or
    ((w.arriving patience).lookup ticket)

omit [Platform σ] in
theorem contextOf_open {id : TransferId} {t : Transfer κ} (ht : s.transfer? id = some t)
    (hhandle : t.handle = some h) (opened : s.handle? h = some handle)
    (context : handle.context = .default) : s.contextOf? (s.transfer id) = some .default := by
  rw [transfer, ht, Option.getD_some, contextOf?, hhandle, Option.bind_some, opened,
    Option.map_some, context]

omit [Platform σ] in
/-- A transfer of an open handle is not tracked any more when it has been freed. -/
theorem gone_after_free {id : TransferId} (hc : s.contextOf? (s.transfer id) = some .default) :
    ((after (free id) s).tracker .default).entries.get? id = none := by
  rw [← tracker_plain, plain_after_free hc, tracker_alter]
  exact Tracker.get?_remove_self ..

omit [Platform σ] in
/-- Cancelling a transfer of an open handle may fail, but it comes to its end. -/
theorem attempt_cancel {id : TransferId} (hc : s.contextOf? (s.transfer id) = some .default) :
    ∃ r, (attempt (cancel id)).run.run s = (.ok r, after (cancel id) s) := by
  have hresult := result_cancel hc
  split at hresult
  · exact ⟨_, attempt_of_ok (Prod.ext hresult rfl)⟩
  · exact ⟨_, attempt_of_error (Prod.ext hresult rfl)⟩

omit [Platform σ] in
theorem run_discard_free (id : TransferId) (s : Session (Observed σ) κ) :
    (discard (free id) : SessionM (Observed σ) κ Unit).run.run s = (.ok (), after (free id) s) := by
  exact run_discard (Prod.ext (result_free id s) rfl)

omit [Platform σ] in
/-- A transfer that can be read is freed and read. -/
theorem finishReading_run {id : TransferId} {result : Except Error DeviceDescriptor}
    (h : descriptorIn (s.transfer id) = .ok result) :
    (finishReading id).run.run s = (.ok result, after (free id) s) := by
  rw [finishReading, run_bind_of_ok (result_get s), after_get,
    run_bind_of_ok (result_free id s)]
  change (orFault (descriptorIn (s.transfer id)) : SessionM (Observed σ) κ _).run.run _ = _
  rw [h]
  rfl

/-- Giving up on a transfer that waits: it is cancelled and freed. -/
theorem giveUp_spec {ticket : Ticket} {t : Transfer κ} {answer : Option TransferOutcome}
    (waits : Waits ticket t answer s) (sound : s.Sound) (hticket : ticket.context = .default)
    (hhandle : t.handle = some h) (keep : t.flags.contains .freeTransfer = false)
    (opened : s.handle? h = some handle) (context : handle.context = .default) :
    ∃ s', (do
        discard <| attempt (cancel ticket.submission.transfer)
        round .default
        discard <| free ticket.submission.transfer : SessionM (Observed σ) κ Unit).run.run s =
          (.ok (), s') ∧
      LeavesNothing Observed.passages s s' ∧
      (s'.tracker .default).entries.get? ticket.submission.transfer = none := by
  obtain ⟨c, ⟨id, number⟩⟩ := ticket
  change c = .default at hticket
  subst hticket
  have hc := contextOf_open waits.transfer hhandle opened context
  have cancelled : LeavesNothing Observed.passages s (after (cancel id) s) := .cancel hc
  obtain ⟨r, hcancel⟩ := attempt_cancel hc
  have hround := waits_round (waits.cancel hc) (cancelled.sound sound) keep
  have rounded := cancelled.trans (leavesNothing_round .default (after (cancel id) s))
  generalize hs' : after (handleQuietly .default) (passed (after (cancel id) s)) = s'
    at hround rounded
  have hc' : s'.contextOf? (s'.transfer id) = some .default := by
    have opened' : s'.handle? h = some handle := by
      rw [handle?, rounded.handles]
      exact opened
    rcases hround with ⟨outcome, -, hfinished⟩ | ⟨waits', -⟩
    · exact contextOf_open hfinished ((Transfer.conclude_handle t outcome).trans hhandle) opened'
        context
    · exact contextOf_open waits'.transfer hhandle opened' context
  refine ⟨after (free id) s', ?_, rounded.trans (.free id s'), gone_after_free hc'⟩
  rw [run_bind_of_run (run_discard hcancel), run_bind_of_run (round_run ..), hs']
  exact run_discard_free id s'

omit [Platform σ] in
theorem Begun.alone {s' : Session (Observed σ) κ} {w : Observed σ} (begun : Begun s h w s')
    (idle : ∀ id, (s.tracker .default).entries.get? id = none) : Alone (newTicket s) s' := by
  intro id hne
  change (s'.tracker .default).entries.get? id = none
  rw [begun.tracker, if_pos rfl, Tracker.get?_enlist]
  exact (if_neg hne).trans (idle id)

section Runs
variable {s₁ s₂ s₃ : Session (Observed σ) κ} {id : TransferId} {patience : Nat}

/-- A transfer that was found finished is read. -/
theorem run_readOver_of_found {result : Except Error DeviceDescriptor}
    (hstart : (startReading h).run.run s = (.ok (.ok id), s₁))
    (hwait : (waitFor (σ := Observed σ) (κ := κ) (round .default : SessionM (Observed σ) κ Unit) id
      patience).run.run s₁ = (.ok true, s₂))
    (hresult : descriptorIn (s₂.transfer id) = .ok result) :
    (readOver (σ := Observed σ) (κ := κ) (round .default : SessionM (Observed σ) κ Unit) patience
      h).run.run s = (.ok result, after (free id) s₂) := by
  rw [readOver]
  refine (run_bind_of_run hstart _).trans ?_
  dsimp only
  rw [run_bind_of_run hwait, if_pos rfl]
  exact finishReading_run hresult

/-- A transfer that was not is given up. -/
theorem run_readOver_of_lost (hstart : (startReading h).run.run s = (.ok (.ok id), s₁))
    (hwait : (waitFor (σ := Observed σ) (κ := κ) (round .default : SessionM (Observed σ) κ Unit) id
      patience).run.run s₁ = (.ok false, s₂))
    (hgive : (do
        discard <| attempt (cancel id)
        round .default
        discard <| free id : SessionM (Observed σ) κ Unit).run.run s₂ = (.ok (), s₃)) :
    (readOver (σ := Observed σ) (κ := κ) (round .default : SessionM (Observed σ) κ Unit) patience
      h).run.run s = (.ok (.error .unfinished), s₃) := by
  rw [readOver]
  refine (run_bind_of_run hstart _).trans ?_
  dsimp only
  rw [run_bind_of_run hwait, if_neg Bool.false_ne_true]
  have hrun := run_bind_of_run hgive fun _ =>
    (pure (.error .unfinished) : SessionM (Observed σ) κ (Except Error DeviceDescriptor))
  simp only [bind_assoc] at hrun
  exact hrun

end Runs

/-- **Reading over an open handle comes to its end and leaves nothing behind.**  It comes
to a descriptor only if that arrived; and if nothing else is in flight, whenever it did. -/
theorem readOver_spec (sound : s.Sound) (opened : s.handle? h = some handle)
    (context : handle.context = .default)
    (untracked : (s.tracker .default).entries.get? (newTransfer s) = none) (patience : Nat) :
    ∃ result s', (readOver (σ := Observed σ) (κ := κ)
        (round .default : SessionM (Observed σ) κ Unit) patience h).run.run s =
          (.ok result, s') ∧
      LeavesNothing Observed.passages s s' ∧
      (∀ d, result = .ok d →
        Brings d (answering patience (newTicket s) s.platform handle.connection)) ∧
      ((∀ id, (s.tracker .default).entries.get? id = none) → 0 < patience →
        ∀ d, Brings d (answering patience (newTicket s) s.platform handle.connection) →
          result = .ok d) := by
  obtain ⟨s₁, s₂, hstart, begun, hanswered, waits⟩ :=
    startReading_spec opened context untracked
  have sound₁ := begun.sound sound untracked
  have sound₂ := hanswered.sound sound₁
  have hkeep : (asking h : Transfer κ).flags.contains .freeTransfer = false :=
    show TransferFlags.empty.contains .freeTransfer = false by decide
  obtain ⟨found, s₃, hwait, hwaited, hend⟩ := waitFor_spec waits sound₂ hkeep rfl patience
  -- The answer is the one that came at once, or else the first that arrives.
  have hreply : (starting s handle.connection).1.or
      ((s₂.platform.arriving patience).lookup (newTicket s)) =
        answering patience (newTicket s) s.platform handle.connection := by
    have hplatform : s₂.platform = (starting s handle.connection).2 :=
      hanswered.platform.trans begun.platform
    rw [hplatform]
    rfl
  rw [hreply] at hend
  have opened₃ : s₃.handle? h = some handle := by
    rw [handle?, hwaited.handles, hanswered.handles, begun.handles]
    exact opened
  have hwaited' := (hanswered.of_id Observed.passages).trans hwaited
  rcases hend with ⟨rfl, outcome, houtcome, hfinished⟩ | ⟨rfl, ⟨answer, waits₃⟩, hnone⟩
  · have hc := contextOf_open hfinished (Transfer.conclude_handle ..) opened₃ context
    have htransfer : s₃.transfer (newTransfer s) = (asking h).finished outcome := by
      rw [transfer]
      exact congrArg (·.getD {}) hfinished
    obtain ⟨result, hresult, hbrings⟩ := descriptorIn_finished (κ := κ) h outcome
    rw [← htransfer] at hresult
    rw [houtcome]
    exact ⟨result, _, run_readOver_of_found hstart hwait hresult,
      begun.leavesNothing sound rfl untracked (hwaited'.trans (.free _ s₃)) (gone_after_free hc),
      fun d => (hbrings d).mp, fun _ _ d => (hbrings d).mpr⟩
  · obtain ⟨s₄, hgive, hgiven, hgone⟩ :=
      giveUp_spec waits₃ (hwaited.sound sound₂) rfl rfl hkeep opened₃ context
    refine ⟨.error .unfinished, s₄, run_readOver_of_lost hstart hwait hgive,
      begun.leavesNothing sound rfl untracked (hwaited'.trans hgiven) hgone,
      fun d hd => ?_, fun idle enough d hd => ?_⟩
    · cases hd
    · have alone := (begun.alone idle).leavesNothing sound₁ hanswered
      obtain ⟨data, hdata, -⟩ := hd
      rw [hnone alone (.inr enough)] at hdata
      cases hdata

end Exchange

end Command
end UsbHost
