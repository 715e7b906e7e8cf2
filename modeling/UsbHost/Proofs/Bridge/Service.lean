import UsbHost.Bridge
import UsbHost.Proofs.Worker.Journal

/-! # The worker in service

A `Service` is a bridge with all that use it: any number of senders, the worker at its other end,
and the transfers that the worker has begun, which run on their own.  `Step` is what may happen
next.  Its steps are as small as the queue and the threads allow.  A sender that finds the queue
full waits, and any of those that wait may go in when there is room; a sender that the closed queue
turns down fails its own message afterwards; and a worker that stops closes the queue first and then
fails what is left in it, one message after the other.

The operations of a `Bridge` take several of these steps at once (`run_send`, `run_receive`,
`run_close`).
-/
namespace UsbHost

/-- The connection and the request of a message that asks for a transfer. -/
def Message.transfer? : Message → Option (ConnectionId × TransferRequest)
  | call (.transfer c r) => some (c, r)
  | start c r => some (c, r)
  | _ => none

/-- What the worker is doing. -/
inductive Service.Stage where
  /-- It has not reached the host yet. -/
  | starting
  | serving
  /-- It has taken a message out of the queue. -/
  | handling (issue : Bridge.Issue)
  /-- It takes no more messages, and is to close the queue. -/
  | leaving (reason : String)
  /-- It has closed the queue, and fails what is left in it. -/
  | draining (reason : String)
  | stopped
deriving DecidableEq

/-- A bridge with its senders, its worker and the transfers that are running. -/
structure Service (η δ : Type) where
  bridge : Bridge
  worker : Worker η δ
  stage : Service.Stage := .starting
  /-- What the closed queue turned down and its senders have not failed yet. -/
  refused : List Bridge.Issue := []
  /-- The messages whose transfers are running. -/
  running : List (Bridge.Issue × Worker.Job) := []
  /-- All messages that were ever sent. -/
  issued : List Bridge.Issue := []

namespace Service

variable {η δ : Type}

/-- Why messages fail when the worker could not reach the host. -/
def noContext (reason : String) : String := s!"USB context unavailable: {reason}"

/-- Why messages fail when the worker has ended. -/
def stoppedText : String := "USB worker stopped"

/-- Why a transfer fails that could not be begun. -/
def noThread (reason : String) : String := s!"transfer thread unavailable: {reason}"

/-- The next message, if it is sent now. -/
def nextIssue (s : Service η δ) (m : Message) : Bridge.Issue := ⟨s.bridge.nextNumber, m⟩

/-- The service in which the worker has answered what it was handling. -/
def answered (s : Service η δ) (i : Bridge.Issue) (answer : WorkerAnswer) (worker : Worker η δ) :
    Service η δ :=
  { s with bridge := s.bridge.answer i.number (some answer), worker, stage := .serving }

/-- **What may happen next.** -/
inductive Step [Host η δ] (s : Service η δ) : Service η δ → Prop where
  /-- A message is sent; its sender waits if there is no room. -/
  | send (m : Message) (present : s.bridge.abandoned = false) (isOpen : s.bridge.closed = false) :
      Step s { s with
        bridge := (s.bridge.send m).2.2
        issued := s.issued ++ [s.nextIssue m] }
  /-- A message is sent to a queue that is closed. -/
  | turnDown (m : Message) (present : s.bridge.abandoned = false)
      (isClosed : s.bridge.closed = true) :
      Step s { s with
        bridge := { s.bridge with nextNumber := s.bridge.nextNumber + 1 }
        refused := s.refused ++ [s.nextIssue m]
        issued := s.issued ++ [s.nextIssue m] }
  /-- A sender that waits finds room. -/
  | enter (before after : List Bridge.Issue) (i : Bridge.Issue)
      (waits : s.bridge.waiting = before ++ i :: after) (isOpen : s.bridge.closed = false)
      (room : s.bridge.queue.length < s.bridge.capacity) :
      Step s { s with
        bridge := { s.bridge with queue := s.bridge.queue ++ [i], waiting := before ++ after } }
  /-- A sender that waits learns that the queue is closed. -/
  | wake (before after : List Bridge.Issue) (i : Bridge.Issue)
      (waits : s.bridge.waiting = before ++ i :: after) (isClosed : s.bridge.closed = true) :
      Step s { s with
        bridge := { s.bridge with waiting := before ++ after }
        refused := s.refused ++ [i] }
  /-- A sender that was turned down fails its own message. -/
  | failSend (before after : List Bridge.Issue) (i : Bridge.Issue)
      (down : s.refused = before ++ i :: after) :
      Step s { s with
        bridge := s.bridge.fail (Bridge.closedText Bridge.noWorker) i
        refused := before ++ after }
  /-- The last sender leaves. -/
  | abandon (noneWaits : s.bridge.waiting = []) (noneFails : s.refused = []) :
      Step s { s with bridge := s.bridge.abandon }
  /-- The worker has reached the host. -/
  | start (starting : s.stage = .starting) : Step s { s with stage := .serving }
  /-- The worker cannot reach the host. -/
  | giveUp (reason : String) (starting : s.stage = .starting) :
      Step s { s with stage := .leaving (noContext reason) }
  /-- The worker takes the oldest message out of the queue. -/
  | take (i : Bridge.Issue) (queue : List Bridge.Issue) (serving : s.stage = .serving)
      (first : s.bridge.queue = i :: queue) :
      Step s { s with
        bridge := { s.bridge with queue, held := s.bridge.held ++ [i] }
        stage := .handling i }
  /-- There will be no more messages. -/
  | finishLoop (serving : s.stage = .serving) (empty : s.bridge.queue = [])
      (alone : s.bridge.abandoned = true) : Step s { s with stage := .leaving stoppedText }
  /-- The worker is asked to stop. -/
  | shutdown (i : Bridge.Issue) (handling : s.stage = .handling i)
      (asks : i.message = .shutdown) :
      Step s { s with bridge := s.bridge.drop i.number, stage := .leaving stoppedText }
  /-- The worker performs a command that is no transfer, and replies. -/
  | reply (i : Bridge.Issue) (command : WorkerCommand) (handling : s.stage = .handling i)
      (asks : i.message = .call command) (quick : i.message.transfer? = none) :
      Step s (s.answered i (Worker.result (Worker.perform command) s.worker)
        (Worker.after (Worker.perform command) s.worker))
  /-- The connection of a transfer is not known. -/
  | refuse (i : Bridge.Issue) (c : ConnectionId) (r : TransferRequest) (reason : String)
      (handling : s.stage = .handling i) (asks : i.message.transfer? = some (c, r))
      (unknown : Worker.result (Worker.beginTransfer c r) s.worker = .failed reason) :
      Step s (s.answered i (.transferred (.failed reason))
        (Worker.after (Worker.beginTransfer c r) s.worker))
  /-- A transfer is begun, and runs on its own from now on. -/
  | begin (i : Bridge.Issue) (c : ConnectionId) (r : TransferRequest) (job : Worker.Job)
      (handling : s.stage = .handling i) (asks : i.message.transfer? = some (c, r))
      (begun : Worker.result (Worker.beginTransfer c r) s.worker = .succeeded ())
      (last : (Worker.after (Worker.beginTransfer c r) s.worker).jobs = s.worker.jobs ++ [job]) :
      Step s { s with
        worker := Worker.after (Worker.beginTransfer c r) s.worker
        stage := .serving
        running := s.running ++ [(i, job)] }
  /-- A transfer cannot be begun. -/
  | noThread (i : Bridge.Issue) (c : ConnectionId) (r : TransferRequest) (reason : String)
      (handling : s.stage = .handling i) (asks : i.message.transfer? = some (c, r))
      (known : Worker.result (Worker.beginTransfer c r) s.worker = .succeeded ()) :
      Step s (s.answered i (.transferred (.failed (noThread reason))) s.worker)
  /-- Any of the transfers that are running comes to its end. -/
  | finish (before after : List (Bridge.Issue × Worker.Job)) (i : Bridge.Issue)
      (job : Worker.Job) (runs : s.running = before ++ (i, job) :: after) :
      Step s { s with
        bridge := s.bridge.answer i.number (some (.transferred (.succeeded job.response)))
        worker := Worker.after (Worker.dropHandle job.handle)
          { s.worker with jobs := s.worker.jobs.erase job }
        running := before ++ after }
  /-- The host changes by itself. -/
  | hostChange (host : η) : Step s { s with worker := { s.worker with host } }
  /-- The worker ends its connections and closes the queue. -/
  | close (reason : String) (leaving : s.stage = .leaving reason) :
      Step s { s with
        bridge := { s.bridge with closed := true }
        worker := Worker.after Worker.stop s.worker
        stage := .draining reason }
  /-- The worker fails the oldest message that is left. -/
  | drain (reason : String) (i : Bridge.Issue) (queue : List Bridge.Issue)
      (draining : s.stage = .draining reason) (first : s.bridge.queue = i :: queue) :
      Step s { s with bridge := { s.bridge with queue }.fail reason i }
  | stop (reason : String) (draining : s.stage = .draining reason) (empty : s.bridge.queue = []) :
      Step s { s with stage := .stopped }

/-- Where steps lead from `s`, in any order. -/
inductive Run [Host η δ] (s : Service η δ) : Service η δ → Prop where
  | refl : Run s s
  | step {s' s'' : Service η δ} (before : Run s s') (now : Step s' s'') : Run s s''

/-- A new bridge with its worker. -/
def new (capacity : Nat) (worker : Worker η δ) : Service η δ := { bridge := { capacity }, worker }

section Operations
variable [Host η δ] {s s' s'' : Service η δ}

/-! ## What the worker can do -/

theorem jobs_after_runRequest (handle : HostHandle) (r : TransferRequest) (w : Worker η δ) :
    (Worker.after (Worker.runRequest handle r) w).jobs = w.jobs := by
  rw [Worker.runRequest, Worker.after_bind, Worker.result_get, Worker.after_get]
  cases HostTransfer.ofRequest r with
  | error e => rfl
  | ok transfer => cases w.handles.get? handle <;> rfl

/-- A transfer is begun, or its connection is not known. -/
theorem beginTransfer_cases (c : ConnectionId) (r : TransferRequest) (w : Worker η δ) :
    (∃ reason, Worker.result (Worker.beginTransfer c r) w = .failed reason) ∨
    Worker.result (Worker.beginTransfer c r) w = .succeeded () ∧
      ∃ job, (Worker.after (Worker.beginTransfer c r) w).jobs = w.jobs ++ [job] := by
  rw [Worker.beginTransfer, Worker.withConnection, Worker.result_bind, Worker.after_bind,
    Worker.result_get, Worker.after_get]
  cases w.connections.get? c with
  | none => exact .inl ⟨_, rfl⟩
  | some connection =>
    let response := (Worker.result (Worker.runRequest connection.handle r) w).1
    refine .inr ⟨rfl, ⟨connection.handle, response⟩, ?_⟩
    exact congrArg (· ++ [⟨connection.handle, response⟩])
      (jobs_after_runRequest connection.handle r w)

/-- A message that the worker handles does not hold it up. -/
theorem exists_step_of_handling {i : Bridge.Issue} (handling : s.stage = .handling i) :
    ∃ s', Step s s' ∧ (s'.stage = .serving ∨ s'.stage = .leaving stoppedText) := by
  cases hasks : i.message.transfer? with
  | some transfer =>
    obtain ⟨c, r⟩ := transfer
    rcases beginTransfer_cases c r s.worker with ⟨reason, unknown⟩ | ⟨begun, job, last⟩
    · exact ⟨_, .refuse i c r reason handling hasks unknown, .inl rfl⟩
    · exact ⟨_, .begin i c r job handling hasks begun last, .inl rfl⟩
  | none =>
    cases hmessage : i.message with
    | call command => exact ⟨_, .reply i command handling hmessage hasks, .inl rfl⟩
    | start c r => simp [hmessage, Message.transfer?] at hasks
    | shutdown => exact ⟨_, .shutdown i handling hmessage, .inr rfl⟩

/-! ## The operations of the bridge -/

theorem Step.run (now : Step s s') : Run s s' := Run.refl.step now

theorem Run.trans (run : Run s s') (run' : Run s' s'') : Run s s'' := by
  induction run' with
  | refl => exact run
  | step _ now ih => exact ih.step now

/-- Sending takes a step, and one more to fail what was turned down. -/
theorem run_send (m : Message) (present : s.bridge.abandoned = false) :
    Run s { s with
      bridge := (s.bridge.send m).2.2
      issued := s.issued ++ [s.nextIssue m] } := by
  cases hclosed : s.bridge.closed with
  | false => exact (Step.send m present hclosed).run
  | true =>
    have down := Step.turnDown m present hclosed
    have fails := Step.failSend s.refused [] (s.nextIssue m)
      (s := { s with
        bridge := { s.bridge with nextNumber := s.bridge.nextNumber + 1 }
        refused := s.refused ++ [s.nextIssue m]
        issued := s.issued ++ [s.nextIssue m] }) rfl
    simpa [Bridge.send, hclosed, nextIssue] using down.run.step fails

/-- Receiving takes a step, and one more for a sender that waits. -/
theorem run_receive {i : Bridge.Issue} {b : Bridge} (serving : s.stage = .serving)
    (isOpen : s.bridge.closed = false) (bounded : s.bridge.queue.length ≤ s.bridge.capacity)
    (received : s.bridge.receive = (.message i, b)) :
    Run s { s with bridge := b, stage := .handling i } := by
  unfold Bridge.receive at received
  cases hq : s.bridge.queue with
  | nil =>
    rw [hq] at received
    dsimp only at received
    split at received <;> cases received
  | cons j queue =>
    rw [hq] at received
    cases received
    have takes := Step.take i queue serving hq
    cases hw : s.bridge.waiting with
    | nil => simpa [hw] using takes.run
    | cons w waiting =>
      have hroom : queue.length < s.bridge.capacity := by
        rw [hq, List.length_cons] at bounded
        omega
      have enters := Step.enter [] waiting w
        (s := { s with
          bridge := { s.bridge with queue, held := s.bridge.held ++ [i] }
          stage := .handling i }) hw isOpen hroom
      simpa [hw] using takes.run.step enters

/-- What failing a message delivers. -/
def failureOf (reason : String) (i : Bridge.Issue) : List Bridge.Delivery :=
  ((i.message.failure reason).map (Bridge.Delivery.mk i)).toList

/-- Failing a message only delivers. -/
theorem fail_eq (b : Bridge) (reason : String) (i : Bridge.Issue) :
    b.fail reason i = { b with deliveries := failureOf reason i ++ b.deliveries } := by
  unfold Bridge.fail Bridge.deliver failureOf
  cases i.message.failure reason <;> rfl

theorem queue_foldl_fail (reason : String) (issues : List Bridge.Issue) (b : Bridge) :
    (issues.foldl (Bridge.fail reason) b).queue = b.queue := by
  induction issues generalizing b with
  | nil => rfl
  | cons i issues ih => rw [List.foldl_cons, ih, fail_eq]

/-- The senders that wait are turned down one after the other. -/
theorem run_wake {waiting : List Bridge.Issue} {b : Bridge} (isClosed : b.closed = true)
    (waits : b.waiting = waiting) :
    Run { s with bridge := b } { s with
      bridge := waiting.foldl (Bridge.fail (Bridge.closedText Bridge.noWorker))
        { b with waiting := [] } } := by
  induction waiting generalizing b with
  | nil => rw [List.foldl_nil, ← waits]; exact .refl
  | cons i waiting ih =>
    have wakes := Step.wake [] waiting i (s := { s with bridge := b }) waits isClosed
    have fails := Step.failSend s.refused [] i
      (s := { s with bridge := { b with waiting }, refused := s.refused ++ [i] }) rfl
    have first : Run { s with bridge := b }
        { s with bridge := { b with waiting }.fail (Bridge.closedText Bridge.noWorker) i } := by
      simpa using wakes.run.step fails
    rw [fail_eq] at first
    rw [List.foldl_cons, fail_eq]
    exact first.trans (ih isClosed rfl)

/-- What is left in the queue fails one message after the other. -/
theorem run_drain {reason : String} (draining : s.stage = .draining reason)
    {queue : List Bridge.Issue} {b : Bridge} (left : b.queue = queue) :
    Run { s with bridge := b } { s with
      bridge := queue.foldl (Bridge.fail reason) { b with queue := [] } } := by
  induction queue generalizing b with
  | nil => rw [List.foldl_nil, ← left]; exact .refl
  | cons i queue ih =>
    have first := (Step.drain reason i queue (s := { s with bridge := b }) draining left).run
    rw [fail_eq] at first
    rw [List.foldl_cons, fail_eq]
    exact first.trans (ih rfl)

/-- Closing takes a step for each message that is left. -/
theorem run_close {reason : String} (leaving : s.stage = .leaving reason) :
    Run s { s with
      bridge := s.bridge.close reason
      worker := Worker.after Worker.stop s.worker
      stage := .stopped } := by
  have closes := (Step.close reason leaving).run
  have wakes := run_wake (b := { s.bridge with closed := true }) rfl rfl
    (s := { s with worker := Worker.after Worker.stop s.worker, stage := .draining reason })
  have drains := run_drain (b := s.bridge.shut) rfl rfl
    (s := { s with worker := Worker.after Worker.stop s.worker, stage := .draining reason })
  have stops := Step.stop reason (s := { s with
    bridge := s.bridge.close reason
    worker := Worker.after Worker.stop s.worker
    stage := .draining reason }) rfl
  have empty : (s.bridge.close reason).queue = [] := queue_foldl_fail ..
  exact ((closes.trans wakes).trans drains).step (stops empty)

end Operations

end Service
end UsbHost
