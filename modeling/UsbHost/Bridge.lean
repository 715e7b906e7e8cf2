import UsbHost.Worker

/-!
# The bridge to the USB worker

Commands reach the worker through a bounded queue, first in, first out. Every message gets a number
when it is sent. A sender that finds the queue full waits for room; one that finds it closed has its
command answered with a failure. The worker takes messages out, holds on to them, and answers each
in its own time, if it does not drop it; when it closes the queue, it fails what is still in there.

What was answered is kept in `Bridge.deliveries`, latest first.
-/

namespace UsbHost

/-- What the worker can be sent. -/
inductive Message where
  /-- A command whose sender waits for the reply. -/
  | call (command : WorkerCommand)
  /-- A transfer whose response goes to a callback. -/
  | start (connection : ConnectionId) (request : TransferRequest)
  /-- Asks the worker to stop; this has no answer. -/
  | shutdown
deriving DecidableEq, Repr

/-- The answer to a message that fails. -/
def Message.failure (reason : String) : Message → Option WorkerAnswer
  | call command => some (command.failure reason)
  | start .. => some (.transferred (.failed reason))
  | shutdown => none

/-- A message on its way, with its number. -/
structure Bridge.Issue where
  number : Nat
  message : Message
deriving DecidableEq, Repr

/-- An answer that reached the sender of a message. -/
structure Bridge.Delivery where
  issue : Bridge.Issue
  answer : WorkerAnswer
deriving DecidableEq, Repr

/-- The queue between the callers and the worker, with what both ends of it did. -/
structure Bridge where
  /-- How many messages may wait in the queue. -/
  capacity : Nat
  /-- The messages in the queue, oldest first. -/
  queue : List Bridge.Issue := []
  /-- The messages whose senders wait for room, oldest first. -/
  waiting : List Bridge.Issue := []
  /-- The messages that the worker has taken out and not disposed of. -/
  held : List Bridge.Issue := []
  /-- Whether the worker takes no more messages. -/
  closed : Bool := false
  /-- Whether all senders are gone. -/
  abandoned : Bool := false
  nextNumber : Nat := 0
  /-- The answers so far, latest first. -/
  deliveries : List Bridge.Delivery := []
deriving DecidableEq, Repr

namespace Bridge

/-! ## Texts -/

/-- Why a message was not sent or received. -/
def closedText (detail : String) : String := s!"Binding channel closed: {detail}"

/-- What is missing when the worker is gone. -/
def noWorker : String := "USB worker is not running"

/-- What is missing when the senders are gone and the queue is empty. -/
def nothingToReceive : String := "receiving from an empty and closed channel"

/-! ## Sending -/

/-- Answers a message, if it has an answer. -/
def deliver (issue : Issue) (answer : Option WorkerAnswer) (b : Bridge) : Bridge :=
  match answer with
  | some answer => { b with deliveries := ⟨issue, answer⟩ :: b.deliveries }
  | none => b

/-- Fails a message. -/
def fail (reason : String) (b : Bridge) (issue : Issue) : Bridge :=
  b.deliver issue (issue.message.failure reason)

/-- What became of a message that was sent. -/
inductive Sent where
  | queued
  /-- The sender waits for room. -/
  | waiting
  | refused
deriving DecidableEq, Repr

/-- Sends a message, and gives its number. -/
def send (message : Message) (b : Bridge) : Nat × Sent × Bridge :=
  let issue : Issue := ⟨b.nextNumber, message⟩
  let b := { b with nextNumber := b.nextNumber + 1 }
  (issue.number,
    if b.closed then (.refused, b.fail (closedText noWorker) issue)
    else if b.queue.length < b.capacity then (.queued, { b with queue := b.queue ++ [issue] })
    else (.waiting, { b with waiting := b.waiting ++ [issue] }))

/-- Lets all senders go. -/
def abandon (b : Bridge) : Bridge := { b with abandoned := true }

/-! ## Receiving -/

/-- What a worker that wants a message gets. -/
inductive Received where
  | message (issue : Issue)
  /-- There is nothing yet. -/
  | nothing
  /-- There is nothing, and there will be nothing. -/
  | ended
deriving DecidableEq, Repr

/-- Takes the oldest message out of the queue, which makes room for a sender that waits. -/
def receive (b : Bridge) : Received × Bridge :=
  match b.queue with
  | issue :: queue =>
    (.message issue,
      { b with
        queue := queue ++ b.waiting.take 1
        waiting := b.waiting.drop 1
        held := b.held ++ [issue] })
  | [] => (if b.abandoned then .ended else .nothing, b)

/-- Lets go of a message that the worker holds. -/
def drop (number : Nat) (b : Bridge) : Bridge :=
  { b with held := b.held.filter (·.number ≠ number) }

/-- Answers a message that the worker holds. -/
def answer (number : Nat) (answer : Option WorkerAnswer) (b : Bridge) : Bridge :=
  match b.held.find? (·.number = number) with
  | some issue => (b.drop number).deliver issue answer
  | none => b

/-- Takes no more messages. Those whose senders wait are refused. -/
def shut (b : Bridge) : Bridge :=
  b.waiting.foldl (fail (closedText noWorker)) { b with closed := true, waiting := [] }

/-- Takes no more messages, and fails those in the queue. -/
def close (reason : String) (b : Bridge) : Bridge :=
  let b := b.shut
  b.queue.foldl (fail reason) { b with queue := [] }

/-! ## Requests -/

/-- The answer to a message, if it has been answered. -/
def answerTo? (number : Nat) (b : Bridge) : Option WorkerAnswer :=
  (b.deliveries.find? (·.issue.number = number)).map (·.answer)

/-- Sends a command and waits for its reply, while the worker takes one message and gives it an
answer, or drops it. Also gives the message that the worker saw. -/
def request (command : WorkerCommand) (served : Option WorkerAnswer) (b : Bridge) :
    WorkerAnswer × Option Message × Bridge :=
  let (number, sent, b) := b.send (.call command)
  if sent = .refused then (command.failure noWorker, none, b)
  else
    match b.receive with
    | (.message issue, b) =>
      let b := match served with
        | some a => b.answer issue.number (some a)
        | none => b.drop issue.number
      ((b.answerTo? number).getD (command.failure (closedText nothingToReceive)),
        some issue.message, b)
    | (_, b) => (command.failure (closedText nothingToReceive), none, b)

end Bridge

end UsbHost
