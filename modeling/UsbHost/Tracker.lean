import UsbHost.Fault
import UsbHost.Request
import UsbHost.Table

/-!
# Trackers

A tracker holds the transfers that are in flight. A transfer is registered when it is submitted, and
completes when the platform's answer to this very submission is delivered or when it is cancelled,
whichever comes first. Completed transfers are extracted in the order in which they completed. A
transfer that is submitted again keeps its id, so answers are told apart by the number of the
submission: what answers an earlier one is dropped.

`Tracker.step` is one operation on a tracker, whoever calls it.
-/

namespace UsbHost

/-- One submission of a transfer. -/
structure Submission where
  transfer : TransferId
  number : Nat
deriving DecidableEq, Repr

/-- A submission as it is named in texts. -/
def Submission.text (s : Submission) : String := s!"{s.transfer.text} (submission {s.number})"

/-- The platform's answer to a transfer. -/
abbrev TransferOutcome := Outcome Response

/-- What a tracker knows of a transfer. -/
inductive Tracker.Entry where
  /-- In flight, with the number of its submission. -/
  | pending (submission : Nat)
  | completed (outcome : TransferOutcome)
deriving DecidableEq, Repr

/-- The transfers of a context that were submitted and not taken out again. -/
structure Tracker where
  entries : Table TransferId Tracker.Entry := .empty
  /-- The completed transfers, oldest first. -/
  completed : List TransferId := []
  /-- How many submissions there have been. -/
  submissions : Nat := 0
deriving Inhabited

/-- What became of an answer that was delivered. -/
inductive Delivery where
  /-- It completed its submission. -/
  | accepted
  /-- Its transfer has completed, or was submitted again. -/
  | late
  /-- Its transfer is not tracked. -/
  | untracked
deriving DecidableEq, Repr

namespace Tracker

/-- Starts to track a transfer. -/
def register (t : Tracker) (id : TransferId) : Except Fault (Submission × Tracker) :=
  if t.entries.contains id then .error (.registeredTwice id)
  else
    let number := t.submissions + 1
    .ok (⟨id, number⟩,
      { t with entries := t.entries.put id (.pending number), submissions := number })

/-- The tracker in which a transfer has completed. -/
def complete (t : Tracker) (id : TransferId) (outcome : TransferOutcome) : Tracker :=
  { t with entries := t.entries.put id (.completed outcome), completed := t.completed ++ [id] }

/-- Takes the answer to a submission. It counts only while that submission is in flight. -/
def deliver (t : Tracker) (s : Submission) (outcome : TransferOutcome) : Delivery × Tracker :=
  match t.entries.get? s.transfer with
  | some (.pending number) =>
    if number = s.number then (.accepted, t.complete s.transfer outcome) else (.late, t)
  | some (.completed _) => (.late, t)
  | none => (.untracked, t)

/-- Cancels a transfer that is in flight, and says whether it was. -/
def cancel (t : Tracker) (id : TransferId) : Bool × Tracker :=
  match t.entries.get? id with
  | some (.pending _) => (true, t.complete id .canceled)
  | _ => (false, t)

/-- Takes the first completed transfer among `queue`. -/
def extractFrom (t : Tracker) : List TransferId → Option (TransferId × TransferOutcome) × Tracker
  | [] => (none, { t with completed := [] })
  | id :: queue =>
    let rest := { t with entries := t.entries.erase id, completed := queue }
    match t.entries.get? id with
    | some (.completed outcome) => (some (id, outcome), rest)
    | _ => rest.extractFrom queue

/-- Takes the transfer that completed first. -/
def extract (t : Tracker) : Option (TransferId × TransferOutcome) × Tracker :=
  t.extractFrom t.completed

/-- Stops tracking a transfer, and says whether it was tracked. -/
def remove (t : Tracker) (id : TransferId) : Bool × Tracker :=
  if t.entries.contains id then
    (true, { t with entries := t.entries.erase id, completed := t.completed.filter (· ≠ id) })
  else (false, t)

/-! ## Looking at a tracker -/

/-- Whether a transfer is tracked, in flight or completed. -/
def isTracked (t : Tracker) (id : TransferId) : Bool := t.entries.contains id

/-- Whether a transfer is in flight. -/
def isPending (t : Tracker) (id : TransferId) : Bool :=
  match t.entries.get? id with
  | some (.pending _) => true
  | _ => false

/-- How many transfers are in flight. -/
def pendingCount (t : Tracker) : Nat :=
  t.entries.values.countP fun
    | .pending _ => true
    | .completed _ => false

/-- How many transfers wait to be extracted. -/
def completedCount (t : Tracker) : Nat := t.completed.length

/-! ## Operations as data -/

/-- What can be done with a tracker. -/
inductive Op where
  | register (id : TransferId)
  | deliver (s : Submission) (outcome : TransferOutcome)
  | cancel (id : TransferId)
  | remove (id : TransferId)
  | extract
deriving DecidableEq, Repr

/-- What an operation on a tracker answers. -/
inductive Reply where
  | registered (s : Submission)
  | delivered (s : Submission) (d : Delivery)
  | cancelled (id : TransferId) (done : Bool)
  | removed (id : TransferId) (done : Bool)
  | extracted (result : Option (TransferId × TransferOutcome))
deriving DecidableEq, Repr

/-- One operation. -/
def step (t : Tracker) : Op → Except Fault (Reply × Tracker)
  | .register id => do
    let (s, t) ← t.register id
    return (.registered s, t)
  | .deliver s outcome =>
    let (d, t) := t.deliver s outcome
    .ok (.delivered s d, t)
  | .cancel id =>
    let (done, t) := t.cancel id
    .ok (.cancelled id done, t)
  | .remove id =>
    let (done, t) := t.remove id
    .ok (.removed id done, t)
  | .extract =>
    let (result, t) := t.extract
    .ok (.extracted result, t)

end Tracker

end UsbHost
