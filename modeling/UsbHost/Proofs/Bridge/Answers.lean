import UsbHost.Host.Scripted
import UsbHost.Proofs.Bridge.Service

/-! # Each message is answered once

Every message that was sent is at one place: it waits outside the queue or in it, its sender or the
worker has it at hand, its transfer is running, or it has been answered.  `Accounted` counts the
messages at these places against all that were sent, and every step moves a message from one place
to another.  Only a request to stop leaves without an answer.  When the worker has stopped and
nobody has a message at hand any more, all others have been answered.
-/
namespace UsbHost
namespace Service

variable {η δ : Type}

/-! ## Places -/

/-- The message that the worker handles. -/
def Stage.issue? : Stage → Option Bridge.Issue
  | handling i => some i
  | _ => none

/-- Whether the worker has closed the queue. -/
def Stage.isClosed : Stage → Bool
  | draining _ | stopped => true
  | _ => false

/-- The messages that have been answered. -/
def delivered (s : Service η δ) : List Bridge.Issue := s.bridge.deliveries.map (·.issue)

/-- The messages that the worker handles or whose transfers are running. -/
def inHand (s : Service η δ) : List Bridge.Issue := s.stage.issue?.toList ++ s.running.map Prod.fst

/-- The messages at all places. -/
def placed (s : Service η δ) : List Bridge.Issue :=
  s.bridge.queue ++ s.bridge.waiting ++ s.refused ++ s.bridge.held ++ s.delivered

/-- Every message that was sent is at one place, and a request to stop at one place at most. -/
structure Accounted (s : Service η δ) : Prop where
  nodup : s.issued.Nodup
  distinct : ∀ i ∈ s.issued, ∀ j ∈ s.issued, i.number = j.number → i = j
  number_lt : ∀ i ∈ s.issued, i.number < s.bridge.nextNumber
  placed_le : ∀ i, s.placed.count i ≤ s.issued.count i
  issued_le : ∀ i, i.message ≠ .shutdown → s.issued.count i ≤ s.placed.count i
  held : ∀ i, s.bridge.held.count i = s.inHand.count i
  closed : s.bridge.closed = s.stage.isClosed
  drained : s.stage = .stopped → s.bridge.queue = []
  bounded : s.bridge.queue.length ≤ s.bridge.capacity

theorem accounted_new (capacity : Nat) (worker : Worker η δ) : Accounted (new capacity worker) where
  nodup := List.nodup_nil
  distinct := by simp [new]
  number_lt := by simp [new]
  placed_le := by simp [new, placed, delivered]
  issued_le := by simp [new]
  held := by simp [new, inHand, Stage.issue?]
  closed := rfl
  drained := nofun
  bounded := Nat.zero_le _

variable {s s' : Service η δ} {i j : Bridge.Issue}

/-- Nothing new is sent, and each message stays or moves; a request to stop may leave. -/
theorem Accounted.move (a : Accounted s) (hissued : s'.issued = s.issued)
    (hnext : s'.bridge.nextNumber = s.bridge.nextNumber)
    (hplaced : ∀ j, s'.placed.count j = s.placed.count j ∨
      j.message = .shutdown ∧ s'.placed.count j ≤ s.placed.count j)
    (hheld : ∀ j, s'.bridge.held.count j = s'.inHand.count j)
    (hclosed : s'.bridge.closed = s'.stage.isClosed)
    (hdrained : s'.stage = .stopped → s'.bridge.queue = [])
    (hbounded : s'.bridge.queue.length ≤ s'.bridge.capacity) : Accounted s' where
  nodup := hissued ▸ a.nodup
  distinct := hissued ▸ a.distinct
  number_lt := by rw [hissued, hnext]; exact a.number_lt
  placed_le j := by
    rw [hissued]
    have hle := a.placed_le j
    have hj := hplaced j
    omega
  issued_le j hj := by
    rw [hissued, (hplaced j).resolve_right fun h => hj h.1]
    exact a.issued_le j hj
  held := hheld
  closed := hclosed
  drained := hdrained
  bounded := hbounded

/-- Only what the worker is doing changes. -/
theorem Accounted.setStage (a : Accounted s) {stage : Stage}
    (hissue : stage.issue? = s.stage.issue?) (hclosed : stage.isClosed = s.stage.isClosed)
    (hstopped : stage = .stopped → s.bridge.queue = []) : Accounted { s with stage } := by
  refine a.move rfl rfl (fun _ => .inl rfl) (fun j => ?_) ?_ hstopped a.bounded
  · rw [a.held, inHand, inHand, hissue]
  · rw [a.closed, hclosed]

/-- A worker that has stopped has closed the queue. -/
theorem Accounted.not_stopped (a : Accounted s) (isOpen : s.bridge.closed = false) :
    s.stage ≠ .stopped := by
  intro hstopped
  have hclosed := a.closed
  rw [isOpen, hstopped] at hclosed
  cases hclosed

/-- One message is sent, under a new number. -/
theorem Accounted.issue (a : Accounted s) {m : Message}
    (hissued : s'.issued = s.issued ++ [s.nextIssue m])
    (hnext : s'.bridge.nextNumber = s.bridge.nextNumber + 1)
    (hplaced : ∀ j, s'.placed.count j = s.placed.count j + [s.nextIssue m].count j)
    (hheld : s'.bridge.held = s.bridge.held) (hrunning : s'.running = s.running)
    (hstage : s'.stage = s.stage) (hclosed : s'.bridge.closed = s.bridge.closed)
    (hdrained : s'.stage = .stopped → s'.bridge.queue = [])
    (hbounded : s'.bridge.queue.length ≤ s'.bridge.capacity) : Accounted s' := by
  have hnew : ∀ i ∈ s.issued, i.number ≠ (s.nextIssue m).number := fun i hi =>
    Nat.ne_of_lt (a.number_lt i hi)
  refine ⟨?_, ?_, ?_, ?_, ?_, ?_, ?_, hdrained, hbounded⟩
  · rw [hissued]
    refine List.nodup_append.mpr ⟨a.nodup, by simp, fun i hi j hj hij => ?_⟩
    rw [List.mem_singleton.mp hj] at hij
    exact hnew i hi (hij ▸ rfl)
  · rw [hissued]
    intro i hi j hj hij
    rcases List.mem_append.mp hi with hi | hi <;> rcases List.mem_append.mp hj with hj | hj
    · exact a.distinct i hi j hj hij
    · exact absurd (List.mem_singleton.mp hj ▸ hij) (hnew i hi)
    · exact absurd (List.mem_singleton.mp hi ▸ hij).symm (hnew j hj)
    · rw [List.mem_singleton.mp hi, List.mem_singleton.mp hj]
  · rw [hissued, hnext]
    intro i hi
    rcases List.mem_append.mp hi with hi | hi
    · exact Nat.lt_succ_of_lt (a.number_lt i hi)
    · rw [List.mem_singleton.mp hi]
      exact Nat.lt_succ_self _
  · intro j
    rw [hissued, hplaced, List.count_append]
    exact Nat.add_le_add_right (a.placed_le j) _
  · intro j hj
    rw [hissued, hplaced, List.count_append]
    exact Nat.add_le_add_right (a.issued_le j hj) _
  · intro j
    rw [hheld, inHand, hstage, hrunning]
    exact a.held j
  · rw [hclosed, hstage]
    exact a.closed

/-! ## Answering -/

/-- Only a request to stop fails without an answer. -/
theorem issues_failureOf (reason : String) (i : Bridge.Issue) :
    (failureOf reason i).map (·.issue) = if i.message = .shutdown then [] else [i] := by
  unfold failureOf
  cases i.message <;> simp [Message.failure]

theorem count_issues_failureOf (reason : String) (i j : Bridge.Issue) :
    ((failureOf reason i).map (·.issue)).count j = [i].count j ∨
      j.message = .shutdown ∧ ((failureOf reason i).map (·.issue)).count j ≤ [i].count j := by
  rw [issues_failureOf]
  split
  · rename_i hshutdown
    by_cases hj : i = j
    · subst hj
      exact Or.inr ⟨hshutdown, by simp⟩
    · exact Or.inl (by simp [hj])
  · exact Or.inl rfl

theorem Accounted.mem_issued (a : Accounted s) (hi : i ∈ s.bridge.held) : i ∈ s.issued := by
  have hplaced : i ∈ s.placed := by simp [placed, hi]
  exact List.count_pos_iff.mp
    (Nat.lt_of_lt_of_le (List.count_pos_iff.mpr hplaced) (a.placed_le i))

/-- The worker holds each message once, and knows it by its number. -/
theorem Accounted.count_drop (a : Accounted s) (hi : i ∈ s.bridge.held) (j : Bridge.Issue) :
    (s.bridge.held.filter (·.number ≠ i.number)).count j + [i].count j =
      s.bridge.held.count j := by
  by_cases hj : j ∈ s.bridge.held
  · by_cases hnumber : j.number = i.number
    · obtain rfl : j = i := a.distinct j (a.mem_issued hj) i (a.mem_issued hi) hnumber
      have hone : s.bridge.held.count j ≤ 1 := by
        have hissued := a.nodup.count (a := j)
        have hplaced := a.placed_le j
        simp only [placed, List.count_append] at hplaced
        split at hissued <;> omega
      have hpos := List.count_pos_iff.mpr hj
      have hnone : (s.bridge.held.filter (·.number ≠ j.number)).count j = 0 :=
        List.count_eq_zero.mpr (by simp)
      rw [hnone, List.count_singleton_self]
      omega
    · have hne : i ≠ j := fun h => hnumber (h ▸ rfl)
      rw [List.count_filter (by simpa using hnumber)]
      simp [hne]
  · have hne : i ≠ j := fun h => hj (h ▸ hi)
    rw [List.count_eq_zero.mpr hj, List.count_eq_zero.mpr fun h => hj (List.mem_filter.mp h).1]
    simp [hne]

/-- The answer goes to the message that has the number. -/
theorem Accounted.answer_eq (a : Accounted s) (hi : i ∈ s.bridge.held) (answer : WorkerAnswer) :
    s.bridge.answer i.number (some answer) =
      { s.bridge.drop i.number with deliveries := ⟨i, answer⟩ :: s.bridge.deliveries } := by
  have hfind : s.bridge.held.find? (·.number = i.number) = some i := by
    obtain ⟨j, hj⟩ := Option.isSome_iff_exists.mp
      (List.find?_isSome (p := fun j => j.number = i.number).mpr ⟨i, hi, by simp⟩)
    have hnumber : j.number = i.number := by simpa using List.find?_some hj
    rw [hj, a.distinct j (a.mem_issued (List.mem_of_find?_eq_some hj)) i (a.mem_issued hi) hnumber]
  simp [Bridge.answer, hfind, Bridge.deliver, Bridge.drop]

/-- A message that was elsewhere fails. -/
theorem Accounted.fail (a : Accounted s) (reason : String) (i : Bridge.Issue)
    (hissued : s'.issued = s.issued) (hnext : s'.bridge.nextNumber = s.bridge.nextNumber)
    (hplaced : ∀ j, s'.placed.count j + [i].count j =
      s.placed.count j + ((failureOf reason i).map (·.issue)).count j)
    (hheld : s'.bridge.held = s.bridge.held) (hhand : s'.inHand = s.inHand)
    (hclosed : s'.bridge.closed = s'.stage.isClosed)
    (hdrained : s'.stage = .stopped → s'.bridge.queue = [])
    (hbounded : s'.bridge.queue.length ≤ s'.bridge.capacity) : Accounted s' := by
  refine a.move hissued hnext (fun j => ?_) (fun j => ?_) hclosed hdrained hbounded
  · have hj := hplaced j
    rcases count_issues_failureOf reason i j with hfails | ⟨hshutdown, hfails⟩
    · exact .inl (by omega)
    · exact .inr ⟨hshutdown, by omega⟩
  · rw [hheld, hhand]
    exact a.held j

/-- An answered message was in hand before. -/
theorem Accounted.answer (a : Accounted s) (hi : i ∈ s.bridge.held) (answer : WorkerAnswer)
    (hissued : s'.issued = s.issued)
    (hbridge : s'.bridge = s.bridge.answer i.number (some answer))
    (hrefused : s'.refused = s.refused)
    (hhand : ∀ j, s'.inHand.count j + [i].count j = s.inHand.count j)
    (hclosed : s'.stage.isClosed = s.stage.isClosed)
    (hstopped : s'.stage = .stopped → s.stage = .stopped) : Accounted s' := by
  rw [a.answer_eq hi] at hbridge
  have hdrop := a.count_drop hi
  refine a.move hissued (by rw [hbridge]; rfl) (fun j => .inl ?_) (fun j => ?_) ?_ ?_ ?_
  · have hj := hdrop j
    simp only [placed, delivered, hbridge, hrefused, Bridge.drop, List.map_cons, List.count_append,
      List.count_cons, List.count_nil] at hj ⊢
    omega
  · have hj := hdrop j
    have hhandj := hhand j
    have hheld := a.held j
    simp only [hbridge, Bridge.drop] at hj ⊢
    omega
  · rw [hbridge, hclosed]
    exact a.closed
  · rw [hbridge]
    exact fun h => a.drained (hstopped h)
  · rw [hbridge]
    exact a.bounded

/-! ## Steps -/

theorem Accounted.mem_held (a : Accounted s) (hi : i ∈ s.inHand) : i ∈ s.bridge.held :=
  List.count_pos_iff.mp (a.held i ▸ List.count_pos_iff.mpr hi)

/-- The worker answers what it handles. -/
theorem Accounted.answer_handled (a : Accounted s) (handling : s.stage = .handling i)
    (answer : WorkerAnswer) (worker : Worker η δ) : Accounted (s.answered i answer worker) := by
  have hi : i ∈ s.bridge.held := a.mem_held (by simp [inHand, handling, Stage.issue?])
  refine a.answer hi answer rfl rfl rfl (fun j => ?_) ?_ nofun
  · simp only [inHand, answered, handling, Stage.issue?, Option.toList, List.count_append,
      List.count_nil]
    omega
  · simp [answered, handling, Stage.isClosed]

/-- The worker lets go of a request to stop, which is at no place then. -/
theorem Accounted.drop_handled (a : Accounted s) (handling : s.stage = .handling i)
    (asks : i.message = .shutdown) (reason : String) :
    Accounted { s with bridge := s.bridge.drop i.number, stage := .leaving reason } := by
  have hi : i ∈ s.bridge.held := a.mem_held (by simp [inHand, handling, Stage.issue?])
  have hdrop := a.count_drop hi
  refine a.move rfl rfl (fun j => ?_) (fun j => ?_) ?_ nofun a.bounded
  · have hj := hdrop j
    by_cases hne : i = j
    · refine .inr ⟨hne ▸ asks, ?_⟩
      simp only [placed, delivered, Bridge.drop, List.count_append] at hj ⊢
      omega
    · refine .inl ?_
      rw [List.count_singleton, if_neg (by simpa using hne)] at hj
      simp only [placed, delivered, Bridge.drop, List.count_append] at hj ⊢
      omega
  · have hj := hdrop j
    have hheld := a.held j
    simp only [inHand, handling, Stage.issue?, Option.toList, Bridge.drop, List.count_append,
      List.count_nil] at hj hheld ⊢
    omega
  · simpa [handling, Stage.isClosed, Bridge.drop] using a.closed

/-- Every step keeps every message at one place. -/
theorem Accounted.next [Host η δ] (a : Accounted s) (now : Step s s') : Accounted s' := by
  cases now with
  | send m present isOpen =>
    have hstage := a.not_stopped isOpen
    simp only [Bridge.send, isOpen, Bool.false_eq_true, if_false]
    -- With room the message joins the queue, and without it waits for some.
    split
    · rename_i room
      refine a.issue rfl rfl (fun j => ?_) rfl rfl rfl isOpen.symm (absurd · hstage) ?_
      · simp only [placed, delivered, nextIssue, List.count_append]
        omega
      · simpa using Nat.succ_le_of_lt room
    · refine a.issue rfl rfl (fun j => ?_) rfl rfl rfl isOpen.symm (absurd · hstage) a.bounded
      simp only [placed, delivered, nextIssue, List.count_append]
      omega
  | turnDown m present isClosed =>
    -- The sender is told at once, so the message is issued and delivered in one step.
    refine a.issue rfl rfl (fun j => ?_) rfl rfl rfl rfl a.drained a.bounded
    simp only [placed, delivered, List.count_append]
    omega
  | enter before after i waits isOpen room =>
    -- From the senders that wait into the queue: no message is lost or made.
    have hstage := a.not_stopped isOpen
    refine a.move rfl rfl (fun j => .inl ?_) a.held a.closed (absurd · hstage) ?_
    · simp only [placed, delivered, waits, List.count_append, List.count_cons, List.count_nil]
      omega
    · simpa using Nat.succ_le_of_lt room
  | wake before after i waits isClosed =>
    refine a.move rfl rfl (fun j => .inl ?_) a.held a.closed a.drained a.bounded
    simp only [placed, delivered, waits, List.count_append, List.count_cons, List.count_nil]
    omega
  | failSend before after i down =>
    rw [fail_eq]
    refine a.fail (Bridge.closedText Bridge.noWorker) i rfl rfl (fun j => ?_) rfl rfl a.closed
      a.drained a.bounded
    simp only [placed, delivered, down, List.map_append, List.count_append, List.count_cons,
      List.count_nil]
    omega
  | abandon => exact a.move rfl rfl (fun _ => .inl rfl) a.held a.closed a.drained a.bounded
  | start starting => exact a.setStage (by rw [starting]; rfl) (by rw [starting]; rfl) (by simp)
  | giveUp reason starting =>
    exact a.setStage (by rw [starting]; rfl) (by rw [starting]; rfl) (by simp)
  | take i queue serving first =>
    -- From the queue into the hands of the worker.
    refine a.move rfl rfl (fun j => .inl ?_) (fun j => ?_) ?_ (by simp) ?_
    · simp only [placed, delivered, first, List.count_append, List.count_cons, List.count_nil]
      omega
    · have hheld := a.held j
      simp only [inHand, serving, Stage.issue?, Option.toList, List.count_append,
        List.count_nil] at hheld ⊢
      omega
    · simpa [serving, Stage.isClosed] using a.closed
    · have hbounded := a.bounded
      rw [first, List.length_cons] at hbounded
      exact Nat.le_of_succ_le hbounded
  | finishLoop serving empty alone =>
    exact a.setStage (by rw [serving]; rfl) (by rw [serving]; rfl) (by simp)
  | shutdown i handling asks => exact a.drop_handled handling asks stoppedText
  | reply i command handling asks quick => exact a.answer_handled handling ..
  | refuse i c r reason handling asks unknown => exact a.answer_handled handling ..
  | begin i c r job handling asks begun last =>
    -- The message stays in the worker's hands, now as that of a running job.
    refine a.move rfl rfl (fun _ => .inl rfl) (fun j => ?_) ?_ (by simp) a.bounded
    · have hheld := a.held j
      simp only [inHand, handling, Stage.issue?, Option.toList, List.map_append, List.map_cons,
        List.map_nil, List.count_append, List.count_nil] at hheld ⊢
      omega
    · simpa [handling, Stage.isClosed] using a.closed
  | noThread i c r reason handling asks known => exact a.answer_handled handling ..
  | finish before after i job runs =>
    have hi : i ∈ s.bridge.held := a.mem_held (by simp [inHand, runs])
    refine a.answer hi _ rfl rfl rfl (fun j => ?_) rfl id
    simp only [inHand, runs, List.map_append, List.map_cons, List.count_append, List.count_cons,
      List.count_nil]
    omega
  | hostChange host => exact a.move rfl rfl (fun _ => .inl rfl) a.held a.closed a.drained a.bounded
  | close reason leaving =>
    refine a.move rfl rfl (fun _ => .inl rfl) (fun j => ?_) rfl (by simp) a.bounded
    simpa [inHand, leaving, Stage.issue?] using a.held j
  | drain reason i queue draining first =>
    -- Nobody takes what is left in the queue, so it is answered with the reason.
    rw [fail_eq]
    refine a.fail reason i rfl rfl (fun j => ?_) rfl rfl a.closed (fun h => ?_) ?_
    · simp only [placed, delivered, first, List.map_append, List.count_append, List.count_cons,
        List.count_nil]
      omega
    · simp [draining] at h
    · have hbounded := a.bounded
      rw [first, List.length_cons] at hbounded
      exact Nat.le_of_succ_le hbounded
  | stop reason draining empty =>
    exact a.setStage (by rw [draining]; rfl) (by rw [draining]; rfl) fun _ => empty

/-! ## Runs -/

theorem Run.accounted [Host η δ] {capacity : Nat} {worker : Worker η δ}
    (run : Run (new capacity worker) s) : Accounted s := by
  induction run with
  | refl => exact accounted_new capacity worker
  | step _ now ih => exact ih.next now

theorem Accounted.nodup_issued (a : Accounted s) : (s.issued.map (·.number)).Nodup :=
  List.pairwise_map.mpr (a.nodup.imp_of_mem fun hi hj hne h => hne (a.distinct _ hi _ hj h))

theorem Accounted.count_delivered_le (a : Accounted s) (i : Bridge.Issue) :
    s.delivered.count i ≤ s.issued.count i := by
  have hplaced := a.placed_le i
  simp only [placed, List.count_append] at hplaced
  omega

theorem Accounted.mem_of_delivered (a : Accounted s) (hi : i ∈ s.delivered) : i ∈ s.issued :=
  List.count_pos_iff.mp (Nat.lt_of_lt_of_le (List.count_pos_iff.mpr hi) (a.count_delivered_le i))

theorem Accounted.nodup_delivered (a : Accounted s) : (s.delivered.map (·.number)).Nodup := by
  have hnodup : s.delivered.Nodup := List.nodup_iff_count.mpr fun i =>
    Nat.le_trans (a.count_delivered_le i) (List.nodup_iff_count.mp a.nodup i)
  exact List.pairwise_map.mpr
    (hnodup.imp_of_mem fun hi hj hne h =>
      hne (a.distinct _ (a.mem_of_delivered hi) _ (a.mem_of_delivered hj) h))

/-- When nothing is left to do, all messages have been answered but requests to stop. -/
theorem Accounted.count_delivered (a : Accounted s) (stopped : s.stage = .stopped)
    (noneWaits : s.bridge.waiting = []) (noneFails : s.refused = []) (noneRuns : s.running = [])
    (hi : i ∈ s.issued) (hmessage : i.message ≠ .shutdown) : s.delivered.count i = 1 := by
  have hheld : s.bridge.held.count i = 0 := by
    rw [a.held, inHand, stopped, noneRuns]
    rfl
  have hissued : s.issued.count i = 1 := by rw [a.nodup.count, if_pos hi]
  have hle := a.placed_le i
  have hge := a.issued_le i hmessage
  simp only [placed, a.drained stopped, noneWaits, noneFails, List.count_append, List.count_nil]
    at hle hge
  omega

/-- **Each message is answered once.**  Whatever the order in which messages are sent, senders wait
and are turned down, the worker takes messages and stops, and transfers end: the messages have
numbers of their own, and no number is answered twice.  When the worker has stopped, no sender is
still at its message and no transfer is running, each message has had one answer, whether it was
left in the queue or came too late for it; requests to stop have none to wait for. -/
theorem Run.answered_once [Host η δ] {capacity : Nat} {worker : Worker η δ}
    (run : Run (new capacity worker) s) :
    (s.issued.map (·.number)).Nodup ∧
    (s.bridge.deliveries.map (·.issue.number)).Nodup ∧
    (∀ d ∈ s.bridge.deliveries, d.issue ∈ s.issued) ∧
    (s.stage = .stopped → s.bridge.waiting = [] → s.refused = [] → s.running = [] →
      ∀ i ∈ s.issued, i.message ≠ .shutdown →
        s.bridge.deliveries.countP (·.issue = i) = 1) := by
  have a := run.accounted
  refine ⟨a.nodup_issued, ?_, fun d hd => ?_,
    fun stopped noneWaits noneFails noneRuns i hi hm => ?_⟩
  · simpa only [delivered, List.map_map, Function.comp_def] using a.nodup_delivered
  · exact a.mem_of_delivered (List.mem_map_of_mem hd)
  · have hone := a.count_delivered stopped noneWaits noneFails noneRuns hi hm
    rw [delivered, List.count_eq_countP, List.countP_map] at hone
    rw [← hone]
    exact List.countP_congr fun d _ => by simp

/-- A message that waits for room behind a request to stop, and one that is sent after it. -/
theorem answered_once_behind_shutdown :
    ∃ s : Service ScriptedHost ScriptedDevice, Run (new 1 { host := {} }) s ∧
      s.issued = [⟨0, .shutdown⟩, ⟨1, .call .getDevices⟩, ⟨2, .call .getDevices⟩] ∧
      s.bridge.deliveries.countP (·.issue = ⟨1, .call .getDevices⟩) = 1 ∧
      s.bridge.deliveries.countP (·.issue = ⟨2, .call .getDevices⟩) = 1 := by
  have run : Run (new (η := ScriptedHost) (δ := ScriptedDevice) 1 { host := {} }) _ :=
    .step (.step (.step (.step (.step (.step (.step (.step (.step (.step (.step .refl
      (.start rfl))
      (.send .shutdown rfl rfl))
      (.send (.call .getDevices) rfl rfl))
      (.take _ _ rfl rfl))
      (.enter [] [] _ rfl rfl (by decide)))
      (.shutdown _ rfl rfl))
      (.close _ rfl))
      (.turnDown (.call .getDevices) rfl rfl))
      (.failSend [] [] _ rfl))
      (.drain _ _ _ rfl rfl))
      (.stop _ rfl rfl)
  obtain ⟨-, -, -, settled⟩ := run.answered_once
  have once := settled rfl rfl rfl rfl
  exact ⟨_, run, rfl, once _ (.tail _ (.head _)) nofun, once _ (.tail _ (.tail _ (.head _))) nofun⟩

end Service
end UsbHost
