import ReliableTransfer.Library.Operations
import ReliableTransfer.Queue.Operations

/-!
# Observing the queues

Both queues can be asked whether they are empty, and can be printed; the sender's
can be searched for a packet. This file compares runs in which such calls are
made at any points with the runs without them.

In both files `queue_isempty` assigns to the size field instead of comparing it.
It returns 0 for every queue, and a queue which holds packets is taken for an
empty one by the operations which follow.
-/

open Operations

namespace ReliableTransfer

/-- `queue_isempty`: `return queue->size = 0;` -/
def queueIsempty (queue : Queue) : ℤ × Queue :=
  (0, { queue with size := 0 })

/-- The numbers printed by `queue_print_seqNum`. -/
def queuePrintSeqNum (queue : Queue) : List (BitVec 8) :=
  queue.nodes.map Pkt.seqNum

/-- What `queue_isempty` is documented to return. -/
def emptiness (queue : Queue) : ℤ :=
  if queue.nodes = [] then 0 else 1

theorem queueIsempty_eq_iff {queue : Queue} (consistent : queue.Consistent) :
    queueIsempty queue = (emptiness queue, queue) ↔ queue.nodes = [] := by
  constructor
  · intro same
    by_contra filled
    have code := congrArg Prod.fst same
    rw [emptiness, if_neg filled] at code
    cases code
  · intro empty
    have size : queue.size = 0 := by
      rw [consistent, empty]
      rfl
    have unchanged : ({ queue with size := 0 } : Queue) = queue := by
      rw [← size]
    rw [queueIsempty, unchanged, emptiness, if_pos empty]

theorem queueIsempty_fst_eq_iff {queue : Queue} :
    (queueIsempty queue).1 = emptiness queue ↔ queue.nodes = [] := by
  by_cases empty : queue.nodes = []
  · simp [queueIsempty, emptiness, empty]
  · simp [queueIsempty, emptiness, empty]

namespace QueueSender

inductive Observer where
  | isempty
  | printSeqNum
  | findAck (seqNum : BitVec 8)
  deriving DecidableEq, Repr

def observe : Observer → Queue → QueueReply × Queue
  | .isempty, queue =>
      let (code, queue) := queueIsempty queue
      (.status code, queue)
  | .printSeqNum, queue => (.printed (queuePrintSeqNum queue), queue)
  | .findAck seqNum, queue => (.packet (queueFindAckStructure queue seqNum), queue)

/-- What the observers are meant to tell. -/
def view : Observer → Queue → QueueReply
  | .isempty, queue => .status (emptiness queue)
  | .printSeqNum, queue => .printed (queuePrintSeqNum queue)
  | .findAck seqNum, queue => .packet (queueFindAckStructure queue seqNum)

end QueueSender

namespace QueueReceiver

inductive Observer where
  | isempty
  | printSeqNum
  deriving DecidableEq, Repr

def observe : Observer → Queue → QueueReply × Queue
  | .isempty, queue =>
      let (code, queue) := queueIsempty queue
      (.status code, queue)
  | .printSeqNum, queue => (.printed (queuePrintSeqNum queue), queue)

def view : Observer → Queue → QueueReply
  | .isempty, queue => .status (emptiness queue)
  | .printSeqNum, queue => .printed (queuePrintSeqNum queue)

end QueueReceiver

section Runs

variable {Op Observer : Type} (perform : Op → Queue → Except Fault (QueueReply × Queue))
  (observe : Observer → Queue → QueueReply × Queue) (view : Observer → Queue → QueueReply)

/--
From a new queue on, the operations have the replies and leave the queue which
they would without the observers, and the observers reply as they are meant to.
-/
def ObserversAgree (calls : List (Op ⊕ Observer)) : Prop :=
  ∃ replies final, performAll (call perform observe) calls queueInit = .ok (replies, final) ∧
    performAll perform (operations calls) queueInit =
      .ok (operationReplies calls replies, final) ∧
    performAll (call perform (viewing view)) calls queueInit = .ok (replies, final)

/-- The calls of an observer are made only in states in which the queue holds no packet. -/
def OnlyWhenEmpty (isempty : Observer) (calls : List (Op ⊕ Observer)) : Prop :=
  Along (call perform observe) (fun made queue => made = .inr isempty → queue.nodes = [])
    calls queueInit

/-- One of the observers is `queue_isempty`, and the others are views. -/
structure OneIsempty (isempty : Observer) : Prop where
  assigns : ∀ queue, observe isempty queue =
    (.status (queueIsempty queue).1, (queueIsempty queue).2)
  tells : ∀ queue, view isempty queue = .status (emptiness queue)
  others : ∀ observer, observer ≠ isempty → ∀ queue,
    observe observer queue = viewing view observer queue

variable {perform observe view}

theorem OneIsempty.empty_of_reply {isempty : Observer} (one : OneIsempty observe view isempty)
    {queue : Queue} (replied : (observe isempty queue).1 = view isempty queue) :
    queue.nodes = [] := by
  rw [one.assigns, one.tells] at replied
  exact queueIsempty_fst_eq_iff.mp (QueueReply.status.inj replied)

theorem OneIsempty.isView_iff {isempty : Observer} (one : OneIsempty observe view isempty)
    (observer : Observer) {queue : Queue} (consistent : queue.Consistent) :
    observe observer queue = viewing view observer queue ↔
      (observer = isempty → queue.nodes = []) := by
  constructor
  · rintro same rfl
    exact one.empty_of_reply (congrArg Prod.fst same)
  · intro whenEmpty
    by_cases same : observer = isempty
    · have unchanged := (queueIsempty_eq_iff consistent).mpr (whenEmpty same)
      rw [same, one.assigns, unchanged, viewing, one.tells]
    · exact one.others observer same queue

/-- Only a view has the reply of the view. -/
theorem OneIsempty.isView_of_reply {isempty : Observer} (one : OneIsempty observe view isempty)
    (observer : Observer) {queue : Queue} (consistent : queue.Consistent)
    (replied : (observe observer queue).1 = view observer queue) :
    observe observer queue = viewing view observer queue := by
  apply (one.isView_iff observer consistent).mpr
  rintro rfl
  exact one.empty_of_reply replied

/-- The observers agree with their views as long as `queue_isempty` is called when it may be. -/
theorem observersAgree_iff {isempty : Observer}
    (total : ∀ op {queue : Queue}, queue.Consistent → ∃ reply next,
      perform op queue = .ok (reply, next) ∧ next.Consistent)
    (one : OneIsempty observe view isempty) (calls : List (Op ⊕ Observer)) :
    ObserversAgree perform observe view calls ↔
      OnlyWhenEmpty perform observe isempty calls := by
  have agree : ObserversAgree perform observe view calls ↔
      performAll (call perform observe) calls queueInit =
        performAll (call perform (viewing view)) calls queueInit := by
    constructor
    · rintro ⟨replies, final, code, _, views⟩
      rw [code, views]
    · intro same
      have viewsTotal : ∀ (made : Op ⊕ Observer) {queue : Queue}, queue.Consistent →
          ∃ reply next, call perform (viewing view) made queue = .ok (reply, next) ∧
            next.Consistent := by
        intro made queue consistent
        cases made with
        | inl op => exact total op consistent
        | inr observer => exact ⟨_, queue, rfl, consistent⟩
      rcases performAll_total viewsTotal calls Queue.consistent_init with ⟨replies, final, views⟩
      exact ⟨replies, final, same.trans views, performAll_view views, views⟩
  have kept : ∀ {made : Op ⊕ Observer} {queue next : Queue} {reply : QueueReply},
      queue.Consistent → IsView observe view made queue →
        call perform observe made queue = .ok (reply, next) → next.Consistent := by
    intro made queue next reply consistent behaves performed
    cases made with
    | inl op =>
        rcases total op consistent with ⟨_, _, performed', kept⟩
        rw [call, performed'] at performed
        cases performed
        exact kept
    | inr observer =>
        rw [call, behaves observer rfl] at performed
        cases performed
        exact consistent
  have same : ∀ {made : Op ⊕ Observer} {queue : Queue}, queue.Consistent →
      (IsView observe view made queue ↔ (made = .inr isempty → queue.nodes = [])) := by
    intro made queue consistent
    constructor
    · rintro behaves rfl
      exact (one.isView_iff isempty consistent).mp (behaves isempty rfl) rfl
    · rintro whenEmpty observer rfl
      apply (one.isView_iff observer consistent).mpr
      rintro rfl
      exact whenEmpty rfl
  rw [agree, performAll_eq_view_iff total one.isView_of_reply calls Queue.consistent_init,
    OnlyWhenEmpty]
  constructor
  · apply Along.mono kept fun consistent behaves => (same consistent).mp behaves
    exact Queue.consistent_init
  · apply Along.mono (fun consistent whenEmpty performed =>
      kept consistent ((same consistent).mpr whenEmpty) performed)
      fun consistent whenEmpty => (same consistent).mpr whenEmpty
    exact Queue.consistent_init

end Runs

theorem QueueSender.oneIsempty : OneIsempty observe view .isempty where
  assigns _ := rfl
  tells _ := rfl
  others observer other queue := by
    cases observer with
    | isempty => exact absurd rfl other
    | printSeqNum => rfl
    | findAck seqNum => rfl

theorem QueueReceiver.oneIsempty : OneIsempty observe view .isempty where
  assigns _ := rfl
  tells _ := rfl
  others observer other queue := by
    cases observer with
    | isempty => exact absurd rfl other
    | printSeqNum => rfl

/--
Observing a queue is as it should be exactly in the sequences of calls in which
`queue_isempty` is only called while there is no packet in the queue.
-/
theorem observing_iff (sender : List (QueueSender.Operation ⊕ QueueSender.Observer))
    (receiver : List (QueueReceiver.Operation ⊕ QueueReceiver.Observer)) :
    (ObserversAgree QueueSender.perform QueueSender.observe QueueSender.view sender ↔
      OnlyWhenEmpty QueueSender.perform QueueSender.observe .isempty sender) ∧
    (ObserversAgree QueueReceiver.perform QueueReceiver.observe QueueReceiver.view receiver ↔
      OnlyWhenEmpty QueueReceiver.perform QueueReceiver.observe .isempty receiver) := by
  constructor
  · exact observersAgree_iff QueueSender.perform_total QueueSender.oneIsempty sender
  · exact observersAgree_iff QueueReceiver.perform_total QueueReceiver.oneIsempty receiver

/-- A packet is pushed, the queue is asked whether it is empty, and nothing is popped. -/
theorem observing_loses_packet :
    ¬ObserversAgree QueueSender.perform QueueSender.observe QueueSender.view
      [.inl (.push (some pktNew)), .inr .isempty, .inl .pop] := by
  rintro ⟨replies, final, code, _, views⟩
  exact absurd (code.trans views.symm) (by decide)

end ReliableTransfer
