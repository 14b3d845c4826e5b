import ReliableTransfer.Library.Operations
import ReliableTransfer.Queue.Sender
import ReliableTransfer.Queue.Receiver

/-!
# Operations on the queues

The functions of the two files which change a queue, each as an operation with
a reply. On the queue of some packets, an operation of the sender's queue is an
operation on the list of these packets (`QueueSender.perform_ofNodes`). No
operation fails, and the size field always counts the packets.
-/

namespace ReliableTransfer

/-- What a function of a queue returns, and what it writes or prints. -/
inductive QueueReply where
  | status (code : ℤ)
  | packet (found : Option Pkt)
  | count (number : ℕ)
  | written (count : BitVec 8) (lastTimeStamp : BitVec 32) (writes : List QueueReceiver.Write)
  | printed (numbers : List (BitVec 8))
  deriving DecidableEq

namespace QueueSender

inductive Operation where
  | push (pkt : Option Pkt)
  | pop
  | delete (seqNum : BitVec 8)
  | findNack (seqNum : BitVec 8)
  | findAck (seqNum : BitVec 8)
  deriving DecidableEq, Repr

def perform : Operation → Queue → Except Fault (QueueReply × Queue)
  | .push pkt, queue => do
      let (code, queue) ← queuePush queue pkt
      return (.status code, queue)
  | .pop, queue => do
      let (pkt, queue) ← queuePop queue
      return (.packet pkt, queue)
  | .delete seqNum, queue => do
      let (number, queue) ← queueDelete queue seqNum
      return (.count number, queue)
  | .findNack seqNum, queue =>
      let (pkt, queue) := queueFindNackStructure queue seqNum
      .ok (.packet pkt, queue)
  | .findAck seqNum, queue => .ok (.packet (queueFindAckStructure queue seqNum), queue)

/-- The operations as they are meant, on a list of packets. -/
def answer : Operation → List Pkt → QueueReply × List Pkt
  | .push none, nodes => (.status (-1), nodes)
  | .push (some pkt), nodes => (.status 0, nodes ++ [pkt])
  | .pop, nodes => (.packet nodes.head?, nodes.tail)
  | .delete seqNum, nodes => (.count (deleted seqNum nodes), remaining seqNum nodes)
  | .findNack seqNum, nodes =>
      (.packet ((markNodes seqNum nodes).find? fun pkt => pkt.seqNum = seqNum),
        markNodes seqNum nodes)
  | .findAck seqNum, nodes => (.packet (nodes.find? fun pkt => pkt.seqNum = seqNum), nodes)

theorem perform_ofNodes (op : Operation) (nodes : List Pkt) :
    perform op (.ofNodes nodes) = .ok ((answer op nodes).1, .ofNodes (answer op nodes).2) := by
  cases op with
  | push pkt =>
      cases pkt with
      | none => rfl
      | some pkt =>
          rw [perform, queuePush, Queue.pushOr_ofNodes]
          rfl
  | pop =>
      cases nodes with
      | nil => rfl
      | cons pkt rest =>
          rw [perform, Queue.pop_ofNodes_cons]
          rfl
  | delete seqNum =>
      rw [perform, queueDelete_eq]
      rfl
  | findNack seqNum =>
      have size := length_markNodes seqNum nodes
      simp [perform, answer, queueFindNackStructure, Queue.ofNodes, size]
  | findAck seqNum => rfl

theorem perform_total (op : Operation) {queue : Queue} (consistent : queue.Consistent) :
    ∃ reply next, perform op queue = .ok (reply, next) ∧ next.Consistent := by
  rw [consistent.eq_ofNodes, perform_ofNodes]
  exact ⟨_, _, rfl, Queue.consistent_ofNodes _⟩

/-- A sequence of operations has the replies of those on the list. -/
theorem performAll_ofNodes (ops : List Operation) (nodes : List Pkt) :
    Operations.performAll perform ops (.ofNodes nodes) =
      .ok ((Operations.answerAll answer ops nodes).1,
        .ofNodes (Operations.answerAll answer ops nodes).2) :=
  Operations.performAll_embed perform_ofNodes ops nodes

end QueueSender

namespace QueueReceiver

inductive Operation where
  | push (pkt : Option Pkt)
  | orderedPush (pkt : Option Pkt) (waitedSeqNum realWindowSize : BitVec 8)
  | pop
  | payloadWrite (wr : ℕ → WriteOutcome) (seqNum : BitVec 8) (lastTimeStamp : BitVec 32)

def perform : Operation → Queue → Except Fault (QueueReply × Queue)
  | .push pkt, queue => do
      let (code, queue) ← queuePush queue pkt
      return (.status code, queue)
  | .orderedPush pkt waitedSeqNum realWindowSize, queue => do
      let (code, queue) ← queueOrderedPush queue pkt waitedSeqNum realWindowSize
      return (.status code, queue)
  | .pop, queue => do
      let (pkt, queue) ← queuePop queue
      return (.packet pkt, queue)
  | .payloadWrite wr seqNum lastTimeStamp, queue =>
      let result := queuePayloadWrite wr queue seqNum lastTimeStamp []
      .ok (.written result.count result.lastTimeStamp result.writes, result.queue)

theorem perform_total (op : Operation) {queue : Queue} (consistent : queue.Consistent) :
    ∃ reply next, perform op queue = .ok (reply, next) ∧ next.Consistent := by
  rw [consistent.eq_ofNodes]
  cases op with
  | push pkt =>
      cases pkt with
      | none => exact ⟨_, _, rfl, Queue.consistent_ofNodes _⟩
      | some pkt =>
          rw [perform, queuePush, Queue.pushOr_ofNodes]
          exact ⟨_, _, rfl, Queue.consistent_ofNodes _⟩
  | orderedPush pkt waitedSeqNum realWindowSize =>
      cases pkt with
      | none => exact ⟨_, _, rfl, Queue.consistent_ofNodes _⟩
      | some pkt =>
          rcases queueOrderedPush_total queue.nodes pkt waitedSeqNum realWindowSize with
            ⟨left, right, _, inserted⟩ | ⟨_, refused⟩
          · rw [perform, inserted]
            exact ⟨_, _, rfl, Queue.consistent_ofNodes _⟩
          · rw [perform, refused]
            exact ⟨_, _, rfl, Queue.consistent_ofNodes _⟩
  | pop =>
      cases queue.nodes with
      | nil => exact ⟨_, _, rfl, Queue.consistent_ofNodes _⟩
      | cons pkt rest =>
          rw [perform, Queue.pop_ofNodes_cons]
          exact ⟨_, _, rfl, Queue.consistent_ofNodes _⟩
  | payloadWrite wr seqNum lastTimeStamp =>
      rw [perform, queuePayloadWrite_ofNodes]
      exact ⟨_, _, rfl, Queue.consistent_ofNodes _⟩

end QueueReceiver

end ReliableTransfer
