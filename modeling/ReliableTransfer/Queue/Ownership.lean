import ReliableTransfer.Queue.LinkedReceiver

/-!
# What the queues own

The nodes of the sender's queue are the only ones which its functions allocate, with
allocation succeeding, and `queue_free` gives all of them back. This is about nodes:
the packets are values in them. As values the packets are not lost either: what has
been pushed on a queue is in it, or has been handed out. The sender's queue hands
them out in the order in which they were pushed; the packets in the receiver's queue
may be in another order.
-/

open Linked

namespace ReliableTransfer

namespace LinkedQueue

variable {Addr : Type}

/-- The nodes of the queue; nothing else has been allocated since `base`. -/
structure Owns (base : Heap Addr Pkt) (queue : LinkedQueue Addr) (cells : List (Addr × Pkt)) :
    Prop where
  holds : queue.Holds cells
  frame : Frame base queue.heap cells

variable [DecidableEq Addr]

/-- The nodes which `queue_free` frees; `pkt_del` and the last `free(queue)` are not modelled. -/
def queueFree (queue : LinkedQueue Addr) : Except Fault (Heap Addr Pkt) :=
  OrderedQueue.freeLoop queue.size.toNat queue.head queue.heap

variable {base heap heap' : Heap Addr Pkt} {queue next : LinkedQueue Addr}
  {cells : List (Addr × Pkt)} {newnode other : Addr}

theorem queueFree_eq (owns : queue.Owns base cells) : queueFree queue = .ok base := by
  apply OrderedQueue.freeLoop_eq owns.holds.linked owns.frame
  rw [owns.holds.size]
  simp

theorem assign_same {pointer : Option Addr} {change : Node Addr Pkt → Node Addr Pkt}
    (assigned : assign heap pointer change = .ok heap') (apart : some other ≠ pointer) :
    heap' other = heap other := by
  cases pointer with
  | none => cases assigned
  | some addr =>
      rw [assign] at assigned
      split at assigned
      · cases assigned
      · cases assigned
        exact Function.update_of_ne (fun same => apart (congrArg some same)) ..

/-- A push writes to the new node and to the last one only. -/
theorem queuePush_same {garbage : Node Addr Pkt} {pkt : Pkt} {code : ℤ} (holds : queue.Holds cells)
    (pushed : queuePush (some (newnode, garbage)) queue (some pkt) = .ok (code, next))
    (notNew : other ≠ newnode) (outside : other ∉ addresses cells) :
    next.heap other = queue.heap other := by
  have apart : some other ≠ some newnode := fun same => notNew (Option.some.inj same)
  simp only [queuePush, bind, Except.bind, OrderedQueue.assign_new] at pushed
  split at pushed
  · cases pushed
    exact Function.update_of_ne notNew ..
  · rename_i filled
    have notLast : some other ≠ queue.last := by
      intro isLast
      rcases List.eq_nil_or_concat' cells with rfl | ⟨front, last, rfl⟩
      · exact filled (holds.size_eq_zero_iff.mpr rfl)
      · rw [holds.last last.1 (by simp)] at isLast
        cases isLast
        exact outside (by simp)
    split at pushed
    · cases pushed
    · rename_i linked first
      split at pushed
      · cases pushed
      · rename_i final second
        cases pushed
        change final other = _
        rw [assign_same second apart, assign_same first notLast, Function.update_of_ne notNew]

theorem queuePush_owns (owns : queue.Owns base cells) (garbage : Node Addr Pkt) (pkt : Pkt)
    (unused : queue.heap newnode = none) :
    ∃ next, queuePush (some (newnode, garbage)) queue (some pkt) = .ok (0, next) ∧
      next.Owns base (cells ++ [(newnode, pkt)]) := by
  have fresh : newnode ∉ addresses cells :=
    fun present => owns.holds.linked.allocated present unused
  rcases queuePush_holds owns.holds garbage pkt unused with ⟨next, pushed, kept⟩
  refine ⟨next, pushed, kept, Frame.insert ?_ unused ?_ ?_⟩
  · rw [List.append_nil]
    exact owns.frame
  · rw [List.append_nil]
    exact fresh
  · intro other notNew outside
    rw [List.append_nil] at outside
    exact queuePush_same owns.holds pushed notNew outside

theorem queuePop_owns {cell : Addr × Pkt} (owns : queue.Owns base (cell :: cells)) :
    ∃ next, queuePop queue = .ok (some cell.2, next) ∧ next.Owns base cells := by
  rcases queuePop_holds owns.holds with ⟨_, _, _, popped, kept⟩
  exact ⟨_, popped, kept, owns.frame.tail⟩

/-- Each pass of the loop is a pop. -/
theorem deleteLoop_owns {seqNum : BitVec 8} {fuel number count : ℕ} (owns : queue.Owns base cells)
    (deleted : deleteLoop seqNum fuel queue.head queue number = .ok (count, next)) :
    ∃ rest, next.Owns base rest := by
  induction cells generalizing queue fuel number with
  | nil =>
      have head : queue.head = none := owns.holds.linked
      rw [head, deleteLoop] at deleted
      cases deleted
      exact ⟨[], owns⟩
  | cons cell rest ih =>
      rcases queuePop_holds owns.holds with ⟨following, held, head, popped, kept⟩
      have behind := And.intro kept owns.frame.tail
      cases fuel with
      | zero =>
          rw [head, deleteLoop] at deleted
          cases deleted
      | succ fuel =>
          rw [head, deleteLoop, load_allocated held] at deleted
          simp only [bind, Except.bind, popped] at deleted
          split at deleted
          · exact ih ⟨behind.1, behind.2⟩ deleted
          · split at deleted
            · cases deleted
              exact ⟨rest, behind.1, behind.2⟩
            · split at deleted
              · cases deleted
              · cases deleted
                exact ⟨rest, behind.1, behind.2⟩

theorem perform_owns {request : Request Addr} {reply : QueueReply}
    (owned : ∃ cells, queue.Owns base cells) (unused : MallocUnused request queue)
    (performed : perform request queue = .ok (reply, next)) : ∃ cells, next.Owns base cells := by
  rcases owned with ⟨cells, owns⟩
  rcases request with ⟨op, newnode, garbage⟩
  cases op with
  | push pkt =>
      cases pkt with
      | none =>
          cases performed
          exact ⟨cells, owns⟩
      | some pkt =>
          rcases queuePush_owns owns garbage pkt (unused pkt rfl) with ⟨_, pushed, kept⟩
          rw [perform, pushed] at performed
          cases performed
          exact ⟨_, kept⟩
  | pop =>
      cases cells with
      | nil =>
          rw [perform, queuePop, if_pos (owns.holds.size_eq_zero_iff.mpr rfl)] at performed
          cases performed
          exact ⟨[], owns⟩
      | cons cell rest =>
          rcases queuePop_owns owns with ⟨_, popped, kept⟩
          rw [perform, popped] at performed
          cases performed
          exact ⟨rest, kept⟩
  | delete seqNum =>
      simp only [perform, queueDelete, bind, Except.bind] at performed
      split at performed
      · cases performed
      · rename_i result deleted
        cases performed
        split at deleted
        · cases deleted
          exact ⟨cells, owns⟩
        · exact deleteLoop_owns owns deleted
  | findNack seqNum =>
      have holds := owns.holds
      have enough : cells.length ≤ queue.size.toNat := by
        rw [holds.size]
        simp
      rcases findNackLoop_holds seqNum holds.linked enough with
        ⟨marked, changed, looped, linked, places, spelled, same⟩
      rw [perform, queueFindNackStructure, looped] at performed
      cases performed
      have size : changed.length = cells.length := by
        rw [← length_values, spelled, QueueSender.length_markNodes, length_values]
      refine ⟨changed, ⟨linked, ?_, ?_⟩, owns.frame.congr places same⟩
      · rw [size]
        exact holds.size
      · rw [places]
        exact holds.last
  | findAck seqNum =>
      simp only [perform, bind, Except.bind] at performed
      split at performed
      · cases performed
      · cases performed
        exact ⟨cells, owns⟩

/--
After every sequence of operations on a new queue, with allocation succeeding, `queue_free` frees
every node which has been allocated for the queue and is still in it, once, and no other: the
nodes are those before the first operation.
-/
theorem performAll_queueFree (heap : Heap Addr Pkt) (requests : List (Request Addr))
    (unused : Operations.Along perform MallocUnused requests (queueInit heap)) :
    ∃ replies final, Operations.performAll perform requests (queueInit heap) =
        .ok (replies, final) ∧
      queueFree final = .ok heap := by
  rcases performAll_represents heap requests unused with ⟨final, performed, _⟩
  have initial : ∃ cells, (queueInit heap).Owns heap cells :=
    ⟨[], ⟨rfl, rfl, fun addr final => by cases final⟩, .refl heap⟩
  rcases Operations.performAll_invariant perform_owns initial unused performed with ⟨cells, owns⟩
  exact ⟨_, final, performed, queueFree_eq owns⟩

/-- The blocks of the example are not in use when they are allocated. -/
theorem unused_requestsExample :
    Operations.Along perform MallocUnused requestsExample (queueInit fun _ => none) := by
  refine ⟨fun _ _ => rfl, ?_⟩
  rintro _ _ ⟨⟩
  refine ⟨fun _ other => (by cases other), ?_⟩
  rintro _ _ ⟨⟩
  refine ⟨fun _ _ => rfl, ?_⟩
  rintro _ _ ⟨⟩
  refine ⟨fun _ _ => rfl, ?_⟩
  rintro _ _ ⟨⟩
  refine ⟨fun _ other => (by cases other), ?_⟩
  rintro _ _ ⟨⟩
  refine ⟨fun _ other => (by cases other), ?_⟩
  rintro _ _ ⟨⟩
  trivial

theorem performAll_queueFree_example :
    ∃ replies final, Operations.performAll perform requestsExample (queueInit fun _ => none) =
        .ok (replies, final) ∧
      queueFree final = .ok fun _ => none :=
  performAll_queueFree _ _ unused_requestsExample

end LinkedQueue

namespace QueueSender

/-- A packet apart from its timestamp, which a `NACK` may have changed. -/
def untimed (pkt : Pkt) : Pkt :=
  { pkt with timestamp := 0 }

def Operation.pushed : Operation → List Pkt
  | .push (some pkt) => [pkt]
  | _ => []

/-- The number of packets which an operation reports to have removed. -/
def Operation.removed : Operation → QueueReply → ℕ
  | .pop, .packet (some _) => 1
  | .delete _, .count number => number
  | _, _ => 0

/-- The number of packets which some operations report to have removed. -/
def removedAll (ops : List Operation) (replies : List QueueReply) : ℕ :=
  ((ops.zip replies).map fun made => made.1.removed made.2).sum

theorem map_untimed_markNodes (seqNum : BitVec 8) (nodes : List Pkt) :
    (markNodes seqNum nodes).map untimed = nodes.map untimed := by
  induction nodes with
  | nil => rfl
  | cons pkt run ih =>
      rw [markNodes]
      split
      · rfl
      · rw [List.map_cons, List.map_cons, ih]

theorem remaining_eq_drop (seqNum : BitVec 8) (nodes : List Pkt) :
    remaining seqNum nodes = nodes.drop (deleted seqNum nodes) :=
  List.suffix_iff_eq_drop.mp (remaining_suffix seqNum nodes)

/-- An operation removes packets from the head only, and says how many. -/
theorem answer_fifo (op : Operation) (nodes : List Pkt) :
    (answer op nodes).2.map untimed =
        ((nodes ++ op.pushed).map untimed).drop (op.removed (answer op nodes).1) ∧
      op.removed (answer op nodes).1 ≤ (nodes ++ op.pushed).length := by
  cases op with
  | push pkt =>
      cases pkt with
      | none => exact ⟨by simp [answer, Operation.pushed, Operation.removed], Nat.zero_le _⟩
      | some pkt => exact ⟨rfl, Nat.zero_le _⟩
  | pop =>
      cases nodes with
      | nil => exact ⟨rfl, le_rfl⟩
      | cons pkt rest => simp [answer, Operation.pushed, Operation.removed]
  | delete seqNum =>
      refine ⟨?_, ?_⟩
      · simp only [answer, Operation.pushed, Operation.removed, List.append_nil]
        rw [remaining_eq_drop, List.map_drop]
      · simp only [answer, Operation.pushed, Operation.removed, List.append_nil, deleted]
        exact Nat.sub_le _ _
  | findNack seqNum =>
      have kept := map_untimed_markNodes seqNum nodes
      cases found : (markNodes seqNum nodes).find? fun pkt => pkt.seqNum = seqNum <;>
        simp [answer, Operation.pushed, Operation.removed, kept]
  | findAck seqNum => simp [answer, Operation.pushed, Operation.removed]

theorem answerAll_fifo (ops : List Operation) (nodes : List Pkt) :
    (Operations.answerAll answer ops nodes).2.map untimed =
        ((nodes ++ ops.flatMap Operation.pushed).map untimed).drop
          (removedAll ops (Operations.answerAll answer ops nodes).1) ∧
      removedAll ops (Operations.answerAll answer ops nodes).1 ≤
        (nodes ++ ops.flatMap Operation.pushed).length := by
  induction ops generalizing nodes with
  | nil => simp [Operations.answerAll, removedAll]
  | cons op rest ih =>
      rcases answer_fifo op nodes with ⟨first, few⟩
      rcases ih (answer op nodes).2 with ⟨others, fewer⟩
      have length := congrArg List.length first
      simp only [List.length_map, List.length_drop] at length
      have total : removedAll (op :: rest) (Operations.answerAll answer (op :: rest) nodes).1 =
          op.removed (answer op nodes).1 +
            removedAll rest (Operations.answerAll answer rest (answer op nodes).2).1 := by
        simp [Operations.answerAll, removedAll]
      have apart : ((nodes ++ op.pushed ++ rest.flatMap Operation.pushed).map untimed).drop
            (op.removed (answer op nodes).1) =
          ((nodes ++ op.pushed).map untimed).drop (op.removed (answer op nodes).1) ++
            (rest.flatMap Operation.pushed).map untimed := by
        rw [@List.map_append _ _ _ (nodes ++ op.pushed),
          List.drop_append_of_le_length (by simpa using few)]
      rw [total, List.flatMap_cons, ← List.append_assoc]
      constructor
      · change (Operations.answerAll answer rest (answer op nodes).2).2.map untimed = _
        rw [others, List.map_append, first, ← List.drop_drop, apart]
      · simp only [List.length_append] at few fewer length ⊢
        omega

end QueueSender

namespace LinkedQueue

variable {Addr : Type} [DecidableEq Addr]

/--
The sender's queue is first in, first out: after every sequence of operations, with allocation
succeeding, its nodes hold the packets which have been pushed, in this order, without as many of
the first ones as the operations have reported to be removed. Only timestamps have changed.
-/
theorem performAll_fifo (heap : Heap Addr Pkt) (requests : List (Request Addr))
    (unused : Operations.Along perform MallocUnused requests (queueInit heap)) :
    ∃ replies final cells, Operations.performAll perform requests (queueInit heap) =
        .ok (replies, final) ∧
      Chain final.heap final.head cells none ∧
      (values cells).map QueueSender.untimed =
        (((requests.map Prod.fst).flatMap QueueSender.Operation.pushed).map
          QueueSender.untimed).drop (QueueSender.removedAll (requests.map Prod.fst) replies) := by
  rcases performAll_represents heap requests unused with
    ⟨final, performed, cells, holds, spelled⟩
  refine ⟨_, final, cells, performed, holds.linked, ?_⟩
  rw [spelled, (QueueSender.answerAll_fifo _ []).1, List.nil_append]

theorem performAll_fifo_example :
    ∃ replies final cells, Operations.performAll perform requestsExample (queueInit fun _ => none) =
        .ok (replies, final) ∧
      Chain final.heap final.head cells none ∧
      (values cells).map QueueSender.untimed =
        (((requestsExample.map Prod.fst).flatMap QueueSender.Operation.pushed).map
          QueueSender.untimed).drop
            (QueueSender.removedAll (requestsExample.map Prod.fst) replies) :=
  performAll_fifo _ _ unused_requestsExample

end LinkedQueue

namespace QueueReceiver

/-- The packet which an operation adds, if it reports to have done so. -/
def Operation.accepted : Operation → QueueReply → List Pkt
  | .push pkt, reply => if reply = .status 0 then pkt.toList else []
  | .orderedPush pkt _ _, reply => if reply = .status 0 then pkt.toList else []
  | _, _ => []

/-- The packets which a reply hands out: to the caller, or to `write`. -/
def handedOut : QueueReply → List Pkt
  | .packet found => found.toList
  | .written _ _ writes => writes.map Write.pkt
  | _ => []

/-- What some operations have added, each with its reply. -/
def acceptedAll (ops : List Operation) (replies : List QueueReply) : List Pkt :=
  (ops.zip replies).flatMap fun made => made.1.accepted made.2

end QueueReceiver

namespace OrderedQueue

open QueueReceiver

theorem performListed_ledger {op : Operation} {malloc : Bool} {nodes : List Pkt}
    {reply : QueueReply} {next : Queue}
    (performed : performListed (op, malloc) (.ofNodes nodes) = .ok (reply, next)) :
    next.Consistent ∧ (nodes ++ op.accepted reply).Perm (handedOut reply ++ next.nodes) := by
  cases op with
  | push pkt =>
      cases pkt with
      | none =>
          cases performed
          simp [Operation.accepted, handedOut, Queue.consistent_ofNodes]
      | some pkt =>
          cases malloc with
          | false =>
              cases performed
              simp [Operation.accepted, handedOut, Queue.consistent_ofNodes]
          | true =>
              simp only [performListed, QueueReceiver.perform, QueueReceiver.queuePush,
                Queue.pushOr_ofNodes, bind, Except.bind] at performed
              cases performed
              exact ⟨Queue.consistent_ofNodes _, .refl _⟩
  | orderedPush pkt waitedSeqNum realWindowSize =>
      cases pkt with
      | none =>
          cases performed
          simp [Operation.accepted, handedOut, Queue.consistent_ofNodes]
      | some pkt =>
          cases malloc with
          | false =>
              cases performed
              simp [Operation.accepted, handedOut, Queue.consistent_ofNodes]
          | true =>
              simp only [performListed, QueueReceiver.perform, bind, Except.bind] at performed
              rcases queueOrderedPush_total nodes pkt waitedSeqNum realWindowSize with
                ⟨left, right, rfl, inserted⟩ | ⟨_, same⟩
              · rw [inserted] at performed
                cases performed
                refine ⟨Queue.consistent_ofNodes _, ?_⟩
                change (left ++ right ++ [pkt]).Perm (left ++ ([pkt] ++ right))
                rw [List.append_assoc]
                exact List.perm_append_comm.append_left left
              · rw [same] at performed
                cases performed
                simp [Operation.accepted, handedOut, Queue.consistent_ofNodes]
  | pop =>
      simp only [performListed, QueueReceiver.perform] at performed
      cases nodes with
      | nil =>
          cases performed
          exact ⟨Queue.consistent_ofNodes _, .refl _⟩
      | cons pkt rest =>
          simp only [Queue.pop_ofNodes_cons, bind, Except.bind] at performed
          cases performed
          refine ⟨Queue.consistent_ofNodes _, ?_⟩
          simp [Operation.accepted, handedOut]
  | payloadWrite wr seqNum lastTimeStamp =>
      simp only [performListed, QueueReceiver.perform, queuePayloadWrite_ofNodes] at performed
      cases performed
      refine ⟨Queue.consistent_ofNodes _, ?_⟩
      have whole := List.prefix_iff_eq_append.mp (consecutive_isPrefix seqNum nodes)
      simp only [Operation.accepted, handedOut, List.append_nil, List.nil_append,
        map_pkt_writesOf, Queue.nodes_ofNodes]
      rw [whole]

theorem performAll_ledger {ops : List (Operation × Bool)} {nodes : List Pkt}
    {replies : List QueueReply} {final : Queue}
    (performed : Operations.performAll performListed ops (.ofNodes nodes) =
      .ok (replies, final)) :
    (nodes ++ acceptedAll (ops.map Prod.fst) replies).Perm
      (replies.flatMap handedOut ++ final.nodes) := by
  induction ops generalizing nodes replies with
  | nil =>
      cases performed
      simp [acceptedAll]
  | cons op rest ih =>
      rcases Operations.performAll_cons_inv performed with ⟨reply, next, others, first, later, rfl⟩
      rcases performListed_ledger first with ⟨consistent, moved⟩
      rw [consistent.eq_ofNodes] at later
      have accepted : acceptedAll ((op :: rest).map Prod.fst) (reply :: others) =
          op.1.accepted reply ++ acceptedAll (rest.map Prod.fst) others := rfl
      rw [accepted, List.flatMap_cons, ← List.append_assoc, List.append_assoc (handedOut reply)]
      refine (moved.append_right _).trans ?_
      rw [List.append_assoc]
      exact (ih later).append_left _

variable {Addr : Type} [DecidableEq Addr]

/--
No packet is lost or duplicated by the receiver's queue: after every sequence of operations,
those whose push has succeeded are the ones which have been popped or handed to `write`,
together with those which the nodes still hold.
-/
theorem performAll_conserves (heap : Heap Addr Pkt) (requests : List (Request Addr))
    (unused : Operations.Along perform MallocUnused requests (queueInit heap)) :
    ∃ replies final cells, Operations.performAll perform requests (queueInit heap) =
        .ok (replies, final) ∧
      Chain final.heap final.head cells none ∧
      (acceptedAll (requests.map Prod.fst) replies).Perm
        (replies.flatMap handedOut ++ values cells) := by
  rcases performAll_simulation heap requests unused with
    ⟨replies, final, cells, performed, performed', owns⟩
  refine ⟨replies, final, cells, performed, owns.linked, ?_⟩
  have ledger := performAll_ledger performed'
  rw [List.map_map] at ledger
  exact ledger

theorem performAll_conserves_example :
    ∃ replies final cells, Operations.performAll perform requestsExample (queueInit fun _ => none) =
        .ok (replies, final) ∧
      Chain final.heap final.head cells none ∧
      (acceptedAll (requestsExample.map Prod.fst) replies).Perm
        (replies.flatMap handedOut ++ values cells) :=
  performAll_conserves _ _ unused_requestsExample

end OrderedQueue

end ReliableTransfer
