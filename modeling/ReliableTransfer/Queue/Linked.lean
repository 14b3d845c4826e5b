import ReliableTransfer.Library.Linked
import ReliableTransfer.Library.Operations
import ReliableTransfer.Queue.Operations

/-!
# The sender's queue in memory

The functions of `queue_sender.c` on a heap of nodes, with the pointers `head`
and `last`. A node which is not allocated cannot be read, written or freed:
such an access is a fault. Freed addresses can be allocated again. The heap is
that of the nodes only: a packet is a value in its node, and neither its
own memory with the calls of `pkt_del` nor that of the structure `queue_t` is
modelled.

The pointer `last` dangles when `queue_pop` has removed the only node, and
`queue_delete` frees the nodes which it walks along. None of the dangling
pointers is used: every sequence of operations, with allocation succeeding, has
the replies of the operations on the list of the packets, and leaves this list
in the heap.
-/

open Linked

namespace ReliableTransfer

/-- The structure `queue_t`, and the heap into which it points. -/
structure LinkedQueue (Addr : Type) where
  heap : Heap Addr Pkt
  head : Option Addr
  last : Option Addr
  size : ℤ

namespace LinkedQueue

variable {Addr : Type}

/-- The nodes from `head` on, the size and, if there is a node, the pointer `last`. -/
structure Holds (queue : LinkedQueue Addr) (cells : List (Addr × Pkt)) : Prop where
  linked : Chain queue.heap queue.head cells none
  size : queue.size = cells.length
  last : ∀ addr ∈ (addresses cells).getLast?, queue.last = some addr

theorem Holds.size_eq_zero_iff {queue : LinkedQueue Addr} {cells : List (Addr × Pkt)}
    (holds : queue.Holds cells) : queue.size = 0 ↔ cells = [] := by
  rw [holds.size]
  simp

/-- There is no head exactly when the size is 0. -/
theorem Holds.head_eq_none_iff {queue : LinkedQueue Addr} {cells : List (Addr × Pkt)}
    (holds : queue.Holds cells) : queue.head = none ↔ queue.size = 0 := by
  rw [holds.size_eq_zero_iff]
  have linked := holds.linked
  cases cells with
  | nil => exact iff_of_true linked rfl
  | cons cell rest =>
      rw [linked.1]
      simp

/-- Read the node at a pointer. -/
def load (heap : Heap Addr Pkt) (pointer : Option Addr) : Except Fault (Node Addr Pkt) :=
  match pointer with
  | none => .error .nullPointer
  | some addr =>
      match heap addr with
      | none => .error .danglingPointer
      | some node => .ok node

theorem load_allocated {heap : Heap Addr Pkt} {addr : Addr} {node : Node Addr Pkt}
    (held : heap addr = some node) : load heap (some addr) = .ok node := by
  simp only [load, held]

variable [DecidableEq Addr]

/-- Assign to a field of the node at a pointer. -/
def assign (heap : Heap Addr Pkt) (pointer : Option Addr)
    (change : Node Addr Pkt → Node Addr Pkt) : Except Fault (Heap Addr Pkt) :=
  match pointer with
  | none => .error .nullPointer
  | some addr =>
      match heap addr with
      | none => .error .danglingPointer
      | some node => .ok (Function.update heap addr (some (change node)))

def free (heap : Heap Addr Pkt) (pointer : Option Addr) : Except Fault (Heap Addr Pkt) :=
  match pointer with
  | none => .ok heap
  | some addr =>
      match heap addr with
      | none => .error .danglingPointer
      | some _ => .ok (Function.update heap addr none)

theorem assign_allocated {heap : Heap Addr Pkt} {addr : Addr} {node : Node Addr Pkt}
    (change : Node Addr Pkt → Node Addr Pkt) (held : heap addr = some node) :
    assign heap (some addr) change =
      .ok (Function.update heap addr (some (change node))) := by
  simp only [assign, held]

theorem free_allocated {heap : Heap Addr Pkt} {addr : Addr} {node : Node Addr Pkt}
    (held : heap addr = some node) :
    free heap (some addr) = .ok (Function.update heap addr none) := by
  simp only [free, held]

/-- `queue_init`, in a heap which may hold other nodes. -/
def queueInit (heap : Heap Addr Pkt) : LinkedQueue Addr :=
  ⟨heap, none, none, 0⟩

/--
`queue_push`. The block returned by `malloc` is an address with whatever lies
there, or none.
-/
def queuePush (block : Option (Addr × Node Addr Pkt)) (queue : LinkedQueue Addr)
    (pkt : Option Pkt) : Except Fault (ℤ × LinkedQueue Addr) :=
  match pkt with
  | none => .ok (-1, queue)
  | some pkt =>
      match block with
      | none => .ok (-1, queue)
      | some (newnode, garbage) => do
          let heap := Function.update queue.heap newnode (some garbage)
          if queue.size = 0 then
            let heap ← assign heap (some newnode) fun node => { node with value := pkt }
            let heap ← assign heap (some newnode) fun node => { node with next := none }
            return (0, ⟨heap, some newnode, some newnode, queue.size + 1⟩)
          else
            let heap ← assign heap (some newnode) fun node => { node with value := pkt }
            let heap ← assign heap queue.last fun node => { node with next := some newnode }
            let heap ← assign heap (some newnode) fun node => { node with next := none }
            return (0, ⟨heap, queue.head, some newnode, queue.size + 1⟩)

/-- `queue_pop`. The pointer `last` is left as it is. -/
def queuePop (queue : LinkedQueue Addr) : Except Fault (Option Pkt × LinkedQueue Addr) :=
  if queue.size = 0 then .ok (none, queue)
  else do
    let node ← load queue.heap queue.head
    let heap ← free queue.heap queue.head
    return (some node.value, ⟨heap, node.next, queue.last, queue.size - 1⟩)

/-- The loop of `queue_delete`: the next node is read before this one is freed. -/
def deleteLoop (seqNum : BitVec 8) : ℕ → Option Addr → LinkedQueue Addr → ℕ →
    Except Fault (ℕ × LinkedQueue Addr)
  | _, none, queue, number => .ok (number, queue)
  | 0, some _, _, _ => .error .outOfFuel
  | fuel + 1, some run, queue, number => do
      let node ← load queue.heap (some run)
      let (_, queue) ← queuePop queue
      if node.value.seqNum ≠ seqNum then deleteLoop seqNum fuel node.next queue (number + 1)
      else if queue.head = none then return (number + 1, queue)
      else
        -- The number of the first packet which is left is printed.
        let _ ← load queue.heap queue.head
        return (number + 1, queue)

def queueDelete (queue : LinkedQueue Addr) (seqNum : BitVec 8) :
    Except Fault (ℕ × LinkedQueue Addr) :=
  if queue.size = 0 then .ok (0, queue)
  else deleteLoop seqNum queue.size.toNat queue.head queue 0

/-- The loop of `queue_find_ack_structure`. -/
def findAckLoop (seqNum : BitVec 8) (heap : Heap Addr Pkt) :
    ℕ → Option Addr → Except Fault (Option Pkt)
  | _, none => .ok none
  | 0, some _ => .error .outOfFuel
  | fuel + 1, some run => do
      let node ← load heap (some run)
      if node.value.seqNum = seqNum then return some node.value
      else findAckLoop seqNum heap fuel node.next

def queueFindAckStructure (queue : LinkedQueue Addr) (seqNum : BitVec 8) :
    Except Fault (Option Pkt) :=
  findAckLoop seqNum queue.heap queue.size.toNat queue.head

/-- The loop of `queue_find_nack_structure`: the packet found is marked in its node. -/
def findNackLoop (seqNum : BitVec 8) (heap : Heap Addr Pkt) :
    ℕ → Option Addr → Except Fault (Option Pkt × Heap Addr Pkt)
  | _, none => .ok (none, heap)
  | 0, some _ => .error .outOfFuel
  | fuel + 1, some run => do
      let node ← load heap (some run)
      if node.value.seqNum = seqNum then
        let heap ← assign heap (some run) fun node =>
          { node with value := { node.value with timestamp := 0 } }
        let node ← load heap (some run)
        return (some node.value, heap)
      else findNackLoop seqNum heap fuel node.next

def queueFindNackStructure (queue : LinkedQueue Addr) (seqNum : BitVec 8) :
    Except Fault (Option Pkt × LinkedQueue Addr) := do
  let (found, heap) ← findNackLoop seqNum queue.heap queue.size.toNat queue.head
  return (found, { queue with heap := heap })

/-- A push stores the packet behind the last node. -/
theorem queuePush_holds {queue : LinkedQueue Addr} {cells : List (Addr × Pkt)}
    (holds : queue.Holds cells) {newnode : Addr} (garbage : Node Addr Pkt) (pkt : Pkt)
    (unused : queue.heap newnode = none) :
    ∃ next, queuePush (some (newnode, garbage)) queue (some pkt) = .ok (0, next) ∧
      next.Holds (cells ++ [(newnode, pkt)]) := by
  have fresh : newnode ∉ addresses cells := fun present => holds.linked.allocated present unused
  have initialized : ∀ (heap : Heap Addr Pkt) node change, assign
      (Function.update heap newnode (some node)) (some newnode) change =
        .ok (Function.update heap newnode (some (change node))) := by
    intro heap node change
    rw [assign_allocated change (Function.update_self ..), Function.update_idem]
  have size : queue.size + 1 = (cells ++ [(newnode, pkt)]).length := by
    rw [holds.size, List.length_append]
    rfl
  have last : ∀ addr ∈ (addresses (cells ++ [(newnode, pkt)])).getLast?,
      some newnode = some addr := by
    intro addr final
    simpa using final
  rcases List.eq_nil_or_concat' cells with rfl | ⟨front, ⟨lastnode, lastpkt⟩, rfl⟩
  · refine ⟨⟨Function.update queue.heap newnode (some ⟨pkt, none⟩), some newnode, some newnode,
      queue.size + 1⟩, ?_, ⟨rfl, none, Function.update_self .., rfl⟩, size, last⟩
    simp only [queuePush, if_pos (holds.size_eq_zero_iff.mpr rfl), initialized, bind, Except.bind]
    rfl
  · let stored : Heap Addr Pkt := Function.update queue.heap newnode (some ⟨pkt, garbage.next⟩)
    have filled : queue.size ≠ 0 := by
      rw [ne_eq, holds.size_eq_zero_iff]
      simp
    have toLast : queue.last = some lastnode := by
      apply holds.last
      simp
    have chain : Chain stored queue.head (front ++ [(lastnode, lastpkt)]) none :=
      holds.linked.update_of_notMem fresh
    have distinct := chain.nodup
    rw [addresses_append, List.nodup_append_comm] at distinct
    have linked : Chain (Function.update stored lastnode (some ⟨lastpkt, some newnode⟩))
        queue.head (front ++ [(lastnode, lastpkt)]) (some newnode) :=
      chain.relink (List.nodup_cons.mp distinct).1
    rcases chain.split with ⟨middle, _, rfl, next, held, rfl⟩
    have apart : newnode ≠ lastnode := by
      rintro rfl
      simp at fresh
    have relinked : Function.update stored lastnode (some ⟨lastpkt, some newnode⟩) newnode =
        some ⟨pkt, garbage.next⟩ := by
      rw [Function.update_of_ne apart]
      exact Function.update_self ..
    refine ⟨⟨_, queue.head, some newnode, queue.size + 1⟩, ?_,
      (linked.update_of_notMem fresh).append ⟨rfl, none, Function.update_self .., rfl⟩, size, last⟩
    simp only [queuePush, if_neg filled, initialized, bind, Except.bind, toLast]
    rw [assign_allocated _ held]
    simp only
    rw [assign_allocated _ relinked]
    rfl

/-- A pop frees the first node, and leaves the others. -/
theorem queuePop_holds {queue : LinkedQueue Addr} {cell : Addr × Pkt}
    {rest : List (Addr × Pkt)} (holds : queue.Holds (cell :: rest)) :
    ∃ next, queue.heap cell.1 = some ⟨cell.2, next⟩ ∧ queue.head = some cell.1 ∧
      queuePop queue = .ok (some cell.2,
        ⟨Function.update queue.heap cell.1 none, next, queue.last, queue.size - 1⟩) ∧
      Holds ⟨Function.update queue.heap cell.1 none, next, queue.last, queue.size - 1⟩ rest := by
  have size := holds.size
  have last := holds.last
  have distinct := holds.linked.nodup
  rcases holds.linked with ⟨head, next, held, linked⟩
  rw [List.length_cons] at size
  refine ⟨next, held, head, ?_, ?_, ?_, ?_⟩
  · have filled : queue.size ≠ 0 := by omega
    rw [queuePop, if_neg filled, head, load_allocated held, free_allocated held]
    rfl
  · exact linked.update_of_notMem (List.nodup_cons.mp distinct).1
  · simp only [size]
    push_cast
    omega
  · intro addr final
    apply last
    cases rest with
    | nil => cases final
    | cons second others =>
        rw [addresses_cons, addresses_cons, List.getLast?_cons_cons]
        exact final

/-- The nodes up to the first one with the number are freed, while the loop runs along them. -/
theorem deleteLoop_holds (seqNum : BitVec 8) {queue : LinkedQueue Addr}
    {cells : List (Addr × Pkt)} (holds : queue.Holds cells) {fuel : ℕ}
    (enough : cells.length ≤ fuel) (number : ℕ) :
    ∃ next rest, deleteLoop seqNum fuel queue.head queue number =
        .ok (number + QueueSender.deleted seqNum (values cells), next) ∧
      next.Holds rest ∧ values rest = QueueSender.remaining seqNum (values cells) := by
  induction cells generalizing queue fuel number with
  | nil =>
      have head : queue.head = none := holds.linked
      refine ⟨queue, [], ?_, holds, rfl⟩
      rw [head, deleteLoop]
      rfl
  | cons cell rest ih =>
      rcases queuePop_holds holds with ⟨next, held, head, popped, behind⟩
      cases fuel with
      | zero => simp at enough
      | succ fuel =>
          rw [List.length_cons] at enough
          rw [head, deleteLoop, load_allocated held]
          simp only [bind, Except.bind, popped]
          by_cases found : cell.2.seqNum = seqNum
          · rw [if_neg (not_not.mpr found)]
            have count := QueueSender.deleted_cons_of_eq (values rest) found
            have left : QueueSender.remaining seqNum (values (cell :: rest)) = values rest := by
              rw [values_cons, QueueSender.remaining, if_pos found]
            refine ⟨_, rest, ?_, behind, left.symm⟩
            rw [values_cons, count]
            cases rest with
            | nil =>
                have noHead : next = none := behind.linked
                rw [if_pos noHead]
                rfl
            | cons second others =>
                rcases behind.linked with ⟨nextHead, third, nextHeld, _⟩
                have isHead : next = some second.1 := nextHead
                rw [if_neg (by simp [isHead]), isHead, load_allocated nextHeld]
                rfl
          · rw [if_pos found]
            rcases ih behind (Nat.le_of_succ_le_succ enough) (number + 1) with
              ⟨final, left, looped, kept, spelled⟩
            refine ⟨final, left, ?_, kept, ?_⟩
            · rw [looped, values_cons, QueueSender.deleted_cons_of_ne _ found, Nat.add_assoc,
                Nat.add_comm 1]
            · rw [spelled, values_cons, QueueSender.remaining, if_neg found]

omit [DecidableEq Addr] in
theorem findAckLoop_eq (seqNum : BitVec 8) {heap : Heap Addr Pkt} {start : Option Addr}
    {cells : List (Addr × Pkt)} (linked : Chain heap start cells none) {fuel : ℕ}
    (enough : cells.length ≤ fuel) :
    findAckLoop seqNum heap fuel start =
      .ok ((values cells).find? fun pkt => pkt.seqNum = seqNum) := by
  induction cells generalizing start fuel with
  | nil =>
      cases linked
      rw [findAckLoop]
      rfl
  | cons cell rest ih =>
      rcases linked with ⟨rfl, next, held, linked⟩
      cases fuel with
      | zero => simp at enough
      | succ fuel =>
          rw [List.length_cons] at enough
          rw [findAckLoop, load_allocated held, values_cons, List.find?_cons]
          simp only [bind, Except.bind]
          by_cases found : cell.2.seqNum = seqNum
          · simp [found, pure, Except.pure]
          · simpa [found] using ih linked (Nat.le_of_succ_le_succ enough)

/-- The first packet with the number is marked in its node, and no other node changes. -/
theorem findNackLoop_holds (seqNum : BitVec 8) {heap : Heap Addr Pkt} {start : Option Addr}
    {cells : List (Addr × Pkt)} (linked : Chain heap start cells none) {fuel : ℕ}
    (enough : cells.length ≤ fuel) :
    ∃ marked changed, findNackLoop seqNum heap fuel start =
        .ok ((values changed).find? (fun pkt => pkt.seqNum = seqNum), marked) ∧
      Chain marked start changed none ∧ addresses changed = addresses cells ∧
      values changed = QueueSender.markNodes seqNum (values cells) ∧
      ∀ addr, addr ∉ addresses cells → marked addr = heap addr := by
  induction cells generalizing start fuel with
  | nil =>
      cases linked
      refine ⟨heap, [], ?_, rfl, rfl, rfl, fun _ _ => rfl⟩
      rw [findNackLoop]
      rfl
  | cons cell rest ih =>
      have distinct := linked.nodup
      rw [addresses_cons, List.nodup_cons] at distinct
      rcases linked with ⟨rfl, next, held, linked⟩
      cases fuel with
      | zero => simp at enough
      | succ fuel =>
          rw [List.length_cons] at enough
          rw [findNackLoop, load_allocated held]
          simp only [bind, Except.bind]
          by_cases found : cell.2.seqNum = seqNum
          · let node : Node Addr Pkt := ⟨{ cell.2 with timestamp := 0 }, next⟩
            have stored : Function.update heap cell.1 (some node) cell.1 = some node :=
              Function.update_self ..
            refine ⟨Function.update heap cell.1 (some node),
              (cell.1, { cell.2 with timestamp := 0 }) :: rest, ?_,
              ⟨rfl, next, stored, linked.update_of_notMem distinct.1⟩, rfl, ?_, ?_⟩
            · rw [if_pos found, assign_allocated _ held]
              simp only
              rw [load_allocated stored]
              simp [node, found, pure, Except.pure]
            · rw [values_cons, values_cons, QueueSender.markNodes, if_pos found]
            · intro addr absent
              exact Function.update_of_ne (List.ne_of_not_mem_cons absent) _ _
          · rcases ih linked (Nat.le_of_succ_le_succ enough) with
              ⟨marked, changed, looped, kept, places, spelled, same⟩
            refine ⟨marked, cell :: changed, ?_, ⟨rfl, next, ?_, kept⟩, ?_, ?_, ?_⟩
            · rw [if_neg found, looped]
              simp [found]
            · rw [same cell.1 distinct.1, held]
            · rw [addresses_cons, addresses_cons, places]
            · rw [values_cons, values_cons, QueueSender.markNodes, if_neg found, spelled]
            · intro addr absent
              exact same addr (List.not_mem_of_not_mem_cons absent)

/-- An operation, with the block which `malloc` returns if it is called: allocation succeeds. -/
abbrev Request (Addr : Type) := QueueSender.Operation × (Addr × Node Addr Pkt)

def perform : Request Addr → LinkedQueue Addr → Except Fault (QueueReply × LinkedQueue Addr)
  | (.push pkt, block), queue => do
      let (code, queue) ← queuePush (some block) queue pkt
      return (.status code, queue)
  | (.pop, _), queue => do
      let (pkt, queue) ← queuePop queue
      return (.packet pkt, queue)
  | (.delete seqNum, _), queue => do
      let (number, queue) ← queueDelete queue seqNum
      return (.count number, queue)
  | (.findNack seqNum, _), queue => do
      let (pkt, queue) ← queueFindNackStructure queue seqNum
      return (.packet pkt, queue)
  | (.findAck seqNum, _), queue => do
      let pkt ← queueFindAckStructure queue seqNum
      return (.packet pkt, queue)

/-- A block which is allocated is not in use at the time. -/
def MallocUnused (request : Request Addr) (queue : LinkedQueue Addr) : Prop :=
  ∀ pkt, request.1 = .push (some pkt) → queue.heap request.2.1 = none

/-- The packets in the nodes of a queue. -/
def Represents (queue : LinkedQueue Addr) (nodes : List Pkt) : Prop :=
  ∃ cells, queue.Holds cells ∧ values cells = nodes

theorem perform_refines {request : Request Addr} {queue : LinkedQueue Addr} {nodes : List Pkt}
    (represents : queue.Represents nodes) (unused : MallocUnused request queue) :
    ∃ next, perform request queue = .ok ((QueueSender.answer request.1 nodes).1, next) ∧
      next.Represents (QueueSender.answer request.1 nodes).2 := by
  rcases represents with ⟨cells, holds, rfl⟩
  have enough : cells.length ≤ queue.size.toNat := by
    rw [holds.size]
    simp
  rcases request with ⟨op, newnode, garbage⟩
  cases op with
  | push pkt =>
      cases pkt with
      | none => exact ⟨queue, rfl, cells, holds, rfl⟩
      | some pkt =>
          rcases queuePush_holds holds garbage pkt (unused pkt rfl) with ⟨next, pushed, kept⟩
          refine ⟨next, ?_, _, kept, ?_⟩
          · rw [perform, pushed]
            rfl
          · rw [values_append]
            rfl
  | pop =>
      cases cells with
      | nil =>
          refine ⟨queue, ?_, [], holds, rfl⟩
          rw [perform, queuePop, if_pos (holds.size_eq_zero_iff.mpr rfl)]
          rfl
      | cons cell rest =>
          rcases queuePop_holds holds with ⟨next, _, _, popped, kept⟩
          refine ⟨_, ?_, rest, kept, rfl⟩
          rw [perform, popped]
          rfl
  | delete seqNum =>
      by_cases empty : cells = []
      · subst empty
        refine ⟨queue, ?_, [], holds, rfl⟩
        rw [perform, queueDelete, if_pos (holds.size_eq_zero_iff.mpr rfl)]
        rfl
      · rcases deleteLoop_holds seqNum holds enough 0 with ⟨next, rest, looped, kept, spelled⟩
        refine ⟨next, ?_, rest, kept, spelled⟩
        rw [perform, queueDelete, if_neg (mt holds.size_eq_zero_iff.mp empty), looped, Nat.zero_add]
        rfl
  | findNack seqNum =>
      rcases findNackLoop_holds seqNum holds.linked enough with
        ⟨marked, changed, looped, linked, places, spelled, _⟩
      have size : changed.length = cells.length := by
        rw [← length_values, spelled, QueueSender.length_markNodes, length_values]
      refine ⟨{ queue with heap := marked }, ?_, changed, ⟨linked, ?_, ?_⟩, spelled⟩
      · rw [perform, queueFindNackStructure, looped, spelled]
        rfl
      · rw [size]
        exact holds.size
      · rw [places]
        exact holds.last
  | findAck seqNum =>
      refine ⟨queue, ?_, cells, holds, rfl⟩
      rw [perform, queueFindAckStructure, findAckLoop_eq seqNum holds.linked enough]
      rfl

theorem performAll_represents (heap : Heap Addr Pkt) (requests : List (Request Addr))
    (unused : Operations.Along perform MallocUnused requests (queueInit heap)) :
    ∃ final, Operations.performAll perform requests (queueInit heap) =
        .ok ((Operations.answerAll QueueSender.answer (requests.map Prod.fst) []).1, final) ∧
      final.Represents
        (Operations.answerAll QueueSender.answer (requests.map Prod.fst) []).2 := by
  have initial : (queueInit heap).Represents [] :=
    ⟨[], ⟨rfl, rfl, fun addr final => by cases final⟩, rfl⟩
  rw [← Operations.answerAll_map]
  exact Operations.performAll_refines perform_refines initial unused

/-- The linked queue refines the queue given by the list of its packets and its size. -/
theorem performAll_refines_queue (heap : Heap Addr Pkt) (requests : List (Request Addr))
    (unused : Operations.Along perform MallocUnused requests (queueInit heap)) :
    ∃ replies final nodes,
      Operations.performAll perform requests (queueInit heap) = .ok (replies, final) ∧
      Operations.performAll QueueSender.perform (requests.map Prod.fst) (.ofNodes []) =
        .ok (replies, .ofNodes nodes) ∧
      final.Represents nodes := by
  rcases performAll_represents heap requests unused with ⟨final, performed, represents⟩
  exact ⟨_, final, _, performed, QueueSender.performAll_ofNodes _ _, represents⟩

/--
Every sequence of operations on a new queue succeeds, without an access to a
freed node. Its replies are those of the operations on a list, which is the list
of the packets reachable from `head`; the size is the number of these, there is
no head exactly when it is 0, and otherwise `last` is the final node.
-/
theorem performAll_spells (heap : Heap Addr Pkt) (requests : List (Request Addr))
    (unused : Operations.Along perform MallocUnused requests (queueInit heap)) :
    ∃ final cells, Operations.performAll perform requests (queueInit heap) =
        .ok ((Operations.answerAll QueueSender.answer (requests.map Prod.fst) []).1, final) ∧
      Chain final.heap final.head cells none ∧
      values cells = (Operations.answerAll QueueSender.answer (requests.map Prod.fst) []).2 ∧
      final.size =
        (Operations.answerAll QueueSender.answer (requests.map Prod.fst) []).2.length ∧
      (final.head = none ↔ final.size = 0) ∧
      ∀ addr ∈ (addresses cells).getLast?, final.last = some addr := by
  rcases performAll_represents heap requests unused with
    ⟨final, performed, cells, holds, spelled⟩
  refine ⟨final, cells, performed, holds.linked, spelled, ?_, holds.head_eq_none_iff, holds.last⟩
  rw [holds.size, ← spelled, length_values]

/-- The freed node 0 is used again, while the old `last` still points to it. -/
def requestsExample : List (Request ℕ) :=
  [(.push (some pktNew), 0, ⟨pktNew, some 7⟩), (.pop, 0, ⟨pktNew, none⟩),
    (.push (some { pktNew with seqNum := 1 }), 0, ⟨pktNew, none⟩),
    (.push (some { pktNew with seqNum := 2 }), 1, ⟨pktNew, none⟩),
    (.findNack 2, 0, ⟨pktNew, none⟩), (.delete 1, 0, ⟨pktNew, none⟩)]

theorem performAll_spells_example :
    ∃ final cells, Operations.performAll perform requestsExample (queueInit fun _ => none) =
        .ok ((Operations.answerAll QueueSender.answer (requestsExample.map Prod.fst) []).1, final) ∧
      Chain final.heap final.head cells none ∧
      values cells =
        (Operations.answerAll QueueSender.answer (requestsExample.map Prod.fst) []).2 ∧
      final.size =
        (Operations.answerAll QueueSender.answer (requestsExample.map Prod.fst) []).2.length ∧
      (final.head = none ↔ final.size = 0) ∧
      ∀ addr ∈ (addresses cells).getLast?, final.last = some addr := by
  apply performAll_spells
  refine ⟨fun _ _ => rfl, ?_⟩
  rintro _ _ ⟨⟩
  refine ⟨fun _ other => (by cases other), ?_⟩
  rintro _ _ ⟨⟩
  refine ⟨fun _ _ => rfl, ?_⟩
  rintro _ _ ⟨⟩
  refine ⟨fun _ _ => rfl, ?_⟩
  rintro _ _ ⟨⟩
  refine ⟨fun _ other => (by cases other), ?_⟩
  rintro _ _ ⟨⟩
  refine ⟨fun _ other => (by cases other), ?_⟩
  rintro _ _ ⟨⟩
  trivial

end LinkedQueue

end ReliableTransfer
