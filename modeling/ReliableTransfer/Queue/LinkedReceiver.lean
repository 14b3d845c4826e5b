import ReliableTransfer.Queue.Linked

/-!
# The receiver's queues in memory

The functions of `queue_receiver.c` on a heap of nodes. This queue has no
pointer to its final node: a push walks there, and an ordered push walks with the
two pointers `before` and `runner` to the place of the packet. The node for it
is allocated before, and freed again when the packet is refused. The call of
`malloc` for a node may fail. As in the sender's queue, the heap is that of the
nodes only, and a packet is a value in its node.

Every sequence of operations has the replies of the operations on the list of the
packets. No null or dangling pointer is used, and nothing is allocated apart
from the nodes of the queue, so that `queue_free` leaves the heap as it was
before the first operation.
-/

open Linked

namespace ReliableTransfer

/-- The structure `queue_t` of the receiver, and the heap into which it points. -/
structure OrderedQueue (Addr : Type) where
  heap : Heap Addr Pkt
  head : Option Addr
  size : ℤ

namespace OrderedQueue

open LinkedQueue (load assign free load_allocated assign_allocated free_allocated)

variable {Addr : Type}

/-- `queue_init`, in a heap which may hold other nodes. -/
def queueInit (heap : Heap Addr Pkt) : OrderedQueue Addr :=
  ⟨heap, none, 0⟩

/-- `while (runner->next != NULL) { runner = runner->next; }` -/
def lastLoop (heap : Heap Addr Pkt) : ℕ → Option Addr → Except Fault (Option Addr)
  | fuel, runner => do
      let node ← load heap runner
      if node.next = none then return runner
      else
        match fuel with
        | 0 => .error .outOfFuel
        | fuel + 1 => lastLoop heap fuel node.next

/-- `while (runner != NULL && skip(runner)) { before = runner; runner = runner->next; }` -/
def skipNodes (skip : Pkt → Bool) (heap : Heap Addr Pkt) :
    ℕ → Option Addr → Option Addr → Except Fault (Option Addr × Option Addr)
  | _, before, none => .ok (before, none)
  | 0, _, some _ => .error .outOfFuel
  | fuel + 1, before, some runner => do
      let node ← load heap (some runner)
      if skip node.value then skipNodes skip heap fuel (some runner) node.next
      else return (before, some runner)

/-- `while (skip(runner) && runner->next != NULL) { before = runner; runner = runner->next; }` -/
def skipToLast (skip : Pkt → Bool) (heap : Heap Addr Pkt) :
    ℕ → Option Addr → Option Addr → Except Fault (Option Addr × Option Addr)
  | fuel, before, runner => do
      let node ← load heap runner
      if skip node.value ∧ node.next ≠ none then
        match fuel with
        | 0 => .error .outOfFuel
        | fuel + 1 => skipToLast skip heap fuel runner node.next
      else return (before, runner)

variable [DecidableEq Addr]

/-- `queue_push`. The block returned by `malloc` is an address with whatever lies there. -/
def queuePush (block : Option (Addr × Node Addr Pkt)) (queue : OrderedQueue Addr)
    (pkt : Option Pkt) : Except Fault (ℤ × OrderedQueue Addr) :=
  match pkt with
  | none => .ok (-1, queue)
  | some pkt =>
      match block with
      | none => .ok (-1, queue)
      | some (newnode, garbage) => do
          let heap := Function.update queue.heap newnode (some garbage)
          if queue.size = 0 then
            let heap ← assign heap (some newnode) fun node => { node with value := pkt }
            let heap ← assign heap (some newnode) fun node => { node with next := none }
            return (0, ⟨heap, some newnode, queue.size + 1⟩)
          else
            let runner ← lastLoop heap queue.size.toNat queue.head
            let heap ← assign heap (some newnode) fun node => { node with value := pkt }
            let node ← load heap runner
            let heap ← assign heap (some newnode) fun new => { new with next := node.next }
            let heap ← assign heap runner fun node => { node with next := some newnode }
            return (0, ⟨heap, queue.head, queue.size + 1⟩)

/-- `if (before == NULL) { queue->head = newnode; } else { before->next = newnode; }` -/
def linkBehind (heap : Heap Addr Pkt) (head before : Option Addr) (newnode : Addr) :
    Except Fault (Heap Addr Pkt × Option Addr) :=
  match before with
  | none => .ok (heap, some newnode)
  | some before => do
      let heap ← assign heap (some before) fun node => { node with next := some newnode }
      return (heap, head)

/-- The second half of `queue_ordered_push`, with the allocated node, from given pointers on. -/
def orderedPushFrom (heap : Heap Addr Pkt) (newnode : Addr) (queue : OrderedQueue Addr)
    (pkt : Pkt) (waitedSeqNum realWindowSize : BitVec 8) (before runner : Option Addr) :
    Except Fault (ℤ × OrderedQueue Addr) :=
  let high : ℤ := 255 - (realWindowSize.toNat - 1)
  if waitedSeqNum.toNat ≥ high ∧ pkt.seqNum.toNat ≥ high then do
    let (before, runner) ← skipNodes
      (fun node => node.seqNum.toNat ≥ high ∧ node.seqNum.toNat < pkt.seqNum.toNat) heap
      queue.size.toNat before runner
    match runner with
    | none =>
        let heap ← assign heap (some newnode) fun node => { node with value := pkt }
        let heap ← assign heap before fun node => { node with next := some newnode }
        let heap ← assign heap (some newnode) fun node => { node with next := none }
        return (0, ⟨heap, queue.head, queue.size + 1⟩)
    | some runner =>
        let node ← load heap (some runner)
        if pkt.seqNum = node.value.seqNum then
          let heap ← free heap (some newnode)
          return (-1, { queue with heap := heap })
        else
          let (heap, head) ← linkBehind heap queue.head before newnode
          let heap ← assign heap (some newnode) fun node => { node with value := pkt }
          let heap ← assign heap (some newnode) fun node => { node with next := some runner }
          return (0, ⟨heap, head, queue.size + 1⟩)
  else do
    let (before, runner) ← skipToLast (fun node => node.seqNum.toNat < pkt.seqNum.toNat) heap
      queue.size.toNat before runner
    let heap ← assign heap (some newnode) fun node => { node with value := pkt }
    let node ← load heap runner
    if node.value.seqNum.toNat > pkt.seqNum.toNat then
      let heap ← assign heap (some newnode) fun node => { node with next := runner }
      let (heap, head) ← linkBehind heap queue.head before newnode
      return (0, ⟨heap, head, queue.size + 1⟩)
    else if node.value.seqNum = pkt.seqNum then
      let heap ← free heap (some newnode)
      return (-1, { queue with heap := heap })
    else
      let heap ← assign heap runner fun node => { node with next := some newnode }
      let heap ← assign heap (some newnode) fun node => { node with next := none }
      return (0, ⟨heap, queue.head, queue.size + 1⟩)

def queueOrderedPush (block : Option (Addr × Node Addr Pkt)) (queue : OrderedQueue Addr)
    (pkt : Option Pkt) (waitedSeqNum realWindowSize : BitVec 8) :
    Except Fault (ℤ × OrderedQueue Addr) :=
  match pkt with
  | none => .ok (-1, queue)
  | some pkt =>
      match block with
      | none => .ok (-1, queue)
      | some (newnode, garbage) =>
          let heap := Function.update queue.heap newnode (some garbage)
          if queue.size = 0 then do
            let heap ← assign heap (some newnode) fun node => { node with value := pkt }
            let heap ← assign heap (some newnode) fun node => { node with next := none }
            return (0, ⟨heap, some newnode, queue.size + 1⟩)
          else
            let high : ℤ := 255 - (realWindowSize.toNat - 1)
            if waitedSeqNum.toNat ≥ high ∧ (pkt.seqNum.toNat : ℤ) < realWindowSize.toNat - 1 then do
              let (before, runner) ← skipNodes (fun node => node.seqNum.toNat ≥ high) heap
                queue.size.toNat none queue.head
              match runner with
              | none =>
                  let heap ← assign heap (some newnode) fun node => { node with next := none }
                  let heap ← assign heap (some newnode) fun node => { node with value := pkt }
                  let heap ← assign heap before fun node => { node with next := some newnode }
                  return (0, ⟨heap, queue.head, queue.size + 1⟩)
              | some runner =>
                  orderedPushFrom heap newnode queue pkt waitedSeqNum realWindowSize before
                    (some runner)
            else
              orderedPushFrom heap newnode queue pkt waitedSeqNum realWindowSize none queue.head

def queuePop (queue : OrderedQueue Addr) : Except Fault (Option Pkt × OrderedQueue Addr) :=
  if queue.size = 0 then .ok (none, queue)
  else do
    let node ← load queue.heap queue.head
    let heap ← free queue.heap queue.head
    return (some node.value, ⟨heap, node.next, queue.size - 1⟩)

/--
The loop of `queue_payload_write`: the next node is read before this one is freed. The field
`head` is assigned when the loop has ended.
-/
def payloadWriteLoop (wr : ℕ → QueueReceiver.WriteOutcome) :
    ℕ → Option Addr → Heap Addr Pkt → ℤ → BitVec 8 → BitVec 8 → BitVec 32 →
      List QueueReceiver.Write →
        Except Fault (BitVec 8 × OrderedQueue Addr × BitVec 32 × List QueueReceiver.Write)
  | _, none, heap, size, _, count, lastTimeStamp, writes =>
      .ok (count, ⟨heap, none, size⟩, lastTimeStamp, writes)
  | 0, some _, _, _, _, _, _, _ => .error .outOfFuel
  | fuel + 1, some runner, heap, size, newSeqNum, count, lastTimeStamp, writes => do
      let node ← load heap (some runner)
      if node.value.seqNum = newSeqNum then
        let heap ← free heap (some runner)
        payloadWriteLoop wr fuel node.next heap (size - 1) (newSeqNum + 1) (count + 1)
          node.value.timestamp (writes ++ [⟨node.value, wr writes.length⟩])
      else return (count, ⟨heap, some runner, size⟩, lastTimeStamp, writes)

def queuePayloadWrite (wr : ℕ → QueueReceiver.WriteOutcome) (queue : OrderedQueue Addr)
    (seqNum : BitVec 8) (lastTimeStamp : BitVec 32) (writes : List QueueReceiver.Write) :
    Except Fault (BitVec 8 × OrderedQueue Addr × BitVec 32 × List QueueReceiver.Write) :=
  payloadWriteLoop wr queue.size.toNat queue.head queue.heap queue.size seqNum 0 lastTimeStamp
    writes

/-- The loop of `queue_free`, which is the same in both files. -/
def freeLoop : ℕ → Option Addr → Heap Addr Pkt → Except Fault (Heap Addr Pkt)
  | _, none, heap => .ok heap
  | 0, some _, _ => .error .outOfFuel
  | fuel + 1, some run, heap => do
      let node ← load heap (some run)
      let heap ← free heap (some run)
      freeLoop fuel node.next heap

/-- The nodes which `queue_free` frees; `pkt_del` and the last `free(queue)` are not modelled. -/
def queueFree (queue : OrderedQueue Addr) : Except Fault (Heap Addr Pkt) :=
  freeLoop queue.size.toNat queue.head queue.heap

/-- The nodes from `head` on, and the size. Nothing else has been allocated since `base`. -/
structure Owns (base : Heap Addr Pkt) (queue : OrderedQueue Addr) (cells : List (Addr × Pkt)) :
    Prop where
  linked : Chain queue.heap queue.head cells none
  size : queue.size = cells.length
  frame : Frame base queue.heap cells

variable {base heap : Heap Addr Pkt} {queue : OrderedQueue Addr}
  {cells front back : List (Addr × Pkt)} {newnode : Addr} {pkt : Pkt}

omit [DecidableEq Addr] in
theorem Owns.size_eq_zero_iff (owns : queue.Owns base cells) : queue.size = 0 ↔ cells = [] := by
  rw [owns.size]
  simp

omit [DecidableEq Addr] in
theorem Owns.length_le (owns : queue.Owns base cells) : cells.length ≤ queue.size.toNat := by
  rw [owns.size]
  simp

/-- The heap in which the node `before`, if there is one, points to the new node. -/
def linkedBehind (heap : Heap Addr Pkt) (before : Option Addr) (newnode : Addr) :
    Heap Addr Pkt :=
  match before with
  | none => heap
  | some before =>
      Function.update heap before ((heap before).map fun node => { node with next := some newnode })

theorem linkedBehind_self (before newnode : Addr) :
    linkedBehind heap (some before) newnode before =
      (heap before).map fun node => { node with next := some newnode } :=
  Function.update_self ..

theorem linkedBehind_of_ne {before : Option Addr} {other : Addr} (apart : some other ≠ before) :
    linkedBehind heap before newnode other = heap other := by
  cases before with
  | none => rfl
  | some before => exact Function.update_of_ne (fun same => apart (congrArg some same)) ..

/-- The new node is filled, and linked between two parts of the list. -/
theorem Owns.insert (owns : queue.Owns base (front ++ back)) (pkt : Pkt)
    (unused : queue.heap newnode = none) :
    Owns base ⟨linkedBehind (Function.update queue.heap newnode
        (some ⟨pkt, (addresses back).head?⟩)) (addresses front).getLast? newnode,
      if front = [] then some newnode else queue.head, queue.size + 1⟩
        (front ++ (newnode, pkt) :: back) := by
  have fresh : newnode ∉ addresses (front ++ back) :=
    fun present => owns.linked.allocated present unused
  have notLast : some newnode ≠ (addresses front).getLast? := by
    intro last
    apply fresh
    simp [List.mem_of_getLast? last.symm]
  constructor
  · apply owns.linked.insert fresh
    · change linkedBehind _ _ _ newnode = _
      rw [linkedBehind_of_ne notLast, Function.update_self]
    · intro last isLast
      have apart : last ≠ newnode := by
        rintro rfl
        exact notLast isLast.symm
      change linkedBehind _ _ _ last = _
      rw [Option.mem_def.mp isLast, linkedBehind_self, Function.update_of_ne apart]
    · intro other notNew notBefore
      change linkedBehind _ _ _ other = _
      rw [linkedBehind_of_ne notBefore, Function.update_of_ne notNew]
  · have size := owns.size
    rw [List.length_append] at size
    rw [size, List.length_append, List.length_cons]
    push_cast
    omega
  · apply owns.frame.insert unused fresh
    intro other notNew outside
    have notBefore : some other ≠ (addresses front).getLast? := by
      intro isLast
      exact outside (by simp [List.mem_of_getLast? isLast.symm])
    change linkedBehind _ _ _ other = _
    rw [linkedBehind_of_ne notBefore, Function.update_of_ne notNew]

theorem assign_new (heap : Heap Addr Pkt) (newnode : Addr) (node : Node Addr Pkt)
    (change : Node Addr Pkt → Node Addr Pkt) :
    assign (Function.update heap newnode (some node)) (some newnode) change =
      .ok (Function.update heap newnode (some (change node))) := by
  rw [assign_allocated change (Function.update_self ..), Function.update_idem]

/-- Also when the node before it points to it already. -/
theorem assign_linked {before : Option Addr} (apart : before ≠ some newnode)
    (node : Node Addr Pkt) (change : Node Addr Pkt → Node Addr Pkt) :
    assign (linkedBehind (Function.update heap newnode (some node)) before newnode)
        (some newnode) change =
      .ok (linkedBehind (Function.update heap newnode (some (change node))) before newnode) := by
  cases before with
  | none => exact assign_new ..
  | some before =>
      have different : newnode ≠ before := fun same => apart (congrArg some same.symm)
      have held : linkedBehind (Function.update heap newnode (some node)) (some before) newnode
          newnode = some node := by
        rw [linkedBehind_of_ne apart.symm, Function.update_self]
      rw [assign_allocated change held]
      simp only [linkedBehind, Function.update_of_ne different.symm]
      rw [Function.update_comm different.symm, Function.update_idem]

/-- The node before the new one is linked to it. -/
theorem assign_before {before : Addr} (allocated : heap before ≠ none) :
    assign heap (some before) (fun node => { node with next := some newnode }) =
      .ok (linkedBehind heap (some before) newnode) := by
  rcases Option.ne_none_iff_exists'.mp allocated with ⟨node, held⟩
  rw [assign_allocated _ held, linkedBehind, held]
  rfl

theorem linkBehind_eq {before head : Option Addr} (allocated : ∀ addr ∈ before, heap addr ≠ none) :
    linkBehind heap head before newnode =
      .ok (linkedBehind heap before newnode, if before = none then some newnode else head) := by
  cases before with
  | none => rfl
  | some before =>
      rw [linkBehind, assign_before (allocated before rfl)]
      rfl

theorem free_new (node : Node Addr Pkt) (unused : heap newnode = none) :
    free (Function.update heap newnode (some node)) (some newnode) = .ok heap := by
  rw [free_allocated (Function.update_self ..), Function.update_idem, ← unused,
    Function.update_eq_self]

omit [DecidableEq Addr] in
theorem skipNodes_eq (skip : Pkt → Bool) {runner : Option Addr}
    (linked : Chain heap runner back none) {fuel : ℕ} (enough : back.length ≤ fuel) :
    ∃ front' back', front' ++ back' = front ++ back ∧
      skipNodes skip heap fuel (addresses front).getLast? runner =
        .ok ((addresses front').getLast?, (addresses back').head?) ∧
      QueueReceiver.skipNodes skip (values front) (values back) =
        (values front', values back') := by
  induction back generalizing front runner fuel with
  | nil =>
      cases linked
      refine ⟨front, [], rfl, ?_, rfl⟩
      rw [skipNodes]
      rfl
  | cons cell rest ih =>
      rcases linked with ⟨rfl, next, held, linked⟩
      cases fuel with
      | zero => simp at enough
      | succ fuel =>
          simp only [skipNodes, load_allocated held, bind, Except.bind, values_cons,
            QueueReceiver.skipNodes]
          by_cases skipped : skip cell.2
          · rcases @ih (front ++ [cell]) _ linked _ (Nat.le_of_succ_le_succ enough) with
              ⟨front', back', same, walked, walked'⟩
            refine ⟨front', back', by simpa using same, ?_, ?_⟩
            · rw [if_pos skipped, ← walked]
              simp
            · rw [if_pos skipped, ← walked']
              simp
          · refine ⟨front, cell :: rest, rfl, ?_, ?_⟩
            · rw [if_neg skipped]
              rfl
            · rw [if_neg skipped]
              rfl

omit [DecidableEq Addr] in
theorem skipToLast_stop {skip : Pkt → Bool} {fuel : ℕ} {before next : Option Addr} {addr : Addr}
    (held : heap addr = some ⟨pkt, next⟩) (stop : ¬(skip pkt ∧ next ≠ none)) :
    skipToLast skip heap fuel before (some addr) = .ok (before, some addr) := by
  rw [skipToLast, load_allocated held]
  exact if_neg stop

omit [DecidableEq Addr] in
theorem skipToLast_next {skip : Pkt → Bool} (fuel : ℕ) (before : Option Addr)
    {next : Option Addr} {addr : Addr} (held : heap addr = some ⟨pkt, next⟩)
    (goes : skip pkt ∧ next ≠ none) :
    skipToLast skip heap (fuel + 1) before (some addr) =
      skipToLast skip heap fuel (some addr) next := by
  rw [skipToLast, load_allocated held]
  exact if_pos goes

omit [DecidableEq Addr] in
theorem skipToLast_eq (skip : Pkt → Bool) {runner : Option Addr}
    (linked : Chain heap runner back none) (nonempty : back ≠ []) {fuel : ℕ}
    (enough : back.length ≤ fuel) :
    ∃ front' back', front' ++ back' = front ++ back ∧ back' ≠ [] ∧
      skipToLast skip heap fuel (addresses front).getLast? runner =
        .ok ((addresses front').getLast?, (addresses back').head?) ∧
      QueueReceiver.skipToLast skip (values front) (values back) =
        (values front', values back') := by
  induction back generalizing front runner fuel with
  | nil => exact absurd rfl nonempty
  | cons cell rest ih =>
      rcases linked with ⟨rfl, next, held, linked⟩
      by_cases goes : skip cell.2 ∧ next ≠ none
      · cases rest with
        | nil => exact absurd linked goes.2
        | cons second others =>
            cases fuel with
            | zero => simp at enough
            | succ fuel =>
                rcases @ih (front ++ [cell]) _ linked (by simp) _
                  (Nat.le_of_succ_le_succ enough) with ⟨front', back', same, some, walked, walked'⟩
                refine ⟨front', back', by simpa using same, some, ?_, ?_⟩
                · rw [skipToLast_next fuel _ held goes, ← walked]
                  simp
                · rw [values_cons, values_cons, QueueReceiver.skipToLast, if_pos goes.1,
                    ← walked']
                  simp
      · refine ⟨front, cell :: rest, rfl, by simp, skipToLast_stop held goes, ?_⟩
        cases rest with
        | nil => rfl
        | cons second others =>
            have stop : ¬skip cell.2 = true := by
              intro skipped
              apply goes ⟨skipped, _⟩
              rw [linked.1]
              exact Option.some_ne_none _
            rw [values_cons, values_cons, QueueReceiver.skipToLast, if_neg stop]

omit [DecidableEq Addr] in
theorem lastLoop_eq {runner : Option Addr} {last : Addr × Pkt}
    (linked : Chain heap runner (front ++ [last]) none) {fuel : ℕ} (enough : front.length ≤ fuel) :
    lastLoop heap fuel runner = .ok (some last.1) := by
  induction front generalizing runner fuel with
  | nil =>
      rcases linked with ⟨rfl, next, held, rfl⟩
      cases fuel <;> simp [lastLoop, load_allocated held, bind, Except.bind, pure, Except.pure]
  | cons cell rest ih =>
      rcases linked with ⟨rfl, next, held, linked⟩
      have further : next ≠ none := by
        rintro rfl
        cases rest with
        | nil => cases linked.1
        | cons second others => cases linked.1
      cases fuel with
      | zero => simp at enough
      | succ fuel =>
          rw [lastLoop, load_allocated held]
          simp only [bind, Except.bind]
          rw [if_neg further]
          exact ih linked (Nat.le_of_succ_le_succ enough)

omit [DecidableEq Addr] in
/-- The list into which a packet has been inserted. -/
theorem ofNodes_values_insert {nodes : List Pkt} (same : values (front ++ back) = nodes) :
    (⟨values front ++ pkt :: values back, nodes.length + 1⟩ : Queue) =
      .ofNodes (values (front ++ (newnode, pkt) :: back)) := by
  rw [← same, values_append, Queue.ofNodes_insert, values_append, values_cons]

variable {garbage : Node Addr Pkt}

/-- The nodes of a queue are still linked when another one has been allocated. -/
theorem Owns.linked_new (owns : queue.Owns base cells) (garbage : Node Addr Pkt)
    (fresh : newnode ∉ addresses cells) :
    Chain (Function.update queue.heap newnode (some garbage)) queue.head cells none :=
  owns.linked.update_of_notMem fresh

/-- What a push has done: the packet is somewhere in the list, or it has been refused. -/
theorem queuePush_owns (owns : queue.Owns base cells) (garbage : Node Addr Pkt) (pkt : Pkt)
    (unused : queue.heap newnode = none) :
    ∃ next, queuePush (some (newnode, garbage)) queue (some pkt) = .ok (0, next) ∧
      next.Owns base (cells ++ [(newnode, pkt)]) := by
  have fresh : newnode ∉ addresses cells := fun present => owns.linked.allocated present unused
  have whole : queue.Owns base (cells ++ []) := by
    rw [List.append_nil]
    exact owns
  refine ⟨_, ?_, whole.insert pkt unused⟩
  rcases List.eq_nil_or_concat' cells with rfl | ⟨front, last, rfl⟩
  · simp only [queuePush, if_pos (owns.size_eq_zero_iff.mpr rfl), assign_new, bind, Except.bind]
    rfl
  · have filled : queue.size ≠ 0 := by
      rw [ne_eq, owns.size_eq_zero_iff]
      simp
    have enough : front.length ≤ queue.size.toNat := by
      have length := owns.length_le
      rw [List.length_append] at length
      omega
    have linked := owns.linked_new garbage fresh
    have apart : some last.1 ≠ some newnode := by
      intro same
      apply fresh
      cases same
      simp
    have final : (addresses (front ++ [last])).getLast? = some last.1 := by simp
    rcases owns.linked.split with ⟨_, _, rfl, next, held, rfl⟩
    have stays (node : Node Addr Pkt) :
        Function.update queue.heap newnode (some node) last.1 = some ⟨last.2, none⟩ := by
      rw [Function.update_of_ne (fun same => apart (congrArg some same)), held]
    have allocated (node : Node Addr Pkt) :
        Function.update queue.heap newnode (some node) last.1 ≠ none := by
      rw [stays]
      exact Option.some_ne_none _
    simp only [queuePush, if_neg filled, lastLoop_eq linked enough, assign_new, bind, Except.bind]
    rw [load_allocated (stays _)]
    simp only
    rw [assign_before (allocated _), if_neg (by simp), final]
    rfl

omit [DecidableEq Addr] in
/-- A block which has been allocated is none of the nodes before a position in the list. -/
theorem Owns.notLast (owns : queue.Owns base (front ++ back)) (unused : queue.heap newnode = none) :
    (addresses front).getLast? ≠ some newnode := by
  intro last
  apply owns.linked.allocated _ unused
  simp [List.mem_of_getLast? last]

theorem Owns.stays (owns : queue.Owns base cells) (unused : queue.heap newnode = none)
    {addr : Addr} (present : addr ∈ addresses cells) (node : Node Addr Pkt) :
    Function.update queue.heap newnode (some node) addr = queue.heap addr := by
  apply Function.update_of_ne
  rintro rfl
  exact owns.linked.allocated present unused

theorem Owns.allocatedBefore (owns : queue.Owns base (front ++ back))
    (unused : queue.heap newnode = none) (node : Node Addr Pkt) :
    ∀ addr ∈ (addresses front).getLast?,
      Function.update queue.heap newnode (some node) addr ≠ none := by
  intro addr last
  have present : addr ∈ addresses (front ++ back) := by simp [List.mem_of_getLast? last]
  rw [owns.stays unused present]
  exact owns.linked.allocated present

/-- There is a last node behind which the new one comes. -/
theorem Owns.exists_last (owns : queue.Owns base (front ++ back))
    (unused : queue.heap newnode = none) (node : Node Addr Pkt) (some : front ≠ []) :
    ∃ last, (addresses front).getLast? = .some last ∧
      Function.update queue.heap newnode (.some node) last ≠ none := by
  rcases List.eq_nil_or_concat' front with rfl | ⟨others, last, rfl⟩
  · exact absurd rfl some
  · have final : (addresses (others ++ [last])).getLast? = .some last.1 := by simp
    exact ⟨last.1, final, owns.allocatedBefore unused node last.1 final⟩

theorem Owns.load_runner {cell : Addr × Pkt} (owns : queue.Owns base (front ++ cell :: back))
    (unused : queue.heap newnode = none) (node : Node Addr Pkt) :
    load (Function.update queue.heap newnode (some node)) (some cell.1) =
      .ok ⟨cell.2, (addresses back).head?⟩ := by
  rcases owns.linked.split with ⟨_, _, rfl, next, held, behind⟩
  apply load_allocated
  rw [owns.stays unused (by simp), held, behind.start_eq]

omit [DecidableEq Addr] in
theorem head_of_before (head : Option Addr) :
    (if (addresses front).getLast? = none then some newnode else head) =
      if front = [] then some newnode else head := by
  simp [addresses]

omit [DecidableEq Addr] in
/-- A walk which stops at a node that could be skipped has come to the last node. -/
theorem skipToLast_final {skip : Pkt → Bool} {cell : Addr × Pkt} (nonempty : back ≠ [])
    (walked : QueueReceiver.skipToLast skip (values front) (values back) =
      (values front', values (cell :: rest))) (skips : skip cell.2 = true) : rest = [] := by
  rcases QueueReceiver.skipToLast_split skip (values front) (values back)
    (by simpa [values] using nonempty) with ⟨_, node, others, _, stops, split⟩
  rw [walked] at split
  rcases List.cons.inj (Prod.mk.inj split).2 with ⟨rfl, rfl⟩
  simpa [skips] using stops

/-- A push on the heap does what it does on the list, and owns the nodes which it leaves. -/
def PushesLike (base : Heap Addr Pkt) (pushed : Except Fault (ℤ × OrderedQueue Addr))
    (listed : Except Fault (ℤ × Queue)) : Prop :=
  ∃ code next cells, pushed = .ok (code, next) ∧ listed = .ok (code, .ofNodes (values cells)) ∧
    next.Owns base cells

/-- Both numbers are among the last ones before the overflow. -/
theorem orderedPushFrom_high_owns (owns : queue.Owns base (front ++ back)) (garbage : Node Addr Pkt)
    (pkt : Pkt) (waitedSeqNum realWindowSize : BitVec 8) (unused : queue.heap newnode = none)
    (nonempty : back ≠ [])
    (high : waitedSeqNum.toNat ≥ 255 - ((realWindowSize.toNat : ℤ) - 1) ∧
      pkt.seqNum.toNat ≥ 255 - ((realWindowSize.toNat : ℤ) - 1)) :
    PushesLike base
      (orderedPushFrom (Function.update queue.heap newnode (some garbage)) newnode queue pkt
        waitedSeqNum realWindowSize (addresses front).getLast? (addresses back).head?)
      (QueueReceiver.orderedPushFrom (.ofNodes (values (front ++ back))) pkt waitedSeqNum
        realWindowSize (values front) (values back)) := by
  have fresh : newnode ∉ addresses (front ++ back) :=
    fun present => owns.linked.allocated present unused
  have enough : back.length ≤ queue.size.toNat := by
    have length := owns.length_le
    rw [List.length_append] at length
    omega
  rcases (owns.linked_new garbage fresh).split with
    ⟨middle, _, linked⟩
  have start := linked.start_eq
  subst start
  rw [orderedPushFrom, QueueReceiver.orderedPushFrom, if_pos high, if_pos high]
  rcases skipNodes_eq (fun node => node.seqNum.toNat ≥ 255 - ((realWindowSize.toNat : ℤ) - 1) ∧
    node.seqNum.toNat < pkt.seqNum.toNat) linked enough with
    ⟨front', back', same, walked, walked'⟩
  have here : queue.Owns base (front' ++ back') := same ▸ owns
  have listed := congrArg values same
  rw [walked, walked']
  cases back' with
  | nil =>
      have some : front' ≠ [] := by
        rintro rfl
        simp [eq_comm, nonempty] at same
      rcases here.exists_last unused ⟨pkt, garbage.next⟩ some with ⟨last, before, allocated⟩
      refine ⟨0, _, _, ?_, ?_, here.insert pkt unused⟩
      · simp only [bind, Except.bind, addresses_nil, List.head?_nil, before, assign_new,
          assign_before allocated]
        rw [assign_linked (before ▸ here.notLast unused), if_neg some]
        rfl
      · simp only [values_nil]
        rw [if_neg (by simpa [values] using some), Queue.size_ofNodes,
          ← ofNodes_values_insert listed, values_nil]
  | cons cell rest =>
      simp only [bind, Except.bind, addresses_cons, List.head?_cons, values_cons]
      rw [here.load_runner unused]
      simp only
      split
      · refine ⟨-1, queue, front ++ back, ?_, rfl, owns⟩
        rw [free_new _ unused]
        rfl
      · refine ⟨0, _, _, ?_, ?_, here.insert pkt unused⟩
        · rw [linkBehind_eq (here.allocatedBefore unused _)]
          simp only
          rw [assign_linked (here.notLast unused)]
          simp only
          rw [assign_linked (here.notLast unused), head_of_before]
          rfl
        · rw [Queue.size_ofNodes, ← ofNodes_values_insert listed]
          rfl

theorem orderedPushFrom_low_owns (owns : queue.Owns base (front ++ back)) (garbage : Node Addr Pkt)
    (pkt : Pkt) (waitedSeqNum realWindowSize : BitVec 8) (unused : queue.heap newnode = none)
    (nonempty : back ≠ [])
    (low : ¬(waitedSeqNum.toNat ≥ 255 - ((realWindowSize.toNat : ℤ) - 1) ∧
      pkt.seqNum.toNat ≥ 255 - ((realWindowSize.toNat : ℤ) - 1))) :
    PushesLike base
      (orderedPushFrom (Function.update queue.heap newnode (some garbage)) newnode queue pkt
        waitedSeqNum realWindowSize (addresses front).getLast? (addresses back).head?)
      (QueueReceiver.orderedPushFrom (.ofNodes (values (front ++ back))) pkt waitedSeqNum
        realWindowSize (values front) (values back)) := by
  have fresh : newnode ∉ addresses (front ++ back) :=
    fun present => owns.linked.allocated present unused
  have enough : back.length ≤ queue.size.toNat := by
    have length := owns.length_le
    rw [List.length_append] at length
    omega
  rcases (owns.linked_new garbage fresh).split with
    ⟨middle, _, linked⟩
  have start := linked.start_eq
  subst start
  rw [orderedPushFrom, QueueReceiver.orderedPushFrom, if_neg low, if_neg low]
  rcases skipToLast_eq (fun node => node.seqNum.toNat < pkt.seqNum.toNat) linked nonempty
    enough with ⟨front', back', same, some, walked, walked'⟩
  have here : queue.Owns base (front' ++ back') := same ▸ owns
  have listed := congrArg values same
  rw [walked, walked']
  cases back' with
  | nil => exact absurd rfl some
  | cons cell rest =>
      simp only [bind, Except.bind, addresses_cons, List.head?_cons, values_cons, assign_new]
      rw [here.load_runner unused]
      simp only
      split
      · refine ⟨0, _, _, ?_, ?_, here.insert pkt unused⟩
        · rw [linkBehind_eq (here.allocatedBefore unused _), head_of_before]
          rfl
        · rw [Queue.size_ofNodes, ← ofNodes_values_insert listed]
          rfl
      · split
        · refine ⟨-1, queue, front ++ back, ?_, rfl, owns⟩
          rw [free_new _ unused]
          rfl
        · rename_i notAbove different
          have below : cell.2.seqNum.toNat < pkt.seqNum.toNat := by
            have apart : cell.2.seqNum.toNat ≠ pkt.seqNum.toNat :=
              fun same => different (BitVec.eq_of_toNat_eq same)
            omega
          have final : rest = [] := skipToLast_final nonempty walked' (by simpa using below)
          subst final
          have behind : queue.Owns base ((front' ++ [cell]) ++ []) := by
            rw [List.append_nil]
            exact here
          have before : (addresses (front' ++ [cell])).getLast? = Option.some cell.1 := by simp
          have allocated := behind.allocatedBefore unused ⟨pkt, garbage.next⟩ cell.1 before
          refine ⟨0, _, _, ?_, ?_, behind.insert pkt unused⟩
          · rw [assign_before allocated]
            simp only
            rw [assign_linked (before ▸ behind.notLast unused), if_neg (by simp), before]
            rfl
          · have listed' : values (front' ++ [cell] ++ []) = values (front ++ back) := by
              rw [List.append_nil]
              exact listed
            rw [Queue.size_ofNodes, ← ofNodes_values_insert listed']
            simp

theorem orderedPushFrom_owns (owns : queue.Owns base (front ++ back)) (garbage : Node Addr Pkt)
    (pkt : Pkt) (waitedSeqNum realWindowSize : BitVec 8) (unused : queue.heap newnode = none)
    (nonempty : back ≠ []) :
    PushesLike base
      (orderedPushFrom (Function.update queue.heap newnode (some garbage)) newnode queue pkt
        waitedSeqNum realWindowSize (addresses front).getLast? (addresses back).head?)
      (QueueReceiver.orderedPushFrom (.ofNodes (values (front ++ back))) pkt waitedSeqNum
        realWindowSize (values front) (values back)) := by
  by_cases high : waitedSeqNum.toNat ≥ 255 - ((realWindowSize.toNat : ℤ) - 1) ∧
      pkt.seqNum.toNat ≥ 255 - ((realWindowSize.toNat : ℤ) - 1)
  · exact orderedPushFrom_high_owns owns garbage pkt _ _ unused nonempty high
  · exact orderedPushFrom_low_owns owns garbage pkt _ _ unused nonempty high

theorem queueOrderedPush_owns (owns : queue.Owns base cells) (garbage : Node Addr Pkt) (pkt : Pkt)
    (waitedSeqNum realWindowSize : BitVec 8) (unused : queue.heap newnode = none) :
    ∃ code next cells', queueOrderedPush (some (newnode, garbage)) queue (some pkt) waitedSeqNum
        realWindowSize = .ok (code, next) ∧
      QueueReceiver.queueOrderedPush (.ofNodes (values cells)) (some pkt) waitedSeqNum
        realWindowSize = .ok (code, .ofNodes (values cells')) ∧
      next.Owns base cells' := by
  have fresh : newnode ∉ addresses cells := fun present => owns.linked.allocated present unused
  have atHead : queue.Owns base ([] ++ cells) := owns
  by_cases empty : cells = []
  · subst empty
    refine ⟨0, _, _, ?_, ?_, atHead.insert pkt unused⟩
    · simp only [queueOrderedPush, if_pos (owns.size_eq_zero_iff.mpr rfl), assign_new, bind,
        Except.bind]
      rfl
    · rfl
  · have filled : queue.size ≠ 0 := mt owns.size_eq_zero_iff.mp empty
    have filled' : (Queue.ofNodes (values cells)).size ≠ 0 := by
      rw [ne_eq, Queue.size_ofNodes_eq_zero]
      simpa [values] using empty
    have linked := owns.linked_new garbage fresh
    have start := owns.linked.start_eq
    simp only [queueOrderedPush, QueueReceiver.queueOrderedPush, if_neg filled, if_neg filled']
    split
    · rcases @skipNodes_eq _ _ [] cells
        (fun node => node.seqNum.toNat ≥ 255 - ((realWindowSize.toNat : ℤ) - 1)) _ linked _
        owns.length_le with ⟨front, back, same, walked, walked'⟩
      have here : queue.Owns base (front ++ back) := same ▸ atHead
      have listed := congrArg values same
      simp only [addresses_nil, List.getLast?_nil, values_nil] at walked walked'
      rw [Queue.nodes_ofNodes, walked, walked']
      cases back with
      | cons cell rest =>
          rcases orderedPushFrom_owns here garbage pkt waitedSeqNum realWindowSize unused
            (List.cons_ne_nil _ _) with ⟨code, next, cells', pushed, pushed', kept⟩
          refine ⟨code, next, cells', pushed, ?_, kept⟩
          rw [← pushed', listed]
          rfl
      | nil =>
          have some : front ≠ [] := by
            rintro rfl
            exact empty same.symm
          rcases here.exists_last unused ⟨pkt, none⟩ some with ⟨last, before, allocated⟩
          refine ⟨0, _, _, ?_, ?_, here.insert pkt unused⟩
          · simp only [bind, Except.bind, addresses_nil, List.head?_nil, before, assign_new,
              assign_before allocated]
            rw [if_neg some]
            rfl
          · simp only [values_nil]
            rw [if_neg (by simpa [values] using some), Queue.size_ofNodes,
              ← ofNodes_values_insert listed, values_nil]
            rfl
    · rcases orderedPushFrom_owns atHead garbage pkt waitedSeqNum realWindowSize unused empty with
        ⟨code, next, cells', pushed, pushed', kept⟩
      refine ⟨code, next, cells', ?_, pushed', kept⟩
      rw [start]
      exact pushed

/-- A pop frees the first node, and leaves the others. -/
theorem queuePop_owns {cell : Addr × Pkt} (owns : queue.Owns base (cell :: back)) :
    ∃ next, queuePop queue = .ok (some cell.2, next) ∧ next.Owns base back := by
  have size := owns.size
  have distinct := owns.linked.nodup
  rcases owns.linked with ⟨head, next, held, linked⟩
  rw [List.length_cons] at size
  refine ⟨⟨Function.update queue.heap cell.1 none, next, queue.size - 1⟩, ?_, ?_, ?_,
    owns.frame.tail⟩
  · have filled : queue.size ≠ 0 := by omega
    rw [queuePop, if_neg filled, head, load_allocated held, free_allocated held]
    rfl
  · exact linked.update_of_notMem (List.nodup_cons.mp distinct).1
  · simp only [size]
    push_cast
    omega

/-- The loop of the delivery frees the nodes of the packets which it writes. -/
theorem payloadWriteLoop_owns (wr : ℕ → QueueReceiver.WriteOutcome) {start : Option Addr}
    (linked : Chain heap start cells none) (frame : Frame base heap cells) {fuel : ℕ}
    (enough : cells.length ≤ fuel) (size : ℤ) (newSeqNum count : BitVec 8)
    (lastTimeStamp : BitVec 32) (writes : List QueueReceiver.Write) :
    ∃ result next rest, QueueReceiver.payloadWriteLoop wr (values cells) size newSeqNum count
        lastTimeStamp writes = result ∧
      payloadWriteLoop wr fuel start heap size newSeqNum count lastTimeStamp writes =
        .ok (result.count, next, result.lastTimeStamp, result.writes) ∧
      result.queue = ⟨values rest, next.size⟩ ∧ Chain next.heap next.head rest none ∧
      Frame base next.heap rest := by
  induction cells generalizing start heap fuel size newSeqNum count lastTimeStamp writes with
  | nil =>
      cases linked
      refine ⟨_, ⟨heap, none, size⟩, [], rfl, ?_, rfl, rfl, frame⟩
      rw [payloadWriteLoop]
      rfl
  | cons cell rest ih =>
      have distinct := linked.nodup
      rcases linked with ⟨rfl, next, held, behind⟩
      cases fuel with
      | zero => simp at enough
      | succ fuel =>
          rw [values_cons, QueueReceiver.payloadWriteLoop, payloadWriteLoop, load_allocated held]
          simp only [bind, Except.bind]
          split
          · rw [free_allocated held]
            exact ih (behind.update_of_notMem (List.nodup_cons.mp distinct).1) frame.tail
              (Nat.le_of_succ_le_succ enough) ..
          · exact ⟨_, ⟨heap, some cell.1, size⟩, cell :: rest, rfl, rfl, rfl,
              ⟨rfl, next, held, behind⟩, frame⟩

theorem queuePayloadWrite_owns (owns : queue.Owns base cells)
    (wr : ℕ → QueueReceiver.WriteOutcome) (seqNum : BitVec 8) (lastTimeStamp : BitVec 32)
    (writes : List QueueReceiver.Write) :
    ∃ result next cells', QueueReceiver.queuePayloadWrite wr (.ofNodes (values cells)) seqNum
        lastTimeStamp writes = result ∧
      queuePayloadWrite wr queue seqNum lastTimeStamp writes =
        .ok (result.count, next, result.lastTimeStamp, result.writes) ∧
      result.queue = .ofNodes (values cells') ∧ next.Owns base cells' := by
  rcases payloadWriteLoop_owns wr owns.linked owns.frame owns.length_le queue.size seqNum 0
    lastTimeStamp writes with ⟨result, next, rest, looped, looped', left, linked, frame⟩
  have same : QueueReceiver.queuePayloadWrite wr (.ofNodes (values cells)) seqNum lastTimeStamp
      writes = result := by
    rw [← looped, owns.size, ← length_values]
    rfl
  have consistent : (⟨values rest, next.size⟩ : Queue).Consistent := by
    rw [← left, ← same, QueueReceiver.queuePayloadWrite_ofNodes]
    exact Queue.consistent_ofNodes _
  have size : next.size = rest.length := by
    rw [← length_values]
    exact consistent
  refine ⟨result, next, rest, same, looped', ?_, linked, size, frame⟩
  rw [left, size, ← length_values]
  rfl

/-- Freeing the nodes of a list leaves what had been there without them. -/
theorem freeLoop_eq {start : Option Addr} (linked : Chain heap start cells none)
    (frame : Frame base heap cells) {fuel : ℕ} (enough : cells.length ≤ fuel) :
    freeLoop fuel start heap = .ok base := by
  induction cells generalizing start heap fuel with
  | nil =>
      cases linked
      rw [freeLoop, frame.eq_base]
  | cons cell rest ih =>
      have distinct := linked.nodup
      rcases linked with ⟨rfl, next, held, behind⟩
      cases fuel with
      | zero => simp at enough
      | succ fuel =>
          rw [freeLoop, load_allocated held]
          simp only [bind, Except.bind, free_allocated held]
          exact ih (behind.update_of_notMem (List.nodup_cons.mp distinct).1) frame.tail
            (Nat.le_of_succ_le_succ enough)

theorem queueFree_eq (owns : queue.Owns base cells) : queueFree queue = .ok base :=
  freeLoop_eq owns.linked owns.frame owns.length_le

/-- An operation, with what `malloc` returns if it is called. -/
abbrev Request (Addr : Type) := QueueReceiver.Operation × Option (Addr × Node Addr Pkt)

def perform : Request Addr → OrderedQueue Addr → Except Fault (QueueReply × OrderedQueue Addr)
  | (.push pkt, block), queue => do
      let (code, queue) ← queuePush block queue pkt
      return (.status code, queue)
  | (.orderedPush pkt waitedSeqNum realWindowSize, block), queue => do
      let (code, queue) ← queueOrderedPush block queue pkt waitedSeqNum realWindowSize
      return (.status code, queue)
  | (.pop, _), queue => do
      let (pkt, queue) ← queuePop queue
      return (.packet pkt, queue)
  | (.payloadWrite wr seqNum lastTimeStamp, _), queue => do
      let (count, queue, lastTimeStamp, writes) ←
        queuePayloadWrite wr queue seqNum lastTimeStamp []
      return (.written count lastTimeStamp writes, queue)

/-- The operation on the list of the packets. A push for which there is no memory returns -1. -/
def performListed : QueueReceiver.Operation × Bool → Queue → Except Fault (QueueReply × Queue)
  | (.push (some _), false), queue => .ok (.status (-1), queue)
  | (.orderedPush (some _) _ _, false), queue => .ok (.status (-1), queue)
  | (op, _), queue => QueueReceiver.perform op queue

/-- The operation of a request, and whether there is memory for a node. -/
def Request.listed (request : Request Addr) : QueueReceiver.Operation × Bool :=
  (request.1, request.2.isSome)

/-- A block which is allocated is not in use at the time. -/
def MallocUnused (request : Request Addr) (queue : OrderedQueue Addr) : Prop :=
  ∀ block ∈ request.2, queue.heap block.1 = none

theorem perform_simulates {request : Request Addr} {nodes : Queue}
    (represents : ∃ cells, queue.Owns base cells ∧ nodes = .ofNodes (values cells))
    (unused : MallocUnused request queue) :
    ∃ reply next nodes', perform request queue = .ok (reply, next) ∧
      performListed request.listed nodes = .ok (reply, nodes') ∧
      ∃ cells, next.Owns base cells ∧ nodes' = .ofNodes (values cells) := by
  rcases represents with ⟨cells, owns, rfl⟩
  rcases request with ⟨op, block⟩
  cases op with
  | push pkt =>
      cases pkt with
      | none => exact ⟨_, _, _, rfl, rfl, cells, owns, rfl⟩
      | some pkt =>
          cases block with
          | none => exact ⟨_, _, _, rfl, rfl, cells, owns, rfl⟩
          | some block =>
              rcases queuePush_owns owns block.2 pkt (unused block rfl) with ⟨next, pushed, kept⟩
              refine ⟨.status 0, next, _, ?_, ?_, _, kept, rfl⟩
              · rw [perform, pushed]
                rfl
              · rw [values_append]
                change QueueReceiver.perform (.push (some pkt)) _ = _
                rw [QueueReceiver.perform, QueueReceiver.queuePush, Queue.pushOr_ofNodes]
                rfl
  | orderedPush pkt waitedSeqNum realWindowSize =>
      cases pkt with
      | none => exact ⟨_, _, _, rfl, rfl, cells, owns, rfl⟩
      | some pkt =>
          cases block with
          | none => exact ⟨_, _, _, rfl, rfl, cells, owns, rfl⟩
          | some block =>
              rcases queueOrderedPush_owns owns block.2 pkt waitedSeqNum realWindowSize
                (unused block rfl) with ⟨code, next, cells', pushed, pushed', kept⟩
              refine ⟨.status code, next, _, ?_, ?_, cells', kept, rfl⟩
              · rw [perform, pushed]
                rfl
              · change QueueReceiver.perform (.orderedPush (some pkt) _ _) _ = _
                rw [QueueReceiver.perform, pushed']
                rfl
  | pop =>
      cases cells with
      | nil =>
          refine ⟨.packet none, queue, _, ?_, rfl, [], owns, rfl⟩
          rw [perform, queuePop, if_pos (owns.size_eq_zero_iff.mpr rfl)]
          rfl
      | cons cell rest =>
          rcases queuePop_owns owns with ⟨next, popped, kept⟩
          refine ⟨.packet (some cell.2), next, _, ?_, ?_, rest, kept, rfl⟩
          · rw [perform, popped]
            rfl
          · change QueueReceiver.perform .pop _ = _
            rw [QueueReceiver.perform, values_cons, Queue.pop_ofNodes_cons]
            rfl
  | payloadWrite wr seqNum lastTimeStamp =>
      rcases queuePayloadWrite_owns owns wr seqNum lastTimeStamp [] with
        ⟨result, next, rest, written, written', left, kept⟩
      refine ⟨.written result.count result.lastTimeStamp result.writes, next, _, ?_, ?_, rest, kept,
        left⟩
      · rw [perform, written']
        rfl
      · change QueueReceiver.perform (.payloadWrite wr seqNum lastTimeStamp) _ = _
        rw [QueueReceiver.perform, written]

theorem performAll_simulation (heap : Heap Addr Pkt) (requests : List (Request Addr))
    (unused : Operations.Along perform MallocUnused requests (queueInit heap)) :
    ∃ replies final cells, Operations.performAll perform requests (queueInit heap) =
        .ok (replies, final) ∧
      Operations.performAll performListed (requests.map Request.listed) (.ofNodes []) =
        .ok (replies, .ofNodes (values cells)) ∧
      final.Owns heap cells := by
  have initial : ∃ cells, (queueInit heap).Owns heap cells ∧
      Queue.ofNodes [] = .ofNodes (values cells) := ⟨[], ⟨rfl, rfl, .refl heap⟩, rfl⟩
  rcases Operations.performAll_simulates perform_simulates initial unused with
    ⟨replies, final, _, performed, performed', cells, owns, rfl⟩
  exact ⟨replies, final, cells, performed, performed', owns⟩

/--
Every sequence of operations on a new queue succeeds, without an access to a null or
dangling pointer, also when `malloc` fails for some of them. It has the replies of the
operations on the list of the packets, which is the one spelled by the nodes reachable from `head`.
Afterwards `queue_free` frees every node which is allocated, once, and no other.
-/
theorem performAll_owns (heap : Heap Addr Pkt) (requests : List (Request Addr))
    (unused : Operations.Along perform MallocUnused requests (queueInit heap)) :
    ∃ replies final cells, Operations.performAll perform requests (queueInit heap) =
        .ok (replies, final) ∧
      Operations.performAll performListed (requests.map Request.listed) (.ofNodes []) =
        .ok (replies, .ofNodes (values cells)) ∧
      Chain final.heap final.head cells none ∧ final.size = cells.length ∧
      queueFree final = .ok heap := by
  rcases performAll_simulation heap requests unused with
    ⟨replies, final, cells, performed, performed', owns⟩
  exact ⟨replies, final, cells, performed, performed', owns.linked, owns.size, queueFree_eq owns⟩

/-- The window passes 255, a packet comes twice, memory runs out, and the node 2 is used again. -/
def requestsExample : List (Request ℕ) :=
  [(.orderedPush (some { pktNew with seqNum := 254 }) 250 31, some (0, ⟨pktNew, some 7⟩)),
    (.orderedPush (some { pktNew with seqNum := 1 }) 250 31, some (1, ⟨pktNew, none⟩)),
    (.orderedPush (some { pktNew with seqNum := 250 }) 250 31, some (2, ⟨pktNew, none⟩)),
    (.orderedPush (some { pktNew with seqNum := 1 }) 250 31, some (3, ⟨pktNew, some 0⟩)),
    (.push (some pktNew), none), (.payloadWrite (fun _ => .failed) 250 0, none), (.pop, none),
    (.push (some { pktNew with seqNum := 7 }), some (2, ⟨pktNew, some 2⟩))]

/-- The blocks of the example are not in use when they are allocated. -/
theorem unused_requestsExample :
    Operations.Along perform MallocUnused requestsExample (queueInit fun _ => none) := by
  refine ⟨by rintro _ ⟨⟩; rfl, ?_⟩
  rintro _ _ ⟨⟩
  refine ⟨by rintro _ ⟨⟩; rfl, ?_⟩
  rintro _ _ ⟨⟩
  refine ⟨by rintro _ ⟨⟩; rfl, ?_⟩
  rintro _ _ ⟨⟩
  refine ⟨by rintro _ ⟨⟩; rfl, ?_⟩
  rintro _ _ ⟨⟩
  refine ⟨fun _ none => (by cases none), ?_⟩
  rintro _ _ ⟨⟩
  refine ⟨fun _ none => (by cases none), ?_⟩
  rintro _ _ ⟨⟩
  refine ⟨fun _ none => (by cases none), ?_⟩
  rintro _ _ ⟨⟩
  refine ⟨by rintro _ ⟨⟩; rfl, ?_⟩
  rintro _ _ ⟨⟩
  trivial

theorem performAll_owns_example :
    ∃ replies final cells, Operations.performAll perform requestsExample (queueInit fun _ => none) =
        .ok (replies, final) ∧
      Operations.performAll performListed (requestsExample.map Request.listed) (.ofNodes []) =
        .ok (replies, .ofNodes (values cells)) ∧
      Chain final.heap final.head cells none ∧ final.size = cells.length ∧
      queueFree final = .ok fun _ => none :=
  performAll_owns _ _ unused_requestsExample

end OrderedQueue

end ReliableTransfer
