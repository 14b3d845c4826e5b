import ReliableTransfer.Packet.Codec

/-!
# Packet queues

The linked queues of `queue_sender.c` and `queue_receiver.c`. A queue is given
by the packets of the nodes which are reachable from `head`, in order, and by
its `size` field, which the functions read and update on their own. The pointer
`last` of the sender's queue is the final node; it dangles when `head` is
`NULL`. Allocation of a node succeeds.
-/

namespace ReliableTransfer

/-- Either no element has a property, or there is a first one which has. -/
theorem none_or_first {Element : Type} (property : Element → Prop) [DecidablePred property]
    (elements : List Element) :
    (∀ element ∈ elements, ¬property element) ∨
      ∃ front first rest, elements = front ++ first :: rest ∧
        (∀ element ∈ front, ¬property element) ∧ property first := by
  cases found : elements.find? fun element => property element with
  | none => exact .inl (by simpa using found)
  | some first =>
      rcases List.find?_eq_some_iff_append.mp found with ⟨holds, front, rest, split, earlier⟩
      exact .inr ⟨front, first, rest, split, by simpa using earlier, by simpa using holds⟩

structure Queue where
  nodes : List Pkt
  size : ℤ
  deriving DecidableEq, Repr

def queueInit : Queue := ⟨[], 0⟩

namespace Queue

/-- The size field counts the nodes. -/
def Consistent (queue : Queue) : Prop :=
  queue.size = queue.nodes.length

def ofNodes (nodes : List Pkt) : Queue := ⟨nodes, nodes.length⟩

@[simp]
theorem nodes_ofNodes (nodes : List Pkt) : (ofNodes nodes).nodes = nodes := rfl

@[simp]
theorem size_ofNodes (nodes : List Pkt) : (ofNodes nodes).size = nodes.length := rfl

theorem size_ofNodes_eq_zero {nodes : List Pkt} : (ofNodes nodes).size = 0 ↔ nodes = [] := by
  simp

theorem ofNodes_insert (left right : List Pkt) (pkt : Pkt) :
    (⟨left ++ pkt :: right, (left ++ right).length + 1⟩ : Queue) =
      ofNodes (left ++ pkt :: right) := by
  simp only [ofNodes, List.length_append, List.length_cons, Queue.mk.injEq, true_and]
  push_cast
  omega

theorem ofNodes_append (nodes : List Pkt) (pkt : Pkt) :
    (⟨nodes ++ [pkt], nodes.length + 1⟩ : Queue) = ofNodes (nodes ++ [pkt]) := by
  simp [ofNodes]

theorem ofNodes_behind (before : List Pkt) (last pkt : Pkt) :
    (⟨before ++ [last, pkt], (before ++ [last]).length + 1⟩ : Queue) =
      ofNodes (before ++ [last] ++ [pkt]) := by
  simp [ofNodes]
  omega

theorem consistent_ofNodes (nodes : List Pkt) : (ofNodes nodes).Consistent := rfl

theorem consistent_init : queueInit.Consistent := rfl

/-- The size field is enough for a walk along the nodes. -/
theorem Consistent.length_le {queue : Queue} (consistent : queue.Consistent) :
    queue.nodes.length ≤ queue.size.toNat := by
  rw [consistent]
  simp

theorem Consistent.eq_ofNodes {queue : Queue} (consistent : queue.Consistent) :
    queue = ofNodes queue.nodes := by
  cases queue
  simp only [Consistent] at consistent
  subst consistent
  rfl

end Queue

/-- `queue_pop`, which is the same in both files. -/
def queuePop (queue : Queue) : Except Fault (Option Pkt × Queue) :=
  if queue.size = 0 then .ok (none, queue)
  else
    match queue.nodes with
    | [] => .error .nullPointer
    | pkt :: rest => .ok (some pkt, ⟨rest, queue.size - 1⟩)

/--
The common part of the two versions of `queue_push`. They reach the final node
in different ways, and so fail differently when the size is not zero although
there is no node.
-/
def queuePushOr (fault : Fault) (queue : Queue) (pkt : Option Pkt) : Except Fault (ℤ × Queue) :=
  match pkt with
  | none => .ok (-1, queue)
  | some pkt =>
      if queue.size = 0 then .ok (0, ⟨[pkt], queue.size + 1⟩)
      else if queue.nodes = [] then .error fault
      else .ok (0, ⟨queue.nodes ++ [pkt], queue.size + 1⟩)

namespace Queue

@[simp]
theorem pop_ofNodes_cons (pkt : Pkt) (rest : List Pkt) :
    queuePop (ofNodes (pkt :: rest)) = .ok (some pkt, ofNodes rest) := by
  have size : (ofNodes (pkt :: rest)).size ≠ 0 :=
    mt size_ofNodes_eq_zero.mp (List.cons_ne_nil _ _)
  rw [queuePop, if_neg size]
  simp [ofNodes]

theorem pushOr_ofNodes (fault : Fault) (nodes : List Pkt) (pkt : Pkt) :
    queuePushOr fault (ofNodes nodes) (some pkt) = .ok (0, ofNodes (nodes ++ [pkt])) := by
  rw [queuePushOr]
  cases nodes with
  | nil => rfl
  | cons first rest =>
      have size : (ofNodes (first :: rest)).size ≠ 0 :=
        mt size_ofNodes_eq_zero.mp (List.cons_ne_nil _ _)
      rw [if_neg size, if_neg (by simp)]
      simp [ofNodes]

end Queue

end ReliableTransfer
