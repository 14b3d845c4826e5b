import ReliableTransfer.Queue.Basic

/-!
# The sender's queue

The functions of `queue_sender.c` which the sender uses. Deletion pops packets
from the head while it looks for its sequence number; hence it empties the
queue when the number does not occur in it.
-/

namespace ReliableTransfer.QueueSender

/-- `queue_push`, through the pointer `last`. -/
def queuePush : Queue → Option Pkt → Except Fault (ℤ × Queue) :=
  queuePushOr .danglingPointer

/-- The loop of `queue_delete`, from the node `run` on. -/
def deleteLoop (seqNum : BitVec 8) : List Pkt → Queue → ℕ → Except Fault (ℕ × Queue)
  | [], queue, number => .ok (number, queue)
  | node :: run, queue, number =>
      if node.seqNum ≠ seqNum then do
        let (_, queue) ← queuePop queue
        deleteLoop seqNum run queue (number + 1)
      else do
        let (_, queue) ← queuePop queue
        return (number + 1, queue)

/-- `queue_delete`: the number of deleted packets, and the queue. -/
def queueDelete (queue : Queue) (seqNum : BitVec 8) : Except Fault (ℕ × Queue) :=
  if queue.size = 0 then .ok (0, queue)
  else deleteLoop seqNum queue.nodes queue 0

def queueFindAckStructure (queue : Queue) (seqNum : BitVec 8) : Option Pkt :=
  queue.nodes.find? fun pkt => pkt.seqNum = seqNum

/-- Set the timestamp of the first packet with this number to 0. -/
def markNodes (seqNum : BitVec 8) : List Pkt → List Pkt
  | [] => []
  | pkt :: run =>
      if pkt.seqNum = seqNum then { pkt with timestamp := 0 } :: run
      else pkt :: markNodes seqNum run

/-- `queue_find_nack_structure`: the packet found, and the queue in which it is marked. -/
def queueFindNackStructure (queue : Queue) (seqNum : BitVec 8) : Option Pkt × Queue :=
  let nodes := markNodes seqNum queue.nodes
  (nodes.find? fun pkt => pkt.seqNum = seqNum, { queue with nodes := nodes })

theorem map_seqNum_markNodes (seqNum : BitVec 8) (nodes : List Pkt) :
    (markNodes seqNum nodes).map Pkt.seqNum = nodes.map Pkt.seqNum := by
  induction nodes with
  | nil => rfl
  | cons pkt run ih =>
      rw [markNodes]
      split
      · rfl
      · rw [List.map_cons, List.map_cons, ih]

theorem length_markNodes (seqNum : BitVec 8) (nodes : List Pkt) :
    (markNodes seqNum nodes).length = nodes.length := by
  rw [← List.length_map Pkt.seqNum, map_seqNum_markNodes, List.length_map]

theorem mem_markNodes {seqNum : BitVec 8} {nodes : List Pkt} {marked : Pkt}
    (present : marked ∈ markNodes seqNum nodes) :
    ∃ pkt ∈ nodes, marked = { pkt with timestamp := marked.timestamp } := by
  induction nodes with
  | nil => cases present
  | cons pkt run ih =>
      rw [markNodes] at present
      split at present
      · rcases List.mem_cons.mp present with rfl | later
        · exact ⟨pkt, by simp, rfl⟩
        · exact ⟨marked, by simp [later], rfl⟩
      · rcases List.mem_cons.mp present with rfl | later
        · exact ⟨marked, by simp, rfl⟩
        · rcases ih later with ⟨original, found, same⟩
          exact ⟨original, by simp [found], same⟩

theorem mark_eq_iff {pkt : Pkt} : { pkt with timestamp := 0 } = pkt ↔ pkt.timestamp = 0 := by
  constructor
  · intro same
    rw [← same]
  · intro marked
    rw [← marked]

/-- A marked packet stays as it is when any packet is marked. -/
theorem mem_markNodes_of_marked {seqNum : BitVec 8} {nodes : List Pkt} {pkt : Pkt}
    (present : pkt ∈ nodes) (marked : pkt.timestamp = 0) : pkt ∈ markNodes seqNum nodes := by
  induction nodes with
  | nil => cases present
  | cons node run ih =>
      rw [markNodes]
      rcases List.mem_cons.mp present with rfl | later
      · split
        · rw [mark_eq_iff.mpr marked]
          exact List.mem_cons_self
        · exact List.mem_cons_self
      · split
        · exact List.mem_cons_of_mem _ later
        · exact List.mem_cons_of_mem _ (ih later)

/-- Marking changes nothing if the packet is not there, or is marked already. -/
theorem markNodes_eq_self_iff (seqNum : BitVec 8) (nodes : List Pkt) :
    markNodes seqNum nodes = nodes ↔
      ∀ pkt ∈ nodes.find? (fun pkt => pkt.seqNum = seqNum), pkt.timestamp = 0 := by
  induction nodes with
  | nil => simp [markNodes]
  | cons pkt run ih =>
      rw [markNodes, List.find?_cons]
      by_cases same : pkt.seqNum = seqNum
      · rw [if_pos same, List.cons.injEq, mark_eq_iff]
        simp [same]
      · rw [if_neg same, List.cons.injEq, ih]
        simp [same]

/-- A packet is marked and no other one, unless an earlier packet has its number too. -/
theorem markNodes_eq_iff {front back : List Pkt} {held : Pkt} :
    markNodes held.seqNum (front ++ held :: back) =
        front ++ { held with timestamp := 0 } :: back ↔
      ∀ first, front.find? (fun pkt => pkt.seqNum = held.seqNum) = some first →
        first.timestamp = 0 ∧ held.timestamp = 0 := by
  induction front with
  | nil => simp [markNodes]
  | cons pkt run ih =>
      rw [List.cons_append, markNodes, List.find?_cons, List.cons_append]
      by_cases same : pkt.seqNum = held.seqNum
      · rw [if_pos same, List.cons.injEq, List.append_cancel_left_eq, List.cons.injEq,
          mark_eq_iff, @eq_comm _ held, mark_eq_iff]
        simp [same]
      · rw [if_neg same, List.cons.injEq, ih]
        simp [same]

/-- What remains behind the first packet with this number. -/
def remaining (seqNum : BitVec 8) : List Pkt → List Pkt
  | [] => []
  | pkt :: run => if pkt.seqNum = seqNum then run else remaining seqNum run

theorem remaining_suffix (seqNum : BitVec 8) (nodes : List Pkt) :
    remaining seqNum nodes <:+ nodes := by
  induction nodes with
  | nil => exact List.suffix_refl _
  | cons pkt run ih =>
      simp only [remaining]
      split
      · exact List.suffix_cons _ _
      · exact ih.trans (List.suffix_cons _ _)

/-- The number of the packets up to the first one with this number. -/
def deleted (seqNum : BitVec 8) (nodes : List Pkt) : ℕ :=
  nodes.length - (remaining seqNum nodes).length

theorem deleted_cons_of_ne {seqNum : BitVec 8} {pkt : Pkt} (run : List Pkt)
    (other : pkt.seqNum ≠ seqNum) : deleted seqNum (pkt :: run) = deleted seqNum run + 1 := by
  have shorter := (remaining_suffix seqNum run).length_le
  rw [deleted, deleted, remaining, if_neg other, List.length_cons]
  omega

theorem deleted_cons_of_eq {seqNum : BitVec 8} {pkt : Pkt} (run : List Pkt)
    (found : pkt.seqNum = seqNum) : deleted seqNum (pkt :: run) = 1 := by
  rw [deleted, remaining, if_pos found, List.length_cons]
  omega

theorem deleteLoop_eq (seqNum : BitVec 8) (nodes : List Pkt) (number : ℕ) :
    deleteLoop seqNum nodes (.ofNodes nodes) number =
      .ok (number + deleted seqNum nodes, .ofNodes (remaining seqNum nodes)) := by
  induction nodes generalizing number with
  | nil => rfl
  | cons pkt run ih =>
      simp only [deleteLoop, remaining, Queue.pop_ofNodes_cons, bind, Except.bind]
      by_cases found : pkt.seqNum = seqNum
      · simp [found, deleted_cons_of_eq, pure, Except.pure]
      · rw [deleted_cons_of_ne run found]
        simp only [ne_eq, found, not_false_eq_true, if_true, if_false, ih, Nat.add_assoc,
          Nat.add_comm 1]

theorem queueDelete_eq (seqNum : BitVec 8) (nodes : List Pkt) :
    queueDelete (.ofNodes nodes) seqNum =
      .ok (deleted seqNum nodes, .ofNodes (remaining seqNum nodes)) := by
  by_cases empty : nodes = []
  · subst empty
    rfl
  · rw [queueDelete, if_neg (mt Queue.size_ofNodes_eq_zero.mp empty)]
    simpa using deleteLoop_eq seqNum nodes 0

theorem queueDelete_ofNodes (seqNum : BitVec 8) (nodes : List Pkt) :
    ∃ deleted, queueDelete (.ofNodes nodes) seqNum =
      .ok (deleted, .ofNodes (remaining seqNum nodes)) :=
  ⟨_, queueDelete_eq seqNum nodes⟩

theorem remaining_of_not_mem {seqNum : BitVec 8} {nodes : List Pkt}
    (absent : ∀ pkt ∈ nodes, pkt.seqNum ≠ seqNum) : remaining seqNum nodes = [] := by
  induction nodes with
  | nil => rfl
  | cons pkt run ih =>
      rw [remaining, if_neg (absent pkt (by simp))]
      exact ih fun other present => absent other (by simp [present])

end ReliableTransfer.QueueSender
