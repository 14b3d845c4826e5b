import ReliableTransfer.Queue.Basic
import ReliableTransfer.Library.Serial

/-!
# The receiver's queues

The functions of `queue_receiver.c`: insertion of a packet by sequence number,
and the delivery of the consecutive packets at the head to the output file.

Insertion walks along the list with two pointers, `before` and `runner`. A pair
of lists gives their position: the nodes up to `before`, and those from `runner`
on. The pointer `before` is `NULL` exactly when the first list is empty.
-/

namespace ReliableTransfer.QueueReceiver

/-- `queue_push`, walking to the final node from the head. -/
def queuePush : Queue → Option Pkt → Except Fault (ℤ × Queue) :=
  queuePushOr .nullPointer

/-- `while (runner != NULL && skip(runner)) { before = runner; runner = runner->next; }` -/
def skipNodes (skip : Pkt → Bool) : List Pkt → List Pkt → List Pkt × List Pkt
  | before, [] => (before, [])
  | before, node :: rest =>
      if skip node then skipNodes skip (before ++ [node]) rest else (before, node :: rest)

/-- `while (skip(runner) && runner->next != NULL) { before = runner; runner = runner->next; }` -/
def skipToLast (skip : Pkt → Bool) : List Pkt → List Pkt → List Pkt × List Pkt
  | before, [] => (before, [])
  | before, [last] => (before, [last])
  | before, node :: next :: rest =>
      if skip node then skipToLast skip (before ++ [node]) (next :: rest)
      else (before, node :: next :: rest)

/-- The second half of `queue_ordered_push`, from given pointers on. -/
def orderedPushFrom (queue : Queue) (pkt : Pkt) (waitedSeqNum realWindowSize : BitVec 8)
    (before runner : List Pkt) : Except Fault (ℤ × Queue) :=
  let high : ℤ := 255 - (realWindowSize.toNat - 1)
  if waitedSeqNum.toNat ≥ high ∧ pkt.seqNum.toNat ≥ high then
    match skipNodes (fun node => node.seqNum.toNat ≥ high ∧ node.seqNum.toNat < pkt.seqNum.toNat)
        before runner with
    | (before, []) =>
        if before = [] then .error .nullPointer
        else .ok (0, ⟨before ++ [pkt], queue.size + 1⟩)
    | (before, node :: rest) =>
        if pkt.seqNum = node.seqNum then .ok (-1, queue)
        else .ok (0, ⟨before ++ pkt :: node :: rest, queue.size + 1⟩)
  else
    match skipToLast (fun node => node.seqNum.toNat < pkt.seqNum.toNat) before runner with
    | (_, []) => .error .nullPointer
    | (before, node :: rest) =>
        if node.seqNum.toNat > pkt.seqNum.toNat then
          .ok (0, ⟨before ++ pkt :: node :: rest, queue.size + 1⟩)
        else if node.seqNum = pkt.seqNum then .ok (-1, queue)
        else
          -- The new node is linked behind this one, and ends the list.
          .ok (0, ⟨before ++ [node, pkt], queue.size + 1⟩)

def queueOrderedPush (queue : Queue) (pkt : Option Pkt) (waitedSeqNum realWindowSize : BitVec 8) :
    Except Fault (ℤ × Queue) :=
  match pkt with
  | none => .ok (-1, queue)
  | some pkt =>
      if queue.size = 0 then .ok (0, ⟨[pkt], queue.size + 1⟩)
      else
        let high : ℤ := 255 - (realWindowSize.toNat - 1)
        if waitedSeqNum.toNat ≥ high ∧ (pkt.seqNum.toNat : ℤ) < realWindowSize.toNat - 1 then
          -- The window passes 255, and the packet is behind the passage.
          match skipNodes (fun node => node.seqNum.toNat ≥ high) [] queue.nodes with
          | (before, []) =>
              if before = [] then .error .nullPointer
              else .ok (0, ⟨before ++ [pkt], queue.size + 1⟩)
          | (before, node :: rest) =>
              orderedPushFrom queue pkt waitedSeqNum realWindowSize before (node :: rest)
        else
          orderedPushFrom queue pkt waitedSeqNum realWindowSize [] queue.nodes

/-- What one call of `write` on the output file does: it fails, or takes some bytes. -/
inductive WriteOutcome where
  | failed
  | wrote (count : ℕ)
  deriving DecidableEq, Repr

/-- A call of `write` with the payload of a packet. -/
structure Write where
  pkt : Pkt
  outcome : WriteOutcome
  deriving DecidableEq

namespace Write

/-- The bytes which arrive in the file. -/
def bytes (write : Write) : List Byte :=
  match write.outcome with
  | .failed => []
  | .wrote count => write.pkt.wirePayload.take count

/-- All bytes which the length field counts have been written. -/
def Complete (write : Write) : Prop :=
  write.bytes.length = write.pkt.length.toNat

instance (write : Write) : Decidable write.Complete :=
  inferInstanceAs (Decidable (_ = _))

end Write

/-- What `queue_payload_write` returns, and what it leaves behind. -/
structure PayloadWritten where
  count : BitVec 8
  queue : Queue
  lastTimeStamp : BitVec 32
  writes : List Write

/-- The loop of `queue_payload_write`. The outcome of the `n`-th call of `write` is `wr n`. -/
def payloadWriteLoop (wr : ℕ → WriteOutcome) : List Pkt → ℤ → BitVec 8 → BitVec 8 → BitVec 32 →
    List Write → PayloadWritten
  | [], size, _, count, lastTimeStamp, writes => ⟨count, ⟨[], size⟩, lastTimeStamp, writes⟩
  | pkt :: rest, size, newSeqNum, count, lastTimeStamp, writes =>
      if pkt.seqNum = newSeqNum then
        payloadWriteLoop wr rest (size - 1) (newSeqNum + 1) (count + 1) pkt.timestamp
          (writes ++ [⟨pkt, wr writes.length⟩])
      else ⟨count, ⟨pkt :: rest, size⟩, lastTimeStamp, writes⟩

/-- `queue_payload_write`. The calls of `write` so far are extended by those made here. -/
def queuePayloadWrite (wr : ℕ → WriteOutcome) (queue : Queue) (seqNum : BitVec 8)
    (lastTimeStamp : BitVec 32) (writes : List Write) : PayloadWritten :=
  payloadWriteLoop wr queue.nodes queue.size seqNum 0 lastTimeStamp writes

/-- The packets at the head of a list which are numbered consecutively from a number on. -/
def consecutive : BitVec 8 → List Pkt → List Pkt
  | _, [] => []
  | seqNum, pkt :: rest =>
      if pkt.seqNum = seqNum then pkt :: consecutive (seqNum + 1) rest else []

def lastTimeStampOf (lastTimeStamp : BitVec 32) (pkts : List Pkt) : BitVec 32 :=
  (pkts.getLast?.map Pkt.timestamp).getD lastTimeStamp

/-- The calls of `write` made for some packets, after a number of earlier calls. -/
def writesOf (wr : ℕ → WriteOutcome) : ℕ → List Pkt → List Write
  | _, [] => []
  | earlier, pkt :: rest => ⟨pkt, wr earlier⟩ :: writesOf wr (earlier + 1) rest

theorem skipNodes_append {skip : Pkt → Bool} {before left right : List Pkt}
    (skipped : ∀ node ∈ left, skip node) (stops : ∀ node ∈ right, ¬skip node) :
    skipNodes skip before (left ++ right) = (before ++ left, right) := by
  induction left generalizing before with
  | nil =>
      cases right with
      | nil => simp [skipNodes]
      | cons node rest => simp [skipNodes, stops node (by simp)]
  | cons node rest ih =>
      rw [List.cons_append, skipNodes, if_pos (skipped node (by simp)),
        ih fun other present => skipped other (by simp [present])]
      simp

theorem skipToLast_append {skip : Pkt → Bool} {before left rest : List Pkt} {node : Pkt}
    (skipped : ∀ other ∈ left, skip other) (stops : ¬skip node ∨ rest = []) :
    skipToLast skip before (left ++ node :: rest) = (before ++ left, node :: rest) := by
  induction left generalizing before with
  | nil =>
      cases rest with
      | nil => simp [skipToLast]
      | cons next rest => simp [skipToLast, stops.resolve_right (by simp)]
  | cons first left ih =>
      have walked : skipToLast skip before (first :: (left ++ node :: rest)) =
          skipToLast skip (before ++ [first]) (left ++ node :: rest) := by
        cases left with
        | nil => simp [skipToLast, skipped first (by simp)]
        | cons second left => simp [skipToLast, skipped first (by simp)]
      rw [List.cons_append, walked, ih fun other present => skipped other (by simp [present])]
      simp

theorem skipNodes_split (skip : Pkt → Bool) (before runner : List Pkt) :
    ∃ skipped rest, runner = skipped ++ rest ∧
      skipNodes skip before runner = (before ++ skipped, rest) := by
  induction runner generalizing before with
  | nil => exact ⟨[], [], rfl, by simp [skipNodes]⟩
  | cons node rest ih =>
      rw [skipNodes]
      split
      · rcases ih (before ++ [node]) with ⟨skipped, remaining, rfl, walked⟩
        exact ⟨node :: skipped, remaining, rfl, by simp [walked]⟩
      · exact ⟨[], node :: rest, rfl, by simp⟩

theorem skipToLast_split (skip : Pkt → Bool) (before runner : List Pkt) (nonempty : runner ≠ []) :
    ∃ skipped node rest, runner = skipped ++ node :: rest ∧ (¬skip node ∨ rest = []) ∧
      skipToLast skip before runner = (before ++ skipped, node :: rest) := by
  induction runner generalizing before with
  | nil => exact absurd rfl nonempty
  | cons node rest ih =>
      cases rest with
      | nil => exact ⟨[], node, [], rfl, .inr rfl, by simp [skipToLast]⟩
      | cons next rest =>
          rw [skipToLast]
          split
          · rcases ih (before ++ [node]) (by simp) with
              ⟨skipped, final, remaining, same, stops, walked⟩
            exact ⟨node :: skipped, final, remaining, by simp [same], stops, by simp [walked]⟩
          · rename_i stops
            exact ⟨[], node, next :: rest, rfl, .inl (by simpa using stops), by simp⟩

/--
The queue into which a packet has been inserted somewhere, or the old one: the packet is refused,
and its number is queued.
-/
def InsertedOrRefused (nodes : List Pkt) (pkt : Pkt) (result : Except Fault (ℤ × Queue)) : Prop :=
  (∃ left right, nodes = left ++ right ∧ result = .ok (0, .ofNodes (left ++ pkt :: right))) ∨
    ((∃ node ∈ nodes, node.seqNum = pkt.seqNum) ∧ result = .ok (-1, .ofNodes nodes))

theorem orderedPushFrom_total {before runner : List Pkt} (pkt : Pkt)
    (waitedSeqNum realWindowSize : BitVec 8) (nonempty : runner ≠ []) :
    InsertedOrRefused (before ++ runner) pkt
      (orderedPushFrom (.ofNodes (before ++ runner)) pkt waitedSeqNum realWindowSize before
        runner) := by
  rw [orderedPushFrom]
  split
  · rcases skipNodes_split (fun node => node.seqNum.toNat ≥ 255 - ((realWindowSize.toNat : ℤ) - 1) ∧
      node.seqNum.toNat < pkt.seqNum.toNat) before runner with ⟨skipped, rest, rfl, walked⟩
    rw [walked]
    cases rest with
    | nil =>
        have someBefore : before ++ skipped ≠ [] := by
          simp only [List.append_nil] at nonempty
          simp [nonempty]
        simp only
        rw [if_neg someBefore]
        refine .inl ⟨before ++ skipped, [], by simp, ?_⟩
        rw [Queue.size_ofNodes, List.append_nil, Queue.ofNodes_append]
    | cons node rest =>
        simp only
        split
        · rename_i same
          exact .inr ⟨⟨node, by simp, same.symm⟩, rfl⟩
        · refine .inl ⟨before ++ skipped, node :: rest, by simp, ?_⟩
          rw [Queue.size_ofNodes, ← List.append_assoc, Queue.ofNodes_insert]
  · rcases skipToLast_split (fun node => node.seqNum.toNat < pkt.seqNum.toNat) before runner
      nonempty with ⟨skipped, node, rest, rfl, stops, walked⟩
    rw [walked]
    simp only
    split
    · refine .inl ⟨before ++ skipped, node :: rest, by simp, ?_⟩
      rw [Queue.size_ofNodes, ← List.append_assoc, Queue.ofNodes_insert]
    · split
      · rename_i same
        exact .inr ⟨⟨node, by simp, same⟩, rfl⟩
      · rename_i notAbove different
        have below : node.seqNum.toNat < pkt.seqNum.toNat := by
          have apart : node.seqNum.toNat ≠ pkt.seqNum.toNat :=
            fun same => different (BitVec.eq_of_toNat_eq same)
          omega
        have final : rest = [] := stops.resolve_left (by simpa using below)
        subst final
        refine .inl ⟨before ++ skipped ++ [node], [], by simp, ?_⟩
        rw [Queue.size_ofNodes, ← List.append_assoc, Queue.ofNodes_behind]

theorem queueOrderedPush_total (nodes : List Pkt) (pkt : Pkt)
    (waitedSeqNum realWindowSize : BitVec 8) :
    InsertedOrRefused nodes pkt
      (queueOrderedPush (.ofNodes nodes) (some pkt) waitedSeqNum realWindowSize) := by
  rw [queueOrderedPush]
  simp only
  by_cases empty : nodes = []
  · subst empty
    exact .inl ⟨[], [], rfl, rfl⟩
  · rw [if_neg (mt Queue.size_ofNodes_eq_zero.mp empty)]
    split
    · rcases skipNodes_split
        (fun node => node.seqNum.toNat ≥ 255 - ((realWindowSize.toNat : ℤ) - 1)) [] nodes with
        ⟨skipped, rest, rfl, walked⟩
      rw [Queue.nodes_ofNodes, walked, List.nil_append]
      cases rest with
      | nil =>
          simp only [List.append_nil] at empty ⊢
          rw [if_neg empty]
          refine .inl ⟨skipped, [], by simp, ?_⟩
          rw [Queue.size_ofNodes, Queue.ofNodes_append]
      | cons node rest =>
          exact orderedPushFrom_total pkt waitedSeqNum realWindowSize (by simp)
    · exact @orderedPushFrom_total [] nodes pkt waitedSeqNum realWindowSize empty

/-- The packets are numbered in the order of their distance from a number. -/
def Ordered (waitedSeqNum : BitVec 8) (nodes : List Pkt) : Prop :=
  nodes.Pairwise fun left right =>
    Serial.dist waitedSeqNum left.seqNum < Serial.dist waitedSeqNum right.seqNum

theorem Ordered.split {waitedSeqNum : BitVec 8} {nodes : List Pkt}
    (ordered : Ordered waitedSeqNum nodes) (bound : ℕ) :
    ∃ near far, nodes = near ++ far ∧
      (∀ node ∈ near, Serial.dist waitedSeqNum node.seqNum < bound) ∧
      ∀ node ∈ far, bound ≤ Serial.dist waitedSeqNum node.seqNum := by
  induction nodes with
  | nil => exact ⟨[], [], rfl, by simp, by simp⟩
  | cons first rest ih =>
      rcases List.pairwise_cons.mp ordered with ⟨smallest, restOrdered⟩
      by_cases reached : Serial.dist waitedSeqNum first.seqNum < bound
      · rcases ih restOrdered with ⟨near, far, rfl, nearBelow, farAbove⟩
        exact ⟨first :: near, far, rfl, by simpa using ⟨reached, nearBelow⟩, farAbove⟩
      · refine ⟨[], first :: rest, rfl, by simp, ?_⟩
        intro node present
        rcases List.mem_cons.mp present with rfl | later
        · omega
        · have larger := smallest node later
          omega

/-- The packets are numbered inside the window from a number on. -/
def Within (waitedSeqNum : BitVec 8) (size : ℕ) (nodes : List Pkt) : Prop :=
  ∀ node ∈ nodes, Serial.dist waitedSeqNum node.seqNum < size

theorem seqNum_toNat (waitedSeqNum seqNum : BitVec 8) :
    seqNum.toNat = if waitedSeqNum.toNat + Serial.dist waitedSeqNum seqNum < 256
      then waitedSeqNum.toNat + Serial.dist waitedSeqNum seqNum
      else waitedSeqNum.toNat + Serial.dist waitedSeqNum seqNum - 256 := by
  have waitedBound := waitedSeqNum.isLt
  have seqNumBound := seqNum.isLt
  rw [Serial.dist_eq]
  split <;> split <;> omega

/-- The queue into which a packet has been inserted, or the old one if its number was taken. -/
def insertBetween (left : List Pkt) (pkt : Pkt) (right : List Pkt) : ℤ × Queue :=
  if right.head?.map Pkt.seqNum = some pkt.seqNum then (-1, .ofNodes (left ++ right))
  else (0, .ofNodes (left ++ pkt :: right))

theorem insertBetween_nil (left : List Pkt) (pkt : Pkt) :
    insertBetween left pkt [] = (0, .ofNodes (left ++ [pkt])) := by
  simp [insertBetween]

theorem insertBetween_cons (left : List Pkt) (pkt node : Pkt) (rest : List Pkt) :
    insertBetween left pkt (node :: rest) =
      if node.seqNum = pkt.seqNum then (-1, .ofNodes (left ++ node :: rest))
      else (0, .ofNodes (left ++ pkt :: node :: rest)) := by
  simp [insertBetween]

/-- The last branch, where the numbers are compared as they are. -/
theorem orderedPushFrom_plain {before left right nodes : List Pkt} {pkt : Pkt}
    {waitedSeqNum realWindowSize : BitVec 8} (split : nodes = before ++ left ++ right)
    (notHigh : ¬((waitedSeqNum.toNat : ℤ) ≥ 255 - ((realWindowSize.toNat : ℤ) - 1) ∧
      (pkt.seqNum.toNat : ℤ) ≥ 255 - ((realWindowSize.toNat : ℤ) - 1)))
    (nonempty : left ++ right ≠ []) (below : ∀ node ∈ left, node.seqNum.toNat < pkt.seqNum.toNat)
    (above : ∀ node ∈ right, pkt.seqNum.toNat ≤ node.seqNum.toNat) :
    orderedPushFrom (.ofNodes nodes) pkt waitedSeqNum realWindowSize before (left ++ right) =
      .ok (insertBetween (before ++ left) pkt right) := by
  rw [orderedPushFrom, if_neg notHigh]
  cases right with
  | nil =>
      rcases List.eq_nil_or_concat left with empty | ⟨initial, last, rfl⟩
      · exact absurd (by simp [empty]) nonempty
      · have lastBelow := below last (by simp)
        rw [List.append_nil, List.concat_eq_append, skipToLast_append
          (fun other present => by simpa using below other (by simp [present])) (.inr rfl)]
        simp only
        rw [if_neg (by omega), if_neg, insertBetween_nil]
        · rw [Queue.size_ofNodes, split, List.append_nil, List.concat_eq_append,
            ← List.append_assoc, Queue.ofNodes_behind]
        · intro same
          rw [same] at lastBelow
          omega
  | cons node rest =>
      have nodeAbove := above node (by simp)
      rw [skipToLast_append (fun other present => by simpa using below other present)
        (.inl (by simpa using nodeAbove)), insertBetween_cons]
      simp only
      by_cases taken : node.seqNum = pkt.seqNum
      · rw [if_neg (by rw [taken]; omega), if_pos taken, if_pos taken, split]
      · have different : node.seqNum.toNat ≠ pkt.seqNum.toNat :=
          fun same => taken (BitVec.eq_of_toNat_eq same)
        rw [if_pos (by omega), if_neg taken, Queue.size_ofNodes, split, Queue.ofNodes_insert]

/-- The middle branch, where the window passes 255 and the packet is before the passage. -/
theorem orderedPushFrom_high {left right : List Pkt} {pkt : Pkt}
    {waitedSeqNum realWindowSize : BitVec 8}
    (high : (waitedSeqNum.toNat : ℤ) ≥ 255 - ((realWindowSize.toNat : ℤ) - 1) ∧
      (pkt.seqNum.toNat : ℤ) ≥ 255 - ((realWindowSize.toNat : ℤ) - 1))
    (nonempty : left ++ right ≠ [])
    (below : ∀ node ∈ left, (node.seqNum.toNat : ℤ) ≥ 255 - ((realWindowSize.toNat : ℤ) - 1) ∧
      node.seqNum.toNat < pkt.seqNum.toNat)
    (above : ∀ node ∈ right, ¬((node.seqNum.toNat : ℤ) ≥ 255 - ((realWindowSize.toNat : ℤ) - 1) ∧
      node.seqNum.toNat < pkt.seqNum.toNat)) :
    orderedPushFrom (.ofNodes (left ++ right)) pkt waitedSeqNum realWindowSize []
      (left ++ right) = .ok (insertBetween left pkt right) := by
  rw [orderedPushFrom, if_pos high, skipNodes_append
    (fun node present => by simpa using below node present)
    (fun node present => by simpa using above node present)]
  cases right with
  | nil =>
      rw [List.append_nil] at nonempty
      simp only [List.nil_append]
      rw [if_neg nonempty, insertBetween_nil, Queue.size_ofNodes, List.append_nil,
        Queue.ofNodes_append]
  | cons node rest =>
      rw [insertBetween_cons]
      simp only [List.nil_append]
      by_cases taken : node.seqNum = pkt.seqNum
      · rw [if_pos taken.symm, if_pos taken]
      · rw [if_neg (Ne.symm taken), if_neg taken, Queue.size_ofNodes, Queue.ofNodes_insert]

/--
Insertion into a queue which is ordered inside a window of at most 31 numbers:
the packet goes between those at a smaller distance and those at a greater one.
-/
theorem queueOrderedPush_eq {left right : List Pkt} {pkt : Pkt}
    {waitedSeqNum realWindowSize : BitVec 8} (narrow : realWindowSize.toNat ≤ 31)
    (inside : Serial.dist waitedSeqNum pkt.seqNum < realWindowSize.toNat)
    (within : Within waitedSeqNum realWindowSize.toNat (left ++ right))
    (ordered : Ordered waitedSeqNum left)
    (below : ∀ node ∈ left,
      Serial.dist waitedSeqNum node.seqNum < Serial.dist waitedSeqNum pkt.seqNum)
    (above : ∀ node ∈ right,
      Serial.dist waitedSeqNum pkt.seqNum ≤ Serial.dist waitedSeqNum node.seqNum) :
    queueOrderedPush (.ofNodes (left ++ right)) (some pkt) waitedSeqNum realWindowSize =
      .ok (insertBetween left pkt right) := by
  have waitedBound := waitedSeqNum.isLt
  have pktNumber := seqNum_toNat waitedSeqNum pkt.seqNum
  have withinLeft : ∀ node ∈ left, Serial.dist waitedSeqNum node.seqNum < realWindowSize.toNat :=
    fun node present => within node (by simp [present])
  have withinRight : ∀ node ∈ right, Serial.dist waitedSeqNum node.seqNum < realWindowSize.toNat :=
    fun node present => within node (by simp [present])
  by_cases empty : left ++ right = []
  · rw [List.append_eq_nil_iff] at empty
    rcases empty with ⟨rfl, rfl⟩
    rfl
  · rw [queueOrderedPush]
    simp only
    rw [if_neg (mt Queue.size_ofNodes_eq_zero.mp empty)]
    by_cases passed : (waitedSeqNum.toNat : ℤ) ≥ 255 - ((realWindowSize.toNat : ℤ) - 1) ∧
        (pkt.seqNum.toNat : ℤ) < (realWindowSize.toNat : ℤ) - 1
    · rw [if_pos passed]
      -- The walk skips the packets before the passage, all of which are on the left.
      rcases ordered.split (256 - waitedSeqNum.toNat) with
        ⟨unwrapped, wrapped, rfl, unwrappedBelow, wrappedAbove⟩
      have skipped : skipNodes
          (fun node => node.seqNum.toNat ≥ 255 - ((realWindowSize.toNat : ℤ) - 1)) []
          (unwrapped ++ (wrapped ++ right)) = (unwrapped, wrapped ++ right) := by
        refine skipNodes_append ?_ ?_
        · intro node present
          have near := unwrappedBelow node present
          have nodeNumber := seqNum_toNat waitedSeqNum node.seqNum
          split at nodeNumber <;> simp <;> omega
        · intro node present
          have far : 256 - waitedSeqNum.toNat ≤ Serial.dist waitedSeqNum node.seqNum := by
            rcases List.mem_append.mp present with onLeft | onRight
            · exact wrappedAbove node onLeft
            · have nodeAbove := above node onRight
              split at pktNumber <;> omega
          have nodeWithin := within node (by simpa using .inr (List.mem_append.mp present))
          have nodeNumber := seqNum_toNat waitedSeqNum node.seqNum
          split at nodeNumber <;> simp <;> omega
      rw [List.append_assoc, Queue.nodes_ofNodes, skipped]
      cases behind : wrapped ++ right with
      | nil =>
          rw [List.append_eq_nil_iff] at behind
          rcases behind with ⟨rfl, rfl⟩
          simp only [List.append_nil] at empty ⊢
          rw [if_neg empty, insertBetween_nil, Queue.size_ofNodes, Queue.ofNodes_append]
      | cons node rest =>
          simp only
          rw [← behind]
          refine orderedPushFrom_plain (List.append_assoc _ _ _).symm (by omega)
            (by simp [behind]) ?_ ?_
          · intro node present
            have nodeBelow := below node (by simp [present])
            have nodeWithin := withinLeft node (by simp [present])
            have far := wrappedAbove node present
            have nodeNumber := seqNum_toNat waitedSeqNum node.seqNum
            split at pktNumber <;> split at nodeNumber <;> omega
          · intro node present
            have nodeAbove := above node present
            have nodeWithin := withinRight node present
            have nodeNumber := seqNum_toNat waitedSeqNum node.seqNum
            split at pktNumber <;> split at nodeNumber <;> omega
    · rw [if_neg passed]
      by_cases high : (waitedSeqNum.toNat : ℤ) ≥ 255 - ((realWindowSize.toNat : ℤ) - 1)
      · refine orderedPushFrom_high ⟨high, ?_⟩ empty ?_ ?_
        · split at pktNumber <;> omega
        · intro node present
          have nodeBelow := below node present
          have nodeNumber := seqNum_toNat waitedSeqNum node.seqNum
          split at pktNumber <;> split at nodeNumber <;> omega
        · intro node present
          have nodeAbove := above node present
          have nodeWithin := withinRight node present
          have nodeNumber := seqNum_toNat waitedSeqNum node.seqNum
          split at pktNumber <;> split at nodeNumber <;> omega
      · refine orderedPushFrom_plain (List.nil_append _).symm (by omega) empty ?_ ?_
        · intro node present
          have nodeBelow := below node present
          have nodeNumber := seqNum_toNat waitedSeqNum node.seqNum
          split at pktNumber <;> split at nodeNumber <;> omega
        · intro node present
          have nodeAbove := above node present
          have nodeWithin := withinRight node present
          have nodeNumber := seqNum_toNat waitedSeqNum node.seqNum
          split at pktNumber <;> split at nodeNumber <;> omega

/-- In an ordered queue, the nodes before a packet are those at a smaller distance. -/
theorem Ordered.filter_before {waitedSeqNum : BitVec 8} {left right : List Pkt} {pkt : Pkt}
    (ordered : Ordered waitedSeqNum (left ++ pkt :: right)) :
    (left ++ right).filter (fun node =>
      Serial.dist waitedSeqNum node.seqNum < Serial.dist waitedSeqNum pkt.seqNum) = left := by
  rcases List.pairwise_append.mp ordered with ⟨_, behind, before⟩
  rcases List.pairwise_cons.mp behind with ⟨larger, _⟩
  rw [List.filter_append, List.filter_eq_self.mpr, List.filter_eq_nil_iff.mpr, List.append_nil]
  · intro node present
    simpa using (larger node present).le
  · intro node present
    simpa using before node present pkt (by simp)

/-- There is one place at most where a packet keeps a queue ordered. -/
theorem Ordered.insert_unique {waitedSeqNum : BitVec 8} {left right others rest : List Pkt}
    {pkt : Pkt} (ordered : Ordered waitedSeqNum (left ++ pkt :: right))
    (orderedToo : Ordered waitedSeqNum (others ++ pkt :: rest))
    (same : others ++ rest = left ++ right) : others = left ∧ rest = right := by
  have front : others = left := by
    rw [← orderedToo.filter_before, same, ordered.filter_before]
  subst front
  exact ⟨rfl, List.append_cancel_left same⟩

theorem Ordered.insert {waitedSeqNum : BitVec 8} {left right : List Pkt} {pkt : Pkt}
    (ordered : Ordered waitedSeqNum (left ++ right))
    (below : ∀ node ∈ left,
      Serial.dist waitedSeqNum node.seqNum < Serial.dist waitedSeqNum pkt.seqNum)
    (above : ∀ node ∈ right,
      Serial.dist waitedSeqNum pkt.seqNum < Serial.dist waitedSeqNum node.seqNum) :
    Ordered waitedSeqNum (left ++ pkt :: right) := by
  rcases List.pairwise_append.mp ordered with ⟨leftOrdered, rightOrdered, across⟩
  apply List.pairwise_append.mpr
  refine ⟨leftOrdered, List.pairwise_cons.mpr ⟨above, rightOrdered⟩, ?_⟩
  intro node present other presentToo
  rcases List.mem_cons.mp presentToo with rfl | behind
  · exact below node present
  · exact across node present other behind

/-- In an ordered queue, a packet with the number is the first one at its distance. -/
theorem Ordered.head_of_mem {waitedSeqNum : BitVec 8} {far : List Pkt} {node : Pkt}
    (ordered : Ordered waitedSeqNum far) (present : node ∈ far)
    (nearest : ∀ other ∈ far,
      Serial.dist waitedSeqNum node.seqNum ≤ Serial.dist waitedSeqNum other.seqNum) :
    ∃ rest, far = node :: rest := by
  cases far with
  | nil => cases present
  | cons first rest =>
      rcases List.mem_cons.mp present with rfl | later
      · exact ⟨rest, rfl⟩
      · have smaller := (List.pairwise_cons.mp ordered).1 node later
        have notSmaller := nearest first (by simp)
        omega

/-- Insertion into an ordered queue refuses a packet whose number is taken. -/
theorem queueOrderedPush_taken {waitedSeqNum realWindowSize : BitVec 8} {queue : Queue}
    {pkt : Pkt} (narrow : realWindowSize.toNat ≤ 31) (consistent : queue.Consistent)
    (ordered : Ordered waitedSeqNum queue.nodes)
    (within : Within waitedSeqNum realWindowSize.toNat queue.nodes)
    (inside : Serial.dist waitedSeqNum pkt.seqNum < realWindowSize.toNat)
    (taken : ∃ node ∈ queue.nodes, node.seqNum = pkt.seqNum) :
    queueOrderedPush queue (some pkt) waitedSeqNum realWindowSize = .ok (-1, queue) := by
  rcases ordered.split (Serial.dist waitedSeqNum pkt.seqNum) with
    ⟨left, right, nodes, below, above⟩
  rcases taken with ⟨node, present, same⟩
  rw [nodes] at ordered within present
  have behind : node ∈ right := by
    rcases List.mem_append.mp present with near | far
    · have smaller := below node near
      rw [same] at smaller
      omega
    · exact far
  rcases List.pairwise_append.mp ordered with ⟨leftOrdered, rightOrdered, _⟩
  have pushes := queueOrderedPush_eq narrow inside within leftOrdered below above
  rcases Ordered.head_of_mem rightOrdered behind (fun other there => same ▸ above other there) with
    ⟨rest, rfl⟩
  rw [insertBetween_cons, if_pos same, ← nodes, ← consistent.eq_ofNodes] at pushes
  exact pushes

/--
Insertion into an ordered queue: a packet whose number is new goes to the only place
which keeps the queue ordered, and a packet whose number is taken is refused.
-/
theorem queueOrderedPush_inserts {waitedSeqNum realWindowSize : BitVec 8} {queue : Queue}
    {pkt : Pkt} (narrow : realWindowSize.toNat ≤ 31) (consistent : queue.Consistent)
    (ordered : Ordered waitedSeqNum queue.nodes)
    (within : Within waitedSeqNum realWindowSize.toNat queue.nodes)
    (inside : Serial.dist waitedSeqNum pkt.seqNum < realWindowSize.toNat) :
    ((∀ node ∈ queue.nodes, node.seqNum ≠ pkt.seqNum) →
      ∃ left right, queue.nodes = left ++ right ∧
        queueOrderedPush queue (some pkt) waitedSeqNum realWindowSize =
          .ok (0, ⟨left ++ pkt :: right, queue.size + 1⟩) ∧
        Ordered waitedSeqNum (left ++ pkt :: right) ∧
        ∀ others rest, queue.nodes = others ++ rest →
          Ordered waitedSeqNum (others ++ pkt :: rest) → others = left ∧ rest = right) ∧
    ((∃ node ∈ queue.nodes, node.seqNum = pkt.seqNum) →
      queueOrderedPush queue (some pkt) waitedSeqNum realWindowSize = .ok (-1, queue)) := by
  constructor
  · intro fresh
    rcases ordered.split (Serial.dist waitedSeqNum pkt.seqNum) with
      ⟨left, right, nodes, below, above⟩
    rw [nodes] at ordered within
    have pushes := queueOrderedPush_eq narrow inside within (List.pairwise_append.mp ordered).1
      below above
    rw [← nodes, ← consistent.eq_ofNodes] at pushes
    have beyond : ∀ node ∈ right,
        Serial.dist waitedSeqNum pkt.seqNum < Serial.dist waitedSeqNum node.seqNum := by
      intro node present
      apply lt_of_le_of_ne (above node present)
      intro same
      exact fresh node (by simp [nodes, present]) (Serial.dist_injective _ same.symm)
    have inserted := ordered.insert below beyond
    have free : ¬right.head?.map Pkt.seqNum = some pkt.seqNum := by
      intro taken
      rcases Option.map_eq_some_iff.mp taken with ⟨node, first, same⟩
      exact fresh node (by simp [nodes, List.mem_of_mem_head? first]) same
    refine ⟨left, right, nodes, ?_, inserted, ?_⟩
    · rw [pushes, insertBetween, if_neg free, consistent, nodes, Queue.ofNodes_insert]
    · intro others rest split orderedToo
      exact inserted.insert_unique orderedToo (split.symm.trans nodes)
  · exact queueOrderedPush_taken narrow consistent ordered within inside

/-- The window from 250 on passes 255; the numbers 253 and 2 are queued, and 255 arrives. -/
theorem queueOrderedPush_inserts_example :
    let queue := Queue.ofNodes [{ pktNew with seqNum := 253 }, { pktNew with seqNum := 2 }]
    let pkt := { pktNew with seqNum := 255 }
    ((∀ node ∈ queue.nodes, node.seqNum ≠ pkt.seqNum) →
      ∃ left right, queue.nodes = left ++ right ∧
        queueOrderedPush queue (some pkt) 250 31 =
          .ok (0, ⟨left ++ pkt :: right, queue.size + 1⟩) ∧
        Ordered 250 (left ++ pkt :: right) ∧
        ∀ others rest, queue.nodes = others ++ rest →
          Ordered 250 (others ++ pkt :: rest) → others = left ∧ rest = right) ∧
    ((∃ node ∈ queue.nodes, node.seqNum = pkt.seqNum) →
      queueOrderedPush queue (some pkt) 250 31 = .ok (-1, queue)) := by
  apply queueOrderedPush_inserts
  · decide
  · exact Queue.consistent_ofNodes _
  · simp [Ordered, Serial.dist]
  · simp [Within, Serial.dist]
  · decide

theorem consecutive_isPrefix (seqNum : BitVec 8) (nodes : List Pkt) :
    consecutive seqNum nodes <+: nodes := by
  induction nodes generalizing seqNum with
  | nil => exact List.prefix_refl _
  | cons pkt rest ih =>
      rw [consecutive]
      split
      · exact (List.prefix_cons_inj pkt).mpr (ih _)
      · exact List.nil_prefix

theorem map_pkt_writesOf (wr : ℕ → WriteOutcome) (earlier : ℕ) (pkts : List Pkt) :
    (writesOf wr earlier pkts).map Write.pkt = pkts := by
  induction pkts generalizing earlier with
  | nil => rfl
  | cons pkt rest ih => simp [writesOf, ih]

theorem writesOf_append (wr : ℕ → WriteOutcome) (earlier : ℕ) (first second : List Pkt) :
    writesOf wr earlier (first ++ second) = writesOf wr earlier first ++
      writesOf wr (earlier + first.length) second := by
  induction first generalizing earlier with
  | nil => rfl
  | cons pkt rest ih =>
      simp only [List.cons_append, writesOf, ih, List.length_cons]
      rw [Nat.add_assoc, Nat.add_comm 1]

theorem length_writesOf (wr : ℕ → WriteOutcome) (earlier : ℕ) (run : List Pkt) :
    (writesOf wr earlier run).length = run.length := by
  rw [← List.length_map Write.pkt, map_pkt_writesOf]

theorem lastTimeStampOf_cons (lastTimeStamp : BitVec 32) (pkt : Pkt) (rest : List Pkt) :
    lastTimeStampOf lastTimeStamp (pkt :: rest) = lastTimeStampOf pkt.timestamp rest := by
  cases rest with
  | nil => rfl
  | cons next others =>
      rw [lastTimeStampOf, lastTimeStampOf, List.getLast?_cons_cons]
      cases last : (next :: others).getLast? with
      | none => simp at last
      | some final => rfl

theorem payloadWriteLoop_eq (wr : ℕ → WriteOutcome) (nodes : List Pkt) (size : ℤ)
    (seqNum count : BitVec 8) (lastTimeStamp : BitVec 32) (writes : List Write) :
    payloadWriteLoop wr nodes size seqNum count lastTimeStamp writes =
      ⟨count + Serial.wire 8 (consecutive seqNum nodes).length,
        ⟨nodes.drop (consecutive seqNum nodes).length,
          size - (consecutive seqNum nodes).length⟩,
        lastTimeStampOf lastTimeStamp (consecutive seqNum nodes),
        writes ++ writesOf wr writes.length (consecutive seqNum nodes)⟩ := by
  induction nodes generalizing size seqNum count lastTimeStamp writes with
  | nil => simp [payloadWriteLoop, consecutive, lastTimeStampOf, writesOf, Serial.wire]
  | cons pkt rest ih =>
      rw [payloadWriteLoop, consecutive]
      split
      · rw [ih, lastTimeStampOf_cons]
        have counted : count + 1 + Serial.wire 8 (consecutive (seqNum + 1) rest).length =
            count + Serial.wire 8 ((consecutive (seqNum + 1) rest).length + 1) := by
          rw [Serial.wire_add, BitVec.add_assoc, BitVec.add_comm 1]
          rfl
        have shrunk : size - 1 - ((consecutive (seqNum + 1) rest).length : ℤ) =
            size - ((consecutive (seqNum + 1) rest).length + 1 : ℕ) := by
          push_cast
          omega
        rw [counted, shrunk]
        simp [writesOf]
      · simp [lastTimeStampOf, writesOf, Serial.wire]

/-- All consecutive packets are written, whatever the outcomes, and the others are kept. -/
theorem queuePayloadWrite_ofNodes (wr : ℕ → WriteOutcome) (nodes : List Pkt) (seqNum : BitVec 8)
    (lastTimeStamp : BitVec 32) (writes : List Write) :
    queuePayloadWrite wr (.ofNodes nodes) seqNum lastTimeStamp writes =
      ⟨Serial.wire 8 (consecutive seqNum nodes).length,
        .ofNodes (nodes.drop (consecutive seqNum nodes).length),
        lastTimeStampOf lastTimeStamp (consecutive seqNum nodes),
        writes ++ writesOf wr writes.length (consecutive seqNum nodes)⟩ := by
  have short := (consecutive_isPrefix seqNum nodes).length_le
  rw [queuePayloadWrite, payloadWriteLoop_eq]
  simp only [Queue.ofNodes, List.length_drop, Nat.cast_sub short]
  simp

end ReliableTransfer.QueueReceiver
