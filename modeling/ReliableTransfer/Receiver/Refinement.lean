import ReliableTransfer.Receiver.Reference
import ReliableTransfer.Receiver.Steps

/-!
# The receiver refines the reference machine

The queue of the receiver is the list of the waiting packets of the reference
machine in the order of their positions, and `waitedSeqNum` is the wire number
of its next position. Since all waiting positions lie in a window of 31
positions, the order of the positions is that of the distances from
`waitedSeqNum`, by which the packets are inserted; and a run of consecutive wire
numbers at the head is a run of consecutive positions.
-/

namespace ReliableTransfer

open QueueReceiver

namespace Reference

variable (reference : Reference)

theorem mem_segment_dist {start stop : ℕ} {node : Pkt} (ahead : reference.assembly.next ≤ start)
    (near : stop ≤ reference.assembly.next + 256)
    (present : node ∈ reference.assembly.slots.segment start stop) :
    ∃ position, start ≤ position ∧ position < stop ∧
      Serial.dist (Serial.wire 8 reference.assembly.next) node.seqNum =
        position - reference.assembly.next := by
  rcases Slots.mem_segment.mp present with ⟨position, above, below, found⟩
  refine ⟨position, above, below, ?_⟩
  rw [(reference.numbered position node found).2]
  exact Serial.dist_wire_of_le (by omega) (by omega)

theorem ordered_segment {start stop : ℕ} (ahead : reference.assembly.next ≤ start)
    (near : stop ≤ reference.assembly.next + 256) :
    Ordered (Serial.wire 8 reference.assembly.next)
      (reference.assembly.slots.segment start stop) := by
  rw [Ordered, Slots.segment, List.pairwise_filterMap]
  apply List.Pairwise.imp_of_mem _ List.pairwise_lt_range'
  intro left right leftIn rightIn less leftPkt leftFound rightPkt rightFound
  rw [List.mem_range'_1] at leftIn rightIn
  rw [(reference.numbered _ _ leftFound).2, (reference.numbered _ _ rightFound).2,
    Serial.dist_wire_of_le (by omega) (by omega), Serial.dist_wire_of_le (by omega) (by omega)]
  omega

theorem consecutive_segment {slots : Slots Pkt} {start free stop : ℕ}
    (numbered : ∀ position pkt, slots.get position = some pkt →
      pkt.seqNum = Serial.wire 8 position)
    (taken : ∀ position, start ≤ position → position < free → slots.get position ≠ none)
    (isFree : slots.get free = none) (ahead : start ≤ free) (inside : free ≤ stop)
    (near : stop ≤ start + 256) :
    consecutive (Serial.wire 8 start) (slots.segment start stop) = slots.segment start free := by
  obtain ⟨count, rfl⟩ := Nat.exists_eq_add_of_le ahead
  induction count generalizing start with
  | zero =>
      rw [Nat.add_zero] at isFree inside ⊢
      rw [Slots.segment_self]
      cases waiting : slots.segment start stop with
      | nil => rfl
      | cons node rest =>
          have present : node ∈ slots.segment start stop := by simp [waiting]
          rcases Slots.mem_segment.mp present with ⟨position, above, below, found⟩
          have later : start ≠ position := by
            rintro rfl
            rw [isFree] at found
            cases found
          rw [consecutive, if_neg]
          rw [numbered _ _ found, Serial.wire_inj (by omega) (by omega)]
          exact later.symm
  | succ count ih =>
      cases found : slots.get start with
      | none => exact absurd found (taken start le_rfl (by omega))
      | some pkt =>
          have next : start + (count + 1) = start + 1 + count := by omega
          have takenNext : ∀ position, start + 1 ≤ position → position < start + 1 + count →
              slots.get position ≠ none := by
            intro position above below
            exact taken position (by omega) (by omega)
          have following := ih (by omega) takenNext (by rwa [← next]) (Nat.le_add_right _ _)
            (by omega)
          rw [Slots.segment_eq_cons (by omega) found, Slots.segment_eq_cons (by omega) found,
            consecutive, if_pos (numbered _ _ found), next, ← following, Serial.wire_add]
          rfl

theorem firstFree_le {slots : Slots Pkt} {start size : ℕ}
    (bounded : ∀ position pkt, slots.get position = some pkt → position < start + size) :
    slots.firstFree start ≤ start + size := by
  by_contra beyond
  have taken := Slots.taken_of_lt_firstFree (Nat.le_add_right start size) (Nat.lt_of_not_le beyond)
  cases found : slots.get (start + size) with
  | none => exact taken found
  | some pkt =>
      have inside := bounded _ _ found
      omega

theorem drop_segment {slots : Slots Pkt} {start size : ℕ}
    (bounded : ∀ position pkt, slots.get position = some pkt → position < start + size) :
    (slots.segment start (start + size)).drop
        (slots.segment start (slots.firstFree start)).length =
      (slots.dropBelow (slots.firstFree start)).segment (slots.firstFree start)
        (slots.firstFree start + size) := by
  have above := slots.le_firstFree start
  have inside := firstFree_le bounded
  have beyond : slots.segment (start + size) (slots.firstFree start + size) = [] := by
    apply Slots.segment_eq_nil
    intro position far _
    cases found : slots.get position with
    | none => rfl
    | some pkt =>
        have near := bounded _ _ found
        omega
  have rest : (slots.dropBelow (slots.firstFree start)).segment (slots.firstFree start)
      (slots.firstFree start + size) =
        slots.segment (slots.firstFree start) (slots.firstFree start + size) :=
    Slots.segment_congr fun position reached _ => Slots.get_dropBelow_of_le reached
  have window : slots.segment (slots.firstFree start) (slots.firstFree start + size) =
      slots.segment (slots.firstFree start) (start + size) := by
    rw [← Slots.segment_append slots inside (Nat.add_le_add_right above size), beyond,
      List.append_nil]
  rw [rest, window, ← Slots.segment_append slots above inside, List.drop_left]

theorem ordered_waiting : Ordered (Serial.wire 8 reference.assembly.next) reference.waiting :=
  reference.ordered_segment le_rfl (by omega)

theorem within_waiting :
    Within (Serial.wire 8 reference.assembly.next) maxBufferSize.toNat reference.waiting := by
  intro node present
  rcases reference.mem_segment_dist le_rfl (by omega) present with
    ⟨position, above, below, distance⟩
  have size : maxBufferSize.toNat = 31 := rfl
  omega

theorem queueOrderedPush_waiting {pkt : Pkt} (inside : reference.offset pkt ≤ 30) :
    queueOrderedPush (.ofNodes reference.waiting) (some pkt)
        (Serial.wire 8 reference.assembly.next) maxBufferSize =
      .ok (match reference.assembly.slots.get (reference.assembly.next + reference.offset pkt) with
        | none => (0, .ofNodes ((reference.slotsWith pkt).segment
            reference.assembly.next (reference.assembly.next + 31)))
        | some _ => (-1, .ofNodes reference.waiting)) := by
  have below : ∀ node ∈ reference.assembly.slots.segment reference.assembly.next
      (reference.assembly.next + reference.offset pkt),
      Serial.dist (Serial.wire 8 reference.assembly.next) node.seqNum < reference.offset pkt := by
    intro node present
    rcases reference.mem_segment_dist le_rfl (by omega) present with
      ⟨position, above, below, distance⟩
    omega
  have size : maxBufferSize.toNat = 31 := rfl
  have within := reference.within_waiting
  have pktWithin : Serial.dist (Serial.wire 8 reference.assembly.next) pkt.seqNum <
      maxBufferSize.toNat := Nat.lt_succ_of_le inside
  have ordered : Ordered (Serial.wire 8 reference.assembly.next)
      (reference.assembly.slots.segment reference.assembly.next
        (reference.assembly.next + reference.offset pkt)) :=
    reference.ordered_segment le_rfl (by omega)
  have behind : reference.assembly.next ≤ reference.assembly.next + reference.offset pkt :=
    Nat.le_add_right _ _
  have ahead : reference.assembly.next + reference.offset pkt < reference.assembly.next + 31 := by
    omega
  cases found : reference.assembly.slots.get
      (reference.assembly.next + reference.offset pkt) with
  | none =>
      have split : reference.waiting = _ := Slots.segment_split_free behind ahead found
      have above : ∀ node ∈ reference.assembly.slots.segment
          (reference.assembly.next + reference.offset pkt + 1) (reference.assembly.next + 31),
          reference.offset pkt <
            Serial.dist (Serial.wire 8 reference.assembly.next) node.seqNum := by
        intro node present
        rcases reference.mem_segment_dist (by omega) (by omega) present with
          ⟨position, above, below, distance⟩
        omega
      rw [split] at within ⊢
      rw [queueOrderedPush_eq size.le pktWithin within ordered below
        (fun node present => (above node present).le), slotsWith,
        Slots.segment_store behind ahead found, insertBetween, if_neg]
      intro same
      cases front : reference.assembly.slots.segment
          (reference.assembly.next + reference.offset pkt + 1) (reference.assembly.next + 31) with
      | nil =>
          rw [front] at same
          cases same
      | cons node rest =>
          have farther := above node (by simp [front])
          rw [front] at same
          simp only [List.head?_cons, Option.map_some, Option.some.injEq] at same
          rw [same] at farther
          exact Nat.lt_irrefl _ farther
  | some taken =>
      have sameNumber : taken.seqNum = pkt.seqNum := by
        rw [(reference.numbered _ _ found).2, reference.seqNum_eq pkt]
      have split : reference.waiting =
          reference.assembly.slots.segment reference.assembly.next
            (reference.assembly.next + reference.offset pkt) ++
          taken :: reference.assembly.slots.segment
            (reference.assembly.next + reference.offset pkt + 1)
            (reference.assembly.next + 31) := by
        rw [waiting, ← Slots.segment_append _ behind ahead.le, Slots.segment_eq_cons ahead found]
      have above : ∀ node ∈ taken :: reference.assembly.slots.segment
          (reference.assembly.next + reference.offset pkt + 1) (reference.assembly.next + 31),
          reference.offset pkt ≤
            Serial.dist (Serial.wire 8 reference.assembly.next) node.seqNum := by
        intro node present
        rcases List.mem_cons.mp present with rfl | later
        · rw [sameNumber]
          exact le_rfl
        · rcases reference.mem_segment_dist (by omega) (by omega) later with
            ⟨position, above, below, distance⟩
          omega
      rw [split] at within ⊢
      rw [queueOrderedPush_eq size.le pktWithin within ordered below above,
        insertBetween_cons, if_pos sameNumber]

end Reference

namespace Receiver

theorem inWindow_iff (receiver : Receiver) (pkt : Pkt) :
    receiver.inWindow pkt ↔ Serial.dist receiver.waitedSeqNum pkt.seqNum ≤ 30 := by
  have complement : (receiver.waitedSeqNum + maxBufferSize - 1) - pkt.seqNum =
      30 - (pkt.seqNum - receiver.waitedSeqNum) := by
    simp only [maxBufferSize]
    grind
  simp only [inWindow, complement, Serial.dist, BitVec.lt_def]
  have bound := (pkt.seqNum - receiver.waitedSeqNum).isLt
  constructor
  · rintro ⟨near, _⟩
    exact Nat.le_of_lt_succ near
  · intro near
    refine ⟨Nat.lt_succ_of_le near, ?_⟩
    have size : maxBufferSize.toNat = 31 := rfl
    have thirty : (30 : BitVec 8).toNat = 30 := rfl
    rw [BitVec.toNat_sub]
    omega

/-- The variables of the receiver represent the state of the reference machine. -/
structure Matches (reference : Reference) (receiver : Receiver) : Prop where
  waitedSeqNum : receiver.waitedSeqNum = Serial.wire 8 reference.assembly.next
  pktQueue : receiver.pktQueue = .ofNodes reference.waiting
  isFinalSeqNum : receiver.isFinalSeqNum = reference.endNum.isSome
  finalSeqNum : receiver.finalSeqNum = reference.endNum.getD 255
  delivered : receiver.writes.map Write.pkt = reference.assembly.delivered

namespace Matches

variable {reference : Reference} {receiver : Receiver}

theorem inWindow_iff (holds : Matches reference receiver) (pkt : Pkt) :
    receiver.inWindow pkt ↔ reference.offset pkt ≤ 30 := by
  rw [Receiver.inWindow_iff, holds.waitedSeqNum, Reference.offset]

theorem seqNum_eq_iff (holds : Matches reference receiver) (pkt : Pkt) :
    pkt.seqNum = receiver.waitedSeqNum ↔ reference.offset pkt = 0 := by
  rw [holds.waitedSeqNum, Reference.offset, Serial.dist_eq_zero_iff, eq_comm]

theorem atEnd_iff (holds : Matches reference receiver) :
    receiver.AtEnd ↔ reference.endNum = some (Serial.wire 8 reference.assembly.next) := by
  rw [AtEnd, holds.isFinalSeqNum, holds.finalSeqNum, holds.waitedSeqNum]
  cases reference.endNum with
  | none => simp
  | some seqNum => simp [eq_comm]

theorem deliver (holds : Matches reference receiver) (wr : ℕ → WriteOutcome) {pkt : Pkt}
    (inside : reference.offset pkt ≤ 30) :
    Matches (reference.store pkt inside)
      ({ receiver with
        pktQueue := .ofNodes ((reference.slotsWith pkt).segment reference.assembly.next
          (reference.assembly.next + 31)) }.deliver wr) := by
  have numbered := reference.numbered_slotsWith inside
  have bounded := fun position waiting found => (numbered position waiting found).1
  have taken : ∀ position, reference.assembly.next ≤ position →
      position < (reference.slotsWith pkt).firstFree reference.assembly.next →
        (reference.slotsWith pkt).get position ≠ none :=
    fun position above below => Slots.taken_of_lt_firstFree above below
  have ahead := (reference.slotsWith pkt).le_firstFree reference.assembly.next
  have run := Reference.consecutive_segment
    (fun position waiting found => (numbered position waiting found).2) taken
    (Slots.get_firstFree _ _) ahead (Reference.firstFree_le bounded) (by omega)
  have advance : reference.assembly.next + ((reference.slotsWith pkt).segment
      reference.assembly.next
        ((reference.slotsWith pkt).firstFree reference.assembly.next)).length =
      (reference.store pkt inside).assembly.next := by
    rw [Slots.length_segment ahead taken, Nat.add_sub_cancel' ahead]
    rfl
  rw [deliver_eq rfl]
  refine ⟨?_, ?_, holds.isFinalSeqNum, holds.finalSeqNum, ?_⟩
  · simp only [holds.waitedSeqNum, run]
    rw [← Serial.wire_add, advance]
  · simp only [holds.waitedSeqNum, run]
    rw [Reference.drop_segment bounded]
    rfl
  · simp only [holds.waitedSeqNum, run, List.map_append, map_pkt_writesOf, holds.delivered]
    rfl

theorem record (holds : Matches reference receiver) (seqNum : BitVec 8) :
    Matches { reference with endNum := some seqNum } (receiver.withEnd seqNum) where
  waitedSeqNum := holds.waitedSeqNum
  pktQueue := holds.pktQueue
  isFinalSeqNum := rfl
  finalSeqNum := rfl
  delivered := holds.delivered

theorem ack (holds : Matches reference receiver) : Matches reference.ack receiver where
  waitedSeqNum := holds.waitedSeqNum
  pktQueue := holds.pktQueue
  isFinalSeqNum := holds.isFinalSeqNum
  finalSeqNum := holds.finalSeqNum
  delivered := holds.delivered

theorem close (holds : Matches reference receiver) : Matches reference.close receiver where
  waitedSeqNum := holds.waitedSeqNum
  pktQueue := holds.pktQueue
  isFinalSeqNum := holds.isFinalSeqNum
  finalSeqNum := holds.finalSeqNum
  delivered := holds.delivered

end Matches

/--
How the receiver goes from one state to another while the reference machine
receives the same datagram. In each case `middle` is the receiver before it
queues its answer.
-/
inductive Lockstep (decoded : Except PktStatusCode Pkt) (reference next : Reference)
    (before : Receiver) : Receiver → Prop where
  | truncated (pkt : Pkt) (decodes : decoded = .ok pkt) (flag : pkt.trFlag = 1)
      (unchanged : next = reference) :
      Lockstep decoded reference next before
        (before.afterAck (newAck ptypeNack 0 pkt.seqNum pkt.timestamp))
  | acknowledged (middle : Receiver) (timestamp : BitVec 32) (stillOpen : next.closed = false)
      (acks : next.acks = reference.acks ++ [Serial.wire 8 next.assembly.next])
      (holds : Matches next middle) (ackQueue : middle.ackQueue = before.ackQueue)
      (sent : middle.sent = before.sent) :
      Lockstep decoded reference next before
        (middle.afterAck (newAck ptypeAck 0 middle.waitedSeqNum timestamp))
  | closes (middle : Receiver) (timestamp : BitVec 32) (closed : next.closed = true)
      (announced : next.endNum.isSome) (holds : Matches next middle)
      (ackQueue : middle.ackQueue = before.ackQueue) (sent : middle.sent = before.sent) :
      Lockstep decoded reference next before (middle.afterClosing timestamp)

variable {reference : Reference} {receiver : Receiver}

theorem lockstep_afterDataAck {decoded : Except PktStatusCode Pkt} {middle : Receiver}
    {stored : Reference} (stillOpen : stored.closed = false) (acks : stored.acks = reference.acks)
    (holds : Matches stored middle) (ackQueue : middle.ackQueue = receiver.ackQueue)
    (sent : middle.sent = receiver.sent) :
    Lockstep decoded reference
      (if stored.endNum = some (Serial.wire 8 stored.assembly.next) then stored.close
        else stored.ack) receiver middle.afterDataAck := by
  rw [afterDataAck]
  by_cases atEnd : middle.AtEnd
  · rw [if_pos atEnd, if_pos (holds.atEnd_iff.mp atEnd)]
    refine .closes middle _ rfl ?_ holds.close ackQueue sent
    rw [Reference.close, holds.atEnd_iff.mp atEnd]
    rfl
  · rw [if_neg atEnd, if_neg (mt holds.atEnd_iff.mpr atEnd)]
    refine .acknowledged middle _ stillOpen ?_ holds.ack ackQueue sent
    rw [Reference.ack, acks]

/-- Before the machine has closed, the receiver follows it. -/
theorem handleDecoded_lockstep (consistent : receiver.ackQueue.Consistent)
    (holds : Matches reference receiver) (stillOpen : reference.closed = false)
    (wr : ℕ → WriteOutcome) (decoded : Except PktStatusCode Pkt) :
    ∃ after, receiver.handleDecoded wr decoded = .ok after ∧
      Lockstep decoded reference (reference.receive decoded) receiver after := by
  cases decoded with
  | error code =>
      rw [Reference.receive_error stillOpen]
      exact ⟨_, queueAck_eq consistent _ _ _ _,
        .acknowledged receiver 0 stillOpen rfl holds.ack rfl rfl⟩
  | ok pkt =>
      rw [Reference.receive_ok stillOpen, Reference.accept, handleDecoded, handlePacket]
      by_cases flag : pkt.trFlag = 1
      · rw [if_pos flag, if_pos flag]
        exact ⟨_, queueAck_eq consistent _ _ _ _, .truncated pkt rfl flag rfl⟩
      · rw [if_neg flag, if_neg flag]
        by_cases inside : reference.offset pkt ≤ 30
        · rw [if_pos ((holds.inWindow_iff pkt).mpr inside), dif_pos inside]
          by_cases empty : pkt.length = 0
          · rw [if_pos empty, if_pos empty]
            refine ⟨_, handleEnd_eq consistent pkt, ?_⟩
            by_cases here : reference.offset pkt = 0
            · rw [if_pos here, if_pos ((holds.seqNum_eq_iff pkt).mpr here)]
              exact .closes _ _ rfl rfl (holds.record pkt.seqNum).close rfl rfl
            · rw [if_neg here, if_neg (mt (holds.seqNum_eq_iff pkt).mp here)]
              exact .acknowledged _ _ stillOpen rfl (holds.record pkt.seqNum).ack rfl rfl
          · rw [if_neg empty, if_neg empty]
            have pushes := reference.queueOrderedPush_waiting inside
            rw [← holds.waitedSeqNum, ← holds.pktQueue] at pushes
            cases found : reference.assembly.slots.get
                (reference.assembly.next + reference.offset pkt) with
            | none =>
                rw [found] at pushes
                refine ⟨_, handleData_eq consistent wr pkt pushes, ?_⟩
                rw [if_pos rfl]
                exact lockstep_afterDataAck stillOpen rfl (holds.deliver wr inside) rfl rfl
            | some taken =>
                rw [found] at pushes
                refine ⟨_, handleData_eq consistent wr pkt pushes, ?_⟩
                have dropped : (-1 : ℤ) ≠ 0 := by decide
                rw [reference.store_eq_self inside (by simp [found]), if_neg dropped]
                exact lockstep_afterDataAck stillOpen rfl holds rfl rfl
        · rw [if_neg (mt (holds.inWindow_iff pkt).mp inside), dif_neg inside]
          exact ⟨_, queueAck_eq consistent _ _ _ _,
            .acknowledged receiver _ stillOpen rfl holds.ack rfl rfl⟩

/-- The numbers of the acknowledgements queued so far. -/
def ackNums (receiver : Receiver) : List (BitVec 8) :=
  (receiver.queued.filter fun ack => ack.type = ptypeAck).map Pkt.seqNum

/-- The receiver's state, up to what it has queued, is the image of the reference machine's. -/
structure Image (reference : Reference) (receiver : Receiver) : Prop
    extends Matches reference receiver where
  acks : receiver.ackNums = reference.acks

variable (crc32 : List Byte → BitVec 32)

/-- The reference machine after some datagrams. -/
def referenceAfter (received : List (List Byte)) : Reference :=
  received.foldl (fun reference data => reference.receive (pktDecode crc32 true data pktNew))
    Reference.initial

theorem referenceAfter_append (received : List (List Byte)) (data : List Byte) :
    referenceAfter crc32 (received ++ [data]) =
      (referenceAfter crc32 received).receive (pktDecode crc32 true data pktNew) := by
  simp [referenceAfter]

/-- What the receiver and the reference machine have in common along every run. -/
structure Agrees (reference : Reference) (receiver : Receiver) : Prop where
  sound : receiver.Sound crc32
  closes : receiver.ClosingQueued ↔ reference.closed = true
  announced : reference.closed = true → receiver.isFinalSeqNum = true
  image : reference.closed = false → Image reference receiver

theorem queued_congr {before middle : Receiver} (ackQueue : middle.ackQueue = before.ackQueue)
    (sent : middle.sent = before.sent) : middle.queued = before.queued := by
  rw [queued, queued, ackQueue, sent]

theorem closingQueued_append {before after : Receiver} {ack : Pkt}
    (queued : after.queued = before.queued ++ [ack]) :
    after.ClosingQueued ↔ before.ClosingQueued ∨ ack.trFlag = 1 := by
  simp only [ClosingQueued, queued, List.mem_append, List.mem_singleton]
  constructor
  · rintro ⟨other, earlier | rfl, mark⟩
    · exact .inl ⟨other, earlier, mark⟩
    · exact .inr mark
  · rintro (⟨other, earlier, mark⟩ | mark)
    · exact ⟨other, .inl earlier, mark⟩
    · exact ⟨ack, .inr rfl, mark⟩

theorem ackNums_append {before after : Receiver} {ack : Pkt}
    (queued : after.queued = before.queued ++ [ack]) :
    after.ackNums = before.ackNums ++ if ack.type = ptypeAck then [ack.seqNum] else [] := by
  rw [ackNums, queued, List.filter_append, List.map_append, ackNums]
  by_cases isAck : ack.type = ptypeAck
  · simp [isAck]
  · simp [isAck]

theorem Image.of_same {before after : Receiver} (image : Image reference before)
    (same : SameProgress before after) : Image reference after where
  waitedSeqNum := same.waitedSeqNum.trans image.waitedSeqNum
  pktQueue := same.pktQueue.trans image.pktQueue
  isFinalSeqNum := same.isFinalSeqNum.trans image.isFinalSeqNum
  finalSeqNum := same.finalSeqNum.trans image.finalSeqNum
  delivered := by
    rw [same.writes]
    exact image.delivered
  acks := by
    rw [ackNums, same.queued]
    exact image.acks

variable {crc32}

theorem Agrees.of_same {before after : Receiver} (agrees : Agrees crc32 reference before)
    (sound : after.Sound crc32) (same : SameProgress before after) :
    Agrees crc32 reference after where
  sound := sound
  closes := by
    rw [ClosingQueued, same.queued]
    exact agrees.closes
  announced closed := by
    rw [same.isFinalSeqNum]
    exact agrees.announced closed
  image stillOpen := (agrees.image stillOpen).of_same same

/-- Handling a datagram keeps the receiver in agreement with the reference machine. -/
theorem Agrees.handle {after : Receiver} (agrees : Agrees crc32 reference receiver)
    (wr : ℕ → WriteOutcome) (decoded : Except PktStatusCode Pkt)
    (handled : receiver.handleDecoded wr decoded = .ok after) :
    Agrees crc32 (reference.receive decoded) after := by
  rcases handleDecoded_answered agrees.sound wr decoded with ⟨same, handles, answered⟩
  rw [handled] at handles
  cases handles
  cases closed : reference.closed with
  | true =>
      rw [Reference.receive_of_closed closed]
      rcases answered.queued with ⟨ack, queued⟩
      refine ⟨answered.sound, ?_, ?_, ?_⟩
      · rw [closingQueued_append queued]
        exact iff_of_true (.inl (agrees.closes.mpr closed)) closed
      · intro _
        exact answered.isFinalSeqNum (agrees.announced closed)
      · intro stillOpen
        rw [closed] at stillOpen
        cases stillOpen
  | false =>
      have image := agrees.image closed
      have notClosing : ¬receiver.ClosingQueued := by
        rw [agrees.closes, closed]
        simp
      rcases handleDecoded_lockstep agrees.sound.ackQueue image.toMatches closed wr decoded with
        ⟨same, handles, lockstep⟩
      rw [handled] at handles
      cases handles
      cases lockstep with
      | truncated pkt decodes flag unchanged =>
          have queued := receiver.queued_afterAck (newAck ptypeNack 0 pkt.seqNum pkt.timestamp)
          rw [unchanged]
          refine ⟨answered.sound, ?_, ?_, fun _ => ⟨⟨image.waitedSeqNum, image.pktQueue,
            image.isFinalSeqNum, image.finalSeqNum, image.delivered⟩, ?_⟩⟩
          · rw [closingQueued_append queued]
            simp [notClosing, closed, newAck]
          · simp [closed]
          · rw [ackNums_append queued, image.acks]
            simp [newAck, ptypeNack, ptypeAck]
      | acknowledged middle timestamp stillOpen acks holds ackQueue sent =>
          have queued := middle.queued_afterAck (newAck ptypeAck 0 middle.waitedSeqNum timestamp)
          rw [queued_congr ackQueue sent] at queued
          refine ⟨answered.sound, ?_, ?_, fun _ => ⟨⟨holds.waitedSeqNum, holds.pktQueue,
            holds.isFinalSeqNum, holds.finalSeqNum, holds.delivered⟩, ?_⟩⟩
          · rw [closingQueued_append queued]
            simp [notClosing, stillOpen, newAck]
          · simp [stillOpen]
          · rw [ackNums_append queued, image.acks, acks, holds.waitedSeqNum]
            simp [newAck]
      | closes middle timestamp closes announced holds ackQueue sent =>
          have queued := queued_afterAck { middle with waitedSeqNum := middle.waitedSeqNum + 1 }
            (newAck ptypeAck 1 (middle.waitedSeqNum + 1) timestamp)
          refine ⟨answered.sound, ?_, ?_, ?_⟩
          · rw [afterClosing, closingQueued_append queued]
            exact iff_of_true (.inr rfl) closes
          · intro _
            exact holds.isFinalSeqNum.trans announced
          · intro stillOpen
            rw [closes] at stillOpen
            cases stillOpen

/-- The receiver agrees with the reference machine which has received the same datagrams. -/
def Follows (crc32 : List Byte → BitVec 32) (receiver : Receiver) : Prop :=
  Agrees crc32 (referenceAfter crc32 receiver.received) receiver

theorem follows_start (tpGlobal : Time) : Follows crc32 (start tpGlobal) where
  sound := sound_start tpGlobal
  closes := by simp [ClosingQueued, queued, start, queueInit, referenceAfter, Reference.initial]
  announced := by simp [start, referenceAfter, Reference.initial]
  image _ := ⟨⟨rfl, rfl, rfl, rfl, rfl⟩, rfl⟩

theorem follows_iteration {input : ReceiverInput} {flow : LoopFlow Receiver ReceiverExit}
    (follows : receiver.Follows crc32) (iteration : Iteration crc32 input receiver flow) :
    flow.state.Follows crc32 := by
  rw [Follows] at follows ⊢
  cases iteration with
  | idle _ sound same received =>
      rw [received]
      exact follows.of_same sound same
  | read data fits middle after inputData nonempty sound same received handled =>
      rcases handleDecoded_answered sound input.wr (pktDecode crc32 true data pktNew) with
        ⟨again, handles, answered⟩
      rw [handleDatagram] at handled
      rw [handled] at handles
      cases handles
      rw [LoopFlow.state_running, answered.received, received, referenceAfter_append]
      exact (follows.of_same sound same).handle input.wr _ handled

theorem readWriteLoop_follows (follows : receiver.Follows crc32) (input : ReceiverInput) :
    ∃ flow, readWriteLoop crc32 input receiver = .ok flow ∧ flow.state.Follows crc32 := by
  rcases readWriteLoop_iteration follows.sound input with ⟨flow, flows, iteration⟩
  exact ⟨flow, flows, follows_iteration follows iteration⟩

/-- As long as the receiver has not closed, it is in the state of the reference machine. -/
theorem Follows.matches_open (follows : receiver.Follows crc32)
    (stillOpen : ¬receiver.ClosingQueued) :
    (referenceAfter crc32 receiver.received).closed = false ∧
      Matches (referenceAfter crc32 receiver.received) receiver := by
  rw [follows.closes] at stillOpen
  have notClosed := Bool.eq_false_iff.mpr stillOpen
  exact ⟨notClosed, (follows.image notClosed).toMatches⟩

variable (crc32)

/--
The receiver refines the reference machine. Its loop never fails; it queues the
closing acknowledgement when the machine closes, and before that its state is
the image of the machine's.
-/
theorem readWriteLoop_refines (tpGlobal : Time) (inputs : List ReceiverInput) :
    ∃ flow, Loop.run (readWriteLoop crc32) inputs (start tpGlobal) = .ok flow ∧
      (flow.state.ClosingQueued ↔
        (referenceAfter crc32 flow.state.received).closed = true) ∧
      ((referenceAfter crc32 flow.state.received).closed = false →
        Image (referenceAfter crc32 flow.state.received) flow.state) := by
  rcases Loop.run_total readWriteLoop_follows inputs (follows_start tpGlobal) with
    ⟨flow, runs, follows⟩
  exact ⟨flow, runs, follows.closes, follows.image⟩

end Receiver

end ReliableTransfer
