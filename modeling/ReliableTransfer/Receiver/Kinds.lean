import ReliableTransfer.Receiver.Arrival
import ReliableTransfer.Packet.Format

/-!
# Packets which are no data packets

The sender looks at the type of a packet before it handles it; the receiver does not. An
acknowledgement which arrives at the receiver is therefore handled like a data packet. This
does nothing only if the packet would have done nothing as a data packet either
(`Harmless`).
-/

namespace ReliableTransfer.Receiver

open QueueReceiver

/-- Nothing has been delivered or stored, the end is as it was, and the transfer is not closed. -/
structure Unaffected (before after : Receiver) : Prop where
  waitedSeqNum : after.waitedSeqNum = before.waitedSeqNum
  pktQueue : after.pktQueue = before.pktQueue
  isFinalSeqNum : after.isFinalSeqNum = before.isFinalSeqNum
  finalSeqNum : after.finalSeqNum = before.finalSeqNum
  written : after.written = before.written
  notClosing : ∀ ack ∈ after.queued.drop before.queued.length, ack.trFlag ≠ 1

/-- A packet with the number of this one waits in the queue. -/
def NumberQueued (receiver : Receiver) (pkt : Pkt) : Prop :=
  ∃ node ∈ receiver.pktQueue.nodes, node.seqNum = pkt.seqNum

/-- `queue_ordered_push` refuses the packet. -/
def Refuses (receiver : Receiver) (pkt : Pkt) : Prop :=
  queueOrderedPush receiver.pktQueue (some pkt) receiver.waitedSeqNum maxBufferSize =
    .ok (-1, receiver.pktQueue)

/--
The packet is outside of the window; or it repeats the recorded end, which has not been
reached; or its number is queued already, and the recorded end has not been reached.
Once the closing acknowledgement has been queued, further end packets move `waitedSeqNum` past
packets which still wait. Such a queue need not be in order, and `queue_ordered_push` may then
miss a queued number.
-/
def Harmless (receiver : Receiver) (pkt : Pkt) : Prop :=
  ¬receiver.inWindow pkt ∨
    (pkt.length = 0 ∧ receiver.isFinalSeqNum = true ∧ receiver.finalSeqNum = pkt.seqNum ∧
      pkt.seqNum ≠ receiver.waitedSeqNum) ∨
    (pkt.length ≠ 0 ∧ receiver.NumberQueued pkt ∧ ¬receiver.AtEnd ∧
      (receiver.ClosingQueued → receiver.Refuses pkt))

/-- The packets which wait are in order, and in the window. -/
structure InOrder (receiver : Receiver) : Prop where
  ordered : Ordered receiver.waitedSeqNum receiver.pktQueue.nodes
  within : Within receiver.waitedSeqNum maxBufferSize.toNat receiver.pktQueue.nodes

theorem Matches.inOrder {reference : Reference} {receiver : Receiver}
    (holds : Matches reference receiver) : receiver.InOrder where
  ordered := by
    rw [holds.waitedSeqNum, holds.pktQueue]
    exact reference.ordered_waiting
  within := by
    rw [holds.waitedSeqNum, holds.pktQueue]
    exact reference.within_waiting

theorem SameProgress.inOrder {before after : Receiver} (same : SameProgress before after)
    (inOrder : before.InOrder) : after.InOrder where
  ordered := by
    rw [same.waitedSeqNum, same.pktQueue]
    exact inOrder.ordered
  within := by
    rw [same.waitedSeqNum, same.pktQueue]
    exact inOrder.within

theorem add_ne_self {seqNum offset : BitVec 8} (moves : offset ≠ 0) : seqNum + offset ≠ seqNum := by
  intro same
  apply moves
  grind

theorem unaffected_afterAck (receiver : Receiver) (type : BitVec 2) (seqNum : BitVec 8)
    (timestamp : BitVec 32) :
    Unaffected receiver (receiver.afterAck (newAck type 0 seqNum timestamp)) where
  waitedSeqNum := rfl
  pktQueue := rfl
  isFinalSeqNum := rfl
  finalSeqNum := rfl
  written := rfl
  notClosing := by
    intro ack present
    rw [queued_afterAck, List.drop_left, List.mem_singleton] at present
    simp [present, newAck]

theorem waitedSeqNum_afterDataAck (receiver : Receiver) :
    receiver.afterDataAck.waitedSeqNum =
      receiver.waitedSeqNum + if receiver.AtEnd then 1 else 0 := by
  rw [afterDataAck]
  split
  · rfl
  · exact (BitVec.add_zero _).symm

theorem pktQueue_afterDataAck (receiver : Receiver) :
    receiver.afterDataAck.pktQueue = receiver.pktQueue := by
  rw [afterDataAck]
  split
  · rfl
  · rfl

section Handling

variable {crc32 : List Byte → BitVec 32} {receiver : Receiver} {pkt : Pkt}

theorem handleEnd_unaffected_iff (consistent : receiver.ackQueue.Consistent) (pkt : Pkt) :
    ∃ after, receiver.handleEnd pkt = .ok after ∧
      (Unaffected receiver after ↔
        receiver.isFinalSeqNum = true ∧ receiver.finalSeqNum = pkt.seqNum ∧
          pkt.seqNum ≠ receiver.waitedSeqNum) := by
  refine ⟨_, handleEnd_eq consistent pkt, ?_⟩
  split
  · rename_i waited
    refine iff_of_false ?_ (fun recorded => recorded.2.2 waited)
    intro unaffected
    exact add_ne_self (by decide) unaffected.waitedSeqNum
  · rename_i notWaited
    constructor
    · intro unaffected
      exact ⟨unaffected.isFinalSeqNum.symm, unaffected.finalSeqNum.symm, notWaited⟩
    · rintro ⟨isFinal, final, _⟩
      have same : receiver.withEnd pkt.seqNum = receiver := by
        rw [withEnd, ← isFinal, ← final]
      rw [same]
      exact unaffected_afterAck _ _ _ _

/-- A packet which is inserted moves the waited number, or makes the queue longer or shorter. -/
theorem handleData_affected {left right : List Pkt} {wr : ℕ → WriteOutcome}
    (nodes : receiver.pktQueue.nodes = left ++ right) :
    ¬Unaffected receiver
      ({ receiver with pktQueue := .ofNodes (left ++ pkt :: right) }.deliver wr).afterDataAck := by
  intro unaffected
  have queue := unaffected.pktQueue
  have waited := unaffected.waitedSeqNum
  rw [pktQueue_afterDataAck, deliver_eq rfl] at queue
  rw [waitedSeqNum_afterDataAck, deliver_eq rfl, BitVec.add_assoc] at waited
  have length := congrArg (fun queue => queue.nodes.length) queue
  simp only [Queue.nodes_ofNodes, nodes, List.length_drop, List.length_append,
    List.length_cons] at length
  have one : (consecutive receiver.waitedSeqNum (left ++ pkt :: right)).length = 1 := by
    have short := (consecutive_isPrefix receiver.waitedSeqNum (left ++ pkt :: right)).length_le
    rw [List.length_append, List.length_cons] at short
    omega
  refine add_ne_self ?_ waited
  rw [one]
  split
  · decide
  · decide

theorem handleData_unaffected_iff (sound : receiver.Sound crc32) (wr : ℕ → WriteOutcome)
    (pkt : Pkt) :
    ∃ after, receiver.handleData wr pkt = .ok after ∧
      (Unaffected receiver after ↔
        receiver.Refuses pkt ∧ ¬receiver.AtEnd) := by
  rw [Refuses]
  have total := queueOrderedPush_total receiver.pktQueue.nodes pkt receiver.waitedSeqNum
    maxBufferSize
  rw [← sound.pktQueue.eq_ofNodes] at total
  rcases total with ⟨left, right, nodes, pushes⟩ | ⟨_, pushes⟩
  · refine ⟨_, handleData_eq sound.ackQueue wr pkt pushes, ?_⟩
    rw [if_pos rfl, pushes]
    refine iff_of_false (handleData_affected nodes) ?_
    rintro ⟨refused, _⟩
    cases refused
  · rw [← sound.pktQueue.eq_ofNodes] at pushes
    refine ⟨_, handleData_eq sound.ackQueue wr pkt pushes, ?_⟩
    rw [if_neg (by decide), pushes]
    by_cases atEnd : receiver.AtEnd
    · refine iff_of_false ?_ (fun refused => refused.2 atEnd)
      intro unaffected
      have waited := unaffected.waitedSeqNum
      rw [waitedSeqNum_afterDataAck, if_pos atEnd] at waited
      exact add_ne_self (by decide) waited
    · refine iff_of_true ?_ ⟨rfl, atEnd⟩
      rw [afterDataAck, if_neg atEnd]
      exact unaffected_afterAck _ _ _ _

theorem numberQueued_of_refuses (consistent : receiver.pktQueue.Consistent)
    (refuses : receiver.Refuses pkt) : receiver.NumberQueued pkt := by
  have total := queueOrderedPush_total receiver.pktQueue.nodes pkt receiver.waitedSeqNum
    maxBufferSize
  rw [← consistent.eq_ofNodes] at total
  rcases total with ⟨left, right, _, pushes⟩ | ⟨taken, _⟩
  · rw [Refuses, pushes] at refuses
    cases refuses
  · exact taken

theorem refuses_iff (consistent : receiver.pktQueue.Consistent)
    (inOrder : ¬receiver.ClosingQueued → receiver.InOrder) (inside : receiver.inWindow pkt) :
    receiver.Refuses pkt ↔
      receiver.NumberQueued pkt ∧ (receiver.ClosingQueued → receiver.Refuses pkt) := by
  constructor
  · intro refuses
    exact ⟨numberQueued_of_refuses consistent refuses, fun _ => refuses⟩
  · rintro ⟨taken, closing⟩
    by_cases closed : receiver.ClosingQueued
    · exact closing closed
    · have order := inOrder closed
      have near := (receiver.inWindow_iff pkt).mp inside
      exact queueOrderedPush_taken (by decide) consistent order.ordered order.within
        (Nat.lt_succ_of_le near) taken

-- End packets have moved the window from 240 to 0: the number 3 is queued, and is not found.
example : queueOrderedPush (.ofNodes [{ pktNew with seqNum := 250 }, { pktNew with seqNum := 3 }])
    (some { pktNew with seqNum := 3 }) 0 maxBufferSize =
      .ok (0, .ofNodes [{ pktNew with seqNum := 3 }, { pktNew with seqNum := 250 },
        { pktNew with seqNum := 3 }]) := rfl

theorem handlePacket_unaffected_iff (sound : receiver.Sound crc32)
    (inOrder : ¬receiver.ClosingQueued → receiver.InOrder) (wr : ℕ → WriteOutcome)
    (complete : pkt.trFlag ≠ 1) :
    ∃ after, receiver.handlePacket wr pkt = .ok after ∧
      (Unaffected receiver after ↔ receiver.Harmless pkt) := by
  rw [handlePacket, if_neg complete, Harmless]
  by_cases inside : receiver.inWindow pkt
  · rw [if_pos inside]
    by_cases empty : pkt.length = 0
    · rw [if_pos empty]
      rcases handleEnd_unaffected_iff sound.ackQueue pkt with ⟨after, handled, iff⟩
      refine ⟨after, handled, iff.trans ?_⟩
      constructor
      · exact fun recorded => .inr (.inl ⟨empty, recorded⟩)
      · rintro (outside | ⟨_, recorded⟩ | ⟨nonempty, _⟩)
        · exact absurd inside outside
        · exact recorded
        · exact absurd empty nonempty
    · rw [if_neg empty]
      rcases handleData_unaffected_iff sound wr pkt with ⟨after, handled, iff⟩
      refine ⟨after, handled, iff.trans ?_⟩
      have taken_iff := refuses_iff sound.pktQueue inOrder inside
      constructor
      · rintro ⟨refuses, notAtEnd⟩
        rcases taken_iff.mp refuses with ⟨taken, closing⟩
        exact .inr (.inr ⟨empty, taken, notAtEnd, closing⟩)
      · rintro (outside | ⟨isEmpty, _⟩ | ⟨_, taken, notAtEnd, closing⟩)
        · exact absurd inside outside
        · exact absurd isEmpty empty
        · exact ⟨taken_iff.mpr ⟨taken, closing⟩, notAtEnd⟩
  · rw [if_neg inside]
    exact ⟨_, queueAck_eq sound.ackQueue _ _ _ _,
      iff_of_true (unaffected_afterAck _ _ _ _) (.inl inside)⟩

variable (crc32)

/--
The states in which a datagram is handled: an iteration has come to read it, and may have sent
acknowledgements before.
-/
def AtDatagram (origin : Receiver) (data : List Byte) (receiver : Receiver) : Prop :=
  ∃ (before : Receiver) (input : ReceiverInput) (polled : Receiver),
    Loop.Reachable (readWriteLoop crc32) origin before ∧
    sendAcks crc32 input.ackBuf before.ackQueue.size.toNat
      { before with revents := before.revents.after input.poll } = .ok (.running polled) ∧
    receiver =
      { polled with tpGlobal := input.readTime, received := polled.received ++ [data] }

theorem AtDatagram.sound_inOrder {tpGlobal : Time} {data : List Byte}
    (handled : AtDatagram crc32 (start tpGlobal) data receiver) :
    receiver.Sound crc32 ∧ (¬receiver.ClosingQueued → receiver.InOrder) := by
  rcases handled with ⟨before, input, polled, reached, sends, rfl⟩
  have follows := follows_of_reachable reached
  have sound := follows.sound
  have enough : before.ackQueue.nodes.length ≤ before.ackQueue.size.toNat :=
    sound.ackQueue.length_le
  have soundPoll : { before with revents := before.revents.after input.poll }.Sound crc32 :=
    sound.of_same sound.pktQueue rfl rfl
  rcases sendAcks_spec input.ackBuf soundPoll enough with ⟨flow, flows, soundSent, same, _⟩
  rw [sends] at flows
  cases flows
  refine ⟨soundSent.of_same soundSent.pktQueue rfl rfl, ?_⟩
  have sameRead : SameProgress before
      { polled with tpGlobal := input.readTime, received := polled.received ++ [data] } :=
    ⟨same.waitedSeqNum, same.finalSeqNum, same.lastTimeStamp, same.isFinalSeqNum, same.pktQueue,
      same.writes, same.queued⟩
  intro stillOpen
  rw [ClosingQueued, sameRead.queued] at stillOpen
  exact sameRead.inOrder (follows.matches_open stillOpen).2.inOrder

/--
An acknowledgement which arrives at the receiver leaves it unaffected exactly when it would
have done nothing as a data packet.
-/
theorem handleDatagram_unaffected_iff {tpGlobal : Time} {data : List Byte}
    (handled : AtDatagram crc32 (start tpGlobal) data receiver)
    (decodes : pktDecode crc32 true data pktNew = .ok pkt)
    (type : pkt.type = ptypeAck ∨ pkt.type = ptypeNack) (wr : ℕ → WriteOutcome) :
    ∃ after, handleDatagram crc32 wr receiver data = .ok after ∧
      (Unaffected receiver after ↔ receiver.Harmless pkt) := by
  have complete : pkt.trFlag ≠ 1 := by
    intro flag
    have isData := type_of_decoded crc32 decodes flag
    rcases type with isAck | isNack
    · rw [isData] at isAck
      cases isAck
    · rw [isData] at isNack
      cases isNack
  rw [handleDatagram, decodes]
  rcases handled.sound_inOrder with ⟨sound, inOrder⟩
  exact handlePacket_unaffected_iff sound inOrder wr complete

end Handling

/-- The first iteration, in which the socket is readable. -/
def readExample (data : List Byte) (fits : data.length ≤ maxPacketSize) : ReceiverInput where
  tpNow := 0
  poll := .ready ⟨true, false⟩
  ackBuf := .zeros _
  data := .bytes data fits
  readTime := 0
  wr _ := .failed

/-- The first datagram is being handled. -/
def firstExample (data : List Byte) : Receiver :=
  { start 0 with revents := ⟨true, false⟩, received := [data] }

theorem atDatagram_firstExample {data : List Byte} (fits : data.length ≤ maxPacketSize) :
    AtDatagram Crc.zlib (start 0) data (firstExample data) :=
  ⟨start 0, readExample data fits, { start 0 with revents := ⟨true, false⟩ },
    Loop.Reachable.refl, rfl, rfl⟩

/-- The `ACK` of the number 40, which is outside of the first window. -/
def strayExample : List Byte :=
  [0x9f, 40, 0, 0, 0, 0, 0, 0, 0x6f, 0xd0, 0x0e, 0xcf]

theorem handleDatagram_unaffected_example :
    ∃ after, handleDatagram Crc.zlib (fun _ => .failed) (firstExample strayExample) strayExample =
      .ok after ∧ (Unaffected (firstExample strayExample) after ↔
        (firstExample strayExample).Harmless
          { pktNew with type := ptypeAck, window := 31, seqNum := 40, crc1 := 0x6fd00ecf }) :=
  handleDatagram_unaffected_iff Crc.zlib (atDatagram_firstExample (by decide))
    (by decide +kernel) (.inl rfl) (fun _ => .failed)

/-- The first datagram is the `ACK` of the number 0: it ends the transfer. -/
theorem handleDatagram_ackCloses :
    ¬∀ receiver data, AtDatagram Crc.zlib (start 0) data receiver → ∀ pkt,
      pktDecode Crc.zlib true data pktNew = .ok pkt →
        pkt.type = ptypeAck ∨ pkt.type = ptypeNack → ∀ wr, ∃ after,
          handleDatagram Crc.zlib wr receiver data = .ok after ∧ Unaffected receiver after := by
  intro always
  have decodes : pktDecode Crc.zlib true [0x9f, 0, 0, 0, 0, 0, 0, 0, 0x93, 0x82, 0x79, 0x34]
      pktNew = .ok { pktNew with type := ptypeAck, window := 31, crc1 := 0x93827934 } := by
    decide +kernel
  rcases always _ _ (atDatagram_firstExample (by decide)) _ decodes (.inl rfl) (fun _ => .failed)
    with ⟨after, handles, unaffected⟩
  rw [handleDatagram, decodes] at handles
  cases handles
  cases unaffected.waitedSeqNum

end ReliableTransfer.Receiver
