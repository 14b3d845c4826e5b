import ReliableTransfer.Receiver.Steps
import ReliableTransfer.Packet.RoundTrip

/-!
# The answers of the receiver

What the receiver answers depends on the datagrams which it has read, and on
nothing else: not on the clock, on the results of `poll`, on when the
acknowledgements are sent, or on what the calls of `write` do. Handling the
datagrams one after the other (`handleAll`) is enough to know the answers. Each
datagram has one, and they are sent in this order.

The closing acknowledgement is sent at most once, and then the receiver returns:
the answers which are queued behind it are lost.
-/

namespace ReliableTransfer.Receiver

open QueueReceiver

variable (crc32 : List Byte → BitVec 32)

/-- Handle some datagrams, and do none of the other things which the loop does. -/
def handleAll (wr : ℕ → WriteOutcome) : List (List Byte) → Receiver → Except Fault Receiver
  | [], receiver => .ok receiver
  | data :: rest, receiver => do
      let receiver ← receiver.handleDatagram crc32 wr data
      handleAll wr rest receiver

/-- The variables on which the answers depend are the same, and so are the answers so far. -/
structure SameAnswers (left right : Receiver) : Prop where
  waitedSeqNum : right.waitedSeqNum = left.waitedSeqNum
  finalSeqNum : right.finalSeqNum = left.finalSeqNum
  lastTimeStamp : right.lastTimeStamp = left.lastTimeStamp
  isFinalSeqNum : right.isFinalSeqNum = left.isFinalSeqNum
  pktQueue : right.pktQueue = left.pktQueue
  delivered : right.writes.map Write.pkt = left.writes.map Write.pkt
  queued : right.queued = left.queued

theorem SameAnswers.trans {first second third : Receiver} (left : SameAnswers first second)
    (right : SameAnswers second third) : SameAnswers first third where
  waitedSeqNum := right.waitedSeqNum.trans left.waitedSeqNum
  finalSeqNum := right.finalSeqNum.trans left.finalSeqNum
  lastTimeStamp := right.lastTimeStamp.trans left.lastTimeStamp
  isFinalSeqNum := right.isFinalSeqNum.trans left.isFinalSeqNum
  pktQueue := right.pktQueue.trans left.pktQueue
  delivered := right.delivered.trans left.delivered
  queued := right.queued.trans left.queued

theorem SameProgress.sameAnswers {before after : Receiver} (same : SameProgress before after) :
    SameAnswers before after where
  waitedSeqNum := same.waitedSeqNum
  finalSeqNum := same.finalSeqNum
  lastTimeStamp := same.lastTimeStamp
  isFinalSeqNum := same.isFinalSeqNum
  pktQueue := same.pktQueue
  delivered := by rw [same.writes]
  queued := same.queued

theorem sameAnswers_start (tpGlobal other : Time) : SameAnswers (start tpGlobal) (start other) :=
  ⟨rfl, rfl, rfl, rfl, rfl, rfl, rfl⟩

namespace SameAnswers

variable {crc32} {left right left' right' : Receiver} {wr wr' : ℕ → WriteOutcome}

theorem afterAck (same : SameAnswers left right) (ack : Pkt) :
    SameAnswers (left.afterAck ack) (right.afterAck ack) where
  waitedSeqNum := same.waitedSeqNum
  finalSeqNum := same.finalSeqNum
  lastTimeStamp := same.lastTimeStamp
  isFinalSeqNum := same.isFinalSeqNum
  pktQueue := same.pktQueue
  delivered := same.delivered
  queued := by rw [queued_afterAck, queued_afterAck, same.queued]

theorem withEnd (same : SameAnswers left right) (seqNum : BitVec 8) :
    SameAnswers (left.withEnd seqNum) (right.withEnd seqNum) :=
  ⟨same.waitedSeqNum, rfl, same.lastTimeStamp, rfl, same.pktQueue, same.delivered, same.queued⟩

theorem afterClosing (same : SameAnswers left right) (timestamp : BitVec 32) :
    SameAnswers (left.afterClosing timestamp) (right.afterClosing timestamp) := by
  rw [Receiver.afterClosing, Receiver.afterClosing, same.waitedSeqNum]
  apply SameAnswers.afterAck
  exact ⟨rfl, same.finalSeqNum, same.lastTimeStamp, same.isFinalSeqNum, same.pktQueue,
    same.delivered, same.queued⟩

theorem atEnd_iff (same : SameAnswers left right) : right.AtEnd ↔ left.AtEnd := by
  rw [AtEnd, AtEnd, same.isFinalSeqNum, same.waitedSeqNum, same.finalSeqNum]

theorem inWindow_iff (same : SameAnswers left right) (pkt : Pkt) :
    right.inWindow pkt ↔ left.inWindow pkt := by
  rw [inWindow, inWindow, same.waitedSeqNum]

theorem afterDataAck (same : SameAnswers left right) :
    SameAnswers left.afterDataAck right.afterDataAck := by
  by_cases atEnd : left.AtEnd
  · rw [Receiver.afterDataAck, Receiver.afterDataAck, if_pos atEnd,
      if_pos (same.atEnd_iff.mpr atEnd), same.lastTimeStamp]
    exact same.afterClosing _
  · rw [Receiver.afterDataAck, Receiver.afterDataAck, if_neg atEnd,
      if_neg (mt same.atEnd_iff.mp atEnd), same.lastTimeStamp, same.waitedSeqNum]
    exact same.afterAck _

theorem withQueue (same : SameAnswers left right) (queue : Queue) :
    SameAnswers { left with pktQueue := queue } { right with pktQueue := queue } :=
  ⟨same.waitedSeqNum, same.finalSeqNum, same.lastTimeStamp, same.isFinalSeqNum, rfl,
    same.delivered, same.queued⟩

/-- The same packets are handed to `write`, whatever becomes of them. -/
theorem deliver (same : SameAnswers left right) (consistent : left.pktQueue.Consistent)
    (wr wr' : ℕ → WriteOutcome) : SameAnswers (left.deliver wr) (right.deliver wr') := by
  have leftNodes := consistent.eq_ofNodes
  have rightNodes := same.pktQueue.trans leftNodes
  rw [deliver_eq leftNodes, deliver_eq rightNodes, same.waitedSeqNum, same.lastTimeStamp]
  refine ⟨rfl, same.finalSeqNum, rfl, same.isFinalSeqNum, rfl, ?_, same.queued⟩
  simp only [List.map_append, map_pkt_writesOf, same.delivered]

theorem handleData (same : SameAnswers left right) (sound : left.Sound crc32)
    (sound' : right.Sound crc32) {pkt : Pkt} (handled : left.handleData wr pkt = .ok left')
    (handled' : right.handleData wr' pkt = .ok right') : SameAnswers left' right' := by
  have total := queueOrderedPush_total left.pktQueue.nodes pkt left.waitedSeqNum maxBufferSize
  rw [← sound.pktQueue.eq_ofNodes] at total
  obtain ⟨code, queue, consistent, pushes⟩ : ∃ code queue, queue.Consistent ∧
      queueOrderedPush left.pktQueue (some pkt) left.waitedSeqNum maxBufferSize =
        .ok (code, queue) := by
    rcases total with ⟨before, behind, _, pushes⟩ | ⟨_, pushes⟩
    · exact ⟨_, _, Queue.consistent_ofNodes _, pushes⟩
    · exact ⟨_, _, Queue.consistent_ofNodes _, pushes⟩
  have pushes' : queueOrderedPush right.pktQueue (some pkt) right.waitedSeqNum maxBufferSize =
      .ok (code, queue) := by
    rw [same.pktQueue, same.waitedSeqNum]
    exact pushes
  rw [handleData_eq sound.ackQueue wr pkt pushes] at handled
  rw [handleData_eq sound'.ackQueue wr' pkt pushes'] at handled'
  cases handled
  cases handled'
  apply SameAnswers.afterDataAck
  split
  · exact (same.withQueue queue).deliver consistent wr wr'
  · exact same.withQueue queue

theorem handlePacket (same : SameAnswers left right) (sound : left.Sound crc32)
    (sound' : right.Sound crc32) {pkt : Pkt} (handled : left.handlePacket wr pkt = .ok left')
    (handled' : right.handlePacket wr' pkt = .ok right') : SameAnswers left' right' := by
  rw [Receiver.handlePacket] at handled handled'
  by_cases truncated : pkt.trFlag = 1
  · rw [if_pos truncated, queueAck_eq sound.ackQueue] at handled
    rw [if_pos truncated, queueAck_eq sound'.ackQueue] at handled'
    cases handled
    cases handled'
    exact same.afterAck _
  · rw [if_neg truncated] at handled handled'
    by_cases inside : left.inWindow pkt
    · rw [if_pos inside] at handled
      rw [if_pos ((same.inWindow_iff pkt).mpr inside)] at handled'
      by_cases empty : pkt.length = 0
      · rw [if_pos empty, handleEnd_eq sound.ackQueue] at handled
        rw [if_pos empty, handleEnd_eq sound'.ackQueue, same.waitedSeqNum] at handled'
        cases handled
        cases handled'
        split
        · exact (same.withEnd _).afterClosing _
        · exact (same.withEnd _).afterAck _
      · rw [if_neg empty] at handled handled'
        exact same.handleData sound sound' handled handled'
    · rw [if_neg inside, queueAck_eq sound.ackQueue] at handled
      rw [if_neg (mt (same.inWindow_iff pkt).mp inside), queueAck_eq sound'.ackQueue,
        same.waitedSeqNum] at handled'
      cases handled
      cases handled'
      exact same.afterAck _

/-- The answer to a datagram depends only on the answers which have been given before. -/
theorem handleDatagram (same : SameAnswers left right) (sound : left.Sound crc32)
    (sound' : right.Sound crc32) {data : List Byte}
    (handled : left.handleDatagram crc32 wr data = .ok left')
    (handled' : right.handleDatagram crc32 wr' data = .ok right') : SameAnswers left' right' := by
  rw [Receiver.handleDatagram] at handled handled'
  cases decoded : pktDecode crc32 true data pktNew with
  | error code =>
      rw [decoded, handleDecoded, queueAck_eq sound.ackQueue] at handled
      rw [decoded, handleDecoded, queueAck_eq sound'.ackQueue, same.waitedSeqNum] at handled'
      cases handled
      cases handled'
      exact same.afterAck _
  | ok pkt =>
      rw [decoded] at handled handled'
      exact same.handlePacket sound sound' handled handled'

end SameAnswers

variable {crc32} {wr : ℕ → WriteOutcome} {origin receiver : Receiver}

theorem handleAll_append (first second : List (List Byte)) (receiver : Receiver) :
    handleAll crc32 wr (first ++ second) receiver =
      (handleAll crc32 wr first receiver).bind (handleAll crc32 wr second) := by
  induction first generalizing receiver with
  | nil => rfl
  | cons data rest ih =>
      simp only [List.cons_append, handleAll, bind]
      cases receiver.handleDatagram crc32 wr data with
      | error fault => rfl
      | ok next => exact ih next

theorem handleAll_concat {datagrams : List (List Byte)} {data : List Byte}
    {middle after : Receiver} (earlier : handleAll crc32 wr datagrams receiver = .ok middle)
    (handled : middle.handleDatagram crc32 wr data = .ok after) :
    handleAll crc32 wr (datagrams ++ [data]) receiver = .ok after := by
  rw [handleAll_append, earlier]
  change handleAll crc32 wr [data] middle = _
  rw [handleAll, handled]
  rfl

/-- The receiver has answered as if it had only handled what it has read. -/
structure Replays (crc32 : List Byte → BitVec 32) (wr : ℕ → WriteOutcome)
    (origin receiver : Receiver) : Prop where
  sound : receiver.Sound crc32
  counted : receiver.queued.length = receiver.received.length
  whole : ∃ ideal, handleAll crc32 wr receiver.received origin = .ok ideal ∧
    ideal.Sound crc32 ∧ SameAnswers ideal receiver
  parts : ∀ count ≤ receiver.received.length, ∃ ideal,
    handleAll crc32 wr (receiver.received.take count) origin = .ok ideal ∧
      ideal.queued = receiver.queued.take count

theorem replays_start (wr : ℕ → WriteOutcome) (tpGlobal other : Time) :
    Replays crc32 wr (start other) (start tpGlobal) where
  sound := sound_start tpGlobal
  counted := rfl
  whole := ⟨start other, rfl, sound_start other, sameAnswers_start other tpGlobal⟩
  parts := by
    intro count inside
    refine ⟨start other, ?_, ?_⟩
    · rw [show (start tpGlobal).received = [] from rfl, List.take_nil]
      rfl
    · rw [show (start tpGlobal).queued = [] from rfl, List.take_nil]
      rfl

theorem Replays.of_same {before after : Receiver} (replays : Replays crc32 wr origin before)
    (sound : after.Sound crc32) (same : SameProgress before after)
    (received : after.received = before.received) : Replays crc32 wr origin after where
  sound := sound
  counted := by
    rw [same.queued, received]
    exact replays.counted
  whole := by
    rcases replays.whole with ⟨ideal, handled, soundIdeal, agrees⟩
    rw [received]
    exact ⟨ideal, handled, soundIdeal, agrees.trans same.sameAnswers⟩
  parts := by
    rw [received, same.queued]
    exact replays.parts

theorem Replays.iteration {input : ReceiverInput} {before : Receiver}
    {flow : LoopFlow Receiver ReceiverExit} (replays : Replays crc32 wr origin before)
    (iteration : Iteration crc32 input before flow) : Replays crc32 wr origin flow.state := by
  cases iteration with
  | idle flow sound same received => exact replays.of_same sound same received
  | read data fits middle after input_data nonempty sound same received handled =>
      rcases handleDecoded_answered sound input.wr (pktDecode crc32 true data pktNew) with
        ⟨_, handled', answered⟩
      cases handled.symm.trans handled'
      rcases answered.queued with ⟨ack, queued⟩
      rw [same.queued] at queued
      have everything : after.received = before.received ++ [data] :=
        answered.received.trans received
      rcases replays.whole with ⟨ideal, earlier, soundIdeal, agrees⟩
      rcases handleDecoded_answered soundIdeal wr (pktDecode crc32 true data pktNew) with
        ⟨next, handledIdeal, answeredIdeal⟩
      have agreesNext : SameAnswers next after :=
        (agrees.trans same.sameAnswers).handleDatagram soundIdeal sound handledIdeal handled
      have complete := handleAll_concat earlier handledIdeal
      constructor
      · exact answered.sound
      · change after.queued.length = after.received.length
        rw [queued, everything, List.length_append, List.length_append, replays.counted]
        rfl
      · rw [LoopFlow.state_running, everything]
        exact ⟨next, complete, answeredIdeal.sound, agreesNext⟩
      · rw [LoopFlow.state_running, everything, queued]
        intro count inside
        rcases Nat.lt_or_ge before.received.length count with last | earlierCount
        · rw [List.length_append, List.length_singleton] at inside
          rw [List.take_of_length_le (by simp; omega),
            List.take_of_length_le (by simp [replays.counted]; omega), ← queued]
          exact ⟨next, complete, agreesNext.queued.symm⟩
        · rw [List.take_append_of_le_length earlierCount,
            List.take_append_of_le_length (by rw [replays.counted]; exact earlierCount)]
          exact replays.parts count earlierCount

theorem readWriteLoop_replays (replays : Replays crc32 wr origin receiver)
    (input : ReceiverInput) : ∃ flow, readWriteLoop crc32 input receiver = .ok flow ∧
      Replays crc32 wr origin flow.state := by
  rcases readWriteLoop_iteration replays.sound input with ⟨flow, moves, iteration⟩
  exact ⟨flow, moves, replays.iteration iteration⟩

/--
What has been sent has 12 bytes, and decodes to the acknowledgement which had been queued,
without its mark.
-/
theorem Sound.sent_decodes (sound : receiver.Sound crc32) {sent : SentAck}
    (present : sent ∈ receiver.sent) :
    sent.bytes.length = ackSize ∧
      ∃ pkt, pktDecode crc32 true sent.bytes pktNew = .ok pkt ∧ pkt.type = sent.ack.type ∧
        pkt.trFlag = 0 ∧ pkt.window = 31 ∧ pkt.seqNum = sent.ack.seqNum ∧
        pkt.timestamp = sent.ack.timestamp := by
  have queued : sent.ack ∈ receiver.queued := by
    rw [Receiver.queued, List.mem_append]
    exact .inl (List.mem_map_of_mem present)
  rcases sound.acks sent.ack queued with ⟨type, trFlag, seqNum, timestamp, valid, isAck⟩
  refine ⟨?_, (clearMark sent.ack).received crc32, ?_, ?_⟩
  · rw [sound.encoded sent present, ackBytes, isAck]
    exact Pkt.length_wireBytes crc32 (.inl rfl)
  · rw [sound.encoded sent present, ackBytes]
    apply pktDecode_wireBytes
    rw [isAck]
    exact ⟨valid, rfl, Nat.zero_le _, rfl⟩
  · rw [isAck]
    exact ⟨rfl, rfl, rfl, rfl, rfl⟩

/--
Every run of the receiver gives one answer to each datagram which it has read. The first answers
are those which it gives to the first datagrams when it does nothing else than to handle
these, whatever the clock, `poll` and `write` do in the run; and so are the packets
written. What has been sent are the first answers, in order, each as 12 bytes which decode
to the answer.
-/
theorem run_answers (tpGlobal other : Time) (wr : ℕ → WriteOutcome)
    (inputs : List ReceiverInput) :
    ∃ flow, Loop.run (readWriteLoop crc32) inputs (start tpGlobal) = .ok flow ∧
      flow.state.queued.length = flow.state.received.length ∧
      (∃ ideal, handleAll crc32 wr flow.state.received (start other) = .ok ideal ∧
        SameAnswers ideal flow.state) ∧
      (∀ count ≤ flow.state.received.length, ∃ ideal,
        handleAll crc32 wr (flow.state.received.take count) (start other) = .ok ideal ∧
          ideal.queued = flow.state.queued.take count) ∧
      flow.state.sent.map SentAck.ack <+: flow.state.queued ∧
      ∀ sent ∈ flow.state.sent, sent.bytes.length = ackSize ∧
        ∃ pkt, pktDecode crc32 true sent.bytes pktNew = .ok pkt ∧
          pkt.type = sent.ack.type ∧ pkt.trFlag = 0 ∧ pkt.window = 31 ∧
          pkt.seqNum = sent.ack.seqNum ∧ pkt.timestamp = sent.ack.timestamp := by
  rcases Loop.run_total readWriteLoop_replays inputs (replays_start wr tpGlobal other) with
    ⟨flow, runs, replays⟩
  rcases replays.whole with ⟨ideal, handled, _, agrees⟩
  exact ⟨flow, runs, replays.counted, ⟨ideal, handled, agrees⟩, replays.parts,
    List.prefix_append _ _, fun sent present => replays.sound.sent_decodes present⟩

end ReliableTransfer.Receiver
