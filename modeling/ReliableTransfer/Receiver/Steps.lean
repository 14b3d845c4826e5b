import ReliableTransfer.Receiver.Basic

/-!
# What the receiver's steps do

The invariant `Receiver.Sound` says that the size fields agree with the lists, and
that whatever is queued as an acknowledgement is one. It is enough for the loop
never to fail. The loop sends acknowledgements without touching anything else
(`SameProgress`), and handles at most one datagram in each iteration.
-/

namespace ReliableTransfer.Receiver

open QueueReceiver

def IsAck (ack : Pkt) : Prop :=
  ∃ type trFlag seqNum timestamp, type ≠ 0 ∧ ack = newAck type trFlag seqNum timestamp

variable (crc32 : List Byte → BitVec 32)

/-- The encoding of an acknowledgement, with its mark cleared. -/
def ackBytes (ack : Pkt) : List Byte :=
  (clearMark ack).wireBytes crc32

/-- Sizes agree with lists, and acknowledgements are encoded as such. -/
structure Sound (receiver : Receiver) : Prop where
  pktQueue : receiver.pktQueue.Consistent
  ackQueue : receiver.ackQueue.Consistent
  acks : ∀ ack ∈ receiver.queued, IsAck ack
  encoded : ∀ sent ∈ receiver.sent, sent.bytes = ackBytes crc32 sent.ack

/-- Nothing has changed but the clock, the flags, and which acknowledgements have been sent. -/
structure SameProgress (before after : Receiver) : Prop where
  waitedSeqNum : after.waitedSeqNum = before.waitedSeqNum
  finalSeqNum : after.finalSeqNum = before.finalSeqNum
  lastTimeStamp : after.lastTimeStamp = before.lastTimeStamp
  isFinalSeqNum : after.isFinalSeqNum = before.isFinalSeqNum
  pktQueue : after.pktQueue = before.pktQueue
  writes : after.writes = before.writes
  queued : after.queued = before.queued

theorem SameProgress.refl (receiver : Receiver) : SameProgress receiver receiver :=
  ⟨rfl, rfl, rfl, rfl, rfl, rfl, rfl⟩

theorem SameProgress.trans {first second third : Receiver} (left : SameProgress first second)
    (right : SameProgress second third) : SameProgress first third where
  waitedSeqNum := right.waitedSeqNum.trans left.waitedSeqNum
  finalSeqNum := right.finalSeqNum.trans left.finalSeqNum
  lastTimeStamp := right.lastTimeStamp.trans left.lastTimeStamp
  isFinalSeqNum := right.isFinalSeqNum.trans left.isFinalSeqNum
  pktQueue := right.pktQueue.trans left.pktQueue
  writes := right.writes.trans left.writes
  queued := right.queued.trans left.queued

variable {crc32}

theorem sound_start (tpGlobal : Time) : (start tpGlobal).Sound crc32 where
  pktQueue := Queue.consistent_init
  ackQueue := Queue.consistent_init
  acks := by
    intro ack present
    simp [start, queued, queueInit] at present
  encoded := by
    intro sent present
    simp [start] at present

def afterSend (crc32 : List Byte → BitVec 32) (receiver : Receiver) (ack : Pkt)
    (rest : List Pkt) : Receiver :=
  { receiver with
    ackQueue := .ofNodes rest
    sent := receiver.sent ++ [⟨ack, ackBytes crc32 ack⟩] }

theorem sendAck_eq {ackBuf : Buffer ackSize} {receiver : Receiver} {ack : Pkt} {rest : List Pkt}
    (front : receiver.ackQueue = .ofNodes (ack :: rest)) (isAck : IsAck ack) :
    sendAck crc32 ackBuf receiver =
      .ok (if ack.trFlag = 1 then .returned .closed (receiver.afterSend crc32 ack rest)
        else .running (receiver.afterSend crc32 ack rest)) := by
  have length : (clearMark ack).length = 0 := by
    rcases isAck with ⟨type, trFlag, seqNum, timestamp, _, rfl⟩
    rfl
  have holds : (clearMark ack).HoldsPayload := .inl length
  have size : (clearMark ack).wireSize = 12 := by rw [Pkt.wireSize, if_pos length]
  have encoded := pktEncode_eq crc32 ackBuf.val ackSize holds (by rw [size]; decide)
    (by rw [size, ackBuf.property]; decide)
  have bytes := Pkt.length_wireBytes crc32 holds
  have full : (12 : ℕ) = ackSize := rfl
  rw [size, full] at encoded bytes
  have taken : ∀ rest : List Byte,
      ((clearMark ack).wireBytes crc32 ++ rest).take ackSize = ackBytes crc32 ack :=
    fun rest => List.take_left' bytes
  simp only [sendAck, front, Queue.pop_ofNodes_cons, bind, Except.bind, encoded, taken, ne_eq,
    not_true_eq_false, if_false]
  split
  · rfl
  · rfl

theorem sound_afterSend {receiver : Receiver} {ack : Pkt} {rest : List Pkt}
    (sound : receiver.Sound crc32) (front : receiver.ackQueue = .ofNodes (ack :: rest)) :
    (receiver.afterSend crc32 ack rest).Sound crc32 ∧
      SameProgress receiver (receiver.afterSend crc32 ack rest) := by
  have sameQueued : (receiver.afterSend crc32 ack rest).queued = receiver.queued := by
    simp [queued, afterSend, front]
  refine ⟨⟨sound.pktQueue, Queue.consistent_ofNodes rest, ?_, ?_⟩, ?_⟩
  · rw [sameQueued]
    exact sound.acks
  · intro sent present
    rcases List.mem_append.mp present with earlier | last
    · exact sound.encoded sent earlier
    · rw [List.mem_singleton.mp last]
  · exact ⟨rfl, rfl, rfl, rfl, rfl, rfl, sameQueued⟩

/-- The loop which sends acknowledgements ends, and does nothing else. -/
theorem sendAcks_spec (ackBuf : Buffer ackSize) {fuel : ℕ} {receiver : Receiver}
    (sound : receiver.Sound crc32) (enough : receiver.ackQueue.nodes.length ≤ fuel) :
    ∃ flow, sendAcks crc32 ackBuf fuel receiver = .ok flow ∧ flow.state.Sound crc32 ∧
      SameProgress receiver flow.state ∧ flow.state.received = receiver.received ∧
      flow.state.revents = receiver.revents := by
  induction fuel generalizing receiver with
  | zero =>
      have empty : receiver.ackQueue.nodes = [] := List.length_eq_zero_iff.mp (by omega)
      have size : receiver.ackQueue.size = 0 := by
        rw [sound.ackQueue, empty]
        rfl
      refine ⟨.running receiver, ?_, sound, .refl receiver, rfl, rfl⟩
      rw [sendAcks, if_neg (by simp [size])]
  | succ fuel ih =>
      rw [sendAcks]
      split
      · rename_i more
        cases front : receiver.ackQueue.nodes with
        | nil =>
            have size : receiver.ackQueue.size = 0 := by
              rw [sound.ackQueue, front]
              rfl
            omega
        | cons ack rest =>
            have asNodes : receiver.ackQueue = .ofNodes (ack :: rest) := by
              rw [sound.ackQueue.eq_ofNodes, front]
            have isAck : IsAck ack := sound.acks ack (by simp [queued, front])
            rcases sound_afterSend sound asNodes with ⟨soundNext, sameNext⟩
            simp only [sendAck_eq asNodes isAck, bind, Except.bind]
            by_cases last : ack.trFlag = 1
            · simp only [last, if_true]
              exact ⟨_, rfl, soundNext, sameNext, rfl, rfl⟩
            · simp only [last, if_false]
              rw [front, List.length_cons] at enough
              rcases ih soundNext (Nat.le_of_succ_le_succ enough) with
                ⟨flow, flows, soundLast, sameLast, receivedLast, reventsLast⟩
              exact ⟨flow, flows, soundLast, sameNext.trans sameLast, receivedLast, reventsLast⟩
      · exact ⟨.running receiver, rfl, sound, .refl receiver, rfl, rfl⟩

/-- The receiver after one more acknowledgement has been queued. -/
def afterAck (receiver : Receiver) (ack : Pkt) : Receiver :=
  { receiver with ackQueue := .ofNodes (receiver.ackQueue.nodes ++ [ack]) }

theorem queued_afterAck (receiver : Receiver) (ack : Pkt) :
    (receiver.afterAck ack).queued = receiver.queued ++ [ack] := by
  simp [queued, afterAck]

theorem queueAck_eq {receiver : Receiver} (consistent : receiver.ackQueue.Consistent)
    (type : BitVec 2) (trFlag : BitVec 1) (seqNum : BitVec 8) (timestamp : BitVec 32) :
    receiver.queueAck type trFlag seqNum timestamp =
      .ok (receiver.afterAck (newAck type trFlag seqNum timestamp)) := by
  rw [queueAck, queuePush, consistent.eq_ofNodes, Queue.pushOr_ofNodes]
  rfl

theorem sound_afterAck {receiver : Receiver} (sound : receiver.Sound crc32) {ack : Pkt}
    (isAck : IsAck ack) : (receiver.afterAck ack).Sound crc32 where
  pktQueue := sound.pktQueue
  ackQueue := Queue.consistent_ofNodes _
  acks := by
    intro other present
    rw [queued_afterAck] at present
    rcases List.mem_append.mp present with earlier | last
    · exact sound.acks other earlier
    · rw [List.mem_singleton.mp last]
      exact isAck
  encoded := sound.encoded

theorem Sound.of_same {before after : Receiver} (sound : before.Sound crc32)
    (pktQueue : after.pktQueue.Consistent) (ackQueue : after.ackQueue = before.ackQueue)
    (sent : after.sent = before.sent) : after.Sound crc32 where
  pktQueue := pktQueue
  ackQueue := by
    rw [ackQueue]
    exact sound.ackQueue
  acks := by
    rw [queued, sent, ackQueue]
    exact sound.acks
  encoded := by
    rw [sent]
    exact sound.encoded

theorem isAck_newAck {type : BitVec 2} (valid : type ≠ 0) (trFlag : BitVec 1) (seqNum : BitVec 8)
    (timestamp : BitVec 32) : IsAck (newAck type trFlag seqNum timestamp) :=
  ⟨type, trFlag, seqNum, timestamp, valid, rfl⟩

theorem deliver_eq {receiver : Receiver} {nodes : List Pkt}
    (queue : receiver.pktQueue = .ofNodes nodes) (wr : ℕ → WriteOutcome) :
    receiver.deliver wr =
      { receiver with
        pktQueue := .ofNodes (nodes.drop (consecutive receiver.waitedSeqNum nodes).length)
        waitedSeqNum := receiver.waitedSeqNum +
          Serial.wire 8 (consecutive receiver.waitedSeqNum nodes).length
        lastTimeStamp := lastTimeStampOf receiver.lastTimeStamp
          (consecutive receiver.waitedSeqNum nodes)
        writes := receiver.writes ++
          writesOf wr receiver.writes.length (consecutive receiver.waitedSeqNum nodes) } := by
  simp only [deliver, queue, queuePayloadWrite_ofNodes]

def afterClosing (receiver : Receiver) (timestamp : BitVec 32) : Receiver :=
  { receiver with waitedSeqNum := receiver.waitedSeqNum + 1 }.afterAck
    (newAck ptypeAck 1 (receiver.waitedSeqNum + 1) timestamp)

/-- The receiver after it has acknowledged a packet with a payload. -/
def afterDataAck (receiver : Receiver) : Receiver :=
  if receiver.AtEnd then receiver.afterClosing receiver.lastTimeStamp
  else receiver.afterAck (newAck ptypeAck 0 receiver.waitedSeqNum receiver.lastTimeStamp)

def withEnd (receiver : Receiver) (seqNum : BitVec 8) : Receiver :=
  { receiver with isFinalSeqNum := true, finalSeqNum := seqNum }

theorem handleEnd_eq {receiver : Receiver} (consistent : receiver.ackQueue.Consistent)
    (pkt : Pkt) :
    receiver.handleEnd pkt = .ok
      (if pkt.seqNum = receiver.waitedSeqNum then
        (receiver.withEnd pkt.seqNum).afterClosing pkt.timestamp
      else (receiver.withEnd pkt.seqNum).afterAck
        (newAck ptypeAck 0 receiver.waitedSeqNum pkt.timestamp)) := by
  rw [handleEnd]
  simp only
  split
  · apply queueAck_eq
    exact consistent
  · apply queueAck_eq
    exact consistent

theorem queueDataAck_eq {receiver : Receiver} (consistent : receiver.ackQueue.Consistent) :
    receiver.queueDataAck = .ok receiver.afterDataAck := by
  rw [queueDataAck, afterDataAck]
  split
  · apply queueAck_eq
    exact consistent
  · apply queueAck_eq
    exact consistent

/-- A packet whose number is taken is dropped; otherwise everything consecutive is delivered. -/
theorem handleData_eq {receiver : Receiver} (consistent : receiver.ackQueue.Consistent)
    (wr : ℕ → WriteOutcome) (pkt : Pkt) {code : ℤ} {queue : Queue}
    (pushes : queueOrderedPush receiver.pktQueue (some pkt) receiver.waitedSeqNum maxBufferSize =
      .ok (code, queue)) :
    receiver.handleData wr pkt = .ok
      (if code = 0 then { receiver with pktQueue := queue }.deliver wr
      else { receiver with pktQueue := queue }).afterDataAck := by
  simp only [handleData, pushes, bind, Except.bind]
  apply queueDataAck_eq
  split
  · exact consistent
  · exact consistent

/-- The receiver has handled a packet, but for its answer. -/
structure Prepared (wr : ℕ → WriteOutcome) (before middle : Receiver) : Prop where
  pktQueue : middle.pktQueue.Consistent
  ackQueue : middle.ackQueue = before.ackQueue
  sent : middle.sent = before.sent
  received : middle.received = before.received
  isFinalSeqNum : before.isFinalSeqNum = true → middle.isFinalSeqNum = true
  writes : ∃ run, middle.writes = before.writes ++ writesOf wr before.writes.length run

/-- The receiver has handled a packet, and has queued exactly one acknowledgement. -/
structure Answered (crc32 : List Byte → BitVec 32) (wr : ℕ → WriteOutcome)
    (before after : Receiver) : Prop where
  sound : after.Sound crc32
  received : after.received = before.received
  isFinalSeqNum : before.isFinalSeqNum = true → after.isFinalSeqNum = true
  writes : ∃ run, after.writes = before.writes ++ writesOf wr before.writes.length run
  queued : ∃ ack, after.queued = before.queued ++ [ack]

section Answers

variable {wr : ℕ → WriteOutcome} {before middle : Receiver}

theorem prepared_refl (sound : before.Sound crc32) : Prepared wr before before where
  pktQueue := sound.pktQueue
  ackQueue := rfl
  sent := rfl
  received := rfl
  isFinalSeqNum := id
  writes := ⟨[], by simp [writesOf]⟩

theorem answered_afterAck (sound : before.Sound crc32) (prepared : Prepared wr before middle)
    {type : BitVec 2} (valid : type ≠ 0) (trFlag : BitVec 1) (seqNum : BitVec 8)
    (timestamp : BitVec 32) :
    Answered crc32 wr before (middle.afterAck (newAck type trFlag seqNum timestamp)) where
  sound := sound_afterAck (sound.of_same prepared.pktQueue prepared.ackQueue prepared.sent)
    (isAck_newAck valid trFlag seqNum timestamp)
  received := prepared.received
  isFinalSeqNum := prepared.isFinalSeqNum
  writes := prepared.writes
  queued := by
    refine ⟨newAck type trFlag seqNum timestamp, ?_⟩
    rw [queued_afterAck, queued, queued, prepared.sent, prepared.ackQueue]

theorem answered_afterClosing (sound : before.Sound crc32) (prepared : Prepared wr before middle)
    (timestamp : BitVec 32) : Answered crc32 wr before (middle.afterClosing timestamp) := by
  rw [afterClosing]
  apply answered_afterAck sound
  · exact ⟨prepared.pktQueue, prepared.ackQueue, prepared.sent, prepared.received,
      prepared.isFinalSeqNum, prepared.writes⟩
  · exact ptypeAck_ne_zero

theorem answered_afterDataAck (sound : before.Sound crc32) (prepared : Prepared wr before middle) :
    Answered crc32 wr before middle.afterDataAck := by
  rw [afterDataAck]
  split
  · exact answered_afterClosing sound prepared _
  · exact answered_afterAck sound prepared ptypeAck_ne_zero _ _ _

/-- Whatever packet arrives, it is handled without a fault, and answered once. -/
theorem handlePacket_answered (sound : before.Sound crc32) (wr : ℕ → WriteOutcome) (pkt : Pkt) :
    ∃ after, before.handlePacket wr pkt = .ok after ∧ Answered crc32 wr before after := by
  have ackQueue := sound.ackQueue
  rw [handlePacket]
  split
  · exact ⟨_, queueAck_eq ackQueue _ _ _ _,
      answered_afterAck sound (prepared_refl sound) ptypeNack_ne_zero _ _ _⟩
  · split
    · split
      · refine ⟨_, handleEnd_eq ackQueue pkt, ?_⟩
        have prepared : Prepared wr before (before.withEnd pkt.seqNum) :=
          ⟨sound.pktQueue, rfl, rfl, rfl, fun _ => rfl, (prepared_refl sound).writes⟩
        split
        · exact answered_afterClosing sound prepared _
        · exact answered_afterAck sound prepared ptypeAck_ne_zero _ _ _
      · have total := queueOrderedPush_total before.pktQueue.nodes pkt before.waitedSeqNum
          maxBufferSize
        rw [← sound.pktQueue.eq_ofNodes] at total
        rcases total with ⟨left, right, _, pushes⟩ | ⟨_, pushes⟩
        · refine ⟨_, handleData_eq ackQueue wr pkt pushes, answered_afterDataAck sound ?_⟩
          rw [if_pos rfl, deliver_eq rfl]
          exact ⟨Queue.consistent_ofNodes _, rfl, rfl, rfl, id, _, rfl⟩
        · refine ⟨_, handleData_eq ackQueue wr pkt pushes, answered_afterDataAck sound ?_⟩
          rw [if_neg (by decide)]
          exact ⟨Queue.consistent_ofNodes _, rfl, rfl, rfl, id, (prepared_refl sound).writes⟩
    · exact ⟨_, queueAck_eq ackQueue _ _ _ _,
        answered_afterAck sound (prepared_refl sound) ptypeAck_ne_zero _ _ _⟩

theorem handleDecoded_answered (sound : before.Sound crc32) (wr : ℕ → WriteOutcome)
    (decoded : Except PktStatusCode Pkt) :
    ∃ after, before.handleDecoded wr decoded = .ok after ∧ Answered crc32 wr before after := by
  cases decoded with
  | error code =>
      exact ⟨_, queueAck_eq sound.ackQueue _ _ _ _,
        answered_afterAck sound (prepared_refl sound) ptypeAck_ne_zero _ _ _⟩
  | ok pkt => exact handlePacket_answered sound wr pkt

end Answers

/-- What an iteration of the loop does: at most, it handles one datagram. -/
inductive Iteration (crc32 : List Byte → BitVec 32) (input : ReceiverInput) (before : Receiver) :
    LoopFlow Receiver ReceiverExit → Prop where
  | idle (flow : LoopFlow Receiver ReceiverExit) (sound : flow.state.Sound crc32)
      (same : SameProgress before flow.state) (received : flow.state.received = before.received) :
      Iteration crc32 input before flow
  | read (data : List Byte) (fits : data.length ≤ maxPacketSize) (middle after : Receiver)
      (input_data : input.data = .bytes data fits) (nonempty : data ≠ [])
      (sound : middle.Sound crc32) (same : SameProgress before middle)
      (received : middle.received = before.received ++ [data])
      (handled : middle.handleDatagram crc32 input.wr data = .ok after) :
      Iteration crc32 input before (.running after)

theorem readPacket_iteration {input : ReceiverInput} {before receiver : Receiver}
    (sound : receiver.Sound crc32) (same : SameProgress before receiver)
    (received : receiver.received = before.received) :
    ∃ after, readPacket crc32 input receiver = .ok after ∧
      Iteration crc32 input before (.running after) := by
  have soundClock : { receiver with tpGlobal := input.readTime }.Sound crc32 :=
    sound.of_same sound.pktQueue rfl rfl
  have sameClock : SameProgress before { receiver with tpGlobal := input.readTime } :=
    same.trans ⟨rfl, rfl, rfl, rfl, rfl, rfl, rfl⟩
  rw [readPacket]
  simp only
  split
  · exact ⟨_, rfl, .idle _ soundClock sameClock received⟩
  · exact ⟨_, rfl, .idle _ soundClock sameClock received⟩
  · rename_i data fits nonempty dataRead
    have soundRead : { receiver with
        tpGlobal := input.readTime, received := receiver.received ++ [data] }.Sound crc32 :=
      sound.of_same sound.pktQueue rfl rfl
    rcases handleDecoded_answered soundRead input.wr (pktDecode crc32 true data pktNew) with
      ⟨after, handled, _⟩
    exact ⟨after, handled, .read data fits _ after dataRead nonempty soundRead
      (same.trans ⟨rfl, rfl, rfl, rfl, rfl, rfl, rfl⟩) (by rw [received]) handled⟩

/-- The body of the loop never fails, and does what an iteration does. -/
theorem readWriteLoop_iteration {receiver : Receiver} (sound : receiver.Sound crc32)
    (input : ReceiverInput) :
    ∃ flow, readWriteLoop crc32 input receiver = .ok flow ∧
      Iteration crc32 input receiver flow := by
  rw [readWriteLoop]
  split
  · exact ⟨_, rfl, .idle _ sound (.refl receiver) rfl⟩
  · have soundPoll : { receiver with revents := receiver.revents.after input.poll }.Sound crc32 :=
      sound.of_same sound.pktQueue rfl rfl
    have enough : receiver.ackQueue.nodes.length ≤ receiver.ackQueue.size.toNat :=
      sound.ackQueue.length_le
    rcases sendAcks_spec input.ackBuf soundPoll enough with
      ⟨flow, sends, soundSent, sameSent, receivedSent, _⟩
    have samePoll : SameProgress receiver
        { receiver with revents := receiver.revents.after input.poll } :=
      ⟨rfl, rfl, rfl, rfl, rfl, rfl, rfl⟩
    have same : SameProgress receiver flow.state := samePoll.trans sameSent
    simp only [sends, bind, Except.bind]
    cases flow with
    | returned reason after => exact ⟨_, rfl, .idle _ soundSent same receivedSent⟩
    | running after =>
        simp only
        split
        · obtain ⟨final, reads, iteration⟩ : ∃ final, readPacket crc32 input after = .ok final ∧
              Iteration crc32 input receiver (.running final) :=
            readPacket_iteration soundSent same receivedSent
          refine ⟨.running final, ?_, iteration⟩
          rw [reads]
          rfl
        · exact ⟨_, rfl, .idle _ soundSent same receivedSent⟩

/-- If the loop goes on, the socket is readable and `read` returns bytes, these are received. -/
theorem received_of_readable {receiver after : Receiver} (sound : receiver.Sound crc32)
    {input : ReceiverInput} (readable : (receiver.revents.after input.poll).pollin = true)
    {data : List Byte} {fits : data.length ≤ maxPacketSize} (nonempty : data ≠ [])
    (inputData : input.data = .bytes data fits)
    (moves : readWriteLoop crc32 input receiver = .ok (.running after)) :
    after.received = receiver.received ++ [data] := by
  have soundPoll : { receiver with revents := receiver.revents.after input.poll }.Sound crc32 :=
    sound.of_same sound.pktQueue rfl rfl
  have enough : receiver.ackQueue.nodes.length ≤ receiver.ackQueue.size.toNat :=
    sound.ackQueue.length_le
  rcases sendAcks_spec input.ackBuf soundPoll enough with
    ⟨flow, sends, soundSent, _, received, revents⟩
  rw [readWriteLoop] at moves
  split at moves
  · cases moves
  · simp only [sends, bind, Except.bind] at moves
    cases flow with
    | returned reason final => cases moves
    | running middle =>
        have pollin : middle.revents.pollin = true := by
          rw [LoopFlow.state_running] at revents
          rw [revents]
          exact readable
        have soundRead : { middle with
            tpGlobal := input.readTime, received := middle.received ++ [data] }.Sound crc32 :=
          soundSent.of_same soundSent.pktQueue rfl rfl
        rcases handleDecoded_answered soundRead input.wr (pktDecode crc32 true data pktNew) with
          ⟨final, handled, answered⟩
        have reads : readPacket crc32 input middle = .ok final := by
          cases data with
          | nil => exact absurd rfl nonempty
          | cons byte rest =>
              rw [readPacket]
              simp only [inputData]
              exact handled
        simp only [pollin, if_true, reads] at moves
        cases moves
        rw [answered.received]
        exact congrArg (· ++ [data]) received

end ReliableTransfer.Receiver
