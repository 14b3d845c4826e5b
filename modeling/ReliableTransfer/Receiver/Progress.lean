import ReliableTransfer.Receiver.Closing

/-!
# How the receiver makes progress

A datagram which arrives while the socket is not writable is handled, and its answer
is queued. As soon as the socket is writable the queue is sent, up to the first mark.
-/

namespace ReliableTransfer.Receiver

open QueueReceiver

variable {crc32 : List Byte → BitVec 32} {receiver : Receiver}

/-- An iteration in which a datagram arrives and cannot be answered. All writes are complete. -/
def deliverInput (receiver : Receiver) (data : ReadResult maxPacketSize) : ReceiverInput where
  tpNow := receiver.tpGlobal
  poll := .ready ⟨true, false⟩
  ackBuf := .zeros _
  data := data
  readTime := receiver.tpGlobal
  wr _ := .wrote maxPayloadSize

/-- The receiver when it handles the datagram. -/
def reading (receiver : Receiver) (data : List Byte) : Receiver :=
  { receiver with revents := ⟨true, false⟩, received := receiver.received ++ [data] }

theorem sound_reading (sound : receiver.Sound crc32) (data : List Byte) :
    (receiver.reading data).Sound crc32 :=
  sound.of_same sound.pktQueue rfl rfl

theorem sameProgress_reading (receiver : Receiver) (data : List Byte) :
    SameProgress receiver (receiver.reading data) :=
  ⟨rfl, rfl, rfl, rfl, rfl, rfl, rfl⟩

theorem deliver_running (sound : receiver.Sound crc32) {data : List Byte}
    {fits : data.length ≤ maxPacketSize} (nonempty : data ≠ []) :
    ∃ after, readWriteLoop crc32 (receiver.deliverInput (.bytes data fits)) receiver =
        .ok (.running after) ∧
      (receiver.reading data).handleDecoded (fun _ => .wrote maxPayloadSize)
        (pktDecode crc32 true data pktNew) = .ok after := by
  rcases handleDecoded_answered (sound_reading sound data) (fun _ => .wrote maxPayloadSize)
    (pktDecode crc32 true data pktNew) with ⟨after, handled, _⟩
  refine ⟨after, ?_, handled⟩
  have inTime : ¬timedOut (receiver.deliverInput (.bytes data fits)).tpNow receiver.tpGlobal =
      true := not_timedOut_self receiver.tpGlobal
  have reads : readPacket crc32 (receiver.deliverInput (.bytes data fits))
      { receiver with revents := ⟨true, false⟩ } = .ok after := by
    cases data with
    | nil => exact absurd rfl nonempty
    | cons byte rest => exact handled
  rw [readWriteLoop, if_neg inTime]
  change (sendAcks crc32 _ _ { receiver with revents := ⟨true, false⟩ }).bind _ = _
  rw [sendAcks_stop _ _ (by simp)]
  change (readPacket crc32 _ { receiver with revents := ⟨true, false⟩ }).bind _ = _
  rw [reads]
  rfl

/-- An iteration in which the socket is writable, but not readable. -/
def flushInput (receiver : Receiver) : ReceiverInput :=
  { receiver.deliverInput .failed with poll := .ready ⟨false, true⟩ }

/-- The receiver when the queue is sent. -/
def writing (receiver : Receiver) : Receiver :=
  { receiver with revents := ⟨false, true⟩ }

theorem flush_eq (receiver : Receiver) {flow : LoopFlow Receiver ReceiverExit}
    (sends : sendAcks crc32 (.zeros _) receiver.ackQueue.size.toNat receiver.writing = .ok flow)
    (notReadable : flow.state.revents.pollin = false) :
    readWriteLoop crc32 receiver.flushInput receiver = .ok flow := by
  have inTime : ¬timedOut receiver.flushInput.tpNow receiver.tpGlobal = true :=
    not_timedOut_self receiver.tpGlobal
  rw [readWriteLoop, if_neg inTime]
  change (sendAcks crc32 (.zeros _) receiver.ackQueue.size.toNat receiver.writing).bind _ = _
  rw [sends]
  cases flow with
  | returned reason after => rfl
  | running after =>
      rw [LoopFlow.state_running] at notReadable
      simp only [Except.bind, notReadable, Bool.false_eq_true, if_false]
      rfl

theorem map_ack_afterSends (receiver : Receiver) (acks rest : List Pkt) :
    (receiver.afterSends crc32 acks rest).sent.map SentAck.ack =
      receiver.sent.map SentAck.ack ++ acks := by
  rw [afterSends, List.map_append, List.map_map]
  congr 1
  exact List.map_id acks

/-- Everything which is queued is sent, unless something is marked. -/
theorem flush_cases (sound : receiver.Sound crc32) :
    (∃ after, readWriteLoop crc32 receiver.flushInput receiver = .ok (.running after) ∧
        after.sent.map SentAck.ack = receiver.queued) ∨
      ∃ after, readWriteLoop crc32 receiver.flushInput receiver = .ok (.returned .closed after) ∧
        receiver.sent.length < after.sent.length := by
  have soundWriting : receiver.writing.Sound crc32 :=
    sound.of_same sound.pktQueue rfl rfl
  have enough : receiver.writing.ackQueue.nodes.length ≤ receiver.ackQueue.size.toNat :=
    sound.ackQueue.length_le
  rcases none_or_first (fun ack => ack.trFlag = 1) receiver.ackQueue.nodes with
    none | ⟨acks, last, lost, nodes, none, marked⟩
  · have sends := sendAcks_unmarked (.zeros _) soundWriting rfl rfl none enough
    exact .inl ⟨_, flush_eq receiver sends rfl, map_ack_afterSends receiver.writing _ _⟩
  · rw [show receiver.writing.ackQueue.nodes = acks ++ last :: lost from nodes] at enough
    have sends := sendAcks_marked (.zeros _) soundWriting rfl nodes none marked enough
    refine .inr ⟨_, flush_eq receiver sends rfl, ?_⟩
    simp [afterSends, writing]

/-- What has been queued is never taken back. -/
theorem Iteration.queued_prefix {input : ReceiverInput} {flow : LoopFlow Receiver ReceiverExit}
    (iteration : Iteration crc32 input receiver flow) : receiver.queued <+: flow.state.queued := by
  cases iteration with
  | idle _ _ same =>
      refine ⟨[], ?_⟩
      rw [List.append_nil, same.queued]
  | read data fits middle after inputData nonempty sound same received handled =>
      rcases handleDecoded_answered sound input.wr (pktDecode crc32 true data pktNew) with
        ⟨_, again, answered⟩
      rw [handleDatagram, again] at handled
      cases handled
      rcases answered.queued with ⟨ack, queued⟩
      rw [LoopFlow.state_running, queued, same.queued]
      exact List.prefix_append _ _

theorem readPacket_sent {input : ReceiverInput} {after : Receiver} (sound : receiver.Sound crc32)
    (reads : readPacket crc32 input receiver = .ok after) : after.sent = receiver.sent := by
  rw [readPacket] at reads
  simp only at reads
  split at reads
  · cases reads
    rfl
  · cases reads
    rfl
  · rename_i data fits nonempty dataRead
    have soundRead : { receiver with
        tpGlobal := input.readTime, received := receiver.received ++ [data] }.Sound crc32 :=
      sound.of_same sound.pktQueue rfl rfl
    exact (handleDecoded_queuesOne soundRead reads).sent

/-- A writable socket takes the whole queue, unless a closing acknowledgement ends the loop. -/
theorem sendAcks_writable (ackBuf : Buffer ackSize) (sound : receiver.Sound crc32)
    (pollout : receiver.revents.pollout = true) :
    (∃ closed, sendAcks crc32 ackBuf receiver.ackQueue.size.toNat receiver =
        .ok (.returned .closed closed)) ∨
      ∃ after, sendAcks crc32 ackBuf receiver.ackQueue.size.toNat receiver =
          .ok (.running after) ∧ after.Sound crc32 ∧
        receiver.queued.length = after.sent.length := by
  have enough : receiver.ackQueue.nodes.length ≤ receiver.ackQueue.size.toNat :=
    sound.ackQueue.length_le
  rcases none_or_first (fun ack => ack.trFlag = 1) receiver.ackQueue.nodes with
    none | ⟨acks, last, lost, nodes, none, marked⟩
  · have sends := sendAcks_unmarked ackBuf sound pollout rfl none enough
    refine .inr ⟨_, sends, ?_, by simp [queued, afterSends]⟩
    rcases sendAcks_spec ackBuf sound enough with ⟨flow, same, soundSent, _⟩
    rw [sends] at same
    cases same
    exact soundSent
  · rw [nodes] at enough
    exact .inl ⟨_, sendAcks_marked ackBuf sound pollout nodes none marked enough⟩

/-- Whatever else an iteration does: if the socket is writable, the whole queue is sent. -/
theorem sent_of_writable {input : ReceiverInput} {after : Receiver}
    (sound : receiver.Sound crc32) (writable : Writable input)
    (moves : readWriteLoop crc32 input receiver = .ok (.running after)) :
    receiver.queued.length ≤ after.sent.length := by
  rcases writable with ⟨pollin, polled⟩
  have soundPoll : { receiver with revents := receiver.revents.after input.poll }.Sound crc32 :=
    sound.of_same sound.pktQueue rfl rfl
  have pollout : (receiver.revents.after input.poll).pollout = true := by
    rw [polled]
    rfl
  rw [readWriteLoop] at moves
  split at moves
  · cases moves
  · rcases sendAcks_writable input.ackBuf soundPoll pollout with
      ⟨closed, sends⟩ | ⟨middle, sends, soundSent, whole⟩
    · simp only [sends, bind, Except.bind] at moves
      cases moves
    · have sameQueued : receiver.queued.length = middle.sent.length := whole
      simp only [sends, bind, Except.bind] at moves
      rw [sameQueued]
      split at moves
      · cases reads : readPacket crc32 input middle with
        | error fault =>
            rw [reads] at moves
            cases moves
        | ok final =>
            rw [reads] at moves
            cases moves
            rw [readPacket_sent soundSent reads]
      · cases moves
        exact le_rfl

end ReliableTransfer.Receiver
