import ReliableTransfer.Sender.Scan

/-!
# What the sender's steps do

An iteration of the sender has three parts, any of which may do nothing: a new
packet is sent (`Sending`), a buffered packet is sent again (`Resending`), and a
packet decoded from the acknowledgement buffer is handled (`Answering`). The first
two come before the test of `POLLIN` (`untilRead`). Under the invariant
`Sender.Sound` the only fault is the one of the window test on an empty buffer.
-/

namespace ReliableTransfer.Sender

open QueueSender

section Parts

variable (crc32 : List Byte → BitVec 32)

/-- A new packet may be sent: the window has room, and the end packet has not been sent. -/
def HasRoom (sender : Sender) : Prop :=
  sender.bufStructure.size < sender.sizeBuffer ∧ sender.isLastAckNum = false

instance (sender : Sender) : Decidable sender.HasRoom :=
  inferInstanceAs (Decidable (_ ∧ _))

/-- The iteration comes to read the input. -/
def ReadsInput (sender : Sender) (input : SenderInput) : Prop :=
  timedOut input.tpNow sender.tpGlobal = false ∧
    (Revents.after ⟨false, false⟩ input.poll).pollout = true ∧ sender.HasRoom

instance (sender : Sender) (input : SenderInput) : Decidable (sender.ReadsInput input) :=
  inferInstanceAs (Decidable (_ ∧ _))

/-- The part of an iteration which reads the input and sends a new packet. -/
def send (input : SenderInput) (sender : Sender) : Except Fault Sender :=
  if input.newPayload.count = 0 then sendEnd crc32 input sender else sendData crc32 input sender

/--
An iteration up to its test of `POLLIN`, with the flags which are tested. The test is
skipped once the end packet has been sent, as if no flag were set.
-/
def untilRead (input : SenderInput) (sender : Sender) :
    Except Fault (LoopFlow (Revents × Sender) SenderExit) :=
  if timedOut input.tpNow sender.tpGlobal then .ok (.returned .timeout (⟨false, false⟩, sender))
  else
    match input.poll with
    | .failed => .ok (.returned .pollError (⟨false, false⟩, sender))
    | .ready revents =>
        if revents.pollout then
          if sender.HasRoom then do
            let sender ← send crc32 input sender
            if input.newPayload.count = 0 then return .running (⟨false, false⟩, sender)
            else resend crc32 input.scan revents sender
          else resend crc32 input.scan revents sender
        else .ok (.running (revents, sender))

/-- The rest of an iteration: an acknowledgement is read, if there is one. -/
def thenRead (input : SenderInput) :
    LoopFlow (Revents × Sender) SenderExit → Except Fault (LoopFlow Sender SenderExit)
  | .returned reason (_, sender) => .ok (.returned reason sender)
  | .running (revents, sender) =>
      if revents.pollin then readAck crc32 input sender else .ok (.running sender)

theorem readWriteLoop_eq (input : SenderInput) (sender : Sender) :
    readWriteLoop crc32 input sender =
      (untilRead crc32 input sender).bind (thenRead crc32 input) := by
  have resends (revents : Revents) (middle : Sender) :
      resendAndReadAck crc32 input revents middle =
        (resend crc32 input.scan revents middle).bind (thenRead crc32 input) := by
    rw [resendAndReadAck]
    cases resend crc32 input.scan revents middle with
    | error fault => rfl
    | ok flow =>
        cases flow with
        | returned => rfl
        | running => rfl
  rw [readWriteLoop, untilRead]
  by_cases late : timedOut input.tpNow sender.tpGlobal = true
  · rw [if_pos late, if_pos late]
    rfl
  · rw [if_neg late, if_neg late]
    cases input.poll with
    | failed => rfl
    | ready revents =>
        simp only
        by_cases pollout : revents.pollout = true
        · rw [if_pos pollout, if_pos pollout]
          by_cases room : sender.HasRoom
          · rw [if_pos (show _ ∧ _ from room), if_pos room, send]
            by_cases endOfInput : input.newPayload.count = 0
            · simp only [endOfInput, if_true]
              cases sendEnd crc32 input sender with
              | error fault => rfl
              | ok after => rfl
            · simp only [endOfInput, if_false]
              cases sendData crc32 input sender with
              | error fault => rfl
              | ok after => exact resends revents after
          · rw [if_neg (show ¬(_ ∧ _) from room), if_neg room]
            exact resends revents sender
        · rw [if_neg pollout, if_neg pollout]
          rfl

end Parts

variable (crc32 : List Byte → BitVec 32)

/-- The packet which announces the end of the input. -/
def endPkt (seqNum : BitVec 8) (stamp : Time) : Pkt :=
  { pktNew with type := ptypeData, seqNum := seqNum, timestamp := stamp.setWidth 32 }

/-- The packet with a payload which has been read from the input. -/
def dataPkt (data : List Byte) (seqNum : BitVec 8) (stamp : Time) : Pkt :=
  { pktNew with
    type := ptypeData
    window := 31
    seqNum := seqNum
    length := BitVec.ofNat 16 data.length
    timestamp := stamp.setWidth 32
    payload := some data }

theorem sendable_endPkt (seqNum : BitVec 8) (stamp : Time) : Sendable (endPkt seqNum stamp) :=
  ⟨.inl rfl, Nat.zero_le _⟩

theorem toNat_length {data : List Byte} (fits : data.length ≤ maxPayloadSize) :
    (BitVec.ofNat 16 data.length).toNat = data.length := by
  simp only [maxPayloadSize] at fits
  rw [BitVec.toNat_ofNat]
  omega

theorem sendable_dataPkt {data : List Byte} (fits : data.length ≤ maxPayloadSize)
    (seqNum : BitVec 8) (stamp : Time) : Sendable (dataPkt data seqNum stamp) where
  holds := .inr ⟨data, rfl, (toNat_length fits).le⟩
  short := (toNat_length fits).trans_le fits

/-- `create_packet` takes as many bytes from the block as have been read into it. -/
theorem createPacket_eq {data rest : List Byte} (fits : data.length ≤ maxPayloadSize)
    (seqNum : BitVec 8) (stamp : Time) :
    createPacket true true (data ++ rest) pktNew data.length seqNum stamp =
      .ok (some (dataPkt data seqNum stamp), seqNum + 1) := by
  have length := toNat_length fits
  have asInt : BitVec.ofInt 16 data.length = BitVec.ofNat 16 data.length := rfl
  have window : ¬(31 : BitVec 8).toNat > maxWindowSize := by decide
  have enough : ¬(data ++ rest).length < data.length := by simp
  have within : ¬data.length > maxPayloadSize := Nat.not_lt.mpr fits
  simp only [createPacket, pktSetType, pktSetTr, pktSetTimestamp, pktSetWindow, pktSetSeqnum,
    pktSetLength, pktSetPayload, asInt, length, window, enough, within, bind, Except.bind, pure,
    Except.pure, pktNew, if_false, ne_eq, not_true_eq_false, List.take_left, Bool.true_eq_false]
  rfl

/-- `create_packet` fails on the return value of a failed `read`, but takes a number. -/
theorem createPacket_failed (payload : List Byte) (seqNum : BitVec 8) (stamp : Time) :
    createPacket true true payload pktNew (-1) seqNum stamp = .ok (none, seqNum + 1) := by
  rfl

/-- The sender after a new packet has been buffered and sent. -/
def afterSend (sender : Sender) (pkt : Pkt) (isEnd : Bool) (sendTime : Time) : Sender :=
  { sender with
    tpGlobal := sendTime
    seqNum := sender.seqNum + 1
    isLastAckNum := isEnd
    bufStructure := .ofNodes (sender.bufStructure.nodes ++ [pkt.withCrcs crc32])
    sent := sender.sent ++ [pkt.wireBytes crc32] }

/-- The sender after a failed `read`: a number is lost, and the block is sent as it was. -/
def afterFailedRead (sender : Sender) (buf : Buffer maxPacketSize) (sendTime : Time) : Sender :=
  { sender with
    tpGlobal := sendTime
    seqNum := sender.seqNum + 1
    sent := sender.sent ++ [buf.val] }

theorem sendEnd_eq {sender : Sender} (consistent : sender.bufStructure.Consistent)
    (input : SenderInput) :
    sendEnd crc32 input sender = .ok
      (sender.afterSend crc32 (endPkt sender.seqNum input.stampTime) true input.sendTime) := by
  rcases pktEncode_sendable crc32 (sendable_endPkt sender.seqNum input.stampTime) input.buf with
    ⟨encoded, encodes, _, buffered, bytes⟩
  have start : (pktSetTimestamp (pktSetSeqnum (pktSetType pktNew ptypeData.toNat).2
      sender.seqNum).2 (input.stampTime.setWidth 32)).2 = endPkt sender.seqNum input.stampTime :=
    rfl
  have pushes := Queue.pushOr_ofNodes .danglingPointer sender.bufStructure.nodes
    ((endPkt sender.seqNum input.stampTime).withCrcs crc32)
  rw [← consistent.eq_ofNodes] at pushes
  simp only [sendEnd, start, encodes, buffered, queuePush, pushes, bytes, bind, Except.bind, pure,
    Except.pure]
  rfl

theorem sendData_eq {sender : Sender} (consistent : sender.bufStructure.Consistent)
    {input : SenderInput} {data : List Byte} {fits : data.length ≤ maxPayloadSize}
    (read : input.newPayload = .bytes data fits) (notEnd : sender.isLastAckNum = false) :
    sendData crc32 input sender = .ok
      (sender.afterSend crc32 (dataPkt data sender.seqNum input.stampTime) false
        input.sendTime) := by
  rcases pktEncode_sendable crc32 (sendable_dataPkt fits sender.seqNum input.stampTime) input.buf
    with ⟨encoded, encodes, _, buffered, bytes⟩
  have pushes := Queue.pushOr_ofNodes .danglingPointer sender.bufStructure.nodes
    ((dataPkt data sender.seqNum input.stampTime).withCrcs crc32)
  rw [← consistent.eq_ofNodes] at pushes
  have count : input.newPayload.count = data.length := by rw [read, ReadResult.count]
  have block : (input.payloadBuf.readInto input.newPayload).val =
      data ++ input.payloadBuf.val.drop data.length := by rw [read, Buffer.readInto]
  simp only [sendData, count, block, createPacket_eq fits, encodes, buffered, queuePush, pushes,
    bytes, bind, Except.bind, pure, Except.pure]
  rw [afterSend, ← notEnd]

theorem sendData_failed {sender : Sender} {input : SenderInput}
    (read : input.newPayload = .failed) :
    sendData crc32 input sender = .ok (sender.afterFailedRead input.buf input.sendTime) := by
  have block : input.buf.val.take maxPacketSize = input.buf.val :=
    List.take_of_length_le input.buf.property.le
  simp only [sendData, read, ReadResult.count, createPacket_failed, pktEncode, queuePush,
    queuePushOr, block, bind, Except.bind, pure, Except.pure]
  rfl

/-- How a new packet is sent, if it is. -/
inductive Sending (input : SenderInput) (before : Sender) : Sender → Prop where
  | nothing : Sending input before before
  | ended (room : before.bufStructure.size < before.sizeBuffer)
      (notEnd : before.isLastAckNum = false) (endOfInput : input.newPayload.count = 0) :
      Sending input before
        (before.afterSend crc32 (endPkt before.seqNum input.stampTime) true input.sendTime)
  | data (room : before.bufStructure.size < before.sizeBuffer)
      (notEnd : before.isLastAckNum = false) (data : List Byte)
      (fits : data.length ≤ maxPayloadSize) (read : input.newPayload = .bytes data fits)
      (nonempty : data ≠ []) :
      Sending input before
        (before.afterSend crc32 (dataPkt data before.seqNum input.stampTime) false input.sendTime)
  | failed (notEnd : before.isLastAckNum = false) (read : input.newPayload = .failed) :
      Sending input before (before.afterFailedRead input.buf input.sendTime)

/-- Some buffered packet has been sent again, or none. -/
inductive Resending (before : Sender) : Sender → Prop where
  | nothing : Resending before before
  | again (front : List Pkt) (pkt : Pkt) (back : List Pkt) (stamp : Time)
      (nodes : before.bufStructure.nodes = front ++ pkt :: back) :
      Resending before (before.afterResend crc32 front pkt back stamp)

/-- What has been sent in between is numbered inside the window, counted from a number on. -/
def SendsInWindow (oldest : BitVec 8) (before after : Sender) : Prop :=
  ∀ data ∈ after.sent.drop before.sent.length,
    Serial.dist oldest (data.getD 1 0) < before.sizeBuffer

theorem sendsInWindow_refl (oldest : BitVec 8) (sender : Sender) :
    SendsInWindow oldest sender sender := by
  intro data present
  simp at present

/-- The scan ends, and sends at most one of the packets, which is in the window. -/
theorem resend_spec {sender : Sender} (sound : sender.Sound) (scan : ℕ → ScanInput)
    (revents : Revents) :
    ∃ flow, resend crc32 scan revents sender = .ok flow ∧
      ((∃ revents, flow = .returned .pollError (revents, sender)) ∨
        ∃ revents after, flow = .running (revents, after) ∧ Resending crc32 sender after ∧
          ∀ head ∈ sender.bufStructure.nodes.head?,
            SendsInWindow head.seqNum sender after) := by
  refine ⟨_, resend_eq crc32 sound scan revents, ?_⟩
  rcases outcome : sender.scanned scan revents with ⟨result, polled⟩
  cases result with
  | nothing =>
      exact .inr ⟨polled, sender, rfl, .nothing,
        fun head _ => sendsInWindow_refl head.seqNum sender⟩
  | pollError => exact .inl ⟨polled, rfl⟩
  | again index =>
      rcases scanned_again outcome with ⟨front, pkt, back, nodes, rfl, near, _⟩
      refine .inr ⟨polled, _, rfl, ?_, ?_⟩
      · rw [resendAt_append crc32 _ nodes]
        exact .again front pkt back _ nodes
      · intro head first data present
        rw [resendAt_append crc32 _ nodes, afterResend, List.drop_left,
          List.mem_singleton] at present
        subst present
        exact near head first

/-- The variables which the acknowledgement handler sees once the buffer has been read into. -/
def afterRead (sender : Sender) (input : SenderInput) : Sender :=
  { sender with
    tpGlobal := input.ackTime
    bufAck := sender.bufAck.readInto input.ackRead }

/-- The packets from the head through the one with this number have been deleted. -/
def withRemaining (sender : Sender) (seqnumDelete : BitVec 8) : Sender :=
  { sender with
    bufStructure := .ofNodes (remaining seqnumDelete sender.bufStructure.nodes) }

/-- The two comparisons of the window test are one, as long as the window is narrow. -/
theorem distSup_lt {size : ℕ} (narrow : size ≤ 31) {head seqnumDelete : BitVec 8}
    (near : Serial.dist head seqnumDelete < size) :
    ((head + BitVec.ofNat 8 size - 1) - seqnumDelete).toNat < size := by
  have regroup : (head + BitVec.ofNat 8 size - 1) - seqnumDelete =
      BitVec.ofNat 8 size - 1 - (seqnumDelete - head) := by
    grind
  have edge : (BitVec.ofNat 8 size - 1).toNat = size - 1 := by
    rw [BitVec.toNat_sub, BitVec.toNat_ofNat, show (1 : BitVec 8).toNat = 1 from rfl]
    omega
  rw [Serial.dist] at near
  rw [regroup, BitVec.toNat_sub, edge]
  omega

theorem deleteAcked_eq {sender : Sender} {head : Pkt} {rest : List Pkt}
    (consistent : sender.bufStructure.Consistent)
    (nodes : sender.bufStructure.nodes = head :: rest) (narrow : sender.sizeBuffer ≤ 31)
    (seqnumDelete : BitVec 8) :
    sender.deleteAcked seqnumDelete = .ok
      (if Serial.dist head.seqNum seqnumDelete < sender.sizeBuffer
        then sender.withRemaining seqnumDelete else sender) := by
  have size : sender.bufStructure.size ≠ 0 := by
    rw [consistent, nodes]
    simp
    omega
  rcases queueDelete_ofNodes seqnumDelete sender.bufStructure.nodes with ⟨deleted, deletes⟩
  rw [← consistent.eq_ofNodes] at deletes
  rw [deleteAcked, nodes]
  simp only
  by_cases near : Serial.dist head.seqNum seqnumDelete < sender.sizeBuffer
  · rw [if_pos ⟨size, near, distSup_lt narrow near⟩, if_pos near]
    simp only [deletes, bind, Except.bind]
    rfl
  · rw [if_neg (fun passes => near passes.2.1), if_neg near]

def withWindow (sender : Sender) (pktAck : Pkt) : Sender :=
  { sender with sizeBuffer := pktAck.window.toNat }

/-- The sender which has recognized its first `ACK`, now or earlier. -/
def recognized (sender : Sender) (pktAck : Pkt) (timer : BitVec 32) : Sender :=
  { sender.withWindow pktAck with timer := timer, firstAck := false }

/-- What an `ACK` does, unless it fails. -/
inductive Acknowledging (pktAck : Pkt) (before : Sender) : Sender → Prop where
  | unknown (first : before.firstAck = true)
      (absent : ∀ pkt ∈ before.bufStructure.nodes, pkt.seqNum ≠ pktAck.seqNum - 1) :
      Acknowledging pktAck before (before.withWindow pktAck)
  | outside (timer : BitVec 32) (head : Pkt) (rest : List Pkt)
      (nodes : before.bufStructure.nodes = head :: rest)
      (far : pktAck.window.toNat ≤ Serial.dist head.seqNum (pktAck.seqNum - 1)) :
      Acknowledging pktAck before (before.recognized pktAck timer)
  | deletes (timer : BitVec 32) (head : Pkt) (rest : List Pkt)
      (nodes : before.bufStructure.nodes = head :: rest)
      (near : Serial.dist head.seqNum (pktAck.seqNum - 1) < pktAck.window.toNat)
      (known : before.firstAck = true →
        ∃ pkt ∈ before.bufStructure.nodes, pkt.seqNum = pktAck.seqNum - 1) :
      Acknowledging pktAck before
        ((before.recognized pktAck timer).withRemaining (pktAck.seqNum - 1))

theorem window_narrow (pkt : Pkt) : pkt.window.toNat ≤ 31 :=
  Nat.le_of_lt_succ pkt.window.isLt

theorem deleteAcked_acknowledging {sender : Sender} {head : Pkt} {rest : List Pkt} {pktAck : Pkt}
    (consistent : sender.bufStructure.Consistent)
    (nodes : sender.bufStructure.nodes = head :: rest) (timer : BitVec 32)
    (known : sender.firstAck = true →
      ∃ pkt ∈ sender.bufStructure.nodes, pkt.seqNum = pktAck.seqNum - 1) :
    ∃ after, (sender.recognized pktAck timer).deleteAcked (pktAck.seqNum - 1) = .ok after ∧
      Acknowledging pktAck sender after := by
  have sameConsistent : (sender.recognized pktAck timer).bufStructure.Consistent := consistent
  rw [deleteAcked_eq sameConsistent nodes (window_narrow pktAck) (pktAck.seqNum - 1)]
  by_cases near : Serial.dist head.seqNum (pktAck.seqNum - 1) < pktAck.window.toNat
  · refine ⟨_, rfl, ?_⟩
    rw [if_pos (show _ < (sender.recognized pktAck timer).sizeBuffer from near)]
    exact .deletes timer head rest nodes near known
  · refine ⟨_, rfl, ?_⟩
    rw [if_neg (show ¬_ < (sender.recognized pktAck timer).sizeBuffer from near)]
    exact .outside timer head rest nodes (Nat.le_of_not_lt near)

/-- The handler fails only when it has recognized an `ACK` before, and the buffer is empty. -/
theorem handleAck_spec {sender : Sender} (consistent : sender.bufStructure.Consistent)
    (rttTime : Time) (pktAck : Pkt) :
    (sender.firstAck = false ∧ sender.bufStructure.nodes = [] ∧
        sender.handleAck rttTime pktAck = .error .headOfEmptyBuffer) ∨
      ∃ after, sender.handleAck rttTime pktAck = .ok after ∧
        Acknowledging pktAck sender after := by
  rw [handleAck]
  simp only
  by_cases first : sender.firstAck = true
  · right
    rw [if_pos first]
    cases search : queueFindAckStructure sender.bufStructure (pktAck.seqNum - 1) with
    | none =>
        refine ⟨_, rfl, .unknown first ?_⟩
        intro pkt present same
        have different := List.find?_eq_none.mp search pkt present
        simp [same] at different
    | some timePkt =>
        have present := List.mem_of_find?_eq_some search
        have found := List.find?_some search
        simp only [decide_eq_true_eq] at found
        cases nodes : sender.bufStructure.nodes with
        | nil =>
            rw [nodes] at present
            cases present
        | cons head rest =>
            exact deleteAcked_acknowledging consistent nodes _ fun _ => ⟨timePkt, present, found⟩
  · have seen : sender.firstAck = false := Bool.eq_false_of_not_eq_true first
    rw [if_neg first]
    cases nodes : sender.bufStructure.nodes with
    | nil =>
        left
        refine ⟨seen, rfl, ?_⟩
        rw [deleteAcked]
        simp only [nodes]
    | cons head rest =>
        right
        have same : sender.recognized pktAck sender.timer = sender.withWindow pktAck := by
          rw [recognized, ← seen]
          rfl
        change ∃ after, (sender.withWindow pktAck).deleteAcked (pktAck.seqNum - 1) = .ok after ∧ _
        rw [← same]
        exact deleteAcked_acknowledging consistent nodes sender.timer
          (fun earlier => absurd earlier first)

/-- The test by which the loop ends: the end has been sent, and the next number comes back. -/
def EndsTransfer (sender : Sender) (pktAck : Pkt) : Prop :=
  sender.isLastAckNum = true ∧ pktAck.seqNum = sender.seqNum

/-- What handling a decoded packet does. -/
inductive Answering (pktAck : Pkt) (before : Sender) :
    Except Fault (LoopFlow Sender SenderExit) → Prop where
  | ends (last : before.EndsTransfer pktAck) :
      Answering pktAck before (.ok (.returned .lastAck before))
  | fault (notLast : ¬before.EndsTransfer pktAck) (type : pktAck.type = ptypeAck)
      (seen : before.firstAck = false) (empty : before.bufStructure.nodes = []) :
      Answering pktAck before (.error .headOfEmptyBuffer)
  | acknowledges (notLast : ¬before.EndsTransfer pktAck) (type : pktAck.type = ptypeAck)
      (after : Sender) (acknowledging : Acknowledging pktAck before after) :
      Answering pktAck before (.ok (.running after))
  | marks (type : pktAck.type = ptypeNack) :
      Answering pktAck before (.ok (.running (before.handleNack pktAck)))
  | ignores (otherType : pktAck.type ≠ ptypeAck) :
      Answering pktAck before (.ok (.running before))

/-- An answer which is not the last one removes the oldest packets, or marks one. -/
theorem Answering.nodes {pktAck : Pkt} {before after : Sender}
    (answering : Answering pktAck before (.ok (.running after))) :
    after.bufStructure.nodes <:+ before.bufStructure.nodes ∨
      after.bufStructure.nodes = markNodes pktAck.seqNum before.bufStructure.nodes := by
  cases answering with
  | acknowledges notLast type after acknowledging =>
      cases acknowledging with
      | unknown => exact .inl (List.suffix_refl _)
      | outside => exact .inl (List.suffix_refl _)
      | deletes => exact .inl (remaining_suffix _ _)
  | marks => exact .inr rfl
  | ignores => exact .inl (List.suffix_refl _)

theorem handleAnswer_answering {sender : Sender} (consistent : sender.bufStructure.Consistent)
    (rttTime : Time) (pktAck : Pkt) :
    Answering pktAck sender (sender.handleAnswer rttTime pktAck) := by
  rw [handleAnswer]
  split
  · rename_i last
    exact .ends last
  · rename_i notLast
    split
    · rename_i type
      rcases handleAck_spec consistent rttTime pktAck with
        ⟨seen, empty, fails⟩ | ⟨after, handles, acknowledging⟩
      · rw [fails]
        exact .fault notLast type seen empty
      · rw [handles]
        exact .acknowledges notLast type after acknowledging
    · rename_i otherType
      split
      · rename_i type
        exact .marks type
      · exact .ignores otherType

/-- What an iteration of the loop does. -/
inductive Iteration (input : SenderInput) (before : Sender) :
    Except Fault (LoopFlow Sender SenderExit) → Prop where
  | stopped (reason : SenderExit) (middle : Sender) (early : reason ≠ .lastAck)
      (sending : Sending crc32 input before middle) :
      Iteration input before (.ok (.returned reason middle))
  | quiet (middle last : Sender) (sending : Sending crc32 input before middle)
      (resending : Resending crc32 middle last) : Iteration input before (.ok (.running last))
  | rejects (middle last : Sender) (sending : Sending crc32 input before middle)
      (resending : Resending crc32 middle last) (code : PktStatusCode)
      (decodes : pktDecode crc32 true (last.afterRead input).bufAck.val pktNew = .error code) :
      Iteration input before (.ok (.running (last.afterRead input)))
  | answers (middle last : Sender) (sending : Sending crc32 input before middle)
      (resending : Resending crc32 middle last) (pktAck : Pkt)
      (decodes : pktDecode crc32 true (last.afterRead input).bufAck.val pktNew = .ok pktAck)
      (result : Except Fault (LoopFlow Sender SenderExit))
      (answering : Answering pktAck (last.afterRead input) result) :
      Iteration input before result

theorem sound_afterSend {sender : Sender} (sound : sender.Sound) {pkt : Pkt}
    (sendable : Sendable pkt) (isEnd : Bool) (sendTime : Time) :
    (sender.afterSend crc32 pkt isEnd sendTime).Sound where
  consistent := Queue.consistent_ofNodes _
  sendable := by
    intro other present
    rcases List.mem_append.mp present with earlier | last
    · exact sound.sendable other earlier
    · rw [List.mem_singleton.mp last]
      exact sendable_withCrcs crc32 sendable

variable {crc32}

theorem Sending.sound {input : SenderInput} {before after : Sender}
    (sending : Sending crc32 input before after) (sound : before.Sound) : after.Sound := by
  cases sending with
  | nothing => exact sound
  | ended => exact sound_afterSend crc32 sound (sendable_endPkt _ _) _ _
  | data _ _ data fits => exact sound_afterSend crc32 sound (sendable_dataPkt fits _ _) _ _
  | failed => exact ⟨sound.consistent, sound.sendable⟩

theorem Resending.sound {before after : Sender} (resending : Resending crc32 before after)
    (sound : before.Sound) : after.Sound := by
  cases resending with
  | nothing => exact sound
  | again front pkt back stamp nodes =>
      have former : ∀ other ∈ front ++ pkt :: back, Sendable other := by
        rw [← nodes]
        exact sound.sendable
      refine ⟨Queue.consistent_ofNodes _, ?_⟩
      intro other present
      rcases List.mem_append.mp present with before | behind
      · exact former other (by simp [before])
      · rcases List.mem_cons.mp behind with rfl | after
        · have sendable := former pkt (by simp)
          exact ⟨sendable.holds, sendable.short⟩
        · exact former other (by simp [after])

theorem sound_afterRead {sender : Sender} (sound : sender.Sound) (input : SenderInput) :
    (sender.afterRead input).Sound :=
  ⟨sound.consistent, sound.sendable⟩

theorem sound_withRemaining {sender : Sender} (sound : sender.Sound) (seqnumDelete : BitVec 8) :
    (sender.withRemaining seqnumDelete).Sound where
  consistent := Queue.consistent_ofNodes _
  sendable := by
    intro pkt present
    exact sound.sendable pkt ((remaining_suffix _ _).subset present)

theorem Acknowledging.sound {pktAck : Pkt} {before after : Sender}
    (acknowledging : Acknowledging pktAck before after) (sound : before.Sound) : after.Sound := by
  cases acknowledging with
  | unknown => exact ⟨sound.consistent, sound.sendable⟩
  | outside => exact ⟨sound.consistent, sound.sendable⟩
  | deletes timer =>
      have recognized : (before.recognized pktAck timer).Sound := ⟨sound.consistent, sound.sendable⟩
      exact sound_withRemaining recognized _

theorem sound_handleNack {sender : Sender} (sound : sender.Sound) (pktNack : Pkt) :
    (sender.handleNack pktNack).Sound := by
  constructor
  · have counted := sound.consistent
    rw [Queue.Consistent, ← length_markNodes pktNack.seqNum] at counted
    exact counted
  · intro marked present
    rcases mem_markNodes present with ⟨pkt, found, same⟩
    have sendable := sound.sendable pkt found
    rw [same]
    exact ⟨sendable.holds, sendable.short⟩

theorem Iteration.sound {input : SenderInput} {before : Sender}
    {flow : LoopFlow Sender SenderExit} (iteration : Iteration crc32 input before (.ok flow))
    (sound : before.Sound) : flow.state.Sound := by
  cases iteration with
  | stopped reason middle early sending => exact sending.sound sound
  | quiet middle last sending resending => exact resending.sound (sending.sound sound)
  | rejects middle last sending resending =>
      exact sound_afterRead (resending.sound (sending.sound sound)) input
  | answers middle last sending resending pktAck decodes result answering =>
      have read := sound_afterRead (resending.sound (sending.sound sound)) input
      cases answering with
      | ends => exact read
      | acknowledges notLast type after acknowledging => exact acknowledging.sound read
      | marks => exact sound_handleNack read pktAck
      | ignores => exact read

variable (crc32)

theorem readAck_iteration {input : SenderInput} {before middle last : Sender}
    (sending : Sending crc32 input before middle) (resending : Resending crc32 middle last)
    (sound : last.Sound) : Iteration crc32 input before (readAck crc32 input last) := by
  have consistent := (sound_afterRead sound input).consistent
  cases decodes : pktDecode crc32 true (last.afterRead input).bufAck.val pktNew with
  | error code =>
      have rejected : readAck crc32 input last = .ok (.running (last.afterRead input)) := by
        rw [afterRead] at decodes
        rw [readAck]
        simp only [decodes]
        rfl
      rw [rejected]
      exact .rejects middle last sending resending code decodes
  | ok pktAck =>
      have handled : readAck crc32 input last =
          (last.afterRead input).handleAnswer input.rttTime pktAck := by
        rw [afterRead] at decodes
        rw [readAck]
        simp only [decodes]
        rfl
      rw [handled]
      exact .answers middle last sending resending pktAck decodes _
        (handleAnswer_answering consistent input.rttTime pktAck)

theorem send_sending {sender : Sender} (sound : sender.Sound) (room : sender.HasRoom)
    (input : SenderInput) :
    ∃ middle, send crc32 input sender = .ok middle ∧ Sending crc32 input sender middle := by
  rw [send]
  split
  · rename_i endOfInput
    exact ⟨_, sendEnd_eq crc32 sound.consistent input, .ended room.1 room.2 endOfInput⟩
  · rename_i moreInput
    cases read : input.newPayload with
    | failed => exact ⟨_, sendData_failed crc32 read, .failed room.2 read⟩
    | bytes data fits =>
        have nonempty : data ≠ [] := by
          rintro rfl
          exact moreInput (by rw [read]; rfl)
        exact ⟨_, sendData_eq crc32 sound.consistent read room.2,
          .data room.1 room.2 data fits read nonempty⟩

/--
What an iteration has done when it tests `POLLIN`, or returns before: if it has read
the input, it has sent a new packet, and then a buffered one again, or none.
-/
structure Passes (input : SenderInput) (before middle : Sender)
    (flow : LoopFlow (Revents × Sender) SenderExit) : Prop where
  sends : if before.ReadsInput input then send crc32 input before = .ok middle
    else middle = before
  resending : Resending crc32 middle flow.state.2
  inWindow : ∀ head ∈ middle.bufStructure.nodes.head?,
    SendsInWindow head.seqNum middle flow.state.2
  early : ∀ reason state, flow = .returned reason state → reason ≠ .lastAck ∧ state.2 = middle

variable {crc32} in
theorem sending_of_sends {input : SenderInput} {before middle : Sender} (sound : before.Sound)
    (sends : if before.ReadsInput input then send crc32 input before = .ok middle
      else middle = before) : Sending crc32 input before middle := by
  split at sends
  · rename_i reads
    rcases send_sending crc32 sound reads.2.2 input with ⟨other, same, sending⟩
    rw [same] at sends
    cases sends
    exact sending
  · rw [sends]
    exact .nothing

variable {crc32} in
theorem Passes.sending {input : SenderInput} {before middle : Sender}
    {flow : LoopFlow (Revents × Sender) SenderExit}
    (passes : Passes crc32 input before middle flow) (sound : before.Sound) :
    Sending crc32 input before middle :=
  sending_of_sends sound passes.sends

/-- Without a retransmission, the state is the one behind the new packet. -/
theorem passes_of_same {input : SenderInput} {before middle : Sender}
    {flow : LoopFlow (Revents × Sender) SenderExit}
    (sends : if before.ReadsInput input then send crc32 input before = .ok middle
      else middle = before)
    (same : flow.state.2 = middle)
    (early : ∀ reason state, flow = .returned reason state → reason ≠ .lastAck) :
    Passes crc32 input before middle flow where
  sends := sends
  resending := by
    rw [same]
    exact .nothing
  inWindow := by
    intro head first
    rw [same]
    exact sendsInWindow_refl head.seqNum middle
  early := by
    rintro reason state rfl
    exact ⟨early reason state rfl, same⟩

theorem passes_of_resend {input : SenderInput} {before middle : Sender}
    (sends : if before.ReadsInput input then send crc32 input before = .ok middle
      else middle = before)
    (sound : middle.Sound) (revents : Revents) :
    ∃ flow, resend crc32 input.scan revents middle = .ok flow ∧
      Passes crc32 input before middle flow := by
  rcases resend_spec crc32 sound input.scan revents with
    ⟨flow, resends, ⟨polled, rfl⟩ | ⟨polled, last, rfl, resending, near⟩⟩
  · refine ⟨_, resends, passes_of_same crc32 sends rfl ?_⟩
    rintro reason state ⟨⟩
    decide
  · refine ⟨_, resends, sends, resending, near, ?_⟩
    rintro reason state ⟨⟩

/-- The flags and the state with which an iteration comes to the scan, if it does. -/
def scansAt (input : SenderInput) (sender : Sender) : Option (Revents × Sender) :=
  if timedOut input.tpNow sender.tpGlobal then none
  else
    match input.poll with
    | .failed => none
    | .ready revents =>
        if revents.pollout then
          if sender.HasRoom then
            match send crc32 input sender with
            | .error _ => none
            | .ok middle => if input.newPayload.count = 0 then none else some (revents, middle)
          else some (revents, sender)
        else none

/-- An iteration sends a new packet or does not, and then either scans the buffer or does not. -/
theorem untilRead_scans {sender : Sender} (sound : sender.Sound) (input : SenderInput) :
    ∃ middle, (if sender.ReadsInput input then send crc32 input sender = .ok middle
        else middle = sender) ∧
      ((scansAt crc32 input sender = none ∧ ∃ flow, untilRead crc32 input sender = .ok flow ∧
          flow.state.2 = middle ∧
          ∀ reason state, flow = .returned reason state → reason ≠ .lastAck) ∨
        ∃ revents, scansAt crc32 input sender = some (revents, middle) ∧
          untilRead crc32 input sender = resend crc32 input.scan revents middle) := by
  rw [untilRead, scansAt]
  by_cases late : timedOut input.tpNow sender.tpGlobal = true
  · have noRead : ¬sender.ReadsInput input := fun reads => by simp [reads.1] at late
    rw [if_pos late, if_pos late]
    refine ⟨sender, by rw [if_neg noRead], .inl ⟨rfl, _, rfl, rfl, ?_⟩⟩
    rintro reason state ⟨⟩
    decide
  have inTime : timedOut input.tpNow sender.tpGlobal = false := Bool.eq_false_of_not_eq_true late
  rw [if_neg late, if_neg late]
  cases polled : input.poll with
  | failed =>
      have noRead : ¬sender.ReadsInput input := fun reads => by
        simpa [polled, Revents.after] using reads.2.1
      refine ⟨sender, by rw [if_neg noRead], .inl ⟨rfl, _, rfl, rfl, ?_⟩⟩
      rintro reason state ⟨⟩
      decide
  | ready revents =>
      simp only
      have reads_iff : sender.ReadsInput input ↔ revents.pollout = true ∧ sender.HasRoom := by
        simp [ReadsInput, inTime, polled, Revents.after]
      by_cases pollout : revents.pollout = true
      · rw [if_pos pollout, if_pos pollout]
        by_cases room : sender.HasRoom
        · rcases send_sending crc32 sound room input with ⟨middle, sends, _⟩
          refine ⟨middle, by rwa [if_pos (reads_iff.mpr ⟨pollout, room⟩)], ?_⟩
          simp only [if_pos room, sends, bind, Except.bind]
          split
          · refine .inl ⟨rfl, _, rfl, rfl, ?_⟩
            rintro reason state ⟨⟩
          · exact .inr ⟨revents, rfl, rfl⟩
        · have noRead : ¬sender.ReadsInput input := fun reads => room (reads_iff.mp reads).2
          rw [if_neg room, if_neg room]
          exact ⟨sender, by rw [if_neg noRead], .inr ⟨revents, rfl, rfl⟩⟩
      · have noRead : ¬sender.ReadsInput input := fun reads => pollout (reads_iff.mp reads).1
        rw [if_neg pollout, if_neg pollout]
        refine ⟨sender, by rw [if_neg noRead], .inl ⟨rfl, _, rfl, rfl, ?_⟩⟩
        rintro reason state ⟨⟩

/-- An iteration comes to its test of `POLLIN` without a fault, unless it returns before. -/
theorem untilRead_spec {sender : Sender} (sound : sender.Sound) (input : SenderInput) :
    ∃ flow middle, untilRead crc32 input sender = .ok flow ∧
      Passes crc32 input sender middle flow := by
  rcases untilRead_scans crc32 sound input with
    ⟨middle, sends, ⟨_, flow, untils, same, early⟩ | ⟨revents, _, untils⟩⟩
  · exact ⟨flow, middle, untils, passes_of_same crc32 sends same early⟩
  · rcases passes_of_resend crc32 sends ((sending_of_sends sound sends).sound sound) revents with
      ⟨flow, resends, passes⟩
    exact ⟨flow, middle, untils.trans resends, passes⟩

theorem readWriteLoop_iteration {sender : Sender} (sound : sender.Sound) (input : SenderInput) :
    Iteration crc32 input sender (readWriteLoop crc32 input sender) := by
  rcases untilRead_spec crc32 sound input with ⟨flow, middle, untils, passes⟩
  have sending := passes.sending sound
  rw [readWriteLoop_eq, untils]
  cases flow with
  | returned reason state =>
      rcases passes.early reason state rfl with ⟨early, same⟩
      simp only [Except.bind, thenRead, same]
      exact .stopped reason middle early sending
  | running state =>
      have soundLast := passes.resending.sound (sending.sound sound)
      simp only [Except.bind, thenRead]
      split
      · exact readAck_iteration crc32 sending passes.resending soundLast
      · exact .quiet middle state.2 sending passes.resending

variable {crc32} in
theorem sound_of_moved {input : SenderInput} {sender : Sender}
    {flow : LoopFlow Sender SenderExit} (sound : sender.Sound)
    (moved : readWriteLoop crc32 input sender = .ok flow) : flow.state.Sound := by
  have iteration := readWriteLoop_iteration crc32 sound input
  rw [moved] at iteration
  exact iteration.sound sound

variable {crc32} in
theorem passes_of_untilRead {input : SenderInput} {sender : Sender}
    {flow : LoopFlow (Revents × Sender) SenderExit} (sound : sender.Sound)
    (untils : untilRead crc32 input sender = .ok flow) :
    ∃ middle, Passes crc32 input sender middle flow := by
  rcases untilRead_spec crc32 sound input with ⟨_, middle, same, passes⟩
  rw [untils] at same
  cases same
  exact ⟨middle, passes⟩

variable {crc32} in
/-- How an iteration comes back to the top of the loop. -/
theorem running_cases {input : SenderInput} {sender next : Sender}
    (moved : readWriteLoop crc32 input sender = .ok (.running next)) :
    ∃ revents last, untilRead crc32 input sender = .ok (.running (revents, last)) ∧
      (revents.pollin = false ∧ next = last ∨
        revents.pollin = true ∧
          ((∃ code, pktDecode crc32 true (last.afterRead input).bufAck.val pktNew =
              .error code ∧ next = last.afterRead input) ∨
            ∃ pktAck, pktDecode crc32 true (last.afterRead input).bufAck.val pktNew =
              .ok pktAck ∧
              (last.afterRead input).handleAnswer input.rttTime pktAck =
                .ok (.running next))) := by
  rw [readWriteLoop_eq] at moved
  cases untils : untilRead crc32 input sender with
  | error fault =>
      rw [untils] at moved
      cases moved
  | ok flow =>
      rw [untils] at moved
      cases flow with
      | returned reason state => cases moved
      | running state =>
          refine ⟨state.1, state.2, rfl, ?_⟩
          simp only [Except.bind, thenRead] at moved
          split at moved
          · rename_i pollin
            refine .inr ⟨pollin, ?_⟩
            rw [readAck] at moved
            simp only at moved
            split at moved
            · rename_i code decodes
              cases moved
              exact .inl ⟨code, decodes, rfl⟩
            · rename_i pktAck decodes
              exact .inr ⟨pktAck, decodes, moved⟩
          · rename_i noPollin
            cases moved
            exact .inl ⟨Bool.eq_false_of_not_eq_true noPollin, rfl⟩

end ReliableTransfer.Sender
