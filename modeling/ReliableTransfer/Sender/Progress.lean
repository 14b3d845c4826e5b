import ReliableTransfer.Sender.Timer

/-!
# How the sender makes progress

With a writable socket the sender sends a new packet as long as there is room, and
otherwise its first buffered packet once the timer of this is out. It can always be out, since the
timer is never the largest number (`Ready`). What it then reads as an acknowledgement
is handled, without a fault while something is buffered.
-/

namespace ReliableTransfer.Sender

open QueueSender

variable {crc32 : List Byte → BitVec 32}

/-- The window is not closed, and there is a time at which the timer of a packet is out. -/
structure Ready (sender : Sender) : Prop where
  window : 0 < sender.sizeBuffer
  timer : sender.timer ≠ BitVec.intMax 32

theorem ready_start (tpGlobal : Time) (bufAck : Buffer ackSize) :
    (start tpGlobal bufAck).Ready where
  window := Nat.one_pos
  timer := by
    change (3 : BitVec 32) ≠ _
    decide

theorem two_mul_ne_intMax (difference : BitVec 32) : 2 * difference ≠ BitVec.intMax 32 := by
  intro same
  have value := congrArg BitVec.toNat same
  have two : (2 : BitVec 32).toNat = 2 := rfl
  rw [BitVec.toNat_mul, BitVec.toNat_intMax, two] at value
  omega

/-- What is sent does not touch the window and the acknowledgement buffer. -/
theorem frame_of_sends {input : SenderInput} {before middle last : Sender}
    (sending : Sending crc32 input before middle) (resending : Resending crc32 middle last) :
    last.sizeBuffer = before.sizeBuffer ∧ last.timer = before.timer ∧
      last.bufAck = before.bufAck := by
  have sent : middle.sizeBuffer = before.sizeBuffer ∧ middle.bufAck = before.bufAck := by
    cases sending with
    | nothing => exact ⟨rfl, rfl⟩
    | ended => exact ⟨rfl, rfl⟩
    | data => exact ⟨rfl, rfl⟩
    | failed => exact ⟨rfl, rfl⟩
  have resent : last.sizeBuffer = middle.sizeBuffer ∧ last.bufAck = middle.bufAck := by
    cases resending with
    | nothing => exact ⟨rfl, rfl⟩
    | again => exact ⟨rfl, rfl⟩
  exact ⟨resent.1.trans sent.1, resending.timer.2.trans sending.timer.2, resent.2.trans sent.2⟩

/-- A timer which is set is even. -/
theorem handleAck_ready {rttTime : Time} {sender next : Sender} {pktAck : Pkt}
    (ready : sender.Ready) (opens : 0 < pktAck.window.toNat)
    (handles : sender.handleAck rttTime pktAck = .ok next) : next.Ready := by
  rw [handleAck] at handles
  simp only at handles
  split at handles
  · split at handles
    · cases handles
      exact ⟨opens, ready.timer⟩
    · rcases deleteAcked_frame handles with ⟨sizeBuffer, timer, _⟩
      refine ⟨by rwa [sizeBuffer], ?_⟩
      rw [timer]
      exact two_mul_ne_intMax _
  · rcases deleteAcked_frame handles with ⟨sizeBuffer, timer, _⟩
    refine ⟨by rwa [sizeBuffer], ?_⟩
    rw [timer]
    exact ready.timer

theorem handleAnswer_ready {rttTime : Time} {sender next : Sender} {pktAck : Pkt}
    (ready : sender.Ready) (opens : 0 < pktAck.window.toNat)
    (handles : sender.handleAnswer rttTime pktAck = .ok (.running next)) : next.Ready := by
  rw [handleAnswer] at handles
  split at handles
  · cases handles
  · split at handles
    · cases handled : sender.handleAck rttTime pktAck with
      | error fault => simp [handled, bind, Except.bind] at handles
      | ok after =>
          simp only [handled, bind, Except.bind, pure, Except.pure, Except.ok.injEq,
            LoopFlow.running.injEq] at handles
          rw [← handles]
          exact handleAck_ready ready opens handled
    · split at handles
      · cases handles
        exact ⟨ready.window, ready.timer⟩
      · cases handles
        exact ready

theorem Ready.step {input : SenderInput} {before after : Sender} (ready : before.Ready)
    (sound : before.Sound) (moved : readWriteLoop crc32 input before = .ok (.running after))
    (opens : ∀ pktAck, pktDecode crc32 true (before.bufAck.readInto input.ackRead).val pktNew =
      .ok pktAck → 0 < pktAck.window.toNat) : after.Ready := by
  rcases running_cases moved with ⟨revents, last, untils, answered⟩
  rcases passes_of_untilRead sound untils with ⟨middle, passes⟩
  obtain ⟨sizeBuffer, timer, bufAck⟩ : last.sizeBuffer = before.sizeBuffer ∧
      last.timer = before.timer ∧ last.bufAck = before.bufAck :=
    frame_of_sends (passes.sending sound) passes.resending
  have readyLast : last.Ready := by
    refine ⟨?_, ?_⟩
    · rw [sizeBuffer]
      exact ready.window
    · rw [timer]
      exact ready.timer
  rcases answered with ⟨_, rfl⟩ | ⟨_, ⟨_, _, rfl⟩ | ⟨pktAck, decodes, handles⟩⟩
  · exact readyLast
  · exact ⟨readyLast.window, readyLast.timer⟩
  · have content : (last.afterRead input).bufAck = before.bufAck.readInto input.ackRead := by
      rw [afterRead, bufAck]
    have readyRead : (last.afterRead input).Ready := ⟨readyLast.window, readyLast.timer⟩
    rw [content] at decodes
    exact handleAnswer_ready readyRead (opens pktAck decodes) handles

/--
An iteration in which the socket is writable, but not readable. The scan reads a time of its own;
all the other readings are that of the last iteration, so that no timeout intervenes.
-/
def transmitInput (sender : Sender) (newPayload : ReadResult maxPayloadSize) (now : Time) :
    SenderInput where
  tpNow := sender.tpGlobal
  poll := .ready ⟨false, true⟩
  newPayload := newPayload
  payloadBuf := .zeros _
  buf := .zeros _
  sendTime := sender.tpGlobal
  stampTime := sender.tpGlobal
  scan _ := ⟨now, .ready ⟨false, true⟩, now, .zeros _⟩
  ackRead := .failed
  ackTime := sender.tpGlobal
  rttTime := sender.tpGlobal

theorem scanFrom_writable {scan : ℕ → ScanInput} {headSeqNum : BitVec 8} {sender : Sender}
    (writable : ∀ index, (scan index).poll = .ready ⟨false, true⟩) (index : ℕ) (run : List Pkt) :
    ∃ outcome, scanFrom scan headSeqNum sender index run ⟨false, true⟩ =
      (outcome, ⟨false, true⟩) ∧ outcome ≠ .pollError := by
  induction run generalizing index with
  | nil => exact ⟨.nothing, rfl, by decide⟩
  | cons pkt rest ih =>
      rw [scanFrom]
      split
      · exact ⟨.nothing, rfl, by decide⟩
      · split
        · rw [writable]
          exact ⟨.again index, rfl, by rintro ⟨⟩⟩
        · exact ih (index + 1)

theorem resend_writable {scan : ℕ → ScanInput} {sender : Sender} (sound : sender.Sound)
    (writable : ∀ index, (scan index).poll = .ready ⟨false, true⟩) :
    ∃ after, resend crc32 scan ⟨false, true⟩ sender = .ok (.running (⟨false, true⟩, after)) ∧
      Resending crc32 sender after := by
  obtain ⟨outcome, scans, noError⟩ : ∃ outcome,
      sender.scanned scan ⟨false, true⟩ = (outcome, ⟨false, true⟩) ∧ outcome ≠ .pollError := by
    rw [scanned]
    split
    · exact ⟨.nothing, rfl, by decide⟩
    · exact scanFrom_writable writable 0 _
  have resends := resend_eq crc32 sound scan ⟨false, true⟩
  rw [scans] at resends
  cases outcome with
  | nothing => exact ⟨sender, resends, .nothing⟩
  | pollError => exact absurd rfl noError
  | again index =>
      refine ⟨_, resends, ?_⟩
      rcases resend_spec crc32 sound scan ⟨false, true⟩ with
        ⟨_, same, ⟨polled, rfl⟩ | ⟨polled, after, rfl, resending, _⟩⟩
      · rw [resends] at same
        cases same
      · rw [resends] at same
        cases same
        exact resending

/-- An iteration in which the socket is writable but not readable, and the timeout is not over. -/
structure Transmits (input : SenderInput) (sender : Sender) : Prop where
  inTime : ¬timedOut input.tpNow sender.tpGlobal = true
  poll : input.poll = .ready ⟨false, true⟩
  writable : ∀ index, (input.scan index).poll = .ready ⟨false, true⟩

theorem transmits_transmitInput (sender : Sender) (newPayload : ReadResult maxPayloadSize)
    (now : Time) : Transmits (sender.transmitInput newPayload now) sender :=
  ⟨not_timedOut_self _, rfl, fun _ => rfl⟩

/-- Such an iteration does not return. If there is room, it sends a new packet. -/
theorem Transmits.running {input : SenderInput} {sender : Sender}
    (transmits : Transmits input sender) (sound : sender.Sound) :
    ∃ middle after, readWriteLoop crc32 input sender = .ok (.running after) ∧
      (if sender.HasRoom then send crc32 input sender = .ok middle else middle = sender) ∧
      Resending crc32 middle after := by
  rw [readWriteLoop_eq, untilRead, if_neg transmits.inTime, transmits.poll]
  simp only [if_true]
  by_cases room : sender.HasRoom
  · rcases send_sending crc32 sound room input with ⟨middle, sends, sending⟩
    rcases resend_writable (sending.sound sound) transmits.writable with
      ⟨after, resends, resending⟩
    simp only [if_pos room, sends, bind, Except.bind]
    by_cases endOfInput : input.newPayload.count = 0
    · rw [if_pos endOfInput]
      exact ⟨middle, middle, rfl, rfl, .nothing⟩
    · rw [if_neg endOfInput, resends]
      exact ⟨middle, after, rfl, rfl, resending⟩
  · rcases resend_writable sound transmits.writable with ⟨after, resends, resending⟩
    rw [if_neg room, resends]
    exact ⟨sender, after, rfl, by rw [if_neg room], resending⟩

theorem send_seqNum {input : SenderInput} {sender middle : Sender} {data : List Byte}
    {fits : data.length ≤ maxPayloadSize} (sound : sender.Sound) (room : sender.HasRoom)
    (read : input.newPayload = .bytes data fits) (sends : send crc32 input sender = .ok middle) :
    middle.seqNum = sender.seqNum + 1 := by
  rw [send] at sends
  split at sends
  · rw [sendEnd_eq crc32 sound.consistent] at sends
    cases sends
    rfl
  · rw [sendData_eq crc32 sound.consistent read room.2] at sends
    cases sends
    rfl

theorem Resending.seqNum {before after : Sender} (resending : Resending crc32 before after) :
    after.seqNum = before.seqNum := by
  cases resending with
  | nothing => rfl
  | again => rfl

theorem slt_add_one {number : BitVec 32} (notMax : number ≠ BitVec.intMax 32) :
    number.slt (number + 1) = true := by
  have below : number.toNat ≠ 2 ^ 31 - 1 := by
    intro same
    apply notMax
    apply BitVec.eq_of_toNat_eq
    rw [same, BitVec.toNat_intMax]
  have one : (1 : BitVec 32).toNat = 1 := rfl
  have bounded := number.isLt
  rw [BitVec.slt, decide_eq_true_eq, BitVec.toInt_eq_toNat_cond, BitVec.toInt_eq_toNat_cond,
    BitVec.toNat_add, one]
  split
  · split
    · omega
    · omega
  · split
    · omega
    · omega

/-- A time at which the timer of a packet is out. The next iteration sets the clock back. -/
def timeDue (sender : Sender) (pkt : Pkt) : Time :=
  (pkt.timestamp + sender.timer + 1).setWidth 64

theorem due_timeDue {sender : Sender} (ready : sender.Ready) (pkt : Pkt) :
    sender.due (sender.timeDue pkt) pkt = true := by
  have elapsed : (sender.timeDue pkt).setWidth 32 - pkt.timestamp = sender.timer + 1 := by
    rw [timeDue, BitVec.setWidth_setWidth_of_le _ (by decide), BitVec.setWidth_eq]
    grind
  rw [due, elapsed, slt_add_one ready.timer]
  rfl

/-- When there is no room, and the timer of the first packet is out, this is sent again. -/
theorem transmit_head {sender : Sender} (sound : sender.Sound) (ready : sender.Ready)
    (full : ¬sender.HasRoom) {head : Pkt} {rest : List Pkt}
    (nodes : sender.bufStructure.nodes = head :: rest)
    (newPayload : ReadResult maxPayloadSize) :
    readWriteLoop crc32 (sender.transmitInput newPayload (sender.timeDue head)) sender =
      .ok (.running (sender.afterResend crc32 [] head rest (sender.timeDue head))) := by
  have transmits := transmits_transmitInput sender newPayload (sender.timeDue head)
  have near : ¬sender.sizeBuffer ≤ Serial.dist head.seqNum head.seqNum := by
    rw [Serial.dist_self]
    exact Nat.not_le.mpr ready.window
  have scans : sender.scanned (sender.transmitInput newPayload (sender.timeDue head)).scan
      ⟨false, true⟩ = (.again 0, ⟨false, true⟩) := by
    rw [scanned, nodes]
    simp only
    rw [scanFrom, if_neg near]
    change (if sender.due (sender.timeDue head) head = true then _ else _) = _
    rw [due_timeDue ready head, if_pos rfl, transmits.writable]
    rfl
  rw [readWriteLoop_eq, untilRead, if_neg transmits.inTime, transmits.poll]
  simp only [if_true, if_neg full, resend_eq crc32 sound, scans, afterScan, Except.bind, thenRead]
  rw [if_neg Bool.false_ne_true, ← resendAt_append crc32 (sender.timeDue head) nodes]
  rfl

/-- An iteration in which the socket is readable, but not writable. -/
def answerInput (sender : Sender) (newPayload : ReadResult maxPayloadSize)
    (ackRead : ReadResult ackSize) : SenderInput :=
  { sender.transmitInput newPayload 0 with poll := .ready ⟨true, false⟩, ackRead := ackRead }

theorem answer_eq {sender : Sender} {newPayload : ReadResult maxPayloadSize}
    {ackRead : ReadResult ackSize} {pktAck : Pkt}
    (decodes : pktDecode crc32 true (sender.bufAck.readInto ackRead).val pktNew = .ok pktAck) :
    readWriteLoop crc32 (sender.answerInput newPayload ackRead) sender =
      (sender.afterRead (sender.answerInput newPayload ackRead)).handleAnswer sender.tpGlobal
        pktAck := by
  have inTime : ¬timedOut (sender.answerInput newPayload ackRead).tpNow sender.tpGlobal = true :=
    not_timedOut_self sender.tpGlobal
  have poll : (sender.answerInput newPayload ackRead).poll = .ready ⟨true, false⟩ := rfl
  rw [readWriteLoop, if_neg inTime, poll]
  simp only [Bool.false_eq_true, if_false, if_true]
  have read : pktDecode crc32 true
      (sender.bufAck.readInto (sender.answerInput newPayload ackRead).ackRead).val pktNew =
        .ok pktAck := decodes
  rw [readAck]
  simp only [read]
  rfl

/-- While something is buffered, an `ACK` is handled without a fault. -/
theorem handleAnswer_filled {sender : Sender} (consistent : sender.bufStructure.Consistent)
    (filled : sender.bufStructure.nodes ≠ []) {pktAck : Pkt} (isAck : pktAck.type = ptypeAck)
    (rttTime : Time) :
    (sender.EndsTransfer pktAck ∧
        sender.handleAnswer rttTime pktAck = .ok (.returned .lastAck sender)) ∨
      ∃ after, sender.handleAnswer rttTime pktAck = .ok (.running after) ∧
        ¬sender.EndsTransfer pktAck ∧ Acknowledging pktAck sender after := by
  have answering := handleAnswer_answering consistent rttTime pktAck
  cases result : sender.handleAnswer rttTime pktAck with
  | error fault =>
      rw [result] at answering
      cases answering with
      | fault _ _ _ empty => exact absurd empty filled
  | ok flow =>
      rw [result] at answering
      cases answering with
      | ends last => exact .inl ⟨last, rfl⟩
      | acknowledges notLast _ after acknowledging =>
          exact .inr ⟨after, rfl, notLast, acknowledging⟩
      | marks isNack =>
          rw [isAck] at isNack
          exact absurd isNack (by decide)
      | ignores otherType => exact absurd isAck otherType

/-- The socket is writable, also when the first packet is to be sent again; and this is due. -/
structure MayResend (input : SenderInput) (sender : Sender) : Prop where
  poll : ∃ pollin, input.poll = .ready ⟨pollin, true⟩
  due : ∀ head ∈ sender.bufStructure.nodes.head?,
    sender.due (input.scan 0).timeNow head = true ∧
      ∃ pollin, (input.scan 0).poll = .ready ⟨pollin, true⟩

/-- Handling an answer neither uses a number nor sends anything. -/
theorem Answering.same {before : Sender} {pktAck : Pkt} {flow : LoopFlow Sender SenderExit}
    (answering : Answering pktAck before (.ok flow)) :
    flow.state.seqNum = before.seqNum ∧ flow.state.sent = before.sent := by
  cases answering with
  | ends => exact ⟨rfl, rfl⟩
  | acknowledges notLast isAck after acknowledging =>
      cases acknowledging with
      | unknown => exact ⟨rfl, rfl⟩
      | outside => exact ⟨rfl, rfl⟩
      | deletes => exact ⟨rfl, rfl⟩
  | marks => exact ⟨rfl, rfl⟩
  | ignores => exact ⟨rfl, rfl⟩

theorem frame_of_answered {input : SenderInput} {last next : Sender} (sound : last.Sound)
    {pktAck : Pkt}
    (handles : (last.afterRead input).handleAnswer input.rttTime pktAck = .ok (.running next)) :
    next.seqNum = last.seqNum ∧ next.sent = last.sent ∧
      next.bufStructure.nodes.length ≤ last.bufStructure.nodes.length := by
  have answering := handleAnswer_answering (sound_afterRead sound input).consistent
    input.rttTime pktAck
  rw [handles] at answering
  have shorter : next.bufStructure.nodes.length ≤ last.bufStructure.nodes.length := by
    rcases answering.nodes with suffix | marked
    · exact suffix.length_le
    · rw [marked, length_markNodes]
      exact le_rfl
  exact ⟨answering.same.1, answering.same.2, shorter⟩

/-- The number which is used next, and what has been sent, are settled before the reading. -/
theorem frame_of_moved {input : SenderInput} {sender next : Sender} (sound : sender.Sound)
    (moved : readWriteLoop crc32 input sender = .ok (.running next)) :
    ∃ revents last, untilRead crc32 input sender = .ok (.running (revents, last)) ∧
      next.seqNum = last.seqNum ∧ next.sent = last.sent ∧
      next.bufStructure.nodes.length ≤ last.bufStructure.nodes.length := by
  rcases running_cases moved with ⟨revents, last, untils, answered⟩
  refine ⟨revents, last, untils, ?_⟩
  rcases passes_of_untilRead sound untils with ⟨middle, passes⟩
  have soundLast : last.Sound := passes.resending.sound ((passes.sending sound).sound sound)
  rcases answered with ⟨_, rfl⟩ | ⟨_, ⟨_, _, rfl⟩ | ⟨pktAck, _, handles⟩⟩
  · exact ⟨rfl, rfl, le_rfl⟩
  · exact ⟨rfl, rfl, le_rfl⟩
  · exact frame_of_answered soundLast handles

theorem inTime_of_running {input : SenderInput} {sender next : Sender}
    (moved : readWriteLoop crc32 input sender = .ok (.running next)) :
    timedOut input.tpNow sender.tpGlobal = false := by
  rw [readWriteLoop] at moved
  split at moved
  · cases moved
  · rename_i inTime
    exact Bool.eq_false_of_not_eq_true inTime

/-- If there is room, a new packet is sent. -/
theorem MayResend.sends {input : SenderInput} {sender next : Sender}
    (may : MayResend input sender) (sound : sender.Sound) (room : sender.HasRoom)
    {data : List Byte} {fits : data.length ≤ maxPayloadSize}
    (read : input.newPayload = .bytes data fits)
    (moved : readWriteLoop crc32 input sender = .ok (.running next)) :
    next.seqNum = sender.seqNum + 1 := by
  rcases frame_of_moved sound moved with ⟨revents, last, untils, seqNum, _⟩
  rcases passes_of_untilRead sound untils with ⟨middle, passes⟩
  rcases may.poll with ⟨pollin, polled⟩
  have reads : sender.ReadsInput input := by
    refine ⟨inTime_of_running moved, ?_, room⟩
    rw [polled]
    rfl
  have sends := passes.sends
  rw [if_pos reads] at sends
  have resent : last.seqNum = middle.seqNum := passes.resending.seqNum
  rw [seqNum, resent, send_seqNum sound room read sends]

/-- Otherwise, the first packet is sent again. -/
theorem MayResend.resends {input : SenderInput} {sender next : Sender}
    (may : MayResend input sender) (sound : sender.Sound) (opens : 0 < sender.sizeBuffer)
    (full : ¬sender.HasRoom) {head : Pkt} {rest : List Pkt}
    (nodes : sender.bufStructure.nodes = head :: rest)
    (moved : readWriteLoop crc32 input sender = .ok (.running next)) :
    next.sent = sender.sent ++
      [{ head with timestamp := (input.scan 0).stamp.setWidth 32 }.wireBytes crc32] := by
  rcases frame_of_moved sound moved with ⟨revents, last, untils, _, sent, _⟩
  rcases may.poll with ⟨pollin, polled⟩
  rcases may.due head (by rw [nodes]; rfl) with ⟨due, again, polledAgain⟩
  have inTime : ¬timedOut input.tpNow sender.tpGlobal = true := by
    rw [inTime_of_running moved]
    exact Bool.false_ne_true
  have near : ¬sender.sizeBuffer ≤ Serial.dist head.seqNum head.seqNum := by
    rw [Serial.dist_self]
    exact Nat.not_le.mpr opens
  have scans : sender.scanned input.scan ⟨pollin, true⟩ = (.again 0, ⟨again, true⟩) := by
    rw [scanned, nodes]
    simp only
    rw [scanFrom, if_neg near, if_pos due, polledAgain]
    rfl
  rw [untilRead, if_neg inTime, polled] at untils
  simp only [if_true, if_neg full, resend_eq crc32 sound, scans, afterScan] at untils
  cases untils
  have place : sender.bufStructure.nodes = [] ++ head :: rest := nodes
  rw [sent]
  exact congrArg Sender.sent (resendAt_append crc32 (input.scan 0).stamp place)

end ReliableTransfer.Sender
