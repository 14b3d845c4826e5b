import ReliableTransfer.Transfer.Sender
import ReliableTransfer.Transfer.Receiver
import ReliableTransfer.Library.Crc
import Mathlib.Data.List.Forall2

/-!
# Safety of a transfer

The invariant of all reachable states joins what is known of the two parties by the
chain `oldest ≤ waited ≤ next ≤ oldest + 31`, and says what the datagrams in the
network carry. Delivery in order, the retention of undelivered packets and the
agreement on the end are read off it.
-/

namespace ReliableTransfer.Transfer

variable {crc32 : List Byte → BitVec 32} {file : InputFile} {transfer : Transfer}

/-- What holds of every reachable state. -/
structure Invariant (crc32 : List Byte → BitVec 32) (file : InputFile)
    (transfer : Transfer) : Prop where
  holds : Sender.Holds file transfer.oldest transfer.next transfer.sender.state
  waits : Receiver.Waits crc32 file transfer.next transfer.waited transfer.receiver.state
  behind : transfer.oldest ≤ transfer.waited
  complete : ∀ write ∈ transfer.receiver.state.writes, write.Complete
  data : ∀ entry ∈ transfer.data,
    entry.1 < transfer.next ∧ IsCopy crc32 file entry.1 entry.2
  acks : List.Forall₂ (fun ack position => AckFor transfer.waited transfer.next position ack)
    transfer.receiver.state.queued transfer.acks
  bufAck : Sender.Readable crc32 transfer.oldest transfer.waited transfer.next
    transfer.sender.state.bufAck
  ended : ∀ sender, transfer.sender = .returned .lastAck sender → transfer.waited = file.last + 1

theorem invariant_start (file : InputFile) (tpSender tpReceiver : Time) {bufAck : Buffer ackSize}
    {code : PktStatusCode} (unread : pktDecode crc32 true bufAck.val pktNew = .error code) :
    (start tpSender tpReceiver bufAck).Invariant crc32 file where
  holds := Sender.holds_start file tpSender bufAck
  waits := Receiver.waits_start file 0 tpReceiver
  behind := le_rfl
  complete := by
    intro write present
    cases present
  data := by
    intro entry present
    cases present
  acks := .nil
  bufAck := .inl ⟨code, unread⟩
  ended := by
    rintro sender ⟨⟩

namespace Invariant

theorem readable (invariant : transfer.Invariant crc32 file) {ackRead : ReadResult ackSize}
    (arrival : transfer.AckArrival crc32 ackRead) :
    Sender.Readable crc32 transfer.oldest transfer.waited transfer.next
      (transfer.sender.state.bufAck.readInto ackRead) := by
  cases arrival with
  | nothing _ nothing =>
      rw [Buffer.readInto_of_count_le nothing]
      exact invariant.bufAck
  | corrupted _ code rejected => exact .inl ⟨code, rejected⟩
  | copy index ack position fits sent numbered fresh =>
      have queued : transfer.receiver.state.queued[index]? = some ack.ack := by
        rcases List.getElem?_eq_some_iff.mp sent with ⟨inside, found⟩
        rw [Receiver.queued, List.getElem?_append_left (by simpa using inside), List.getElem?_map,
          sent]
        rfl
      have isAck : AckFor transfer.waited transfer.next position ack.ack := by
        have related := List.forall₂_iff_get.mp invariant.acks
        rcases List.getElem?_eq_some_iff.mp queued with ⟨inQueued, queuedAt⟩
        rcases List.getElem?_eq_some_iff.mp numbered with ⟨inAcks, numberedAt⟩
        have pair := related.2 index inQueued inAcks
        rw [List.get_eq_getElem, List.get_eq_getElem, queuedAt, numberedAt] at pair
        exact pair
      have bytes := invariant.waits.sound.encoded ack (List.mem_of_getElem? sent)
      have length : ack.bytes.length = ackSize := by
        rw [bytes]
        exact isAck.length_ackBytes crc32
      exact .inr ⟨position, ack.ack, isAck, fresh,
        (Buffer.val_readInto_of_length_eq length).trans bytes⟩

theorem arrived (invariant : transfer.Invariant crc32 file) {result : ReadResult maxPacketSize}
    {position : ℕ} (arrival : transfer.DataArrival crc32 result position) {data : List Byte}
    {fits : data.length ≤ maxPacketSize} (reads : result = .bytes data fits)
    (nonempty : data ≠ []) :
    Receiver.Arrived file transfer.next transfer.waited position
      (pktDecode crc32 true data pktNew) := by
  cases arrival with
  | nothing _ _ nothing =>
      rw [reads] at nothing
      exact absurd (by simpa [ReadResult.count] using nothing) nonempty
  | corrupted _ _ _ code rejected =>
      cases reads
      rw [rejected]
      exact .rejected code
  | copy _ _ _ sent fresh =>
      cases reads
      rcases invariant.data _ sent with ⟨below, copy⟩
      rcases copy.decodes with ⟨pkt, decodes, carries⟩
      rw [decodes]
      exact .copy pkt carries below fresh
  | truncated original _ _ sent =>
      cases reads
      rcases invariant.data _ sent with ⟨below, copy⟩
      rcases copy.decodes_truncate with ⟨pkt, decodes, flag, seqNum⟩
      rw [decodes]
      exact .truncated pkt flag seqNum below

theorem afterSender (invariant : transfer.Invariant crc32 file) {sender : Sender}
    {input : SenderInput} {flow : LoopFlow Sender SenderExit}
    (running : transfer.sender = .running sender)
    (reads : input.newPayload = file.read transfer.next)
    (arrival : transfer.AckArrival crc32 input.ackRead)
    (moves : sender.readWriteLoop crc32 input = .ok flow) :
    (transfer.afterSender flow).Invariant crc32 file := by
  have here : transfer.sender.state = sender := by rw [running, LoopFlow.state_running]
  have holds := invariant.holds
  have readable := invariant.readable arrival
  have stale := invariant.bufAck
  have behind := invariant.behind
  have waits := invariant.waits
  rw [here] at holds readable stale
  have iteration := Sender.readWriteLoop_iteration crc32 holds.sound input
  rw [moves] at iteration
  rcases iteration.moved holds behind waits.sent reads stale readable with
    ⟨later, further, moved⟩
  rcases moved.sends with ⟨new, sends, copies⟩
  have few := holds.few
  have held := moved.holds.held
  have ahead := moved.ahead
  have next : (transfer.afterSender flow).next = further := by
    change Serial.lift transfer.next transfer.sender.state.seqNum flow.state.seqNum = further
    rw [here, holds.seqNum, moved.holds.seqNum, Serial.lift_wire ahead.1 (by omega)]
  have oldest : (transfer.afterSender flow).oldest = later := by
    change (transfer.afterSender flow).next - flow.state.bufStructure.nodes.length = later
    omega
  have fresh : flow.state.sent.drop transfer.sender.state.sent.length = new := by
    rw [here, sends, List.drop_left]
  constructor
  · rw [oldest, next]
    exact moved.holds
  · rw [next]
    exact waits.mono ahead.1
  · rw [oldest]
    exact moved.acknowledged
  · exact invariant.complete
  · intro entry present
    rw [next]
    rcases List.mem_append.mp present with earlier | later
    · have known := invariant.data entry earlier
      exact ⟨known.1.trans_le ahead.1, known.2⟩
    · rw [fresh] at later
      rcases List.mem_map.mp later with ⟨data, isNew, rfl⟩
      rcases copies data isNew with ⟨position, low, high, copy⟩
      have located : transfer.position data = position := by
        rw [Transfer.position, copy.getD_one, Serial.lift_wire low (by omega)]
      rw [located]
      exact ⟨high, copy⟩
  · apply invariant.acks.imp
    intro ack position isAck
    rw [next]
    exact isAck.mono le_rfl ahead.1
  · rw [oldest, next]
    exact moved.bufAck
  · exact moved.ended

theorem afterReceiver (invariant : transfer.Invariant crc32 file) {receiver : Receiver}
    {input : ReceiverInput} {position : ℕ} {flow : LoopFlow Receiver ReceiverExit}
    (running : transfer.receiver = .running receiver)
    (arrival : transfer.DataArrival crc32 input.data position)
    (moves : receiver.readWriteLoop crc32 input = .ok flow)
    (complete : ∀ write ∈ flow.state.writes, write.Complete) :
    (transfer.afterReceiver flow position).Invariant crc32 file := by
  have here : transfer.receiver.state = receiver := by rw [running, LoopFlow.state_running]
  have holds := invariant.holds
  have behind := invariant.behind
  have few := holds.few
  have waits := invariant.waits
  rw [here] at waits
  rcases Receiver.readWriteLoop_iteration waits.sound input with ⟨_, again, iteration⟩
  rw [moves] at again
  cases again
  rcases iteration.moved waits holds.bounded (by omega)
    (fun data fits reads nonempty => invariant.arrived arrival reads nonempty) with ⟨later, moved⟩
  rcases moved.acks with ⟨new, queued, isAcks⟩
  have ahead := moved.ahead
  have sent := moved.waits.sent
  have waited : (transfer.afterReceiver flow position).waited = later := by
    change Serial.lift transfer.waited transfer.receiver.state.waitedSeqNum
      flow.state.waitedSeqNum = later
    rw [here, waits.waitedSeqNum, moved.waits.waitedSeqNum, Serial.lift_wire ahead (by omega)]
  have fresh : flow.state.queued.drop transfer.receiver.state.queued.length = new := by
    rw [here, queued, List.drop_left]
  have acks : (transfer.afterReceiver flow position).acks =
      transfer.acks ++ new.map fun ack => if ack.type = ptypeNack then position else later := by
    rw [← waited, ← fresh]
    rfl
  constructor
  · exact holds
  · rw [waited]
    exact moved.waits
  · rw [waited]
    exact behind.trans ahead
  · exact complete
  · exact invariant.data
  · rw [acks, waited]
    change List.Forall₂ _ flow.state.queued _
    rw [queued]
    apply List.rel_append
    · have earlier := invariant.acks
      rw [here] at earlier
      exact earlier.imp fun ack position isAck => isAck.mono ahead le_rfl
    · rw [List.forall₂_map_right_iff, List.forall₂_same]
      exact isAcks
  · rw [waited]
    exact invariant.bufAck.mono ahead le_rfl
  · intro sender ended
    have atEnd := invariant.ended sender ended
    have bounded := holds.bounded
    omega

end Invariant

theorem Step.invariant {after : Transfer} (step : Step crc32 file transfer after)
    (invariant : transfer.Invariant crc32 file) : after.Invariant crc32 file := by
  cases step with
  | sender sender input flow running reads arrival moves =>
      exact invariant.afterSender running reads arrival moves
  | receiver receiver input position flow running arrival moves complete =>
      exact invariant.afterReceiver running arrival moves complete

theorem invariant_of_reachable (reachable : transfer.Reachable crc32 file) :
    transfer.Invariant crc32 file := by
  rcases reachable with ⟨tpSender, tpReceiver, bufAck, code, unread, run⟩
  induction run with
  | refl => exact invariant_start file tpSender tpReceiver unread
  | tail _ step ih => exact step.invariant ih

theorem Reachable.step {after : Transfer} (reachable : transfer.Reachable crc32 file)
    (step : Step crc32 file transfer after) : after.Reachable crc32 file := by
  rcases reachable with ⟨tpSender, tpReceiver, bufAck, code, unread, run⟩
  exact ⟨tpSender, tpReceiver, bufAck, code, unread, run.tail step⟩

def senderMoves (transfer : Transfer) (input : SenderInput) : Transfer :=
  match transfer.sender.state.readWriteLoop Crc.zlib input with
  | .ok flow => transfer.afterSender flow
  | .error _ => transfer

def receiverMoves (transfer : Transfer) (input : ReceiverInput) (position : ℕ) : Transfer :=
  match transfer.receiver.state.readWriteLoop Crc.zlib input with
  | .ok flow => transfer.afterReceiver flow position
  | .error _ => transfer

theorem step_senderMoves (input : SenderInput)
    (running : transfer.sender = .running transfer.sender.state)
    (reads : input.newPayload = file.read transfer.next)
    (arrival : transfer.AckArrival Crc.zlib input.ackRead)
    (moves : (transfer.sender.state.readWriteLoop Crc.zlib input).isOk = true) :
    Step Crc.zlib file transfer (transfer.senderMoves input) := by
  rw [senderMoves]
  cases result : transfer.sender.state.readWriteLoop Crc.zlib input with
  | ok flow => exact .sender transfer _ input flow running reads arrival result
  | error fault =>
      rw [result] at moves
      cases moves

theorem step_receiverMoves (input : ReceiverInput) (position : ℕ)
    (running : transfer.receiver = .running transfer.receiver.state)
    (arrival : transfer.DataArrival Crc.zlib input.data position)
    (moves : (transfer.receiver.state.readWriteLoop Crc.zlib input).isOk = true)
    (complete : ∀ write ∈ (transfer.receiverMoves input position).receiver.state.writes,
      write.Complete) :
    Step Crc.zlib file transfer (transfer.receiverMoves input position) := by
  rw [receiverMoves] at complete ⊢
  cases result : transfer.receiver.state.readWriteLoop Crc.zlib input with
  | ok flow =>
      rw [result] at complete
      exact .receiver transfer _ input position flow running arrival result complete
  | error fault =>
      rw [result] at moves
      cases moves

def fileExample : InputFile where
  chunks := [[7]]
  nonempty := by decide
  short := by decide

/-- An iteration in which the socket of the receiver is readable and yields a datagram. -/
def readExample (data : ReadResult maxPacketSize) : ReceiverInput where
  tpNow := 0
  poll := .ready ⟨true, false⟩
  ackBuf := .zeros _
  data := data
  readTime := 0
  wr _ := .wrote maxPayloadSize

/-- The encoded data packet, the encoded end packet, and the `ACK` for each of them. -/
def dataBytes : List Byte :=
  [0x5f, 0, 0, 1, 0, 0, 0, 0, 0xd4, 0x44, 0x17, 0xb3, 7, 0x4c, 0x66, 0x7a, 0x2e]

theorem length_dataBytes : dataBytes.length ≤ maxPacketSize := by
  decide

def endBytes : List Byte :=
  [0x40, 1, 0, 0, 0, 0, 0, 0, 0xea, 0xc8, 0x16, 0x30]

def dataAckBytes : List Byte :=
  [0x9f, 1, 0, 0, 0, 0, 0, 0, 0x35, 0xf5, 0x72, 0x80]

def endAckBytes : List Byte :=
  [0x9f, 2, 0, 0, 0, 0, 0, 0, 0x04, 0x1d, 0x68, 0x1d]

/-- Packet 0 has been sent and has arrived. -/
def arrivedExample : Transfer :=
  ((start 0 0 (.zeros ackSize)).senderMoves
    (Sender.sendExample (fileExample.read 0))).receiverMoves
      (readExample (.bytes dataBytes length_dataBytes)) 0

theorem reachable_arrivedExample : arrivedExample.Reachable Crc.zlib fileExample := by
  have started : (start 0 0 (.zeros ackSize)).Reachable Crc.zlib fileExample :=
    ⟨0, 0, .zeros ackSize, .eType, by decide +kernel, .refl⟩
  apply Reachable.step
  · apply started.step
    exact step_senderMoves (Sender.sendExample (fileExample.read 0)) rfl rfl
      (.nothing _ (by decide)) (by decide +kernel)
  · exact step_receiverMoves (readExample (.bytes dataBytes length_dataBytes)) 0 (by decide +kernel)
      (.copy dataBytes _ 0 (by decide +kernel) (by decide +kernel)) (by decide +kernel)
      (by decide +kernel)

def flushExample : ReceiverInput :=
  { readExample .failed with poll := .ready ⟨false, true⟩ }

/-- An iteration of the sender which reads an acknowledgement, with the input at its end. -/
def answerExample (data : ReadResult ackSize) : SenderInput :=
  { Sender.ackExample data with newPayload := fileExample.read 1 }

def flushedExample : Transfer :=
  arrivedExample.receiverMoves flushExample 0

def answeredExample : Transfer :=
  flushedExample.senderMoves (answerExample (.bytes dataAckBytes (by decide)))

/-- The end packet has been sent and has arrived. -/
def closingExample : Transfer :=
  (answeredExample.senderMoves (Sender.sendExample (fileExample.read 1))).receiverMoves
    (readExample (.bytes endBytes (by decide))) 1

/-- The closing `ACK` has been sent and has arrived. -/
def endedExample : Transfer :=
  (closingExample.receiverMoves flushExample 0).senderMoves
    (answerExample (.bytes endAckBytes (by decide)))

theorem reachable_closingExample : closingExample.Reachable Crc.zlib fileExample := by
  have flushed : flushedExample.Reachable Crc.zlib fileExample := by
    apply reachable_arrivedExample.step
    exact step_receiverMoves flushExample 0 (by decide +kernel) (.nothing _ 0 (by decide))
      (by decide +kernel) (by decide +kernel)
  have answered : answeredExample.Reachable Crc.zlib fileExample := by
    apply flushed.step
    exact step_senderMoves (answerExample (.bytes dataAckBytes (by decide))) (by decide +kernel)
      (by decide +kernel) (.copy 0 ⟨Receiver.newAck ptypeAck 0 1 0, dataAckBytes⟩ 1 (by decide)
        (by decide +kernel) (by decide +kernel) (by decide +kernel)) (by decide +kernel)
  apply Reachable.step
  · apply answered.step
    exact step_senderMoves (Sender.sendExample (fileExample.read 1)) (by decide +kernel)
      (by decide +kernel) (.nothing _ (by decide)) (by decide +kernel)
  · exact step_receiverMoves (readExample (.bytes endBytes (by decide))) 1 (by decide +kernel)
      (.copy endBytes _ 1 (by decide +kernel) (by decide +kernel)) (by decide +kernel)
      (by decide +kernel)

theorem reachable_endedExample : endedExample.Reachable Crc.zlib fileExample := by
  apply Reachable.step
  · apply reachable_closingExample.step
    exact step_receiverMoves flushExample 0 (by decide +kernel) (.nothing _ 0 (by decide))
      (by decide +kernel) (by decide +kernel)
  · exact step_senderMoves (answerExample (.bytes endAckBytes (by decide))) (by decide +kernel)
      (by decide +kernel) (.copy 1 ⟨Receiver.newAck ptypeAck 1 2 0, endAckBytes⟩ 2 (by decide)
        (by decide +kernel) (by decide +kernel) (by decide +kernel)) (by decide +kernel)

def reorderedFile : InputFile where
  chunks := [[7], [8], [9]]
  nonempty := by decide
  short := by decide

/-- The encoded data packets 1 and 2 of this file; its first packet is the same as above. -/
def secondBytes : List Byte :=
  [0x5f, 1, 0, 1, 0, 0, 0, 0, 0x72, 0x33, 0x1c, 7, 8, 0xdc, 0xd9, 0x67, 0xbf]

def thirdBytes : List Byte :=
  [0x5f, 2, 0, 1, 0, 0, 0, 0, 0x43, 0xdb, 6, 0x9a, 9, 0xab, 0xde, 0x57, 0x29]

/-- The acknowledgement of packet 0 is read. -/
def openingExample : SenderInput :=
  { answerExample (.bytes dataAckBytes (by decide)) with newPayload := reorderedFile.read 1 }

/-- Packet 0 has arrived and has been acknowledged, so that the window is open. -/
def openedExample : Transfer :=
  ((((start 0 0 (.zeros ackSize)).senderMoves
    (Sender.sendExample (reorderedFile.read 0))).receiverMoves
      (readExample (.bytes dataBytes length_dataBytes)) 0).receiverMoves flushExample 1).senderMoves
        openingExample

/-- Packets 1 and 2 have been sent, and the later one has arrived. -/
def aheadExample : Transfer :=
  ((openedExample.senderMoves (Sender.sendExample (reorderedFile.read 1))).senderMoves
    (Sender.sendExample (reorderedFile.read 2))).receiverMoves
      (readExample (.bytes thirdBytes (by decide))) 2

/-- The earlier one has arrived, too. -/
def reorderedExample : Transfer :=
  aheadExample.receiverMoves (readExample (.bytes secondBytes (by decide))) 1

theorem reachable_openedExample : openedExample.Reachable Crc.zlib reorderedFile := by
  have started : (start 0 0 (.zeros ackSize)).Reachable Crc.zlib reorderedFile :=
    ⟨0, 0, .zeros ackSize, .eType, by decide +kernel, .refl⟩
  apply Reachable.step
  · apply Reachable.step
    · apply Reachable.step
      · apply started.step
        exact step_senderMoves (Sender.sendExample (reorderedFile.read 0)) rfl rfl
          (.nothing _ (by decide)) (by decide +kernel)
      · exact step_receiverMoves (readExample (.bytes dataBytes length_dataBytes)) 0
          (by decide +kernel) (.copy dataBytes _ 0 (by decide +kernel) (by decide +kernel))
          (by decide +kernel) (by decide +kernel)
    · exact step_receiverMoves flushExample 1 (by decide +kernel) (.nothing _ 1 (by decide))
        (by decide +kernel) (by decide +kernel)
  · exact step_senderMoves openingExample (by decide +kernel) (by decide +kernel)
      (.copy 0 ⟨Receiver.newAck ptypeAck 0 1 0, dataAckBytes⟩ 1 (by decide) (by decide +kernel)
        (by decide +kernel) (by decide +kernel)) (by decide +kernel)

theorem reachable_aheadExample : aheadExample.Reachable Crc.zlib reorderedFile := by
  apply Reachable.step
  · apply Reachable.step
    · apply reachable_openedExample.step
      exact step_senderMoves (Sender.sendExample (reorderedFile.read 1)) (by decide +kernel)
        (by decide +kernel) (.nothing _ (by decide)) (by decide +kernel)
    · exact step_senderMoves (Sender.sendExample (reorderedFile.read 2)) (by decide +kernel)
        (by decide +kernel) (.nothing _ (by decide)) (by decide +kernel)
  · exact step_receiverMoves (readExample (.bytes thirdBytes (by decide))) 2 (by decide +kernel)
      (.copy thirdBytes _ 2 (by decide +kernel) (by decide +kernel)) (by decide +kernel)
      (by decide +kernel)

theorem reachable_reorderedExample : reorderedExample.Reachable Crc.zlib reorderedFile := by
  apply reachable_aheadExample.step
  exact step_receiverMoves (readExample (.bytes secondBytes (by decide))) 1 (by decide +kernel)
    (.copy secondBytes _ 1 (by decide +kernel) (by decide +kernel)) (by decide +kernel)
    (by decide +kernel)

/--
In every reachable state, exactly the chunks below the position which the receiver
waits for have been written, in order.
-/
theorem written_eq_chunks (reachable : transfer.Reachable crc32 file) :
    transfer.receiver.state.waitedSeqNum = Serial.wire 8 transfer.waited ∧
      transfer.waited ≤ file.last + 1 ∧
      transfer.receiver.state.written = (file.chunks.take transfer.waited).flatten := by
  have invariant := invariant_of_reachable reachable
  have waits := invariant.waits
  exact ⟨waits.waitedSeqNum, waits.sent.trans invariant.holds.bounded,
    waits.written invariant.complete⟩

/-- The last two of three chunks arrive in the wrong order. -/
theorem written_eq_chunks_example :
    reorderedExample.waited = 3 ∧ reorderedExample.receiver.state.written = [7, 8, 9] ∧
      reorderedExample.receiver.state.waitedSeqNum = Serial.wire 8 reorderedExample.waited ∧
      reorderedExample.waited ≤ reorderedFile.last + 1 ∧
      reorderedExample.receiver.state.written =
        (reorderedFile.chunks.take reorderedExample.waited).flatten := by
  have waited : reorderedExample.waited = 3 := by decide +kernel
  have safe := written_eq_chunks reachable_reorderedExample
  refine ⟨waited, ?_, safe⟩
  rw [safe.2.2, waited]
  rfl

/--
As long as the sender runs, the receiver waits for a position between the oldest
one which the sender holds and the next one, at most 31 positions further; and the sender
holds every position from there on, with its payload. The two positions are those
which the programs number.
-/
theorem undelivered_held (reachable : transfer.Reachable crc32 file) {sender : Sender}
    (running : transfer.sender = .running sender) :
    sender.seqNum = Serial.wire 8 transfer.next ∧
      transfer.receiver.state.waitedSeqNum = Serial.wire 8 transfer.waited ∧
      transfer.oldest ≤ transfer.waited ∧ transfer.waited ≤ transfer.next ∧
      transfer.next ≤ transfer.oldest + 31 ∧
      ∀ position, transfer.waited ≤ position → position < transfer.next →
        ∃ pkt, sender.bufStructure.nodes[position - transfer.oldest]? = some pkt ∧
          Carries file position pkt := by
  have invariant := invariant_of_reachable reachable
  have holds := invariant.holds
  have behind := invariant.behind
  rw [running, LoopFlow.state_running] at holds
  refine ⟨holds.seqNum, invariant.waits.waitedSeqNum, behind, invariant.waits.sent,
    holds.few, ?_⟩
  intro position low high
  have held := holds.held
  rcases holds.carried.getElem? (show position - transfer.oldest < _ by omega) with
    ⟨pkt, found, carries⟩
  rw [Nat.add_sub_cancel' (behind.trans low)] at carries
  exact ⟨pkt, found, carries⟩

/-- Positions 1 and 2 have been sent, and the receiver waits for the first of them. -/
theorem undelivered_held_example :
    aheadExample.waited = 1 ∧ aheadExample.next = 3 ∧
      ∃ sender, aheadExample.sender = .running sender ∧
        sender.seqNum = Serial.wire 8 aheadExample.next ∧
        aheadExample.receiver.state.waitedSeqNum = Serial.wire 8 aheadExample.waited ∧
        aheadExample.oldest ≤ aheadExample.waited ∧
        aheadExample.waited ≤ aheadExample.next ∧
        aheadExample.next ≤ aheadExample.oldest + 31 ∧
        ∀ position, aheadExample.waited ≤ position → position < aheadExample.next →
          ∃ pkt, sender.bufStructure.nodes[position - aheadExample.oldest]? = some pkt ∧
            Carries reorderedFile position pkt := by
  have running : aheadExample.sender = .running aheadExample.sender.state := by
    decide +kernel
  exact ⟨by decide +kernel, by decide +kernel, _, running,
    undelivered_held reachable_aheadExample running⟩

/--
When the sender returns because of a received packet, and when the receiver has
queued its closing acknowledgement, the whole input has been written; and then no packet
is waiting in the receiver's queue.
-/
theorem written_at_end (reachable : transfer.Reachable crc32 file) :
    (∀ sender, transfer.sender = .returned .lastAck sender →
        transfer.receiver.state.written = file.chunks.flatten) ∧
      (transfer.receiver.state.ClosingQueued →
        transfer.receiver.state.written = file.chunks.flatten ∧
          transfer.receiver.state.pktQueue.nodes = []) := by
  have invariant := invariant_of_reachable reachable
  have waits := invariant.waits
  have whole (atEnd : transfer.waited = file.last + 1) :
      transfer.receiver.state.written = file.chunks.flatten := by
    have all : file.chunks.length ≤ file.last + 1 := Nat.le_succ _
    rw [waits.written invariant.complete, atEnd, List.take_of_length_le all]
  refine ⟨fun sender ended => whole (invariant.ended sender ended), ?_⟩
  intro closing
  have atEnd := waits.closing closing
  refine ⟨whole atEnd, ?_⟩
  rcases waits.progress with ⟨reference, _, assembles, _, here⟩ | ⟨_, empty⟩
  · have inside := assembles.bounded
    omega
  · exact empty

theorem written_at_end_example :
    endedExample.sender = .returned .lastAck endedExample.sender.state ∧
      endedExample.receiver.state.ClosingQueued ∧
      endedExample.receiver.state.written = fileExample.chunks.flatten ∧
      endedExample.receiver.state.pktQueue.nodes = [] := by
  have ended : endedExample.sender = .returned .lastAck endedExample.sender.state := by
    decide +kernel
  have closing : endedExample.receiver.state.ClosingQueued :=
    ⟨Receiver.newAck ptypeAck 1 2 0, by decide +kernel, rfl⟩
  have atEnd := written_at_end reachable_endedExample
  exact ⟨ended, closing, atEnd.1 _ ended, (atEnd.2 closing).2⟩

end ReliableTransfer.Transfer
