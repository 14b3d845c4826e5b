import ReliableTransfer.Transfer.History
import ReliableTransfer.Receiver.Steps

/-!
# The way of a truncated packet

A congested network leaves the header of a data packet, and sets its flag `TR`. The receiver
answers with a `NACK` for the number of the packet, by which the sender finds it in its
buffer. The number does not always identify the packet (`Identifies`): it may have come
back as the number which ends the transfer, or as that of an earlier packet. As long as
no `read` of the input has failed, the buffer is too short for that.
-/

namespace ReliableTransfer

open QueueSender QueueReceiver

/-- The `NACK` for a packet. -/
def nackFor (pkt : Pkt) : Pkt :=
  Receiver.newAck ptypeNack 0 pkt.seqNum pkt.timestamp

theorem wellFormed_nackFor (pkt : Pkt) : (Receiver.clearMark (nackFor pkt)).WellFormed where
  type := ptypeNack_ne_zero
  trFlag := rfl
  short := Nat.zero_le _
  payload := rfl

variable {crc32 : List Byte → BitVec 32}

theorem length_ackBytes_nackFor (pkt : Pkt) :
    (Receiver.ackBytes crc32 (nackFor pkt)).length = ackSize :=
  Pkt.length_wireBytes crc32 (wellFormed_nackFor pkt).holdsPayload

namespace Sender

/-- The loop goes on with one packet of the buffer marked, and the others as they were. -/
def Marks (sender : Sender) (front : List Pkt) (held : Pkt) (back : List Pkt)
    (result : Except Fault (LoopFlow Sender SenderExit)) : Prop :=
  ∃ after, result = .ok (.running after) ∧
    after.bufStructure =
      { sender.bufStructure with nodes := front ++ { held with timestamp := 0 } :: back }

/--
The number of a buffered packet does not end the transfer, and no packet in front of it has
the number too, unless that one is marked already, and so is the packet.
-/
structure Identifies (sender : Sender) (front : List Pkt) (held : Pkt) : Prop where
  notLast : ¬(sender.isLastAckNum = true ∧ held.seqNum = sender.seqNum)
  first : ∀ first, front.find? (fun pkt => pkt.seqNum = held.seqNum) = some first →
    first.timestamp = 0 ∧ held.timestamp = 0

section Reading

variable {pkt held : Pkt} {front back : List Pkt} {input : SenderInput} {sender : Sender}

theorem readAck_nackFor {fits : (Receiver.ackBytes crc32 (nackFor pkt)).length ≤ ackSize}
    (arrives : input.ackRead = .bytes (Receiver.ackBytes crc32 (nackFor pkt)) fits)
    (sender : Sender) : ∃ pktNack, pktNack.seqNum = pkt.seqNum ∧
      readAck crc32 input sender =
        if sender.isLastAckNum = true ∧ pkt.seqNum = sender.seqNum
          then .ok (.returned .lastAck (sender.afterRead input))
          else .ok (.running ((sender.afterRead input).handleNack pktNack)) := by
  have content : (sender.bufAck.readInto input.ackRead).val =
      (Receiver.clearMark (nackFor pkt)).wireBytes crc32 := by
    rw [arrives]
    exact Buffer.val_readInto_of_length_eq (length_ackBytes_nackFor pkt)
  have decodes := pktDecode_wireBytes crc32 (wellFormed_nackFor pkt)
  refine ⟨(Receiver.clearMark (nackFor pkt)).received crc32, rfl, ?_⟩
  simp only [readAck, content, decodes]
  rfl

theorem marks_iff {fits : (Receiver.ackBytes crc32 (nackFor pkt)).length ≤ ackSize}
    (arrives : input.ackRead = .bytes (Receiver.ackBytes crc32 (nackFor pkt)) fits)
    (buffered : sender.bufStructure.nodes = front ++ held :: back)
    (number : held.seqNum = pkt.seqNum) :
    Marks sender front held back (readAck crc32 input sender) ↔ Identifies sender front held := by
  rcases readAck_nackFor arrives sender with ⟨pktNack, seqNum, reads⟩
  have marked : ((sender.afterRead input).handleNack pktNack).bufStructure =
      { sender.bufStructure with nodes := markNodes held.seqNum (front ++ held :: back) } := by
    rw [number, ← seqNum, ← buffered]
    rfl
  rw [reads, Marks]
  by_cases last : sender.isLastAckNum = true ∧ pkt.seqNum = sender.seqNum
  · rw [if_pos last]
    refine iff_of_false ?_ ?_
    · rintro ⟨after, ⟨⟩, _⟩
    · rintro ⟨notLast, _⟩
      exact notLast ⟨last.1, number.trans last.2⟩
  · rw [if_neg last]
    constructor
    · rintro ⟨after, ⟨⟩, same⟩
      rw [marked] at same
      refine ⟨?_, markNodes_eq_iff.mp (congrArg Queue.nodes same)⟩
      rwa [number]
    · rintro ⟨_, first⟩
      refine ⟨_, rfl, ?_⟩
      rw [marked, markNodes_eq_iff.mpr first]

/-- In a buffer of consecutive positions the number identifies each packet. -/
theorem Holds.identifies {file : InputFile} {oldest next : ℕ}
    (here : Holds file oldest next sender)
    (buffered : sender.bufStructure.nodes = front ++ held :: back) :
    Identifies sender front held := by
  have carried := here.carried
  have atEnd := here.held
  have few := here.few
  rw [buffered, Carried.append_iff] at carried
  rw [buffered, List.length_append, List.length_cons] at atEnd
  have number := carried.2.1.seqNum
  constructor
  · rintro ⟨_, same⟩
    rw [number, here.seqNum, Serial.wire_inj (by omega) (by omega)] at same
    omega
  · intro first found
    rcases carried.1.mem (List.mem_of_find?_eq_some found) with ⟨index, inside, carries⟩
    have same := List.find?_some found
    rw [decide_eq_true_eq, number, carries.seqNum,
      Serial.wire_inj (by omega) (by omega)] at same
    omega

end Reading

/-- In a run in which no `read` of the input fails, a number identifies each buffered packet. -/
theorem run_identifies {inputs : List SenderInput} {input : SenderInput}
    (reads : ∀ other ∈ inputs ++ [input], other.newPayload ≠ .failed) {tpGlobal : Time}
    {bufAck : Buffer ackSize} {before sender : Sender} {revents : Revents}
    (runs : Loop.run (readWriteLoop crc32) inputs (start tpGlobal bufAck) = .ok (.running before))
    (passes : untilRead crc32 input before = .ok (.running (revents, sender)))
    {held : Pkt} {front back : List Pkt}
    (buffered : sender.bufStructure.nodes = front ++ held :: back) :
    Identifies sender front held := by
  have earlier : ∀ other ∈ inputs, other.newPayload ≠ .failed :=
    fun other present => reads other (by simp [present])
  have logged := (logged_historyOf earlier tpGlobal bufAck).2 _ runs
  rcases logged.untilRead (reads input (by simp)) with ⟨_, file, oldest, same, recorded, _⟩
  rw [passes] at same
  cases same
  exact recorded.holds.identifies buffered

end Sender

/--
A data packet is encoded, truncated and answered, and its `NACK` is encoded and marks the
packet. With its flag set but not truncated, it would have been rejected.
-/
structure Recovers (crc32 : List Byte → BitVec 32) (pkt : Pkt) (buf : Buffer maxPacketSize)
    (wr : ℕ → WriteOutcome) (receiver : Receiver) (ackBuf : Buffer ackSize)
    (input : SenderInput) (sender : Sender) (front : List Pkt) (held : Pkt) (back : List Pkt) :
    Prop where
  encodes : ∃ encoded, pktEncode crc32 (some pkt) buf.val maxPacketSize = .ok encoded ∧
    encoded.status = .pktOk ∧ encoded.buf.take encoded.len = pkt.wireBytes crc32
  decodes : ∃ truncated,
    pktDecode crc32 true (setTr ((pkt.wireBytes crc32).take 12)) pktNew = .ok truncated ∧
      truncated.trFlag = 1 ∧ truncated.payload = none ∧ truncated.window = pkt.window ∧
      truncated.seqNum = pkt.seqNum ∧ truncated.length = pkt.length ∧
      truncated.timestamp = pkt.timestamp
  rejects : pktDecode crc32 true (setTr (pkt.wireBytes crc32)) pktNew = .error .eTr
  answers : Receiver.handleDatagram crc32 wr receiver (setTr ((pkt.wireBytes crc32).take 12)) =
    .ok (receiver.afterAck (nackFor pkt))
  encodesNack : ∃ encoded,
    pktEncode crc32 (some (Receiver.clearMark (nackFor pkt))) ackBuf.val ackSize = .ok encoded ∧
      encoded.status = .pktOk ∧
      encoded.buf.take encoded.len = Receiver.ackBytes crc32 (nackFor pkt)
  marks : Sender.Marks sender front held back (sender.readAck crc32 input)

variable (crc32)

theorem encodes_nackFor (pkt : Pkt) (ackBuf : Buffer ackSize) :
    ∃ encoded, pktEncode crc32 (some (Receiver.clearMark (nackFor pkt))) ackBuf.val ackSize =
        .ok encoded ∧ encoded.status = .pktOk ∧
      encoded.buf.take encoded.len = Receiver.ackBytes crc32 (nackFor pkt) := by
  have holds := (wellFormed_nackFor pkt).holdsPayload
  have size : (Receiver.clearMark (nackFor pkt)).wireSize = ackSize := rfl
  have encodes := pktEncode_eq crc32 ackBuf.val ackSize holds (by rw [size]; decide)
    (by rw [size, ackBuf.property])
  exact ⟨_, encodes, rfl, List.take_left' (Pkt.length_wireBytes crc32 holds)⟩

theorem handleDatagram_truncate {pkt : Pkt} (type : pkt.type = ptypeData)
    (short : pkt.length.toNat ≤ maxPayloadSize) {receiver : Receiver}
    (consistent : receiver.ackQueue.Consistent) (wr : ℕ → WriteOutcome) :
    receiver.handleDatagram crc32 wr (truncate (pkt.wireBytes crc32)) =
      .ok (receiver.afterAck (nackFor pkt)) := by
  rw [Receiver.handleDatagram, pktDecode_truncate crc32 type short]
  exact Receiver.queueAck_eq consistent ptypeNack 0 pkt.seqNum pkt.timestamp

/--
A truncated packet is recognized, and answered for the right number, in every state of the
receiver; and the sender marks it exactly when its number identifies it, which it does as
long as no `read` of the input has failed.
-/
theorem recovers_iff {pkt : Pkt} (type : pkt.type = ptypeData) (wellFormed : pkt.WellFormed)
    (nonempty : pkt.length ≠ 0) {receiver : Receiver} (consistent : receiver.ackQueue.Consistent)
    {input : SenderInput} {fits : (Receiver.ackBytes crc32 (nackFor pkt)).length ≤ ackSize}
    (arrives : input.ackRead = .bytes (Receiver.ackBytes crc32 (nackFor pkt)) fits)
    {sender : Sender} {front back : List Pkt} {held : Pkt}
    (buffered : sender.bufStructure.nodes = front ++ held :: back)
    (number : held.seqNum = pkt.seqNum) (buf : Buffer maxPacketSize) (wr : ℕ → WriteOutcome)
    (ackBuf : Buffer ackSize) :
    (Recovers crc32 pkt buf wr receiver ackBuf input sender front held back ↔
      sender.Identifies front held) ∧
    ∀ inputs tpGlobal bufAck before revents,
      (∀ other ∈ inputs ++ [input], other.newPayload ≠ .failed) →
      Loop.run (Sender.readWriteLoop crc32) inputs (Sender.start tpGlobal bufAck) =
        .ok (.running before) →
      before.untilRead crc32 input = .ok (.running (revents, sender)) → revents.pollin = true →
        before.readWriteLoop crc32 input = sender.readAck crc32 input ∧
          Recovers crc32 pkt buf wr receiver ackBuf input sender front held back := by
  have recovers : Recovers crc32 pkt buf wr receiver ackBuf input sender front held back ↔
      sender.Identifies front held := by
    rw [← Sender.marks_iff arrives buffered number]
    constructor
    · exact fun recovers => recovers.marks
    · intro marks
      rcases Sender.pktEncode_sendable crc32 ⟨wellFormed.holdsPayload, wellFormed.short⟩ buf with
        ⟨encoded, encodes, status, _, bytes⟩
      have decodes := pktDecode_truncate crc32 type wellFormed.short
      have answers := handleDatagram_truncate crc32 type wellFormed.short consistent wr
      rw [truncate_eq] at decodes answers
      exact ⟨⟨encoded, encodes, status, bytes⟩, ⟨_, decodes, rfl, rfl, rfl, rfl, rfl, rfl⟩,
        pktDecode_setTr crc32 type nonempty, answers, encodes_nackFor crc32 pkt ackBuf, marks⟩
  refine ⟨recovers, ?_⟩
  intro inputs tpGlobal bufAck before revents reads runs passes pollin
  refine ⟨?_, recovers.mpr (Sender.run_identifies reads runs passes buffered)⟩
  rw [Sender.readWriteLoop_eq, passes]
  exact if_pos pollin

/-- An iteration in which the `NACK` for a packet is read. -/
def nackExample (pkt : Pkt) : SenderInput :=
  Sender.ackExample
    (.bytes (Receiver.ackBytes Crc.zlib (nackFor pkt)) (length_ackBytes_nackFor pkt).le)

theorem recovers_example :
    Recovers Crc.zlib dataExample (.zeros _) (fun _ => .failed) (Receiver.start 0) (.zeros _)
      (nackExample dataExample)
      { Sender.start 0 (.zeros _) with bufStructure := .ofNodes [dataExample] } [] dataExample
      [] := by
  have wellFormed : dataExample.WellFormed :=
    ⟨by decide, by decide, by decide, ⟨[1, 2, 3], rfl, rfl⟩⟩
  exact (recovers_iff Crc.zlib rfl wellFormed (by decide) Queue.consistent_init rfl rfl rfl
    (.zeros _) (fun _ => .failed) (.zeros _)).1.mpr ⟨by decide, by decide⟩

/--
The packet numbered 1 is sent, then 254 calls of `read` fail, and the end of the input is
numbered 0: the next number is 1 again.
-/
def lostExample : List SenderInput :=
  [Sender.sendExample (Sender.byteExample 7), Sender.ackExample Sender.ackOneExample,
    Sender.sendExample (Sender.byteExample 8)] ++
  List.replicate 254
    { Sender.sendExample .failed with scan := fun _ => ⟨0, .ready ⟨false, false⟩, 0, .zeros _⟩ } ++
  [Sender.sendExample (.bytes [] (Nat.zero_le _))]

def lostExampleFinal : Sender :=
  match Loop.run (Sender.readWriteLoop Crc.zlib) lostExample (Sender.start 0 (.zeros _)) with
  | .ok flow => flow.state
  | .error _ => Sender.start 0 (.zeros _)

def lostPkt : Pkt :=
  (Sender.dataPkt [8] 1 0).withCrcs Crc.zlib

/-- The `NACK` for a buffered packet ends the transfer, because the number has come back. -/
theorem run_lostNumber :
    ¬∀ pkt, pkt.type = ptypeData → pkt.WellFormed → pkt.length ≠ 0 →
      ∀ inputs input fits before revents sender front held back,
        Loop.run (Sender.readWriteLoop Crc.zlib) inputs (Sender.start 0 (.zeros _)) =
          .ok (.running before) →
        before.untilRead Crc.zlib input = .ok (.running (revents, sender)) →
        revents.pollin = true →
        input.ackRead = .bytes (Receiver.ackBytes Crc.zlib (nackFor pkt)) fits →
        sender.bufStructure.nodes = front ++ held :: back → held.seqNum = pkt.seqNum →
          Recovers Crc.zlib pkt (.zeros _) (fun _ => .failed) (Receiver.start 0) (.zeros _) input
            sender front held back := by
  intro recovers
  have runs : Loop.run (Sender.readWriteLoop Crc.zlib) lostExample (Sender.start 0 (.zeros _)) =
      .ok (.running lostExampleFinal) := by
    decide +kernel
  have wellFormed : lostPkt.WellFormed := ⟨by decide, by decide, by decide, ⟨[8], rfl, rfl⟩⟩
  have passes : lostExampleFinal.untilRead Crc.zlib (nackExample lostPkt) =
      .ok (.running (⟨true, false⟩, lostExampleFinal)) := by
    decide +kernel
  have buffered : lostExampleFinal.bufStructure.nodes =
      [] ++ lostPkt :: [(Sender.endPkt 0 0).withCrcs Crc.zlib] := by
    decide +kernel
  have last : lostExampleFinal.isLastAckNum = true ∧ lostPkt.seqNum = lostExampleFinal.seqNum := by
    decide +kernel
  have marks := (recovers lostPkt rfl wellFormed (by decide) lostExample (nackExample lostPkt)
    (length_ackBytes_nackFor lostPkt).le _ _ _ _ _ _ runs passes rfl rfl buffered
    rfl).marks
  exact ((Sender.marks_iff rfl buffered rfl).mp marks).notLast last

end ReliableTransfer
