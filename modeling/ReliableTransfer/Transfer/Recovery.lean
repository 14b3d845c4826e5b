import ReliableTransfer.Transfer.Agreement
import ReliableTransfer.Sender.Progress
import ReliableTransfer.Receiver.Progress
import ReliableTransfer.Receiver.Delivery

/-!
# Recovery from losses

Whatever is lost, the transfer can still be completed as long as both parties are in their
loops: the sender sends its oldest packet again, the receiver answers this with an `ACK`
for a later position, and so on. Once the receiver has left its loop nobody answers any
more, and the sender cannot end normally if the last acknowledgement is lost.
-/

namespace ReliableTransfer

open QueueReceiver

theorem IsCopy.length_le {crc32 : List Byte → BitVec 32} {file : InputFile} {position : ℕ}
    {data : List Byte} (copy : IsCopy crc32 file position data) : data.length ≤ maxPacketSize := by
  rcases copy with ⟨pkt, carries, rfl⟩
  rw [Pkt.length_wireBytes crc32 carries.wellFormed.holdsPayload]
  exact (Sender.sendable_of_carries carries).wireSize_le

/-- The machine moves forward, or is closed. -/
theorem Reference.accept_advances {file : InputFile} {reference : Reference} {pkt : Pkt}
    (carries : Carries file reference.assembly.next pkt) :
    (reference.accept pkt).closed = true ∨
      reference.assembly.next < (reference.accept pkt).assembly.next := by
  have notTruncated : ¬pkt.trFlag = 1 := by
    rw [carries.trFlag]
    decide
  have here : reference.offset pkt = 0 := by
    rw [offset, carries.seqNum, Serial.dist_self]
  have inside : reference.offset pkt ≤ 30 := by omega
  rw [accept, if_neg notTruncated, dif_pos inside]
  split
  · exact .inl rfl
  · have taken : (reference.slotsWith pkt).get reference.assembly.next ≠ none := by
      rw [slotsWith, here, Nat.add_zero, Slots.get_store]
      simp
    have ahead : reference.assembly.next < (reference.store pkt inside).assembly.next := by
      apply lt_of_le_of_ne (Reassembly.next_le_put _ _ _)
      intro same
      have stays : reference.assembly.next =
          (reference.slotsWith pkt).firstFree reference.assembly.next := same
      apply taken
      rw [stays]
      exact (reference.slotsWith pkt).get_firstFree _
    simp only
    split
    · exact .inl rfl
    · exact .inr ahead

theorem AckFor.decodes_ack {waited next position : ℕ} {ack : Pkt}
    (ackFor : AckFor waited next position ack) (crc32 : List Byte → BitVec 32)
    (isAck : ack.type = ptypeAck) :
    ∃ pktAck, pktDecode crc32 true (Receiver.ackBytes crc32 ack) pktNew = .ok pktAck ∧
      pktAck.window = 31 ∧ pktAck.seqNum = Serial.wire 8 position ∧ pktAck.type = ptypeAck ∧
      position ≤ waited := by
  cases ackFor with
  | ack _ _ delivered =>
      exact ⟨_, pktDecode_wireBytes crc32 ⟨ptypeAck_ne_zero, rfl, Nat.zero_le _, rfl⟩, rfl, rfl,
        rfl, delivered⟩
  | nack => cases isAck

namespace Sender

variable {crc32 : List Byte → BitVec 32} {file : InputFile} {oldest waited next : ℕ}

/-- As long as the sender stays in its loop, it has not read of the position behind the end. -/
theorem Iteration.moved_running {input : SenderInput} {before after : Sender}
    (iteration : Iteration crc32 input before (.ok (.running after)))
    (here : Holds file oldest next before) (behind : oldest ≤ min waited file.last)
    (sent : waited ≤ next) (reads : input.newPayload = file.read next)
    (stale : Readable crc32 oldest (min waited file.last) next before.bufAck)
    (arrived : Readable crc32 oldest waited next (before.bufAck.readInto input.ackRead)) :
    ∃ later further, Moved crc32 file (min waited file.last) oldest next before
      (.running after) later further := by
  have sentMin := (min_le_left waited file.last).trans sent
  rcases arrived with rejected | ⟨position, ack, isAck, fresh, holds⟩
  · exact iteration.moved here behind sentMin reads stale (.inl rejected)
  by_cases inside : position ≤ file.last
  · refine iteration.moved here behind sentMin reads stale (.inr ⟨position, ack, ?_, fresh, holds⟩)
    cases isAck with
    | ack trFlag timestamp delivered => exact .ack trFlag timestamp (le_min delivered inside)
    | nack timestamp below => exact .nack timestamp below
  -- Everything has been sent and acknowledged, so to read this would end the loop.
  have bounded := here.bounded
  rcases isAck.decodes crc32 with ⟨pktRead, decoded, _, seqNum, ⟨type, delivered⟩ | ⟨_, below⟩⟩
  swap
  · omega
  have content {last : Sender} (same : last.bufAck = before.bufAck) :
      pktDecode crc32 true (last.afterRead input).bufAck.val pktNew = .ok pktRead := by
    rw [← decoded, ← holds, afterRead, same]
  cases iteration with
  | quiet middle _ sending resending =>
      rcases holds_of_sending sending resending here reads with
        ⟨further, low, high, there, sends, sameBuf⟩
      refine ⟨oldest, further, there, behind, ⟨low, high⟩, sends, ?_, ?_⟩
      · rw [LoopFlow.state_running, sameBuf]
        exact stale.mono le_rfl low
      · rintro final ⟨⟩
  | rejects middle last sending resending code rejected =>
      rcases holds_of_sending sending resending here reads with ⟨_, _, _, _, _, sameBuf⟩
      rw [content sameBuf] at rejected
      cases rejected
  | answers middle last sending resending pktAck decodes result answering =>
      rcases holds_of_sending sending resending here reads with
        ⟨further, low, high, there, _, sameBuf⟩
      rw [content sameBuf] at decodes
      cases decodes
      have bounded' := there.bounded
      have atEnd : further = file.last + 1 := by omega
      have same : position = further := by omega
      have ends : (last.afterRead input).EndsTransfer pktRead := by
        refine ⟨there.isLastAckNum.mpr atEnd, ?_⟩
        rw [seqNum, same]
        exact there.seqNum.symm
      cases answering with
      | acknowledges notLast => exact absurd ends notLast
      | marks isNack =>
          rw [type] at isNack
          exact absurd isNack (by decide)
      | ignores otherType => exact absurd type otherType

/-- Before the end packet is sent there is room, if nothing is buffered. -/
theorem Ready.hasRoom {sender : Sender} (ready : sender.Ready)
    (here : Holds file oldest next sender) (pending : oldest ≤ file.last)
    (empty : sender.bufStructure.nodes = []) : sender.HasRoom := by
  have held := here.held
  rw [empty, List.length_nil] at held
  have notLast : sender.isLastAckNum = false := by
    apply Bool.eq_false_of_not_eq_true
    rw [here.isLastAckNum]
    omega
  have size : sender.bufStructure.size = 0 := by
    rw [here.sound.consistent, empty]
    rfl
  refine ⟨?_, notLast⟩
  rw [size]
  exact Int.natCast_pos.mpr ready.window

end Sender

namespace Receiver

variable {crc32 : List Byte → BitVec 32} {file : InputFile} {next waited position : ℕ}

/-- A copy is answered with an `ACK`, which goes past the copy if this was waited for. -/
theorem handleDecoded_copy {receiver after : Receiver} {wr : ℕ → WriteOutcome} {pkt : Pkt}
    (waits : Waits crc32 file next waited receiver) (bounded : next ≤ file.last + 1)
    (near : next ≤ waited + 31) (carries : Carries file position pkt) (sent : position < next)
    (fresh : waited ≤ position + 225) (handled : receiver.handleDecoded wr (.ok pkt) = .ok after) :
    ∃ ack, after.queued = receiver.queued ++ [ack] ∧ ack.type = ptypeAck ∧
      (position = waited → ∃ later, waited < later ∧ later ≤ next ∧
        after.waitedSeqNum = Serial.wire 8 later) := by
  have notTruncated : ¬pkt.trFlag = 1 := by
    rw [carries.trFlag]
    decide
  rcases waits.progress with ⟨reference, holds, assembles, stillOpen, here⟩ | ⟨atEnd, _⟩
  · subst here
    rcases handleDecoded_lockstep waits.sound.ackQueue holds stillOpen wr (.ok pkt) with
      ⟨_, handles, lockstep⟩
    rw [handled] at handles
    cases handles
    have received := (assembles_receive assembles stillOpen bounded near
      (.copy pkt carries sent fresh)).1
    rw [Reference.receive_ok stillOpen] at lockstep received
    cases lockstep with
    | truncated other decodes flag =>
        cases decodes
        exact absurd flag notTruncated
    | acknowledged middle timestamp unclosed _ matched ackQueue sameSent =>
        have queued := queued_afterAck middle (newAck ptypeAck 0 middle.waitedSeqNum timestamp)
        rw [queued_congr ackQueue sameSent] at queued
        refine ⟨_, queued, rfl, ?_⟩
        rintro rfl
        refine ⟨_, ?_, received.sent, matched.waitedSeqNum⟩
        rcases Reference.accept_advances carries with closed | ahead
        · rw [unclosed] at closed
          cases closed
        · exact ahead
    | closes middle timestamp closed announced matched ackQueue sameSent =>
        have queued := queued_afterAck { middle with waitedSeqNum := middle.waitedSeqNum + 1 }
          (newAck ptypeAck 1 (middle.waitedSeqNum + 1) timestamp)
        have sameQueued : { middle with waitedSeqNum := middle.waitedSeqNum + 1 }.queued =
            receiver.queued := queued_congr ackQueue sameSent
        rw [sameQueued] at queued
        refine ⟨_, queued, rfl, ?_⟩
        rintro rfl
        rcases Option.isSome_iff_exists.mp announced with ⟨endNum, found⟩
        have lastSent := (received.endNum endNum found).2
        have inside := assembles.bounded
        refine ⟨file.last + 1, by omega, lastSent, ?_⟩
        change middle.waitedSeqNum + 1 = _
        rw [matched.waitedSeqNum, received.closed closed, Serial.wire_add]
        rfl
  · have outside : ¬receiver.inWindow pkt := by
      rw [inWindow_iff, waits.waitedSeqNum, carries.seqNum,
        Serial.dist_wire_of_lt (by omega) (by omega)]
      omega
    rw [handleDecoded, handlePacket, if_neg notTruncated, if_neg outside,
      queueAck_eq waits.sound.ackQueue] at handled
    cases handled
    exact ⟨_, queued_afterAck receiver _, rfl, by omega⟩

/-- Delivered packets are written completely if `write` takes as much as it is given. -/
theorem complete_writesOf {writes : List Write} {earlier : ℕ} {run : List Pkt}
    (delivered : Carried file 0
      ((writes ++ writesOf (fun _ => .wrote maxPayloadSize) earlier run).map Write.pkt)) :
    ∀ write ∈ writesOf (fun _ => .wrote maxPayloadSize) earlier run, write.Complete := by
  rw [List.map_append, map_pkt_writesOf, Carried.append_iff] at delivered
  rw [forall_mem_writesOf]
  intro index inRun
  rcases delivered.2.mem (List.getElem_mem inRun) with ⟨offset, _, carries⟩
  have short := file.length_chunk_le (0 + (writes.map Write.pkt).length + offset)
  rw [Write.Complete, Write.bytes]
  simp only
  rw [carries.wirePayload, List.take_of_length_le short, carries.length]

end Receiver

namespace Transfer

variable {crc32 : List Byte → BitVec 32} {file : InputFile} {base transfer : Transfer}

/-- What the sender may read when everything is lost which has been sent before `base`. -/
inductive AckAfterLoss (crc32 : List Byte → BitVec 32) (base transfer : Transfer) :
    ReadResult ackSize → Prop where
  | nothing (data : ReadResult ackSize) (nothing : data.count ≤ 0) :
      AckAfterLoss crc32 base transfer data
  | corrupted (data : ReadResult ackSize) (code : PktStatusCode)
      (rejected : pktDecode crc32 true (transfer.sender.state.bufAck.readInto data).val pktNew =
        .error code) : AckAfterLoss crc32 base transfer data
  | copy (index : ℕ) (ack : SentAck) (position : ℕ) (fits : ack.bytes.length ≤ ackSize)
      (later : base.receiver.state.sent.length ≤ index)
      (sent : transfer.receiver.state.sent[index]? = some ack)
      (numbered : transfer.acks[index]? = some position)
      (fresh : transfer.oldest ≤ position + 224) :
      AckAfterLoss crc32 base transfer (.bytes ack.bytes fits)

/-- What the receiver may read then. -/
def DataAfterLoss (crc32 : List Byte → BitVec 32) (base transfer : Transfer) :
    ReadResult maxPacketSize → ℕ → Prop :=
  { transfer with data := transfer.data.drop base.data.length }.DataArrival crc32

/-- A step in which nothing arrives which has been sent before `base`. -/
inductive StepAfterLoss (crc32 : List Byte → BitVec 32) (file : InputFile) (base : Transfer) :
    Transfer → Transfer → Prop where
  | sender (transfer : Transfer) (sender : Sender) (input : SenderInput)
      (flow : LoopFlow Sender SenderExit) (running : transfer.sender = .running sender)
      (reads : input.newPayload = file.read transfer.next)
      (arrival : AckAfterLoss crc32 base transfer input.ackRead)
      (moves : sender.readWriteLoop crc32 input = .ok flow) :
      StepAfterLoss crc32 file base transfer (transfer.afterSender flow)
  | receiver (transfer : Transfer) (receiver : Receiver) (input : ReceiverInput) (position : ℕ)
      (flow : LoopFlow Receiver ReceiverExit) (running : transfer.receiver = .running receiver)
      (arrival : DataAfterLoss crc32 base transfer input.data position)
      (moves : receiver.readWriteLoop crc32 input = .ok flow)
      (complete : ∀ write ∈ flow.state.writes, write.Complete) :
      StepAfterLoss crc32 file base transfer (transfer.afterReceiver flow position)

theorem AckAfterLoss.arrival {ackRead : ReadResult ackSize}
    (arrival : AckAfterLoss crc32 base transfer ackRead) : transfer.AckArrival crc32 ackRead := by
  cases arrival with
  | nothing _ nothing => exact .nothing _ nothing
  | corrupted _ code rejected => exact .corrupted _ code rejected
  | copy index ack position fits _ sent numbered fresh =>
      exact .copy index ack position fits sent numbered fresh

theorem DataAfterLoss.arrival {data : ReadResult maxPacketSize} {position : ℕ}
    (arrival : DataAfterLoss crc32 base transfer data position) :
    transfer.DataArrival crc32 data position := by
  cases arrival with
  | nothing _ _ nothing => exact .nothing _ _ nothing
  | corrupted data fits _ code rejected => exact .corrupted data fits _ code rejected
  | copy data fits _ sent fresh => exact .copy data fits _ (List.mem_of_mem_drop sent) fresh
  | truncated data fits _ sent => exact .truncated data fits _ (List.mem_of_mem_drop sent)

theorem StepAfterLoss.step {after : Transfer}
    (step : StepAfterLoss crc32 file base transfer after) : Step crc32 file transfer after := by
  cases step with
  | sender sender input flow running reads arrival moves =>
      exact .sender _ sender input flow running reads arrival.arrival moves
  | receiver receiver input position flow running arrival moves complete =>
      exact .receiver _ receiver input position flow running arrival.arrival moves complete

theorem Reachable.steps {final : Transfer} (reachable : base.Reachable crc32 file)
    (steps : Relation.ReflTransGen (StepAfterLoss crc32 file base) base final) :
    final.Reachable crc32 file := by
  induction steps with
  | refl => exact reachable
  | tail _ step ih => exact ih.step step.step

/-- An acknowledgement in the buffer advertises an open window. -/
theorem window_of_readable {oldest waited next : ℕ} {bufAck : Buffer ackSize}
    (readable : Sender.Readable crc32 oldest waited next bufAck) {pktAck : Pkt}
    (decodes : pktDecode crc32 true bufAck.val pktNew = .ok pktAck) :
    0 < pktAck.window.toNat := by
  rcases readable with ⟨code, rejected⟩ | ⟨position, ack, isAck, _, holds⟩
  · rw [rejected] at decodes
    cases decodes
  · rcases isAck.decodes crc32 with ⟨pkt, decoded, window, _⟩
    rw [holds, decoded] at decodes
    cases decodes
    rw [window]
    decide

theorem Step.ready {after : Transfer} (step : Step crc32 file transfer after)
    (invariant : transfer.Invariant crc32 file)
    (ready : ∀ sender, transfer.sender = .running sender → sender.Ready) :
    ∀ sender, after.sender = .running sender → sender.Ready := by
  cases step with
  | receiver => exact ready
  | sender sender input flow running reads arrival moves =>
      rintro next rfl
      have here : transfer.sender.state = sender := by rw [running, LoopFlow.state_running]
      have sound := invariant.holds.sound
      have readable := invariant.readable arrival
      rw [here] at sound readable
      exact (ready sender running).step sound moves
        fun pktAck decodes => window_of_readable readable decodes

theorem ready_of_reachable (reachable : transfer.Reachable crc32 file) {sender : Sender}
    (running : transfer.sender = .running sender) : sender.Ready := by
  rcases reachable with ⟨tpSender, tpReceiver, bufAck, code, unread, run⟩
  suffices ∀ sender, transfer.sender = .running sender → sender.Ready from this sender running
  clear running
  induction run with
  | refl =>
      rintro _ ⟨⟩
      exact Sender.ready_start tpSender bufAck
  | tail earlier step ih =>
      exact step.ready
        (invariant_of_reachable ⟨tpSender, tpReceiver, bufAck, code, unread, earlier⟩) ih

/-- An `ACK` which has been sent is decoded as such when it is read into the buffer. -/
theorem Invariant.decodes_sent (invariant : transfer.Invariant crc32 file) {index position : ℕ}
    {ack : SentAck} (sent : transfer.receiver.state.sent[index]? = some ack)
    (numbered : transfer.acks[index]? = some position) (isAck : ack.ack.type = ptypeAck)
    (fits : ack.bytes.length ≤ ackSize) (bufAck : Buffer ackSize) :
    ∃ pktAck, pktDecode crc32 true (bufAck.readInto (.bytes ack.bytes fits)).val pktNew =
        .ok pktAck ∧ pktAck.window = 31 ∧ pktAck.seqNum = Serial.wire 8 position ∧
      pktAck.type = ptypeAck ∧ position ≤ transfer.waited := by
  have ackFor := invariant.ackFor sent numbered
  have bytes := invariant.waits.sound.encoded ack (List.mem_of_getElem? sent)
  have length : ack.bytes.length = ackSize := by
    rw [bytes]
    exact ackFor.length_ackBytes crc32
  rw [Buffer.val_readInto_of_length_eq length, bytes]
  exact ackFor.decodes_ack crc32 isAck

/-- What the sender still holds is not too old for the receiver. -/
theorem Invariant.fresh_of_oldest_le (invariant : transfer.Invariant crc32 file) {position : ℕ}
    (held : transfer.oldest ≤ position) : transfer.waited ≤ position + 225 := by
  have sent := invariant.waits.sent
  have few := invariant.holds.few
  omega

/-- A copy is answered with an `ACK` for the position which is waited for then. -/
theorem Invariant.answers_copy (invariant : transfer.Invariant crc32 file)
    {receiver polled final : Receiver} (running : transfer.receiver = .running receiver)
    (sound : polled.Sound crc32) (same : Receiver.SameProgress receiver polled)
    {wr : ℕ → WriteOutcome} {pkt : Pkt} {position : ℕ} (sent : position < transfer.next)
    (carries : Carries file position pkt) (fresh : transfer.waited ≤ position + 225)
    (handled : polled.handleDecoded wr (.ok pkt) = .ok final) :
    ∃ ack, final.queued = receiver.queued ++ [ack] ∧ ack.type = ptypeAck ∧
      (transfer.afterReceiver (.running final) position).acks =
        transfer.acks ++ [(transfer.afterReceiver (.running final) position).waited] ∧
      transfer.waited ≤ (transfer.afterReceiver (.running final) position).waited ∧
      (position = transfer.waited →
        transfer.waited < (transfer.afterReceiver (.running final) position).waited) ∧
      Carried file 0 (final.writes.map Write.pkt) := by
  have waits := invariant.waits
  rw [running, LoopFlow.state_running] at waits
  have behind := invariant.behind
  have few := invariant.holds.few
  have bounded := invariant.holds.bounded
  have near : transfer.next ≤ transfer.waited + 31 := by omega
  have reading := waits.of_same sound same
  rcases Receiver.handleDecoded_copy reading bounded near carries sent fresh handled with
    ⟨ack, queued, isAck, advances⟩
  rcases Receiver.handleDecoded_moved reading bounded near wr (.copy pkt carries sent fresh)
    handled with ⟨later, moved⟩
  have movedHere : Receiver.Moved crc32 file transfer.next transfer.waited position
      receiver final later := by
    refine ⟨moved.waits, moved.ahead, ?_⟩
    rw [← same.queued]
    exact moved.acks
  rw [same.queued] at queued
  rcases counters_afterReceiver invariant (.running final) running movedHere with ⟨waited, acks⟩
  have notNack : ack.type ≠ ptypeNack := by
    rw [isAck]
    decide
  have answered := acks [ack] queued
  rw [List.map_singleton, if_neg notNack] at answered
  rw [waited]
  refine ⟨ack, queued, isAck, answered, moved.ahead, ?_, moved.waits.delivered⟩
  intro here
  rcases advances here with ⟨other, above, sentOther, number⟩
  have ahead := moved.ahead
  have bound := moved.waits.sent
  rw [moved.waits.waitedSeqNum, Serial.wire_inj (by omega) (by omega)] at number
  omega

/-- A run after the loss, in which the sender has not left its loop. -/
structure Live (crc32 : List Byte → BitVec 32) (file : InputFile) (base transfer : Transfer) :
    Prop where
  reachable : transfer.Reachable crc32 file
  steps : Relation.ReflTransGen (StepAfterLoss crc32 file base) base transfer
  running : transfer.sender = .running transfer.sender.state
  data : base.data.length ≤ transfer.data.length
  sent : base.receiver.state.sent.length ≤ transfer.receiver.state.sent.length

theorem live_refl (reachable : transfer.Reachable crc32 file)
    (running : transfer.sender = .running transfer.sender.state) :
    Live crc32 file transfer transfer :=
  ⟨reachable, .refl, running, le_rfl, le_rfl⟩

theorem nothing_failed {capacity : ℕ} : (ReadResult.failed : ReadResult capacity).count ≤ 0 := by
  rw [ReadResult.count]
  decide

theorem position_of_copy {data : List Byte} (copy : IsCopy crc32 file transfer.oldest data) :
    transfer.position data = transfer.oldest := by
  rw [position, copy.getD_one, Serial.lift_wire le_rfl (by omega)]

namespace Live

theorem afterSender (live : Live crc32 file base transfer) {input : SenderInput} {sender : Sender}
    (reads : input.newPayload = file.read transfer.next)
    (arrival : AckAfterLoss crc32 base transfer input.ackRead)
    (moves : transfer.sender.state.readWriteLoop crc32 input = .ok (.running sender)) :
    Live crc32 file base (transfer.afterSender (.running sender)) := by
  have step : StepAfterLoss crc32 file base transfer (transfer.afterSender (.running sender)) :=
    .sender transfer _ input _ live.running reads arrival moves
  refine ⟨live.reachable.step step.step, live.steps.tail step, rfl, ?_, live.sent⟩
  have longer : transfer.data.length ≤ (transfer.afterSender (.running sender)).data.length := by
    rw [Transfer.afterSender, List.length_append]
    exact Nat.le_add_right _ _
  exact live.data.trans longer

/-- While there is room, new packets are sent. -/
theorem send (live : Live crc32 file base transfer) (room : transfer.sender.state.HasRoom) :
    ∃ after, Live crc32 file base after ∧ after.next = transfer.next + 1 ∧
      after.oldest = transfer.oldest ∧ after.receiver = transfer.receiver ∧
      after.waited = transfer.waited := by
  have invariant := invariant_of_reachable live.reachable
  have holds := invariant.holds
  have transmits := Sender.transmits_transmitInput transfer.sender.state
    (file.read transfer.next) 0
  rcases transmits.running holds.sound with ⟨middle, sender, moves, sends, resending⟩
  rw [if_pos room] at sends
  rcases Sender.send_sending crc32 holds.sound room _ with ⟨_, same, sending⟩
  rw [sends] at same
  cases same
  rcases Sender.holds_of_sending sending resending holds rfl with ⟨further, low, high, there, _⟩
  have number : sender.seqNum = Serial.wire 8 (transfer.next + 1) := by
    rw [resending.seqNum, Sender.send_seqNum holds.sound room rfl sends, holds.seqNum,
      Serial.wire_add]
    rfl
  rw [there.seqNum, Serial.wire_inj (by omega) (by omega)] at number
  rcases counters_afterSender invariant (.running sender) live.running there ⟨low, high⟩ with
    ⟨next, oldest⟩
  exact ⟨_, live.afterSender rfl (.nothing _ nothing_failed) moves, next.trans number, oldest, rfl,
    rfl⟩

theorem fill (live : Live crc32 file base transfer) :
    ∃ after, Live crc32 file base after ∧ ¬after.sender.state.HasRoom ∧
      after.oldest = transfer.oldest ∧ after.receiver = transfer.receiver ∧
      after.waited = transfer.waited := by
  generalize left : file.last + 1 - transfer.next = count
  induction count using Nat.strong_induction_on generalizing transfer with
  | _ count ih =>
      by_cases room : transfer.sender.state.HasRoom
      · rcases live.send room with ⟨after, liveAfter, next, oldest, receiver, waited⟩
        have bounded := (invariant_of_reachable liveAfter.reachable).holds.bounded
        rcases ih (file.last + 1 - after.next) (by omega) liveAfter rfl with
          ⟨final, liveFinal, full, oldest', receiver', waited'⟩
        exact ⟨final, liveFinal, full, oldest'.trans oldest, receiver'.trans receiver,
          waited'.trans waited⟩
      · exact ⟨transfer, live, room, rfl, rfl, rfl⟩

/-- Then the first packet is sent again. -/
theorem resend (live : Live crc32 file base transfer) (full : ¬transfer.sender.state.HasRoom)
    (pending : transfer.oldest ≤ file.last) :
    ∃ after data, Live crc32 file base after ∧ after.oldest = transfer.oldest ∧
      after.receiver = transfer.receiver ∧ after.waited = transfer.waited ∧
      (transfer.oldest, data) ∈ after.data.drop base.data.length := by
  have invariant := invariant_of_reachable live.reachable
  have holds := invariant.holds
  have ready := ready_of_reachable live.reachable live.running
  cases nodes : transfer.sender.state.bufStructure.nodes with
  | nil => exact absurd (ready.hasRoom holds pending nodes) full
  | cons head rest =>
      have moves := @Sender.transmit_head crc32 _ holds.sound ready full head rest nodes
        (file.read transfer.next)
      have resending : Sender.Resending crc32 transfer.sender.state _ :=
        .again [] head rest (transfer.sender.state.timeDue head) nodes
      have carries := holds.carried
      rw [nodes] at carries
      have copy : IsCopy crc32 file transfer.oldest ({ head with
          timestamp := (transfer.sender.state.timeDue head).setWidth 32 }.wireBytes crc32) :=
        ⟨_, carries.1.withTimestamp _, rfl⟩
      rcases counters_afterSender invariant (.running _) live.running (resending.holds holds).1
        ⟨le_rfl, Nat.le_succ _⟩ with ⟨_, oldest⟩
      refine ⟨_, { head with
        timestamp := (transfer.sender.state.timeDue head).setWidth 32 }.wireBytes crc32,
        live.afterSender rfl (.nothing _ nothing_failed) moves, oldest, rfl, rfl, ?_⟩
      rw [Transfer.afterSender, List.drop_append_of_le_length live.data]
      apply List.mem_append_right
      change _ ∈ ((transfer.sender.state.sent ++ [_]).drop transfer.sender.state.sent.length).map _
      rw [List.drop_left, List.map_singleton, position_of_copy copy]
      exact List.mem_singleton_self _

theorem afterReceiver (live : Live crc32 file base transfer) {receiver : Receiver}
    {input : ReceiverInput} {position : ℕ} {flow : LoopFlow Receiver ReceiverExit}
    (running : transfer.receiver = .running receiver)
    (arrival : DataAfterLoss crc32 base transfer input.data position)
    (moves : receiver.readWriteLoop crc32 input = .ok flow)
    (complete : ∀ write ∈ flow.state.writes, write.Complete)
    (longer : receiver.sent.length ≤ flow.state.sent.length) :
    Live crc32 file base (transfer.afterReceiver flow position) := by
  have step : StepAfterLoss crc32 file base transfer (transfer.afterReceiver flow position) :=
    .receiver transfer receiver input position flow running arrival moves complete
  have sent := live.sent
  rw [running, LoopFlow.state_running] at sent
  exact ⟨live.reachable.step step.step, live.steps.tail step, live.running, live.data,
    sent.trans longer⟩

/-- The receiver answers the packet with an `ACK` for a later position. -/
theorem deliver (live : Live crc32 file base transfer) {receiver : Receiver}
    (running : transfer.receiver = .running receiver) {data : List Byte}
    (resent : (transfer.oldest, data) ∈ transfer.data.drop base.data.length) :
    ∃ after final ack, Live crc32 file base after ∧ after.oldest = transfer.oldest ∧
      after.receiver = .running final ∧ final.sent = receiver.sent ∧
      final.queued = receiver.queued ++ [ack] ∧ ack.type = ptypeAck ∧
      after.acks = transfer.acks ++ [after.waited] ∧ transfer.oldest < after.waited := by
  have invariant := invariant_of_reachable live.reachable
  have here : transfer.receiver.state = receiver := by rw [running, LoopFlow.state_running]
  have waits := invariant.waits
  have complete := invariant.complete
  rw [here] at waits complete
  have behind := invariant.behind
  have fresh : transfer.waited ≤ transfer.oldest + 225 := invariant.fresh_of_oldest_le le_rfl
  obtain ⟨below, copy⟩ : transfer.oldest < transfer.next ∧
      IsCopy crc32 file transfer.oldest data := invariant.data _ (List.mem_of_mem_drop resent)
  rcases copy.decodes with ⟨pkt, decodes, carries⟩
  have nonempty : data ≠ [] := by
    rintro rfl
    cases decodes
  obtain ⟨final, moves, handled⟩ : ∃ final, receiver.readWriteLoop crc32
        (receiver.deliverInput (.bytes data copy.length_le)) = .ok (.running final) ∧ _ :=
    Receiver.deliver_running waits.sound nonempty
  rw [decodes] at handled
  have soundReading := Receiver.sound_reading waits.sound data
  rcases invariant.answers_copy running soundReading (receiver.sameProgress_reading data) below
    carries fresh handled with ⟨ack, queued, isAck, answered, ahead, advances, delivered⟩
  have sent := (Receiver.handleDecoded_queuesOne soundReading handled).sent
  have longer : receiver.sent.length ≤ final.sent.length := by
    rw [sent]
    exact le_rfl
  have whole : ∀ write ∈ final.writes, write.Complete := by
    rcases Receiver.handleDecoded_answered soundReading (fun _ => .wrote maxPayloadSize) (.ok pkt)
      with ⟨_, same, answered⟩
    rw [handled] at same
    cases same
    rcases answered.writes with ⟨run, writes⟩
    rw [writes] at delivered ⊢
    intro write present
    rcases List.mem_append.mp present with before | new
    · exact complete write before
    · exact Receiver.complete_writesOf delivered write new
  have arrival : DataAfterLoss crc32 base transfer
      (receiver.deliverInput (.bytes data copy.length_le)).data transfer.oldest :=
    .copy data copy.length_le transfer.oldest resent fresh
  refine ⟨_, final, ack, live.afterReceiver running arrival moves whole longer, rfl, rfl, sent,
    queued, isAck, answered, ?_⟩
  rcases Nat.lt_or_eq_of_le behind with passed | same
  · exact passed.trans_le ahead
  · exact behind.trans_lt (advances same)

/-- Sending what is queued does not queue anything, and takes nothing from the network. -/
theorem afterFlush (live : Live crc32 file base transfer) {receiver : Receiver}
    {flow : LoopFlow Receiver ReceiverExit} (running : transfer.receiver = .running receiver)
    (moves : receiver.readWriteLoop crc32 receiver.flushInput = .ok flow)
    (longer : receiver.sent.length ≤ flow.state.sent.length) :
    Live crc32 file base (transfer.afterReceiver flow 0) ∧
      (transfer.afterReceiver flow 0).acks = transfer.acks := by
  have here : transfer.receiver.state = receiver := by rw [running, LoopFlow.state_running]
  have invariant := invariant_of_reachable live.reachable
  have sound := invariant.waits.sound
  have complete := invariant.complete
  rw [here] at sound complete
  rcases Receiver.readWriteLoop_iteration sound receiver.flushInput with ⟨_, again, iteration⟩
  rw [moves] at again
  cases again
  cases iteration with
  | read _ _ _ _ inputData => cases inputData
  | idle _ _ same =>
      constructor
      · refine live.afterReceiver running (.nothing _ _ nothing_failed) moves ?_ longer
        rw [same.writes]
        exact complete
      · rw [Transfer.afterReceiver, here, same.queued]
        simp

/-- The receiver sends what it has queued, or closes. -/
theorem flush (live : Live crc32 file base transfer) {receiver : Receiver}
    (running : transfer.receiver = .running receiver) {earlier : List Pkt} {ack : Pkt}
    {positions : List ℕ} (queued : receiver.queued = earlier ++ [ack])
    (isAck : ack.type = ptypeAck) (acks : transfer.acks = positions ++ [transfer.waited])
    (unsent : receiver.sent.length ≤ earlier.length) (ahead : transfer.oldest < transfer.waited) :
    ∃ after index sent position, Live crc32 file base after ∧ after.oldest = transfer.oldest ∧
      base.receiver.state.sent.length ≤ index ∧ after.receiver.state.sent[index]? = some sent ∧
      after.acks[index]? = some position ∧ sent.ack.type = ptypeAck ∧
      transfer.oldest < position ∧
      ((∃ receiver, after.receiver = .running receiver) ∨ position = file.last + 1) := by
  have here : transfer.receiver.state = receiver := by rw [running, LoopFlow.state_running]
  have invariant := invariant_of_reachable live.reachable
  have agreed := agreed_of_reachable live.reachable
  have sound := invariant.waits.sound
  have lengths := invariant.acks.length_eq
  have later := live.sent
  rw [here] at sound lengths later
  rw [queued, acks, List.length_append, List.length_append] at lengths
  have same : earlier.length = positions.length := by simpa using lengths
  rcases Receiver.flush_cases sound with ⟨after, moves, sends⟩ | ⟨after, moves, longer⟩
  · have sentLength : after.sent.length = earlier.length + 1 := by
      have counted := congrArg List.length sends
      rw [queued, List.length_append, List.length_map] at counted
      exact counted
    rcases live.afterFlush running moves (by rw [LoopFlow.state_running]; omega) with
      ⟨liveAfter, sameAcks⟩
    have found : (after.sent.map SentAck.ack)[earlier.length]? = some ack := by
      rw [sends, queued, List.getElem?_concat_length]
    rw [List.getElem?_map, Option.map_eq_some_iff] at found
    rcases found with ⟨sent, found, rfl⟩
    refine ⟨_, earlier.length, sent, transfer.waited, liveAfter, rfl, by omega, found, ?_, isAck,
      ahead, .inl ⟨after, rfl⟩⟩
    rw [sameAcks, acks, same, List.getElem?_concat_length]
  · rcases live.afterFlush running moves longer.le with ⟨liveAfter, sameAcks⟩
    have invariantAfter := invariant_of_reachable liveAfter.reachable
    rcases (agreed_of_reachable liveAfter.reachable).acks_of_closed rfl with
      ⟨before, last, sent, marked, numbered, _⟩
    have found : after.sent[before.length]? = some last := by
      rw [sent, List.getElem?_concat_length]
    have length : after.sent.length = before.length + 1 := by
      rw [sent, List.length_append, List.length_singleton]
    have pending : transfer.oldest ≤ file.last := by
      apply agreed.oldest_le
      rintro other closed
      rw [running] at closed
      cases closed
    exact ⟨_, before.length, last, file.last + 1, liveAfter, rfl, by omega, found, numbered,
      (invariantAfter.ackFor found numbered).type_of_marked marked, Nat.lt_succ_of_le pending,
      .inr rfl⟩

/-- The sender reads the `ACK`, and ends or drops what it acknowledges. -/
theorem answer (live : Live crc32 file base transfer) {index position : ℕ} {ack : SentAck}
    (later : base.receiver.state.sent.length ≤ index)
    (sent : transfer.receiver.state.sent[index]? = some ack)
    (numbered : transfer.acks[index]? = some position) (isAck : ack.ack.type = ptypeAck)
    (ahead : transfer.oldest < position) :
    (∃ after sender, Relation.ReflTransGen (StepAfterLoss crc32 file base) base after ∧
        after.sender = .returned .lastAck sender) ∨
      ∃ after, Live crc32 file base after ∧ after.oldest = position ∧
        after.receiver = transfer.receiver ∧ position ≠ file.last + 1 := by
  have invariant := invariant_of_reachable live.reachable
  have holds := invariant.holds
  have held := holds.held
  have waited := invariant.waits.sent
  have fits : ack.bytes.length ≤ ackSize := by
    rw [invariant.waits.sound.encoded ack (List.mem_of_getElem? sent)]
    exact ((invariant.ackFor sent numbered).length_ackBytes crc32).le
  rcases invariant.decodes_sent sent numbered isAck fits transfer.sender.state.bufAck with
    ⟨pktAck, decodes, window, seqNum, type, delivered⟩
  have reads := Sender.holds_afterRead holds
    (transfer.sender.state.answerInput (file.read transfer.next) (.bytes ack.bytes fits))
  have filled : transfer.sender.state.bufStructure.nodes ≠ [] := by
    intro empty
    rw [empty, List.length_nil] at held
    omega
  have arrival : AckAfterLoss crc32 base transfer (.bytes ack.bytes fits) :=
    .copy index ack position fits later sent numbered (by omega)
  have moves := @Sender.answer_eq crc32 _ (file.read transfer.next) _ _ decodes
  rcases Sender.handleAnswer_filled reads.sound.consistent filled type
    transfer.sender.state.tpGlobal with ⟨_, handled⟩ | ⟨after, handled, notLast, acknowledging⟩
  · rw [handled] at moves
    exact .inl ⟨_, _, live.steps.tail (.sender transfer _ _ _ live.running rfl arrival moves), rfl⟩
  · rw [handled] at moves
    have there := acknowledging.holds reads window seqNum (delivered.trans waited) (by omega)
    rw [max_eq_right ahead.le] at there
    rcases counters_afterSender invariant (.running after) live.running there
      ⟨le_rfl, Nat.le_succ _⟩ with ⟨_, oldest⟩
    refine .inr ⟨_, live.afterSender rfl arrival moves, oldest, rfl, ?_⟩
    intro atEnd
    have bounded := holds.bounded
    have whole : transfer.next = file.last + 1 := by omega
    apply notLast
    refine ⟨reads.isLastAckNum.mpr whole, ?_⟩
    rw [seqNum, reads.seqNum, atEnd, whole]

/-- Each round moves the oldest position forward, until the sender ends. -/
theorem completes (live : Live crc32 file base transfer) {receiver : Receiver}
    (running : transfer.receiver = .running receiver) :
    ∃ final sender, Relation.ReflTransGen (StepAfterLoss crc32 file base) base final ∧
      final.sender = .returned .lastAck sender := by
  generalize left : file.last + 1 - transfer.oldest = count
  induction count using Nat.strong_induction_on generalizing transfer receiver with
  | _ count ih =>
      have pending : transfer.oldest ≤ file.last := by
        apply (agreed_of_reachable live.reachable).oldest_le
        rintro other closed
        rw [running] at closed
        cases closed
      rcases live.fill with ⟨filled, liveFilled, full, oldestFilled, receiverFilled, _⟩
      rcases liveFilled.resend full (by omega) with
        ⟨resent, data, liveResent, oldestResent, receiverResent, _, copy⟩
      rw [← oldestResent] at copy
      rcases liveResent.deliver ((receiverResent.trans receiverFilled).trans running) copy with
        ⟨delivered, final, ack, liveDelivered, oldestDelivered, stillRunning, sent, queued, isAck,
          acks, ahead⟩
      have unsent : final.sent.length ≤ receiver.queued.length := by
        rw [sent, Receiver.queued, List.length_append, List.length_map]
        exact Nat.le_add_right _ _
      rw [← oldestDelivered] at ahead
      rcases liveDelivered.flush stillRunning queued isAck acks unsent ahead with
        ⟨flushed, index, answer, position, liveFlushed, oldestFlushed, later, found, numbered, type,
          beyond, stays⟩
      rcases liveFlushed.answer later found numbered type (by omega) with
        ended | ⟨after, liveAfter, oldest, sameReceiver, notEnd⟩
      · exact ended
      · rcases stays with ⟨next, runs⟩ | atEnd
        · exact ih (file.last + 1 - after.oldest) (by omega) liveAfter (sameReceiver.trans runs) rfl
        · exact absurd atEnd notEnd

end Live

/-- What a sender in its loop has read is not for the position behind the end packet. -/
structure Heard (crc32 : List Byte → BitVec 32) (file : InputFile) (transfer : Transfer) :
    Prop where
  behind : transfer.oldest ≤ min transfer.waited file.last
  bufAck : Sender.Readable crc32 transfer.oldest (min transfer.waited file.last) transfer.next
    transfer.sender.state.bufAck

theorem Step.heard {after : Transfer} (step : Step crc32 file transfer after)
    (invariant : transfer.Invariant crc32 file)
    (heard : ∀ sender, transfer.sender = .running sender → transfer.Heard crc32 file) :
    ∀ sender, after.sender = .running sender → after.Heard crc32 file := by
  cases step with
  | sender sender input flow running reads arrival moves =>
      rintro next rfl
      have here : transfer.sender.state = sender := by rw [running, LoopFlow.state_running]
      have holds := invariant.holds
      have readable := invariant.readable arrival
      rcases heard sender running with ⟨behind, stale⟩
      rw [here] at holds readable stale
      have iteration := Sender.readWriteLoop_iteration crc32 holds.sound input
      rw [moves] at iteration
      rcases iteration.moved_running holds behind invariant.waits.sent reads stale readable with
        ⟨later, further, moved⟩
      rcases counters_afterSender invariant _ running moved.holds moved.ahead with ⟨next, oldest⟩
      constructor
      · rw [oldest]
        exact moved.acknowledged
      · rw [oldest, next]
        exact moved.bufAck
  | receiver receiver input position flow running arrival moves complete =>
      intro sender still
      rcases heard sender still with ⟨behind, stale⟩
      have ahead : transfer.waited ≤ (transfer.afterReceiver flow position).waited :=
        Nat.le_add_right _ _
      have later := min_le_min_right file.last ahead
      exact ⟨behind.trans later, stale.mono later le_rfl⟩

theorem heard_of_reachable (reachable : transfer.Reachable crc32 file) {sender : Sender}
    (running : transfer.sender = .running sender) : transfer.Heard crc32 file := by
  rcases reachable with ⟨tpSender, tpReceiver, bufAck, code, unread, run⟩
  suffices ∀ sender, transfer.sender = .running sender → transfer.Heard crc32 file from
    this sender running
  clear running
  induction run with
  | refl => exact fun _ _ => ⟨Nat.zero_le _, .inl ⟨code, unread⟩⟩
  | tail earlier step ih =>
      exact step.heard
        (invariant_of_reachable ⟨tpSender, tpReceiver, bufAck, code, unread, earlier⟩) ih

/-- The receiver stays as it is, and the sender does not end because of an `ACK`. -/
structure Unanswered (crc32 : List Byte → BitVec 32) (file : InputFile)
    (base transfer : Transfer) : Prop where
  reachable : transfer.Reachable crc32 file
  receiver : transfer.receiver = base.receiver
  notLast : ∀ sender, transfer.sender ≠ .returned .lastAck sender

theorem Unanswered.step (unanswered : Unanswered crc32 file base transfer) {after : Transfer}
    (left : ∀ receiver, base.receiver ≠ .running receiver)
    (step : StepAfterLoss crc32 file base transfer after) :
    Unanswered crc32 file base after := by
  have reachable := unanswered.reachable.step step.step
  cases step with
  | receiver receiver input position flow running =>
      rw [unanswered.receiver] at running
      exact absurd running (left receiver)
  | sender sender input flow running reads arrival moves =>
      refine ⟨reachable, unanswered.receiver, ?_⟩
      have invariant := invariant_of_reachable unanswered.reachable
      have here : transfer.sender.state = sender := by rw [running, LoopFlow.state_running]
      have holds := invariant.holds
      rcases heard_of_reachable unanswered.reachable running with ⟨behind, stale⟩
      have readable : Sender.Readable crc32 transfer.oldest (min transfer.waited file.last)
          transfer.next (transfer.sender.state.bufAck.readInto input.ackRead) := by
        generalize input.ackRead = ackRead at arrival
        cases arrival with
        | nothing _ nothing =>
            rw [Buffer.readInto_of_count_le nothing]
            exact stale
        | corrupted _ code rejected => exact .inl ⟨code, rejected⟩
        | copy index ack _ _ later sent =>
            rw [unanswered.receiver, List.getElem?_eq_none later] at sent
            cases sent
      rw [here] at holds readable stale
      have iteration := Sender.readWriteLoop_iteration crc32 holds.sound input
      rw [moves] at iteration
      rcases iteration.moved holds behind ((min_le_left _ _).trans invariant.waits.sent) reads
        stale readable with ⟨later, further, moved⟩
      intro final ended
      have atEnd := moved.ended final ended
      omega

/--
Let both parties be in their loops, and let everything be lost which is on its way. Then there is
a run, in which only later datagrams arrive, to a state where the sender has ended because of
an acknowledgement, the receiver has closed, and the whole input has been written. If
the receiver has left its loop, there is no run in which the sender ends so.

The clock is not bound to go forward here: in the run which is found, the clock of the sender jumps
to the time at which a packet is due (`timeDue`), and is set back for the next iteration, where
it would otherwise time out if the timer is long.
-/
theorem completes_after_loss (reachable : transfer.Reachable crc32 file) {sender : Sender}
    (running : transfer.sender = .running sender) :
    (∀ receiver, transfer.receiver = .running receiver → ∃ final sender receiver,
        Relation.ReflTransGen (StepAfterLoss crc32 file transfer) transfer final ∧
        final.sender = .returned .lastAck sender ∧
        final.receiver = .returned .closed receiver ∧
        receiver.written = file.chunks.flatten) ∧
      ((∀ receiver, transfer.receiver ≠ .running receiver) →
        ∀ final, Relation.ReflTransGen (StepAfterLoss crc32 file transfer) transfer final →
          ∀ sender, final.sender ≠ .returned .lastAck sender) := by
  constructor
  · intro receiver inLoop
    have live := live_refl reachable (by rw [running, LoopFlow.state_running])
    rcases live.completes inLoop with ⟨final, sender, steps, ended⟩
    have reached := reachable.steps steps
    have agreed := agreed_of_reachable reached
    rcases agreed.ended sender ended with ⟨receiver, closed⟩
    have written := agreed.written_of_closed (invariant_of_reachable reached) closed
    exact ⟨final, sender, receiver, steps, ended, closed, written⟩
  · intro left final steps
    have unanswered : Unanswered crc32 file transfer final := by
      induction steps with
      | refl =>
          refine ⟨reachable, rfl, ?_⟩
          rintro other ended
          rw [running] at ended
          cases ended
      | tail _ step ih => exact ih.step left step
    exact unanswered.notLast

/-- The closing `ACK` has been sent, and has not arrived. -/
def closedExample : Transfer :=
  closingExample.receiverMoves flushExample 0

theorem reachable_closedExample : closedExample.Reachable Crc.zlib fileExample := by
  apply reachable_closingExample.step
  exact step_receiverMoves flushExample 0 (by decide +kernel) (.nothing _ 0 (by decide))
    (by decide +kernel) (by decide +kernel)

theorem completes_after_loss_example :
    (∃ final sender receiver,
        Relation.ReflTransGen (StepAfterLoss Crc.zlib fileExample arrivedExample) arrivedExample
          final ∧
        final.sender = .returned .lastAck sender ∧ final.receiver = .returned .closed receiver ∧
        receiver.written = fileExample.chunks.flatten) ∧
      ∀ final, Relation.ReflTransGen (StepAfterLoss Crc.zlib fileExample closedExample)
        closedExample final → ∀ sender, final.sender ≠ .returned .lastAck sender := by
  have running : arrivedExample.sender = .running arrivedExample.sender.state := by
    decide +kernel
  have inLoop : arrivedExample.receiver = .running arrivedExample.receiver.state := by
    decide +kernel
  have waiting : closedExample.sender = .running closedExample.sender.state := by
    decide +kernel
  have closed : closedExample.receiver = .returned .closed closedExample.receiver.state := by
    decide +kernel
  refine ⟨(completes_after_loss reachable_arrivedExample running).1 _ inLoop,
    (completes_after_loss reachable_closedExample waiting).2 ?_⟩
  intro receiver runs
  rw [closed] at runs
  cases runs

end Transfer

end ReliableTransfer
