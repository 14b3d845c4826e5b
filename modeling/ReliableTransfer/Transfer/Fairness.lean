import ReliableTransfer.Transfer.Recovery
import ReliableTransfer.Library.Trace

/-!
# Infinite runs over a fair network

The network may lose as much as it likes, but not everything: of the packets for one position, if
they are sent again and again, some arrive again and again. And each party comes to its iterations
again and again, as long as it is in its loop. Then every run in which neither party gives up
delivers the whole input, whatever the order of the steps. For otherwise both parties stay in their
loops, and from some time on the positions do not change any more. But then the sender sends its
oldest packet again and again, the receiver answers it again and again, and some answer moves
the sender forward.
-/

namespace ReliableTransfer

open Filter

namespace Transfer

variable {crc32 : List Byte → BitVec 32} {file : InputFile} {transfer : Transfer}

/-- What happens between two states: an iteration of one of the parties, or nothing. -/
inductive Event where
  | sender (input : SenderInput)
  | receiver (input : ReceiverInput) (position : ℕ)
  | idle

/-- The steps of a transfer, with their events. -/
inductive Moves (crc32 : List Byte → BitVec 32) (file : InputFile) :
    Transfer → Event → Transfer → Prop where
  | sender (transfer : Transfer) (sender : Sender) (input : SenderInput)
      (flow : LoopFlow Sender SenderExit) (running : transfer.sender = .running sender)
      (reads : input.newPayload = file.read transfer.next)
      (arrival : transfer.AckArrival crc32 input.ackRead)
      (moves : sender.readWriteLoop crc32 input = .ok flow) :
      Moves crc32 file transfer (.sender input) (transfer.afterSender flow)
  | receiver (transfer : Transfer) (receiver : Receiver) (input : ReceiverInput) (position : ℕ)
      (flow : LoopFlow Receiver ReceiverExit) (running : transfer.receiver = .running receiver)
      (arrival : transfer.DataArrival crc32 input.data position)
      (moves : receiver.readWriteLoop crc32 input = .ok flow)
      (complete : ∀ write ∈ flow.state.writes, write.Complete) :
      Moves crc32 file transfer (.receiver input position) (transfer.afterReceiver flow position)
  | idle (transfer : Transfer) : Moves crc32 file transfer .idle transfer

theorem Moves.step_or_same {event : Event} {after : Transfer}
    (moves : Moves crc32 file transfer event after) :
    Step crc32 file transfer after ∨ after = transfer := by
  cases moves with
  | sender sender input flow running reads arrival moves =>
      exact .inl (.sender _ sender input flow running reads arrival moves)
  | receiver receiver input position flow running arrival moves complete =>
      exact .inl (.receiver _ receiver input position flow running arrival moves complete)
  | idle => exact .inr rfl

theorem Step.exists_moves {after : Transfer} (step : Step crc32 file transfer after) :
    ∃ event, Moves crc32 file transfer event after := by
  cases step with
  | sender sender input flow running reads arrival moves =>
      exact ⟨_, .sender _ sender input flow running reads arrival moves⟩
  | receiver receiver input position flow running arrival moves complete =>
      exact ⟨_, .receiver _ receiver input position flow running arrival moves complete⟩

theorem reachable_of_run {run : Trace (Moves crc32 file)}
    (reachable : (run.state 0).Reachable crc32 file) (time : ℕ) :
    (run.state time).Reachable crc32 file := by
  apply run.invariant reachable
  intro before event after reached moves
  rcases moves.step_or_same with step | rfl
  · exact reached.step step
  · exact reached

/-- Both parties are in their loops. -/
def BothRun (transfer : Transfer) : Prop :=
  (∃ sender, transfer.sender = .running sender) ∧
    ∃ receiver, transfer.receiver = .running receiver

/-- The iteration comes to read from the socket. -/
def ComesToRead (crc32 : List Byte → BitVec 32) (input : SenderInput) (sender : Sender) : Prop :=
  ∃ revents last, sender.untilRead crc32 input = .ok (.running (revents, last)) ∧
    revents.pollin = true

section Events

variable (run : Trace (Moves crc32 file)) (position time : ℕ)

/-- The sender sends a packet for the position. -/
def SendsData : Prop :=
  ∃ data, (position, data) ∈ (run.state (time + 1)).data.drop (run.state time).data.length

/-- The receiver reads such a packet. -/
def ReadsData : Prop :=
  ∃ input data, ∃ fits : data.length ≤ maxPacketSize,
    run.event time = .receiver input position ∧ input.data = .bytes data fits ∧
      (position, data) ∈ (run.state time).data ∧
      (run.state (time + 1)).receiver.state.received =
        (run.state time).receiver.state.received ++ [data]

/-- The receiver sends an `ACK` for the position. -/
def SendsAck : Prop :=
  ∃ index : ℕ, ∃ ack : SentAck, (run.state time).receiver.state.sent.length ≤ index ∧
    (run.state (time + 1)).receiver.state.sent[index]? = some ack ∧
    (run.state (time + 1)).acks[index]? = some position ∧ ack.ack.type = ptypeAck

/-- The sender reads such an `ACK`. -/
def ReadsAck : Prop :=
  ∃ input, ∃ index : ℕ, ∃ ack : SentAck, ∃ fits : ack.bytes.length ≤ ackSize,
    run.event time = .sender input ∧ input.ackRead = .bytes ack.bytes fits ∧
      (run.state time).receiver.state.sent[index]? = some ack ∧
      (run.state time).acks[index]? = some position ∧ ack.ack.type = ptypeAck ∧
      ComesToRead crc32 input (run.state time).sender.state

end Events

/--
As long as the parties are in their loops, they come to their iterations again and again, with
writable sockets, and late enough to send the first packet again. And what is sent again and
again for one position is read again and again.
-/
structure Fair (run : Trace (Moves crc32 file)) : Prop where
  sender : (∀ time, ∃ sender, (run.state time).sender = .running sender) →
    ∃ᶠ time in atTop, ∃ input, run.event time = .sender input ∧
      Sender.MayResend input (run.state time).sender.state
  receiver : (∀ time, ∃ receiver, (run.state time).receiver = .running receiver) →
    ∃ᶠ time in atTop, ∃ input position, run.event time = .receiver input position ∧
      Receiver.Writable input
  data : (∀ time, ∃ receiver, (run.state time).receiver = .running receiver) → ∀ position,
    (∃ᶠ time in atTop, SendsData run position time) →
      ∃ᶠ time in atTop, ReadsData run position time
  acks : (∀ time, ∃ sender, (run.state time).sender = .running sender) → ∀ position,
    (∃ᶠ time in atTop, SendsAck run position time) →
      ∃ᶠ time in atTop, ReadsAck run position time

/-- No party leaves its loop for another reason than an acknowledgement. -/
structure Patient (run : Trace (Moves crc32 file)) : Prop where
  sender : ∀ time reason sender, (run.state time).sender = .returned reason sender →
    reason = .lastAck
  receiver : ∀ time reason receiver, (run.state time).receiver = .returned reason receiver →
    reason = .closed

theorem Step.rises {after : Transfer} (step : Step crc32 file transfer after)
    (invariant : transfer.Invariant crc32 file) (bothRun : after.BothRun) :
    transfer.oldest ≤ after.oldest ∧ transfer.waited ≤ after.waited ∧
      transfer.next ≤ after.next := by
  cases step with
  | sender sender input flow running reads arrival moves =>
      have here : transfer.sender.state = sender := by rw [running, LoopFlow.state_running]
      have holds := invariant.holds
      rw [here] at holds
      rcases bothRun.1 with ⟨next, rfl⟩
      rcases Sender.frame_of_moved holds.sound moves with
        ⟨revents, last, untils, seqNum, _, shorter⟩
      rcases Sender.passes_of_untilRead holds.sound untils with ⟨middle, passes⟩
      rcases Sender.holds_of_sending (passes.sending holds.sound) passes.resending holds reads with
        ⟨further, low, high, there, _⟩
      have lasts : last.seqNum = Serial.wire 8 further := there.seqNum
      have held : transfer.oldest + last.bufStructure.nodes.length = further := there.held
      have nextEq : (transfer.afterSender (.running next)).next = further := by
        change Serial.lift transfer.next transfer.sender.state.seqNum next.seqNum = further
        rw [here, holds.seqNum, seqNum, lasts, Serial.lift_wire low (by omega)]
      refine ⟨?_, le_rfl, ?_⟩
      · change transfer.oldest ≤
          (transfer.afterSender (.running next)).next - next.bufStructure.nodes.length
        omega
      · rw [nextEq]
        exact low
  | receiver => exact ⟨le_rfl, Nat.le_add_right _ _, le_rfl⟩

/-- An iteration in which no new packet is sent sends the first one again. -/
theorem Invariant.resends (invariant : transfer.Invariant crc32 file) {sender next : Sender}
    {input : SenderInput} (running : transfer.sender = .running sender) (ready : sender.Ready)
    (reads : input.newPayload = file.read transfer.next)
    (moves : sender.readWriteLoop crc32 input = .ok (.running next))
    (may : Sender.MayResend input sender) (pending : transfer.oldest ≤ file.last)
    (same : (transfer.afterSender (.running next)).next = transfer.next) :
    ∃ data, (transfer.oldest, data) ∈
      (transfer.afterSender (.running next)).data.drop transfer.data.length := by
  have here : transfer.sender.state = sender := by rw [running, LoopFlow.state_running]
  have holds := invariant.holds
  rw [here] at holds
  have full : ¬sender.HasRoom := by
    intro room
    have number : next.seqNum = Serial.wire 8 (transfer.next + 1) := by
      rw [may.sends holds.sound room reads moves, holds.seqNum, Serial.wire_add]
      rfl
    have risen : (transfer.afterSender (.running next)).next = transfer.next + 1 := by
      change Serial.lift transfer.next transfer.sender.state.seqNum next.seqNum = _
      rw [here, number, holds.seqNum, Serial.lift_wire (Nat.le_succ _) (by omega)]
    omega
  cases nodes : sender.bufStructure.nodes with
  | nil => exact absurd (ready.hasRoom holds pending nodes) full
  | cons head rest =>
      have resent := may.resends holds.sound ready.window full nodes moves
      have carries := holds.carried
      rw [nodes] at carries
      have copy : IsCopy crc32 file transfer.oldest ({ head with
          timestamp := (input.scan 0).stamp.setWidth 32 }.wireBytes crc32) :=
        ⟨_, carries.1.withTimestamp _, rfl⟩
      refine ⟨{ head with
        timestamp := (input.scan 0).stamp.setWidth 32 }.wireBytes crc32, ?_⟩
      rw [Transfer.afterSender, List.drop_left, LoopFlow.state_running, here, resent,
        List.drop_left, List.map_singleton, position_of_copy copy]
      exact List.mem_singleton_self _

/-- An `ACK` for a later position moves the sender forward. -/
theorem Invariant.learns (invariant : transfer.Invariant crc32 file) {sender next : Sender}
    {input : SenderInput} (running : transfer.sender = .running sender)
    (reads : input.newPayload = file.read transfer.next)
    (moves : sender.readWriteLoop crc32 input = .ok (.running next))
    (comes : ComesToRead crc32 input sender) {index position : ℕ} {ack : SentAck}
    {fits : ack.bytes.length ≤ ackSize} (ackRead : input.ackRead = .bytes ack.bytes fits)
    (sent : transfer.receiver.state.sent[index]? = some ack)
    (numbered : transfer.acks[index]? = some position) (isAck : ack.ack.type = ptypeAck)
    (ahead : transfer.oldest < position) :
    position ≤ (transfer.afterSender (.running next)).oldest := by
  have here : transfer.sender.state = sender := by rw [running, LoopFlow.state_running]
  have holds := invariant.holds
  rw [here] at holds
  have waited := invariant.waits.sent
  rcases comes with ⟨revents, last, untils, pollin⟩
  rcases Sender.running_cases moves with ⟨_, _, untilsSame, answered⟩
  rw [untils] at untilsSame
  cases untilsSame
  rcases Sender.passes_of_untilRead holds.sound untils with ⟨middle, passes⟩
  rcases Sender.holds_of_sending (passes.sending holds.sound) passes.resending holds reads with
    ⟨further, low, high, there, _, sameBuf⟩
  rcases invariant.decodes_sent sent numbered isAck fits last.bufAck with
    ⟨pktAck, decodes, window, seqNum, type, delivered⟩
  have content : (last.afterRead input).bufAck = last.bufAck.readInto (.bytes ack.bytes fits) := by
    rw [← ackRead]
    rfl
  rw [← content] at decodes
  rcases answered with ⟨noPollin, _⟩ | ⟨_, ⟨code, rejected, _⟩ | ⟨_, again, handles⟩⟩
  · exact Bool.noConfusion (pollin.symm.trans noPollin)
  · rw [decodes] at rejected
    cases rejected
  · rw [decodes] at again
    cases again
    have thereRead : Sender.Holds file transfer.oldest further (last.afterRead input) :=
      Sender.holds_afterRead there input
    have filled : (last.afterRead input).bufStructure.nodes ≠ [] := by
      intro empty
      have held := thereRead.held
      rw [empty, List.length_nil] at held
      omega
    rcases Sender.handleAnswer_filled thereRead.sound.consistent filled type input.rttTime with
      ⟨_, ends⟩ | ⟨_, again, _, acknowledging⟩
    · rw [handles] at ends
      cases ends
    · rw [handles] at again
      cases again
      have final := acknowledging.holds thereRead window seqNum
        (delivered.trans (waited.trans low)) (by omega)
      rw [(counters_afterSender invariant (.running _) running final ⟨low, high⟩).2]
      exact le_max_right _ _

/-- A copy of a packet which the sender still holds is answered. -/
theorem Invariant.answers (invariant : transfer.Invariant crc32 file) {receiver final : Receiver}
    {input : ReceiverInput} {data : List Byte} {fits : data.length ≤ maxPacketSize} {position : ℕ}
    (running : transfer.receiver = .running receiver)
    (moves : receiver.readWriteLoop crc32 input = .ok (.running final))
    (inputData : input.data = .bytes data fits) (sent : (position, data) ∈ transfer.data)
    (held : transfer.oldest ≤ position)
    (received : final.received = receiver.received ++ [data]) :
    ∃ ack, final.queued = receiver.queued ++ [ack] ∧ ack.type = ptypeAck ∧
      (transfer.afterReceiver (.running final) position).acks =
        transfer.acks ++ [(transfer.afterReceiver (.running final) position).waited] ∧
      (position = transfer.waited →
        transfer.waited < (transfer.afterReceiver (.running final) position).waited) := by
  have waits := invariant.waits
  rw [running, LoopFlow.state_running] at waits
  obtain ⟨below, copy⟩ : position < transfer.next ∧ IsCopy crc32 file position data :=
    invariant.data _ sent
  rcases copy.decodes with ⟨pkt, decodes, carries⟩
  rcases Receiver.readWriteLoop_iteration waits.sound input with ⟨_, again, iteration⟩
  rw [moves] at again
  cases again
  cases iteration with
  | idle _ _ _ same =>
      rw [LoopFlow.state_running, received] at same
      exact absurd same (by simp)
  | read _ _ polled _ sameData _ sound same _ handled =>
      rw [inputData] at sameData
      cases sameData
      rw [Receiver.handleDatagram, decodes] at handled
      rcases invariant.answers_copy running sound same below carries
        (invariant.fresh_of_oldest_le held) handled with
        ⟨ack, queued, isAck, answered, _, advances, _⟩
      exact ⟨ack, queued, isAck, answered, advances⟩

theorem Moves.of_sender {input : SenderInput} {after : Transfer}
    (moves : Moves crc32 file transfer (.sender input) after) :
    ∃ sender flow, transfer.sender = .running sender ∧
      input.newPayload = file.read transfer.next ∧
      sender.readWriteLoop crc32 input = .ok flow ∧ after = transfer.afterSender flow := by
  cases moves with
  | sender sender _ flow running reads _ moves =>
      exact ⟨sender, flow, running, reads, moves, rfl⟩

theorem Moves.of_receiver {input : ReceiverInput} {position : ℕ} {after : Transfer}
    (moves : Moves crc32 file transfer (.receiver input position) after) :
    ∃ receiver flow, transfer.receiver = .running receiver ∧
      receiver.readWriteLoop crc32 input = .ok flow ∧
      after = transfer.afterReceiver flow position := by
  cases moves with
  | receiver receiver _ _ flow running _ moves _ => exact ⟨receiver, flow, running, moves, rfl⟩

/-- What has been queued stays queued, for the same position. -/
theorem Step.queued {after : Transfer} (step : Step crc32 file transfer after)
    (invariant : transfer.Invariant crc32 file) :
    transfer.receiver.state.queued <+: after.receiver.state.queued ∧
      transfer.acks <+: after.acks := by
  cases step with
  | sender => exact ⟨List.prefix_refl _, List.prefix_refl _⟩
  | receiver receiver input position flow running arrival moves complete =>
      have sound := invariant.waits.sound
      rw [running, LoopFlow.state_running] at sound
      rcases Receiver.readWriteLoop_iteration sound input with ⟨_, again, iteration⟩
      rw [moves] at again
      cases again
      rw [running]
      exact ⟨iteration.queued_prefix, List.prefix_append _ _⟩

/-- Both parties stay in their loops, and from some time on the positions do not change. -/
structure Stalled (run : Trace (Moves crc32 file)) (start oldest waited next : ℕ) : Prop where
  reachable : ∀ time, (run.state time).Reachable crc32 file
  bothRun : ∀ time, (run.state time).BothRun
  oldest : ∀ time, start ≤ time → (run.state time).oldest = oldest
  waited : ∀ time, start ≤ time → (run.state time).waited = waited
  next : ∀ time, start ≤ time → (run.state time).next = next

namespace Stalled

variable {run : Trace (Moves crc32 file)} {start oldest waited next : ℕ}

theorem sender_at (stalled : Stalled run start oldest waited next) {time : ℕ}
    {input : SenderInput} (event : run.event time = .sender input) :
    ∃ sender after, (run.state time).sender = .running sender ∧
      input.newPayload = file.read (run.state time).next ∧
      sender.readWriteLoop crc32 input = .ok (.running after) ∧
      run.state (time + 1) = (run.state time).afterSender (.running after) := by
  have moves := run.moves time
  rw [event] at moves
  rcases moves.of_sender with ⟨sender, flow, running, reads, moved, later⟩
  rcases (stalled.bothRun (time + 1)).1 with ⟨after, stays⟩
  rw [later] at stays
  have flowEq : flow = .running after := stays
  rw [flowEq] at moved later
  exact ⟨sender, after, running, reads, moved, later⟩

theorem receiver_at (stalled : Stalled run start oldest waited next) {time position : ℕ}
    {input : ReceiverInput} (event : run.event time = .receiver input position) :
    ∃ receiver after, (run.state time).receiver = .running receiver ∧
      receiver.readWriteLoop crc32 input = .ok (.running after) ∧
      run.state (time + 1) = (run.state time).afterReceiver (.running after) position := by
  have moves := run.moves time
  rw [event] at moves
  rcases moves.of_receiver with ⟨receiver, flow, running, moved, later⟩
  rcases (stalled.bothRun (time + 1)).2 with ⟨after, stays⟩
  rw [later] at stays
  have flowEq : flow = .running after := stays
  rw [flowEq] at moved later
  exact ⟨receiver, after, running, moved, later⟩

theorem queued (stalled : Stalled run start oldest waited next) {first last : ℕ}
    (order : first ≤ last) :
    (run.state first).receiver.state.queued <+: (run.state last).receiver.state.queued ∧
      (run.state first).acks <+: (run.state last).acks := by
  induction last, order using Nat.le_induction with
  | base => exact ⟨List.prefix_refl _, List.prefix_refl _⟩
  | succ last _ ih =>
      rcases (run.moves last).step_or_same with step | same
      · rcases step.queued (invariant_of_reachable (stalled.reachable last)) with ⟨queued, acks⟩
        exact ⟨ih.1.trans queued, ih.2.trans acks⟩
      · rw [same]
        exact ih

/-- The oldest packet is sent again and again. -/
theorem sendsData (stalled : Stalled run start oldest waited next) (fair : Fair run) :
    ∃ᶠ time in atTop, SendsData run oldest time := by
  rw [frequently_atTop]
  intro bound
  have again := fair.sender fun time => (stalled.bothRun time).1
  rcases frequently_atTop.mp again (max start bound) with ⟨time, after, input, event, may⟩
  have started : start ≤ time := (le_max_left _ _).trans after
  refine ⟨time, (le_max_right _ _).trans after, ?_⟩
  have reachable := stalled.reachable time
  rcases stalled.sender_at event with ⟨sender, following, running, reads, moves, later⟩
  rw [running] at may
  have pending : (run.state time).oldest ≤ file.last := by
    apply (agreed_of_reachable reachable).oldest_le
    intro receiver closed
    rcases (stalled.bothRun time).2 with ⟨_, inLoop⟩
    rw [inLoop] at closed
    cases closed
  have same : ((run.state time).afterSender (.running following)).next =
      (run.state time).next := by
    rw [← later, stalled.next time started, stalled.next (time + 1) (by omega)]
  have sends := (invariant_of_reachable reachable).resends running
    (ready_of_reachable reachable running) reads moves may pending same
  rw [← later, stalled.oldest time started] at sends
  exact sends

/-- The receiver waits for a later position, and answers the oldest packet with an `ACK` for it. -/
theorem answersData (stalled : Stalled run start oldest waited next) {time : ℕ}
    (started : start ≤ time) (reads : ReadsData run oldest time) :
    oldest < waited ∧ ∃ ack, ack.type = ptypeAck ∧
      (run.state (time + 1)).receiver.state.queued =
        (run.state time).receiver.state.queued ++ [ack] ∧
      (run.state (time + 1)).acks = (run.state time).acks ++ [waited] := by
  rcases reads with ⟨input, data, fits, event, inputData, sent, received⟩
  have invariant := invariant_of_reachable (stalled.reachable time)
  rcases stalled.receiver_at event with ⟨receiver, after, running, moves, later⟩
  rw [later, running] at received
  have here := stalled.oldest time started
  rcases invariant.answers running moves inputData sent here.le received with
    ⟨ack, queued, isAck, answered, advances⟩
  rw [← later, stalled.waited (time + 1) (by omega)] at answered advances
  rw [stalled.waited time started] at advances
  have behind := invariant.behind
  rw [here, stalled.waited time started] at behind
  refine ⟨?_, ack, isAck, ?_, answered⟩
  · by_contra notAhead
    exact Nat.lt_irrefl waited (advances (by omega))
  · rw [later, running]
    exact queued

/-- The `ACK` for the position which is waited for is sent again and again. -/
theorem sendsAck (stalled : Stalled run start oldest waited next) (fair : Fair run)
    (again : ∃ᶠ time in atTop, ReadsData run oldest time) :
    ∃ᶠ time in atTop, SendsAck run waited time := by
  rw [frequently_atTop]
  intro bound
  rcases frequently_atTop.mp again (max start bound) with ⟨first, after, reads⟩
  rcases stalled.answersData ((le_max_left _ _).trans after) reads with
    ⟨_, ack, isAck, queued, acks⟩
  have flushes := fair.receiver fun time => (stalled.bothRun time).2
  rcases frequently_atTop.mp flushes (first + 1) with
    ⟨last, order, input, position, event, writable⟩
  have invariant := invariant_of_reachable (stalled.reachable first)
  have lengths := invariant.acks.length_eq
  have few : (run.state first).receiver.state.sent.length ≤
      (run.state first).receiver.state.queued.length := by
    rw [Receiver.queued, List.length_append, List.length_map]
    exact Nat.le_add_right _ _
  have whole : (run.state first).receiver.state.queued.length <
      (run.state (last + 1)).receiver.state.sent.length := by
    rcases stalled.receiver_at event with ⟨receiver, following, running, moves, later⟩
    have sound := (invariant_of_reachable (stalled.reachable last)).waits.sound
    rw [running, LoopFlow.state_running] at sound
    have flushed := Receiver.sent_of_writable sound writable moves
    have kept := (stalled.queued order).1.length_le
    rw [queued, List.length_append, List.length_singleton, running, LoopFlow.state_running] at kept
    have sent : (run.state (last + 1)).receiver.state.sent = following.sent := by
      rw [later]
      rfl
    rw [sent]
    omega
  -- The `ACK` is sent in the step which takes the number of those sent past its place.
  obtain ⟨time, notBefore, _, unsent, done⟩ :=
    @exists_crossing (fun time => (run.state time).receiver.state.sent.length) _ _ (last + 1)
      (by omega) few whole
  rcases stalled.queued (show first + 1 ≤ time + 1 by omega) with ⟨queuedLater, acksLater⟩
  have place := List.getElem?_eq_getElem done
  refine ⟨time, ((le_max_right _ _).trans after).trans notBefore, _, _, unsent, place, ?_, ?_⟩
  · rcases acksLater with ⟨rest, same⟩
    rw [← same, acks, lengths, List.append_assoc, List.getElem?_append_right le_rfl]
    simp
  · have found : (run.state (time + 1)).receiver.state.queued[
        (run.state first).receiver.state.queued.length]? = some ack := by
      rcases queuedLater with ⟨rest, same⟩
      rw [← same, queued, List.append_assoc, List.getElem?_append_right le_rfl]
      simp
    rw [Receiver.queued, List.getElem?_append_left (by rwa [List.length_map]), List.getElem?_map,
      place, Option.map_some, Option.some.injEq] at found
    rw [found]
    exact isAck

/-- Such an `ACK` moves the sender forward, so the positions cannot stay the same. -/
theorem not_fair (stalled : Stalled run start oldest waited next) : ¬Fair run := by
  intro fair
  have readsData := fair.data (fun time => (stalled.bothRun time).2) oldest
    (stalled.sendsData fair)
  have readsAck := fair.acks (fun time => (stalled.bothRun time).1) waited
    (stalled.sendsAck fair readsData)
  rcases frequently_atTop.mp readsData start with ⟨_, startedData, reads⟩
  have ahead := (stalled.answersData startedData reads).1
  rcases frequently_atTop.mp readsAck start with
    ⟨time, started, input, index, ack, fits, event, ackRead, sent, numbered, isAck, comes⟩
  rcases stalled.sender_at event with ⟨sender, after, running, reads, moves, later⟩
  rw [running] at comes
  have invariant := invariant_of_reachable (stalled.reachable time)
  have learned := invariant.learns running reads moves comes ackRead sent numbered isAck
    (by rwa [stalled.oldest time started])
  rw [← later, stalled.oldest (time + 1) (by omega)] at learned
  omega

end Stalled

/-- How far the parties have come. -/
def progress (transfer : Transfer) : ℕ :=
  transfer.oldest + transfer.waited + transfer.next

theorem Invariant.progress_le (invariant : transfer.Invariant crc32 file) :
    transfer.progress ≤ 3 * (file.last + 1) := by
  have behind := invariant.behind
  have sent := invariant.waits.sent
  have bounded := invariant.holds.bounded
  rw [progress]
  omega

/-- Some party leaves its loop. -/
theorem exists_left {run : Trace (Moves crc32 file)}
    (reachable : (run.state 0).Reachable crc32 file) (fair : Fair run) :
    ∃ time, ¬(run.state time).BothRun := by
  have reached := reachable_of_run reachable
  have rises (time : ℕ) (bothRun : (run.state (time + 1)).BothRun) :
      (run.state time).oldest ≤ (run.state (time + 1)).oldest ∧
        (run.state time).waited ≤ (run.state (time + 1)).waited ∧
        (run.state time).next ≤ (run.state (time + 1)).next := by
    rcases (run.moves time).step_or_same with step | same
    · exact step.rises (invariant_of_reachable (reached time)) bothRun
    · rw [same]
      exact ⟨le_rfl, le_rfl, le_rfl⟩
  refine @Trace.exists_of_progress _ _ _ run (fun transfer => ¬transfer.BothRun) progress
    (3 * (file.last + 1)) (fun time => (invariant_of_reachable (reached time)).progress_le) ?_ ?_
  · intro time stays
    rcases rises time (not_not.mp stays) with ⟨oldest, waited, next⟩
    rw [progress, progress]
    omega
  · intro start never
    by_contra same
    push Not at same
    have bothRun (time : ℕ) : (run.state time).BothRun := not_not.mp (never time)
    have oldest : Monotone fun time => (run.state time).oldest :=
      monotone_nat_of_le_succ fun time => (rises time (bothRun _)).1
    have waited : Monotone fun time => (run.state time).waited :=
      monotone_nat_of_le_succ fun time => (rises time (bothRun _)).2.1
    have next : Monotone fun time => (run.state time).next :=
      monotone_nat_of_le_succ fun time => (rises time (bothRun _)).2.2
    have stays (time : ℕ) (later : start ≤ time) :
        (run.state time).oldest = (run.state start).oldest ∧
          (run.state time).waited = (run.state start).waited ∧
          (run.state time).next = (run.state start).next := by
      have total := same time later
      have first := oldest later
      have second := waited later
      have third := next later
      simp only [progress] at total first second third
      omega
    have stalled : Stalled run start (run.state start).oldest (run.state start).waited
        (run.state start).next :=
      ⟨reached, bothRun, fun time later => (stays time later).1,
        fun time later => (stays time later).2.1, fun time later => (stays time later).2.2⟩
    exact stalled.not_fair fair

/--
In every fair run in which no party gives up, the receiver closes with the whole input
written, whatever is lost, repeated, damaged, truncated or reordered.
-/
theorem delivers_of_fair {run : Trace (Moves crc32 file)}
    (reachable : (run.state 0).Reachable crc32 file) (fair : Fair run) (patient : Patient run) :
    ∃ time receiver, (run.state time).receiver = .returned .closed receiver ∧
      receiver.written = file.chunks.flatten := by
  rcases exists_left reachable fair with ⟨time, left⟩
  have reached := reachable_of_run reachable time
  have agreed := agreed_of_reachable reached
  obtain ⟨receiver, closed⟩ : ∃ receiver, (run.state time).receiver =
      .returned .closed receiver := by
    cases here : (run.state time).receiver with
    | returned reason receiver =>
        rw [patient.receiver time reason receiver here]
        exact ⟨receiver, rfl⟩
    | running receiver =>
        cases there : (run.state time).sender with
        | running sender => exact absurd ⟨⟨sender, there⟩, receiver, here⟩ left
        | returned reason sender =>
            rw [patient.sender time reason sender there] at there
            rw [← here]
            exact agreed.ended sender there
  exact ⟨time, receiver, closed, agreed.written_of_closed (invariant_of_reachable reached) closed⟩

/-- A party which has returned stays as it is. -/
theorem Moves.returned {event : Event} {after : Transfer}
    (moves : Moves crc32 file transfer event after) :
    (∀ reason sender, transfer.sender = .returned reason sender →
        after.sender = .returned reason sender) ∧
      ∀ reason receiver, transfer.receiver = .returned reason receiver →
        after.receiver = .returned reason receiver := by
  cases moves with
  | sender sender input flow running =>
      refine ⟨?_, fun _ _ ended => ended⟩
      intro reason final ended
      rw [running] at ended
      cases ended
  | receiver receiver input position flow running =>
      refine ⟨fun _ _ ended => ended, ?_⟩
      intro reason final ended
      rw [running] at ended
      cases ended
  | idle => exact ⟨fun _ _ ended => ended, fun _ _ ended => ended⟩

section Settled

variable {run : Trace (Moves crc32 file)} {settled : ℕ} {final : Transfer} {sender : Sender}
  {receiver : Receiver}

theorem patient_of_settled (stays : ∀ time, settled ≤ time → run.state time = final)
    (ended : final.sender = .returned .lastAck sender)
    (closed : final.receiver = .returned .closed receiver) : Patient run where
  sender := by
    intro time reason other left
    suffices ∀ more, (run.state (time + more)).sender = .returned reason other by
      have there := this settled
      rw [stays (time + settled) (Nat.le_add_left _ _), ended] at there
      cases there
      rfl
    intro more
    induction more with
    | zero => exact left
    | succ more ih => exact (run.moves (time + more)).returned.1 _ _ ih
  receiver := by
    intro time reason other left
    suffices ∀ more, (run.state (time + more)).receiver = .returned reason other by
      have there := this settled
      rw [stays (time + settled) (Nat.le_add_left _ _), closed] at there
      cases there
      rfl
    intro more
    induction more with
    | zero => exact left
    | succ more ih => exact (run.moves (time + more)).returned.2 _ _ ih

theorem fair_of_settled (stays : ∀ time, settled ≤ time → run.state time = final)
    (ended : final.sender = .returned .lastAck sender)
    (closed : final.receiver = .returned .closed receiver) : Fair run := by
  have senderLeft : ¬∀ time, ∃ sender, (run.state time).sender = .running sender := by
    intro inLoop
    rcases inLoop settled with ⟨other, running⟩
    rw [stays settled le_rfl, ended] at running
    cases running
  have receiverLeft : ¬∀ time, ∃ receiver, (run.state time).receiver = .running receiver := by
    intro inLoop
    rcases inLoop settled with ⟨other, running⟩
    rw [stays settled le_rfl, closed] at running
    cases running
  exact ⟨fun inLoop => absurd inLoop senderLeft, fun inLoop => absurd inLoop receiverLeft,
    fun inLoop => absurd inLoop receiverLeft, fun inLoop => absurd inLoop senderLeft⟩

end Settled

theorem delivers_of_fair_example :
    ∃ run : Trace (Moves Crc.zlib fileExample), Fair run ∧ Patient run ∧
      ∃ time receiver, (run.state time).receiver = .returned .closed receiver ∧
        receiver.written = fileExample.chunks.flatten := by
  have ended : endedExample.sender = .returned .lastAck endedExample.sender.state := by
    decide +kernel
  have closed : endedExample.receiver = .returned .closed endedExample.receiver.state := by
    decide +kernel
  rcases reachable_endedExample with ⟨tpSender, tpReceiver, bufAck, code, unread, steps⟩
  have moves := Relation.ReflTransGen.mono (fun _ _ step => Step.exists_moves step) _ _ steps
  rcases Trace.exists_of_steps (Moves.idle endedExample) moves with ⟨run, first, settled, stays⟩
  have reachable : (run.state 0).Reachable Crc.zlib fileExample := by
    rw [first]
    exact ⟨tpSender, tpReceiver, bufAck, code, unread, .refl⟩
  have fair := fair_of_settled stays ended closed
  have patient := patient_of_settled stays ended closed
  exact ⟨run, fair, patient, delivers_of_fair reachable fair patient⟩

end Transfer

end ReliableTransfer
