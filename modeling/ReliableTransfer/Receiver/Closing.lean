import ReliableTransfer.Receiver.Answers

/-!
# The closing acknowledgement

The loop which sends acknowledgements stops behind the first one with the mark,
and the receiver returns. So a marked acknowledgement is the last thing which the
receiver sends, and whatever is queued behind it is lost. Nothing is lost if the
socket is writable in every iteration, since the queue is empty then before the
next datagram is read.
-/

namespace ReliableTransfer.Receiver

open QueueReceiver

variable {crc32 : List Byte → BitVec 32} {receiver before after : Receiver}

/-- Some acknowledgements have been sent, and others are left. -/
def afterSends (crc32 : List Byte → BitVec 32) (receiver : Receiver) (acks rest : List Pkt) :
    Receiver :=
  { receiver with
    ackQueue := .ofNodes rest
    sent := receiver.sent ++ acks.map fun ack => ⟨ack, ackBytes crc32 ack⟩ }

theorem afterSends_afterSend (receiver : Receiver) (ack : Pkt) (queue acks rest : List Pkt) :
    (receiver.afterSend crc32 ack queue).afterSends crc32 acks rest =
      receiver.afterSends crc32 (ack :: acks) rest := by
  simp [afterSends, afterSend]

theorem sendAcks_stop (ackBuf : Buffer ackSize) (fuel : ℕ)
    (stop : ¬(receiver.revents.pollout = true ∧ receiver.ackQueue.size > 0)) :
    sendAcks crc32 ackBuf fuel receiver = .ok (.running receiver) := by
  cases fuel with
  | zero => rw [sendAcks, if_neg stop]
  | succ fuel => rw [sendAcks, if_neg stop]

theorem sendAcks_succ (ackBuf : Buffer ackSize) (fuel : ℕ) (sound : receiver.Sound crc32)
    (writable : receiver.revents.pollout = true) {ack : Pkt} {rest : List Pkt}
    (nodes : receiver.ackQueue.nodes = ack :: rest) :
    sendAcks crc32 ackBuf (fuel + 1) receiver =
      if ack.trFlag = 1 then .ok (.returned .closed (receiver.afterSend crc32 ack rest))
      else sendAcks crc32 ackBuf fuel (receiver.afterSend crc32 ack rest) := by
  have asNodes : receiver.ackQueue = .ofNodes (ack :: rest) := by
    rw [sound.ackQueue.eq_ofNodes, nodes]
  have isAck : IsAck ack := sound.acks ack (by simp [queued, nodes])
  have more : receiver.revents.pollout = true ∧ receiver.ackQueue.size > 0 := by
    refine ⟨writable, ?_⟩
    rw [asNodes, Queue.size_ofNodes, List.length_cons]
    omega
  rw [sendAcks, if_pos more, sendAck_eq asNodes isAck]
  split
  · rfl
  · rfl

/-- Without a mark, the whole queue is sent. -/
theorem sendAcks_unmarked (ackBuf : Buffer ackSize) {fuel : ℕ} (sound : receiver.Sound crc32)
    (writable : receiver.revents.pollout = true) {acks : List Pkt}
    (nodes : receiver.ackQueue.nodes = acks) (unmarked : ∀ ack ∈ acks, ack.trFlag ≠ 1)
    (enough : acks.length ≤ fuel) :
    sendAcks crc32 ackBuf fuel receiver =
      .ok (.running (receiver.afterSends crc32 acks [])) := by
  induction acks generalizing receiver fuel with
  | nil =>
      have asNodes : receiver.ackQueue = .ofNodes [] := by rw [sound.ackQueue.eq_ofNodes, nodes]
      have same : receiver.afterSends crc32 [] [] = receiver := by
        rw [afterSends, ← asNodes]
        simp
      rw [sendAcks_stop ackBuf fuel (by simp [asNodes]), same]
  | cons ack rest ih =>
      cases fuel with
      | zero => simp at enough
      | succ fuel =>
          have asNodes : receiver.ackQueue = .ofNodes (ack :: rest) := by
            rw [sound.ackQueue.eq_ofNodes, nodes]
          have first : ack.trFlag ≠ 1 := unmarked ack (by simp)
          rw [sendAcks_succ ackBuf fuel sound writable nodes, if_neg first,
            ih (sound_afterSend sound asNodes).1 writable rfl
              (fun other present => unmarked other (by simp [present]))
              (Nat.le_of_succ_le_succ enough), afterSends_afterSend]

/-- What is queued behind the first mark is not sent. -/
theorem sendAcks_marked (ackBuf : Buffer ackSize) {fuel : ℕ} (sound : receiver.Sound crc32)
    (writable : receiver.revents.pollout = true) {acks lost : List Pkt} {last : Pkt}
    (nodes : receiver.ackQueue.nodes = acks ++ last :: lost)
    (unmarked : ∀ ack ∈ acks, ack.trFlag ≠ 1) (marked : last.trFlag = 1)
    (enough : (acks ++ last :: lost).length ≤ fuel) :
    sendAcks crc32 ackBuf fuel receiver =
      .ok (.returned .closed (receiver.afterSends crc32 (acks ++ [last]) lost)) := by
  induction acks generalizing receiver fuel with
  | nil =>
      cases fuel with
      | zero => simp at enough
      | succ fuel =>
          rw [sendAcks_succ ackBuf fuel sound writable nodes, if_pos marked]
          rfl
  | cons ack rest ih =>
      rw [List.cons_append] at nodes enough
      cases fuel with
      | zero => simp at enough
      | succ fuel =>
          have asNodes : receiver.ackQueue = .ofNodes (ack :: (rest ++ last :: lost)) := by
            rw [sound.ackQueue.eq_ofNodes, nodes]
          have first : ack.trFlag ≠ 1 := unmarked ack (by simp)
          rw [sendAcks_succ ackBuf fuel sound writable nodes, if_neg first,
            ih (sound_afterSend sound asNodes).1 writable rfl
              (fun other present => unmarked other (by simp [present]))
              (Nat.le_of_succ_le_succ enough), afterSends_afterSend]
          rfl

/-- One acknowledgement has been queued, and none has been sent. -/
structure QueuesOne (before after : Receiver) : Prop where
  sent : after.sent = before.sent
  ackQueue : ∃ ack, after.ackQueue.nodes = before.ackQueue.nodes ++ [ack]

theorem queuesOne_afterAck {middle : Receiver} (sent : middle.sent = before.sent)
    (ackQueue : middle.ackQueue = before.ackQueue) (ack : Pkt) :
    QueuesOne before (middle.afterAck ack) := by
  refine ⟨sent, ack, ?_⟩
  rw [← ackQueue]
  rfl

theorem queuesOne_afterClosing {middle : Receiver} (sent : middle.sent = before.sent)
    (ackQueue : middle.ackQueue = before.ackQueue) (timestamp : BitVec 32) :
    QueuesOne before (middle.afterClosing timestamp) :=
  @queuesOne_afterAck before { middle with waitedSeqNum := middle.waitedSeqNum + 1 } sent ackQueue _

theorem queuesOne_afterDataAck {middle : Receiver} (sent : middle.sent = before.sent)
    (ackQueue : middle.ackQueue = before.ackQueue) :
    QueuesOne before middle.afterDataAck := by
  rw [afterDataAck]
  split
  · exact queuesOne_afterClosing sent ackQueue _
  · exact queuesOne_afterAck sent ackQueue _

theorem handleData_queuesOne (sound : before.Sound crc32) {wr : ℕ → WriteOutcome} {pkt : Pkt}
    (handled : before.handleData wr pkt = .ok after) : QueuesOne before after := by
  cases pushes : queueOrderedPush before.pktQueue (some pkt) before.waitedSeqNum maxBufferSize with
  | error fault =>
      simp only [handleData, pushes, bind, Except.bind] at handled
      cases handled
  | ok result =>
      rw [handleData_eq sound.ackQueue wr pkt pushes] at handled
      cases handled
      apply queuesOne_afterDataAck
      · split
        · rfl
        · rfl
      · split
        · rfl
        · rfl

theorem handleDecoded_queuesOne (sound : before.Sound crc32) {wr : ℕ → WriteOutcome}
    {decoded : Except PktStatusCode Pkt} (handled : before.handleDecoded wr decoded = .ok after) :
    QueuesOne before after := by
  cases decoded with
  | error code =>
      rw [handleDecoded, queueAck_eq sound.ackQueue] at handled
      cases handled
      exact queuesOne_afterAck rfl rfl _
  | ok pkt =>
      rw [handleDecoded, handlePacket] at handled
      split at handled
      · rw [queueAck_eq sound.ackQueue] at handled
        cases handled
        exact queuesOne_afterAck rfl rfl _
      · split at handled
        · split at handled
          · rw [handleEnd_eq sound.ackQueue] at handled
            cases handled
            split
            · exact @queuesOne_afterClosing before (before.withEnd pkt.seqNum) rfl rfl _
            · exact @queuesOne_afterAck before (before.withEnd pkt.seqNum) rfl rfl _
          · exact handleData_queuesOne sound handled
        · rw [queueAck_eq sound.ackQueue] at handled
          cases handled
          exact queuesOne_afterAck rfl rfl _

/-- Where the marks are among the acknowledgements which have been sent. -/
inductive Closing : LoopFlow Receiver ReceiverExit → Prop where
  | running (receiver : Receiver) (unmarked : ∀ sent ∈ receiver.sent, sent.ack.trFlag ≠ 1) :
      Closing (.running receiver)
  | timeout (receiver : Receiver) (unmarked : ∀ sent ∈ receiver.sent, sent.ack.trFlag ≠ 1) :
      Closing (.returned .timeout receiver)
  | closed (receiver : Receiver) (earlier : List SentAck) (last : SentAck)
      (sent : receiver.sent = earlier ++ [last])
      (unmarked : ∀ sent ∈ earlier, sent.ack.trFlag ≠ 1) (marked : last.ack.trFlag = 1) :
      Closing (.returned .closed receiver)

theorem unmarked_afterSends {acks : List Pkt} (rest : List Pkt)
    (earlier : ∀ sent ∈ receiver.sent, sent.ack.trFlag ≠ 1)
    (unmarked : ∀ ack ∈ acks, ack.trFlag ≠ 1) :
    ∀ sent ∈ (receiver.afterSends crc32 acks rest).sent, sent.ack.trFlag ≠ 1 := by
  intro sent present
  rcases List.mem_append.mp present with before | new
  · exact earlier sent before
  · rcases List.mem_map.mp new with ⟨ack, inAcks, rfl⟩
    exact unmarked ack inAcks

/-- What the loop does before it reads: it sends the queue up to the first mark. -/
theorem sendAcks_closing (ackBuf : Buffer ackSize) (sound : receiver.Sound crc32)
    (unmarked : ∀ sent ∈ receiver.sent, sent.ack.trFlag ≠ 1) :
    ∃ flow, sendAcks crc32 ackBuf receiver.ackQueue.size.toNat receiver = .ok flow ∧
      flow.state.Sound crc32 ∧ Closing flow ∧
      (receiver.revents.pollout = true → receiver.ackQueue.nodes.length ≤ 1 →
        flow.state.ackQueue.nodes = []) := by
  have enough : receiver.ackQueue.nodes.length ≤ receiver.ackQueue.size.toNat :=
    sound.ackQueue.length_le
  rcases sendAcks_spec ackBuf sound enough with ⟨flow, sends, soundSent, _⟩
  refine ⟨flow, sends, soundSent, ?_⟩
  cases writable : receiver.revents.pollout with
  | false =>
      rw [sendAcks_stop ackBuf _ (by simp [writable])] at sends
      cases sends
      refine ⟨.running _ unmarked, ?_⟩
      rintro ⟨⟩
  | true =>
      rcases none_or_first (fun ack => ack.trFlag = 1) receiver.ackQueue.nodes with
        none | ⟨acks, last, lost, nodes, none, marked⟩
      · rw [sendAcks_unmarked ackBuf sound writable rfl none enough] at sends
        cases sends
        exact ⟨.running _ (unmarked_afterSends _ unmarked none), fun _ _ => rfl⟩
      · rw [nodes] at enough
        rw [sendAcks_marked ackBuf sound writable nodes none marked enough] at sends
        cases sends
        refine ⟨.closed _ (receiver.afterSends crc32 acks lost).sent ⟨last, ackBytes crc32 last⟩ ?_
          (unmarked_afterSends _ unmarked none) marked, ?_⟩
        · simp [afterSends]
        · intro _ few
          rw [nodes, List.length_append, List.length_cons] at few
          exact List.length_eq_zero_iff.mp (show lost.length = 0 by omega)

/-- What is known of the queue when the socket has been writable in every iteration. -/
def Drained : LoopFlow Receiver ReceiverExit → Prop
  | .running receiver => receiver.ackQueue.nodes.length ≤ 1
  | .returned reason receiver => reason = .closed → receiver.ackQueue.nodes = []

theorem readPacket_closing {input : ReceiverInput} (sound : receiver.Sound crc32)
    (unmarked : ∀ sent ∈ receiver.sent, sent.ack.trFlag ≠ 1) :
    ∃ after, readPacket crc32 input receiver = .ok after ∧
      Closing (.running after) ∧
      after.ackQueue.nodes.length ≤ receiver.ackQueue.nodes.length + 1 := by
  rw [readPacket]
  simp only
  split
  · exact ⟨_, rfl, .running _ unmarked, Nat.le_succ _⟩
  · exact ⟨_, rfl, .running _ unmarked, Nat.le_succ _⟩
  · rename_i data fits nonempty dataRead
    have soundRead : { receiver with
        tpGlobal := input.readTime, received := receiver.received ++ [data] }.Sound crc32 :=
      sound.of_same sound.pktQueue rfl rfl
    rcases handleDecoded_answered soundRead input.wr (pktDecode crc32 true data pktNew) with
      ⟨after, handled, _⟩
    have queues := handleDecoded_queuesOne soundRead handled
    rcases queues.ackQueue with ⟨ack, nodes⟩
    refine ⟨after, handled, .running _ ?_, ?_⟩
    · rw [queues.sent]
      exact unmarked
    · rw [nodes, List.length_append]
      exact le_rfl

theorem readWriteLoop_closing (input : ReceiverInput) (sound : receiver.Sound crc32)
    (unmarked : ∀ sent ∈ receiver.sent, sent.ack.trFlag ≠ 1) :
    ∃ flow, readWriteLoop crc32 input receiver = .ok flow ∧ Closing flow ∧
      ((receiver.revents.after input.poll).pollout = true →
        receiver.ackQueue.nodes.length ≤ 1 → Drained flow) := by
  rw [readWriteLoop]
  split
  · refine ⟨_, rfl, .timeout _ unmarked, ?_⟩
    rintro _ _ ⟨⟩
  · have soundPoll : { receiver with revents := receiver.revents.after input.poll }.Sound crc32 :=
      sound.of_same sound.pktQueue rfl rfl
    rcases sendAcks_closing input.ackBuf soundPoll unmarked with
      ⟨flow, sends, soundSent, closing, drained⟩
    simp only [sends, bind, Except.bind]
    cases flow with
    | returned reason after =>
        exact ⟨_, rfl, closing, fun writable few _ => drained writable few⟩
    | running after =>
        cases closing with
        | running _ stillUnmarked =>
            simp only
            split
            · obtain ⟨final, reads, finalClosing, length⟩ :
                  ∃ final, readPacket crc32 input after = .ok final ∧ Closing (.running final) ∧
                    final.ackQueue.nodes.length ≤ after.ackQueue.nodes.length + 1 :=
                readPacket_closing soundSent stillUnmarked
              refine ⟨.running final, ?_, finalClosing, ?_⟩
              · rw [reads]
                rfl
              · intro writable few
                have empty := drained writable few
                rw [LoopFlow.state_running] at empty
                rw [empty] at length
                exact length
            · refine ⟨_, rfl, .running _ stillUnmarked, ?_⟩
              intro writable few
              have empty := drained writable few
              rw [LoopFlow.state_running] at empty
              rw [Drained, empty]
              exact Nat.zero_le _

theorem Closing.unmarked {receiver : Receiver} (closing : Closing (.running receiver)) :
    ∀ sent ∈ receiver.sent, sent.ack.trFlag ≠ 1 := by
  cases closing with
  | running _ unmarked => exact unmarked

/-- The mark is on the last acknowledgement, if the loop has returned because of it. -/
theorem Closing.marked_iff {flow : LoopFlow Receiver ReceiverExit} (closing : Closing flow)
    {index : ℕ} {sent : SentAck} (found : flow.state.sent[index]? = some sent) :
    sent.ack.trFlag = 1 ↔
      index + 1 = flow.state.sent.length ∧ ∃ final, flow = .returned .closed final := by
  cases closing with
  | running receiver unmarked =>
      apply iff_of_false (unmarked sent (List.mem_of_getElem? found))
      rintro ⟨_, final, ⟨⟩⟩
  | timeout receiver unmarked =>
      apply iff_of_false (unmarked sent (List.mem_of_getElem? found))
      rintro ⟨_, final, ⟨⟩⟩
  | closed receiver earlier last sends unmarked marked =>
      rw [LoopFlow.state_returned, sends] at found ⊢
      rw [List.length_append, List.length_singleton]
      rcases Nat.lt_trichotomy index earlier.length with before | rfl | beyond
      · rw [List.getElem?_append_left before] at found
        apply iff_of_false (unmarked sent (List.mem_of_getElem? found))
        omega
      · rw [List.getElem?_concat_length] at found
        cases found
        exact iff_of_true marked ⟨rfl, receiver, rfl⟩
      · rw [List.getElem?_eq_none (by simp; omega)] at found
        cases found

/-- The socket is writable when it is polled. -/
def Writable (input : ReceiverInput) : Prop :=
  ∃ pollin, input.poll = .ready ⟨pollin, true⟩

/-- What every iteration keeps. -/
structure ClosesSoundly (crc32 : List Byte → BitVec 32) (flow : LoopFlow Receiver ReceiverExit) :
    Prop where
  sound : flow.state.Sound crc32
  closing : Closing flow

theorem closesSoundly_start (tpGlobal : Time) :
    ClosesSoundly crc32 (.running (start tpGlobal)) where
  sound := sound_start tpGlobal
  closing := .running _ fun sent none => by cases none

theorem Iteration.sound {input : ReceiverInput} {flow : LoopFlow Receiver ReceiverExit}
    (iteration : Iteration crc32 input before flow) : flow.state.Sound crc32 := by
  cases iteration with
  | idle flow sound => exact sound
  | read data fits middle after input_data nonempty sound same received handled =>
      rcases handleDecoded_answered sound input.wr (pktDecode crc32 true data pktNew) with
        ⟨_, handled', answered⟩
      cases handled.symm.trans handled'
      exact answered.sound

theorem ClosesSoundly.step {input : ReceiverInput} {flow : LoopFlow Receiver ReceiverExit}
    (closes : ClosesSoundly crc32 (.running receiver))
    (moves : readWriteLoop crc32 input receiver = .ok flow) :
    ClosesSoundly crc32 flow ∧
      (Writable input → Drained (.running receiver) → Drained flow) := by
  have sound : receiver.Sound crc32 := closes.sound
  rcases readWriteLoop_closing input sound closes.closing.unmarked with
    ⟨_, same, closing, drained⟩
  rcases readWriteLoop_iteration sound input with ⟨_, again, iteration⟩
  rw [moves] at same again
  cases same
  cases again
  refine ⟨⟨iteration.sound, closing⟩, ?_⟩
  rintro ⟨pollin, polled⟩ few
  exact drained (by rw [polled]; rfl) few

/--
In every run, an acknowledgement which has been sent has the closing mark exactly if it is
the last one and the loop has returned because of it; and the loop does not
return so without sending one. If the socket is writable whenever it is polled,
then all datagrams have been answered by then.
-/
theorem run_closing (crc32 : List Byte → BitVec 32) (tpGlobal : Time)
    (inputs : List ReceiverInput) :
    ∃ flow, Loop.run (readWriteLoop crc32) inputs (start tpGlobal) = .ok flow ∧
      (∀ index sent, flow.state.sent[index]? = some sent →
        (sent.ack.trFlag = 1 ↔
          index + 1 = flow.state.sent.length ∧ ∃ final, flow = .returned .closed final)) ∧
      ∀ final, flow = .returned .closed final → final.sent ≠ [] ∧
        ((∀ input ∈ inputs, Writable input) → final.sent.length = final.received.length) := by
  rcases Loop.run_total readWriteLoop_replays inputs
    (replays_start (fun _ => .failed) tpGlobal tpGlobal) with ⟨flow, runs, replays⟩
  have closes : ClosesSoundly crc32 flow :=
    @Loop.run_invariant _ _ _ _ _ (fun _ => True) _ (fun _ known moves => (known.step moves).1) _
      (fun _ _ => trivial) _ (closesSoundly_start tpGlobal) _ runs
  refine ⟨flow, runs, fun index sent => closes.closing.marked_iff, ?_⟩
  rintro final rfl
  constructor
  · cases closes.closing with
    | closed _ earlier last sends => simp [sends]
  · intro writable
    have drained : ClosesSoundly crc32 (.returned .closed final) ∧
        Drained (.returned .closed final) :=
      @Loop.run_invariant _ _ _ _ _ Writable (fun flow => ClosesSoundly crc32 flow ∧ Drained flow)
        (fun allowed known moves =>
          ⟨(known.1.step moves).1, (known.1.step moves).2 allowed known.2⟩) _
        writable _ ⟨closesSoundly_start tpGlobal, Nat.zero_le _⟩ _ runs
    have counted := replays.counted
    rw [LoopFlow.state_returned, queued, drained.2 rfl, List.append_nil, List.length_map]
      at counted
    exact counted

end ReliableTransfer.Receiver
