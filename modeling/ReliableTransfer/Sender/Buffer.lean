import ReliableTransfer.Sender.Steps
import ReliableTransfer.Library.Crc

/-!
# What acknowledgements do to the sender's buffer

The handler of an `ACK` tests whether its number lies in the advertised window,
counted from the first buffered packet. The buffer may hold fewer packets than
the window, and none at all. This has two consequences: the test can read
through the head of an empty buffer (`ReadsEmptyHead`), and an `ACK` for a packet
which has not been sent can empty the buffer.
-/

namespace ReliableTransfer.Sender

open QueueSender

def numbers (sender : Sender) : List (BitVec 8) :=
  sender.bufStructure.nodes.map Pkt.seqNum

/-- As long as the end packet is buffered, it is the last one, and the last one numbered. -/
structure Settled (sender : Sender) : Prop where
  sound : sender.Sound
  lastNumber : sender.isLastAckNum = true →
    ∀ number ∈ sender.numbers.getLast?, number + 1 = sender.seqNum

theorem settled_start (tpGlobal : Time) (bufAck : Buffer ackSize) :
    (start tpGlobal bufAck).Settled where
  sound := by
    refine ⟨Queue.consistent_init, ?_⟩
    intro pkt present
    cases present
  lastNumber := by
    intro last
    cases last

theorem Settled.of_suffix {before after : Sender} (settled : before.Settled)
    (sound : after.Sound) (isLastAckNum : after.isLastAckNum = before.isLastAckNum)
    (seqNum : after.seqNum = before.seqNum) (suffix : after.numbers <:+ before.numbers) :
    after.Settled where
  sound := sound
  lastNumber := by
    intro last number isLast
    rw [isLastAckNum] at last
    rw [seqNum]
    apply settled.lastNumber last
    rcases suffix with ⟨front, whole⟩
    rw [← whole, List.getLast?_append, Option.mem_def.mp isLast]
    rfl

variable {crc32 : List Byte → BitVec 32}

theorem Sending.settled {input : SenderInput} {before after : Sender}
    (sending : Sending crc32 input before after) (settled : before.Settled) : after.Settled where
  sound := sending.sound settled.sound
  lastNumber := by
    intro last number isLast
    cases sending with
    | nothing => exact settled.lastNumber last number isLast
    | ended =>
        simp only [numbers, afterSend, Queue.nodes_ofNodes, List.map_append, List.map_cons,
          List.map_nil, List.getLast?_concat, Option.mem_def, Option.some.injEq] at isLast
        rw [← isLast]
        rfl
    | data => cases last
    | failed notEnd =>
        rw [afterFailedRead] at last
        simp [notEnd] at last

theorem Resending.numbers {before after : Sender} (resending : Resending crc32 before after) :
    after.numbers = before.numbers := by
  cases resending with
  | nothing => rfl
  | again front pkt back stamp nodes =>
      simp [Sender.numbers, afterResend, nodes, restamp, Pkt.withCrcs]

theorem Resending.settled {before after : Sender} (resending : Resending crc32 before after)
    (settled : before.Settled) : after.Settled := by
  have suffix : after.numbers <:+ before.numbers := resending.numbers ▸ List.suffix_refl _
  apply settled.of_suffix (resending.sound settled.sound) _ _ suffix
  · cases resending with
    | nothing => rfl
    | again => rfl
  · cases resending with
    | nothing => rfl
    | again => rfl

theorem settled_afterRead {sender : Sender} (settled : sender.Settled) (input : SenderInput) :
    (sender.afterRead input).Settled :=
  settled.of_suffix (sound_afterRead settled.sound input) rfl rfl (List.suffix_refl _)

theorem Acknowledging.settled {pktAck : Pkt} {before after : Sender}
    (acknowledging : Acknowledging pktAck before after) (settled : before.Settled) :
    after.Settled := by
  have sound := acknowledging.sound settled.sound
  cases acknowledging with
  | unknown => exact settled.of_suffix sound rfl rfl (List.suffix_refl _)
  | outside => exact settled.of_suffix sound rfl rfl (List.suffix_refl _)
  | deletes =>
      have suffix := remaining_suffix (pktAck.seqNum - 1) before.bufStructure.nodes
      exact settled.of_suffix sound rfl rfl (suffix.map _)

theorem settled_handleNack {sender : Sender} (settled : sender.Settled) (pktNack : Pkt) :
    (sender.handleNack pktNack).Settled := by
  have numbers : (sender.handleNack pktNack).numbers = sender.numbers :=
    map_seqNum_markNodes _ _
  have suffix : (sender.handleNack pktNack).numbers <:+ sender.numbers :=
    numbers ▸ List.suffix_refl _
  exact settled.of_suffix (sound_handleNack settled.sound pktNack) rfl rfl suffix

theorem Iteration.settled {input : SenderInput} {before : Sender}
    {flow : LoopFlow Sender SenderExit} (iteration : Iteration crc32 input before (.ok flow))
    (settled : before.Settled) : flow.state.Settled := by
  cases iteration with
  | stopped reason middle early sending => exact sending.settled settled
  | quiet middle last sending resending => exact resending.settled (sending.settled settled)
  | rejects middle last sending resending =>
      exact settled_afterRead (resending.settled (sending.settled settled)) input
  | answers middle last sending resending pktAck decodes result answering =>
      have read := settled_afterRead (resending.settled (sending.settled settled)) input
      cases answering with
      | ends => exact read
      | acknowledges notLast type after acknowledging => exact acknowledging.settled read
      | marks => exact settled_handleNack read pktAck
      | ignores => exact read

variable (crc32)

theorem settled_of_reachable {tpGlobal : Time} {bufAck : Buffer ackSize} {sender : Sender}
    (reached : Loop.Reachable (readWriteLoop crc32) (start tpGlobal bufAck) sender) :
    sender.Settled := by
  apply reached.invariant (settled_start tpGlobal bufAck)
  intro input state next settled moved
  have iteration := readWriteLoop_iteration crc32 settled.sound input
  rw [moved] at iteration
  exact iteration.settled settled

/-- An `ACK` which does not end the transfer is read, and there is no first packet to test. -/
structure TestsEmptyBuffer (input : SenderInput) (sender : Sender) : Prop where
  empty : sender.bufStructure.nodes = []
  seen : sender.firstAck = false
  answer : ∃ pktAck,
    pktDecode crc32 true (sender.bufAck.readInto input.ackRead).val pktNew = .ok pktAck ∧
      pktAck.type = ptypeAck ∧ ¬sender.EndsTransfer pktAck

/-- The iteration gets as far as to read an acknowledgement, and sends no new packet before. -/
structure ReadsEmptyHead (input : SenderInput) (sender : Sender) : Prop where
  inTime : timedOut input.tpNow sender.tpGlobal = false
  polled : ∃ revents, input.poll = .ready revents ∧ revents.pollin = true ∧
    ¬(revents.pollout = true ∧ sender.bufStructure.size < sender.sizeBuffer ∧
      sender.isLastAckNum = false ∧ input.newPayload ≠ .failed)
  tests : sender.TestsEmptyBuffer crc32 input

theorem readAck_eq_error_iff {sender : Sender} (sound : sender.Sound) (input : SenderInput) :
    readAck crc32 input sender = .error .headOfEmptyBuffer ↔
      sender.TestsEmptyBuffer crc32 input := by
  have consistent := (sound_afterRead sound input).consistent
  rw [readAck]
  simp only
  cases decodes : pktDecode crc32 true (sender.bufAck.readInto input.ackRead).val pktNew with
  | error code =>
      refine iff_of_false (by simp) ?_
      rintro ⟨_, _, pktAck, decoded, _⟩
      rw [decodes] at decoded
      cases decoded
  | ok pktAck =>
      have tests_iff : sender.TestsEmptyBuffer crc32 input ↔
          sender.bufStructure.nodes = [] ∧ sender.firstAck = false ∧
            pktAck.type = ptypeAck ∧ ¬sender.EndsTransfer pktAck := by
        constructor
        · rintro ⟨empty, seen, other, decoded, type, notLast⟩
          rw [decodes] at decoded
          cases decoded
          exact ⟨empty, seen, type, notLast⟩
        · rintro ⟨empty, seen, type, notLast⟩
          exact ⟨empty, seen, pktAck, decodes, type, notLast⟩
      have answering := handleAnswer_answering consistent input.rttTime pktAck
      rw [tests_iff]
      change (sender.afterRead input).handleAnswer input.rttTime pktAck = _ ↔ _
      generalize (sender.afterRead input).handleAnswer input.rttTime pktAck = result at answering ⊢
      cases answering with
      | fault notLast type seen empty => exact iff_of_true rfl ⟨empty, seen, type, notLast⟩
      | ends last => exact iff_of_false (by simp) fun tests => tests.2.2.2 last
      | acknowledges notLast type after acknowledging =>
          refine iff_of_false (by simp) ?_
          rintro ⟨empty, seen, _⟩
          cases acknowledging with
          | unknown first => simp [afterRead, seen] at first
          | outside timer head rest nodes => simp [afterRead, empty] at nodes
          | deletes timer head rest nodes => simp [afterRead, empty] at nodes
      | marks isNack =>
          refine iff_of_false (by simp) ?_
          rintro ⟨_, _, type, _⟩
          rw [isNack] at type
          cases type
      | ignores otherType => exact iff_of_false (by simp) fun tests => otherType tests.2.2.1

theorem resendAndReadAck_eq_error_iff {sender : Sender} (sound : sender.Sound)
    (input : SenderInput) (revents : Revents) :
    resendAndReadAck crc32 input revents sender = .error .headOfEmptyBuffer ↔
      revents.pollin = true ∧ sender.TestsEmptyBuffer crc32 input := by
  by_cases empty : sender.bufStructure.nodes = []
  · have resends : resend crc32 input.scan revents sender = .ok (.running (revents, sender)) := by
      rw [resend, empty]
    simp only [resendAndReadAck, resends, bind, Except.bind]
    by_cases pollin : revents.pollin = true
    · rw [if_pos pollin, readAck_eq_error_iff crc32 sound]
      simp [pollin]
    · rw [if_neg pollin]
      exact iff_of_false (by simp [pure, Except.pure]) (fun reads => pollin reads.1)
  · refine iff_of_false ?_ (fun reads => empty reads.2.empty)
    rcases resend_spec crc32 sound input.scan revents with
      ⟨flow, resends, ⟨revents, rfl⟩ | ⟨revents, last, rfl, resending, _⟩⟩
    · simp [resendAndReadAck, resends, bind, Except.bind, pure, Except.pure]
    · simp only [resendAndReadAck, resends, bind, Except.bind]
      split
      · rw [readAck_eq_error_iff crc32 (resending.sound sound)]
        intro tests
        have sameNumbers := resending.numbers
        rw [numbers, tests.empty, numbers, List.map_nil, eq_comm, List.map_eq_nil_iff]
          at sameNumbers
        exact empty sameNumbers
      · simp [pure, Except.pure]

/-- An iteration fails exactly when it tests the first packet of an empty buffer. -/
theorem readWriteLoop_eq_error_iff {sender : Sender} (sound : sender.Sound)
    (input : SenderInput) :
    readWriteLoop crc32 input sender = .error .headOfEmptyBuffer ↔
      sender.ReadsEmptyHead crc32 input := by
  rw [readWriteLoop]
  by_cases late : timedOut input.tpNow sender.tpGlobal = true
  · rw [if_pos late]
    refine iff_of_false (by simp) ?_
    intro reads
    rw [reads.inTime] at late
    cases late
  have inTime : timedOut input.tpNow sender.tpGlobal = false := Bool.eq_false_of_not_eq_true late
  rw [if_neg late]
  cases polled : input.poll with
  | failed =>
      refine iff_of_false (by simp) ?_
      rintro ⟨_, ⟨revents, ready, _⟩, _⟩
      rw [polled] at ready
      cases ready
  | ready revents =>
      -- Nothing new is sent: the buffer is tested as it is.
      have asItIs (notSent : ¬(revents.pollout = true ∧
          sender.bufStructure.size < sender.sizeBuffer ∧ sender.isLastAckNum = false ∧
            input.newPayload ≠ .failed)) :
          revents.pollin = true ∧ sender.TestsEmptyBuffer crc32 input ↔
            sender.ReadsEmptyHead crc32 input := by
        constructor
        · rintro ⟨pollin, tests⟩
          exact ⟨inTime, ⟨revents, polled, pollin, notSent⟩, tests⟩
        · rintro ⟨_, ⟨others, ready, pollin, _⟩, tests⟩
          rw [polled] at ready
          cases ready
          exact ⟨pollin, tests⟩
      -- A new packet has been sent: the buffer is not empty.
      have sent (pollout : revents.pollout = true)
          (room : sender.bufStructure.size < sender.sizeBuffer ∧ sender.isLastAckNum = false)
          (read : input.newPayload ≠ .failed) : ¬sender.ReadsEmptyHead crc32 input := by
        rintro ⟨_, ⟨others, ready, _, notSent⟩, _⟩
        rw [polled] at ready
        cases ready
        exact notSent ⟨pollout, room.1, room.2, read⟩
      by_cases pollout : revents.pollout = true
      · simp only [pollout, if_true]
        by_cases room : sender.bufStructure.size < sender.sizeBuffer ∧
            sender.isLastAckNum = false
        · rw [if_pos room]
          cases read : input.newPayload with
          | failed =>
              have notEmpty : ¬(ReadResult.failed : ReadResult maxPayloadSize).count = 0 := by
                decide
              have notEnd : ¬sender.isLastAckNum = true := by simp [room.2]
              have sound : (sender.afterFailedRead input.buf input.sendTime).Sound :=
                ⟨sound.consistent, sound.sendable⟩
              rw [if_neg notEmpty, sendData_failed crc32 read]
              simp only [bind, Except.bind]
              rw [resendAndReadAck_eq_error_iff crc32 sound,
                ← asItIs (fun sends => sends.2.2.2 read)]
              refine and_congr_right fun _ => ?_
              constructor
              · rintro ⟨empty, seen, pktAck, decodes, type, notLast⟩
                exact ⟨empty, seen, pktAck, decodes, type, fun last => notEnd last.1⟩
              · rintro ⟨empty, seen, pktAck, decodes, type, notLast⟩
                exact ⟨empty, seen, pktAck, decodes, type, fun last => notEnd last.1⟩
          | bytes data fits =>
              have reads : input.newPayload ≠ .failed := by simp [read]
              refine iff_of_false ?_ (sent pollout room reads)
              split
              · rw [sendEnd_eq crc32 sound.consistent]
                simp [bind, Except.bind, pure, Except.pure]
              · rw [sendData_eq crc32 sound.consistent read room.2]
                simp only [bind, Except.bind]
                rw [resendAndReadAck_eq_error_iff crc32
                  (sound_afterSend crc32 sound (sendable_dataPkt fits _ _) _ _)]
                rintro ⟨_, empty, _⟩
                simp [afterSend] at empty
        · rw [if_neg room, resendAndReadAck_eq_error_iff crc32 sound]
          exact asItIs fun sends => room ⟨sends.2.1, sends.2.2.1⟩
      · have notSent := asItIs fun sends => pollout sends.1
        rw [← notSent]
        simp only [pollout, Bool.false_eq_true, if_false]
        by_cases pollin : revents.pollin = true
        · rw [if_pos pollin, readAck_eq_error_iff crc32 sound]
          simp [pollin]
        · rw [if_neg pollin]
          exact iff_of_false (by simp) (fun reads => pollin reads.1)

/--
A run never tests the first packet of an empty buffer exactly when no iteration
reads, with an empty buffer, an `ACK` which does not end the transfer, without
having sent a new packet before.
-/
theorem run_ne_headOfEmptyBuffer_iff (tpGlobal : Time) (bufAck : Buffer ackSize)
    (inputs : List SenderInput) :
    Loop.run (readWriteLoop crc32) inputs (start tpGlobal bufAck) ≠ .error .headOfEmptyBuffer ↔
      ∀ before input after sender, inputs = before ++ input :: after →
        Loop.run (readWriteLoop crc32) before (start tpGlobal bufAck) = .ok (.running sender) →
          ¬sender.ReadsEmptyHead crc32 input := by
  rw [ne_eq, Loop.run_eq_error_iff]
  constructor
  · intro never before input after sender split runs reads
    have sound := (settled_of_reachable crc32 ⟨before, runs⟩).sound
    exact never ⟨before, input, after, sender, split, runs,
      (readWriteLoop_eq_error_iff crc32 sound input).mpr reads⟩
  · rintro always ⟨before, input, after, sender, split, runs, fails⟩
    have sound := (settled_of_reachable crc32 ⟨before, runs⟩).sound
    exact always before input after sender split runs
      ((readWriteLoop_eq_error_iff crc32 sound input).mp fails)

/-- The encoded `ACK` with the number 1 and the window 31. -/
def ackOneExample : ReadResult ackSize :=
  .bytes [0x9f, 1, 0, 0, 0, 0, 0, 0, 0x35, 0xf5, 0x72, 0x80] (by decide)

/-- A packet is sent and acknowledged, and its acknowledgement arrives twice. -/
theorem run_headOfEmptyBuffer :
    ¬∀ inputs, Loop.run (readWriteLoop Crc.zlib) inputs (start 0 (.zeros ackSize)) ≠
      .error .headOfEmptyBuffer := by
  intro never
  apply never
    [sendExample (.bytes [7] (by decide)), ackExample ackOneExample, ackExample ackOneExample]
  decide +kernel

/--
The states in which a decoded packet is handled: an iteration has come to read an
acknowledgement, and may have sent a new packet and a buffered one before.
-/
def AtAnswer (origin sender : Sender) : Prop :=
  ∃ before input middle last, Loop.Reachable (readWriteLoop crc32) origin before ∧
    (middle = before ∨ before.isLastAckNum = false ∧
      before.bufStructure.size < before.sizeBuffer ∧ input.newPayload.count ≠ 0 ∧
        sendData crc32 input before = .ok middle) ∧
    (last = middle ∨ ∃ polled revents,
      resend crc32 input.scan polled middle = .ok (.running (revents, last))) ∧
    sender = last.afterRead input

theorem AtAnswer.settled {tpGlobal : Time} {bufAck : Buffer ackSize} {sender : Sender}
    (handled : AtAnswer crc32 (start tpGlobal bufAck) sender) : sender.Settled := by
  rcases handled with ⟨before, input, middle, last, reached, sends, resends, rfl⟩
  have settled := settled_of_reachable crc32 reached
  have settledMiddle : middle.Settled := by
    rcases sends with rfl | ⟨notEnd, room, moreInput, sends⟩
    · exact settled
    · rcases send_sending crc32 settled.sound ⟨room, notEnd⟩ input with ⟨other, same, sending⟩
      rw [send, if_neg moreInput, sends] at same
      cases same
      exact sending.settled settled
  have settledLast : last.Settled := by
    rcases resends with rfl | ⟨polled, revents, resends⟩
    · exact settledMiddle
    · rcases resend_spec crc32 settledMiddle.sound input.scan polled with
        ⟨flow, same, ⟨_, rfl⟩ | ⟨_, after, rfl, resending, _⟩⟩
      · rw [same] at resends
        cases resends
      · rw [same] at resends
        cases resends
        exact resending.settled settledMiddle
  exact settled_afterRead settledLast input

/--
An `ACK` behind which no buffered packet stands leaves the buffer alone exactly when
it is not yet recognized, or lies outside of the window which it advertises.
-/
theorem handleAnswer_keepsBuffer_iff {tpGlobal : Time} {bufAck : Buffer ackSize}
    {sender : Sender} (handled : AtAnswer crc32 (start tpGlobal bufAck) sender) {head : Pkt}
    {rest : List Pkt} (nodes : sender.bufStructure.nodes = head :: rest) {pktAck : Pkt}
    (type : pktAck.type = ptypeAck)
    (absent : ∀ pkt ∈ sender.bufStructure.nodes, pkt.seqNum ≠ pktAck.seqNum - 1)
    (rttTime : Time) :
    ∃ flow, sender.handleAnswer rttTime pktAck = .ok flow ∧
      (flow.state.bufStructure = sender.bufStructure ↔
        sender.firstAck = true ∨
          pktAck.window.toNat ≤ Serial.dist head.seqNum (pktAck.seqNum - 1)) := by
  have settled := handled.settled
  have answering := handleAnswer_answering settled.sound.consistent rttTime pktAck
  generalize sender.handleAnswer rttTime pktAck = result at answering ⊢
  cases answering with
  | ends last =>
      -- The end packet is buffered, and has the number which is acknowledged.
      have nonempty : sender.numbers ≠ [] := by simp [numbers, nodes]
      have isLast := List.getLast?_eq_some_getLast nonempty
      have number := settled.lastNumber last.1 _ isLast
      rcases List.mem_map.mp (List.getLast_mem nonempty) with ⟨pkt, present, same⟩
      refine absurd ?_ (absent pkt present)
      rw [same, last.2, ← number]
      grind
  | fault _ _ _ empty =>
      rw [nodes] at empty
      cases empty
  | acknowledges _ _ after acknowledging =>
      refine ⟨_, rfl, ?_⟩
      cases acknowledging with
      | unknown first => exact iff_of_true rfl (.inl first)
      | outside timer other others otherNodes far =>
          rw [nodes] at otherNodes
          cases otherNodes
          exact iff_of_true rfl (.inr far)
      | deletes timer other others otherNodes near known =>
          rw [nodes] at otherNodes
          cases otherNodes
          have emptied := remaining_of_not_mem absent
          refine iff_of_false ?_ ?_
          · intro same
            have sameNodes := congrArg Queue.nodes same
            simp only [LoopFlow.state_running, withRemaining, Queue.nodes_ofNodes] at sameNodes
            have none : remaining (pktAck.seqNum - 1) sender.bufStructure.nodes = head :: rest :=
              sameNodes.trans nodes
            rw [emptied] at none
            cases none
          · rintro (first | far)
            · rcases known first with ⟨pkt, present, same⟩
              exact absent pkt present same
            · omega
  | marks other =>
      rw [type] at other
      cases other
  | ignores other => exact absurd type other

def bufferedExample : Sender :=
  match Loop.run (readWriteLoop Crc.zlib)
    [sendExample (.bytes [7] (by decide)), ackExample ackOneExample,
      sendExample (.bytes [8] (by decide))] (start 0 (.zeros ackSize)) with
  | .ok flow => flow.state
  | .error _ => start 0 (.zeros ackSize)

theorem atAnswer_bufferedExample :
    AtAnswer Crc.zlib (start 0 (.zeros ackSize)) (bufferedExample.afterRead (ackExample .failed)) :=
  ⟨bufferedExample, ackExample .failed, _, _, ⟨[sendExample (.bytes [7] (by decide)),
    ackExample ackOneExample, sendExample (.bytes [8] (by decide))], by decide +kernel⟩, .inl rfl,
    .inl rfl, rfl⟩

def answerExample (seqNum : BitVec 8) (crc1 : BitVec 32) : Pkt :=
  { pktNew with type := ptypeAck, window := 31, seqNum := seqNum, crc1 := crc1 }

/-- The number 40 is outside of the window from 1 on: the buffer is kept. -/
theorem handleAnswer_keepsBuffer_example :
    ∃ sender flow, AtAnswer Crc.zlib (start 0 (.zeros ackSize)) sender ∧
      sender.handleAnswer 0 (answerExample 40 0) = .ok flow ∧
      (flow.state.bufStructure = sender.bufStructure ↔ sender.firstAck = true ∨
        (answerExample 40 0).window.toNat ≤ Serial.dist 1 ((answerExample 40 0).seqNum - 1)) := by
  have nodes : (bufferedExample.afterRead (ackExample .failed)).bufStructure.nodes =
      [(dataPkt [8] 1 0).withCrcs Crc.zlib] := by
    decide +kernel
  have type : (answerExample 40 0).type = ptypeAck := rfl
  rcases handleAnswer_keepsBuffer_iff Crc.zlib atAnswer_bufferedExample nodes type
    (by decide +kernel) 0 with ⟨flow, handles, keeps⟩
  exact ⟨_, flow, atAnswer_bufferedExample, handles, keeps⟩

/-- The number 5 has not been sent, but is inside the window: the buffer is emptied. -/
theorem handleAnswer_emptiesBuffer :
    ¬∀ sender, AtAnswer Crc.zlib (start 0 (.zeros ackSize)) sender →
      sender.bufStructure.nodes ≠ [] → ∀ data pktAck,
        pktDecode Crc.zlib true data pktNew = .ok pktAck → pktAck.type = ptypeAck →
          (∀ pkt ∈ sender.bufStructure.nodes, pkt.seqNum ≠ pktAck.seqNum - 1) →
            ∀ flow, sender.handleAnswer 0 pktAck = .ok flow →
              flow.state.bufStructure = sender.bufStructure := by
  intro keeps
  have emptied : (bufferedExample.afterRead (ackExample .failed)).handleAnswer 0
      (answerExample 5 0xc1ba5693) = .ok (.running
        { bufferedExample with sizeBuffer := 31, bufStructure := queueInit }) := by
    decide +kernel
  have kept := keeps _ atAnswer_bufferedExample (by decide +kernel)
    [0x9f, 5, 0, 0, 0, 0, 0, 0, 0xc1, 0xba, 0x56, 0x93] (answerExample 5 0xc1ba5693)
    (by decide +kernel) rfl (by decide +kernel) _ emptied
  exact absurd kept (by decide +kernel)

end ReliableTransfer.Sender
