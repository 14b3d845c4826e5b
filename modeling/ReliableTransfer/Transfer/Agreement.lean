import ReliableTransfer.Transfer.Safety
import ReliableTransfer.Receiver.Closing

/-!
# Agreement on the end

An acknowledgement for the position behind the end packet is marked, or queued behind the
marked one and then lost. So none reaches the sender as long as the receiver is in its
loop: what the sender may learn of the receiver is bounded by `announced`, and the
sender does not return because of an `ACK` before the receiver has closed.
-/

namespace ReliableTransfer

/--
Acknowledgements with their positions. Those before the first one with the mark are for
positions of the input, and that one is for the position behind the end packet.
-/
inductive Announces (last : ℕ) : List Pkt → List ℕ → Prop where
  | stillOpen (queued : List Pkt) (acks : List ℕ) (unmarked : ∀ ack ∈ queued, ack.trFlag ≠ 1)
      (inside : ∀ position ∈ acks, position ≤ last) : Announces last queued acks
  | closing (front : List Pkt) (ack : Pkt) (lost : List Pkt) (acks more : List ℕ)
      (unmarked : ∀ ack ∈ front, ack.trFlag ≠ 1) (marked : ack.trFlag = 1)
      (inside : ∀ position ∈ acks, position ≤ last) (same : front.length = acks.length) :
      Announces last (front ++ ack :: lost) (acks ++ (last + 1) :: more)

namespace Announces

variable {last : ℕ} {queued : List Pkt} {acks : List ℕ} {ack : Pkt} {index position : ℕ}

/-- Behind the mark, anything may be queued. -/
theorem append_of_marked (announces : Announces last queued acks)
    (closing : ∃ ack ∈ queued, ack.trFlag = 1) (new : List Pkt) (positions : List ℕ) :
    Announces last (queued ++ new) (acks ++ positions) := by
  cases announces with
  | stillOpen _ _ unmarked =>
      rcases closing with ⟨ack, present, marked⟩
      exact absurd marked (unmarked ack present)
  | closing front ack lost acks more unmarked marked inside same =>
      rw [List.append_assoc, List.append_assoc, List.cons_append, List.cons_append]
      exact .closing front ack (lost ++ new) acks (more ++ positions) unmarked marked inside same

theorem append_unmarked (announces : Announces last queued acks)
    (notClosing : ¬∃ ack ∈ queued, ack.trFlag = 1) (unmarked : ack.trFlag ≠ 1)
    (inside : position ≤ last) : Announces last (queued ++ [ack]) (acks ++ [position]) := by
  cases announces with
  | stillOpen _ _ earlier below =>
      refine .stillOpen _ _ ?_ ?_
      · intro other present
        rcases List.mem_append.mp present with before | new
        · exact earlier other before
        · rw [List.mem_singleton.mp new]
          exact unmarked
      · intro other present
        rcases List.mem_append.mp present with before | new
        · exact below other before
        · rw [List.mem_singleton.mp new]
          exact inside
  | closing front ack lost _ _ _ marked =>
      exact absurd ⟨ack, by simp, marked⟩ notClosing

theorem append_marked (announces : Announces last queued acks)
    (notClosing : ¬∃ ack ∈ queued, ack.trFlag = 1) (same : queued.length = acks.length)
    (marked : ack.trFlag = 1) : Announces last (queued ++ [ack]) (acks ++ [last + 1]) := by
  cases announces with
  | stillOpen _ _ unmarked inside =>
      exact .closing queued ack [] acks [] unmarked marked inside same
  | closing front ack lost _ _ _ marked =>
      exact absurd ⟨ack, by simp, marked⟩ notClosing

/-- What is queued before the mark is for a position of the input. -/
theorem le_of_unmarked (announces : Announces last queued acks)
    (found : acks[index]? = some position)
    (unmarked : ∀ ack ∈ queued.take (index + 1), ack.trFlag ≠ 1) : position ≤ last := by
  cases announces with
  | stillOpen _ _ _ inside => exact inside position (List.mem_of_getElem? found)
  | closing front ack lost acks more _ marked inside same =>
      rcases Nat.lt_or_ge index acks.length with early | late
      · rw [List.getElem?_append_left early] at found
        exact inside position (List.mem_of_getElem? found)
      · refine absurd marked (unmarked ack ?_)
        rw [List.take_append, List.mem_append]
        right
        rw [show index + 1 - front.length = index - front.length + 1 by omega,
          List.take_succ_cons]
        exact List.mem_cons_self

/-- The first mark is for the position behind the end packet. -/
theorem position_of_marked (announces : Announces last queued acks)
    (found : queued[index]? = some ack) (marked : ack.trFlag = 1)
    (unmarked : ∀ ack ∈ queued.take index, ack.trFlag ≠ 1) :
    acks[index]? = some (last + 1) := by
  cases announces with
  | stillOpen _ _ none => exact absurd marked (none ack (List.mem_of_getElem? found))
  | closing front first lost acks more earlier markedFirst _ same =>
      rcases Nat.lt_trichotomy index front.length with before | rfl | behind
      · rw [List.getElem?_append_left before] at found
        exact absurd marked (earlier ack (List.mem_of_getElem? found))
      · rw [same, List.getElem?_append_right le_rfl, Nat.sub_self]
        rfl
      · refine absurd markedFirst (unmarked first ?_)
        rw [List.take_append, List.mem_append]
        right
        rw [show index - front.length = index - front.length - 1 + 1 by omega,
          List.take_succ_cons]
        exact List.mem_cons_self

end Announces

namespace AckFor

variable {waited next position : ℕ} {ack : Pkt}

theorem type_of_marked (isAck : AckFor waited next position ack) (marked : ack.trFlag = 1) :
    ack.type = ptypeAck := by
  cases isAck with
  | ack => rfl
  | nack => cases marked

theorem lt_of_nack (isAck : AckFor waited next position ack) (isNack : ack.type = ptypeNack) :
    position < next := by
  cases isAck with
  | ack => cases isNack
  | nack _ sent => exact sent

theorem position_le (isAck : AckFor waited next position ack) :
    position ≤ waited ∨ position < next := by
  cases isAck with
  | ack _ _ delivered => exact .inl delivered
  | nack _ sent => exact .inr sent

/-- The bound on the positions which may have been delivered is replaced by another one. -/
theorem learned {other : ℕ} (isAck : AckFor waited next position ack)
    (known : position ≤ waited → position ≤ other) : AckFor other next position ack := by
  cases isAck with
  | ack trFlag timestamp delivered => exact .ack trFlag timestamp (known delivered)
  | nack timestamp sent => exact .nack timestamp sent

end AckFor

namespace Receiver

open QueueReceiver

variable {crc32 : List Byte → BitVec 32} {file : InputFile} {next waited position : ℕ}
  {before after : Receiver}

/--
What an iteration has queued before the end is announced: nothing, the mark, or an
acknowledgement without it, after which the receiver still waits for a position of the input.
-/
inductive Queues (file : InputFile) (next waited : ℕ) (before after : Receiver) : Prop where
  | nothing (queued : after.queued = before.queued)
      (waitedSeqNum : after.waitedSeqNum = before.waitedSeqNum)
  | marked (ack : Pkt) (queued : after.queued = before.queued ++ [ack]) (marked : ack.trFlag = 1)
  | unmarked (ack : Pkt) (later : ℕ) (queued : after.queued = before.queued ++ [ack])
      (unmarked : ack.trFlag ≠ 1) (waitedSeqNum : after.waitedSeqNum = Serial.wire 8 later)
      (ahead : waited ≤ later) (sent : later ≤ next) (inside : later ≤ file.last)

theorem handleDecoded_queues (waits : Waits crc32 file next waited before)
    (stillOpen : waited ≠ file.last + 1) (bounded : next ≤ file.last + 1)
    (near : next ≤ waited + 31) {wr : ℕ → WriteOutcome} {decoded : Except PktStatusCode Pkt}
    (arrived : Arrived file next waited position decoded)
    (handled : before.handleDecoded wr decoded = .ok after) :
    Queues file next waited before after := by
  have unmarked : (0 : BitVec 1) ≠ 1 := by decide
  rcases waits.progress with ⟨reference, holds, assembles, notClosed, here⟩ | ⟨atEnd, _⟩
  · subst here
    rcases handleDecoded_lockstep waits.sound.ackQueue holds notClosed wr decoded with
      ⟨_, handles, lockstep⟩
    rw [handled] at handles
    cases handles
    rcases assembles_receive assembles notClosed bounded near arrived with ⟨received, ahead⟩
    cases lockstep with
    | truncated pkt =>
        exact .unmarked _ _ (queued_afterAck before _) unmarked waits.waitedSeqNum le_rfl
          waits.sent assembles.bounded
    | acknowledged middle timestamp _ _ matched ackQueue sent =>
        have queued := queued_afterAck middle (newAck ptypeAck 0 middle.waitedSeqNum timestamp)
        rw [queued_congr ackQueue sent] at queued
        exact .unmarked _ _ queued unmarked matched.waitedSeqNum ahead received.sent
          received.bounded
    | closes middle timestamp _ _ _ ackQueue sent =>
        have queued := queued_afterAck { middle with waitedSeqNum := middle.waitedSeqNum + 1 }
          (newAck ptypeAck 1 (middle.waitedSeqNum + 1) timestamp)
        have sameQueued : { middle with waitedSeqNum := middle.waitedSeqNum + 1 }.queued =
            before.queued := queued_congr ackQueue sent
        rw [sameQueued] at queued
        exact .marked _ queued rfl
  · exact absurd atEnd stillOpen

theorem Iteration.queues {input : ReceiverInput} {flow : LoopFlow Receiver ReceiverExit}
    (iteration : Iteration crc32 input before flow)
    (waits : Waits crc32 file next waited before) (stillOpen : waited ≠ file.last + 1)
    (bounded : next ≤ file.last + 1) (near : next ≤ waited + 31)
    (arrived : ∀ data fits, input.data = .bytes data fits → data ≠ [] →
      Arrived file next waited position (pktDecode crc32 true data pktNew)) :
    Queues file next waited before flow.state := by
  cases iteration with
  | idle _ _ same => exact .nothing same.queued same.waitedSeqNum
  | read data fits middle after inputData nonempty sound same received handled =>
      have queues := handleDecoded_queues (waits.of_same sound same) stillOpen bounded near
        (arrived data fits inputData nonempty) handled
      cases queues with
      | nothing queued waitedSeqNum =>
          exact .nothing (queued.trans same.queued) (waitedSeqNum.trans same.waitedSeqNum)
      | marked ack queued marked =>
          rw [same.queued] at queued
          exact .marked ack queued marked
      | unmarked ack later queued unmarked waitedSeqNum ahead sent inside =>
          rw [same.queued] at queued
          exact .unmarked ack later queued unmarked waitedSeqNum ahead sent inside

end Receiver

namespace Transfer

variable {crc32 : List Byte → BitVec 32} {file : InputFile} {transfer : Transfer}

/--
The last position for which the receiver may have sent an acknowledgement: that behind the end
packet only if it has closed.
-/
def announced (file : InputFile) (transfer : Transfer) : ℕ :=
  match transfer.receiver with
  | .returned .closed _ => transfer.waited
  | _ => min transfer.waited file.last

theorem announced_le_waited (file : InputFile) (transfer : Transfer) :
    transfer.announced file ≤ transfer.waited := by
  rw [announced]
  split
  · exact le_rfl
  · exact min_le_left _ _

theorem closed_of_announced (beyond : file.last < transfer.announced file) :
    ∃ receiver, transfer.receiver = .returned .closed receiver := by
  rw [announced] at beyond
  split at beyond
  · rename_i receiver closed
    exact ⟨receiver, closed⟩
  · exact absurd (min_le_right _ _) (Nat.not_le.mpr beyond)

/-- What the parties know of each other's end in every reachable state. -/
structure Agreed (crc32 : List Byte → BitVec 32) (file : InputFile) (transfer : Transfer) :
    Prop where
  closing : Receiver.Closing transfer.receiver
  announces : Announces file.last transfer.receiver.state.queued transfer.acks
  marked : transfer.waited = file.last + 1 → transfer.receiver.state.ClosingQueued
  behind : transfer.oldest ≤ transfer.announced file
  bufAck : Sender.Readable crc32 transfer.oldest (transfer.announced file) transfer.next
    transfer.sender.state.bufAck
  ended : ∀ sender, transfer.sender = .returned .lastAck sender →
    ∃ receiver, transfer.receiver = .returned .closed receiver

theorem agreed_start (file : InputFile) (tpSender tpReceiver : Time) {bufAck : Buffer ackSize}
    {code : PktStatusCode} (unread : pktDecode crc32 true bufAck.val pktNew = .error code) :
    (start tpSender tpReceiver bufAck).Agreed crc32 file where
  closing := .running _ fun sent none => by cases none
  announces := .stillOpen _ _ (fun ack none => by cases none) fun position none => by cases none
  marked := by
    rintro ⟨⟩
  behind := Nat.zero_le _
  bufAck := .inl ⟨code, unread⟩
  ended := by
    rintro sender ⟨⟩

/-- The counters follow the sequence number and the queue of the sender. -/
theorem counters_afterSender (invariant : transfer.Invariant crc32 file) {sender : Sender}
    (flow : LoopFlow Sender SenderExit) {later further : ℕ}
    (running : transfer.sender = .running sender)
    (holds : Sender.Holds file later further flow.state)
    (ahead : transfer.next ≤ further ∧ further ≤ transfer.next + 1) :
    (transfer.afterSender flow).next = further ∧ (transfer.afterSender flow).oldest = later := by
  have here : transfer.sender.state = sender := by rw [running, LoopFlow.state_running]
  have before := invariant.holds
  rw [here] at before
  have held := holds.held
  have next : (transfer.afterSender flow).next = further := by
    change Serial.lift transfer.next transfer.sender.state.seqNum flow.state.seqNum = further
    rw [here, before.seqNum, holds.seqNum, Serial.lift_wire ahead.1 (by omega)]
  refine ⟨next, ?_⟩
  change (transfer.afterSender flow).next - flow.state.bufStructure.nodes.length = later
  omega

theorem counters_afterReceiver (invariant : transfer.Invariant crc32 file) {receiver : Receiver}
    (flow : LoopFlow Receiver ReceiverExit) {position later : ℕ}
    (running : transfer.receiver = .running receiver)
    (moved : Receiver.Moved crc32 file transfer.next transfer.waited position receiver flow.state
      later) :
    (transfer.afterReceiver flow position).waited = later ∧
      ∀ new, flow.state.queued = receiver.queued ++ new →
        (transfer.afterReceiver flow position).acks =
          transfer.acks ++ new.map fun ack => if ack.type = ptypeNack then position else later := by
  have here : transfer.receiver.state = receiver := by rw [running, LoopFlow.state_running]
  have waits := invariant.waits
  rw [here] at waits
  have sent := moved.waits.sent
  have behind := invariant.behind
  have few := invariant.holds.few
  have waited : (transfer.afterReceiver flow position).waited = later := by
    change Serial.lift transfer.waited transfer.receiver.state.waitedSeqNum
      flow.state.waitedSeqNum = later
    rw [here, waits.waitedSeqNum, moved.waits.waitedSeqNum, Serial.lift_wire moved.ahead (by omega)]
  refine ⟨waited, ?_⟩
  intro new queued
  have fresh : flow.state.queued.drop transfer.receiver.state.queued.length = new := by
    rw [here, queued, List.drop_left]
  rw [← waited, ← fresh]
  rfl

theorem Invariant.ackFor (invariant : transfer.Invariant crc32 file) {index position : ℕ}
    {ack : SentAck} (sent : transfer.receiver.state.sent[index]? = some ack)
    (numbered : transfer.acks[index]? = some position) :
    AckFor transfer.waited transfer.next position ack.ack := by
  have queued : transfer.receiver.state.queued[index]? = some ack.ack := by
    rcases List.getElem?_eq_some_iff.mp sent with ⟨inside, _⟩
    rw [Receiver.queued, List.getElem?_append_left (by simpa using inside), List.getElem?_map, sent]
    rfl
  rcases List.getElem?_eq_some_iff.mp queued with ⟨inQueued, queuedAt⟩
  rcases List.getElem?_eq_some_iff.mp numbered with ⟨inAcks, numberedAt⟩
  have pair := (List.forall₂_iff_get.mp invariant.acks).2 index inQueued inAcks
  rw [List.get_eq_getElem, List.get_eq_getElem, queuedAt, numberedAt] at pair
  exact pair

/-- A copy which has been read is for a position which the sender may have learned of by now. -/
theorem Invariant.readable_copy (invariant : transfer.Invariant crc32 file)
    {index position learned : ℕ} {ack : SentAck} (fits : ack.bytes.length ≤ ackSize)
    (sent : transfer.receiver.state.sent[index]? = some ack)
    (numbered : transfer.acks[index]? = some position) (fresh : transfer.oldest ≤ position + 224)
    (known : position ≤ transfer.waited → position ≤ learned) :
    Sender.Readable crc32 transfer.oldest learned transfer.next
      (transfer.sender.state.bufAck.readInto (.bytes ack.bytes fits)) := by
  have isAck := invariant.ackFor sent numbered
  have bytes := invariant.waits.sound.encoded ack (List.mem_of_getElem? sent)
  have length : ack.bytes.length = ackSize := by
    rw [bytes]
    exact isAck.length_ackBytes crc32
  refine .inr ⟨position, ack.ack, isAck.learned known, fresh,
    (Buffer.val_readInto_of_length_eq length).trans bytes⟩

/-- The acknowledgements which have been sent are the first ones of those queued. -/
theorem take_queued {receiver : Receiver} {index : ℕ} (inside : index ≤ receiver.sent.length) :
    receiver.queued.take index = (receiver.sent.take index).map SentAck.ack := by
  rw [Receiver.queued, List.take_append_of_le_length (by rwa [List.length_map]), List.map_take]

namespace Agreed

/-- No acknowledgement which the sender may read is beyond what the receiver has announced. -/
theorem position_le (agreed : transfer.Agreed crc32 file) {index position : ℕ} {ack : SentAck}
    (sent : transfer.receiver.state.sent[index]? = some ack)
    (numbered : transfer.acks[index]? = some position) (delivered : position ≤ transfer.waited) :
    position ≤ transfer.announced file := by
  rcases List.getElem?_eq_some_iff.mp sent with ⟨inside, _⟩
  have below (unmarked : ∀ sent ∈ transfer.receiver.state.sent, sent.ack.trFlag ≠ 1) :
      position ≤ file.last := by
    apply agreed.announces.le_of_unmarked numbered
    rw [take_queued inside]
    intro other present
    rcases List.mem_map.mp present with ⟨earlier, within, rfl⟩
    exact unmarked earlier (List.mem_of_mem_take within)
  have closing := agreed.closing
  rw [announced]
  cases receiver : transfer.receiver with
  | running state =>
      rw [receiver] at closing below
      cases closing with
      | running _ unmarked => exact le_min delivered (below unmarked)
  | returned reason state =>
      rw [receiver] at closing below
      cases closing with
      | timeout _ unmarked => exact le_min delivered (below unmarked)
      | closed => exact delivered

theorem readable (agreed : transfer.Agreed crc32 file) (invariant : transfer.Invariant crc32 file)
    {ackRead : ReadResult ackSize} (arrival : transfer.AckArrival crc32 ackRead) :
    Sender.Readable crc32 transfer.oldest (transfer.announced file) transfer.next
      (transfer.sender.state.bufAck.readInto ackRead) := by
  cases arrival with
  | nothing _ nothing =>
      rw [Buffer.readInto_of_count_le nothing]
      exact agreed.bufAck
  | corrupted _ code rejected => exact .inl ⟨code, rejected⟩
  | copy index ack position fits sent numbered fresh =>
      exact invariant.readable_copy fits sent numbered fresh
        (agreed.position_le sent numbered)

theorem afterSender (agreed : transfer.Agreed crc32 file)
    (invariant : transfer.Invariant crc32 file) {sender : Sender} {input : SenderInput}
    {flow : LoopFlow Sender SenderExit} (running : transfer.sender = .running sender)
    (reads : input.newPayload = file.read transfer.next)
    (arrival : transfer.AckArrival crc32 input.ackRead)
    (moves : sender.readWriteLoop crc32 input = .ok flow) :
    (transfer.afterSender flow).Agreed crc32 file := by
  have here : transfer.sender.state = sender := by rw [running, LoopFlow.state_running]
  have holds := invariant.holds
  have readable := agreed.readable invariant arrival
  have stale := agreed.bufAck
  have sent := (announced_le_waited file transfer).trans invariant.waits.sent
  rw [here] at holds readable stale
  have iteration := Sender.readWriteLoop_iteration crc32 holds.sound input
  rw [moves] at iteration
  -- What the sender may learn is what has been announced, not what has been delivered.
  rcases iteration.moved holds agreed.behind sent reads stale readable with
    ⟨later, further, moved⟩
  rcases counters_afterSender invariant flow running moved.holds moved.ahead with ⟨next, oldest⟩
  constructor
  · exact agreed.closing
  · exact agreed.announces
  · exact agreed.marked
  · rw [oldest]
    exact moved.acknowledged
  · rw [oldest, next]
    exact moved.bufAck
  · intro final ended
    apply @closed_of_announced file transfer
    rw [moved.ended final ended]
    exact Nat.lt_succ_self _

/-- What an iteration queues, with the positions which it is recorded with. -/
theorem announces_afterReceiver (agreed : transfer.Agreed crc32 file)
    (invariant : transfer.Invariant crc32 file) {receiver : Receiver} {input : ReceiverInput}
    {flow : LoopFlow Receiver ReceiverExit} {position later : ℕ}
    (running : transfer.receiver = .running receiver)
    (arrival : transfer.DataArrival crc32 input.data position)
    (iteration : Receiver.Iteration crc32 input receiver flow)
    (moved : Receiver.Moved crc32 file transfer.next transfer.waited position receiver flow.state
      later) :
    Announces file.last flow.state.queued (transfer.afterReceiver flow position).acks ∧
      (later = file.last + 1 → flow.state.ClosingQueued) := by
  have here : transfer.receiver.state = receiver := by rw [running, LoopFlow.state_running]
  have waits := invariant.waits
  have announces := agreed.announces
  have marked := agreed.marked
  have lengths := invariant.acks.length_eq
  rw [here] at waits announces marked lengths
  have behind := invariant.behind
  have few := invariant.holds.few
  have bounded := invariant.holds.bounded
  have ahead := moved.ahead
  have sent := moved.waits.sent
  rcases moved.acks with ⟨new, queued, isAcks⟩
  have acks := (counters_afterReceiver invariant flow running moved).2 new queued
  rw [acks, queued]
  by_cases atEnd : transfer.waited = file.last + 1
  · have closing := marked atEnd
    refine ⟨announces.append_of_marked closing _ _, fun _ => ?_⟩
    rcases closing with ⟨ack, present, mark⟩
    refine ⟨ack, ?_, mark⟩
    rw [queued]
    exact List.mem_append_left _ present
  · have notClosing : ¬∃ ack ∈ receiver.queued, ack.trFlag = 1 := mt waits.closing atEnd
    cases iteration.queues waits atEnd bounded (by omega)
        (fun data fits reads nonempty => invariant.arrived arrival reads nonempty) with
    | nothing same waitedSeqNum =>
        rw [queued] at same
        have none : new = [] := List.append_right_eq_self.mp same
        rw [none, List.map_nil, List.append_nil, List.append_nil]
        refine ⟨announces, ?_⟩
        intro reached
        rw [waits.waitedSeqNum, moved.waits.waitedSeqNum,
          Serial.wire_inj (by omega) (by omega)] at waitedSeqNum
        omega
    | marked ack same mark =>
        have closing : flow.state.ClosingQueued := ⟨ack, by simp [same], mark⟩
        have reached := moved.waits.closing closing
        rw [queued, List.append_cancel_left_eq] at same
        subst same
        have isAck := isAcks ack (List.mem_singleton_self ack)
        have notNack : ack.type ≠ ptypeNack := by
          rw [isAck.type_of_marked mark]
          decide
        refine ⟨?_, fun _ => closing⟩
        rw [List.map_singleton, if_neg notNack, reached]
        exact announces.append_marked notClosing lengths mark
    | unmarked ack reached same unmarked waitedSeqNum low high inside =>
        rw [moved.waits.waitedSeqNum, Serial.wire_inj (by omega) (by omega)] at waitedSeqNum
        subst waitedSeqNum
        rw [queued, List.append_cancel_left_eq] at same
        subst same
        have isAck := isAcks ack (List.mem_singleton_self ack)
        rw [List.map_singleton]
        refine ⟨announces.append_unmarked notClosing unmarked ?_, by omega⟩
        split at isAck
        · rename_i isNack
          rw [if_pos isNack]
          have below := isAck.lt_of_nack isNack
          omega
        · rename_i notNack
          rw [if_neg notNack]
          exact inside

theorem afterReceiver (agreed : transfer.Agreed crc32 file)
    (invariant : transfer.Invariant crc32 file) {receiver : Receiver} {input : ReceiverInput}
    {position : ℕ} {flow : LoopFlow Receiver ReceiverExit}
    (running : transfer.receiver = .running receiver)
    (arrival : transfer.DataArrival crc32 input.data position)
    (moves : receiver.readWriteLoop crc32 input = .ok flow) :
    (transfer.afterReceiver flow position).Agreed crc32 file := by
  have here : transfer.receiver.state = receiver := by rw [running, LoopFlow.state_running]
  have waits := invariant.waits
  rw [here] at waits
  have behind := invariant.behind
  have few := invariant.holds.few
  have closes : Receiver.ClosesSoundly crc32 (.running receiver) :=
    ⟨waits.sound, running ▸ agreed.closing⟩
  rcases Receiver.readWriteLoop_iteration waits.sound input with ⟨_, again, iteration⟩
  rw [moves] at again
  cases again
  rcases iteration.moved waits invariant.holds.bounded (by omega)
    (fun data fits reads nonempty => invariant.arrived arrival reads nonempty) with ⟨later, moved⟩
  have waited := (counters_afterReceiver invariant flow running moved).1
  rcases agreed.announces_afterReceiver invariant running arrival iteration moved with
    ⟨announces, marked⟩
  have ahead : transfer.announced file ≤ (transfer.afterReceiver flow position).announced file := by
    have before : transfer.announced file = min transfer.waited file.last := by
      rw [announced, running]
    have moved := moved.ahead
    rw [before, announced, waited]
    split
    · omega
    · omega
  constructor
  · exact (closes.step moves).1.closing
  · exact announces
  · rw [waited]
    exact marked
  · exact agreed.behind.trans ahead
  · exact agreed.bufAck.mono ahead le_rfl
  · intro sender ended
    rcases agreed.ended sender ended with ⟨_, closed⟩
    rw [running] at closed
    cases closed

end Agreed

theorem Step.agreed {after : Transfer} (step : Step crc32 file transfer after)
    (invariant : transfer.Invariant crc32 file) (agreed : transfer.Agreed crc32 file) :
    after.Agreed crc32 file := by
  cases step with
  | sender sender input flow running reads arrival moves =>
      exact agreed.afterSender invariant running reads arrival moves
  | receiver receiver input position flow running arrival moves =>
      exact agreed.afterReceiver invariant running arrival moves

theorem agreed_of_reachable (reachable : transfer.Reachable crc32 file) :
    transfer.Agreed crc32 file := by
  rcases reachable with ⟨tpSender, tpReceiver, bufAck, code, unread, run⟩
  induction run with
  | refl => exact agreed_start file tpSender tpReceiver unread
  | tail earlier step ih =>
      exact step.agreed
        (invariant_of_reachable ⟨tpSender, tpReceiver, bufAck, code, unread, earlier⟩) ih

/-- Until the receiver has closed, the sender has not learned that the end packet has arrived. -/
theorem Agreed.oldest_le (agreed : transfer.Agreed crc32 file)
    (notClosed : ∀ receiver, transfer.receiver ≠ .returned .closed receiver) :
    transfer.oldest ≤ file.last := by
  by_contra beyond
  rcases closed_of_announced ((Nat.lt_of_not_le beyond).trans_le agreed.behind) with
    ⟨receiver, closed⟩
  exact notClosed receiver closed

/-- The last acknowledgement which the receiver sends is for the position behind the end packet. -/
theorem Agreed.acks_of_closed (agreed : transfer.Agreed crc32 file) {receiver : Receiver}
    (closed : transfer.receiver = .returned .closed receiver) :
    ∃ earlier last, receiver.sent = earlier ++ [last] ∧ last.ack.trFlag = 1 ∧
      transfer.acks[earlier.length]? = some (file.last + 1) ∧
      ∀ position ∈ transfer.acks.take earlier.length, position ≤ file.last := by
  have closing := agreed.closing
  have announces := agreed.announces
  rw [closed] at closing announces
  cases closing with
  | closed _ earlier last sent unmarked marked =>
      have length : receiver.sent.length = earlier.length + 1 := by
        rw [sent, List.length_append, List.length_singleton]
      have unmarkedUntil {index : ℕ} (inside : index ≤ earlier.length) :
          ∀ ack ∈ receiver.queued.take index, ack.trFlag ≠ 1 := by
        rw [take_queued (by omega), sent, List.take_append_of_le_length inside]
        intro ack present
        rcases List.mem_map.mp present with ⟨other, within, rfl⟩
        exact unmarked other (List.mem_of_mem_take within)
      have queued : receiver.queued[earlier.length]? = some last.ack := by
        rw [Receiver.queued, sent]
        simp
      refine ⟨earlier, last, sent, marked,
        announces.position_of_marked queued marked (unmarkedUntil le_rfl), ?_⟩
      intro position present
      rcases List.mem_iff_getElem?.mp present with ⟨index, found⟩
      have inside : index < earlier.length := by
        rcases List.getElem?_eq_some_iff.mp found with ⟨within, _⟩
        rw [List.length_take] at within
        omega
      rw [List.getElem?_take_of_lt inside] at found
      exact announces.le_of_unmarked found (unmarkedUntil inside)

theorem Agreed.written_of_closed (agreed : transfer.Agreed crc32 file)
    (invariant : transfer.Invariant crc32 file) {receiver : Receiver}
    (closed : transfer.receiver = .returned .closed receiver) :
    receiver.written = file.chunks.flatten := by
  rcases agreed.acks_of_closed closed with ⟨earlier, last, sent, marked, _⟩
  have written := invariant.waits.written invariant.complete
  have closing := invariant.waits.closing
  rw [closed, LoopFlow.state_returned] at written closing
  have atEnd : transfer.waited = file.last + 1 := by
    apply closing
    refine ⟨last.ack, ?_, marked⟩
    simp [Receiver.queued, sent]
  have all : file.chunks.length ≤ transfer.waited := by
    rw [atEnd]
    exact Nat.le_succ _
  rw [written, List.take_of_length_le all]

/--
The sender never ends because of an acknowledgement before the receiver has closed: until then it
holds the end packet, if it has sent it. When the receiver has closed, the whole input
is written, and the last acknowledgement which it has sent is the only one which
announces this, for the position behind the end packet.
-/
theorem closed_before_lastAck (reachable : transfer.Reachable crc32 file) :
    (∀ sender, transfer.sender = .returned .lastAck sender →
        ∃ receiver, transfer.receiver = .returned .closed receiver) ∧
      ((∀ receiver, transfer.receiver ≠ .returned .closed receiver) →
        transfer.oldest ≤ file.last) ∧
      ∀ receiver, transfer.receiver = .returned .closed receiver →
        receiver.written = file.chunks.flatten ∧
          ∃ earlier last, receiver.sent = earlier ++ [last] ∧
            transfer.acks[earlier.length]? = some (file.last + 1) ∧
            ∀ position ∈ transfer.acks.take earlier.length, position ≤ file.last := by
  have agreed := agreed_of_reachable reachable
  refine ⟨agreed.ended, agreed.oldest_le, ?_⟩
  intro receiver closed
  rcases agreed.acks_of_closed closed with ⟨earlier, last, sent, _, acks⟩
  exact ⟨agreed.written_of_closed (invariant_of_reachable reachable) closed, earlier, last, sent,
    acks⟩

theorem closed_before_lastAck_example :
    (∃ receiver, endedExample.receiver = .returned .closed receiver) ∧
      ((∀ receiver, endedExample.receiver ≠ .returned .closed receiver) →
        endedExample.oldest ≤ fileExample.last) ∧
      ∀ receiver, endedExample.receiver = .returned .closed receiver →
        receiver.written = fileExample.chunks.flatten ∧
          ∃ earlier last, receiver.sent = earlier ++ [last] ∧
            endedExample.acks[earlier.length]? = some (fileExample.last + 1) ∧
            ∀ position ∈ endedExample.acks.take earlier.length, position ≤ fileExample.last := by
  have ended : endedExample.sender = .returned .lastAck endedExample.sender.state := by
    decide +kernel
  have closed := closed_before_lastAck reachable_endedExample
  exact ⟨closed.1 _ ended, closed.2⟩

end Transfer

end ReliableTransfer
