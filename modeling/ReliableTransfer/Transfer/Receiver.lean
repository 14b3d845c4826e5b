import ReliableTransfer.Transfer.Carried
import ReliableTransfer.Receiver.Refinement

/-!
# The receiver in a transfer

Before it closes, the receiver is the image of a reference machine, and the machine
has assembled a part of the input (`Reference.Assembles`). A copy which is not too
old lies in the window exactly when the machine has not passed its position, so the
number of a packet denotes the position which the packet carries. When the receiver
has closed, every position has been delivered, and no packet can be in its
window any more.
-/

namespace ReliableTransfer

open QueueReceiver

namespace Reference

variable {file : InputFile} {next : ℕ} {reference : Reference}

/-- The machine has assembled packets of the input, of which the positions below `next` are sent. -/
structure Assembles (file : InputFile) (next : ℕ) (reference : Reference) : Prop where
  waiting : ∀ position pkt, reference.assembly.slots.get position = some pkt →
    Carries file position pkt ∧ position < file.last ∧ position < next
  delivered : Carried file 0 reference.assembly.delivered
  count : reference.assembly.delivered.length = reference.assembly.next
  sent : reference.assembly.next ≤ next
  bounded : reference.assembly.next ≤ file.last
  endNum : ∀ seqNum, reference.endNum = some seqNum →
    seqNum = Serial.wire 8 file.last ∧ file.last < next
  closed : reference.closed = true → reference.assembly.next = file.last

theorem assembles_initial (file : InputFile) (next : ℕ) : Assembles file next initial where
  waiting := by
    rintro position pkt ⟨⟩
  delivered := trivial
  count := rfl
  sent := Nat.zero_le _
  bounded := Nat.zero_le _
  endNum := by
    rintro seqNum ⟨⟩
  closed := by
    rintro ⟨⟩

theorem Assembles.mono {further : ℕ} (assembles : Assembles file next reference)
    (nextLe : next ≤ further) : Assembles file further reference where
  waiting position pkt found :=
    have known := assembles.waiting position pkt found
    ⟨known.1, known.2.1, known.2.2.trans_le nextLe⟩
  delivered := assembles.delivered
  count := assembles.count
  sent := assembles.sent.trans nextLe
  bounded := assembles.bounded
  endNum seqNum found :=
    have known := assembles.endNum seqNum found
    ⟨known.1, known.2.trans_le nextLe⟩
  closed := assembles.closed

theorem Assembles.ack (assembles : Assembles file next reference) :
    Assembles file next reference.ack :=
  ⟨assembles.waiting, assembles.delivered, assembles.count, assembles.sent, assembles.bounded,
    assembles.endNum, assembles.closed⟩

theorem Assembles.close (assembles : Assembles file next reference)
    (atEnd : reference.assembly.next = file.last) : Assembles file next reference.close :=
  ⟨assembles.waiting, assembles.delivered, assembles.count, assembles.sent, assembles.bounded,
    assembles.endNum, fun _ => atEnd⟩

theorem Assembles.announce (assembles : Assembles file next reference) {seqNum : BitVec 8}
    (isLast : seqNum = Serial.wire 8 file.last) (sent : file.last < next) :
    Assembles file next { reference with endNum := some seqNum } where
  waiting := assembles.waiting
  delivered := assembles.delivered
  count := assembles.count
  sent := assembles.sent
  bounded := assembles.bounded
  endNum := by
    rintro other ⟨⟩
    exact ⟨isLast, sent⟩
  closed := assembles.closed

theorem Assembles.waiting_eq_nil (assembles : Assembles file next reference)
    (atEnd : reference.assembly.next = file.last) : reference.waiting = [] := by
  apply Slots.segment_eq_nil
  intro position above _
  cases found : reference.assembly.slots.get position with
  | none => rfl
  | some pkt =>
      have inside := (assembles.waiting position pkt found).2.1
      omega

/-- A packet is stored at the position which it carries, and a part of the input is delivered. -/
theorem Assembles.store (assembles : Assembles file next reference) {position : ℕ} {pkt : Pkt}
    (carries : Carries file position pkt) (data : position < file.last) (sent : position < next)
    (inside : reference.offset pkt ≤ 30)
    (here : reference.assembly.next + reference.offset pkt = position) :
    Assembles file next (reference.store pkt inside) := by
  have waiting : ∀ other held, (reference.slotsWith pkt).get other = some held →
      Carries file other held ∧ other < file.last ∧ other < next := by
    intro other held found
    rw [slotsWith, here] at found
    by_cases same : other = position
    · subst same
      cases earlier : reference.assembly.slots.get other with
      | none =>
          rw [Slots.get_store_self earlier] at found
          cases found
          exact ⟨carries, data, sent⟩
      | some kept =>
          rw [Slots.store_eq_self (by simp [earlier])] at found
          exact assembles.waiting other held found
    · rw [Slots.get_store_of_ne same] at found
      exact assembles.waiting other held found
  -- Whatever is delivered was taken, so the delivery stops at a position which is not.
  have taken : ∀ other, reference.assembly.next ≤ other →
      other < (reference.slotsWith pkt).firstFree reference.assembly.next →
        (reference.slotsWith pkt).get other ≠ none :=
    fun other above below => Slots.taken_of_lt_firstFree above below
  have stops (limit : ℕ) (reached : reference.assembly.next ≤ limit)
      (free : ∀ held, (reference.slotsWith pkt).get limit ≠ some held) :
      (reference.slotsWith pkt).firstFree reference.assembly.next ≤ limit := by
    by_contra beyond
    rcases Option.ne_none_iff_exists'.mp (taken limit reached (Nat.lt_of_not_le beyond)) with
      ⟨held, found⟩
    exact free held found
  have beforeEnd : (reference.slotsWith pkt).firstFree reference.assembly.next ≤ file.last :=
    stops file.last assembles.bounded
      fun held found => Nat.lt_irrefl _ (waiting file.last held found).2.1
  have beforeNext : (reference.slotsWith pkt).firstFree reference.assembly.next ≤ next :=
    stops next assembles.sent fun held found => Nat.lt_irrefl _ (waiting next held found).2.2
  have ahead := (reference.slotsWith pkt).le_firstFree reference.assembly.next
  have inOrder : Carried file reference.assembly.next ((reference.slotsWith pkt).segment
      reference.assembly.next ((reference.slotsWith pkt).firstFree reference.assembly.next)) :=
    Carried.segment (fun other held found => (waiting other held found).1) ahead taken
  have length := Slots.length_segment ahead taken
  constructor
  · intro other held found
    have stored : (reference.store pkt inside).assembly.slots.get other =
        if other < (reference.store pkt inside).assembly.next then none
        else (reference.slotsWith pkt).get other := Reassembly.get_put _ _ _ _
    rw [stored] at found
    split at found
    · cases found
    · exact waiting other held found
  · apply Carried.append_iff.mpr
    rw [Nat.zero_add, assembles.count]
    exact ⟨assembles.delivered, inOrder⟩
  · have joined : (reference.store pkt inside).assembly.delivered.length =
        reference.assembly.delivered.length + ((reference.slotsWith pkt).segment
          reference.assembly.next
            ((reference.slotsWith pkt).firstFree reference.assembly.next)).length :=
      List.length_append
    rw [joined, length, assembles.count, Nat.add_sub_cancel' ahead]
    rfl
  · exact beforeNext
  · exact beforeEnd
  · exact assembles.endNum
  · intro closed
    have atEnd := assembles.closed closed
    have same : (reference.store pkt inside).assembly.next =
        (reference.slotsWith pkt).firstFree reference.assembly.next := rfl
    omega

theorem next_le_accept (reference : Reference) (pkt : Pkt) :
    reference.assembly.next ≤ (reference.accept pkt).assembly.next := by
  rw [accept]
  split
  · exact le_rfl
  · split
    · split
      · simp only
        split
        · exact le_rfl
        · exact le_rfl
      · simp only
        split
        · exact Reassembly.next_le_put _ _ _
        · exact Reassembly.next_le_put _ _ _
    · exact le_rfl

/-- A copy which is not too old is assembled, or recognized as an old one. -/
theorem Assembles.accept (assembles : Assembles file next reference)
    (bounded : next ≤ file.last + 1) (near : next ≤ reference.assembly.next + 31)
    {position : ℕ} {pkt : Pkt} (carries : Carries file position pkt) (sent : position < next)
    (fresh : reference.assembly.next ≤ position + 225) :
    Assembles file next (reference.accept pkt) := by
  have notTruncated : ¬pkt.trFlag = 1 := by
    rw [carries.trFlag]
    decide
  have inside_iff : reference.offset pkt ≤ 30 ↔ reference.assembly.next ≤ position := by
    have window := @Serial.dist_wire_lt_iff 8 reference.assembly.next position 31 (by omega)
      (by omega)
    rw [offset, carries.seqNum, ← Nat.lt_succ_iff, window]
    omega
  rw [Reference.accept, if_neg notTruncated]
  by_cases inside : reference.offset pkt ≤ 30
  · have ahead := inside_iff.mp inside
    have here : reference.assembly.next + reference.offset pkt = position := by
      rw [offset, carries.seqNum, Serial.dist_wire_of_le ahead (by omega)]
      omega
    rw [dif_pos inside]
    by_cases empty : pkt.length = 0
    · have isLast : position = file.last :=
        le_antisymm (by omega) (carries.length_eq_zero_iff.mp empty)
      have announced := assembles.announce (carries.seqNum.trans (by rw [isLast]))
        (isLast ▸ sent)
      rw [if_pos empty]
      simp only
      split
      · apply announced.close
        change reference.assembly.next = file.last
        omega
      · exact announced.ack
    · have data : position < file.last :=
        Nat.lt_of_not_le (mt carries.length_eq_zero_iff.mpr empty)
      have stored := assembles.store carries data sent inside here
      rw [if_neg empty]
      simp only
      split
      · rename_i atEnd
        apply stored.close
        -- The end packet has been sent, so its number is that of no other position in reach.
        rcases stored.endNum _ atEnd with ⟨same, lastSent⟩
        have moved : reference.assembly.next ≤ (reference.store pkt inside).assembly.next :=
          Reassembly.next_le_put _ _ _
        have high := stored.bounded
        exact (Serial.wire_inj (by omega) (by omega)).mp same
      · exact stored.ack
  · rw [dif_neg inside]
    exact assembles.ack

end Reference

namespace Receiver

variable {crc32 : List Byte → BitVec 32} {file : InputFile} {next waited : ℕ}

/--
The receiver waits for a position. Before it has closed it follows a machine which
assembles the input; afterwards it waits for the position behind the end packet.
-/
structure Waits (crc32 : List Byte → BitVec 32) (file : InputFile) (next waited : ℕ)
    (receiver : Receiver) : Prop where
  sound : receiver.Sound crc32
  waitedSeqNum : receiver.waitedSeqNum = Serial.wire 8 waited
  sent : waited ≤ next
  closing : receiver.ClosingQueued → waited = file.last + 1
  delivered : Carried file 0 (receiver.writes.map Write.pkt)
  count : receiver.writes.length = min waited file.last
  progress : (∃ reference, Matches reference receiver ∧ reference.Assembles file next ∧
      reference.closed = false ∧ reference.assembly.next = waited) ∨
    waited = file.last + 1 ∧ receiver.pktQueue.nodes = []

theorem waits_start (file : InputFile) (next : ℕ) (tpGlobal : Time) :
    Waits crc32 file next 0 (start tpGlobal) where
  sound := sound_start tpGlobal
  waitedSeqNum := rfl
  sent := Nat.zero_le _
  closing := by
    rintro ⟨ack, present, _⟩
    simp [start, queued, queueInit] at present
  delivered := trivial
  count := by simp [start]
  progress := .inl ⟨.initial, ⟨rfl, rfl, rfl, rfl, rfl⟩, Reference.assembles_initial file next,
    rfl, rfl⟩

theorem Waits.mono {further : ℕ} {receiver : Receiver}
    (waits : Waits crc32 file next waited receiver) (nextLe : next ≤ further) :
    Waits crc32 file further waited receiver where
  sound := waits.sound
  waitedSeqNum := waits.waitedSeqNum
  sent := waits.sent.trans nextLe
  closing := waits.closing
  delivered := waits.delivered
  count := waits.count
  progress := by
    rcases waits.progress with ⟨reference, holds, assembles, stillOpen, here⟩ | closed
    · exact .inl ⟨reference, holds, assembles.mono nextLe, stillOpen, here⟩
    · exact .inr closed

theorem Matches.of_same {reference : Reference} {before after : Receiver}
    (holds : Matches reference before) (same : SameProgress before after) :
    Matches reference after where
  waitedSeqNum := same.waitedSeqNum.trans holds.waitedSeqNum
  pktQueue := same.pktQueue.trans holds.pktQueue
  isFinalSeqNum := same.isFinalSeqNum.trans holds.isFinalSeqNum
  finalSeqNum := same.finalSeqNum.trans holds.finalSeqNum
  delivered := by
    rw [same.writes]
    exact holds.delivered

theorem Waits.of_same {before after : Receiver} (waits : Waits crc32 file next waited before)
    (sound : after.Sound crc32) (same : SameProgress before after) :
    Waits crc32 file next waited after where
  sound := sound
  waitedSeqNum := same.waitedSeqNum.trans waits.waitedSeqNum
  sent := waits.sent
  closing := by
    rw [ClosingQueued, same.queued]
    exact waits.closing
  delivered := by
    rw [same.writes]
    exact waits.delivered
  count := by
    rw [same.writes]
    exact waits.count
  progress := by
    rcases waits.progress with ⟨reference, holds, known⟩ | ⟨atEnd, empty⟩
    · exact .inl ⟨reference, holds.of_same same, known⟩
    · refine .inr ⟨atEnd, ?_⟩
      rw [same.pktQueue]
      exact empty

theorem Waits.afterAck {receiver : Receiver} (waits : Waits crc32 file next waited receiver)
    {type : BitVec 2} (valid : type ≠ 0) (seqNum : BitVec 8) (timestamp : BitVec 32) :
    Waits crc32 file next waited (receiver.afterAck (newAck type 0 seqNum timestamp)) where
  sound := sound_afterAck waits.sound (isAck_newAck valid 0 seqNum timestamp)
  waitedSeqNum := waits.waitedSeqNum
  sent := waits.sent
  closing := by
    rw [closingQueued_append (queued_afterAck receiver _)]
    rintro (closing | mark)
    · exact waits.closing closing
    · cases mark
  delivered := waits.delivered
  count := waits.count
  progress := by
    rcases waits.progress with ⟨reference, holds, known⟩ | closed
    · exact .inl ⟨reference, ⟨holds.waitedSeqNum, holds.pktQueue, holds.isFinalSeqNum,
        holds.finalSeqNum, holds.delivered⟩, known⟩
    · exact .inr closed

/-- What the receiver may decode: nothing, a copy which is not too old, or a truncated packet. -/
inductive Arrived (file : InputFile) (next waited position : ℕ) :
    Except PktStatusCode Pkt → Prop where
  | rejected (code : PktStatusCode) : Arrived file next waited position (.error code)
  | copy (pkt : Pkt) (carries : Carries file position pkt) (sent : position < next)
      (fresh : waited ≤ position + 225) : Arrived file next waited position (.ok pkt)
  | truncated (pkt : Pkt) (flag : pkt.trFlag = 1) (seqNum : pkt.seqNum = Serial.wire 8 position)
      (sent : position < next) : Arrived file next waited position (.ok pkt)

/--
What the receiver has done in between: it waits for the position `later` now, and its
new acknowledgements are for that position, or for that of the truncated packet.
-/
structure Moved (crc32 : List Byte → BitVec 32) (file : InputFile) (next waited position : ℕ)
    (before after : Receiver) (later : ℕ) : Prop where
  waits : Waits crc32 file next later after
  ahead : waited ≤ later
  acks : ∃ new, after.queued = before.queued ++ new ∧
    ∀ ack ∈ new, AckFor later next (if ack.type = ptypeNack then position else later) ack

section Moves

variable {position : ℕ} {receiver : Receiver}

theorem moved_afterAck (waits : Waits crc32 file next waited receiver) (timestamp : BitVec 32) :
    Moved crc32 file next waited position receiver
      (receiver.afterAck (newAck ptypeAck 0 receiver.waitedSeqNum timestamp)) waited where
  waits := waits.afterAck ptypeAck_ne_zero _ _
  ahead := le_rfl
  acks := by
    refine ⟨_, queued_afterAck receiver _, ?_⟩
    intro ack present
    rw [List.mem_singleton.mp present, waits.waitedSeqNum]
    exact .ack 0 timestamp le_rfl

theorem moved_afterNack (waits : Waits crc32 file next waited receiver) (sent : position < next)
    {seqNum : BitVec 8} (number : seqNum = Serial.wire 8 position) (timestamp : BitVec 32) :
    Moved crc32 file next waited position receiver
      (receiver.afterAck (newAck ptypeNack 0 seqNum timestamp)) waited where
  waits := waits.afterAck ptypeNack_ne_zero _ _
  ahead := le_rfl
  acks := by
    refine ⟨_, queued_afterAck receiver _, ?_⟩
    intro ack present
    rw [List.mem_singleton.mp present, number]
    exact .nack timestamp sent

theorem handleDecoded_atEnd {after : Receiver} (waits : Waits crc32 file next waited receiver)
    (atEnd : waited = file.last + 1) (bounded : next ≤ file.last + 1) (wr : ℕ → WriteOutcome)
    {decoded : Except PktStatusCode Pkt} (arrived : Arrived file next waited position decoded)
    (handled : receiver.handleDecoded wr decoded = .ok after) :
    Moved crc32 file next waited position receiver after waited := by
  have ackQueue := waits.sound.ackQueue
  cases arrived with
  | rejected code =>
      rw [handleDecoded, queueAck_eq ackQueue] at handled
      cases handled
      exact moved_afterAck waits 0
  | copy pkt carries sent fresh =>
      have notTruncated : ¬pkt.trFlag = 1 := by
        rw [carries.trFlag]
        decide
      have outside : ¬receiver.inWindow pkt := by
        rw [inWindow_iff, waits.waitedSeqNum, carries.seqNum,
          Serial.dist_wire_of_lt (by omega) (by omega)]
        omega
      rw [handleDecoded, handlePacket, if_neg notTruncated, if_neg outside,
        queueAck_eq ackQueue] at handled
      cases handled
      exact moved_afterAck waits pkt.timestamp
  | truncated pkt flag seqNum sent =>
      rw [handleDecoded, handlePacket, if_pos flag, queueAck_eq ackQueue] at handled
      cases handled
      exact moved_afterNack waits sent seqNum pkt.timestamp

theorem assembles_receive {reference : Reference} (assembles : reference.Assembles file next)
    (stillOpen : reference.closed = false) (bounded : next ≤ file.last + 1)
    (near : next ≤ reference.assembly.next + 31) {decoded : Except PktStatusCode Pkt}
    (arrived : Arrived file next reference.assembly.next position decoded) :
    (reference.receive decoded).Assembles file next ∧
      reference.assembly.next ≤ (reference.receive decoded).assembly.next := by
  cases arrived with
  | rejected code =>
      rw [Reference.receive_error stillOpen]
      exact ⟨assembles.ack, le_rfl⟩
  | copy pkt carries sent fresh =>
      rw [Reference.receive_ok stillOpen]
      exact ⟨assembles.accept bounded near carries sent fresh, reference.next_le_accept pkt⟩
  | truncated pkt flag =>
      rw [Reference.receive_ok stillOpen, Reference.accept, if_pos flag]
      exact ⟨assembles, le_rfl⟩

/-- Whatever arrives, the receiver has still delivered a part of the input in order. -/
theorem handleDecoded_moved {after : Receiver} (waits : Waits crc32 file next waited receiver)
    (bounded : next ≤ file.last + 1) (near : next ≤ waited + 31) (wr : ℕ → WriteOutcome)
    {decoded : Except PktStatusCode Pkt} (arrived : Arrived file next waited position decoded)
    (handled : receiver.handleDecoded wr decoded = .ok after) :
    ∃ later, Moved crc32 file next waited position receiver after later := by
  rcases waits.progress with ⟨reference, holds, assembles, stillOpen, here⟩ | ⟨atEnd, _⟩
  · subst here
    rcases handleDecoded_lockstep waits.sound.ackQueue holds stillOpen wr decoded with
      ⟨_, handles, lockstep⟩
    rcases handleDecoded_answered waits.sound wr decoded with ⟨_, again, answered⟩
    rw [handled] at handles again
    cases handles
    cases again
    rcases assembles_receive assembles stillOpen bounded near arrived with ⟨received, ahead⟩
    have notClosing : ¬receiver.ClosingQueued := by
      intro closing
      have beyond := waits.closing closing
      have inside := assembles.bounded
      omega
    cases lockstep with
    | truncated pkt decodes flag unchanged =>
        subst decodes
        cases arrived with
        | copy _ carries =>
            rw [carries.trFlag] at flag
            cases flag
        | truncated _ _ seqNum sent =>
            exact ⟨_, moved_afterNack waits sent seqNum pkt.timestamp⟩
    | acknowledged middle timestamp unclosed acks matched ackQueue sent =>
        have queued := queued_afterAck middle (newAck ptypeAck 0 middle.waitedSeqNum timestamp)
        rw [queued_congr ackQueue sent] at queued
        refine ⟨(reference.receive decoded).assembly.next, ⟨answered.sound, matched.waitedSeqNum,
          received.sent, ?_, ?_, ?_, ?_⟩, ahead, ⟨_, queued, ?_⟩⟩
        · rw [closingQueued_append queued]
          rintro (closing | mark)
          · exact absurd closing notClosing
          · cases mark
        · exact matched.delivered ▸ received.delivered
        · have count := congrArg List.length matched.delivered
          rw [List.length_map, received.count] at count
          rw [min_eq_left received.bounded]
          exact count
        · exact .inl ⟨_, ⟨matched.waitedSeqNum, matched.pktQueue, matched.isFinalSeqNum,
            matched.finalSeqNum, matched.delivered⟩, received, unclosed, rfl⟩
        · intro ack present
          rw [List.mem_singleton.mp present, matched.waitedSeqNum]
          exact .ack 0 timestamp le_rfl
    | closes middle timestamp closed announced matched ackQueue sent =>
        have atEnd := received.closed closed
        have number : middle.waitedSeqNum + 1 = Serial.wire 8 (file.last + 1) := by
          rw [matched.waitedSeqNum, atEnd, Serial.wire_add]
          rfl
        rcases Option.isSome_iff_exists.mp announced with ⟨endNum, found⟩
        have lastSent := (received.endNum endNum found).2
        have queued := queued_afterAck { middle with waitedSeqNum := middle.waitedSeqNum + 1 }
          (newAck ptypeAck 1 (middle.waitedSeqNum + 1) timestamp)
        have sameQueued : { middle with waitedSeqNum := middle.waitedSeqNum + 1 }.queued =
            receiver.queued := queued_congr ackQueue sent
        rw [sameQueued] at queued
        refine ⟨file.last + 1, ⟨answered.sound, number, lastSent, fun _ => rfl, ?_, ?_,
          .inr ⟨rfl, ?_⟩⟩, by omega, ⟨_, queued, ?_⟩⟩
        · exact matched.delivered ▸ received.delivered
        · have count := congrArg List.length matched.delivered
          rw [List.length_map, received.count, atEnd] at count
          rw [min_eq_right (Nat.le_succ _)]
          exact count
        · change middle.pktQueue.nodes = []
          rw [matched.pktQueue, Queue.nodes_ofNodes]
          exact received.waiting_eq_nil atEnd
        · intro ack present
          rw [List.mem_singleton.mp present, number]
          exact .ack 1 timestamp le_rfl
  · exact ⟨waited, handleDecoded_atEnd waits atEnd bounded wr arrived handled⟩

theorem Iteration.moved {input : ReceiverInput} {flow : LoopFlow Receiver ReceiverExit}
    (iteration : Iteration crc32 input receiver flow)
    (waits : Waits crc32 file next waited receiver) (bounded : next ≤ file.last + 1)
    (near : next ≤ waited + 31)
    (arrived : ∀ data fits, input.data = .bytes data fits → data ≠ [] →
      Arrived file next waited position (pktDecode crc32 true data pktNew)) :
    ∃ later, Moved crc32 file next waited position receiver flow.state later := by
  cases iteration with
  | idle _ sound same =>
      refine ⟨waited, waits.of_same sound same, le_rfl, [], ?_, ?_⟩
      · rw [same.queued, List.append_nil]
      · intro ack present
        cases present
  | read data fits middle after inputData nonempty sound same received handled =>
      rcases handleDecoded_moved (waits.of_same sound same) bounded near input.wr
        (arrived data fits inputData nonempty) handled with ⟨later, moved⟩
      refine ⟨later, moved.waits, moved.ahead, ?_⟩
      rw [← same.queued]
      exact moved.acks

end Moves

theorem bytes_of_complete {write : Write} {position : ℕ}
    (carries : Carries file position write.pkt) (complete : write.Complete) :
    write.bytes = write.pkt.wirePayload := by
  have length : write.bytes.length = write.pkt.wirePayload.length := by
    rw [carries.wirePayload, ← carries.length]
    exact complete
  rw [Write.bytes] at length ⊢
  split at length
  · exact (List.length_eq_zero_iff.mp length.symm).symm
  · exact (List.take_sublist _ _).eq_of_length length

/-- If all writes are complete, the output file holds the chunks which have been delivered. -/
theorem Waits.written {receiver : Receiver} (waits : Waits crc32 file next waited receiver)
    (complete : ∀ write ∈ receiver.writes, write.Complete) :
    receiver.written = (file.chunks.take waited).flatten := by
  have inside : 0 + (receiver.writes.map Write.pkt).length ≤ file.last := by
    rw [List.length_map, waits.count]
    omega
  have payloads := waits.delivered.payloads inside
  have whole : receiver.writes.map Write.bytes =
      (receiver.writes.map Write.pkt).map Pkt.wirePayload := by
    rw [List.map_map]
    apply List.map_congr_left
    intro write present
    rcases waits.delivered.mem (List.mem_map_of_mem present) with ⟨index, _, carries⟩
    exact bytes_of_complete carries (complete write present)
  rw [Receiver.written, whole, payloads, List.length_map, waits.count, List.drop_zero]
  congr 1
  rw [InputFile.last, ← List.take_eq_take_min]

end Receiver

end ReliableTransfer
