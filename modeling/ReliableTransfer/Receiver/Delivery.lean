import ReliableTransfer.Receiver.Basic

/-!
# What is written before it is acknowledged

The delivery of the consecutive packets frees each of them and counts it,
whatever `write` has returned. The acknowledged number therefore covers exactly
the packets handed to `write`, in any state of the receiver; all of them have
been written completely only if all these calls have.
-/

namespace ReliableTransfer

open QueueReceiver

namespace QueueReceiver

theorem queueOrderedPush_code {queue pushed : Queue} {pkt : Pkt}
    {waitedSeqNum realWindowSize : BitVec 8} {code : ℤ}
    (pushes : queueOrderedPush queue (some pkt) waitedSeqNum realWindowSize =
      .ok (code, pushed)) : code = 0 ∨ code = -1 ∧ pushed = queue := by
  have fromPointers : ∀ before runner, orderedPushFrom queue pkt waitedSeqNum realWindowSize
      before runner = .ok (code, pushed) → code = 0 ∨ code = -1 ∧ pushed = queue := by
    intro before runner pushesFrom
    simp only [orderedPushFrom] at pushesFrom
    split at pushesFrom
    · split at pushesFrom
      · split at pushesFrom
        · cases pushesFrom
        · cases pushesFrom
          exact .inl rfl
      · split at pushesFrom
        · cases pushesFrom
          exact .inr ⟨rfl, rfl⟩
        · cases pushesFrom
          exact .inl rfl
    · split at pushesFrom
      · cases pushesFrom
      · split at pushesFrom
        · cases pushesFrom
          exact .inl rfl
        · split at pushesFrom
          · cases pushesFrom
            exact .inr ⟨rfl, rfl⟩
          · cases pushesFrom
            exact .inl rfl
  simp only [queueOrderedPush] at pushes
  split at pushes
  · cases pushes
    exact .inl rfl
  · split at pushes
    · split at pushes
      · split at pushes
        · cases pushes
        · cases pushes
          exact .inl rfl
      · exact fromPointers _ _ pushes
    · exact fromPointers _ _ pushes

end QueueReceiver

namespace Receiver

/-- The packets in the queue once a received packet has been inserted, if it is. -/
def insertion (receiver : Receiver) (pkt : Pkt) : Option (List Pkt) :=
  if pkt.trFlag = 0 ∧ receiver.inWindow pkt ∧ pkt.length ≠ 0 then
    match queueOrderedPush receiver.pktQueue (some pkt) receiver.waitedSeqNum maxBufferSize with
    | .ok (pushed, queue) => if pushed = 0 then some queue.nodes else none
    | .error _ => none
  else none

def available (receiver : Receiver) (pkt : Pkt) : List Pkt :=
  (receiver.insertion pkt).getD receiver.pktQueue.nodes

/-- The packets at the head of the queue, numbered consecutively from the waited number on. -/
def deliverable (receiver : Receiver) (pkt : Pkt) : List Pkt :=
  match receiver.insertion pkt with
  | none => []
  | some nodes => consecutive receiver.waitedSeqNum nodes

/--
Some calls of `write` account for a step of the receiver: the packets dropped
from the queue are those handed to `write`, and the number which is acknowledged
goes past these and, with the closing mark, past the end packet.
-/
structure AccountedBy (made : List Write) (receiver : Receiver) (pkt : Pkt) (after : Receiver) :
    Prop where
  writes : after.writes = receiver.writes ++ made
  kept : receiver.available pkt = made.map Write.pkt ++ after.pktQueue.nodes
  answer : ∃ ack, after.ackQueue.nodes.getLast? = some ack ∧
    (ack.type = ptypeAck → ack.seqNum = after.waitedSeqNum) ∧
    after.waitedSeqNum = receiver.waitedSeqNum + Serial.wire 8 made.length +
      if ack.trFlag = 1 then 1 else 0

/-- Whatever is dropped and acknowledged has been written completely. -/
def WrittenBeforeAck (receiver : Receiver) (pkt : Pkt) (after : Receiver) : Prop :=
  ∃ made, AccountedBy made receiver pkt after ∧ ∀ write ∈ made, write.Complete

/-- An acknowledgement has been queued, and nothing else has happened. -/
structure AckQueued (receiver : Receiver) (ack : Pkt) (after : Receiver) : Prop where
  writes : after.writes = receiver.writes
  pktQueue : after.pktQueue = receiver.pktQueue
  waitedSeqNum : after.waitedSeqNum = receiver.waitedSeqNum
  last : after.ackQueue.nodes.getLast? = some ack

theorem queueAck_ok {receiver after : Receiver} {type : BitVec 2} {trFlag : BitVec 1}
    {seqNum : BitVec 8} {timestamp : BitVec 32}
    (queues : receiver.queueAck type trFlag seqNum timestamp = .ok after) :
    AckQueued receiver (newAck type trFlag seqNum timestamp) after := by
  simp only [queueAck, queuePush, queuePushOr, bind, Except.bind] at queues
  split at queues
  · cases queues
  · rename_i result pushes
    cases queues
    refine ⟨rfl, rfl, rfl, ?_⟩
    split at pushes
    · cases pushes
      rfl
    · split at pushes
      · cases pushes
      · cases pushes
        simp

theorem queueDataAck_ok {receiver after : Receiver} (queues : receiver.queueDataAck = .ok after) :
    after.writes = receiver.writes ∧ after.pktQueue = receiver.pktQueue ∧
      ∃ ack, after.ackQueue.nodes.getLast? = some ack ∧
        (ack.type = ptypeAck → ack.seqNum = after.waitedSeqNum) ∧
        after.waitedSeqNum = receiver.waitedSeqNum + if ack.trFlag = 1 then 1 else 0 := by
  rw [queueDataAck] at queues
  split at queues
  · have queued := queueAck_ok queues
    exact ⟨queued.writes, queued.pktQueue, _, queued.last, fun _ => queued.waitedSeqNum.symm,
      queued.waitedSeqNum⟩
  · have queued := queueAck_ok queues
    refine ⟨queued.writes, queued.pktQueue, _, queued.last, fun _ => queued.waitedSeqNum.symm, ?_⟩
    rw [queued.waitedSeqNum]
    simp [newAck]

theorem deliver_accounts (receiver : Receiver) (wr : ℕ → WriteOutcome) :
    (receiver.deliver wr).writes = receiver.writes ++ writesOf wr receiver.writes.length
        (consecutive receiver.waitedSeqNum receiver.pktQueue.nodes) ∧
      receiver.pktQueue.nodes = consecutive receiver.waitedSeqNum receiver.pktQueue.nodes ++
        (receiver.deliver wr).pktQueue.nodes ∧
      (receiver.deliver wr).waitedSeqNum = receiver.waitedSeqNum + Serial.wire 8
        (consecutive receiver.waitedSeqNum receiver.pktQueue.nodes).length := by
  rw [deliver, queuePayloadWrite, payloadWriteLoop_eq]
  refine ⟨rfl, ?_, ?_⟩
  · exact (List.prefix_iff_eq_append.mp (consecutive_isPrefix _ _)).symm
  · simp

theorem insertion_eq {receiver : Receiver} {pkt : Pkt} {code : ℤ} {queue : Queue}
    (complete : pkt.trFlag = 0) (inside : receiver.inWindow pkt) (nonempty : pkt.length ≠ 0)
    (pushes : queueOrderedPush receiver.pktQueue (some pkt) receiver.waitedSeqNum maxBufferSize =
      .ok (code, queue)) :
    receiver.insertion pkt = if code = 0 then some queue.nodes else none := by
  rw [insertion, if_pos ⟨complete, inside, nonempty⟩, pushes]

theorem accounted_of_not_inserted {receiver after : Receiver} {pkt ack : Pkt}
    (wr : ℕ → WriteOutcome) (insertion : receiver.insertion pkt = none)
    (writes : after.writes = receiver.writes) (pktQueue : after.pktQueue = receiver.pktQueue)
    (last : after.ackQueue.nodes.getLast? = some ack)
    (number : ack.type = ptypeAck → ack.seqNum = after.waitedSeqNum)
    (waited : after.waitedSeqNum = receiver.waitedSeqNum + if ack.trFlag = 1 then 1 else 0) :
    AccountedBy (writesOf wr receiver.writes.length (receiver.deliverable pkt)) receiver pkt
      after := by
  rw [deliverable, insertion]
  refine ⟨?_, ?_, ack, last, number, ?_⟩
  · simp [writes, writesOf]
  · rw [available, insertion, pktQueue]
    rfl
  · rw [waited]
    simp [writesOf, Serial.wire]

theorem handleData_accounted {receiver after : Receiver} {wr : ℕ → WriteOutcome} {pkt : Pkt}
    (complete : pkt.trFlag = 0) (inside : receiver.inWindow pkt) (nonempty : pkt.length ≠ 0)
    (handled : receiver.handleData wr pkt = .ok after) :
    AccountedBy (writesOf wr receiver.writes.length (receiver.deliverable pkt)) receiver pkt
      after := by
  simp only [handleData, bind, Except.bind] at handled
  split at handled
  · cases handled
  · rename_i result pushes
    rcases result with ⟨code, queue⟩
    rcases queueDataAck_ok handled with ⟨writes, pktQueue, ack, last, number, waited⟩
    have insertion := insertion_eq complete inside nonempty pushes
    rcases queueOrderedPush_code pushes with inserted | ⟨refused, unchanged⟩
    · subst inserted
      have accounts := deliver_accounts { receiver with pktQueue := queue } wr
      rw [if_pos rfl] at writes pktQueue waited insertion
      rw [deliverable, insertion]
      refine ⟨?_, ?_, ack, last, number, ?_⟩
      · rw [writes, accounts.1]
      · rw [available, insertion, Option.getD_some, map_pkt_writesOf, pktQueue]
        exact accounts.2.1
      · rw [waited, accounts.2.2, length_writesOf]
    · subst refused unchanged
      have refusal : ¬(-1 : ℤ) = 0 := by decide
      rw [if_neg refusal] at writes pktQueue waited insertion
      exact accounted_of_not_inserted wr insertion writes pktQueue last number waited

/-- In any state, the calls of `write` for the deliverable packets account for the step. -/
theorem handlePacket_accounted {receiver after : Receiver} {wr : ℕ → WriteOutcome} {pkt : Pkt}
    (handled : receiver.handlePacket wr pkt = .ok after) :
    AccountedBy (writesOf wr receiver.writes.length (receiver.deliverable pkt)) receiver pkt
      after := by
  rw [handlePacket] at handled
  split at handled
  · rename_i flag
    have insertion : receiver.insertion pkt = none := by simp [Receiver.insertion, flag]
    have queued := queueAck_ok handled
    refine accounted_of_not_inserted wr insertion queued.writes queued.pktQueue queued.last ?_ ?_
    · simp [newAck, ptypeNack, ptypeAck]
    · rw [queued.waitedSeqNum]
      simp [newAck]
  · rename_i flag
    have complete : pkt.trFlag = 0 := by
      have bits : ∀ bit : BitVec 1, bit ≠ 1 → bit = 0 := by decide
      exact bits _ flag
    split at handled
    · rename_i inside
      split at handled
      · rename_i empty
        have insertion : receiver.insertion pkt = none := by simp [Receiver.insertion, empty]
        rw [handleEnd] at handled
        simp only at handled
        split at handled
        · have queued := queueAck_ok handled
          exact accounted_of_not_inserted wr insertion queued.writes queued.pktQueue queued.last
            (fun _ => queued.waitedSeqNum.symm) queued.waitedSeqNum
        · have queued := queueAck_ok handled
          refine accounted_of_not_inserted wr insertion queued.writes queued.pktQueue queued.last
            (fun _ => queued.waitedSeqNum.symm) ?_
          rw [queued.waitedSeqNum]
          simp [newAck]
      · rename_i nonempty
        exact handleData_accounted complete inside nonempty handled
    · rename_i outside
      have insertion : receiver.insertion pkt = none := by simp [Receiver.insertion, outside]
      have queued := queueAck_ok handled
      refine accounted_of_not_inserted wr insertion queued.writes queued.pktQueue queued.last
        (fun _ => queued.waitedSeqNum.symm) ?_
      rw [queued.waitedSeqNum]
      simp [newAck]

theorem AccountedBy.unique {first second : List Write} {receiver after : Receiver} {pkt : Pkt}
    (left : AccountedBy first receiver pkt after) (right : AccountedBy second receiver pkt after) :
    first = second := by
  have same := left.writes
  rw [right.writes, List.append_cancel_left_eq] at same
  exact same.symm

theorem forall_mem_writesOf (wr : ℕ → WriteOutcome) (earlier : ℕ) (run : List Pkt) :
    (∀ write ∈ writesOf wr earlier run, write.Complete) ↔
      ∀ index (inRun : index < run.length), Write.Complete ⟨run[index], wr (earlier + index)⟩ := by
  induction run generalizing earlier with
  | nil => simp [writesOf]
  | cons pkt rest ih =>
      simp only [writesOf, List.forall_mem_cons, ih, List.length_cons]
      constructor
      · rintro ⟨first, others⟩ index inRun
        cases index with
        | zero => exact first
        | succ index =>
            have later := others index (by omega)
            rw [Nat.add_assoc, Nat.add_comm 1] at later
            exact later
      · intro all
        refine ⟨all 0 (by omega), ?_⟩
        intro index inRun
        have later := all (index + 1) (by omega)
        rw [Nat.add_assoc, Nat.add_comm 1]
        exact later

/--
Whatever is dropped and acknowledged has been written completely if and only if
every call of `write` for a deliverable packet takes all its bytes.
-/
theorem handlePacket_writtenBeforeAck_iff {receiver after : Receiver} {wr : ℕ → WriteOutcome}
    {pkt : Pkt} (handled : receiver.handlePacket wr pkt = .ok after) :
    WrittenBeforeAck receiver pkt after ↔
      ∀ index (inRun : index < (receiver.deliverable pkt).length),
        Write.Complete
          ⟨(receiver.deliverable pkt)[index], wr (receiver.writes.length + index)⟩ := by
  have accounted := handlePacket_accounted handled
  rw [← forall_mem_writesOf]
  constructor
  · rintro ⟨made, byMade, complete⟩
    rwa [accounted.unique byMade]
  · intro complete
    exact ⟨_, accounted, complete⟩

/-- Packet 1 waits for packet 0. -/
def gapExample : Receiver :=
  { start 0 with pktQueue := .ofNodes [byteExample 1] }

/-- Packet 0 releases packet 1, and both are written. -/
theorem handlePacket_writtenBeforeAck_example :
    ∃ after, gapExample.handlePacket (fun _ => .wrote 1) (byteExample 0) = .ok after ∧
      after.waitedSeqNum = 2 ∧ after.written = [0, 1] ∧
      WrittenBeforeAck gapExample (byteExample 0) after :=
  ⟨_, rfl, rfl, rfl, (handlePacket_writtenBeforeAck_iff rfl).mpr (by decide)⟩

/-- A packet whose `write` fails is dropped and acknowledged all the same. -/
theorem handlePacket_drops_unwritten :
    ∃ after, (start 0).handlePacket (fun _ => .failed) (byteExample 0) = .ok after ∧
      after.waitedSeqNum = 1 ∧ after.pktQueue.nodes = [] ∧ after.written = [] ∧
      after.ackQueue.nodes = [newAck ptypeAck 0 1 0] ∧
      ¬WrittenBeforeAck (start 0) (byteExample 0) after := by
  refine ⟨_, rfl, rfl, rfl, rfl, rfl, ?_⟩
  rintro ⟨made, accounted, complete⟩
  have calls : [⟨byteExample 0, .failed⟩] = made := accounted.writes
  have written := complete ⟨byteExample 0, .failed⟩ (by simp [← calls])
  exact absurd written (by decide)

end Receiver

end ReliableTransfer
