import ReliableTransfer.Receiver.Kinds
import ReliableTransfer.Receiver.Delivery
import Mathlib.Data.List.Perm.Subperm

/-!
# The receiver and an arbitrary network

What the receiver writes whatever datagrams reach it, also such as no sender has sent. It
invents nothing: what it has written or keeps has arrived, each packet in a datagram of its
own. It writes in order: until it closes, the packets written are numbered from 0 on. And a
packet which it has accepted once is not accepted again for a long time.
-/

namespace ReliableTransfer

namespace Reference

/-- A datagram leaves the assembly as it is, or a packet with a payload is put into it. -/
theorem receive_assembly (reference : Reference) (decoded : Except PktStatusCode Pkt) :
    (reference.receive decoded).assembly = reference.assembly ∨
      ∃ pkt, reference.offset pkt ≤ 30 ∧ (reference.receive decoded).assembly =
        reference.assembly.put (reference.assembly.next + reference.offset pkt) pkt := by
  cases closed : reference.closed with
  | true =>
      rw [receive_of_closed closed]
      exact .inl rfl
  | false =>
      cases decoded with
      | error code =>
          rw [receive_error closed]
          exact .inl rfl
      | ok pkt =>
          rw [receive_ok closed, accept]
          split
          · exact .inl rfl
          · split
            · rename_i inside
              split
              · left
                simp only
                split
                · rfl
                · rfl
              · refine .inr ⟨pkt, inside, ?_⟩
                simp only
                split
                · rfl
                · rfl
            · exact .inl rfl

/-- The machine is closed, or the announced end is not the next position. -/
def EndAhead (reference : Reference) : Prop :=
  reference.closed = true ∨
    reference.endNum ≠ some (Serial.wire 8 reference.assembly.next)

theorem EndAhead.receive {reference : Reference} (ahead : reference.EndAhead)
    (decoded : Except PktStatusCode Pkt) : (reference.receive decoded).EndAhead := by
  cases closed : reference.closed with
  | true =>
      rw [receive_of_closed closed]
      exact ahead
  | false =>
      cases decoded with
      | error code =>
          rw [receive_error closed]
          exact ahead
      | ok pkt =>
          rw [receive_ok closed, accept]
          split
          · exact ahead
          · split
            · split
              · simp only
                split
                · exact .inl rfl
                · rename_i further
                  right
                  intro same
                  apply further
                  rw [offset, Serial.dist_eq_zero_iff]
                  exact (Option.some.inj same).symm
              · simp only
                split
                · exact .inl rfl
                · rename_i further
                  exact .inr further
            · exact ahead

/-- What holds of the machine after any datagrams. -/
structure Orderly (reference : Reference) : Prop where
  endAhead : reference.EndAhead
  numbered : reference.assembly.delivered.map Pkt.seqNum =
    (List.range reference.assembly.next).map (Serial.wire 8)

theorem orderly_initial : initial.Orderly where
  endAhead := by
    right
    rintro ⟨⟩
  numbered := rfl

theorem Orderly.receive {reference : Reference} (orderly : reference.Orderly)
    (decoded : Except PktStatusCode Pkt) : (reference.receive decoded).Orderly where
  endAhead := orderly.endAhead.receive decoded
  numbered := by
    rcases reference.receive_assembly decoded with same | ⟨pkt, inside, put⟩
    · rw [same]
      exact orderly.numbered
    · rw [put]
      exact Reassembly.map_delivered_put orderly.numbered fun position waiting found =>
        (reference.numbered_slotsWith inside position waiting found).2

theorem taken_receive {reference : Reference} {position : ℕ}
    (taken : reference.assembly.Taken position) (decoded : Except PktStatusCode Pkt) :
    (reference.receive decoded).assembly.Taken position := by
  rcases reference.receive_assembly decoded with same | ⟨pkt, _, put⟩
  · rw [same]
    exact taken
  · rw [put]
    exact taken.put _ _

/-- An accepted packet takes the position which its number denotes. -/
theorem taken_of_accepted {reference : Reference} (stillOpen : reference.closed = false)
    {pkt : Pkt} (complete : pkt.trFlag ≠ 1) (nonempty : pkt.length ≠ 0)
    (inside : reference.offset pkt ≤ 30) : (reference.receive (.ok pkt)).assembly.Taken
      (reference.assembly.next + reference.offset pkt) := by
  have taken := reference.assembly.taken_put
    (reference.assembly.next + reference.offset pkt) pkt
  rw [receive_ok stillOpen, accept, if_neg complete, dif_pos inside, if_neg nonempty]
  simp only
  split
  · exact taken
  · exact taken

end Reference

namespace Receiver

open QueueReceiver

variable {crc32 : List Byte → BitVec 32}

theorem orderly_referenceAfter (received : List (List Byte)) :
    (referenceAfter crc32 received).Orderly := by
  induction received using List.reverseRecOn with
  | nil => exact Reference.orderly_initial
  | append_singleton earlier data ih =>
      rw [referenceAfter_append]
      exact ih.receive _

theorem closed_of_append {front : List (List Byte)}
    (closed : (referenceAfter crc32 front).closed = true) (middle : List (List Byte)) :
    (referenceAfter crc32 (front ++ middle)).closed = true := by
  induction middle using List.reverseRecOn with
  | nil =>
      rw [List.append_nil]
      exact closed
  | append_singleton earlier data ih =>
      rw [← List.append_assoc, referenceAfter_append, Reference.receive_of_closed ih]
      exact ih

theorem taken_of_append {front : List (List Byte)} {position : ℕ}
    (taken : (referenceAfter crc32 front).assembly.Taken position) (middle : List (List Byte)) :
    (referenceAfter crc32 (front ++ middle)).assembly.Taken position := by
  induction middle using List.reverseRecOn with
  | nil =>
      rw [List.append_nil]
      exact taken
  | append_singleton earlier data ih =>
      rw [← List.append_assoc, referenceAfter_append]
      exact Reference.taken_receive ih _

/-- A packet for a position which is taken is outside of the window, or its number is queued. -/
theorem harmless_of_taken {reference : Reference} {receiver : Receiver}
    (holds : Matches reference receiver) (stillOpen : reference.closed = false)
    (ahead : reference.EndAhead) {pkt : Pkt} {position : ℕ} (nonempty : pkt.length ≠ 0)
    (number : pkt.seqNum = Serial.wire 8 position)
    (taken : reference.assembly.Taken position)
    (recent : reference.assembly.next ≤ position + 225) : receiver.Harmless pkt := by
  rcases Nat.lt_or_ge position reference.assembly.next with delivered | waiting
  · left
    rw [holds.inWindow_iff, Reference.offset, number,
      Serial.dist_wire_of_lt delivered (by omega)]
    omega
  · right
    right
    rcases taken with delivered | waits
    · omega
    · rcases Option.ne_none_iff_exists'.mp waits with ⟨other, found⟩
      have near := (reference.numbered position other found).1
      have offset : reference.offset pkt = position - reference.assembly.next := by
        rw [Reference.offset, number, Serial.dist_wire_of_le waiting (by omega)]
      have inside : reference.offset pkt ≤ 30 := by omega
      have refuses := reference.queueOrderedPush_waiting inside
      rw [offset, Nat.add_sub_cancel' waiting, found, ← holds.pktQueue,
        ← holds.waitedSeqNum] at refuses
      have consistent : receiver.pktQueue.Consistent := by
        rw [holds.pktQueue]
        exact Queue.consistent_ofNodes _
      refine ⟨nonempty, numberQueued_of_refuses consistent refuses, ?_, fun _ => refuses⟩
      rw [holds.atEnd_iff]
      rcases ahead with closed | further
      · rw [closed] at stillOpen
        cases stillOpen
      · exact further

theorem SameProgress.unaffected {before after : Receiver} (same : SameProgress before after) :
    Unaffected before after where
  waitedSeqNum := same.waitedSeqNum
  pktQueue := same.pktQueue
  isFinalSeqNum := same.isFinalSeqNum
  finalSeqNum := same.finalSeqNum
  written := by rw [written, written, same.writes]
  notClosing := by
    intro ack present
    rw [same.queued, List.drop_length] at present
    cases present

theorem Unaffected.of_same {before middle after : Receiver} (same : SameProgress before middle)
    (unaffected : Unaffected middle after) : Unaffected before after where
  waitedSeqNum := unaffected.waitedSeqNum.trans same.waitedSeqNum
  pktQueue := unaffected.pktQueue.trans same.pktQueue
  isFinalSeqNum := unaffected.isFinalSeqNum.trans same.isFinalSeqNum
  finalSeqNum := unaffected.finalSeqNum.trans same.finalSeqNum
  written := unaffected.written.trans same.unaffected.written
  notClosing := by
    rw [← same.queued]
    exact unaffected.notClosing

/-- The numbers of the packets written are those of the positions the machine has passed. -/
theorem Matches.numbered {reference : Reference} {receiver : Receiver}
    (holds : Matches reference receiver) (orderly : reference.Orderly) :
    receiver.writes.length = reference.assembly.next ∧
      receiver.writes.map (fun write => write.pkt.seqNum) =
        (List.range receiver.writes.length).map (Serial.wire 8) := by
  have numbers := orderly.numbered
  rw [← holds.delivered, List.map_map] at numbers
  have count : receiver.writes.length = reference.assembly.next := by
    have lengths := congrArg List.length numbers
    rw [List.length_map, List.length_map, List.length_range] at lengths
    exact lengths
  refine ⟨count, ?_⟩
  rw [count]
  exact numbers

/--
A packet with a payload which has arrived inside of the window is accepted only once. When its
datagram is read again before the receiver closes, and at most 225 packets have been written
since, the iteration delivers and stores nothing, and neither announces nor marks the end.
-/
theorem duplicate_unaffected {tpGlobal : Time} {earlier receiver : Receiver}
    (reachedEarlier : Loop.Reachable (readWriteLoop crc32) (start tpGlobal) earlier)
    (reached : Loop.Reachable (readWriteLoop crc32) (start tpGlobal) receiver)
    {data : List Byte} {middle : List (List Byte)}
    (received : receiver.received = earlier.received ++ data :: middle) {pkt : Pkt}
    (decodes : pktDecode crc32 true data pktNew = .ok pkt) (complete : pkt.trFlag ≠ 1)
    (nonempty : pkt.length ≠ 0) (accepted : earlier.inWindow pkt)
    (recent : receiver.writes.length ≤ earlier.writes.length + 225)
    (stillOpen : ¬receiver.ClosingQueued) (input : ReceiverInput)
    {fits : data.length ≤ maxPacketSize} (reads : input.data = .bytes data fits) :
    ∃ flow, readWriteLoop crc32 input receiver = .ok flow ∧ Unaffected receiver flow.state := by
  have follows := follows_of_reachable reached
  rcases follows.matches_open stillOpen with ⟨notClosed, holds⟩
  have followsEarlier := follows_of_reachable reachedEarlier
  have earlierOpen : (referenceAfter crc32 earlier.received).closed = false := by
    rw [← Bool.not_eq_true]
    intro closed
    have later := closed_of_append closed (data :: middle)
    rw [← received, notClosed] at later
    cases later
  have holdsEarlier := (followsEarlier.image earlierOpen).toMatches
  have countEarlier := (holdsEarlier.numbered (orderly_referenceAfter _)).1
  have count := (holds.numbered (orderly_referenceAfter _)).1
  have inside := (holdsEarlier.inWindow_iff pkt).mp accepted
  have taken := Reference.taken_of_accepted earlierOpen complete nonempty inside
  rw [← decodes, ← referenceAfter_append] at taken
  have takenLater := taken_of_append taken middle
  rw [List.append_assoc, List.singleton_append, ← received] at takenLater
  have number := (referenceAfter crc32 earlier.received).seqNum_eq pkt
  have ahead : (referenceAfter crc32 receiver.received).EndAhead :=
    (orderly_referenceAfter _).endAhead
  rcases readWriteLoop_iteration follows.sound input with ⟨flow, moves, iteration⟩
  refine ⟨flow, moves, ?_⟩
  cases iteration with
  | idle _ _ same => exact same.unaffected
  | read other _ polled after inputData _ sound same _ handled =>
      rw [reads] at inputData
      cases inputData
      have holdsPolled := ((follows.image notClosed).of_same same).toMatches
      have harmless := harmless_of_taken holdsPolled notClosed ahead nonempty number takenLater
        (by omega)
      rcases handlePacket_unaffected_iff sound (fun _ => holdsPolled.inOrder) input.wr complete with
        ⟨_, handles, iff⟩
      rw [handleDatagram, decodes, handleDecoded, handles] at handled
      cases handled
      exact (iff.mpr harmless).of_same same

/-- The encoding of the packet with the number 0 and one byte. -/
def byteBytes : List Byte :=
  [0x40, 0, 0, 1, 0, 0, 0, 0, 0x71, 0xdf, 0x34, 0x34, 0, 0xd2, 0x02, 0xef, 0x8d]

theorem length_byteBytes : byteBytes.length ≤ maxPacketSize := by
  decide

def byteDecoded : Pkt :=
  { byteExample 0 with crc1 := 0x71df3434, crc2 := 0xd202ef8d }

/-- The packet has arrived once; the call of `write` for it has failed. -/
def acceptedExample : Receiver :=
  { start 0 with
    waitedSeqNum := 1
    ackQueue := .ofNodes [newAck ptypeAck 0 1 0]
    revents := ⟨true, false⟩
    received := [byteBytes]
    writes := [⟨byteDecoded, .failed⟩] }

theorem reachable_acceptedExample :
    Loop.Reachable (readWriteLoop Crc.zlib) (start 0) acceptedExample :=
  ⟨[readExample byteBytes length_byteBytes], by decide +kernel⟩

theorem duplicate_unaffected_example :
    ∃ flow, readWriteLoop Crc.zlib (readExample byteBytes length_byteBytes) acceptedExample =
      .ok flow ∧ Unaffected acceptedExample flow.state := by
  have decodes : pktDecode Crc.zlib true byteBytes pktNew = .ok byteDecoded := by
    decide +kernel
  refine duplicate_unaffected Loop.Reachable.refl reachable_acceptedExample rfl decodes
    (by decide) (by decide) (by decide) (by decide) ?_ _ rfl
  unfold ClosingQueued
  decide

/-- The packet with a payload which a datagram brings, if it is valid and not truncated. -/
def brought (crc32 : List Byte → BitVec 32) (data : List Byte) : Option Pkt :=
  match pktDecode crc32 true data pktNew with
  | .error _ => none
  | .ok pkt => if pkt.trFlag = 0 ∧ pkt.length ≠ 0 then some pkt else none

/-- The packets handed to `write`, in order, and behind them those which wait. -/
def kept (receiver : Receiver) : List Pkt :=
  receiver.writes.map Write.pkt ++ receiver.pktQueue.nodes

theorem SameProgress.kept {before after : Receiver} (same : SameProgress before after) :
    after.kept = before.kept := by
  rw [Receiver.kept, Receiver.kept, same.writes, same.pktQueue]

theorem insertion_perm {receiver : Receiver} (consistent : receiver.pktQueue.Consistent)
    {pkt : Pkt} {nodes : List Pkt} (inserted : receiver.insertion pkt = some nodes) :
    (pkt.trFlag = 0 ∧ pkt.length ≠ 0) ∧ nodes.Perm (pkt :: receiver.pktQueue.nodes) := by
  rw [insertion] at inserted
  split at inserted
  · rename_i guards
    refine ⟨⟨guards.1, guards.2.2⟩, ?_⟩
    have total := queueOrderedPush_total receiver.pktQueue.nodes pkt receiver.waitedSeqNum
      maxBufferSize
    rw [← consistent.eq_ofNodes] at total
    rcases total with ⟨left, right, split, pushes⟩ | ⟨_, pushes⟩
    · rw [pushes] at inserted
      cases inserted
      rw [split]
      exact List.perm_middle
    · rw [pushes] at inserted
      cases inserted
  · cases inserted

/-- Handling a datagram keeps what has been kept, and at most the packet which it brings. -/
theorem kept_handleDatagram {receiver after : Receiver} (sound : receiver.Sound crc32)
    {wr : ℕ → WriteOutcome} {data : List Byte}
    (handled : receiver.handleDatagram crc32 wr data = .ok after) :
    after.kept.Subperm (receiver.kept ++ (brought crc32 data).toList) := by
  rw [handleDatagram] at handled
  cases decodes : pktDecode crc32 true data pktNew with
  | error code =>
      rw [decodes, handleDecoded, queueAck_eq sound.ackQueue] at handled
      cases handled
      exact (List.sublist_append_left _ _).subperm
  | ok pkt =>
      rw [decodes, handleDecoded] at handled
      have accounted := handlePacket_accounted handled
      have all : after.kept = receiver.writes.map Write.pkt ++ receiver.available pkt := by
        rw [kept, accounted.writes, accounted.kept, List.map_append, List.append_assoc]
      rw [all, available]
      cases inserted : receiver.insertion pkt with
      | none => exact (List.sublist_append_left _ _).subperm
      | some nodes =>
          rcases insertion_perm sound.pktQueue inserted with ⟨guards, perm⟩
          rw [brought, decodes]
          simp only [if_pos guards, Option.toList_some, Option.getD_some, kept]
          apply List.Perm.subperm
          rw [List.append_assoc]
          exact (perm.trans (List.perm_append_singleton _ _).symm).append_left _

/-- The receiver has kept nothing but what the datagrams have brought. -/
structure Honest (crc32 : List Byte → BitVec 32) (receiver : Receiver) : Prop where
  follows : receiver.Follows crc32
  kept : receiver.kept.Subperm (receiver.received.filterMap (brought crc32))

theorem honest_start (tpGlobal : Time) : Honest crc32 (start tpGlobal) where
  follows := follows_start tpGlobal
  kept := List.Subperm.refl _

theorem readWriteLoop_honest {receiver : Receiver} (honest : Honest crc32 receiver)
    (input : ReceiverInput) :
    ∃ flow, readWriteLoop crc32 input receiver = .ok flow ∧ Honest crc32 flow.state := by
  rcases readWriteLoop_iteration honest.follows.sound input with ⟨flow, moves, iteration⟩
  refine ⟨flow, moves, follows_iteration honest.follows iteration, ?_⟩
  have before := honest.kept
  cases iteration with
  | idle _ _ same received =>
      rw [same.kept, received]
      exact before
  | read data fits polled after inputData nonempty sound same received handled =>
      rcases handleDecoded_answered sound input.wr (pktDecode crc32 true data pktNew) with
        ⟨_, handles, answered⟩
      have now := kept_handleDatagram sound handled
      rw [handleDatagram, handles] at handled
      cases handled
      rw [LoopFlow.state_running, answered.received, received, List.filterMap_append]
      rw [same.kept] at now
      have one : ([data].filterMap (brought crc32)) = (brought crc32 data).toList := by
        cases brings : brought crc32 data with
        | none => rw [List.filterMap_cons_none brings, List.filterMap_nil, Option.toList_none]
        | some pkt => rw [List.filterMap_cons_some brings, List.filterMap_nil, Option.toList_some]
      rw [one]
      exact now.trans (before.append (List.Subperm.refl _))

/--
Whatever arrives, each packet which has been handed to `write` or waits has come in a datagram of
its own. Until the receiver closes, the packets written are numbered from 0 on, modulo
256, and it waits for the number behind the last one.
-/
theorem run_integrity (tpGlobal : Time) (inputs : List ReceiverInput) :
    ∃ flow, Loop.run (readWriteLoop crc32) inputs (start tpGlobal) = .ok flow ∧
      flow.state.kept.Subperm (flow.state.received.filterMap (brought crc32)) ∧
      (¬flow.state.ClosingQueued →
        flow.state.writes.map (fun write => write.pkt.seqNum) =
          (List.range flow.state.writes.length).map (Serial.wire 8) ∧
        flow.state.waitedSeqNum = Serial.wire 8 flow.state.writes.length) := by
  rcases Loop.run_total readWriteLoop_honest inputs (honest_start tpGlobal) with
    ⟨flow, runs, honest⟩
  refine ⟨flow, runs, honest.kept, ?_⟩
  intro stillOpen
  have holds := (honest.follows.matches_open stillOpen).2
  rcases holds.numbered (orderly_referenceAfter _) with ⟨count, numbered⟩
  refine ⟨numbered, ?_⟩
  rw [holds.waitedSeqNum, count]

end Receiver

end ReliableTransfer
