import ReliableTransfer.Receiver.Refinement
import ReliableTransfer.Library.Crc
import Mathlib.Data.List.Nodup

/-!
# The order of arrival

Packets with distinct numbers inside the window can be handed to the receiver in
any order. The reference machine stores each of them at a position of its own,
and stores commute; deliveries can be postponed until the last packet has come.
An end packet beyond all others closes the transmission when the position it
announces is the first free one, and this does not depend on the order either.

What arrives after the closing acknowledgement has been queued is behind the
window, so that it is only acknowledged.
-/

namespace ReliableTransfer

open QueueReceiver

namespace Reference

variable (start : Reference)

/-- The position which a packet denotes in the window of a state. -/
def position (pkt : Pkt) : ℕ :=
  start.assembly.next + start.offset pkt

/-- The packets waiting in a state, and those which have arrived since. -/
def slotsAfter (arrived : List Pkt) : Slots Pkt :=
  arrived.foldl
    (fun slots pkt => if pkt.length = 0 then slots else slots.store (start.position pkt) pkt)
    start.assembly.slots

/-- The state of the reassembly after some packets, all deliveries being made at the end. -/
def assemblyAfter (arrived : List Pkt) : Reassembly Pkt :=
  .deliver start.assembly.next (start.slotsAfter arrived) start.assembly.delivered

/-- An end packet has arrived, and all packets before it. -/
def Ended (arrived : List Pkt) : Prop :=
  ∃ pkt ∈ arrived, pkt.length = 0 ∧ start.position pkt = (start.assemblyAfter arrived).next

/-- Complete packets in the window with distinct numbers, an end packet being the last of them. -/
structure Batch (pkts : List Pkt) : Prop where
  complete : ∀ pkt ∈ pkts, pkt.trFlag = 0
  inside : ∀ pkt ∈ pkts, start.offset pkt ≤ 30
  distinct : (pkts.map Pkt.seqNum).Nodup
  last : ∀ pkt ∈ pkts, pkt.length = 0 → ∀ other ∈ pkts, start.offset other ≤ start.offset pkt

variable {start}

theorem Batch.of_append {arrived rest : List Pkt} (batch : start.Batch (arrived ++ rest)) :
    start.Batch arrived where
  complete pkt present := batch.complete pkt (by simp [present])
  inside pkt present := batch.inside pkt (by simp [present])
  distinct := by
    have distinct := batch.distinct
    rw [List.map_append] at distinct
    exact List.Nodup.of_append_left distinct
  last pkt present empty other otherPresent :=
    batch.last pkt (by simp [present]) empty other (by simp [otherPresent])

theorem Batch.perm {left right : List Pkt} (batch : start.Batch left) (perm : left.Perm right) :
    start.Batch right where
  complete pkt present := batch.complete pkt (perm.mem_iff.mpr present)
  inside pkt present := batch.inside pkt (perm.mem_iff.mpr present)
  distinct := (perm.map Pkt.seqNum).nodup_iff.mp batch.distinct
  last pkt present empty other otherPresent :=
    batch.last pkt (perm.mem_iff.mpr present) empty other (perm.mem_iff.mpr otherPresent)

theorem offset_injective {left right : Pkt} (same : start.offset left = start.offset right) :
    left.seqNum = right.seqNum :=
  Serial.dist_injective _ same

theorem Batch.offset_ne {arrived : List Pkt} {pkt other : Pkt}
    (batch : start.Batch (arrived ++ [pkt])) (present : other ∈ arrived) :
    start.offset other ≠ start.offset pkt := by
  intro same
  have distinct := batch.distinct
  rw [List.map_append, List.nodup_append] at distinct
  exact distinct.2.2 other.seqNum (List.mem_map_of_mem present) pkt.seqNum (by simp)
    (offset_injective same)

theorem slotsAfter_append (arrived : List Pkt) (pkt : Pkt) :
    start.slotsAfter (arrived ++ [pkt]) =
      if pkt.length = 0 then start.slotsAfter arrived
      else (start.slotsAfter arrived).store (start.position pkt) pkt := by
  simp [slotsAfter]

theorem position_lt_of_get {arrived : List Pkt} (inside : ∀ pkt ∈ arrived, start.offset pkt ≤ 30) :
    ∀ position waiting, (start.slotsAfter arrived).get position = some waiting →
      position < start.assembly.next + 31 := by
  induction arrived using List.reverseRecOn with
  | nil => exact fun position waiting found => (start.numbered position waiting found).1
  | append_singleton arrived pkt ih =>
      have before := ih fun other present => inside other (by simp [present])
      have pktInside := inside pkt (by simp)
      intro position waiting found
      rw [slotsAfter_append] at found
      split at found
      · exact before position waiting found
      · by_cases here : position = start.position pkt
        · rw [here, Reference.position]
          omega
        · rw [Slots.get_store_of_ne here] at found
          exact before position waiting found

theorem next_le_assemblyAfter (start : Reference) (arrived : List Pkt) :
    start.assembly.next ≤ (start.assemblyAfter arrived).next :=
  Slots.le_firstFree _ _

theorem assemblyAfter_next_le {arrived : List Pkt}
    (inside : ∀ pkt ∈ arrived, start.offset pkt ≤ 30) :
    (start.assemblyAfter arrived).next ≤ start.assembly.next + 31 :=
  firstFree_le (position_lt_of_get inside)

theorem assemblyAfter_of_lt {arrived : List Pkt} {pkt : Pkt}
    (behind : start.position pkt < (start.assemblyAfter arrived).next) :
    start.assemblyAfter (arrived ++ [pkt]) = start.assemblyAfter arrived := by
  have unchanged : start.slotsAfter (arrived ++ [pkt]) = start.slotsAfter arrived := by
    rw [slotsAfter_append]
    split
    · rfl
    · apply Slots.store_eq_self
      exact Slots.taken_of_lt_firstFree (Nat.le_add_right _ _) behind
  rw [assemblyAfter, unchanged, assemblyAfter]

theorem assemblyAfter_of_empty {arrived : List Pkt} {pkt : Pkt} (empty : pkt.length = 0) :
    start.assemblyAfter (arrived ++ [pkt]) = start.assemblyAfter arrived := by
  rw [assemblyAfter, slotsAfter_append, if_pos empty, assemblyAfter]

theorem assemblyAfter_of_le {arrived : List Pkt} {pkt : Pkt} (nonempty : pkt.length ≠ 0)
    (ahead : (start.assemblyAfter arrived).next ≤ start.position pkt) :
    start.assemblyAfter (arrived ++ [pkt]) =
      (start.assemblyAfter arrived).put (start.position pkt) pkt := by
  rw [assemblyAfter, slotsAfter_append, if_neg nonempty]
  exact (Reassembly.deliver_put ahead).symm

theorem assemblyAfter_perm {left right : List Pkt} (batch : start.Batch left)
    (perm : left.Perm right) : start.assemblyAfter left = start.assemblyAfter right := by
  have commutes : start.slotsAfter left = start.slotsAfter right := by
    apply perm.foldl_eq'
    intro first firstIn second secondIn slots
    by_cases same : first = second
    · rw [same]
    · have apart : start.position first ≠ start.position second := by
        intro here
        apply same
        exact List.inj_on_of_nodup_map batch.distinct firstIn secondIn
          (offset_injective (Nat.add_left_cancel here))
      by_cases firstEmpty : first.length = 0
      · simp only [firstEmpty, if_true]
      · by_cases secondEmpty : second.length = 0
        · simp only [secondEmpty, if_true]
        · simp only [firstEmpty, secondEmpty, if_false]
          exact Slots.store_comm slots first second apart
  rw [assemblyAfter, commutes, assemblyAfter]

theorem ended_perm {left right : List Pkt} (batch : start.Batch left) (perm : left.Perm right) :
    start.Ended left ↔ start.Ended right := by
  simp only [Ended, assemblyAfter_perm batch perm, perm.mem_iff]

theorem offset_of_assemblyAfter {reference : Reference} {arrived : List Pkt} {pkt : Pkt}
    (assembly : reference.assembly = start.assemblyAfter arrived)
    (arrivedInside : ∀ other ∈ arrived, start.offset other ≤ 30) (inside : start.offset pkt ≤ 30) :
    reference.offset pkt =
      if (start.assemblyAfter arrived).next ≤ start.position pkt
        then start.position pkt - (start.assemblyAfter arrived).next
        else 256 - ((start.assemblyAfter arrived).next - start.position pkt) := by
  have lower := next_le_assemblyAfter start arrived
  have upper := assemblyAfter_next_le arrivedInside
  have position : start.position pkt = start.assembly.next + start.offset pkt := rfl
  have number : pkt.seqNum = Serial.wire 8 (start.position pkt) := start.seqNum_eq pkt
  rw [offset, assembly, number]
  split
  · exact Serial.dist_wire_of_le (by omega) (by omega)
  · exact Serial.dist_wire_of_lt (by omega) (by omega)

/-- A reference machine which has received a batch and has not closed. -/
structure Tracks (start : Reference) (arrived : List Pkt) (reference : Reference) : Prop where
  stillOpen : reference.closed = false
  assembly : reference.assembly = start.assemblyAfter arrived
  recorded : ∀ seqNum, reference.endNum = some seqNum →
    ∃ pkt ∈ arrived, pkt.length = 0 ∧ pkt.seqNum = seqNum
  announced : ∀ pkt ∈ arrived, pkt.length = 0 → reference.assembly.next ≤ start.position pkt →
    reference.endNum = some pkt.seqNum
  notEnded : ¬start.Ended arrived

structure ClosedOn (start : Reference) (arrived : List Pkt) (reference : Reference) : Prop where
  assembly : reference.assembly = start.assemblyAfter arrived
  ended : start.Ended arrived

theorem tracks_initial (stillOpen : start.closed = false) (noEnd : start.endNum = none) :
    Tracks start [] start where
  stillOpen := stillOpen
  assembly := (Reassembly.deliver_self start.assembly).symm
  recorded := by
    intro seqNum recorded
    rw [noEnd] at recorded
    cases recorded
  announced := by
    intro pkt present
    cases present
  notEnded := by
    rintro ⟨pkt, present, _⟩
    cases present

section Accept

variable {reference : Reference} {arrived : List Pkt} {pkt : Pkt}

theorem Tracks.behind (tracks : Tracks start arrived reference)
    (behind : start.position pkt < (start.assemblyAfter arrived).next) :
    Tracks start (arrived ++ [pkt]) reference.ack where
  stillOpen := tracks.stillOpen
  assembly := by
    rw [assemblyAfter_of_lt behind]
    exact tracks.assembly
  recorded := by
    intro seqNum recorded
    rcases tracks.recorded seqNum recorded with ⟨other, present, empty, number⟩
    exact ⟨other, by simp [present], empty, number⟩
  announced := by
    intro other present empty ahead
    rcases List.mem_append.mp present with earlier | isLast
    · exact tracks.announced other earlier empty ahead
    · rw [List.mem_singleton.mp isLast] at ahead
      have same : reference.assembly.next ≤ start.position pkt := ahead
      rw [tracks.assembly] at same
      omega
  notEnded := by
    rintro ⟨other, present, empty, here⟩
    rw [assemblyAfter_of_lt behind] at here
    rcases List.mem_append.mp present with earlier | isLast
    · exact tracks.notEnded ⟨other, earlier, empty, here⟩
    · rw [List.mem_singleton.mp isLast] at here
      omega

theorem Batch.not_empty_before (batch : start.Batch (arrived ++ [pkt])) (empty : pkt.length = 0) :
    ∀ other ∈ arrived, other.length ≠ 0 := by
  intro other present otherEmpty
  have least := batch.last pkt (by simp) empty other (by simp [present])
  have most := batch.last other (by simp [present]) otherEmpty pkt (by simp)
  exact batch.offset_ne present (le_antisymm least most)

theorem Tracks.recordEnd (tracks : Tracks start arrived reference)
    (batch : start.Batch (arrived ++ [pkt])) (empty : pkt.length = 0)
    (ahead : (start.assemblyAfter arrived).next < start.position pkt) :
    Tracks start (arrived ++ [pkt]) ({ reference with endNum := some pkt.seqNum }.ack) where
  stillOpen := tracks.stillOpen
  assembly := by
    rw [assemblyAfter_of_empty empty]
    exact tracks.assembly
  recorded := by
    intro seqNum recorded
    exact ⟨pkt, by simp, empty, Option.some.inj recorded⟩
  announced := by
    intro other present otherEmpty _
    rcases List.mem_append.mp present with earlier | isLast
    · exact absurd otherEmpty (batch.not_empty_before empty other earlier)
    · rw [List.mem_singleton.mp isLast]
      rfl
  notEnded := by
    rintro ⟨other, present, otherEmpty, here⟩
    rw [assemblyAfter_of_empty empty] at here
    rcases List.mem_append.mp present with earlier | isLast
    · exact batch.not_empty_before empty other earlier otherEmpty
    · rw [List.mem_singleton.mp isLast] at here
      omega

theorem Tracks.endNum_eq_iff (tracks : Tracks start arrived reference)
    (batch : start.Batch (arrived ++ [pkt])) (nonempty : pkt.length ≠ 0)
    (ahead : (start.assemblyAfter arrived).next ≤ start.position pkt) :
    reference.endNum =
        some (Serial.wire 8 (start.assemblyAfter (arrived ++ [pkt])).next) ↔
      start.Ended (arrived ++ [pkt]) := by
  have lower := next_le_assemblyAfter start (arrived ++ [pkt])
  have upper := assemblyAfter_next_le batch.inside
  have grown : (start.assemblyAfter arrived).next ≤
      (start.assemblyAfter (arrived ++ [pkt])).next := by
    rw [assemblyAfter_of_le nonempty ahead]
    exact Reassembly.next_le_put _ _ _
  constructor
  · intro reached
    rcases tracks.recorded _ reached with ⟨other, present, empty, number⟩
    have inside := batch.inside other (by simp [present])
    have position : start.position other = start.assembly.next + start.offset other := rfl
    refine ⟨other, by simp [present], empty, ?_⟩
    rw [start.seqNum_eq other] at number
    exact (Serial.wire_inj (by omega) (by omega)).mp number
  · rintro ⟨other, present, empty, here⟩
    rcases List.mem_append.mp present with earlier | isLast
    · have number : other.seqNum = Serial.wire 8 (start.position other) := start.seqNum_eq other
      rw [tracks.announced other earlier empty (by rw [tracks.assembly, here]; exact grown),
        number, here]
    · rw [List.mem_singleton.mp isLast] at empty
      exact absurd empty nonempty

theorem Tracks.storeData (tracks : Tracks start arrived reference)
    (nonempty : pkt.length ≠ 0) (inside : reference.offset pkt ≤ 30)
    (here : reference.assembly.next + reference.offset pkt = start.position pkt)
    (ahead : (start.assemblyAfter arrived).next ≤ start.position pkt)
    (notEnded : ¬start.Ended (arrived ++ [pkt])) :
    Tracks start (arrived ++ [pkt]) (reference.store pkt inside).ack where
  stillOpen := tracks.stillOpen
  assembly := by
    rw [assemblyAfter_of_le nonempty ahead, ← tracks.assembly, ← here]
    rfl
  recorded := by
    intro seqNum recorded
    rcases tracks.recorded seqNum recorded with ⟨other, present, empty, number⟩
    exact ⟨other, by simp [present], empty, number⟩
  announced := by
    intro other present empty otherAhead
    rcases List.mem_append.mp present with earlier | isLast
    · have grown : reference.assembly.next ≤ (reference.store pkt inside).assembly.next :=
        Reassembly.next_le_put _ _ _
      exact tracks.announced other earlier empty (grown.trans otherAhead)
    · rw [List.mem_singleton.mp isLast] at empty
      exact absurd empty nonempty
  notEnded := notEnded

/-- One more packet of the batch: the machine goes on, or it closes with the batch at its end. -/
theorem Tracks.accept (tracks : Tracks start arrived reference)
    (batch : start.Batch (arrived ++ [pkt])) :
    Tracks start (arrived ++ [pkt]) (reference.accept pkt) ∨
      (reference.accept pkt).closed = true ∧
        ClosedOn start (arrived ++ [pkt]) (reference.accept pkt) := by
  have pktInside := batch.inside pkt (by simp)
  have arrivedInside := batch.of_append.inside
  have lower := next_le_assemblyAfter start arrived
  have upper := assemblyAfter_next_le arrivedInside
  have position : start.position pkt = start.assembly.next + start.offset pkt := rfl
  have distance := offset_of_assemblyAfter tracks.assembly arrivedInside pktInside
  have flag : ¬pkt.trFlag = 1 := by simp [batch.complete pkt (by simp)]
  rw [Reference.accept, if_neg flag]
  rcases Nat.lt_or_ge (start.position pkt) (start.assemblyAfter arrived).next with behind | ahead
  · rw [if_neg (by omega)] at distance
    rw [dif_neg (by omega)]
    exact .inl (tracks.behind behind)
  · rw [if_pos ahead] at distance
    have inside : reference.offset pkt ≤ 30 := by omega
    have here : reference.assembly.next + reference.offset pkt = start.position pkt := by
      rw [tracks.assembly]
      omega
    rw [dif_pos inside]
    by_cases empty : pkt.length = 0
    · rw [if_pos empty]
      by_cases atNext : reference.offset pkt = 0
      · rw [if_pos atNext]
        refine .inr ⟨rfl, ?_, pkt, by simp, empty, ?_⟩
        · rw [assemblyAfter_of_empty empty]
          exact tracks.assembly
        · rw [assemblyAfter_of_empty empty]
          omega
      · rw [if_neg atNext]
        exact .inl (tracks.recordEnd batch empty (by omega))
    · rw [if_neg empty]
      have assembly : (reference.store pkt inside).assembly =
          start.assemblyAfter (arrived ++ [pkt]) := by
        rw [assemblyAfter_of_le empty ahead, ← tracks.assembly, ← here]
        rfl
      have closes : (reference.store pkt inside).endNum =
          some (Serial.wire 8 (reference.store pkt inside).assembly.next) ↔
            start.Ended (arrived ++ [pkt]) := by
        rw [assembly]
        exact tracks.endNum_eq_iff batch empty ahead
      by_cases ended : start.Ended (arrived ++ [pkt])
      · simp only
        rw [if_pos (closes.mpr ended)]
        exact .inr ⟨rfl, assembly, ended⟩
      · simp only
        rw [if_neg (mt closes.mp ended)]
        exact .inl (tracks.storeData empty inside here ahead ended)

end Accept

end Reference

namespace Receiver

open Reference

/-- What the receiver has made of a batch. -/
structure Outcome (start : Reference) (arrived : List Pkt) (receiver : Receiver) : Prop where
  going : ¬start.Ended arrived →
    receiver.waitedSeqNum = Serial.wire 8 (start.assemblyAfter arrived).next
  ended : start.Ended arrived →
    receiver.waitedSeqNum = Serial.wire 8 ((start.assemblyAfter arrived).next + 1)
  pktQueue : receiver.pktQueue = .ofNodes ((start.assemblyAfter arrived).slots.segment
    (start.assemblyAfter arrived).next ((start.assemblyAfter arrived).next + 31))
  delivered : receiver.writes.map Write.pkt = (start.assemblyAfter arrived).delivered
  closing : receiver.ClosingQueued ↔ start.Ended arrived

/-- The outcome, and the reference machine which the receiver follows until it has closed. -/
structure Progress (crc32 : List Byte → BitVec 32) (wr : ℕ → WriteOutcome) (start : Reference)
    (before : Receiver) (arrived : List Pkt) (receiver : Receiver) : Prop
    extends Outcome start arrived receiver where
  sound : receiver.Sound crc32
  writes : ∃ run, receiver.writes = before.writes ++ writesOf wr
    before.writes.length run
  follows : ¬start.Ended arrived →
    ∃ reference, Tracks start arrived reference ∧ Matches reference receiver

variable {crc32 : List Byte → BitVec 32} {wr : ℕ → WriteOutcome} {start : Reference}
  {before receiver : Receiver} {arrived : List Pkt} {pkt : Pkt}

theorem Answered.writes_trans {middle after : Receiver}
    (first : ∃ run, middle.writes = before.writes ++
      writesOf wr before.writes.length run)
    (answered : Answered crc32 wr middle after) :
    ∃ run, after.writes = before.writes ++ writesOf wr before.writes.length run := by
  rcases first with ⟨earlier, first⟩
  rcases answered.writes with ⟨later, second⟩
  refine ⟨earlier ++ later, ?_⟩
  rw [second, first, writesOf_append, List.append_assoc, List.length_append, length_writesOf]

/-- After the end, what arrives is behind the window and only acknowledged. -/
theorem Progress.after_end (progress : Progress crc32 wr start before arrived receiver)
    (batch : start.Batch (arrived ++ [pkt])) (ended : start.Ended arrived) :
    ∃ after, receiver.handlePacket wr pkt = .ok after ∧
      Progress crc32 wr start before (arrived ++ [pkt]) after := by
  rcases handlePacket_answered progress.sound wr pkt with ⟨after, handled, answered⟩
  refine ⟨after, handled, ?_⟩
  rcases ended with ⟨final, present, empty, here⟩
  have endedBefore : start.Ended arrived := ⟨final, present, empty, here⟩
  have last := batch.last final (by simp [present]) empty pkt (by simp)
  have apart := batch.offset_ne present
  have finalInside := batch.inside final (by simp [present])
  have position : start.position pkt = start.assembly.next + start.offset pkt := rfl
  have finalPosition : start.position final = start.assembly.next + start.offset final := rfl
  have behind : start.position pkt < (start.assemblyAfter arrived).next := by omega
  have unchanged := assemblyAfter_of_lt behind
  have endedAfter : start.Ended (arrived ++ [pkt]) :=
    ⟨final, by simp [present], empty, by rw [unchanged, here]⟩
  have number : pkt.seqNum = Serial.wire 8 (start.position pkt) := start.seqNum_eq pkt
  have outside : ¬receiver.inWindow pkt := by
    rw [inWindow_iff, progress.ended endedBefore, number,
      Serial.dist_wire_of_lt (by omega) (by omega)]
    omega
  have flag : ¬pkt.trFlag = 1 := by simp [batch.complete pkt (by simp)]
  rw [handlePacket, if_neg flag, if_neg outside, queueAck_eq progress.sound.ackQueue] at handled
  cases handled
  refine ⟨⟨fun notEnded => absurd endedAfter notEnded, ?_, ?_, ?_, ?_⟩, answered.sound,
    answered.writes_trans progress.writes, fun notEnded => absurd endedAfter notEnded⟩
  · rw [unchanged]
    exact fun _ => progress.ended endedBefore
  · rw [unchanged]
    exact progress.pktQueue
  · rw [unchanged]
    exact progress.delivered
  · rw [closingQueued_append (receiver.queued_afterAck _)]
    exact iff_of_true (.inl (progress.closing.mpr endedBefore)) endedAfter

/-- Before the end, the receiver handles a packet of the batch as the reference machine does. -/
theorem Progress.before_end (progress : Progress crc32 wr start before arrived receiver)
    (batch : start.Batch (arrived ++ [pkt])) (notEnded : ¬start.Ended arrived) :
    ∃ after, receiver.handlePacket wr pkt = .ok after ∧
      Progress crc32 wr start before (arrived ++ [pkt]) after := by
  rcases handlePacket_answered progress.sound wr pkt with ⟨after, handled, answered⟩
  refine ⟨after, handled, ?_⟩
  rcases progress.follows notEnded with ⟨reference, tracks, holds⟩
  rcases handleDecoded_lockstep progress.sound.ackQueue holds tracks.stillOpen wr (.ok pkt) with
    ⟨same, handles, lockstep⟩
  rw [handleDecoded, handled] at handles
  cases handles
  have notClosing : ¬receiver.ClosingQueued := by rwa [progress.closing]
  have step := tracks.accept batch
  rw [Reference.receive_ok tracks.stillOpen] at lockstep
  cases lockstep with
  | truncated other decodes flag unchanged =>
      cases decodes
      rw [batch.complete pkt (by simp)] at flag
      cases flag
  | acknowledged middle timestamp stillOpen acks matchesNext ackQueue sent =>
      have tracksNext : Tracks start (arrived ++ [pkt]) (reference.accept pkt) := by
        rcases step with tracksNext | ⟨closed, _⟩
        · exact tracksNext
        · rw [stillOpen] at closed
          cases closed
      have queued := middle.queued_afterAck (newAck ptypeAck 0 middle.waitedSeqNum timestamp)
      rw [queued_congr ackQueue sent] at queued
      refine ⟨⟨fun _ => ?_, fun ended => absurd ended tracksNext.notEnded, ?_, ?_, ?_⟩,
        answered.sound, answered.writes_trans progress.writes, fun _ => ⟨_, tracksNext,
          matchesNext.waitedSeqNum, matchesNext.pktQueue, matchesNext.isFinalSeqNum,
          matchesNext.finalSeqNum, matchesNext.delivered⟩⟩
      · rw [← tracksNext.assembly]
        exact matchesNext.waitedSeqNum
      · rw [← tracksNext.assembly]
        exact matchesNext.pktQueue
      · rw [← tracksNext.assembly]
        exact matchesNext.delivered
      · rw [closingQueued_append queued]
        simp [notClosing, tracksNext.notEnded, newAck]
  | closes middle timestamp closed announced matchesNext ackQueue sent =>
      have closedOn : ClosedOn start (arrived ++ [pkt]) (reference.accept pkt) := by
        rcases step with tracksNext | ⟨_, closedOn⟩
        · rw [tracksNext.stillOpen] at closed
          cases closed
        · exact closedOn
      refine ⟨⟨fun notEnded => absurd closedOn.ended notEnded, fun _ => ?_, ?_, ?_, ?_⟩,
        answered.sound, answered.writes_trans progress.writes,
        fun notEnded => absurd closedOn.ended notEnded⟩
      · rw [← closedOn.assembly, Serial.wire_add, ← matchesNext.waitedSeqNum]
        rfl
      · rw [← closedOn.assembly]
        exact matchesNext.pktQueue
      · rw [← closedOn.assembly]
        exact matchesNext.delivered
      · rw [afterClosing, closingQueued_append (queued_afterAck _ _)]
        exact iff_of_true (.inr rfl) closedOn.ended

theorem Progress.run (progress : Progress crc32 wr start before arrived receiver)
    {rest : List Pkt} (batch : start.Batch (arrived ++ rest)) :
    ∃ after, rest.foldlM (handlePacket wr) receiver = .ok after ∧
      Progress crc32 wr start before (arrived ++ rest) after := by
  induction rest generalizing arrived receiver with
  | nil =>
      rw [List.append_nil]
      exact ⟨receiver, rfl, progress⟩
  | cons pkt rest ih =>
      have regroup : arrived ++ pkt :: rest = arrived ++ [pkt] ++ rest := by simp
      rw [regroup] at batch ⊢
      have step : ∃ after, receiver.handlePacket wr pkt = .ok after ∧
          Progress crc32 wr start before (arrived ++ [pkt]) after := by
        by_cases ended : start.Ended arrived
        · exact progress.after_end batch.of_append ended
        · exact progress.before_end batch.of_append ended
      rcases step with ⟨middle, handled, progressNext⟩
      rcases ih progressNext batch with ⟨after, runs, progressLast⟩
      refine ⟨after, ?_, progressLast⟩
      simp only [List.foldlM_cons, handled, bind, Except.bind]
      exact runs

theorem progress_initial (holds : Matches start before) (sound : before.Sound crc32)
    (stillOpen : start.closed = false) (noEnd : start.endNum = none)
    (notClosing : ¬before.ClosingQueued) : Progress crc32 wr start before [] before := by
  have tracks := tracks_initial stillOpen noEnd
  refine ⟨⟨fun _ => ?_, fun ended => absurd ended tracks.notEnded, ?_, ?_, ?_⟩, sound,
    ⟨[], by simp [writesOf]⟩, fun _ => ⟨start, tracks, holds⟩⟩
  · rw [← tracks.assembly]
    exact holds.waitedSeqNum
  · rw [← tracks.assembly]
    exact holds.pktQueue
  · rw [← tracks.assembly]
    exact holds.delivered
  · exact iff_of_false notClosing tracks.notEnded

theorem Progress.perm {left right : List Pkt} {leftEnd rightEnd : Receiver}
    (leftProgress : Progress crc32 wr start before left leftEnd)
    (rightProgress : Progress crc32 wr start before right rightEnd) (batch : start.Batch left)
    (perm : left.Perm right) :
    leftEnd.waitedSeqNum = rightEnd.waitedSeqNum ∧ leftEnd.writes = rightEnd.writes ∧
      leftEnd.pktQueue = rightEnd.pktQueue ∧
      (leftEnd.ClosingQueued ↔ rightEnd.ClosingQueued) := by
  have assembly := assemblyAfter_perm batch perm
  have ended := ended_perm batch perm
  refine ⟨?_, ?_, ?_, ?_⟩
  · by_cases closed : start.Ended left
    · rw [leftProgress.ended closed, rightProgress.ended (ended.mp closed), assembly]
    · rw [leftProgress.going closed, rightProgress.going (mt ended.mpr closed), assembly]
  · rcases leftProgress.writes with ⟨leftRun, leftWrites⟩
    rcases rightProgress.writes with ⟨rightRun, rightWrites⟩
    have delivered := leftProgress.delivered
    rw [assembly, ← rightProgress.delivered, leftWrites, rightWrites, List.map_append,
      List.map_append, map_pkt_writesOf, map_pkt_writesOf, List.append_cancel_left_eq] at delivered
    rw [leftWrites, rightWrites, delivered]
  · rw [leftProgress.pktQueue, rightProgress.pktQueue, assembly]
  · rw [leftProgress.closing, rightProgress.closing, ended]

theorem follows_of_reachable {tpGlobal : Time}
    (reachable : Loop.Reachable (readWriteLoop crc32) (Receiver.start tpGlobal) receiver) :
    receiver.Follows crc32 := by
  apply Loop.Reachable.invariant (follows_start tpGlobal) _ reachable
  intro input state next follows moved
  rcases readWriteLoop_follows follows input with ⟨flow, flows, kept⟩
  rw [moved] at flows
  cases flows
  exact kept

variable (crc32)

/--
Packets of one window are handled with the same result in any order, wherever
the packets lie which wait already. An end packet must be the last of them.
-/
theorem handlePacket_arrivalOrder {tpGlobal : Time}
    (reachable : Loop.Reachable (readWriteLoop crc32) (Receiver.start tpGlobal) receiver)
    (noEnd : receiver.isFinalSeqNum = false) (wr : ℕ → WriteOutcome) {left right : List Pkt}
    (complete : ∀ pkt ∈ left, pkt.trFlag = 0) (inside : ∀ pkt ∈ left, receiver.inWindow pkt)
    (distinct : (left.map Pkt.seqNum).Nodup)
    (last : ∀ pkt ∈ left, pkt.length = 0 → ∀ other ∈ left,
      Serial.dist receiver.waitedSeqNum other.seqNum ≤
        Serial.dist receiver.waitedSeqNum pkt.seqNum)
    (perm : left.Perm right) :
    ∃ leftEnd rightEnd, left.foldlM (handlePacket wr) receiver = .ok leftEnd ∧
      right.foldlM (handlePacket wr) receiver = .ok rightEnd ∧
      leftEnd.waitedSeqNum = rightEnd.waitedSeqNum ∧ leftEnd.written = rightEnd.written ∧
      leftEnd.pktQueue = rightEnd.pktQueue ∧
      (leftEnd.ClosingQueued ↔ rightEnd.ClosingQueued) := by
  have follows := follows_of_reachable reachable
  have stillOpen : (referenceAfter crc32 receiver.received).closed = false := by
    rw [Bool.eq_false_iff]
    intro closed
    rw [follows.announced closed] at noEnd
    cases noEnd
  have image := follows.image stillOpen
  have notAnnounced : (referenceAfter crc32 receiver.received).endNum = none := by
    rw [← Option.not_isSome_iff_eq_none, ← image.isFinalSeqNum, noEnd]
    simp
  have batch : (referenceAfter crc32 receiver.received).Batch left := by
    refine ⟨complete, fun pkt present => (image.inWindow_iff pkt).mp (inside pkt present),
      distinct, ?_⟩
    intro pkt present empty other otherPresent
    have farthest := last pkt present empty other otherPresent
    rw [image.waitedSeqNum] at farthest
    exact farthest
  have initial : Progress crc32 wr (referenceAfter crc32 receiver.received) receiver [] receiver :=
    progress_initial image.toMatches follows.sound stillOpen notAnnounced (by
      rw [follows.closes, stillOpen]
      simp)
  rcases initial.run batch with ⟨leftEnd, leftRuns, leftProgress⟩
  rcases initial.run (batch.perm perm) with ⟨rightEnd, rightRuns, rightProgress⟩
  rcases leftProgress.perm rightProgress batch perm with ⟨waitedSeqNum, writes, pktQueue, closing⟩
  refine ⟨leftEnd, rightEnd, leftRuns, rightRuns, waitedSeqNum, ?_, pktQueue, closing⟩
  rw [written, writes, written]

theorem handlePacket_arrivalOrder_example :
    ∃ leftEnd rightEnd,
      [byteExample 0, byteExample 1, endExample 2].foldlM (handlePacket fun _ => .wrote 1)
        (Receiver.start 0) = .ok leftEnd ∧
      [endExample 2, byteExample 1, byteExample 0].foldlM (handlePacket fun _ => .wrote 1)
        (Receiver.start 0) = .ok rightEnd ∧
      leftEnd.waitedSeqNum = rightEnd.waitedSeqNum ∧ leftEnd.written = rightEnd.written ∧
      leftEnd.pktQueue = rightEnd.pktQueue ∧
      (leftEnd.ClosingQueued ↔ rightEnd.ClosingQueued) :=
  handlePacket_arrivalOrder Crc.zlib Loop.Reachable.refl rfl (fun _ => .wrote 1)
    (by decide) (by decide) (by decide) (by decide) (by decide)

end Receiver

end ReliableTransfer
