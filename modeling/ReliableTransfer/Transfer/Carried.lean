import ReliableTransfer.Transfer.Basic
import ReliableTransfer.Receiver.Steps
import ReliableTransfer.Library.Reassembly

/-!
# What the datagrams carry

A packet carries a position of the input (`Carries`) when it has the number and
the payload of that position. The window, the timestamp and the checksums do not
matter, so a packet still carries its position after it has been sent again,
marked by a `NACK`, or decoded by the receiver. An acknowledgement is for a position
(`AckFor`): an `ACK` for the next one which the receiver waits for, and a `NACK`
for the one whose packet has been truncated.
-/

namespace ReliableTransfer

open QueueSender

/-- The packet is the one which the sender makes for a position. -/
structure Carries (file : InputFile) (position : ℕ) (pkt : Pkt) : Prop where
  type : pkt.type = ptypeData
  trFlag : pkt.trFlag = 0
  seqNum : pkt.seqNum = Serial.wire 8 position
  length : pkt.length.toNat = (file.chunk position).length
  payload : pkt.payload = if position < file.last then some (file.chunk position) else none

namespace Carries

variable {file : InputFile} {position : ℕ} {pkt : Pkt}

theorem length_eq_zero_iff (carries : Carries file position pkt) :
    pkt.length = 0 ↔ file.last ≤ position := by
  rw [← file.chunk_eq_nil_iff, ← List.length_eq_zero_iff, ← carries.length]
  exact BitVec.toNat_inj.symm

theorem wellFormed (carries : Carries file position pkt) : pkt.WellFormed where
  type := by
    rw [carries.type]
    decide
  trFlag := carries.trFlag
  short := by
    rw [carries.length]
    exact file.length_chunk_le position
  payload := by
    rw [carries.payload]
    split
    · rename_i empty
      exact if_neg (Nat.not_lt.mpr (carries.length_eq_zero_iff.mp empty))
    · rename_i nonempty
      have inside := Nat.lt_of_not_le (mt carries.length_eq_zero_iff.mpr nonempty)
      exact ⟨file.chunk position, if_pos inside, carries.length.symm⟩

theorem wirePayload (carries : Carries file position pkt) :
    pkt.wirePayload = file.chunk position := by
  rw [Pkt.wirePayload, carries.payload, carries.length]
  split
  · exact List.take_length
  · rename_i outside
    rw [InputFile.chunk_of_le (Nat.le_of_not_lt outside)]
    rfl

theorem withCrcs (carries : Carries file position pkt) (crc32 : List Byte → BitVec 32) :
    Carries file position (pkt.withCrcs crc32) :=
  ⟨carries.type, carries.trFlag, carries.seqNum, carries.length, carries.payload⟩

theorem withTimestamp (carries : Carries file position pkt) (timestamp : BitVec 32) :
    Carries file position { pkt with timestamp := timestamp } :=
  ⟨carries.type, carries.trFlag, carries.seqNum, carries.length, carries.payload⟩

end Carries

/-- The bytes are those of a packet which carries the position. -/
def IsCopy (crc32 : List Byte → BitVec 32) (file : InputFile) (position : ℕ)
    (data : List Byte) : Prop :=
  ∃ pkt, Carries file position pkt ∧ data = pkt.wireBytes crc32

namespace IsCopy

variable {crc32 : List Byte → BitVec 32} {file : InputFile} {position : ℕ} {data : List Byte}

theorem decodes (copy : IsCopy crc32 file position data) :
    ∃ pkt, pktDecode crc32 true data pktNew = .ok pkt ∧ Carries file position pkt := by
  rcases copy with ⟨pkt, carries, rfl⟩
  exact ⟨pkt.received crc32, pktDecode_wireBytes crc32 carries.wellFormed,
    carries.type, carries.trFlag, carries.seqNum, carries.length, carries.payload⟩

theorem decodes_truncate (copy : IsCopy crc32 file position data) :
    ∃ pkt, pktDecode crc32 true (truncate data) pktNew = .ok pkt ∧ pkt.trFlag = 1 ∧
      pkt.seqNum = Serial.wire 8 position := by
  rcases copy with ⟨pkt, carries, rfl⟩
  exact ⟨_, pktDecode_truncate crc32 carries.type carries.wellFormed.short, rfl, carries.seqNum⟩

theorem getD_one (copy : IsCopy crc32 file position data) :
    data.getD 1 0 = Serial.wire 8 position := by
  rcases copy with ⟨pkt, carries, rfl⟩
  rw [← carries.seqNum]
  rfl

end IsCopy

/-- The packets carry consecutive positions from a start on. -/
def Carried (file : InputFile) : ℕ → List Pkt → Prop
  | _, [] => True
  | position, pkt :: rest => Carries file position pkt ∧ Carried file (position + 1) rest

namespace Carried

variable {file : InputFile}

theorem append_iff {position : ℕ} {front back : List Pkt} :
    Carried file position (front ++ back) ↔
      Carried file position front ∧ Carried file (position + front.length) back := by
  induction front generalizing position with
  | nil => simp [Carried]
  | cons pkt rest ih =>
      rw [List.cons_append, Carried, Carried, ih, and_assoc, List.length_cons,
        show position + 1 + rest.length = position + (rest.length + 1) by omega]

theorem getElem? {position index : ℕ} {nodes : List Pkt} (carried : Carried file position nodes)
    (inside : index < nodes.length) :
    ∃ pkt, nodes[index]? = some pkt ∧ Carries file (position + index) pkt := by
  induction nodes generalizing position index with
  | nil => cases inside
  | cons pkt rest ih =>
      cases index with
      | zero => exact ⟨pkt, rfl, carried.1⟩
      | succ index =>
          rcases ih carried.2 (Nat.lt_of_succ_lt_succ inside) with ⟨other, found, carries⟩
          refine ⟨other, found, ?_⟩
          rwa [show position + (index + 1) = position + 1 + index by omega]

theorem mem {position : ℕ} {nodes : List Pkt} (carried : Carried file position nodes) {pkt : Pkt}
    (present : pkt ∈ nodes) :
    ∃ index, index < nodes.length ∧ Carries file (position + index) pkt := by
  rcases List.mem_iff_getElem.mp present with ⟨index, inside, same⟩
  rcases carried.getElem? inside with ⟨other, found, carries⟩
  rw [List.getElem?_eq_getElem inside, same] at found
  cases found
  exact ⟨index, inside, carries⟩

theorem markNodes {position : ℕ} {nodes : List Pkt} (carried : Carried file position nodes)
    (seqNum : BitVec 8) : Carried file position (markNodes seqNum nodes) := by
  induction nodes generalizing position with
  | nil => exact trivial
  | cons pkt rest ih =>
      rw [QueueSender.markNodes]
      split
      · exact ⟨carried.1.withTimestamp 0, carried.2⟩
      · exact ⟨carried.1, ih carried.2⟩

theorem remaining {position target : ℕ} {nodes : List Pkt} (carried : Carried file position nodes)
    (ahead : position ≤ target) (inside : target < position + nodes.length)
    (few : nodes.length < 256) :
    remaining (Serial.wire 8 target) nodes = nodes.drop (target + 1 - position) := by
  induction nodes generalizing position with
  | nil => simp at inside; omega
  | cons pkt rest ih =>
      rw [List.length_cons] at inside few
      rw [QueueSender.remaining, carried.1.seqNum]
      by_cases here : position = target
      · rw [if_pos (by rw [here]), here, Nat.add_sub_cancel_left]
        rfl
      · rw [if_neg (mt (Serial.wire_inj (by omega) (by omega)).mp here),
          ih carried.2 (by omega) (by omega) (by omega),
          show target + 1 - position = target + 1 - (position + 1) + 1 by omega]
        rfl

theorem drop {position count : ℕ} {nodes : List Pkt} (carried : Carried file position nodes)
    (inside : count ≤ nodes.length) : Carried file (position + count) (nodes.drop count) := by
  rw [← List.take_append_drop count nodes, append_iff, List.length_take,
    Nat.min_eq_left inside] at carried
  exact carried.2

theorem payloads {position : ℕ} {nodes : List Pkt} (carried : Carried file position nodes)
    (inside : position + nodes.length ≤ file.last) :
    nodes.map Pkt.wirePayload = (file.chunks.drop position).take nodes.length := by
  induction nodes generalizing position with
  | nil => rfl
  | cons pkt rest ih =>
      rw [List.length_cons] at inside
      have here : position < file.chunks.length := by
        rw [InputFile.last] at inside
        omega
      rw [List.map_cons, ih carried.2 (by omega), carried.1.wirePayload,
        InputFile.chunk_of_lt here, List.length_cons, List.drop_eq_getElem_cons here,
        List.take_succ_cons]

theorem segment {slots : Slots Pkt} {start stop : ℕ}
    (waiting : ∀ position pkt, slots.get position = some pkt → Carries file position pkt)
    (ahead : start ≤ stop)
    (taken : ∀ position, start ≤ position → position < stop → slots.get position ≠ none) :
    Carried file start (slots.segment start stop) := by
  obtain ⟨count, rfl⟩ := Nat.exists_eq_add_of_le ahead
  induction count generalizing start with
  | zero =>
      rw [Nat.add_zero, Slots.segment_self]
      exact trivial
  | succ count ih =>
      cases found : slots.get start with
      | none => exact absurd found (taken start le_rfl (by omega))
      | some pkt =>
          have next : start + (count + 1) = start + 1 + count := by omega
          rw [Slots.segment_eq_cons (by omega) found, next]
          refine ⟨waiting start pkt found, ih (Nat.le_add_right _ _) ?_⟩
          intro position above below
          exact taken position (by omega) (by omega)

end Carried

/-- An acknowledgement for a position, queued before the counters have come to these values. -/
inductive AckFor (waited next position : ℕ) : Pkt → Prop where
  | ack (trFlag : BitVec 1) (timestamp : BitVec 32) (delivered : position ≤ waited) :
      AckFor waited next position
        (Receiver.newAck ptypeAck trFlag (Serial.wire 8 position) timestamp)
  | nack (timestamp : BitVec 32) (sent : position < next) :
      AckFor waited next position
        (Receiver.newAck ptypeNack 0 (Serial.wire 8 position) timestamp)

namespace AckFor

variable {waited next position : ℕ} {ack : Pkt}

theorem mono {later further : ℕ} (isAck : AckFor waited next position ack)
    (waitedLe : waited ≤ later) (nextLe : next ≤ further) : AckFor later further position ack := by
  cases isAck with
  | ack trFlag timestamp delivered => exact .ack trFlag timestamp (delivered.trans waitedLe)
  | nack timestamp sent => exact .nack timestamp (sent.trans_le nextLe)

theorem length_ackBytes (isAck : AckFor waited next position ack)
    (crc32 : List Byte → BitVec 32) : (Receiver.ackBytes crc32 ack).length = ackSize := by
  have empty : (Receiver.clearMark ack).length = 0 := by
    cases isAck with
    | ack => rfl
    | nack => rfl
  rw [Receiver.ackBytes, Pkt.length_wireBytes crc32 (.inl empty), Pkt.wireSize, if_pos empty,
    ackSize]

theorem decodes (isAck : AckFor waited next position ack) (crc32 : List Byte → BitVec 32) :
    ∃ pktAck, pktDecode crc32 true (Receiver.ackBytes crc32 ack) pktNew = .ok pktAck ∧
      pktAck.window = 31 ∧ pktAck.seqNum = Serial.wire 8 position ∧
      (pktAck.type = ptypeAck ∧ position ≤ waited ∨ pktAck.type = ptypeNack ∧ position < next) := by
  refine ⟨(Receiver.clearMark ack).received crc32, pktDecode_wireBytes crc32 ?_, ?_⟩
  · cases isAck with
    | ack => exact ⟨ptypeAck_ne_zero, rfl, Nat.zero_le _, rfl⟩
    | nack => exact ⟨ptypeNack_ne_zero, rfl, Nat.zero_le _, rfl⟩
  · cases isAck with
    | ack _ _ delivered => exact ⟨rfl, rfl, .inl ⟨rfl, delivered⟩⟩
    | nack _ sent => exact ⟨rfl, rfl, .inr ⟨rfl, sent⟩⟩

end AckFor

end ReliableTransfer
