import ReliableTransfer.Library.Reassembly
import ReliableTransfer.Library.Serial
import ReliableTransfer.Packet.Codec

/-!
# The reference receiver

What the receiver is for: a reassembly machine for packets, with an unbounded
next position. A packet of non-zero length is stored at the position which its
number denotes in the window of 31 positions from the next one. An empty packet
announces the end; the machine closes when its next position is the announced
one. It then ignores whatever arrives.
-/

namespace ReliableTransfer

/-- The state of the reference machine. Every waiting packet lies in the window. -/
structure Reference where
  assembly : Reassembly Pkt
  endNum : Option (BitVec 8)
  acks : List (BitVec 8)
  closed : Bool
  numbered : ∀ position pkt, assembly.slots.get position = some pkt →
    position < assembly.next + 31 ∧ pkt.seqNum = Serial.wire 8 position

namespace Reference

def initial : Reference where
  assembly := .initial
  endNum := none
  acks := []
  closed := false
  numbered := by
    intro position pkt found
    cases found

/-- The distance of a packet from the next position. -/
def offset (reference : Reference) (pkt : Pkt) : ℕ :=
  Serial.dist (Serial.wire 8 reference.assembly.next) pkt.seqNum

theorem seqNum_eq (reference : Reference) (pkt : Pkt) :
    pkt.seqNum = Serial.wire 8 (reference.assembly.next + reference.offset pkt) := by
  rw [Serial.wire_add]
  exact (Serial.add_dist _ _).symm

/-- The waiting packets, with one more at the position which its number denotes. -/
def slotsWith (reference : Reference) (pkt : Pkt) : Slots Pkt :=
  reference.assembly.slots.store (reference.assembly.next + reference.offset pkt) pkt

theorem numbered_slotsWith (reference : Reference) {pkt : Pkt}
    (inside : reference.offset pkt ≤ 30) :
    ∀ position waiting, (reference.slotsWith pkt).get position = some waiting →
      position < reference.assembly.next + 31 ∧ waiting.seqNum = Serial.wire 8 position := by
  intro position waiting found
  rw [slotsWith] at found
  by_cases here : position = reference.assembly.next + reference.offset pkt
  · subst here
    refine ⟨by omega, ?_⟩
    cases earlier : reference.assembly.slots.get
        (reference.assembly.next + reference.offset pkt) with
    | none =>
        rw [Slots.get_store_self earlier] at found
        cases found
        exact reference.seqNum_eq pkt
    | some other =>
        rw [Slots.store_eq_self (by simp [earlier])] at found
        exact (reference.numbered _ _ found).2
  · rw [Slots.get_store_of_ne here] at found
    exact reference.numbered _ _ found

def store (reference : Reference) (pkt : Pkt) (inside : reference.offset pkt ≤ 30) :
    Reference where
  assembly := reference.assembly.put (reference.assembly.next + reference.offset pkt) pkt
  endNum := reference.endNum
  acks := reference.acks
  closed := reference.closed
  numbered := by
    intro position waiting found
    have advanced := reference.assembly.next_le_put
      (reference.assembly.next + reference.offset pkt) pkt
    rw [Reassembly.get_put] at found
    split at found
    · cases found
    · have before := reference.numbered_slotsWith inside position waiting found
      exact ⟨by omega, before.2⟩

theorem store_eq_self (reference : Reference) {pkt : Pkt} (inside : reference.offset pkt ≤ 30)
    (taken : reference.assembly.slots.get
      (reference.assembly.next + reference.offset pkt) ≠ none) :
    reference.store pkt inside = reference := by
  have same : (reference.store pkt inside).assembly = reference.assembly := by
    have unchanged : reference.assembly.put
        (reference.assembly.next + reference.offset pkt) pkt = reference.assembly := by
      rw [Reassembly.put, Slots.store_eq_self taken, Reassembly.deliver_self]
    exact unchanged
  cases reference
  simp only [store, mk.injEq, and_true]
  exact same

def ack (reference : Reference) : Reference :=
  { reference with acks := reference.acks ++ [Serial.wire 8 reference.assembly.next] }

def close (reference : Reference) : Reference :=
  { reference with closed := true }

/-- A decoded packet arrives. One with the flag `TR`, or outside of the window, changes nothing. -/
def accept (reference : Reference) (pkt : Pkt) : Reference :=
  if pkt.trFlag = 1 then reference
  else if inside : reference.offset pkt ≤ 30 then
    if pkt.length = 0 then
      let announced := { reference with endNum := some pkt.seqNum }
      if reference.offset pkt = 0 then announced.close else announced.ack
    else
      let stored := reference.store pkt inside
      if stored.endNum = some (Serial.wire 8 stored.assembly.next) then stored.close
      else stored.ack
  else reference.ack

/-- The machine is given the result of decoding a datagram. -/
def receive (reference : Reference) (decoded : Except PktStatusCode Pkt) : Reference :=
  if reference.closed then reference
  else
    match decoded with
    | .error _ => reference.ack
    | .ok pkt => reference.accept pkt

theorem receive_of_closed {reference : Reference} (closed : reference.closed = true)
    (decoded : Except PktStatusCode Pkt) : reference.receive decoded = reference := by
  simp [receive, closed]

theorem receive_error {reference : Reference} (stillOpen : reference.closed = false)
    (code : PktStatusCode) : reference.receive (.error code) = reference.ack := by
  simp [receive, stillOpen]

theorem receive_ok {reference : Reference} (stillOpen : reference.closed = false) (pkt : Pkt) :
    reference.receive (.ok pkt) = reference.accept pkt := by
  simp [receive, stillOpen]

/-- The packets which wait in the window, in order. -/
def waiting (reference : Reference) : List Pkt :=
  reference.assembly.slots.segment reference.assembly.next (reference.assembly.next + 31)

end Reference

end ReliableTransfer
