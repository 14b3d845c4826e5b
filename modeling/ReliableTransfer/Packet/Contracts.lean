import ReliableTransfer.Packet.RoundTrip

/-!
# Contracts of the packet functions

What the header file promises of `pkt_encode`, of the setters and of
`pkt_decode`, each compared with what the code does.

- `pkt_encode` compares the capacity with the size after a cast to 16 bits, so
  that it refuses large buffers.
- The setters check one field each. The encoder relies on the length and the
  payload agreeing, the decoder on the type, the flag `TR` and the length.
- `pkt_decode` leaves the payload and the second checksum of the structure as
  they are when it has read a string of exactly 12 bytes.
-/

namespace ReliableTransfer

variable (crc32 : List Byte → BitVec 32)

/-- What is documented of the capacity: it is enough exactly when the packet fits into it. -/
def RespectsCapacity (pkt : Pkt) (buf : List Byte) (len : ℕ) : Prop :=
  ∃ encoded, pktEncode crc32 (some pkt) buf len = .ok encoded ∧
    (encoded.status = .pktOk ↔ pkt.wireSize ≤ len) ∧
    (encoded.status = .pktOk → encoded.len = pkt.wireSize ∧
      (pkt.wireBytes crc32).length = pkt.wireSize ∧
      encoded.buf = pkt.wireBytes crc32 ++ buf.drop pkt.wireSize) ∧
    (encoded.status ≠ .pktOk → encoded = ⟨.eNomem, some pkt, buf, len⟩)

theorem pktEncode_refuses {pkt : Pkt} {buf : List Byte} {len : ℕ}
    (small : len % 65536 < pkt.wireSize) :
    pktEncode crc32 (some pkt) buf len = .ok ⟨.eNomem, some pkt, buf, len⟩ := by
  have less : len % 65536 < if pkt.length ≠ 0 then 12 + (pkt.length.toNat + 4) else 12 := by
    rw [Pkt.wireSize] at small
    split at small
    · rwa [if_neg (not_not.mpr ‹_›)]
    · rw [if_pos ‹_›]
      omega
  simp only [pktEncode]
  rw [if_pos less]

/--
The encoder respects a capacity exactly when the cast does not make it too
small. Hence all the capacities up to 65535 are respected, and a larger one
unless its low 16 bits are less than the size of a packet which fits into it.
-/
theorem pktEncode_respectsCapacity_iff (pkt : Pkt) (buf : List Byte) (len : ℕ)
    (holds : pkt.HoldsPayload) (room : len ≤ buf.length) :
    RespectsCapacity crc32 pkt buf len ↔ (pkt.wireSize ≤ len → pkt.wireSize ≤ len % 65536) := by
  have low : len % 65536 ≤ len := Nat.mod_le len 65536
  have size := Pkt.length_wireBytes crc32 holds
  constructor
  · rintro ⟨encoded, encodes, respected, _, _⟩ fits
    by_contra small
    rw [pktEncode_refuses crc32 (by omega)] at encodes
    cases encodes
    cases respected.mpr fits
  · intro enough
    by_cases fits : pkt.wireSize ≤ len
    · have encodes := pktEncode_eq crc32 buf len holds (enough fits) (by omega)
      exact ⟨_, encodes, by simp [fits], fun _ => ⟨rfl, size, rfl⟩, fun failed => absurd rfl failed⟩
    · have encodes := @pktEncode_refuses crc32 pkt buf len (by omega)
      refine ⟨_, encodes, ?_, ?_, fun _ => rfl⟩
      · simp [fits]
      · rintro ⟨⟩

/-- A packet of 19 bytes fits into as many, and into 65536 more. -/
theorem pktEncode_respectsCapacity_example :
    RespectsCapacity Crc.zlib dataExample (List.replicate 19 0) 19 ∧
      RespectsCapacity Crc.zlib dataExample (List.replicate 65555 0) 65555 := by
  have holds : dataExample.HoldsPayload := .inr ⟨[1, 2, 3], rfl, by decide⟩
  constructor
  · apply (pktEncode_respectsCapacity_iff Crc.zlib dataExample (List.replicate 19 0) 19 holds
      List.length_replicate.ge).mpr
    decide
  · apply (pktEncode_respectsCapacity_iff Crc.zlib dataExample (List.replicate 65555 0) 65555
      holds List.length_replicate.ge).mpr
    decide

/-- A buffer of 65536 bytes is refused even for an empty packet. -/
theorem pktEncode_refuses_large :
    ¬RespectsCapacity Crc.zlib pktNew (List.replicate 65536 0) 65536 := by
  rintro ⟨encoded, encodes, respected, _, _⟩
  rw [pktEncode_refuses Crc.zlib (by decide)] at encodes
  cases encodes
  exact absurd (respected.mpr (by decide)) (by decide)

/-- A call of a setter. That of the payload is given the result of the allocation. -/
inductive SetterCall where
  | type (type : ℕ)
  | tr (tr : BitVec 8)
  | window (window : BitVec 8)
  | seqnum (seqnum : BitVec 8)
  | length (length : BitVec 16)
  | timestamp (timestamp : BitVec 32)
  | payload (alloc : Bool) (data : List Byte) (length : BitVec 16)

def SetterCall.perform (pkt : Pkt) : SetterCall → Except Fault (PktStatusCode × Pkt)
  | .type value => .ok (pktSetType pkt value)
  | .tr value => .ok (pktSetTr pkt value)
  | .window value => .ok (pktSetWindow pkt value)
  | .seqnum value => .ok (pktSetSeqnum pkt value)
  | .length value => .ok (pktSetLength pkt value)
  | .timestamp value => .ok (pktSetTimestamp pkt value)
  | .payload alloc data count => pktSetPayload alloc pkt data count

/-- Call setters one after the other, as long as they return `PKT_OK`. -/
def SetterCall.performAll (pkt : Pkt) : List SetterCall → Option Pkt
  | [] => some pkt
  | call :: calls =>
      match call.perform pkt with
      | .ok (.pktOk, next) => SetterCall.performAll next calls
      | _ => none

/-- No setter makes a packet longer than the maximal payload. -/
theorem SetterCall.perform_short {call : SetterCall} {pkt next : Pkt}
    (short : pkt.length.toNat ≤ maxPayloadSize)
    (performed : call.perform pkt = .ok (.pktOk, next)) : next.length.toNat ≤ maxPayloadSize := by
  cases call with
  | type value =>
      simp only [perform, pktSetType] at performed
      split at performed <;> cases performed
      exact short
  | tr value =>
      simp only [perform, pktSetTr] at performed
      split at performed <;> cases performed
      exact short
  | window value =>
      simp only [perform, pktSetWindow] at performed
      split at performed <;> cases performed
      exact short
  | seqnum value =>
      cases performed
      exact short
  | length value =>
      simp only [perform, pktSetLength] at performed
      split at performed <;> cases performed
      exact Nat.not_lt.mp ‹_›
  | timestamp value =>
      cases performed
      exact short
  | payload alloc data count =>
      simp only [perform, pktSetPayload] at performed
      split at performed
      · cases performed
      · split at performed
        · cases performed
        · split at performed
          · cases performed
          · split at performed <;> cases performed
            exact Nat.not_lt.mp ‹_›

theorem SetterCall.performAll_short {calls : List SetterCall} {start pkt : Pkt}
    (short : start.length.toNat ≤ maxPayloadSize)
    (built : SetterCall.performAll start calls = some pkt) :
    pkt.length.toNat ≤ maxPayloadSize := by
  induction calls generalizing start with
  | nil =>
      cases built
      exact short
  | cons call calls ih =>
      rw [SetterCall.performAll] at built
      split at built
      · exact ih (SetterCall.perform_short short ‹_›) built
      · cases built

/-- A packet which the encoder can read, and whose bytes the decoder accepts. -/
structure Pkt.Encodable (pkt : Pkt) : Prop where
  type : pkt.type ≠ 0
  trFlag : pkt.trFlag = 1 → pkt.type = ptypeData ∧ pkt.length = 0
  payload : pkt.HoldsPayload

/-- The fields which every packet has, but for its checksum. -/
def Pkt.SameFields (decoded pkt : Pkt) : Prop :=
  decoded.type = pkt.type ∧ decoded.trFlag = pkt.trFlag ∧ decoded.window = pkt.window ∧
    decoded.seqNum = pkt.seqNum ∧ decoded.length = pkt.length ∧ decoded.timestamp = pkt.timestamp

/-- The bytes of the payload are read inside of its block, and those written are decoded. -/
def EncodesValid (pkt : Pkt) (buf : List Byte) (len : ℕ) : Prop :=
  ∃ encoded, pktEncode crc32 (some pkt) buf len = .ok encoded ∧
    (encoded.status = .pktOk →
      ∃ decoded, pktDecode crc32 true (encoded.buf.take encoded.len) pktNew = .ok decoded ∧
        decoded.SameFields pkt)

/-- The bytes of a packet are its header and whatever stands behind it. -/
theorem Pkt.wireBytes_headed (pkt : Pkt) :
    ∃ rest, pkt.wireBytes crc32 = pkt.headed (pkt.wireCrc1 crc32) rest := by
  by_cases empty : pkt.length = 0
  · exact ⟨_, Pkt.wireBytes_of_empty crc32 empty⟩
  · exact ⟨_, Pkt.wireBytes_of_nonempty crc32 empty⟩

theorem sameFields_of_decoded {pkt decoded : Pkt}
    (accepted : pktDecode crc32 true (pkt.wireBytes crc32) pktNew = .ok decoded) :
    decoded.SameFields pkt := by
  rcases pkt.wireBytes_headed crc32 with ⟨rest, bytes⟩
  have fields := Pkt.headerPkt_headed pkt (pkt.wireCrc1 crc32) rest pktNew
  rw [bytes] at accepted
  rcases (pktDecode_eq_ok_iff crc32).mp accepted with ⟨_, ⟨_, rfl⟩ | ⟨_, rfl⟩⟩
  · rw [fields]
    exact ⟨rfl, rfl, rfl, rfl, rfl, rfl⟩
  · rw [fullPkt, fields]
    exact ⟨rfl, rfl, rfl, rfl, rfl, rfl⟩

/-- A packet whose payload block is exactly what its length field counts. -/
def Pkt.trimmed (pkt : Pkt) : Pkt :=
  { pkt with payload := if pkt.length = 0 then none else some pkt.wirePayload }

theorem Pkt.wireBytes_trimmed (pkt : Pkt) :
    pkt.trimmed.wireBytes crc32 = pkt.wireBytes crc32 := by
  by_cases empty : pkt.length = 0
  · rw [Pkt.wireBytes_of_empty crc32 empty]
    exact Pkt.wireBytes_of_empty crc32 empty
  · have payload : pkt.trimmed.wirePayload = pkt.wirePayload := by
      simp only [Pkt.wirePayload, Pkt.trimmed, if_neg empty, Option.getD_some, List.take_take,
        Nat.min_self]
    have bytes := @Pkt.wireBytes_of_nonempty pkt.trimmed crc32 empty
    rw [bytes, payload, Pkt.wireBytes_of_nonempty crc32 empty]
    rfl

/-- The decoder accepts the bytes of a packet exactly when its header is a valid one. -/
theorem pktDecode_wireBytes_iff {pkt : Pkt} (holds : pkt.HoldsPayload)
    (short : pkt.length.toNat ≤ maxPayloadSize) :
    (∃ decoded, pktDecode crc32 true (pkt.wireBytes crc32) pktNew = .ok decoded) ↔
      pkt.type ≠ 0 ∧ (pkt.trFlag = 1 → pkt.type = ptypeData ∧ pkt.length = 0) := by
  have size := Pkt.length_wireBytes crc32 holds
  constructor
  · rintro ⟨decoded, accepted⟩
    rcases pkt.wireBytes_headed crc32 with ⟨rest, bytes⟩
    have header := ((pktDecode_eq_ok_iff crc32).mp accepted).1
    have flag := header.2
    have type := header.1.type.1
    rw [bytes, Pkt.typeField_headed] at type
    rw [size, bytes, Pkt.typeField_headed, Pkt.trField_headed, Pkt.wireSize] at flag
    constructor
    · intro zero
      rw [zero] at type
      exact absurd type (by decide)
    · intro flagged
      refine ⟨(flag flagged).1, ?_⟩
      by_contra nonempty
      have exact := (flag flagged).2
      rw [if_neg nonempty] at exact
      omega
  · rintro ⟨type, truncated⟩
    rcases bit_cases pkt.trFlag with flag | flag
    · have wellFormed : pkt.trimmed.WellFormed := by
        refine ⟨type, flag, short, ?_⟩
        by_cases empty : pkt.trimmed.length = 0
        · rw [if_pos empty]
          exact if_pos empty
        · rw [if_neg empty]
          exact ⟨_, if_neg empty, (Pkt.readPayload_eq holds empty).2⟩
      have accepted := pktDecode_wireBytes crc32 wellFormed
      rw [Pkt.wireBytes_trimmed] at accepted
      exact ⟨_, accepted⟩
    · -- A truncated data packet is what truncation makes of itself.
      rcases truncated flag with ⟨data, empty⟩
      have same : { pkt with trFlag := 1 } = pkt := by
        rw [← flag]
      have accepted := pktDecode_truncate crc32 data short
      rw [Pkt.wireBytes_of_empty crc32 empty, truncate_headed, same,
        ← Pkt.wireBytes_of_empty crc32 empty] at accepted
      exact ⟨_, accepted⟩

/--
A packet built by the setters is encoded and decoded as it should be exactly
when it has a type, its flag `TR` is cleared unless it is an empty data packet,
and its payload holds all the bytes which its length field counts.
-/
theorem encodesValid_iff {calls : List SetterCall} {pkt : Pkt} (buf : List Byte) (len : ℕ)
    (built : SetterCall.performAll pktNew calls = some pkt) (needed : pkt.wireSize ≤ len)
    (capacity : len ≤ 65535) (room : len ≤ buf.length) :
    EncodesValid crc32 pkt buf len ↔ pkt.Encodable := by
  have short : pkt.length.toNat ≤ maxPayloadSize := SetterCall.performAll_short (by decide) built
  constructor
  · rintro ⟨encoded, encodes, valid⟩
    have holds : pkt.HoldsPayload := by
      by_contra lacks
      rcases pktEncode_faults crc32 buf len lacks (by omega) (by omega) with ⟨fault, faults⟩
      rw [faults] at encodes
      cases encodes
    rw [pktEncode_eq crc32 buf len holds (by omega) (by omega)] at encodes
    cases encodes
    rcases valid rfl with ⟨decoded, accepted, _⟩
    rw [List.take_left' (Pkt.length_wireBytes crc32 holds)] at accepted
    rcases (pktDecode_wireBytes_iff crc32 holds short).mp ⟨decoded, accepted⟩ with
      ⟨type, trFlag⟩
    exact ⟨type, trFlag, holds⟩
  · rintro ⟨type, trFlag, holds⟩
    refine ⟨_, pktEncode_eq crc32 buf len holds (by omega) (by omega), fun _ => ?_⟩
    rcases (pktDecode_wireBytes_iff crc32 holds short).mpr ⟨type, trFlag⟩ with
      ⟨decoded, accepted⟩
    rw [List.take_left' (Pkt.length_wireBytes crc32 holds)]
    exact ⟨decoded, accepted, sameFields_of_decoded crc32 accepted⟩

/-- A data packet numbered 7 with a payload of three bytes. -/
def setterExample : List SetterCall :=
  [.type 1, .seqnum 7, .payload true [1, 2, 3] 3]

def builtExample : Pkt :=
  { pktNew with type := ptypeData, seqNum := 7, length := 3, payload := some [1, 2, 3] }

theorem encodesValid_example :
    EncodesValid Crc.zlib builtExample (List.replicate 528 0) 528 ↔ builtExample.Encodable :=
  @encodesValid_iff Crc.zlib setterExample builtExample (List.replicate 528 0) 528 rfl (by decide)
    (by decide) List.length_replicate.ge

/-- A packet whose length is set and whose payload is not is encoded from a null pointer. -/
theorem encodesValid_lengthOnly :
    ∃ pkt, SetterCall.performAll pktNew [.type 1, .length 5] = some pkt ∧
      ¬EncodesValid Crc.zlib pkt (List.replicate 528 0) 528 := by
  refine ⟨{ pktNew with type := ptypeData, length := 5 }, rfl, ?_⟩
  rintro ⟨encoded, encodes, _⟩
  have lacks : ¬Pkt.HoldsPayload { pktNew with type := ptypeData, length := 5 } := by
    simp [Pkt.HoldsPayload, pktNew]
  rcases pktEncode_faults Crc.zlib (List.replicate 528 0) 528 lacks (by decide)
      (by rw [List.length_replicate]; decide) with ⟨fault, faults⟩
  rw [faults] at encodes
  cases encodes

/-- The payload of a decoded packet is that of the string, and so is its second checksum. -/
def CarriesItsPayload (data : List Byte) (decoded : Pkt) : Prop :=
  if data.length = 12 then decoded.payload = none ∧ decoded.crc2 = 0
  else ∃ bytes, decoded.payload = some bytes ∧ bytes.length = decoded.length.toNat

/-- Decoding a string into one structure or into another has the same result. -/
def DecodesAlike (data : List Byte) (left right : Pkt) : Prop :=
  pktDecode crc32 true data left = pktDecode crc32 true data right ∧
    ∀ decoded, pktDecode crc32 true data left = .ok decoded → CarriesItsPayload data decoded

/-- Nothing is left in a structure by an earlier use of it. -/
def Pkt.Unused (pkt : Pkt) : Prop :=
  pkt.payload = none ∧ pkt.crc2 = 0

theorem headerPkt_eq_iff {data : List Byte} {left right : Pkt} :
    headerPkt data left = headerPkt data right ↔
      left.payload = right.payload ∧ left.crc2 = right.crc2 := by
  simp [headerPkt]

theorem guard_congr {guard : Prop} [Decidable guard] {code : PktStatusCode}
    {left right : Except PktStatusCode Pkt} (same : ¬guard → left = right) :
    (if guard then .error code else left) = if guard then .error code else right := by
  by_cases fails : guard
  · rw [if_pos fails, if_pos fails]
  · rw [if_neg fails, if_neg fails, same fails]

/-- A string which is refused, or which has a payload, overwrites all that a structure holds. -/
theorem pktDecode_congr {data : List Byte} {left right : Pkt}
    (kept : HeaderAccepted crc32 data → data.length = 12 →
      headerPkt data left = headerPkt data right) :
    pktDecode crc32 true data left = pktDecode crc32 true data right := by
  by_cases complete : 12 ≤ data.length
  · rw [pktDecode_eq crc32 true left complete, pktDecode_eq crc32 true right complete]
    -- The same checks are made for both, so that only the last step can differ.
    apply guard_congr
    intro type
    apply guard_congr
    intro flag
    apply guard_congr
    intro truncated
    apply guard_congr
    intro length
    apply guard_congr
    intro crc1
    by_cases exact : data.length = 12
    · have header : HasHeader crc32 data := ⟨complete, by omega, by omega, not_not.mp crc1⟩
      have accepted : HeaderAccepted crc32 data := by
        refine ⟨header, fun flagged => ⟨?_, exact⟩⟩
        exact by_contra fun other => flag ⟨flagged, other⟩
      rw [if_pos exact, if_pos exact, kept accepted exact]
    · rw [if_neg exact, if_neg exact]
      rfl
  · rw [pktDecode_short crc32 true left (by omega), pktDecode_short crc32 true right (by omega)]

theorem carriesItsPayload_of_unused {data : List Byte} {pkt decoded : Pkt}
    (unused : HeaderAccepted crc32 data → data.length = 12 → pkt.Unused)
    (accepted : pktDecode crc32 true data pkt = .ok decoded) : CarriesItsPayload data decoded := by
  rcases (pktDecode_eq_ok_iff crc32).mp accepted with ⟨header, ⟨exact, rfl⟩ | ⟨payload, rfl⟩⟩
  · rw [CarriesItsPayload, if_pos exact]
    exact unused header exact
  · have announced := payload.announced
    have size := payload.length
    have small := header.1.length
    simp only [maxPayloadSize] at small
    have longer : data.length ≠ 12 := by omega
    have count : (BitVec.ofNat 16 (lengthField data)).toNat = lengthField data := by
      rw [BitVec.toNat_ofNat]
      omega
    rw [CarriesItsPayload, if_neg longer]
    refine ⟨_, rfl, ?_⟩
    rw [length_slice (by omega)]
    exact count.symm

/--
The result of decoding depends only on the bytes, unless they are an accepted
string of exactly 12 bytes and one of the two structures has been used before.
-/
theorem pktDecode_decodesAlike_iff (data : List Byte) (left right : Pkt) :
    DecodesAlike crc32 data left right ↔
      (HeaderAccepted crc32 data → data.length = 12 → left.Unused ∧ right.Unused) := by
  constructor
  · rintro ⟨same, carries⟩ header exact
    have intoLeft : pktDecode crc32 true data left = .ok (headerPkt data left) :=
      (pktDecode_eq_ok_iff crc32).mpr ⟨header, .inl ⟨exact, rfl⟩⟩
    have intoRight : pktDecode crc32 true data right = .ok (headerPkt data right) :=
      (pktDecode_eq_ok_iff crc32).mpr ⟨header, .inl ⟨exact, rfl⟩⟩
    have leftUnused := carries _ intoLeft
    rw [CarriesItsPayload, if_pos exact] at leftUnused
    rw [intoLeft, intoRight, Except.ok.injEq, headerPkt_eq_iff] at same
    exact ⟨leftUnused, same.1 ▸ leftUnused.1, same.2 ▸ leftUnused.2⟩
  · intro unused
    constructor
    · apply pktDecode_congr
      intro header exact
      rcases unused header exact with ⟨⟨leftPayload, leftCrc2⟩, rightPayload, rightCrc2⟩
      rw [headerPkt_eq_iff, leftPayload, leftCrc2, rightPayload, rightCrc2]
      exact ⟨rfl, rfl⟩
    · intro decoded accepted
      exact carriesItsPayload_of_unused crc32 (fun header exact => (unused header exact).1) accepted

/-- The structure holds the payload of the data packet which was decoded into it before. -/
theorem pktDecode_keeps_earlierPayload :
    pktDecode Crc.zlib true (dataExample.wireBytes Crc.zlib) pktNew =
        .ok (dataExample.received Crc.zlib) ∧
      ¬DecodesAlike Crc.zlib ({ pktNew with type := ptypeAck }.wireBytes Crc.zlib) pktNew
        (dataExample.received Crc.zlib) := by
  constructor
  · decide +kernel
  · rintro ⟨same, _⟩
    exact absurd same (by decide +kernel)

end ReliableTransfer
