import ReliableTransfer.Packet.Codec
import ReliableTransfer.Library.Crc
import Mathlib.Data.List.GetD

/-!
# The accepted byte strings

The documented format of a packet is a condition on the bytes received:
a header with a valid type, length and checksum, and a number of bytes which
agrees with the length field and the flag `TR`. This file compares it with the
strings which `pkt_decode` accepts.

The decoder returns early once it has seen a valid header of exactly 12 bytes.
Hence it also accepts a bare header: one which announces a payload, has `TR`
cleared, and is followed by nothing.
-/

namespace ReliableTransfer

/-- The type field, in the two high bits of the first byte. -/
def typeField (data : List Byte) : BitVec 2 :=
  (data.getD 0 0).extractLsb' 6 2

def trField (data : List Byte) : BitVec 1 :=
  (data.getD 0 0).extractLsb' 5 1

/-- The length field, in network order. -/
def lengthField (data : List Byte) : ℕ :=
  ByteString.ofBE (slice data 2 2)

/-- The first eight bytes, with the flag `TR` cleared. -/
def maskedHeader (data : List Byte) : List Byte :=
  (data.getD 0 0 &&& 0xdf) :: slice data 1 7

/-- The 32-bit word at an offset, in network order. -/
def word (data : List Byte) (offset : ℕ) : BitVec 32 :=
  BitVec.ofNat 32 (ByteString.ofBE (slice data offset 4))

/-- The structure filled from the header of a received string. -/
def headerPkt (data : List Byte) (pkt : Pkt) : Pkt where
  window := (data.getD 0 0).extractLsb' 0 5
  trFlag := trField data
  type := typeField data
  seqNum := data.getD 1 0
  length := BitVec.ofNat 16 (lengthField data)
  timestamp := load32 data 4
  crc1 := word data 8
  payload := pkt.payload
  crc2 := pkt.crc2

def fullPkt (data : List Byte) (pkt : Pkt) : Pkt :=
  { headerPkt data pkt with
    payload := some (slice data 12 (lengthField data))
    crc2 := word data (12 + lengthField data) }

theorem lengthField_lt {data : List Byte} (complete : 12 ≤ data.length) :
    lengthField data < 65536 := by
  have bound := ByteString.ofBE_lt (slice data 2 2)
  rw [length_slice (by omega)] at bound
  exact bound

theorem htons_load16 {data : List Byte} {offset : ℕ} (inside : offset + 2 ≤ data.length) :
    htons (load16 data offset) = BitVec.ofNat 16 (ByteString.ofBE (slice data offset 2)) := by
  rw [htons, load16, store16_load (length_slice inside), ByteString.ofBE]

theorem htonl_load32 {data : List Byte} {offset : ℕ} (inside : offset + 4 ≤ data.length) :
    htonl (load32 data offset) = word data offset := by
  rw [htonl, load32, store32_load (length_slice inside), word, ByteString.ofBE]

/-- The four bytes of a word are determined by it. -/
theorem slice_of_word {data : List Byte} {offset : ℕ} (fits : offset + 4 ≤ data.length) :
    slice data offset 4 = (store32 (word data offset)).reverse := by
  have width : (slice data offset 4).reverse.length = 4 := by
    rw [List.length_reverse, length_slice fits]
  rw [word, ByteString.ofBE, store32_load width, List.reverse_reverse]

/-- The bytes behind the first one: the number, the length and the timestamp. -/
theorem slice_header {data : List Byte} (complete : 12 ≤ data.length) :
    slice data 1 7 = data.getD 1 0 :: (slice data 2 2 ++ slice data 4 4) := by
  have second : data.drop 1 = data.getD 1 0 :: data.drop 2 := by
    rw [List.drop_eq_getElem_cons (by omega), List.getD_eq_getElem _ _ (by omega)]
  rw [slice, second, List.take_succ_cons, slice, slice, show 4 = 2 + 2 by rfl, ← List.drop_drop,
    ← List.take_add]

theorem maskedHeader_eq {data : List Byte} (complete : 12 ≤ data.length) :
    maskedHeader data =
      (typeField data ++ (0 : BitVec 1) ++ (data.getD 0 0).extractLsb' 0 5) :: data.getD 1 0 ::
        (store16 (load16 data 2) ++ store32 (load32 data 4)) := by
  have masked : ∀ byte : Byte,
      byte &&& 0xdf = byte.extractLsb' 6 2 ++ (0 : BitVec 1) ++ byte.extractLsb' 0 5 := by
    decide
  have length : store16 (load16 data 2) = slice data 2 2 :=
    store16_load (length_slice (by omega))
  have timestamp : store32 (load32 data 4) = slice data 4 4 :=
    store32_load (length_slice (by omega))
  rw [maskedHeader, masked, slice_header complete, length, timestamp, typeField]

theorem bit_cases (bit : BitVec 1) : bit = 0 ∨ bit = 1 := by
  revert bit
  decide

/-- A header with a valid type, length and checksum. -/
structure HasHeader (crc32 : List Byte → BitVec 32) (data : List Byte) : Prop where
  complete : 12 ≤ data.length
  type : 1 ≤ (typeField data).toNat ∧ (typeField data).toNat ≤ 3
  length : lengthField data ≤ maxPayloadSize
  crc1 : crc32 (maskedHeader data) = word data 8

/-- The payload announced by the length field is there, with its checksum. -/
structure HasPayload (crc32 : List Byte → BitVec 32) (data : List Byte) : Prop where
  announced : 1 ≤ lengthField data
  length : data.length = 16 + lengthField data
  crc2 : crc32 (slice data 12 (lengthField data)) = word data (12 + lengthField data)

/-- The packet format: a truncated data packet, an empty packet, or a packet with its payload. -/
def PacketFormat (crc32 : List Byte → BitVec 32) (data : List Byte) : Prop :=
  HasHeader crc32 data ∧
    ((trField data = 1 ∧ typeField data = ptypeData ∧ data.length = 12) ∨
      (trField data = 0 ∧ lengthField data = 0 ∧ data.length = 12) ∨
      (trField data = 0 ∧ HasPayload crc32 data))

/-- A header of 12 bytes which announces a payload, although `TR` is cleared. -/
def BareHeader (crc32 : List Byte → BitVec 32) (data : List Byte) : Prop :=
  HasHeader crc32 data ∧ data.length = 12 ∧ trField data = 0 ∧ 1 ≤ lengthField data

variable (crc32 : List Byte → BitVec 32)

theorem pktDecode_short {data : List Byte} (alloc : Bool) (pkt : Pkt) (short : data.length < 12) :
    pktDecode crc32 alloc data pkt = .error .eNoheader := by
  rw [pktDecode, if_pos short]

/-- The decoder in terms of the fields of the string. -/
theorem pktDecode_eq {data : List Byte} (alloc : Bool) (pkt : Pkt) (complete : 12 ≤ data.length) :
    pktDecode crc32 alloc data pkt =
      if (typeField data).toNat < 1 ∨ (typeField data).toNat > 3 then .error .eType
      else if trField data = 1 ∧ typeField data ≠ ptypeData then .error .eTr
      else if trField data = 1 ∧ data.length ≠ 12 then .error .eTr
      else if lengthField data > maxPayloadSize then .error .eLength
      else if crc32 (maskedHeader data) ≠ word data 8 then .error .eCrc
      else if data.length = 12 then .ok (headerPkt data pkt)
      else if data.length ≠ (12 + lengthField data + 4) % 65536 then .error .eUnconsistent
      else if lengthField data = 0 then .error .eUnconsistent
      else if alloc = false then .error .eNomem
      else if crc32 (slice data 12 (lengthField data)) ≠ word data (12 + lengthField data) then
        .error .eCrc
      else .ok (fullPkt data pkt) := by
  have length : htons (load16 data 2) = BitVec.ofNat 16 (lengthField data) :=
    htons_load16 (by omega)
  have length' : (BitVec.ofNat 16 (lengthField data)).toNat = lengthField data := by
    rw [BitVec.toNat_ofNat, Nat.mod_eq_of_lt (lengthField_lt complete)]
  have zero : BitVec.ofNat 16 (lengthField data) = 0 ↔ lengthField data = 0 := by
    rw [← BitVec.toNat_inj, length']
    rfl
  have crc1 : htonl (load32 data 8) = word data 8 := htonl_load32 (by omega)
  have masked : Pkt.first8 { pkt.setByte0 (data.getD 0 0) with
      trFlag := 0, seqNum := data.getD 1 0, length := load16 data 2, timestamp := load32 data 4
      crc1 := word data 8 } = maskedHeader data :=
    (maskedHeader_eq complete).symm
  rw [pktDecode, if_neg (Nat.not_lt.mpr complete)]
  -- The fields of the structure are those of the string by definition, but for these.
  simp only [length, length', zero, crc1, masked]
  by_cases long : lengthField data > maxPayloadSize
  · simp only [long, if_true]
    rfl
  · by_cases unequal : data.length = (12 + lengthField data + 4) % 65536
    · have inside : 12 + lengthField data + 4 ≤ data.length := by
        simp only [maxPayloadSize] at long
        omega
      have crc2 : htonl (load32 data (12 + lengthField data)) = word data (12 + lengthField data) :=
        htonl_load32 inside
      simp only [crc2]
      rfl
    · simp only [unequal, ne_eq, not_false_eq_true, if_true]
      rfl

/-- The header of a string is accepted, with its flag and type in agreement. -/
def HeaderAccepted (crc32 : List Byte → BitVec 32) (data : List Byte) : Prop :=
  HasHeader crc32 data ∧ (trField data = 1 → typeField data = ptypeData ∧ data.length = 12)

theorem guard_eq_ok_iff {guard : Prop} [Decidable guard] {code : PktStatusCode}
    {rest : Except PktStatusCode Pkt} {decoded : Pkt} :
    (if guard then .error code else rest) = .ok decoded ↔ ¬guard ∧ rest = .ok decoded := by
  by_cases fails : guard
  · simp [fails]
  · simp [fails]

/-- The strings which are accepted into a packet structure, and what it is filled with. -/
theorem pktDecode_eq_ok_iff {data : List Byte} {pkt decoded : Pkt} :
    pktDecode crc32 true data pkt = .ok decoded ↔
      HeaderAccepted crc32 data ∧
        ((data.length = 12 ∧ decoded = headerPkt data pkt) ∨
          (HasPayload crc32 data ∧ decoded = fullPkt data pkt)) := by
  by_cases complete : 12 ≤ data.length
  · rw [pktDecode_eq crc32 true pkt complete, guard_eq_ok_iff, guard_eq_ok_iff, guard_eq_ok_iff,
      guard_eq_ok_iff, guard_eq_ok_iff]
    constructor
    · rintro ⟨type, flag, truncated, length, crc1, accepted⟩
      have header : HasHeader crc32 data := ⟨complete, by omega, by omega, not_not.mp crc1⟩
      refine ⟨⟨header, ?_⟩, ?_⟩
      · intro flagged
        exact ⟨by_contra fun other => flag ⟨flagged, other⟩,
          by_contra fun longer => truncated ⟨flagged, longer⟩⟩
      · by_cases exact : data.length = 12
        · rw [if_pos exact] at accepted
          cases accepted
          exact .inl ⟨exact, rfl⟩
        · rw [if_neg exact, guard_eq_ok_iff, guard_eq_ok_iff, guard_eq_ok_iff,
            guard_eq_ok_iff] at accepted
          rcases accepted with ⟨consistent, nonempty, _, crc2, same⟩
          cases same
          simp only [maxPayloadSize] at length
          exact .inr ⟨⟨by omega, by omega, not_not.mp crc2⟩, rfl⟩
    · rintro ⟨⟨header, flag⟩, accepted⟩
      have type := header.type
      have length := header.length
      refine ⟨by omega, fun bad => bad.2 (flag bad.1).1, fun bad => bad.2 (flag bad.1).2, by omega,
        not_not.mpr header.crc1, ?_⟩
      rcases accepted with ⟨exact, rfl⟩ | ⟨payload, rfl⟩
      · rw [if_pos exact]
      · have announced := payload.announced
        have size := payload.length
        simp only [maxPayloadSize] at length
        rw [if_neg (by omega), guard_eq_ok_iff, guard_eq_ok_iff, guard_eq_ok_iff, guard_eq_ok_iff]
        exact ⟨by omega, by omega, by simp, not_not.mpr payload.crc2, rfl⟩
  · rw [pktDecode_short crc32 true pkt (by omega)]
    constructor
    · rintro ⟨⟩
    · rintro ⟨⟨header, _⟩, _⟩
      exact absurd header.complete complete

/-- A packet which is accepted with its flag set is a data packet. -/
theorem type_of_decoded {data : List Byte} {pkt decoded : Pkt}
    (decodes : pktDecode crc32 true data pkt = .ok decoded) (flag : decoded.trFlag = 1) :
    decoded.type = ptypeData := by
  rcases (pktDecode_eq_ok_iff crc32).mp decodes with ⟨header, ⟨_, rfl⟩ | ⟨_, rfl⟩⟩
  · exact (header.2 flag).1
  · exact (header.2 flag).1

/-- A string which is accepted in spite of a failing allocation is accepted without it. -/
theorem pktDecode_of_alloc {alloc : Bool} {data : List Byte} {pkt decoded : Pkt}
    (accepted : pktDecode crc32 alloc data pkt = .ok decoded) :
    pktDecode crc32 true data pkt = .ok decoded := by
  by_cases complete : 12 ≤ data.length
  · rw [pktDecode_eq crc32 _ pkt complete, guard_eq_ok_iff, guard_eq_ok_iff, guard_eq_ok_iff,
      guard_eq_ok_iff, guard_eq_ok_iff] at accepted ⊢
    rcases accepted with ⟨type, flag, truncated, length, crc1, accepted⟩
    refine ⟨type, flag, truncated, length, crc1, ?_⟩
    by_cases exact : data.length = 12
    · rw [if_pos exact] at accepted ⊢
      exact accepted
    · rw [if_neg exact, guard_eq_ok_iff, guard_eq_ok_iff, guard_eq_ok_iff] at accepted ⊢
      exact ⟨accepted.1, accepted.2.1, by simp, accepted.2.2.2⟩
  · rw [pktDecode_short crc32 _ pkt (by omega)] at accepted
    cases accepted

/--
The decoder accepts exactly the packet format, but for the bare headers: these
are all accepted, and none of them has the format.
-/
theorem pktDecode_accepts_iff (data : List Byte) :
    ((∃ decoded, pktDecode crc32 true data pktNew = .ok decoded) ↔ PacketFormat crc32 data) ↔
      ¬BareHeader crc32 data := by
  simp only [pktDecode_eq_ok_iff]
  constructor
  · intro agree bare
    rcases bare with ⟨header, exact, flag, announced⟩
    have notTruncated : trField data ≠ 1 := by simp [flag]
    rcases agree.mp ⟨_, ⟨header, fun truncated => absurd truncated notTruncated⟩,
        .inl ⟨exact, rfl⟩⟩ with
      ⟨_, ⟨truncated, _⟩ | ⟨_, empty, _⟩ | ⟨_, payload⟩⟩
    · exact notTruncated truncated
    · omega
    · have size := payload.length
      omega
  · intro notBare
    constructor
    · rintro ⟨decoded, ⟨header, truncated⟩, ⟨exact, _⟩ | ⟨payload, _⟩⟩
      · rcases bit_cases (trField data) with flag | flag
        · refine ⟨header, .inr (.inl ⟨flag, ?_, exact⟩)⟩
          by_contra announced
          exact notBare ⟨header, exact, flag, by omega⟩
        · exact ⟨header, .inl ⟨flag, truncated flag⟩⟩
      · rcases bit_cases (trField data) with flag | flag
        · exact ⟨header, .inr (.inr ⟨flag, payload⟩)⟩
        · have exact := (truncated flag).2
          have announced := payload.announced
          have size := payload.length
          omega
    · rintro ⟨header, ⟨flag, type, exact⟩ | ⟨flag, _, exact⟩ | ⟨flag, payload⟩⟩
      · exact ⟨_, ⟨header, fun _ => ⟨type, exact⟩⟩, .inl ⟨exact, rfl⟩⟩
      · exact ⟨_, ⟨header, fun truncated => by simp [flag] at truncated⟩, .inl ⟨exact, rfl⟩⟩
      · exact ⟨_, ⟨header, fun truncated => by simp [flag] at truncated⟩, .inr ⟨payload, rfl⟩⟩

/-- The first 12 bytes of a data packet numbered 7 with a payload of three bytes. -/
def bareHeaderExample : List Byte :=
  [0x5f, 7, 0, 3, 0, 0, 0, 0, 0x6b, 0x23, 0x7a, 0x5d]

/-- A prefix of a longer packet is accepted as a complete packet, without the payload. -/
theorem pktDecode_accepts_bareHeader :
    ¬((∃ decoded, pktDecode Crc.zlib true bareHeaderExample pktNew = .ok decoded) ↔
      PacketFormat Crc.zlib bareHeaderExample) := by
  have header : HasHeader Crc.zlib bareHeaderExample :=
    ⟨by decide, by decide, by decide, by decide +kernel⟩
  have accepted : ∃ decoded,
      pktDecode Crc.zlib true bareHeaderExample pktNew = .ok decoded :=
    ⟨_, (pktDecode_eq_ok_iff Crc.zlib).mpr
      ⟨⟨header, fun flag => absurd flag (by decide)⟩, .inl ⟨by decide, rfl⟩⟩⟩
  intro agree
  rcases agree.mp accepted with ⟨_, ⟨flag, _⟩ | ⟨_, empty, _⟩ | ⟨_, payload⟩⟩
  · exact absurd flag (by decide)
  · exact absurd empty (by decide)
  · exact absurd payload.length (by decide)

end ReliableTransfer
