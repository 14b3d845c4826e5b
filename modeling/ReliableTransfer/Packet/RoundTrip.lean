import ReliableTransfer.Packet.Format

/-!
# Decoding undoes encoding

The fields of an encoded packet are read back from its bytes. The decoder
computes its checksum over the structure it is filling, the encoder over the
buffer with the flag masked; both are the checksum of the same eight bytes.

Conversely, every bit of an accepted string is in the structure to which it is
decoded, so that encoding reproduces the string.
-/

namespace ReliableTransfer

theorem slice_middle (before middle after : List Byte) {offset count : ℕ}
    (start : before.length = offset) (size : middle.length = count) :
    slice (before ++ (middle ++ after)) offset count = middle := by
  subst start size
  simp [slice]

theorem ofBE_reverse_store16 (value : BitVec 16) :
    ByteString.ofBE (store16 value).reverse = value.toNat := by
  have bound := value.isLt
  rw [ByteString.ofBE, List.reverse_reverse, store16, ByteString.ofLE_toLE]
  omega

theorem ofBE_reverse_store32 (value : BitVec 32) :
    BitVec.ofNat 32 (ByteString.ofBE (store32 value).reverse) = value := by
  rw [ByteString.ofBE, List.reverse_reverse, load_store32]

namespace Pkt

/-- A packet header followed by a checksum and by anything else. -/
def headed (pkt : Pkt) (crc : BitVec 32) (rest : List Byte) : List Byte :=
  pkt.wireHeader ++ (store32 crc).reverse ++ rest

variable (pkt : Pkt) (crc : BitVec 32) (rest : List Byte)

theorem typeField_headed : typeField (pkt.headed crc rest) = pkt.type :=
  congrArg Pkt.type (setByte0_byte0 pkt pkt)

theorem trField_headed : trField (pkt.headed crc rest) = pkt.trFlag :=
  congrArg Pkt.trFlag (setByte0_byte0 pkt pkt)

theorem lengthField_headed : lengthField (pkt.headed crc rest) = pkt.length.toNat := by
  have field : slice (pkt.headed crc rest) 2 2 = (store16 pkt.length).reverse := by
    simpa [headed, wireHeader] using slice_middle [pkt.byte0, pkt.seqNum]
      (store16 pkt.length).reverse (store32 pkt.timestamp ++ ((store32 crc).reverse ++ rest))
      rfl (by simp)
  rw [lengthField, field, ofBE_reverse_store16]

theorem load32_headed : load32 (pkt.headed crc rest) 4 = pkt.timestamp := by
  have field : slice (pkt.headed crc rest) 4 4 = store32 pkt.timestamp := by
    simpa [headed, wireHeader] using
      slice_middle (pkt.byte0 :: pkt.seqNum :: (store16 pkt.length).reverse)
        (store32 pkt.timestamp) ((store32 crc).reverse ++ rest) (by simp : _ = 4) (by simp)
  rw [load32, field, load_store32]

theorem word_headed : word (pkt.headed crc rest) 8 = crc := by
  have field : slice (pkt.headed crc rest) 8 4 = (store32 crc).reverse := by
    simpa [headed] using
      slice_middle pkt.wireHeader (store32 crc).reverse rest (by simp : _ = 8) (by simp)
  rw [word, field, ofBE_reverse_store32]

theorem maskedHeader_headed :
    maskedHeader (pkt.headed crc rest) = (pkt.byte0 &&& 0xdf) :: pkt.seqNum ::
      ((store16 pkt.length).reverse ++ store32 pkt.timestamp) := by
  have field : slice (pkt.headed crc rest) 1 7 =
      pkt.seqNum :: ((store16 pkt.length).reverse ++ store32 pkt.timestamp) := by
    simpa [headed, wireHeader] using slice_middle [pkt.byte0]
      (pkt.seqNum :: ((store16 pkt.length).reverse ++ store32 pkt.timestamp))
      ((store32 crc).reverse ++ rest) rfl (by simp)
  rw [maskedHeader, field]
  rfl

theorem headerPkt_headed (fresh : Pkt) :
    headerPkt (pkt.headed crc rest) fresh =
      { pkt with crc1 := crc, payload := fresh.payload, crc2 := fresh.crc2 } := by
  have window : ((pkt.headed crc rest).getD 0 0).extractLsb' 0 5 = pkt.window :=
    congrArg Pkt.window (setByte0_byte0 pkt pkt)
  have length : BitVec.ofNat 16 pkt.length.toNat = pkt.length := by simp
  rw [headerPkt, window, typeField_headed, trField_headed, lengthField_headed, load32_headed,
    word_headed, length]
  rfl

theorem hasHeader_headed (crc32 : List Byte → BitVec 32) (type : pkt.type ≠ 0)
    (short : pkt.length.toNat ≤ maxPayloadSize) :
    HasHeader crc32 (pkt.headed (pkt.wireCrc1 crc32) rest) where
  complete := by
    simp [headed]
    omega
  type := by
    rw [typeField_headed]
    have positive : pkt.type.toNat ≠ 0 := fun zero => type (BitVec.eq_of_toNat_eq zero)
    have bound := pkt.type.isLt
    omega
  length := by rwa [lengthField_headed]
  crc1 := by rw [maskedHeader_headed, word_headed, wireCrc1]

/-- A packet which the encoder is meant for, with the flag `TR` cleared. -/
structure WellFormed (pkt : Pkt) : Prop where
  type : pkt.type ≠ 0
  trFlag : pkt.trFlag = 0
  short : pkt.length.toNat ≤ maxPayloadSize
  payload : if pkt.length = 0 then pkt.payload = none
    else ∃ bytes, pkt.payload = some bytes ∧ bytes.length = pkt.length.toNat

/-- The packet which a receiver gets: an empty one has no second checksum. -/
def received (crc32 : List Byte → BitVec 32) (pkt : Pkt) : Pkt :=
  { pkt with
    crc1 := pkt.wireCrc1 crc32
    crc2 := if pkt.length = 0 then 0 else crc32 pkt.wirePayload }

variable {pkt}

theorem WellFormed.holdsPayload (wellFormed : pkt.WellFormed) : pkt.HoldsPayload := by
  have payload := wellFormed.payload
  split at payload
  · exact .inl ‹_›
  · rcases payload with ⟨bytes, isSome, size⟩
    exact .inr ⟨bytes, isSome, size.ge⟩

theorem WellFormed.payload_eq (wellFormed : pkt.WellFormed) (nonempty : pkt.length ≠ 0) :
    pkt.payload = some pkt.wirePayload := by
  have payload := wellFormed.payload
  rw [if_neg nonempty] at payload
  rcases payload with ⟨bytes, isSome, size⟩
  rw [wirePayload, isSome, ← size]
  simp

theorem wireBytes_of_empty (crc32 : List Byte → BitVec 32) (empty : pkt.length = 0) :
    pkt.wireBytes crc32 = pkt.headed (pkt.wireCrc1 crc32) [] := by
  rw [wireBytes, if_pos empty, headed]

theorem wireBytes_of_nonempty (crc32 : List Byte → BitVec 32) (nonempty : pkt.length ≠ 0) :
    pkt.wireBytes crc32 = pkt.headed (pkt.wireCrc1 crc32)
      (pkt.wirePayload ++ (store32 (crc32 pkt.wirePayload)).reverse) := by
  rw [wireBytes, if_neg nonempty, headed]

end Pkt

variable (crc32 : List Byte → BitVec 32)

/-- The bytes of a well-formed packet are decoded to its fields. -/
theorem pktDecode_wireBytes {pkt : Pkt} (wellFormed : pkt.WellFormed) :
    pktDecode crc32 true (pkt.wireBytes crc32) pktNew = .ok (pkt.received crc32) := by
  have size := Pkt.length_wireBytes crc32 wellFormed.holdsPayload
  rw [pktDecode_eq_ok_iff]
  by_cases empty : pkt.length = 0
  · rw [Pkt.wireBytes_of_empty crc32 empty] at size ⊢
    have payload := wellFormed.payload
    rw [Pkt.wireSize, if_pos empty] at size
    rw [if_pos empty] at payload
    refine ⟨⟨Pkt.hasHeader_headed _ _ _ wellFormed.type wellFormed.short, ?_⟩, .inl ⟨size, ?_⟩⟩
    · rw [Pkt.trField_headed, wellFormed.trFlag]
      simp
    · rw [Pkt.headerPkt_headed, Pkt.received, if_pos empty, payload]
      rfl
  · have payload := wellFormed.payload_eq empty
    have payloadSize := (Pkt.readPayload_eq wellFormed.holdsPayload empty).2
    have positive : pkt.length.toNat ≠ 0 := fun zero => empty (BitVec.eq_of_toNat_eq zero)
    rw [Pkt.wireBytes_of_nonempty crc32 empty] at size ⊢
    rw [Pkt.wireSize, if_neg empty] at size
    have headerSize : (pkt.wireHeader ++ (store32 (pkt.wireCrc1 crc32)).reverse).length = 12 := by
      simp
    have payloadField : slice (pkt.headed (pkt.wireCrc1 crc32)
        (pkt.wirePayload ++ (store32 (crc32 pkt.wirePayload)).reverse)) 12 pkt.length.toNat =
          pkt.wirePayload :=
      slice_middle _ _ _ headerSize payloadSize
    have crc2Field : word (pkt.headed (pkt.wireCrc1 crc32)
        (pkt.wirePayload ++ (store32 (crc32 pkt.wirePayload)).reverse)) (12 + pkt.length.toNat) =
          crc32 pkt.wirePayload := by
      have before : (pkt.wireHeader ++ (store32 (pkt.wireCrc1 crc32)).reverse ++
          pkt.wirePayload).length = 12 + pkt.length.toNat := by
        rw [List.length_append, headerSize, payloadSize]
      have field := slice_middle _ (store32 (crc32 pkt.wirePayload)).reverse [] before
        (by simp : _ = 4)
      rw [List.append_nil, List.append_assoc _ pkt.wirePayload] at field
      rw [word, Pkt.headed, field, ofBE_reverse_store32]
    refine ⟨⟨Pkt.hasHeader_headed _ _ _ wellFormed.type wellFormed.short, ?_⟩,
      .inr ⟨⟨?_, ?_, ?_⟩, ?_⟩⟩
    · rw [Pkt.trField_headed, wellFormed.trFlag]
      simp
    · rw [Pkt.lengthField_headed]
      omega
    · rw [Pkt.lengthField_headed, size]
    · rw [Pkt.lengthField_headed, payloadField, crc2Field]
    · rw [fullPkt, Pkt.headerPkt_headed, Pkt.lengthField_headed, payloadField, crc2Field,
        Pkt.received, if_neg empty, payload]

/--
Encoding a well-formed packet succeeds for every capacity from its size on,
sets the length and only the checksum fields of the packet, and is undone by
decoding into a fresh structure.
-/
theorem pktDecode_pktEncode (pkt : Pkt) (buf : List Byte) (len : ℕ) (wellFormed : pkt.WellFormed)
    (needed : (if pkt.length = 0 then 12 else 16 + pkt.length.toNat) ≤ len)
    (capacity : len ≤ 65535) (room : len ≤ buf.length) :
    ∃ encoded stored decoded, pktEncode crc32 (some pkt) buf len = .ok encoded ∧
      encoded.status = .pktOk ∧
      encoded.len = (if pkt.length = 0 then 12 else 16 + pkt.length.toNat) ∧
      encoded.pkt = some stored ∧
      stored = { pkt with crc1 := stored.crc1, crc2 := stored.crc2 } ∧
      pktDecode crc32 true (encoded.buf.take encoded.len) pktNew = .ok decoded ∧
      decoded.type = pkt.type ∧ decoded.trFlag = pkt.trFlag ∧ decoded.window = pkt.window ∧
      decoded.seqNum = pkt.seqNum ∧ decoded.length = pkt.length ∧
      decoded.timestamp = pkt.timestamp ∧ decoded.payload = pkt.payload ∧
      decoded.crc1 = stored.crc1 ∧ (pkt.length ≠ 0 → decoded.crc2 = stored.crc2) := by
  have size := Pkt.length_wireBytes crc32 wellFormed.holdsPayload
  have encoded := pktEncode_eq crc32 buf len wellFormed.holdsPayload
    (by rw [Pkt.wireSize]; omega) (by rw [Pkt.wireSize]; omega)
  have sent : (pkt.wireBytes crc32 ++ buf.drop pkt.wireSize).take pkt.wireSize =
      pkt.wireBytes crc32 := List.take_left' size
  refine ⟨_, pkt.withCrcs crc32, pkt.received crc32, encoded, rfl, rfl, rfl, rfl, ?_, rfl, rfl, rfl,
    rfl, rfl, rfl, rfl, rfl, ?_⟩
  · rw [sent, pktDecode_wireBytes crc32 wellFormed]
  · intro nonempty
    rw [Pkt.received, Pkt.withCrcs, if_neg nonempty, if_neg nonempty]

def dataExample : Pkt :=
  { pktNew with
    type := ptypeData, window := 31, seqNum := 255, length := 3, timestamp := 1540000000
    payload := some [1, 2, 3] }

theorem pktDecode_pktEncode_dataExample :
    ∃ encoded stored decoded,
      pktEncode Crc.zlib (some dataExample) (List.replicate 528 0) 528 = .ok encoded ∧
      encoded.status = .pktOk ∧ encoded.len = 19 ∧ encoded.pkt = some stored ∧
      stored = { dataExample with crc1 := stored.crc1, crc2 := stored.crc2 } ∧
      pktDecode Crc.zlib true (encoded.buf.take encoded.len) pktNew = .ok decoded ∧
      decoded.type = 1 ∧ decoded.trFlag = 0 ∧ decoded.window = 31 ∧ decoded.seqNum = 255 ∧
      decoded.length = 3 ∧ decoded.timestamp = 1540000000 ∧ decoded.payload = some [1, 2, 3] ∧
      decoded.crc1 = stored.crc1 ∧ (dataExample.length ≠ 0 → decoded.crc2 = stored.crc2) :=
  pktDecode_pktEncode Crc.zlib dataExample (List.replicate 528 0) 528
    ⟨by decide, by decide, by decide, ⟨[1, 2, 3], rfl, rfl⟩⟩ (by decide) (by decide)
    List.length_replicate.ge

namespace Pkt

variable {data : List Byte} (pkt : Pkt)

/-- The header of the structure which has been filled from a string is that of the string. -/
theorem wireHeader_headerPkt (complete : 12 ≤ data.length) :
    (headerPkt data pkt).wireHeader = data.getD 0 0 :: slice data 1 7 := by
  have fields : ∀ byte : Byte,
      (byte.extractLsb' 6 2 ++ byte.extractLsb' 5 1 ++ byte.extractLsb' 0 5 : Byte) = byte := by
    decide
  have byte0 : (headerPkt data pkt).byte0 = data.getD 0 0 := fields _
  have width : (slice data 2 2).reverse.length = 2 := by
    rw [List.length_reverse, length_slice (by omega)]
  have length : (store16 (headerPkt data pkt).length).reverse = slice data 2 2 := by
    rw [headerPkt, lengthField, ByteString.ofBE, store16_load width, List.reverse_reverse]
  have timestamp : store32 (headerPkt data pkt).timestamp = slice data 4 4 :=
    store32_load (length_slice (by omega))
  rw [wireHeader, byte0, length, timestamp, slice_header complete]
  rfl

theorem headed_headerPkt (complete : 12 ≤ data.length) :
    (headerPkt data pkt).headed (word data 8) (data.drop 12) = data := by
  have nonempty : 0 < data.length := by omega
  have first : data = data.getD 0 0 :: data.drop 1 := by
    rw [List.getD_eq_getElem _ _ nonempty]
    exact List.drop_eq_getElem_cons nonempty
  have middle : data.drop 8 = (data.drop 1).drop 7 := by simp
  have last : data.drop 12 = (data.drop 8).drop 4 := by simp
  rw [headed, wireHeader_headerPkt pkt complete, ← slice_of_word (by omega), slice, slice, last,
    List.append_assoc, List.take_append_drop, middle, List.cons_append, List.take_append_drop]
  exact first.symm

theorem wireCrc1_headerPkt {crc32 : List Byte → BitVec 32} (header : HasHeader crc32 data) :
    (headerPkt data pkt).wireCrc1 crc32 = word data 8 := by
  have complete := header.complete
  have bytes := wireHeader_headerPkt pkt complete
  rw [wireHeader, List.cons.injEq] at bytes
  rw [wireCrc1, bytes.1, bytes.2, ← header.crc1, maskedHeader]

end Pkt

/-- A string which is a packet as a whole: with its payload, or without any. -/
def CompleteString (data : List Byte) : Prop :=
  12 < data.length ∨ data.length = 12 ∧ trField data = 0 ∧ lengthField data = 0

/-- A complete string is the encoding of the packet which it is decoded to. -/
theorem wireBytes_of_decoded {data : List Byte} {decoded : Pkt}
    (accepted : pktDecode crc32 true data pktNew = .ok decoded) (complete : CompleteString data) :
    decoded.HoldsPayload ∧ decoded.wireBytes crc32 = data ∧ decoded.withCrcs crc32 = decoded := by
  rw [pktDecode_eq_ok_iff] at accepted
  rcases accepted with ⟨⟨header, _⟩, accepted⟩
  have size := header.complete
  have crc1 := Pkt.wireCrc1_headerPkt pktNew header
  have bytes := Pkt.headed_headerPkt pktNew size
  rcases accepted with ⟨exact, rfl⟩ | ⟨payload, rfl⟩
  · have empty : (headerPkt data pktNew).length = 0 := by
      rcases complete with longer | ⟨_, _, announced⟩
      · omega
      · rw [headerPkt, announced]
        rfl
    rw [List.drop_eq_nil_of_le exact.le, ← crc1] at bytes
    refine ⟨.inl empty, ?_, ?_⟩
    · rw [Pkt.wireBytes_of_empty crc32 empty, bytes]
    · rw [Pkt.withCrcs, if_pos empty, crc1]
      rfl
  · have announced := payload.announced
    have length := payload.length
    have short := header.length
    simp only [maxPayloadSize] at short
    have count : (fullPkt data pktNew).length.toNat = lengthField data := by
      change (BitVec.ofNat 16 (lengthField data)).toNat = lengthField data
      rw [BitVec.toNat_ofNat]
      omega
    have nonempty : (fullPkt data pktNew).length ≠ 0 := by
      intro empty
      rw [empty] at count
      simp at count
      omega
    have sliceSize : (slice data 12 (lengthField data)).length = lengthField data :=
      length_slice (by omega)
    have wirePayload : (fullPkt data pktNew).wirePayload = slice data 12 (lengthField data) := by
      rw [Pkt.wirePayload, count]
      exact List.take_of_length_le sliceSize.le
    have rest : data.drop 12 = slice data 12 (lengthField data) ++
        (store32 (word data (12 + lengthField data))).reverse := by
      have last : slice data (12 + lengthField data) 4 =
          (data.drop 12).drop (lengthField data) := by
        rw [slice, List.drop_drop, List.take_of_length_le]
        rw [List.length_drop]
        omega
      rw [← slice_of_word (by omega), last, slice, List.take_append_drop]
    have crc1' : (fullPkt data pktNew).wireCrc1 crc32 = word data 8 := crc1
    refine ⟨.inr ⟨_, rfl, ?_⟩, ?_, ?_⟩
    · rw [count, sliceSize]
    · rw [Pkt.wireBytes_of_nonempty crc32 nonempty, wirePayload, payload.crc2, ← rest, crc1']
      exact bytes
    · rw [Pkt.withCrcs, if_neg nonempty, wirePayload, payload.crc2, crc1']
      rfl

/--
A complete string which is accepted is reproduced by encoding the packet which it
has been decoded to. Hence no other complete string is decoded to this packet.
-/
theorem pktEncode_pktDecode {data buf : List Byte} {len : ℕ} {decoded : Pkt}
    (accepted : pktDecode crc32 true data pktNew = .ok decoded) (complete : CompleteString data)
    (needed : data.length ≤ len) (capacity : len ≤ 65535) (room : len ≤ buf.length) :
    (∃ encoded, pktEncode crc32 (some decoded) buf len = .ok encoded ∧
        encoded.status = .pktOk ∧ encoded.len = data.length ∧
        encoded.buf.take encoded.len = data ∧ encoded.pkt = some decoded) ∧
      ∀ other, CompleteString other → pktDecode crc32 true other pktNew = .ok decoded →
        other = data := by
  rcases wireBytes_of_decoded crc32 accepted complete with ⟨holds, bytes, unchanged⟩
  have size : decoded.wireSize = data.length := by
    rw [← bytes, Pkt.length_wireBytes crc32 holds]
  have encodes := pktEncode_eq crc32 buf len holds (by omega) (by omega)
  rw [bytes, unchanged, size] at encodes
  constructor
  · exact ⟨_, encodes, rfl, rfl, List.take_left' rfl, rfl⟩
  · intro other otherComplete otherAccepted
    rw [← bytes, (wireBytes_of_decoded crc32 otherAccepted otherComplete).2.1]

theorem pktEncode_pktDecode_dataExample :
    (∃ encoded, pktEncode Crc.zlib (some (dataExample.received Crc.zlib)) (List.replicate 528 0)
          528 = .ok encoded ∧
        encoded.status = .pktOk ∧ encoded.len = (dataExample.wireBytes Crc.zlib).length ∧
        encoded.buf.take encoded.len = dataExample.wireBytes Crc.zlib ∧
        encoded.pkt = some (dataExample.received Crc.zlib)) ∧
      ∀ other, CompleteString other →
        pktDecode Crc.zlib true other pktNew = .ok (dataExample.received Crc.zlib) →
          other = dataExample.wireBytes Crc.zlib :=
  pktEncode_pktDecode Crc.zlib (by decide +kernel) (.inl (by decide +kernel)) (by decide +kernel)
    (by decide) List.length_replicate.ge

/-- What a congested network leaves of a datagram: the header, with the flag `TR` set. -/
def truncate (data : List Byte) : List Byte :=
  match data.take 12 with
  | [] => []
  | first :: rest => (first ||| 0x20) :: rest

theorem truncate_headed (pkt : Pkt) (crc : BitVec 32) (rest : List Byte) :
    truncate (pkt.headed crc rest) = { pkt with trFlag := 1 }.headed crc [] := by
  have header : (pkt.headed crc rest).take 12 =
      pkt.wireHeader ++ (store32 crc).reverse := by
    rw [Pkt.headed]
    exact List.take_left' (by simp)
  rw [truncate, header, Pkt.headed, List.append_nil, Pkt.wireHeader, Pkt.wireHeader,
    Pkt.byte0_set_trFlag]
  rfl

theorem wireCrc1_set_trFlag (pkt : Pkt) :
    { pkt with trFlag := 1 }.wireCrc1 crc32 = pkt.wireCrc1 crc32 := by
  have masked : { pkt with trFlag := 1 }.byte0 &&& 0xdf = pkt.byte0 &&& 0xdf := by
    rw [← Pkt.byte0_clear_trFlag, ← Pkt.byte0_clear_trFlag]
  rw [Pkt.wireCrc1, masked, Pkt.wireCrc1]

/-- A truncated data packet is accepted, without its payload. -/
theorem pktDecode_truncate {pkt : Pkt} (type : pkt.type = ptypeData)
    (short : pkt.length.toNat ≤ maxPayloadSize) :
    pktDecode crc32 true (truncate (pkt.wireBytes crc32)) pktNew =
      .ok { pkt with trFlag := 1, crc1 := pkt.wireCrc1 crc32, payload := none, crc2 := 0 } := by
  have bytes : truncate (pkt.wireBytes crc32) =
      { pkt with trFlag := 1 }.headed ({ pkt with trFlag := 1 }.wireCrc1 crc32) [] := by
    rw [wireCrc1_set_trFlag]
    by_cases empty : pkt.length = 0
    · rw [Pkt.wireBytes_of_empty crc32 empty, truncate_headed]
    · rw [Pkt.wireBytes_of_nonempty crc32 empty, truncate_headed]
  have valid : { pkt with trFlag := 1 }.type ≠ 0 := by
    rw [type]
    decide
  have header := Pkt.hasHeader_headed { pkt with trFlag := 1 } [] crc32 valid short
  rw [bytes, pktDecode_eq_ok_iff]
  refine ⟨⟨header, fun _ => ⟨?_, ?_⟩⟩, .inl ⟨?_, ?_⟩⟩
  · rw [Pkt.typeField_headed, type]
  · simp [Pkt.headed]
  · simp [Pkt.headed]
  · rw [Pkt.headerPkt_headed, wireCrc1_set_trFlag]
    rfl

/-- The flag `TR` is set in the first byte. -/
def setTr : List Byte → List Byte
  | [] => []
  | first :: rest => (first ||| 0x20) :: rest

theorem truncate_eq (data : List Byte) : truncate data = setTr (data.take 12) := by
  rw [truncate]
  cases data.take 12 with
  | nil => rfl
  | cons first rest => rfl

theorem setTr_headed (pkt : Pkt) (crc : BitVec 32) (rest : List Byte) :
    setTr (pkt.headed crc rest) = { pkt with trFlag := 1 }.headed crc rest := by
  rw [Pkt.headed, Pkt.headed, Pkt.wireHeader, Pkt.wireHeader, Pkt.byte0_set_trFlag]
  rfl

/-- A data packet with the flag set which is not truncated is rejected. -/
theorem pktDecode_setTr {pkt : Pkt} (type : pkt.type = ptypeData) (nonempty : pkt.length ≠ 0) :
    pktDecode crc32 true (setTr (pkt.wireBytes crc32)) pktNew = .error .eTr := by
  rw [Pkt.wireBytes_of_nonempty crc32 nonempty, setTr_headed]
  have size : 12 < ({ pkt with trFlag := 1 }.headed (pkt.wireCrc1 crc32)
      (pkt.wirePayload ++ (store32 (crc32 pkt.wirePayload)).reverse)).length := by
    simp [Pkt.headed]
    omega
  rw [pktDecode_eq crc32 true pktNew size.le, Pkt.typeField_headed, Pkt.trField_headed, type,
    if_neg (by decide), if_neg (by simp), if_pos ⟨rfl, size.ne'⟩]

end ReliableTransfer
