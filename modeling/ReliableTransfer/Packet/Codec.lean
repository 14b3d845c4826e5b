import ReliableTransfer.Packet.Basic

/-!
# Encoding and decoding of packets

This file embeds `pkt_encode` and `pkt_decode`. The checksum function is the
parameter `crc32`. The bytes which a successful `pkt_encode` leaves in the
buffer are given in closed form by `Pkt.wireBytes`, and proved to be so in
`pktEncode_eq`.
-/

namespace ReliableTransfer

variable (crc32 : List Byte → BitVec 32)

/--
`pkt_decode`, on the bytes received and a packet structure. The flag `alloc`
says whether memory can be allocated for the payload. Whenever the result is
an error code, the structure has been freed by `pkt_del`.
-/
def pktDecode (alloc : Bool) (data : List Byte) (pkt : Pkt) : Except PktStatusCode Pkt :=
  if data.length < 12 then .error .eNoheader
  else
    let pkt := pkt.setByte0 (data.getD 0 0)
    if pkt.type.toNat < 1 ∨ pkt.type.toNat > 3 then .error .eType
    else if pkt.trFlag = 1 ∧ pkt.type ≠ ptypeData then .error .eTr
    else if pkt.trFlag = 1 ∧ data.length ≠ 12 then .error .eTr
    else
      let pkt := { pkt with seqNum := data.getD 1 0, length := load16 data 2 }
      let sLength := htons pkt.length
      if sLength.toNat > maxPayloadSize then .error .eLength
      else
        let pkt := { pkt with timestamp := load32 data 4, crc1 := htonl (load32 data 8) }
        -- The length field of the structure is still in network order here.
        if crc32 { pkt with trFlag := 0 }.first8 ≠ pkt.crc1 then .error .eCrc
        else
          let pkt := { pkt with length := sLength }
          if data.length = 12 then .ok pkt
          else if data.length ≠ (12 + pkt.length.toNat + 4) % 65536 then .error .eUnconsistent
          else if pkt.length = 0 then .error .eUnconsistent
          else if alloc = false then .error .eNomem
          else
            let payload := slice data 12 pkt.length.toNat
            let crc2 := htonl (load32 data (12 + pkt.length.toNat))
            if crc32 payload ≠ crc2 then .error .eCrc
            else .ok { pkt with payload := some payload, crc2 := crc2 }

/-- What `pkt_encode` returns, and leaves in the packet, the buffer and `*len`. -/
structure Encoded where
  status : PktStatusCode
  pkt : Option Pkt
  buf : List Byte
  len : ℕ

/-- The payload bytes which `pkt_encode` reads. -/
def Pkt.readPayload (pkt : Pkt) : Except Fault (List Byte) :=
  match pkt.payload with
  | none => .error .nullPointer
  | some bytes =>
      if bytes.length < pkt.length.toNat then .error .outOfBounds
      else .ok (bytes.take pkt.length.toNat)

/-- `pkt_encode`, on a packet which may be `NULL`, a buffer and the capacity `*len`. -/
def pktEncode (pkt : Option Pkt) (buf : List Byte) (len : ℕ) : Except Fault Encoded :=
  match pkt with
  | none => .ok ⟨.eUnconsistent, none, buf, len⟩
  | some pkt =>
      let allocsize := if pkt.length ≠ 0 then 12 + (pkt.length.toNat + 4) else 12
      if len % 65536 < allocsize then .ok ⟨.eNomem, some pkt, buf, len⟩
      else do
        let buf ← memcpy buf 0 [pkt.byte0]
        let buf ← memcpy buf 1 [pkt.seqNum]
        let buf ← memcpy buf 2 (store16 (htons pkt.length))
        let buf ← memcpy buf 4 (store32 pkt.timestamp)
        let typeTrWinTmp := buf.getD 0 0
        let buf ← memcpy buf 0 [typeTrWinTmp &&& 0xdf]
        let sCrc1 := crc32 (slice buf 0 8)
        let pkt := (pktSetCrc1 pkt sCrc1).2
        let buf ← memcpy buf 8 (store32 (htonl sCrc1))
        let buf ← memcpy buf 0 [typeTrWinTmp]
        if allocsize > 12 then
          let payload ← pkt.readPayload
          let buf ← memcpy buf 12 payload
          let sCrc2 := crc32 payload
          let pkt := (pktSetCrc2 pkt sCrc2).2
          let buf ← memcpy buf (12 + pkt.length.toNat) (store32 (htonl sCrc2))
          return ⟨.pktOk, some pkt, buf, allocsize⟩
        else
          return ⟨.pktOk, some pkt, buf, allocsize⟩

namespace Pkt

/-- The number of bytes of the encoded packet. -/
def wireSize (pkt : Pkt) : ℕ :=
  if pkt.length = 0 then 12 else 16 + pkt.length.toNat

/-- The header without its checksum, in network order. -/
def wireHeader (pkt : Pkt) : List Byte :=
  pkt.byte0 :: pkt.seqNum :: ((store16 pkt.length).reverse ++ store32 pkt.timestamp)

/-- The checksum of the header, taken with the flag `TR` cleared. -/
def wireCrc1 (pkt : Pkt) : BitVec 32 :=
  crc32 ((pkt.byte0 &&& 0xdf) :: pkt.seqNum ::
    ((store16 pkt.length).reverse ++ store32 pkt.timestamp))

/-- The part of the payload block which the length field counts. -/
def wirePayload (pkt : Pkt) : List Byte :=
  (pkt.payload.getD []).take pkt.length.toNat

/-- The encoded packet. -/
def wireBytes (pkt : Pkt) : List Byte :=
  pkt.wireHeader ++ (store32 (pkt.wireCrc1 crc32)).reverse ++
    if pkt.length = 0 then []
    else pkt.wirePayload ++ (store32 (crc32 pkt.wirePayload)).reverse

/-- The packet after its encoding: only the checksum fields are set. -/
def withCrcs (pkt : Pkt) : Pkt :=
  { pkt with
    crc1 := pkt.wireCrc1 crc32
    crc2 := if pkt.length = 0 then pkt.crc2 else crc32 pkt.wirePayload }

/-- The payload block holds all the bytes which the length field counts. -/
def HoldsPayload (pkt : Pkt) : Prop :=
  pkt.length = 0 ∨ ∃ bytes, pkt.payload = some bytes ∧ pkt.length.toNat ≤ bytes.length

@[simp]
theorem length_wireHeader (pkt : Pkt) : pkt.wireHeader.length = 8 := by
  simp [wireHeader]

theorem readPayload_eq {pkt : Pkt} (holds : pkt.HoldsPayload) (nonempty : pkt.length ≠ 0) :
    pkt.readPayload = .ok pkt.wirePayload ∧ pkt.wirePayload.length = pkt.length.toNat := by
  rcases holds with empty | ⟨bytes, payload, enough⟩
  · exact absurd empty nonempty
  · constructor
    · simp [readPayload, wirePayload, payload, Nat.not_lt.mpr enough]
    · simpa [wirePayload, payload] using enough

theorem length_wireBytes {pkt : Pkt} (holds : pkt.HoldsPayload) :
    (pkt.wireBytes crc32).length = pkt.wireSize := by
  by_cases empty : pkt.length = 0
  · simp [wireBytes, wireSize, empty]
  · have payload := (readPayload_eq holds empty).2
    simp only [wireBytes, wireSize, empty, if_false, List.length_append, length_wireHeader,
      List.length_reverse, length_store32, payload]
    omega

end Pkt

/-- The four writes of the header, before its checksum. -/
private theorem encode_header (pkt : Pkt) {buf : List Byte} (room : 12 ≤ buf.length) :
    memcpy buf 0 [pkt.byte0] = .ok ([pkt.byte0] ++ buf.drop 1) ∧
      memcpy ([pkt.byte0] ++ buf.drop 1) 1 [pkt.seqNum] =
        .ok ([pkt.byte0, pkt.seqNum] ++ buf.drop 2) ∧
      memcpy ([pkt.byte0, pkt.seqNum] ++ buf.drop 2) 2 (store16 (htons pkt.length)) =
        .ok ([pkt.byte0, pkt.seqNum] ++ (store16 pkt.length).reverse ++ buf.drop 4) ∧
      memcpy ([pkt.byte0, pkt.seqNum] ++ (store16 pkt.length).reverse ++ buf.drop 4) 4
        (store32 pkt.timestamp) = .ok (pkt.wireHeader ++ buf.drop 8) := by
  refine ⟨?_, ?_, ?_, ?_⟩
  · simpa using memcpy_next [] buf [pkt.byte0] rfl
      (by simp; omega)
  · simpa using memcpy_next [pkt.byte0] buf [pkt.seqNum] rfl
      (by simp; omega)
  · rw [memcpy_next _ _ _ (by simp) (by simp; omega), store16_htons]
    simp
  · rw [memcpy_next _ _ _ (by simp) (by simp; omega)]
    simp [Pkt.wireHeader]

/-- The first byte is masked for the checksum, and restored behind it. -/
private theorem encode_crc1 (pkt : Pkt) {buf : List Byte} (room : 12 ≤ buf.length) :
    ∃ masked, memcpy (pkt.wireHeader ++ buf.drop 8) 0 [pkt.byte0 &&& 0xdf] = .ok masked ∧
      crc32 (slice masked 0 8) = pkt.wireCrc1 crc32 ∧
      ∃ summed, memcpy masked 8 (store32 (htonl (pkt.wireCrc1 crc32))) = .ok summed ∧
        memcpy summed 0 [pkt.byte0] = .ok
          (pkt.wireHeader ++ (store32 (pkt.wireCrc1 crc32)).reverse ++ buf.drop 12) := by
  refine ⟨_, memcpy_first _ _ _, ?_, ?_⟩
  · have header : slice ((pkt.byte0 &&& 0xdf) :: ((pkt.seqNum ::
        ((store16 pkt.length).reverse ++ store32 pkt.timestamp)) ++ buf.drop 8)) 0 8 =
        (pkt.byte0 &&& 0xdf) :: pkt.seqNum ::
          ((store16 pkt.length).reverse ++ store32 pkt.timestamp) := by
      rw [← List.cons_append, slice, List.drop_zero, List.take_left']
      simp
    exact congrArg crc32 header
  · refine ⟨(pkt.byte0 &&& 0xdf) :: ((pkt.seqNum ::
      ((store16 pkt.length).reverse ++ store32 pkt.timestamp)) ++
        (store32 (pkt.wireCrc1 crc32)).reverse ++ buf.drop 12), ?_, ?_⟩
    · have written := memcpy_next ((pkt.byte0 &&& 0xdf) :: (pkt.seqNum ::
        ((store16 pkt.length).reverse ++ store32 pkt.timestamp))) buf
        (store32 (htonl (pkt.wireCrc1 crc32))) (by simp : _ = 8) (by simp; omega)
      simpa [store32_htonl] using written
    · rw [memcpy_first]
      simp [Pkt.wireHeader]

/--
A packet which holds its payload is encoded as `wireBytes` whenever its size
fits into the buffer and into the low 16 bits of the capacity.
-/
theorem pktEncode_eq {pkt : Pkt} (buf : List Byte) (len : ℕ) (holds : pkt.HoldsPayload)
    (capacity : pkt.wireSize ≤ len % 65536) (room : pkt.wireSize ≤ buf.length) :
    pktEncode crc32 (some pkt) buf len =
      .ok ⟨.pktOk, some (pkt.withCrcs crc32), pkt.wireBytes crc32 ++ buf.drop pkt.wireSize,
        pkt.wireSize⟩ := by
  have headerRoom : 12 ≤ buf.length := by
    unfold Pkt.wireSize at room
    split at room <;> omega
  rcases encode_header pkt headerRoom with ⟨first, second, third, fourth⟩
  rcases encode_crc1 crc32 pkt headerRoom with
    ⟨masked, mask, checksum, summed, sum, restore⟩
  have typeTrWin : (pkt.wireHeader ++ buf.drop 8).getD 0 0 = pkt.byte0 := rfl
  by_cases empty : pkt.length = 0
  · have size : pkt.wireSize = 12 := by simp [Pkt.wireSize, empty]
    have enough : ¬len % 65536 < 12 := by omega
    simp only [pktEncode, empty, ne_eq, not_true_eq_false, if_false, enough, first, second, bind,
      Except.bind]
    rw [empty] at third fourth
    simp only [third, fourth, typeTrWin, mask, checksum, pktSetCrc1, sum, restore]
    simp [Pkt.withCrcs, Pkt.wireBytes, size, empty, pure, Except.pure]
  · have size : pkt.wireSize = 16 + pkt.length.toNat := by rw [Pkt.wireSize, if_neg empty]
    have enough : ¬len % 65536 < 12 + (pkt.length.toNat + 4) := by omega
    have more : 12 + (pkt.length.toNat + 4) > 12 := by omega
    rcases Pkt.readPayload_eq holds empty with ⟨payload, payloadLength⟩
    have payload' : Pkt.readPayload { pkt with crc1 := pkt.wireCrc1 crc32 } =
        .ok pkt.wirePayload := payload
    have fifth : memcpy (pkt.wireHeader ++ (store32 (pkt.wireCrc1 crc32)).reverse ++ buf.drop 12) 12
        pkt.wirePayload = .ok (pkt.wireHeader ++ (store32 (pkt.wireCrc1 crc32)).reverse ++
          pkt.wirePayload ++ buf.drop (12 + pkt.length.toNat)) := by
      rw [memcpy_next _ _ _ (by simp) (by omega), payloadLength]
    have sixth : memcpy (pkt.wireHeader ++ (store32 (pkt.wireCrc1 crc32)).reverse ++
          pkt.wirePayload ++ buf.drop (12 + pkt.length.toNat)) (12 + pkt.length.toNat)
        (store32 (htonl (crc32 pkt.wirePayload))) =
          .ok (pkt.wireBytes crc32 ++ buf.drop pkt.wireSize) := by
      rw [memcpy_next _ _ _ (by simp [payloadLength]; omega) (by simp; omega), store32_htonl,
        Pkt.wireBytes, if_neg empty, size, List.length_reverse, length_store32,
        show 12 + pkt.length.toNat + 4 = 16 + pkt.length.toNat by omega]
      simp only [List.append_assoc]
    simp only [pktEncode, empty, ne_eq, not_false_eq_true, if_true, enough, if_false, first,
      second, third, fourth, typeTrWin, mask, checksum, pktSetCrc1, pktSetCrc2, sum, restore,
      more, payload', fifth, sixth, bind, Except.bind, pure, Except.pure]
    rw [Pkt.withCrcs, if_neg empty, size]
    congr 2
    omega

/-- A packet whose payload block is missing or too short is read outside of the block. -/
theorem pktEncode_faults {pkt : Pkt} (buf : List Byte) (len : ℕ) (lacks : ¬pkt.HoldsPayload)
    (capacity : pkt.wireSize ≤ len % 65536) (room : pkt.wireSize ≤ buf.length) :
    ∃ fault, pktEncode crc32 (some pkt) buf len = .error fault := by
  have nonempty : pkt.length ≠ 0 := fun empty => lacks (.inl empty)
  rw [Pkt.wireSize, if_neg nonempty] at capacity room
  have headerRoom : 12 ≤ buf.length := by omega
  have enough : ¬len % 65536 < 12 + (pkt.length.toNat + 4) := by omega
  have more : 12 + (pkt.length.toNat + 4) > 12 := by omega
  rcases encode_header pkt headerRoom with ⟨first, second, third, fourth⟩
  rcases encode_crc1 crc32 pkt headerRoom with
    ⟨masked, mask, checksum, summed, sum, restore⟩
  have typeTrWin : (pkt.wireHeader ++ buf.drop 8).getD 0 0 = pkt.byte0 := rfl
  have unread : ∃ fault, Pkt.readPayload { pkt with crc1 := pkt.wireCrc1 crc32 } =
      .error fault := by
    rcases payload : pkt.payload with _ | bytes
    · exact ⟨.nullPointer, by simp [Pkt.readPayload]⟩
    · have short : bytes.length < pkt.length.toNat := by
        by_contra holds
        exact lacks (.inr ⟨bytes, payload, by omega⟩)
      exact ⟨.outOfBounds, by simp [Pkt.readPayload, short]⟩
  rcases unread with ⟨fault, unread⟩
  refine ⟨fault, ?_⟩
  simp only [pktEncode, nonempty, ne_eq, not_false_eq_true, if_true, enough, if_false, first,
    second, third, fourth, typeTrWin, mask, checksum, pktSetCrc1, sum, restore, more, unread, bind,
    Except.bind]

end ReliableTransfer
