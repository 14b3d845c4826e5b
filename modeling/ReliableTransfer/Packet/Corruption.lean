import ReliableTransfer.Packet.RoundTrip

/-!
# Corruption of one byte

An encoded packet in which one byte has been changed is not accepted. Each byte
is covered by one of the two checksums or belongs to one of them; only the flag
`TR` is masked out of the first one. Setting this flag is noticed in another way,
unless the packet is a data packet without a payload: it is then a valid
truncated packet.
-/

namespace ReliableTransfer

section Bytes

variable {data : List Byte} {offset count index : ℕ} {value : Byte}

theorem slice_set_of_outside (outside : index < offset ∨ offset + count ≤ index) :
    slice (data.set index value) offset count = slice data offset count := by
  rcases outside with before | behind
  · rw [slice, List.drop_set_of_lt before, slice]
  · rw [slice, List.drop_set, if_neg (by omega), List.take_set_of_le (by omega), slice]

theorem slice_set_of_inside (reached : offset ≤ index) :
    slice (data.set index value) offset count =
      (slice data offset count).set (index - offset) value := by
  rw [slice, List.drop_set, if_neg (by omega), List.take_set, slice]

/-- A changed byte inside of a slice is a changed byte of the slice. -/
theorem getElem_slice (inside : index < data.length) (reached : offset ≤ index)
    (inSlice : index - offset < (slice data offset count).length) :
    (slice data offset count)[index - offset] = data[index] := by
  have position : offset + (index - offset) = index := by omega
  simp [slice, position]

theorem checksum_slice_set_ne (inside : index < data.length)
    (different : value ≠ data[index]) (reached : offset ≤ index) (within : index < offset + count)
    (fits : offset + count ≤ data.length) :
    Crc.zlib (slice (data.set index value) offset count) ≠ Crc.zlib (slice data offset count) := by
  have inSlice : index - offset < (slice data offset count).length := by
    rw [length_slice fits]
    omega
  rw [slice_set_of_inside reached]
  apply Crc.checksum_set_ne (by decide) (by decide) inSlice
  rwa [getElem_slice inside reached]

theorem word_set_of_outside (outside : index < offset ∨ offset + 4 ≤ index) :
    word (data.set index value) offset = word data offset := by
  rw [word, slice_set_of_outside outside, word]

theorem word_set_ne (inside : index < data.length) (different : value ≠ data[index])
    (reached : offset ≤ index) (within : index < offset + 4) (fits : offset + 4 ≤ data.length) :
    word (data.set index value) offset ≠ word data offset := by
  intro same
  have inSlice : index - offset < (slice data offset 4).length := by
    rw [length_slice fits]
    omega
  have sameBytes : slice (data.set index value) offset 4 = slice data offset 4 := by
    rw [slice_of_word fits, slice_of_word (by rwa [List.length_set]), same]
  rw [slice_set_of_inside reached] at sameBytes
  have sameByte := congrArg (fun bytes => bytes[index - offset]?) sameBytes
  simp only [List.getElem?_set_self inSlice, List.getElem?_eq_getElem inSlice,
    getElem_slice inside reached, Option.some.injEq] at sameByte
  exact different sameByte

/-- The flag `TR` is the only bit of the first byte which the checksum does not see. -/
theorem eq_or_flag_of_masked {left right : Byte} (same : left &&& 0xdf = right &&& 0xdf) :
    left = right ∨ left = right ^^^ 0x20 := by
  have bits : ∀ bits : Byte, bits &&& 0xdf = 0 → bits = 0 ∨ bits = 0x20 := by
    decide
  have masked : (left ^^^ right) &&& 0xdf = 0 := by
    have split : (left ^^^ right) &&& 0xdf = (left &&& 0xdf) ^^^ (right &&& 0xdf) := by
      ext position
      simp [Bool.and_xor_distrib_right]
    rw [split, same]
    exact BitVec.xor_self
  rcases bits _ masked with none | flag
  · exact .inl (BitVec.xor_eq_zero_iff.mp none)
  · right
    rw [← flag, BitVec.xor_comm left, ← BitVec.xor_assoc, BitVec.xor_self, BitVec.zero_xor]

theorem checksum_maskedHeader_set_ne (complete : 12 ≤ data.length) (inside : index < data.length)
    (different : value ≠ data[index]) (notFlag : index = 0 → value ≠ data[index] ^^^ 0x20)
    (header : index < 8) :
    Crc.zlib (maskedHeader (data.set index value)) ≠ Crc.zlib (maskedHeader data) := by
  cases index with
  | zero =>
      intro same
      have first : data.getD 0 0 = data[0] := List.getD_eq_getElem _ _ _
      have firstSet : (data.set 0 value).getD 0 0 = value := by
        rw [List.getD_eq_getElem _ _ (by rwa [List.length_set]), List.getElem_set_self]
      rw [maskedHeader, maskedHeader, slice_set_of_outside (.inl (by omega)), firstSet,
        first] at same
      have masked := Crc.checksum_single (by decide) (by decide) [] _ same
      rcases eq_or_flag_of_masked masked with unchanged | flag
      · exact different unchanged
      · exact notFlag rfl flag
  | succ index =>
      have first : (data.set (index + 1) value).getD 0 0 = data.getD 0 0 := by
        rw [List.getD_eq_getElem _ _ (by rw [List.length_set]; omega),
          List.getD_eq_getElem _ _ (by omega), List.getElem_set_ne (by omega)]
      have inSlice : index + 1 - 1 < (slice data 1 7).length := by
        rw [length_slice (by omega)]
        omega
      have inHeader : index + 1 < (maskedHeader data).length := by
        rw [maskedHeader, List.length_cons]
        omega
      have changed : maskedHeader (data.set (index + 1) value) =
          (maskedHeader data).set (index + 1) value := by
        rw [maskedHeader, first, slice_set_of_inside (by omega), maskedHeader, List.set_cons_succ,
          Nat.add_sub_cancel]
      have original : (maskedHeader data)[index + 1] = data[index + 1] := by
        have sliced := getElem_slice inside (Nat.le_add_left 1 index) inSlice
        rw [← sliced]
        rfl
      rw [changed]
      apply Crc.checksum_set_ne (by decide) (by decide) inHeader
      rwa [original]

end Bytes

/-- A complete packet in which one byte is changed, but not only `TR`, is not accepted. -/
theorem pktDecode_set_ne_ok {data : List Byte} {index : ℕ} {value : Byte}
    (format : PacketFormat Crc.zlib data) (notTruncated : trField data = 0)
    (inside : index < data.length) (different : value ≠ data[index])
    (notFlag : index = 0 → value ≠ data[index] ^^^ 0x20) (decoded : Pkt) :
    pktDecode Crc.zlib true (data.set index value) pktNew ≠ .ok decoded := by
  intro accepted
  rw [pktDecode_eq_ok_iff, List.length_set] at accepted
  rcases accepted with ⟨⟨headerSet, _⟩, accepted⟩
  have header := format.1
  have complete := header.complete
  have crc1 := headerSet.crc1
  rcases Nat.lt_or_ge index 8 with inFields | behindFields
  · rw [word_set_of_outside (.inl inFields), ← header.crc1] at crc1
    exact checksum_maskedHeader_set_ne complete inside different notFlag inFields crc1
  have sameHeader : maskedHeader (data.set index value) = maskedHeader data := by
    rw [maskedHeader, slice_set_of_outside (.inr behindFields),
      List.getD_eq_getElem _ _ (by rw [List.length_set]; omega), List.getElem_set_ne (by omega),
      ← List.getD_eq_getElem _ 0, maskedHeader]
  have sameLength : lengthField (data.set index value) = lengthField data := by
    rw [lengthField, slice_set_of_outside (.inr (by omega)), lengthField]
  rcases Nat.lt_or_ge index 12 with inCrc1 | behindHeader
  · rw [sameHeader, header.crc1] at crc1
    exact word_set_ne inside different behindFields inCrc1 complete crc1.symm
  -- The byte lies behind the header, so the packet has a payload.
  rcases format.2 with ⟨flag, _⟩ | ⟨_, _, exact⟩ | ⟨_, payload⟩
  · simp [notTruncated] at flag
  · omega
  · have size := payload.length
    have announced := payload.announced
    rcases accepted with ⟨exact, _⟩ | ⟨payloadSet, _⟩
    · omega
    · have crc2 := payloadSet.crc2
      rw [sameLength] at crc2
      rcases Nat.lt_or_ge index (12 + lengthField data) with inPayload | inCrc2
      · rw [word_set_of_outside (.inl inPayload), ← payload.crc2] at crc2
        exact checksum_slice_set_ne inside different behindHeader inPayload (by omega) crc2
      · rw [slice_set_of_outside (.inr inCrc2), payload.crc2] at crc2
        exact word_set_ne inside different inCrc2 (by omega) (by omega) crc2.symm

section Encoded

variable (crc32 : List Byte → BitVec 32) (pkt : Pkt)

theorem trField_wireBytes : trField (pkt.wireBytes crc32) = pkt.trFlag := by
  by_cases empty : pkt.length = 0
  · rw [Pkt.wireBytes_of_empty crc32 empty, Pkt.trField_headed]
  · rw [Pkt.wireBytes_of_nonempty crc32 empty, Pkt.trField_headed]

theorem lengthField_wireBytes : lengthField (pkt.wireBytes crc32) = pkt.length.toNat := by
  by_cases empty : pkt.length = 0
  · rw [Pkt.wireBytes_of_empty crc32 empty, Pkt.lengthField_headed]
  · rw [Pkt.wireBytes_of_nonempty crc32 empty, Pkt.lengthField_headed]

variable {pkt}

theorem packetFormat_wireBytes (wellFormed : pkt.WellFormed) :
    PacketFormat crc32 (pkt.wireBytes crc32) := by
  have size := Pkt.length_wireBytes crc32 wellFormed.holdsPayload
  have accepted := pktDecode_wireBytes crc32 wellFormed
  apply ((pktDecode_accepts_iff crc32 _).mpr _).mp ⟨_, accepted⟩
  rintro ⟨_, exact, _, announced⟩
  rw [lengthField_wireBytes] at announced
  have nonempty : pkt.length ≠ 0 := by
    intro empty
    simp [empty] at announced
  rw [size, Pkt.wireSize, if_neg nonempty] at exact
  omega

/-- With the flag `TR` set a packet is unacceptable, unless it is an empty data packet. -/
theorem pktDecode_flag_ne_ok (wellFormed : pkt.WellFormed)
    (notPlain : ¬(pkt.type = ptypeData ∧ pkt.length = 0)) (decoded : Pkt) :
    pktDecode crc32 true ((pkt.wireBytes crc32).set 0 (pkt.byte0 ^^^ 0x20)) pktNew ≠
      .ok decoded := by
  intro accepted
  rw [pktDecode_eq_ok_iff] at accepted
  rcases accepted with ⟨⟨_, truncated⟩, _⟩
  have fields : ∀ (type : BitVec 2) (window : BitVec 5),
      ((type ++ (0 : BitVec 1) ++ window : Byte) ^^^ 0x20).extractLsb' 5 1 = 1 ∧
        ((type ++ (0 : BitVec 1) ++ window : Byte) ^^^ 0x20).extractLsb' 6 2 = type := by
    decide
  have byte0 : pkt.byte0 = pkt.type ++ (0 : BitVec 1) ++ pkt.window := by
    rw [Pkt.byte0, wellFormed.trFlag]
  have first : ((pkt.wireBytes crc32).set 0 (pkt.byte0 ^^^ 0x20)).getD 0 0 =
      pkt.byte0 ^^^ 0x20 := rfl
  rw [trField, typeField, first, byte0, (fields pkt.type pkt.window).1,
    (fields pkt.type pkt.window).2, List.length_set,
    Pkt.length_wireBytes crc32 wellFormed.holdsPayload, Pkt.wireSize] at truncated
  rcases truncated rfl with ⟨type, exact⟩
  apply notPlain
  refine ⟨type, ?_⟩
  by_contra nonempty
  rw [if_neg nonempty] at exact
  omega

/--
A packet whose encoding differs in one byte from what has been sent is not
accepted, but for a data packet without payload in which only `TR` has been set.
-/
theorem pktDecode_corrupted (pkt : Pkt) (buf : List Byte) (len : ℕ) (wellFormed : pkt.WellFormed)
    (needed : (if pkt.length = 0 then 12 else 16 + pkt.length.toNat) ≤ len)
    (capacity : len ≤ 65535) (room : len ≤ buf.length) :
    ∃ encoded data, pktEncode Crc.zlib (some pkt) buf len = .ok encoded ∧
      encoded.status = .pktOk ∧ data = encoded.buf.take encoded.len ∧
      data.length = encoded.len ∧
      ∀ index value, ∀ inside : index < data.length, value ≠ data[index] →
        (index = 0 → value = data[index] ^^^ 0x20 → ¬(pkt.type = ptypeData ∧ pkt.length = 0)) →
          ∀ alloc decoded,
            pktDecode Crc.zlib alloc (data.set index value) pktNew ≠ .ok decoded := by
  have size := Pkt.length_wireBytes Crc.zlib wellFormed.holdsPayload
  have encodes := pktEncode_eq Crc.zlib buf len wellFormed.holdsPayload
    (by rw [Pkt.wireSize]; omega) (by rw [Pkt.wireSize]; omega)
  refine ⟨_, pkt.wireBytes Crc.zlib, encodes, rfl, (List.take_left' size).symm, size, ?_⟩
  intro index value inside different flag alloc decoded accepted
  have acceptedAlloc := pktDecode_of_alloc Crc.zlib accepted
  revert acceptedAlloc
  by_cases flagged : index = 0 ∧ value = (pkt.wireBytes Crc.zlib)[index] ^^^ 0x20
  · rcases flagged with ⟨rfl, rfl⟩
    exact pktDecode_flag_ne_ok Crc.zlib wellFormed (flag rfl rfl) decoded
  · apply pktDecode_set_ne_ok (packetFormat_wireBytes Crc.zlib wellFormed)
    · rw [trField_wireBytes, wellFormed.trFlag]
    · exact different
    · exact fun first changed => flagged ⟨first, changed⟩

theorem pktDecode_corrupted_dataExample :
    ∃ encoded data,
      pktEncode Crc.zlib (some dataExample) (List.replicate 528 0) 528 = .ok encoded ∧
      encoded.status = .pktOk ∧ data = encoded.buf.take encoded.len ∧
      data.length = encoded.len ∧
      ∀ index value, ∀ inside : index < data.length, value ≠ data[index] →
        (index = 0 → value = data[index] ^^^ 0x20 →
          ¬(dataExample.type = ptypeData ∧ dataExample.length = 0)) →
          ∀ alloc decoded,
            pktDecode Crc.zlib alloc (data.set index value) pktNew ≠ .ok decoded :=
  pktDecode_corrupted dataExample (List.replicate 528 0) 528
    ⟨by decide, by decide, by decide, ⟨[1, 2, 3], rfl, rfl⟩⟩ (by decide) (by decide)
    List.length_replicate.ge

end Encoded

end ReliableTransfer
