import ReliableTransfer.Packet.Corruption

/-!
# Corruption by bursts

An encoded packet consists of two parts, the header and the payload, each followed by its
checksum. In each of them the network changes up to four consecutive bytes of the contents,
or any bytes of the checksum (`Damage`). Such a string is accepted only if nothing has been
changed, or if it is a data packet without a payload in which just `TR` has been set.
-/

namespace ReliableTransfer

/--
What may have happened to the `count` bytes from an offset on, and to the checksum behind
them: a burst in the former, or any change of the latter.
-/
inductive Damage (sent data : List Byte) (offset count : ℕ) : Prop where
  | contents (start width : ℕ) (short : width ≤ 4)
      (agree : Crc.AgreeOutside start width (slice sent offset count) (slice data offset count))
      (checksum : slice data (offset + count) 4 = slice sent (offset + count) 4)
  | checksum (contents : slice data offset count = slice sent offset count)

section Parts

variable {sent data : List Byte} {offset count : ℕ}

theorem slice_slice {inner few : ℕ} (within : inner + few ≤ count) :
    slice (slice data offset count) inner few = slice data (offset + inner) few := by
  rw [slice, slice, slice, List.drop_take, List.take_take, List.drop_drop,
    Nat.min_eq_left (by omega)]

theorem drop_eq_of_slice (same : slice data offset count = slice sent offset count)
    (behind : data.drop (offset + count) = sent.drop (offset + count)) :
    data.drop offset = sent.drop offset := by
  rw [← List.take_append_drop count (data.drop offset),
    ← List.take_append_drop count (sent.drop offset), List.drop_drop, List.drop_drop, behind]
  rw [slice, slice] at same
  rw [same]

theorem drop_eq_of_le (first : data.length ≤ offset) (second : sent.length ≤ offset) :
    data.drop offset = sent.drop offset := by
  rw [List.drop_eq_nil_of_le first, List.drop_eq_nil_of_le second]

/-- If both checksums are right, a part has not been changed, as far as the checksum sees it. -/
theorem Damage.unchanged (damage : Damage sent data offset count) (view : List Byte → List Byte)
    (keeps : ∀ start width left right, Crc.AgreeOutside start width left right →
      Crc.AgreeOutside start width (view left) (view right))
    (before : Crc.zlib (view (slice sent offset count)) = word sent (offset + count))
    (after : Crc.zlib (view (slice data offset count)) = word data (offset + count))
    (fits : offset + count + 4 ≤ sent.length) (same : data.length = sent.length) :
    view (slice data offset count) = view (slice sent offset count) ∧
      slice data (offset + count) 4 = slice sent (offset + count) 4 := by
  cases damage with
  | contents start width short agree checksum =>
      refine ⟨?_, checksum⟩
      have words : word data (offset + count) = word sent (offset + count) := by
        rw [word, checksum, word]
      rw [words, ← before] at after
      exact (Crc.checksum_eq_of_agree (by decide) (keeps start width _ _ agree) (by omega)
        after.symm).symm
  | checksum contents =>
      rw [contents, before] at after
      exact ⟨by rw [contents], by rw [slice_of_word (by omega), slice_of_word fits, after]⟩

end Parts

section Headers

variable {sent data : List Byte}

theorem maskedHeader_eq_modifyHead (complete : 12 ≤ data.length) :
    maskedHeader data = (slice data 0 8).modifyHead fun first => first &&& 0xdf := by
  cases data with
  | nil => cases complete
  | cons first rest => rfl

/-- What the checksum of the header does not see is the flag `TR`. -/
theorem first_of_maskedHeader (same : maskedHeader data = maskedHeader sent) :
    (data.getD 0 0 = sent.getD 0 0 ∨ data.getD 0 0 = sent.getD 0 0 ^^^ 0x20) ∧
      slice data 1 7 = slice sent 1 7 := by
  rw [maskedHeader, maskedHeader, List.cons.injEq] at same
  exact ⟨eq_or_flag_of_masked same.1, same.2⟩

theorem lengthField_of_slice (same : slice data 1 7 = slice sent 1 7) :
    lengthField data = lengthField sent := by
  have field (bytes : List Byte) : slice (slice bytes 1 7) 1 2 = slice bytes 2 2 :=
    slice_slice (by omega)
  rw [lengthField, lengthField, ← field data, same, field]

theorem eq_cons_drop (complete : 12 ≤ data.length) : data = data.getD 0 0 :: data.drop 1 := by
  cases data with
  | nil => cases complete
  | cons first rest => rfl

theorem fields_flipped (first : Byte) :
    (first ^^^ 0x20).extractLsb' 6 2 = first.extractLsb' 6 2 ∧
      (first ^^^ 0x20).extractLsb' 5 1 = ~~~first.extractLsb' 5 1 ∧
      (first ^^^ 0x20) &&& 0xdf = first &&& 0xdf := by
  revert first
  decide

/-- Flipping the flag `TR` leaves the header valid. -/
theorem HasHeader.flipped {crc32 : List Byte → BitVec 32} (header : HasHeader crc32 sent) :
    HasHeader crc32 ((sent.getD 0 0 ^^^ 0x20) :: sent.drop 1) := by
  have complete := header.complete
  have sentEq := eq_cons_drop complete
  have fields (offset count : ℕ) : slice ((sent.getD 0 0 ^^^ 0x20) :: sent.drop 1)
      (offset + 1) count = slice sent (offset + 1) count := by
    rw [slice, slice, List.drop_succ_cons, List.drop_drop, Nat.add_comm]
  constructor
  · rw [List.length_cons, List.length_drop]
    omega
  · rw [typeField, List.getD_cons_zero, (fields_flipped _).1]
    exact header.type
  · rw [lengthField, fields]
    exact header.length
  · rw [maskedHeader, List.getD_cons_zero, (fields_flipped _).2.2, fields, word, fields]
    exact header.crc1

/-- In an accepted string the header is as it has been sent, but perhaps for `TR`. -/
theorem header_of_damage (before : HasHeader Crc.zlib sent) (after : HasHeader Crc.zlib data)
    (same : data.length = sent.length) (damage : Damage sent data 0 8) :
    maskedHeader data = maskedHeader sent ∧ slice data 8 4 = slice sent 8 4 := by
  have complete := before.complete
  have sentCrc := before.crc1
  have dataCrc := after.crc1
  rw [maskedHeader_eq_modifyHead complete] at sentCrc ⊢
  rw [maskedHeader_eq_modifyHead after.complete] at dataCrc ⊢
  exact damage.unchanged _ (fun _ _ _ _ agree => agree.modifyHead _) sentCrc dataCrc complete same

theorem payload_of_damage (before : HasPayload Crc.zlib sent) (after : HasPayload Crc.zlib data)
    (same : data.length = sent.length) (length : lengthField data = lengthField sent)
    (damage : Damage sent data 12 (lengthField sent)) : data.drop 12 = sent.drop 12 := by
  have size := before.length
  have crc2 := after.crc2
  rw [length] at crc2
  rcases damage.unchanged id (fun _ _ _ _ agree => agree) before.crc2 crc2 (by omega) same with
    ⟨contents, checksum⟩
  apply drop_eq_of_slice contents
  apply drop_eq_of_slice checksum
  exact drop_eq_of_le (by omega) (by omega)

/-- What the network may make of a complete packet on its way, without a change of the length. -/
structure Damaged (sent data : List Byte) : Prop where
  length : data.length = sent.length
  header : Damage sent data 0 8
  payload : lengthField sent ≠ 0 → Damage sent data 12 (lengthField sent)

theorem Damaged.refl (sent : List Byte) : Damaged sent sent where
  length := rfl
  header := .checksum rfl
  payload := fun _ => .checksum rfl

/--
A complete string which has been damaged is accepted only if it is as it has been sent, or if
just `TR` has been set in a data packet without a payload.
-/
theorem pktDecode_damaged_iff (format : PacketFormat Crc.zlib sent) (complete : trField sent = 0)
    (damaged : Damaged sent data) :
    (∃ decoded, pktDecode Crc.zlib true data pktNew = .ok decoded) ↔
      data = sent ∨ typeField sent = ptypeData ∧ lengthField sent = 0 ∧
        data = (sent.getD 0 0 ^^^ 0x20) :: sent.drop 1 := by
  have same := damaged.length
  have long := format.1.complete
  have sentEq := eq_cons_drop long
  simp only [pktDecode_eq_ok_iff]
  constructor
  · rintro ⟨decoded, ⟨headerData, flagged⟩, accepted⟩
    rcases header_of_damage format.1 headerData same damaged.header with ⟨masked, checksum⟩
    rcases first_of_maskedHeader masked with ⟨first, fields⟩
    have length := lengthField_of_slice fields
    have behind : data.drop 12 = sent.drop 12 := by
      rcases accepted with ⟨exact, _⟩ | ⟨payloadData, _⟩
      · exact drop_eq_of_le (by omega) (by omega)
      · have announced := payloadData.announced
        have size := payloadData.length
        rcases format.2 with ⟨flag, _⟩ | ⟨_, empty, _⟩ | ⟨_, payloadSent⟩
        · simp [complete] at flag
        · omega
        · exact payload_of_damage payloadSent payloadData same length (damaged.payload (by omega))
    have rest : data.drop 1 = sent.drop 1 :=
      drop_eq_of_slice fields (drop_eq_of_slice checksum behind)
    have dataEq := eq_cons_drop headerData.complete
    rw [rest] at dataEq
    rcases first with unchanged | flipped
    · left
      rw [dataEq, unchanged, ← sentEq]
    · right
      rw [flipped] at dataEq
      have flag : trField data = 1 := by
        rw [trField, flipped, (fields_flipped _).2.1, ← trField, complete]
        rfl
      rcases flagged flag with ⟨type, exact⟩
      rw [typeField, flipped, (fields_flipped _).1] at type
      refine ⟨type, ?_, dataEq⟩
      rcases format.2 with ⟨flag, _⟩ | ⟨_, empty, _⟩ | ⟨_, payloadSent⟩
      · simp [complete] at flag
      · exact empty
      · have size := payloadSent.length
        omega
  · rintro (rfl | ⟨type, empty, rfl⟩)
    · rcases format.2 with ⟨flag, _⟩ | ⟨_, _, exact⟩ | ⟨_, payloadSent⟩
      · simp [complete] at flag
      · exact ⟨_, ⟨format.1, fun flag => by simp [complete] at flag⟩, .inl ⟨exact, rfl⟩⟩
      · exact ⟨_, ⟨format.1, fun flag => by simp [complete] at flag⟩, .inr ⟨payloadSent, rfl⟩⟩
    · have exact : sent.length = 12 := by
        rcases format.2 with ⟨_, _, exact⟩ | ⟨_, _, exact⟩ | ⟨_, payloadSent⟩
        · exact exact
        · exact exact
        · have announced := payloadSent.announced
          omega
      exact ⟨_, ⟨format.1.flipped, fun _ => ⟨(fields_flipped _).1.trans type, same.trans exact⟩⟩,
        .inl ⟨same.trans exact, rfl⟩⟩

end Headers

section Encoded

variable {pkt : Pkt} {data : List Byte}

theorem typeField_wireBytes (crc32 : List Byte → BitVec 32) (pkt : Pkt) :
    typeField (pkt.wireBytes crc32) = pkt.type := by
  by_cases empty : pkt.length = 0
  · rw [Pkt.wireBytes_of_empty crc32 empty, Pkt.typeField_headed]
  · rw [Pkt.wireBytes_of_nonempty crc32 empty, Pkt.typeField_headed]

theorem pktDecode_damagedBytes_iff (wellFormed : pkt.WellFormed)
    (damaged : Damaged (pkt.wireBytes Crc.zlib) data) :
    (∃ decoded, pktDecode Crc.zlib true data pktNew = .ok decoded) ↔
      data = pkt.wireBytes Crc.zlib ∨ pkt.type = ptypeData ∧ pkt.length = 0 ∧
        data = (pkt.wireBytes Crc.zlib).modifyHead fun first => first ^^^ 0x20 := by
  have length := lengthField_wireBytes Crc.zlib pkt
  have empty : lengthField (pkt.wireBytes Crc.zlib) = 0 ↔ pkt.length = 0 := by
    rw [length, ← BitVec.toNat_inj]
    rfl
  have flipped : (pkt.wireBytes Crc.zlib).modifyHead (fun first => first ^^^ 0x20) =
      ((pkt.wireBytes Crc.zlib).getD 0 0 ^^^ 0x20) :: (pkt.wireBytes Crc.zlib).drop 1 := rfl
  rw [pktDecode_damaged_iff (packetFormat_wireBytes Crc.zlib wellFormed)
    ((trField_wireBytes Crc.zlib pkt).trans wellFormed.trFlag) damaged, empty,
    typeField_wireBytes, flipped]

/-- An empty data packet in which `TR` has been set is what truncation makes of it. -/
theorem truncate_of_empty (crc32 : List Byte → BitVec 32) (noFlag : pkt.trFlag = 0)
    (empty : pkt.length = 0) :
    (pkt.wireBytes crc32).modifyHead (fun first => first ^^^ 0x20) =
      truncate (pkt.wireBytes crc32) := by
  have set : ∀ (type : BitVec 2) (window : BitVec 5),
      (type ++ (0 : BitVec 1) ++ window : Byte) ^^^ 0x20 =
        (type ++ (0 : BitVec 1) ++ window : Byte) ||| 0x20 := by
    decide
  have byte0 : pkt.byte0 ^^^ 0x20 = pkt.byte0 ||| 0x20 := by
    rw [Pkt.byte0, noFlag, set]
  have short : (pkt.wireBytes crc32).take 12 = pkt.wireBytes crc32 := by
    apply List.take_of_length_le
    rw [Pkt.length_wireBytes crc32 (.inl empty), Pkt.wireSize, if_pos empty]
  rw [truncate, short, Pkt.wireBytes_of_empty crc32 empty]
  change (pkt.byte0 ^^^ 0x20) :: _ = (pkt.byte0 ||| 0x20) :: _
  rw [byte0]

end Encoded

/--
Of all strings which bursts, at most one in the header and one in the payload, or any change of
one of the checksums, make of an encoded packet, the decoder accepts just the packet itself, and
an empty data packet in which nothing but `TR` has been set.
-/
theorem pktDecode_burst (pkt : Pkt) (buf : List Byte) (len : ℕ) (wellFormed : pkt.WellFormed)
    (needed : (if pkt.length = 0 then 12 else 16 + pkt.length.toNat) ≤ len)
    (capacity : len ≤ 65535) (room : len ≤ buf.length) :
    ∃ encoded sent, pktEncode Crc.zlib (some pkt) buf len = .ok encoded ∧
      encoded.status = .pktOk ∧ sent = encoded.buf.take encoded.len ∧
      ∀ data, Damaged sent data →
        ((∃ decoded, pktDecode Crc.zlib true data pktNew = .ok decoded) ↔
          data = sent ∨ pkt.type = ptypeData ∧ pkt.length = 0 ∧
            data = sent.modifyHead fun first => first ^^^ 0x20) := by
  have size := Pkt.length_wireBytes Crc.zlib wellFormed.holdsPayload
  have encodes := pktEncode_eq Crc.zlib buf len wellFormed.holdsPayload
    (by rw [Pkt.wireSize]; omega) (by rw [Pkt.wireSize]; omega)
  exact ⟨_, pkt.wireBytes Crc.zlib, encodes, rfl, (List.take_left' size).symm,
    fun data damaged => pktDecode_damagedBytes_iff wellFormed damaged⟩

theorem pktDecode_burst_example :
    ∃ encoded sent, pktEncode Crc.zlib (some dataExample) (List.replicate 528 0) 528 =
        .ok encoded ∧
      encoded.status = .pktOk ∧ sent = encoded.buf.take encoded.len ∧
      ∀ data, Damaged sent data →
        ((∃ decoded, pktDecode Crc.zlib true data pktNew = .ok decoded) ↔
          data = sent ∨ dataExample.type = ptypeData ∧ dataExample.length = 0 ∧
            data = sent.modifyHead fun first => first ^^^ 0x20) :=
  pktDecode_burst dataExample (List.replicate 528 0) 528
    ⟨by decide, by decide, by decide, ⟨[1, 2, 3], rfl, rfl⟩⟩ (by decide) (by decide)
    List.length_replicate.ge

end ReliableTransfer
