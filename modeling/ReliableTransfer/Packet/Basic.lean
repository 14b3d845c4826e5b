import ReliableTransfer.Library.Bytes

/-!
# Packets

The packet structure of `packet_interface.h`, its constructor and its setters,
and the primitives of memory which the packet code uses.

A packet is a C structure: fields of fixed width, and a pointer to a payload
block which is `NULL` (`none`) or holds some bytes. The length field is
independent of the size of that block. The host is little-endian, so a
multi-byte field is stored in memory with its low byte first; the first byte of
the structure holds `window` in its low five bits, then `trFlag`, then `type`.
-/

namespace ReliableTransfer

/-- A byte of memory. -/
abbrev Byte := BitVec 8

/-- The seconds (`tv_sec`) of a clock reading. -/
abbrev Time := BitVec 64

/-- The ways in which an execution leaves the defined behaviour of C, or never ends. -/
inductive Fault where
  /-- A field is read or written through a null pointer. -/
  | nullPointer
  /-- The acknowledgement handler reads `head->pkt` in an empty buffer. -/
  | headOfEmptyBuffer
  /-- A block is read or written outside of its bounds. -/
  | outOfBounds
  /-- A block is used which may have been freed. -/
  | danglingPointer
  /-- A loop did not end in the number of iterations granted to it. -/
  | outOfFuel
  deriving DecidableEq, Repr

inductive PktStatusCode where
  | pktOk
  | eType
  | eTr
  | eLength
  | eCrc
  | eWindow
  | eSeqnum
  | eNomem
  | eNoheader
  | eUnconsistent
  deriving DecidableEq, Repr

def ptypeData : BitVec 2 := 1

def ptypeAck : BitVec 2 := 2

def ptypeNack : BitVec 2 := 3

theorem ptypeAck_ne_zero : ptypeAck ≠ 0 := by
  decide

theorem ptypeNack_ne_zero : ptypeNack ≠ 0 := by
  decide

def maxPayloadSize : ℕ := 512

def maxWindowSize : ℕ := 31

def maxPacketSize : ℕ := 528

def ackSize : ℕ := 12

structure Pkt where
  window : BitVec 5
  trFlag : BitVec 1
  type : BitVec 2
  seqNum : BitVec 8
  length : BitVec 16
  timestamp : BitVec 32
  crc1 : BitVec 32
  payload : Option (List Byte)
  crc2 : BitVec 32
  deriving DecidableEq, Repr

/-- `pkt_new`: the structure comes from `calloc`. -/
def pktNew : Pkt where
  window := 0
  trFlag := 0
  type := 0
  seqNum := 0
  length := 0
  timestamp := 0
  crc1 := 0
  payload := none
  crc2 := 0

/-- Read `count` bytes from an offset on. -/
def slice (data : List Byte) (offset count : ℕ) : List Byte :=
  (data.drop offset).take count

@[simp]
theorem length_slice {data : List Byte} {offset count : ℕ} (fits : offset + count ≤ data.length) :
    (slice data offset count).length = count := by
  simp [slice]
  omega

def memcpy (block : List Byte) (offset : ℕ) (bytes : List Byte) : Except Fault (List Byte) :=
  if offset + bytes.length ≤ block.length then
    .ok (block.take offset ++ bytes ++ block.drop (offset + bytes.length))
  else
    .error .outOfBounds

/-- Writing at the end of what has been written to a block so far. -/
theorem memcpy_next (written block bytes : List Byte) {offset : ℕ}
    (atEnd : written.length = offset) (fits : offset + bytes.length ≤ block.length) :
    memcpy (written ++ block.drop offset) offset bytes =
      .ok ((written ++ bytes) ++ block.drop (offset + bytes.length)) := by
  subst atEnd
  have inside : written.length + bytes.length ≤ (written ++ block.drop written.length).length := by
    simp
    omega
  have remaining : (written ++ block.drop written.length).drop (written.length + bytes.length) =
      block.drop (written.length + bytes.length) := by
    rw [List.drop_append, List.drop_eq_nil_of_le (by omega), List.nil_append,
      Nat.add_sub_cancel_left, List.drop_drop]
  rw [memcpy, if_pos inside, List.take_left', remaining]
  rfl

theorem memcpy_first (old new : Byte) (rest : List Byte) :
    memcpy (old :: rest) 0 [new] = .ok (new :: rest) := by
  simp [memcpy]

/-- A 16-bit field loaded from memory. -/
def load16 (data : List Byte) (offset : ℕ) : BitVec 16 :=
  BitVec.ofNat 16 (ByteString.ofLE (slice data offset 2))

def load32 (data : List Byte) (offset : ℕ) : BitVec 32 :=
  BitVec.ofNat 32 (ByteString.ofLE (slice data offset 4))

/-- A 16-bit field as it lies in memory. -/
def store16 (value : BitVec 16) : List Byte :=
  ByteString.toLE 2 value.toNat

def store32 (value : BitVec 32) : List Byte :=
  ByteString.toLE 4 value.toNat

/-- `htons`, and `ntohs`: the two bytes are swapped. -/
def htons (value : BitVec 16) : BitVec 16 :=
  BitVec.ofNat 16 (ByteString.ofLE (store16 value).reverse)

/-- `htonl`, and `ntohl`: the four bytes are reversed. -/
def htonl (value : BitVec 32) : BitVec 32 :=
  BitVec.ofNat 32 (ByteString.ofLE (store32 value).reverse)

@[simp]
theorem length_store16 (value : BitVec 16) : (store16 value).length = 2 := by
  simp [store16]

@[simp]
theorem length_store32 (value : BitVec 32) : (store32 value).length = 4 := by
  simp [store32]

/-- Any four bytes are the memory image of the field they are loaded into. -/
theorem store32_load {bytes : List Byte} (width : bytes.length = 4) :
    store32 (BitVec.ofNat 32 (ByteString.ofLE bytes)) = bytes := by
  have bound := ByteString.ofLE_lt bytes
  have image := ByteString.toLE_ofLE bytes
  rw [width] at bound image
  rw [store32, BitVec.toNat_ofNat, Nat.mod_eq_of_lt (by simpa using bound), image]

theorem store16_load {bytes : List Byte} (width : bytes.length = 2) :
    store16 (BitVec.ofNat 16 (ByteString.ofLE bytes)) = bytes := by
  have bound := ByteString.ofLE_lt bytes
  have image := ByteString.toLE_ofLE bytes
  rw [width] at bound image
  rw [store16, BitVec.toNat_ofNat, Nat.mod_eq_of_lt (by simpa using bound), image]

theorem load_store32 (value : BitVec 32) :
    BitVec.ofNat 32 (ByteString.ofLE (store32 value)) = value := by
  apply BitVec.eq_of_toNat_eq
  rw [store32, ByteString.ofLE_toLE, BitVec.toNat_ofNat]
  have bound := value.isLt
  omega

theorem store16_htons (value : BitVec 16) : store16 (htons value) = (store16 value).reverse :=
  store16_load (by simp)

theorem store32_htonl (value : BitVec 32) : store32 (htonl value) = (store32 value).reverse :=
  store32_load (by simp)

namespace Pkt

/-- The first byte of the structure: three bit-fields. -/
def byte0 (pkt : Pkt) : Byte :=
  pkt.type ++ pkt.trFlag ++ pkt.window

/-- Store a byte over the three bit-fields. -/
def setByte0 (pkt : Pkt) (byte : Byte) : Pkt :=
  { pkt with
    window := byte.extractLsb' 0 5
    trFlag := byte.extractLsb' 5 1
    type := byte.extractLsb' 6 2 }

/-- The first eight bytes of the structure, as they lie in memory. -/
def first8 (pkt : Pkt) : List Byte :=
  pkt.byte0 :: pkt.seqNum :: (store16 pkt.length ++ store32 pkt.timestamp)

theorem setByte0_byte0 (pkt other : Pkt) :
    other.setByte0 pkt.byte0 =
      { other with window := pkt.window, trFlag := pkt.trFlag, type := pkt.type } := by
  have fields : ∀ (type : BitVec 2) (trFlag : BitVec 1) (window : BitVec 5),
      (type ++ trFlag ++ window).extractLsb' 0 5 = window ∧
        (type ++ trFlag ++ window).extractLsb' 5 1 = trFlag ∧
        (type ++ trFlag ++ window).extractLsb' 6 2 = type := by
    decide
  rcases fields pkt.type pkt.trFlag pkt.window with ⟨window, trFlag, type⟩
  simp only [setByte0, byte0, window, trFlag, type]

/-- Clearing the flag in the structure is masking it out of the byte. -/
theorem byte0_clear_trFlag (pkt : Pkt) : { pkt with trFlag := 0 }.byte0 = pkt.byte0 &&& 0xdf := by
  have masked : ∀ (type : BitVec 2) (trFlag : BitVec 1) (window : BitVec 5),
      (type ++ (0 : BitVec 1) ++ window : Byte) = (type ++ trFlag ++ window : Byte) &&& 0xdf := by
    decide
  exact masked pkt.type pkt.trFlag pkt.window

theorem byte0_set_trFlag (pkt : Pkt) : { pkt with trFlag := 1 }.byte0 = pkt.byte0 ||| 0x20 := by
  have joined : ∀ (type : BitVec 2) (trFlag : BitVec 1) (window : BitVec 5),
      (type ++ (1 : BitVec 1) ++ window : Byte) = (type ++ trFlag ++ window : Byte) ||| 0x20 := by
    decide
  exact joined pkt.type pkt.trFlag pkt.window

end Pkt

/-- `pkt_set_type`: the argument is stored in a bit-field of two bits. -/
def pktSetType (pkt : Pkt) (type : ℕ) : PktStatusCode × Pkt :=
  if type > 3 then (.eType, pkt)
  else (.pktOk, { pkt with type := BitVec.ofNat 2 type })

def pktSetTr (pkt : Pkt) (tr : BitVec 8) : PktStatusCode × Pkt :=
  if tr ≠ 0 ∧ tr ≠ 1 then (.eTr, pkt)
  else (.pktOk, { pkt with trFlag := tr.setWidth 1 })

def pktSetWindow (pkt : Pkt) (window : BitVec 8) : PktStatusCode × Pkt :=
  if window.toNat > maxWindowSize then (.eWindow, pkt)
  else (.pktOk, { pkt with window := window.setWidth 5 })

def pktSetSeqnum (pkt : Pkt) (seqnum : BitVec 8) : PktStatusCode × Pkt :=
  (.pktOk, { pkt with seqNum := seqnum })

def pktSetLength (pkt : Pkt) (length : BitVec 16) : PktStatusCode × Pkt :=
  if length.toNat > maxPayloadSize then (.eLength, pkt)
  else (.pktOk, { pkt with length := length })

def pktSetTimestamp (pkt : Pkt) (timestamp : BitVec 32) : PktStatusCode × Pkt :=
  (.pktOk, { pkt with timestamp := timestamp })

def pktSetCrc1 (pkt : Pkt) (crc1 : BitVec 32) : PktStatusCode × Pkt :=
  (.pktOk, { pkt with crc1 := crc1 })

def pktSetCrc2 (pkt : Pkt) (crc2 : BitVec 32) : PktStatusCode × Pkt :=
  (.pktOk, { pkt with crc2 := crc2 })

/--
`pkt_set_payload`. The flag `alloc` says whether memory can be allocated. When
the packet has a payload already, the block returned by `realloc` is dropped and
the old pointer is used again.
-/
def pktSetPayload (alloc : Bool) (pkt : Pkt) (data : List Byte) (length : BitVec 16) :
    Except Fault (PktStatusCode × Pkt) :=
  if length.toNat > maxPayloadSize then .ok (.eLength, pkt)
  else if alloc = false then .ok (.eNomem, pkt)
  else if pkt.payload.isSome then .error .danglingPointer
  else if data.length < length.toNat then .error .outOfBounds
  else .ok (.pktOk, { pkt with payload := some (data.take length.toNat), length := length })

end ReliableTransfer
