import Mathlib.Data.Nat.Notation
import Mathlib.Logic.Function.Iterate

/-!
# Reflected cyclic redundancy checks

A reflected CRC processes the bits of each byte starting with the least
significant one. Its register is divided by the generator polynomial one bit at
a time, and is complemented before the first byte and after the last one.

When the polynomial has its leading bit set, no step of the division loses
information: the register determines its predecessor. Hence two strings which
differ in one byte never have the same checksum.

A string which is not longer than the register is fed like one value, with which the
register is changed once (`foldl_feed`). Hence two strings which differ only in so many
consecutive bytes never have the same checksum either.
-/

namespace Crc

variable {width : ℕ}

/-- Divide the register by the polynomial for one bit. -/
def shift (polynomial register : BitVec width) : BitVec width :=
  if register.getLsbD 0 then (register >>> 1) ^^^ polynomial else register >>> 1

/-- Feed one byte to the register. -/
def feed (polynomial register : BitVec width) (byte : BitVec 8) : BitVec width :=
  (shift polynomial)^[8] (register ^^^ byte.setWidth width)

/-- The checksum of a byte string. -/
def checksum (polynomial : BitVec width) (bytes : List (BitVec 8)) : BitVec width :=
  ~~~(bytes.foldl (feed polynomial) (BitVec.allOnes width))

/-- The CRC-32 of zlib. -/
def zlib : List (BitVec 8) → BitVec 32 :=
  checksum 0xEDB88320

-- The check value of CRC-32: the checksum of the digits from 1 to 9.
example : zlib [0x31, 0x32, 0x33, 0x34, 0x35, 0x36, 0x37, 0x38, 0x39] = 0xCBF43926 := by
  decide +kernel

/-- When the polynomial has its leading bit set, this bit tells what was shifted out. -/
theorem msb_shift {polynomial : BitVec width} (top : polynomial.msb = true)
    (register : BitVec width) : (shift polynomial register).msb = register.getLsbD 0 := by
  have shifted : (register >>> 1).msb = false := by simp
  rw [shift]
  split
  · rename_i low
    simp [shifted, top, low]
  · rename_i low
    simpa [shifted] using low

theorem shift_injective {polynomial : BitVec width} (top : polynomial.msb = true) :
    Function.Injective (shift polynomial) := by
  intro left right same
  have low : left.getLsbD 0 = right.getLsbD 0 := by
    rw [← msb_shift top, ← msb_shift top, same]
  have high : left >>> 1 = right >>> 1 := by
    rw [shift, shift, low] at same
    split at same
    · simpa using same
    · exact same
  apply BitVec.eq_of_getLsbD_eq
  intro index _
  cases index with
  | zero => exact low
  | succ index =>
      have bit := congrArg (fun shifted => shifted.getLsbD index) high
      simpa [BitVec.getLsbD_ushiftRight, Nat.add_comm] using bit

theorem feed_injective {polynomial : BitVec width} (top : polynomial.msb = true)
    (byte : BitVec 8) : Function.Injective fun register => feed polynomial register byte := by
  intro left right same
  have fed : left ^^^ byte.setWidth width = right ^^^ byte.setWidth width :=
    (shift_injective top).iterate 8 same
  simpa using fed

theorem feed_byte_injective {polynomial : BitVec width} (top : polynomial.msb = true)
    (wide : 8 ≤ width) (register : BitVec width) :
    Function.Injective (feed polynomial register) := by
  intro left right same
  have fed : register ^^^ left.setWidth width = register ^^^ right.setWidth width :=
    (shift_injective top).iterate 8 same
  have widened : left.setWidth width = right.setWidth width := by simpa using fed
  have narrowed := congrArg (BitVec.setWidth 8) widened
  simpa [BitVec.setWidth_setWidth_of_le _ wide] using narrowed

/-- Two strings which differ in exactly one byte have different checksums. -/
theorem checksum_single {polynomial : BitVec width} (top : polynomial.msb = true)
    (wide : 8 ≤ width) (front back : List (BitVec 8)) {left right : BitVec 8}
    (same : checksum polynomial (front ++ left :: back) =
      checksum polynomial (front ++ right :: back)) : left = right := by
  simp only [checksum, List.foldl_append, List.foldl_cons, BitVec.not_inj] at same
  apply feed_byte_injective top wide (front.foldl (feed polynomial) (BitVec.allOnes width))
  generalize feed polynomial _ left = leftRegister at same ⊢
  generalize feed polynomial _ right = rightRegister at same ⊢
  induction back generalizing leftRegister rightRegister with
  | nil => exact same
  | cons byte rest ih =>
      apply feed_injective top byte
      exact ih _ _ same

theorem checksum_set_ne {polynomial : BitVec width} (top : polynomial.msb = true)
    (wide : 8 ≤ width) {bytes : List (BitVec 8)} {index : ℕ} {value : BitVec 8}
    (inside : index < bytes.length) (different : value ≠ bytes[index]) :
    checksum polynomial (bytes.set index value) ≠ checksum polynomial bytes := by
  intro same
  apply different
  apply checksum_single top wide (bytes.take index) (bytes.drop (index + 1))
  rw [List.set_eq_take_append_cons_drop, if_pos inside] at same
  rw [same, ← List.drop_eq_getElem_cons inside, List.take_append_drop]

/-- The bits which a value has above the lowest one come to the place of the value. -/
theorem shift_xor_shiftLeft (polynomial register : BitVec width) {value : BitVec width}
    (room : ∀ index, width ≤ index + 1 → value.getLsbD index = false) :
    shift polynomial (register ^^^ value <<< 1) = shift polynomial register ^^^ value := by
  have low : (register ^^^ value <<< 1).getLsbD 0 = register.getLsbD 0 := by simp
  have high : (register ^^^ value <<< 1) >>> 1 = register >>> 1 ^^^ value := by
    apply BitVec.eq_of_getLsbD_eq
    intro index inside
    rcases Nat.lt_or_ge (1 + index) width with below | above
    · simp
      exact fun _ => below
    · simp [room index (by omega), above]
  rw [shift, shift, low, high]
  split
  · rw [BitVec.xor_assoc, BitVec.xor_comm value, ← BitVec.xor_assoc]
  · rfl

theorem iterate_shift_xor (polynomial register : BitVec width) {value : BitVec width} {count : ℕ}
    (room : ∀ index, width ≤ index + count → value.getLsbD index = false) :
    (shift polynomial)^[count] (register ^^^ value <<< count) =
      (shift polynomial)^[count] register ^^^ value := by
  induction count generalizing register with
  | zero => simp
  | succ count ih =>
      have shifted : ∀ index, width ≤ index + 1 → (value <<< count).getLsbD index = false := by
        intro index high
        rw [BitVec.getLsbD_shiftLeft]
        rcases Nat.lt_or_ge index count with small | large
        · simp [small]
        · simp [room (index - count) (by omega)]
      rw [Function.iterate_succ_apply, Function.iterate_succ_apply, BitVec.shiftLeft_add,
        shift_xor_shiftLeft polynomial register shifted]
      exact ih _ fun index high => room index (by omega)

/-- A short string as one value, the first byte in the low-order bits. -/
def pack : List (BitVec 8) → BitVec width
  | [] => 0
  | byte :: rest => byte.setWidth width ^^^ pack rest <<< 8

theorem getLsbD_pack {bytes : List (BitVec 8)} {index : ℕ} (beyond : 8 * bytes.length ≤ index) :
    (pack bytes : BitVec width).getLsbD index = false := by
  induction bytes generalizing index with
  | nil => simp [pack]
  | cons byte rest ih =>
      rw [List.length_cons] at beyond
      have later := @ih (index - 8) (by omega)
      simp [pack, later]
      intro _
      exact BitVec.getLsbD_of_ge _ _ (by omega)

/-- Feeding a short string is feeding one value bit by bit. -/
theorem foldl_feed (polynomial : BitVec width) {bytes : List (BitVec 8)}
    (short : 8 * bytes.length ≤ width) (register : BitVec width) :
    bytes.foldl (feed polynomial) register =
      (shift polynomial)^[8 * bytes.length] (register ^^^ pack bytes) := by
  induction bytes generalizing register with
  | nil => simp [pack]
  | cons byte rest ih =>
      rw [List.length_cons] at short
      have room : ∀ index, width ≤ index + 8 → (pack rest : BitVec width).getLsbD index = false :=
        fun index high => getLsbD_pack (by omega)
      rw [List.foldl_cons, ih (by omega), feed, ← iterate_shift_xor polynomial _ room,
        ← Function.iterate_add_apply, List.length_cons, pack, BitVec.xor_assoc, Nat.mul_add_one]

theorem pack_injective {left right : List (BitVec 8)} (lengths : left.length = right.length)
    (short : 8 * left.length ≤ width) (same : pack left = (pack right : BitVec width)) :
    left = right := by
  induction left generalizing right with
  | nil => exact (List.length_eq_zero_iff.mp lengths.symm).symm
  | cons byte rest ih =>
      cases right with
      | nil => cases lengths
      | cons other tail =>
          rw [List.length_cons] at short
          have sameByte : byte = other := by
            apply BitVec.eq_of_getLsbD_eq
            intro index inside
            have bit := congrArg (fun value => value.getLsbD index) same
            have within : index < width := by omega
            simpa [pack, inside, within] using bit
          subst sameByte
          rw [pack, pack, BitVec.xor_right_inj] at same
          have tails : rest.length = tail.length := by simpa using lengths
          rw [ih tails (by omega)]
          apply BitVec.eq_of_getLsbD_eq
          intro index inside
          rcases Nat.lt_or_ge (index + 8) width with below | above
          · have bit := congrArg (fun value => value.getLsbD (index + 8)) same
            have notLow : ¬index + 8 < 8 := by omega
            simpa [below, notLow, BitVec.getLsbD_eq_getElem inside] using bit
          · rw [getLsbD_pack (by omega), getLsbD_pack (by omega)]

theorem foldl_feed_injective {polynomial : BitVec width} (top : polynomial.msb = true)
    (bytes : List (BitVec 8)) :
    Function.Injective fun register => bytes.foldl (feed polynomial) register := by
  induction bytes with
  | nil => exact fun _ _ same => same
  | cons byte rest ih => exact fun _ _ same => feed_injective top byte (ih same)

/-- Strings of one length which differ at most in `count` bytes from `start` on. -/
structure AgreeOutside (start count : ℕ) (left right : List (BitVec 8)) : Prop where
  length : left.length = right.length
  front : left.take start = right.take start
  back : left.drop (start + count) = right.drop (start + count)

/-- A change in the first byte which does not depend on the rest keeps the difference. -/
theorem AgreeOutside.modifyHead {start count : ℕ} {left right : List (BitVec 8)}
    (agree : AgreeOutside start count left right) (change : BitVec 8 → BitVec 8) :
    AgreeOutside start count (left.modifyHead change) (right.modifyHead change) where
  length := by
    rw [List.length_modifyHead, List.length_modifyHead, agree.length]
  front := by
    rw [List.take_modifyHead, List.take_modifyHead, agree.front]
  back := by
    have back := agree.back
    rcases Nat.eq_zero_or_pos (start + count) with zero | some
    · rw [zero, List.drop_zero, List.drop_zero] at back
      rw [back]
    · rw [List.drop_modifyHead_of_pos some, List.drop_modifyHead_of_pos some, back]

/-- A burst which is not longer than the register is always detected. -/
theorem checksum_eq_of_agree {polynomial : BitVec width} (top : polynomial.msb = true)
    {start count : ℕ} {left right : List (BitVec 8)} (agree : AgreeOutside start count left right)
    (short : 8 * count ≤ width) (same : checksum polynomial left = checksum polynomial right) :
    left = right := by
  have split (bytes : List (BitVec 8)) : bytes =
      bytes.take start ++ ((bytes.drop start).take count ++ bytes.drop (start + count)) := by
    rw [← List.drop_drop, List.take_append_drop, List.take_append_drop]
  have lengths : ((left.drop start).take count).length =
      ((right.drop start).take count).length := by
    simp [agree.length]
  have few : ((left.drop start).take count).length ≤ count := List.length_take_le _ _
  rw [split left, split right, checksum, checksum, BitVec.not_inj, List.foldl_append,
    List.foldl_append, List.foldl_append, List.foldl_append, agree.front, agree.back] at same
  have middle := foldl_feed_injective top _ same
  generalize (right.take start).foldl (feed polynomial) _ = register at middle
  rw [foldl_feed polynomial (by omega), foldl_feed polynomial (by omega), ← lengths] at middle
  have packed := (shift_injective top).iterate _ middle
  rw [BitVec.xor_right_inj] at packed
  rw [split left, split right, agree.front, agree.back,
    pack_injective lengths (by omega) packed]

end Crc
