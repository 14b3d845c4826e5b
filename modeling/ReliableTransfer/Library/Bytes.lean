import Mathlib.Data.List.Basic
import Mathlib.Tactic.Ring

/-!
# Byte strings of naturals

A natural number below `256 ^ width` is stored in memory as `width` bytes, least
significant byte first (`toLE`), and read back from them (`ofLE`). The other order of
bytes, which networks use, is the reversal of this one (`ofBE`).
-/

namespace ByteString

/-- The `width` low-order bytes of a number, least significant first. -/
def toLE : ℕ → ℕ → List (BitVec 8)
  | 0, _ => []
  | width + 1, value => BitVec.ofNat 8 value :: toLE width (value / 256)

/-- The number whose bytes are given least significant first. -/
def ofLE : List (BitVec 8) → ℕ
  | [] => 0
  | byte :: rest => byte.toNat + 256 * ofLE rest

/-- The number whose bytes are given most significant first. -/
def ofBE (bytes : List (BitVec 8)) : ℕ :=
  ofLE bytes.reverse

@[simp]
theorem length_toLE (width value : ℕ) : (toLE width value).length = width := by
  induction width generalizing value with
  | zero => rfl
  | succ width ih => simp [toLE, ih]

theorem ofLE_lt (bytes : List (BitVec 8)) : ofLE bytes < 256 ^ bytes.length := by
  induction bytes with
  | nil => simp [ofLE]
  | cons byte rest ih =>
      have byteBound : byte.toNat < 256 := byte.isLt
      simp only [ofLE, List.length_cons, Nat.pow_succ]
      omega

theorem ofBE_lt (bytes : List (BitVec 8)) : ofBE bytes < 256 ^ bytes.length := by
  simpa [ofBE] using ofLE_lt bytes.reverse

/-- Reading back a stored number loses exactly the bytes that did not fit. -/
theorem ofLE_toLE (width value : ℕ) : ofLE (toLE width value) = value % 256 ^ width := by
  induction width generalizing value with
  | zero => simp [toLE, ofLE, Nat.mod_one]
  | succ width ih =>
      have lastByte : value % 256 ^ (width + 1) =
          value % 256 + 256 * (value / 256 % 256 ^ width) := by
        rw [show 256 ^ (width + 1) = 256 * 256 ^ width by ring, Nat.mod_mul]
      simp [toLE, ofLE, ih, lastByte]

theorem toLE_ofLE (bytes : List (BitVec 8)) : toLE bytes.length (ofLE bytes) = bytes := by
  induction bytes with
  | nil => rfl
  | cons byte rest ih =>
      have byteBound : byte.toNat < 256 := byte.isLt
      have quotient : (byte.toNat + 256 * ofLE rest) / 256 = ofLE rest := by omega
      have lowByte : BitVec.ofNat 8 (byte.toNat + 256 * ofLE rest) = byte := by
        apply BitVec.eq_of_toNat_eq
        simp only [BitVec.toNat_ofNat]
        omega
      simp only [List.length_cons, ofLE, toLE, quotient, lowByte, ih]

end ByteString
