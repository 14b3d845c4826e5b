import Mathlib.Data.Nat.ModEq
import Mathlib.Tactic.Ring
import Mathlib.Tactic.SplitIfs

/-!
# Serial-number arithmetic

A position in an unbounded sequence travels as its `width` low-order bits, its
wire number. The forward distance between two wire numbers is their difference
modulo `2 ^ width`. As long as two positions are closer than one turn of the
wheel, the distance of their wire numbers determines how they are ordered;
`dist_wire_lt_iff` is the form in which a receiver uses this, with a window
starting at its own position.
-/

namespace Serial

variable {width : ℕ}

/-- The wire number of a position. -/
def wire (width position : ℕ) : BitVec width :=
  BitVec.ofNat width position

/-- The distance from one wire number forward to another. -/
def dist (start target : BitVec width) : ℕ :=
  (target - start).toNat

/-- The positions which a counter has moved on when its wire number has changed. -/
def lift (position : ℕ) (start target : BitVec width) : ℕ :=
  position + dist start target

theorem add_dist (start target : BitVec width) :
    start + BitVec.ofNat width (dist start target) = target := by
  rw [dist, BitVec.ofNat_toNat, BitVec.setWidth_eq, BitVec.add_comm, BitVec.sub_add_cancel]

@[simp]
theorem dist_self (start : BitVec width) : dist start start = 0 := by
  simp [dist]

theorem dist_eq (start target : BitVec width) :
    dist start target = if start.toNat ≤ target.toNat then target.toNat - start.toNat
      else target.toNat + 2 ^ width - start.toNat := by
  have startBound := start.isLt
  have targetBound := target.isLt
  rw [dist, BitVec.toNat_sub]
  split
  · have regroup : 2 ^ width - start.toNat + target.toNat =
        target.toNat - start.toNat + 2 ^ width := by
      omega
    rw [regroup, Nat.add_mod_right, Nat.mod_eq_of_lt (by omega)]
  · rw [Nat.mod_eq_of_lt (by omega)]
    omega

theorem dist_eq_zero_iff {start target : BitVec width} :
    dist start target = 0 ↔ start = target := by
  constructor
  · intro same
    have moved := add_dist start target
    simpa [same] using moved
  · rintro rfl
    exact dist_self start

theorem dist_injective (start : BitVec width) : Function.Injective (dist start) := by
  intro left right same
  rw [← add_dist start left, same, add_dist]

/-- The way back is the rest of the turn. -/
theorem dist_add_dist {start target : BitVec width} (apart : 1 ≤ dist start target) :
    dist start target + dist target start = 2 ^ width := by
  have startBound := start.isLt
  have targetBound := target.isLt
  rw [dist_eq] at apart ⊢
  rw [dist_eq target start]
  split_ifs at apart ⊢
  · omega
  · omega
  · omega
  · omega

@[simp]
theorem wire_add (position offset : ℕ) :
    wire width (position + offset) = wire width position + wire width offset := by
  simp [wire, BitVec.ofNat_add]

theorem dist_add_wire (start : BitVec width) {offset : ℕ} (small : offset < 2 ^ width) :
    dist start (start + wire width offset) = offset := by
  have cancelled : start + wire width offset - start = wire width offset := by
    rw [BitVec.add_comm, BitVec.add_sub_cancel]
  rw [dist, cancelled, wire, BitVec.toNat_ofNat, Nat.mod_eq_of_lt small]

theorem dist_wire_of_le {start position : ℕ} (ahead : start ≤ position)
    (near : position < start + 2 ^ width) :
    dist (wire width start) (wire width position) = position - start := by
  obtain ⟨offset, rfl⟩ := Nat.exists_eq_add_of_le ahead
  rw [wire_add, dist_add_wire _ (by omega)]
  omega

/-- Behind the start, by at most one turn, the distance is what remains of the turn. -/
theorem dist_wire_of_lt {start position : ℕ} (behind : position < start)
    (near : start ≤ position + 2 ^ width) :
    dist (wire width start) (wire width position) = 2 ^ width - (start - position) := by
  have turned : wire width position = wire width (position + 2 ^ width) := by
    apply BitVec.eq_of_toNat_eq
    simp [wire]
  rw [turned, dist_wire_of_le (by omega) (by omega)]
  omega

/-- Positions less than one turn apart have different wire numbers. -/
theorem wire_inj {left right : ℕ} (aboveLeft : left < right + 2 ^ width)
    (aboveRight : right < left + 2 ^ width) :
    wire width left = wire width right ↔ left = right := by
  constructor
  · intro same
    rcases Nat.lt_or_ge left right with behind | ahead
    · have away := dist_wire_of_le behind.le aboveRight
      rw [same, dist_self] at away
      omega
    · have away := dist_wire_of_le ahead aboveLeft
      rw [same, dist_self] at away
      omega
  · rintro rfl
    rfl

/--
A wire number is inside the window of `size` positions from `start` exactly when
its position is, if no position is staler than the rest of the turn.
-/
theorem dist_wire_lt_iff {start position size : ℕ} (fresh : start + size ≤ position + 2 ^ width)
    (bounded : position < start + 2 ^ width) :
    dist (wire width start) (wire width position) < size ↔
      start ≤ position ∧ position < start + size := by
  rcases Nat.lt_or_ge position start with behind | ahead
  · rw [dist_wire_of_lt behind (by omega)]
    omega
  · rw [dist_wire_of_le ahead bounded]
    omega

/--
The number before that of a position, which closes a window that ends there, is
inside the window of `size` positions from `start` exactly when the position is
ahead, if it is not staler than the rest of the turn.
-/
theorem dist_wire_pred_lt_iff {start position size : ℕ}
    (narrow : size ≤ 2 ^ width) (fresh : start + size < position + 2 ^ width)
    (bounded : position ≤ start + size) :
    dist (wire width start) (wire width position - 1) < size ↔ start < position := by
  have one : (1 : BitVec width) = wire width 1 := rfl
  rcases Nat.lt_or_ge start position with ahead | behind
  · obtain ⟨count, rfl⟩ := Nat.exists_eq_add_of_le' (Nat.lt_of_le_of_lt (Nat.zero_le _) ahead)
    rw [wire_add, one, BitVec.add_sub_cancel]
    have distance := dist_wire_of_le (Nat.le_of_lt_succ ahead)
      (show count < start + 2 ^ width by omega)
    omega
  · have turned : wire width position - 1 = wire width (position + (2 ^ width - 1)) := by
      have whole : wire width (2 ^ width - 1) + 1 = 0 := by
        rw [one, ← wire_add, Nat.sub_add_cancel Nat.one_le_two_pow]
        apply BitVec.eq_of_toNat_eq
        rw [wire, BitVec.toNat_ofNat, Nat.mod_self]
        exact BitVec.toNat_zero.symm
      rw [wire_add]
      grind
    rw [turned, dist_wire_of_le (by omega) (by omega)]
    omega

theorem lift_wire {start position : ℕ} (ahead : start ≤ position)
    (near : position < start + 2 ^ width) :
    lift start (wire width start) (wire width position) = position := by
  rw [lift, dist_wire_of_le ahead near]
  omega

end Serial
