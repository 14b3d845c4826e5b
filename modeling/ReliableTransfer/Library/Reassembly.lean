import Mathlib.Data.Nat.Find
import Mathlib.Data.List.Basic
import Mathlib.Order.Basic
import Mathlib.Tactic.Common

/-!
# Reassembly of a sequence from its items

Items of an unbounded sequence arrive in any order, each with its position. A
reassembly machine keeps those which cannot be delivered yet in a finite map
from positions to items (`Slots`), and delivers the longest run of consecutive
items starting at its next position.

The machine never has an item waiting at its next position, which is part of
its type. Its state after any arrivals is `deliver` of the map which ignores
deliveries altogether (`deliver_put`), and storing at two different positions
commutes; hence the order of arrival is immaterial.
-/

universe u

/-- A finite map from positions to items. -/
structure Slots (Item : Type u) where
  get : ℕ → Option Item
  bounded : ∃ bound, ∀ position, bound ≤ position → get position = none

namespace Slots

variable {Item : Type u}

@[ext]
theorem ext {left right : Slots Item} (same : ∀ position, left.get position = right.get position) :
    left = right := by
  cases left
  cases right
  simp only [mk.injEq]
  exact funext same

def empty : Slots Item where
  get _ := none
  bounded := ⟨0, fun _ _ => rfl⟩

@[simp]
theorem get_empty (position : ℕ) : (empty : Slots Item).get position = none := rfl

/-- Store an item at a position, unless the position is taken. -/
def store (slots : Slots Item) (position : ℕ) (item : Item) : Slots Item where
  get other := (slots.get other).or (if other = position then some item else none)
  bounded := by
    rcases slots.bounded with ⟨bound, free⟩
    refine ⟨max bound (position + 1), ?_⟩
    intro other beyond
    rw [free other (by omega), if_neg (by omega)]
    rfl

theorem get_store (slots : Slots Item) (position other : ℕ) (item : Item) :
    (slots.store position item).get other =
      (slots.get other).or (if other = position then some item else none) := rfl

theorem get_store_of_ne {slots : Slots Item} {position other : ℕ} {item : Item}
    (different : other ≠ position) : (slots.store position item).get other = slots.get other := by
  simp [get_store, different]

theorem get_store_self {slots : Slots Item} {position : ℕ} {item : Item}
    (free : slots.get position = none) : (slots.store position item).get position = some item := by
  simp [get_store, free]

theorem store_eq_self {slots : Slots Item} {position : ℕ} {item : Item}
    (taken : slots.get position ≠ none) : slots.store position item = slots := by
  ext1 other
  by_cases same : other = position
  · subst same
    cases found : slots.get other with
    | none => exact absurd found taken
    | some kept => simp [get_store, found]
  · exact get_store_of_ne same

theorem store_comm (slots : Slots Item) {left right : ℕ} (leftItem rightItem : Item)
    (different : left ≠ right) :
    (slots.store left leftItem).store right rightItem =
      (slots.store right rightItem).store left leftItem := by
  ext1 other
  by_cases atLeft : other = left
  · subst atLeft
    simp [get_store, different]
  · simp [get_store, atLeft]

def dropBelow (slots : Slots Item) (start : ℕ) : Slots Item where
  get position := if position < start then none else slots.get position
  bounded := by
    rcases slots.bounded with ⟨bound, free⟩
    refine ⟨bound, ?_⟩
    intro position beyond
    simp [free position beyond]

theorem get_dropBelow (slots : Slots Item) (start position : ℕ) :
    (slots.dropBelow start).get position = if position < start then none else slots.get position :=
  rfl

theorem get_dropBelow_of_le {slots : Slots Item} {start position : ℕ} (above : start ≤ position) :
    (slots.dropBelow start).get position = slots.get position := by
  simp [get_dropBelow, Nat.not_lt.mpr above]

theorem exists_free (slots : Slots Item) (start : ℕ) :
    ∃ position, start ≤ position ∧ slots.get position = none := by
  rcases slots.bounded with ⟨bound, free⟩
  exact ⟨max start bound, le_max_left _ _, free _ (le_max_right _ _)⟩

/-- The first free position from a start. -/
def firstFree (slots : Slots Item) (start : ℕ) : ℕ :=
  Nat.find (slots.exists_free start)

theorem le_firstFree (slots : Slots Item) (start : ℕ) : start ≤ slots.firstFree start :=
  (Nat.find_spec (slots.exists_free start)).1

@[simp]
theorem get_firstFree (slots : Slots Item) (start : ℕ) :
    slots.get (slots.firstFree start) = none :=
  (Nat.find_spec (slots.exists_free start)).2

theorem taken_of_lt_firstFree {slots : Slots Item} {start position : ℕ} (above : start ≤ position)
    (below : position < slots.firstFree start) : slots.get position ≠ none := by
  intro free
  exact Nat.find_min (slots.exists_free start) below ⟨above, free⟩

theorem firstFree_eq {slots : Slots Item} {start position : ℕ} (above : start ≤ position)
    (free : slots.get position = none)
    (taken : ∀ other, start ≤ other → other < position → slots.get other ≠ none) :
    slots.firstFree start = position := by
  rcases Nat.lt_trichotomy (slots.firstFree start) position with before | same | after
  · exact absurd (slots.get_firstFree start) (taken _ (slots.le_firstFree start) before)
  · exact same
  · exact absurd free (taken_of_lt_firstFree above after)

/-- The items from one position up to another, in order. -/
def segment (slots : Slots Item) (start stop : ℕ) : List Item :=
  (List.range' start (stop - start)).filterMap slots.get

@[simp]
theorem segment_self (slots : Slots Item) (start : ℕ) : slots.segment start start = [] := by
  simp [segment]

theorem mem_segment {slots : Slots Item} {start stop : ℕ} {item : Item} :
    item ∈ slots.segment start stop ↔
      ∃ position, start ≤ position ∧ position < stop ∧ slots.get position = some item := by
  simp only [segment, List.mem_filterMap, List.mem_range'_1]
  constructor
  · rintro ⟨position, ⟨above, below⟩, found⟩
    exact ⟨position, above, by omega, found⟩
  · rintro ⟨position, above, below, found⟩
    exact ⟨position, ⟨above, by omega⟩, found⟩

theorem segment_append (slots : Slots Item) {start middle stop : ℕ} (first : start ≤ middle)
    (second : middle ≤ stop) :
    slots.segment start middle ++ slots.segment middle stop = slots.segment start stop := by
  have split : List.range' start (stop - start) =
      List.range' start (middle - start) ++ List.range' middle (stop - middle) := by
    have joined := List.range'_append_1 (s := start) (m := middle - start) (n := stop - middle)
    rw [Nat.add_sub_cancel' first] at joined
    rw [joined]
    congr 1
    omega
  simp [segment, split]

theorem segment_congr {left right : Slots Item} {start stop : ℕ}
    (same : ∀ position, start ≤ position → position < stop →
      left.get position = right.get position) :
    left.segment start stop = right.segment start stop := by
  apply List.filterMap_congr
  intro position inRange
  rw [List.mem_range'_1] at inRange
  exact same position inRange.1 (by omega)

theorem segment_eq_cons {slots : Slots Item} {start stop : ℕ} {item : Item} (below : start < stop)
    (found : slots.get start = some item) :
    slots.segment start stop = item :: slots.segment (start + 1) stop := by
  rw [segment, show stop - start = stop - (start + 1) + 1 by omega, List.range'_succ,
    List.filterMap_cons_some found]
  rfl

theorem segment_eq_tail {slots : Slots Item} {start stop : ℕ} (below : start < stop)
    (free : slots.get start = none) :
    slots.segment start stop = slots.segment (start + 1) stop := by
  rw [segment, show stop - start = stop - (start + 1) + 1 by omega, List.range'_succ,
    List.filterMap_cons_none free]
  rfl

theorem segment_eq_nil {slots : Slots Item} {start stop : ℕ}
    (free : ∀ position, start ≤ position → position < stop → slots.get position = none) :
    slots.segment start stop = [] := by
  rw [List.eq_nil_iff_forall_not_mem]
  intro item present
  rcases mem_segment.mp present with ⟨position, above, below, found⟩
  rw [free position above below] at found
  cases found

theorem length_segment {slots : Slots Item} {start stop : ℕ} (ahead : start ≤ stop)
    (taken : ∀ position, start ≤ position → position < stop → slots.get position ≠ none) :
    (slots.segment start stop).length = stop - start := by
  obtain ⟨count, rfl⟩ := Nat.exists_eq_add_of_le ahead
  induction count generalizing start with
  | zero => simp
  | succ count ih =>
      cases found : slots.get start with
      | none => exact absurd found (taken start le_rfl (by omega))
      | some item =>
          have next : start + (count + 1) = start + 1 + count := by omega
          have following := ih (Nat.le_add_right (start + 1) count) (by
            intro position above below
            exact taken position (by omega) (by omega))
          rw [segment_eq_cons (by omega) found, List.length_cons, next, following]
          omega

/-- If the items are labelled with their positions, so is a run of them. -/
theorem map_segment {Label : Type u} {slots : Slots Item} {label : Item → Label}
    {number : ℕ → Label} {start stop : ℕ}
    (labelled : ∀ position item, slots.get position = some item → label item = number position)
    (ahead : start ≤ stop)
    (taken : ∀ position, start ≤ position → position < stop → slots.get position ≠ none) :
    (slots.segment start stop).map label = (List.range' start (stop - start)).map number := by
  obtain ⟨count, rfl⟩ := Nat.exists_eq_add_of_le ahead
  induction count generalizing start with
  | zero => simp
  | succ count ih =>
      cases found : slots.get start with
      | none => exact absurd found (taken start le_rfl (by omega))
      | some item =>
          have next : start + (count + 1) = start + 1 + count := by omega
          have size : start + 1 + count - start = start + 1 + count - (start + 1) + 1 := by omega
          have following := ih (Nat.le_add_right (start + 1) count) (by
            intro position above below
            exact taken position (by omega) (by omega))
          rw [segment_eq_cons (by omega) found, List.map_cons, labelled start item found, next,
            following, size, List.range'_succ, List.map_cons]

/-- A stored item is listed between the items below its position and those above. -/
theorem segment_store {slots : Slots Item} {start stop position : ℕ} {item : Item}
    (above : start ≤ position) (below : position < stop) (free : slots.get position = none) :
    (slots.store position item).segment start stop =
      slots.segment start position ++ item :: slots.segment (position + 1) stop := by
  rw [← segment_append _ above below.le, segment_eq_cons below (get_store_self free)]
  congr 1
  · exact segment_congr fun other _ otherBelow => get_store_of_ne (by omega)
  · congr 1
    exact segment_congr fun other otherAbove _ => get_store_of_ne (by omega)

theorem segment_split_free {slots : Slots Item} {start stop position : ℕ}
    (above : start ≤ position) (below : position < stop) (free : slots.get position = none) :
    slots.segment start stop =
      slots.segment start position ++ slots.segment (position + 1) stop := by
  rw [← segment_append _ above below.le, segment_eq_tail below free]

end Slots

/-- A reassembly machine. No item is left waiting at or below the next position. -/
structure Reassembly (Item : Type u) where
  next : ℕ
  slots : Slots Item
  delivered : List Item
  settled : ∀ position, position ≤ next → slots.get position = none

namespace Reassembly

variable {Item : Type u}

@[ext]
theorem ext {left right : Reassembly Item} (next : left.next = right.next)
    (slots : left.slots = right.slots) (delivered : left.delivered = right.delivered) :
    left = right := by
  cases left
  cases right
  simp only at next slots delivered
  subst next slots delivered
  rfl

def initial : Reassembly Item where
  next := 0
  slots := Slots.empty
  delivered := []
  settled _ _ := rfl

/-- Deliver the run of consecutive items starting at a position. -/
def deliver (next : ℕ) (slots : Slots Item) (delivered : List Item) : Reassembly Item where
  next := slots.firstFree next
  slots := slots.dropBelow (slots.firstFree next)
  delivered := delivered ++ slots.segment next (slots.firstFree next)
  settled position reached := by
    rw [Slots.get_dropBelow]
    split
    · rfl
    · have same : position = slots.firstFree next := by omega
      rw [same, Slots.get_firstFree]

/-- An item arrives for a position: it is stored, and then everything consecutive is delivered. -/
def put (machine : Reassembly Item) (position : ℕ) (item : Item) : Reassembly Item :=
  deliver machine.next (machine.slots.store position item) machine.delivered

/-- Nothing is left to deliver between arrivals. -/
theorem deliver_self (machine : Reassembly Item) :
    deliver machine.next machine.slots machine.delivered = machine := by
  have stays : machine.slots.firstFree machine.next = machine.next :=
    Slots.firstFree_eq le_rfl (machine.settled _ le_rfl) fun other above below => by omega
  apply ext
  · exact stays
  · ext1 position
    simp only [deliver, stays, Slots.get_dropBelow]
    split
    · exact (machine.settled position (by omega)).symm
    · rfl
  · simp [deliver, stays]

theorem next_le_put (machine : Reassembly Item) (position : ℕ) (item : Item) :
    machine.next ≤ (machine.put position item).next :=
  Slots.le_firstFree _ _

theorem get_put (machine : Reassembly Item) (position other : ℕ) (item : Item) :
    (machine.put position item).slots.get other =
      if other < (machine.put position item).next then none
      else (machine.slots.store position item).get other := rfl

/-- An item has arrived for the position: it has been delivered, or it waits. -/
def Taken (machine : Reassembly Item) (position : ℕ) : Prop :=
  position < machine.next ∨ machine.slots.get position ≠ none

theorem taken_put (machine : Reassembly Item) (position : ℕ) (item : Item) :
    (machine.put position item).Taken position := by
  rcases Nat.lt_or_ge position (machine.put position item).next with delivered | waiting
  · exact .inl delivered
  · right
    rw [get_put, if_neg (Nat.not_lt.mpr waiting), Slots.get_store]
    simp

theorem Taken.put {machine : Reassembly Item} {position : ℕ} (taken : machine.Taken position)
    (other : ℕ) (item : Item) : (machine.put other item).Taken position := by
  rcases Nat.lt_or_ge position (machine.put other item).next with delivered | waiting
  · exact .inl delivered
  · rcases taken with delivered | waits
    · exact .inl (delivered.trans_le (machine.next_le_put other item))
    · right
      rw [get_put, if_neg (Nat.not_lt.mpr waiting), Slots.get_store]
      intro free
      exact waits (Option.or_eq_none_iff.mp free).1

/-- What has been delivered stays labelled with its positions. -/
theorem map_delivered_put {Label : Type u} {machine : Reassembly Item} {label : Item → Label}
    {number : ℕ → Label} {position : ℕ} {item : Item}
    (delivered : machine.delivered.map label = (List.range machine.next).map number)
    (labelled : ∀ other waiting, (machine.slots.store position item).get other = some waiting →
      label waiting = number other) :
    (machine.put position item).delivered.map label =
      (List.range (machine.put position item).next).map number := by
  have ahead := (machine.slots.store position item).le_firstFree machine.next
  have segment := Slots.map_segment labelled ahead fun _ above below =>
    Slots.taken_of_lt_firstFree above below
  have split : List.range ((machine.slots.store position item).firstFree machine.next) =
      List.range machine.next ++ List.range' machine.next
        ((machine.slots.store position item).firstFree machine.next - machine.next) := by
    have joined := List.range'_append_1 (s := 0) (m := machine.next)
      (n := (machine.slots.store position item).firstFree machine.next - machine.next)
    rw [Nat.zero_add, Nat.add_sub_cancel' ahead] at joined
    rw [List.range_eq_range', List.range_eq_range', joined]
  rw [put, deliver, List.map_append, delivered, segment, split, List.map_append]

/--
Deliveries can be postponed: an arrival after a delivery leads to the same
state as the arrival in the undelivered map, followed by one delivery.
-/
theorem deliver_put {start position : ℕ} {slots : Slots Item} {delivered : List Item} {item : Item}
    (ahead : (deliver start slots delivered).next ≤ position) :
    (deliver start slots delivered).put position item =
      deliver start (slots.store position item) delivered := by
  have above : start ≤ slots.firstFree start := slots.le_firstFree start
  have ahead' : slots.firstFree start ≤ position := ahead
  have same : ∀ other, slots.firstFree start ≤ other →
      ((slots.dropBelow (slots.firstFree start)).store position item).get other =
        (slots.store position item).get other := by
    intro other otherAbove
    simp [Slots.get_store, Slots.get_dropBelow_of_le otherAbove]
  have before : ∀ other, other < slots.firstFree start →
      (slots.store position item).get other = slots.get other :=
    fun other below => Slots.get_store_of_ne (by omega)
  -- The run from the start passes everything already delivered.
  have nextEq : (slots.store position item).firstFree start =
      ((slots.dropBelow (slots.firstFree start)).store position item).firstFree
        (slots.firstFree start) := by
    apply Slots.firstFree_eq
    · exact above.trans (Slots.le_firstFree _ _)
    · rw [← same _ (Slots.le_firstFree _ _), Slots.get_firstFree]
    · intro other otherAbove otherBelow
      rcases Nat.lt_or_ge other (slots.firstFree start) with inside | beyond
      · rw [before other inside]
        exact Slots.taken_of_lt_firstFree otherAbove inside
      · rw [← same other beyond]
        exact Slots.taken_of_lt_firstFree beyond otherBelow
  have later := Slots.le_firstFree
    ((slots.dropBelow (slots.firstFree start)).store position item) (slots.firstFree start)
  apply ext
  · exact nextEq.symm
  · ext1 other
    simp only [put, deliver, nextEq, Slots.get_dropBelow _ (Slots.firstFree _ _) other]
    split
    · rfl
    · exact same other (by omega)
  · simp only [put, deliver, nextEq, List.append_assoc]
    rw [← Slots.segment_append (slots.store position item) above later]
    congr 2
    · exact Slots.segment_congr fun other _ below => (before other below).symm
    · exact Slots.segment_congr fun other otherAbove _ => same other otherAbove

end Reassembly
