import Mathlib.Data.List.Basic

/-!
# Records of a level which rises slowly

A level rises over time, and entries are appended to a record. It rises only when
something is appended, and then by at most `slope`. When an entry is appended, it is at most
`above` over the level and at most `slack` under it. Then entries which are close to
each other in the record are close in value (`Drifts.le`). Hence who has seen some entries
(`Known`), and sees another one which is not far behind, is not far above it (`Known.le`).
-/

/-- The entries are close to the level at the time when they have been appended. -/
structure Drifts (slope slack above level : ℕ) (entries : List ℕ) : Prop where
  below : ∀ entry ∈ entries, entry ≤ level + above
  near : ∀ index entry, entries[index]? = some entry →
    level + slope * (index + 1) ≤ entry + slack + slope * entries.length
  apart : ∀ first second one other, entries[first]? = some one → entries[second]? = some other →
    one ≤ other + slack + above + slope * (first - second)

namespace Drifts

variable {slope slack above level : ℕ} {entries : List ℕ}

theorem nil : Drifts slope slack above level [] where
  below := by
    intro entry none
    cases none
  near := by
    intro index entry none
    cases none
  apart := by
    intro first second one other none
    cases none

/-- Before the level can rise further, something is appended to the record. -/
theorem near_earlier (drifts : Drifts slope slack above level entries) {later : ℕ}
    {new : List ℕ} (slow : later ≤ level + slope) (recorded : new = [] → later = level)
    {index entry : ℕ} (found : entries[index]? = some entry) :
    later + slope * (index + 1) ≤ entry + slack + slope * (entries ++ new).length := by
  have near := drifts.near index entry found
  rw [List.length_append]
  by_cases same : new = []
  · rw [recorded same, same]
    exact near
  · have longer : slope * (entries.length + 1) ≤ slope * (entries.length + new.length) := by
      apply Nat.mul_le_mul_left
      have some := List.length_pos_iff.mpr same
      omega
    rw [Nat.mul_add_one] at longer
    omega

/-- The level has risen, and some entries have been appended. -/
theorem append (drifts : Drifts slope slack above level entries) {later : ℕ} {new : List ℕ}
    (rises : level ≤ later) (slow : later ≤ level + slope) (recorded : new = [] → later = level)
    (near : ∀ entry ∈ new, later ≤ entry + slack)
    (below : ∀ entry ∈ new, entry ≤ later + above) :
    Drifts slope slack above later (entries ++ new) where
  below := by
    intro entry present
    rcases List.mem_append.mp present with earlier | isNew
    · have low := drifts.below entry earlier
      omega
    · exact below entry isNew
  near := by
    intro index entry found
    rcases Nat.lt_or_ge index entries.length with inside | beyond
    · rw [List.getElem?_append_left inside] at found
      exact drifts.near_earlier slow recorded found
    · have end_ := (List.getElem?_eq_some_iff.mp found).1
      rw [List.getElem?_append_right beyond] at found
      have high := near entry (List.mem_of_getElem? found)
      have rise : slope * (index + 1) ≤ slope * (entries ++ new).length :=
        Nat.mul_le_mul_left _ end_
      omega
  apart := by
    intro first second one other foundFirst foundSecond
    rcases Nat.lt_or_ge second entries.length with early | late
    · rw [List.getElem?_append_left early] at foundSecond
      rcases Nat.lt_or_ge first entries.length with inside | beyond
      · rw [List.getElem?_append_left inside] at foundFirst
        exact drifts.apart first second one other foundFirst foundSecond
      · rw [List.getElem?_append_right beyond] at foundFirst
        have low := below one (List.mem_of_getElem? foundFirst)
        -- The level has risen once more since the last entry, if `first` is the next one.
        have high := drifts.near second other foundSecond
        have rise : slope * (entries.length - second) ≤ slope * (first - second) :=
          Nat.mul_le_mul_left _ (by omega)
        have split : slope * entries.length =
            slope * (entries.length - second) + slope * second := by
          rw [← Nat.mul_add, Nat.sub_add_cancel (Nat.le_of_lt early)]
        rw [Nat.mul_add_one] at high
        omega
    · rw [List.getElem?_append_right late] at foundSecond
      have high := near other (List.mem_of_getElem? foundSecond)
      have low : one ≤ later + above := by
        rcases List.mem_append.mp (List.mem_of_getElem? foundFirst) with earlier | isNew
        · have low := drifts.below one earlier
          omega
        · exact below one isNew
      omega

/-- Entries are at most so far apart as the level has risen in between, and the two margins. -/
theorem le (drifts : Drifts slope slack above level entries) {first second one other lag : ℕ}
    (foundFirst : entries[first]? = some one) (foundSecond : entries[second]? = some other)
    (close : first ≤ second + lag) : one ≤ other + slack + above + slope * lag := by
  have apart := drifts.apart first second one other foundFirst foundSecond
  have rise : slope * (first - second) ≤ slope * lag := Nat.mul_le_mul_left _ (by omega)
  omega

end Drifts

/-- The level is not above all of the first `seen` entries. -/
def Known (entries : List ℕ) (seen level : ℕ) : Prop :=
  level = 0 ∨ ∃ index entry, index < seen ∧ entries[index]? = some entry ∧ level ≤ entry

namespace Known

variable {entries : List ℕ} {seen level : ℕ}

theorem append (known : Known entries seen level) (new : List ℕ) :
    Known (entries ++ new) seen level := by
  rcases known with zero | ⟨index, entry, inside, found, below⟩
  · exact .inl zero
  · refine .inr ⟨index, entry, inside, ?_, below⟩
    rw [List.getElem?_append_left (List.getElem?_eq_some_iff.mp found).1]
    exact found

/-- One more entry has been seen, and the level has risen to it. -/
theorem see (known : Known entries seen level) {index entry : ℕ}
    (found : entries[index]? = some entry) :
    Known entries (max seen (index + 1)) (max level entry) := by
  rcases Nat.le_total level entry with rises | stays
  · rw [Nat.max_eq_right rises]
    exact .inr ⟨index, entry, by omega, found, Nat.le_refl _⟩
  · rw [Nat.max_eq_left stays]
    rcases known with zero | ⟨other, first, inside, present, below⟩
    · exact .inl zero
    · exact .inr ⟨other, first, by omega, present, below⟩

/-- An entry which is not far behind the last one seen is not far below the level. -/
theorem le (known : Known entries seen level) {slope slack above current index entry lag : ℕ}
    (drifts : Drifts slope slack above current entries) (found : entries[index]? = some entry)
    (close : seen ≤ index + 1 + lag) : level ≤ entry + slack + above + slope * lag := by
  rcases known with zero | ⟨other, first, inside, present, below⟩
  · omega
  · have apart := drifts.le present found (show other ≤ index + lag by omega)
    omega

end Known
