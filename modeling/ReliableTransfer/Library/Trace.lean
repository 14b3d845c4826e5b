import Mathlib.Order.Filter.AtTopBot.Basic
import Mathlib.Logic.Relation

/-!
# Infinite runs

A run goes on for ever: between each state and the next one there is an event. What holds again
and again (`∃ᶠ` at infinity) is not used up by any finite part of the run. A measure which rises and
is bounded stays the same from some time on, so a goal is reached if the measure cannot stay the
same for ever before that (`exists_of_progress`).
-/

universe u v

open Filter

/-- A bounded measure which never falls stays the same from some time on. -/
theorem Monotone.exists_stable {measure : ℕ → ℕ} (rises : Monotone measure) {bound : ℕ}
    (bounded : ∀ time, measure time ≤ bound) :
    ∃ start, ∀ time, start ≤ time → measure time = measure start := by
  suffices ∀ left start, bound - measure start = left →
      ∃ later, ∀ time, later ≤ time → measure time = measure later from this _ 0 rfl
  intro left
  induction left using Nat.strong_induction_on with
  | _ left ih =>
      intro start rest
      by_cases stays : ∀ time, start ≤ time → measure time = measure start
      · exact ⟨start, stays⟩
      · push Not at stays
        rcases stays with ⟨time, after, differs⟩
        have above := rises after
        have below := bounded time
        exact ih (bound - measure time) (by omega) time rfl

/-- A measure which has passed a level has passed it in one of the steps. -/
theorem exists_crossing {measure : ℕ → ℕ} {level first last : ℕ} (order : first ≤ last)
    (below : measure first ≤ level) (above : level < measure last) :
    ∃ time, first ≤ time ∧ time < last ∧ measure time ≤ level ∧ level < measure (time + 1) := by
  induction last, order using Nat.le_induction with
  | base => omega
  | succ last order ih =>
      rcases Nat.lt_or_ge level (measure last) with passed | notYet
      · rcases ih passed with ⟨time, after, before, crossing⟩
        exact ⟨time, after, by omega, crossing⟩
      · exact ⟨last, order, Nat.lt_succ_self last, notYet, above⟩

/-- The states of an infinite run, and the event between each of them and the next one. -/
structure Trace {State : Type u} {Event : Type v} (Moves : State → Event → State → Prop) where
  state : ℕ → State
  event : ℕ → Event
  moves : ∀ time, Moves (state time) (event time) (state (time + 1))

namespace Trace

variable {State : Type u} {Event : Type v} {Moves : State → Event → State → Prop}

theorem invariant (trace : Trace Moves) {holds : State → Prop} (initial : holds (trace.state 0))
    (preserved : ∀ {before event after}, holds before → Moves before event after → holds after)
    (time : ℕ) : holds (trace.state time) := by
  induction time with
  | zero => exact initial
  | succ time ih => exact preserved ih (trace.moves time)

/-- The goal is reached, if the measure cannot stay the same for ever without it. -/
theorem exists_of_progress (trace : Trace Moves) {goal : State → Prop} {measure : State → ℕ}
    {bound : ℕ} (bounded : ∀ time, measure (trace.state time) ≤ bound)
    (rises : ∀ time, ¬goal (trace.state (time + 1)) →
      measure (trace.state time) ≤ measure (trace.state (time + 1)))
    (progress : ∀ start, (∀ time, ¬goal (trace.state time)) →
      ∃ time, start ≤ time ∧ measure (trace.state time) ≠ measure (trace.state start)) :
    ∃ time, goal (trace.state time) := by
  by_contra never
  push Not at never
  have monotone : Monotone fun time => measure (trace.state time) :=
    monotone_nat_of_le_succ fun time => rises time (never (time + 1))
  rcases monotone.exists_stable bounded with ⟨start, stays⟩
  rcases progress start never with ⟨time, after, differs⟩
  exact differs (stays time after)

/-- A run in which one event changes nothing, again and again. -/
def constant {state : State} {event : Event} (idle : Moves state event state) : Trace Moves where
  state _ := state
  event _ := event
  moves _ := idle

/-- One step before a run. -/
def cons (trace : Trace Moves) {before : State} {event : Event}
    (step : Moves before event (trace.state 0)) : Trace Moves where
  state
    | 0 => before
    | time + 1 => trace.state time
  event
    | 0 => event
    | time + 1 => trace.event time
  moves
    | 0 => step
    | time + 1 => trace.moves time

/-- A finite run goes on for ever, if its last state can stay as it is. -/
theorem exists_of_steps {first last : State} {event : Event} (idle : Moves last event last)
    (steps : Relation.ReflTransGen (fun before after => ∃ event, Moves before event after)
      first last) :
    ∃ trace : Trace Moves, trace.state 0 = first ∧
      ∃ settled, ∀ time, settled ≤ time → trace.state time = last := by
  induction steps using Relation.ReflTransGen.head_induction_on with
  | refl => exact ⟨constant idle, rfl, 0, fun _ _ => rfl⟩
  | head step _ ih =>
      rcases ih with ⟨trace, rfl, settled, stays⟩
      rcases step with ⟨event, moves⟩
      refine ⟨trace.cons moves, rfl, settled + 1, ?_⟩
      rintro (_ | time) later
      · omega
      · exact stays time (Nat.le_of_succ_le_succ later)

end Trace
