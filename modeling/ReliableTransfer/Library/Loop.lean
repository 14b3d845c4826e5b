import Mathlib.Data.List.Induction

/-!
# Loops driven by their inputs

The body of an endless loop reads one input for each iteration, and then either
comes back to the top of the loop, returns from the function, or fails. A run
is the iteration of the body over a list of inputs. An invariant of a run may
speak about the inputs consumed so far (`run_induction`); what holds of the
state alone is an invariant of the reachable states (`Reachable.invariant`). A
record kept beside a run (`record`) does not restrict it, and has an invariant
of its own (`record_invariant`).
-/

universe u v w z x

/-- Where control is after one iteration of a loop body. -/
inductive LoopFlow (State : Type u) (Reason : Type v) where
  | running (state : State)
  | returned (reason : Reason) (state : State)
  deriving DecidableEq

namespace LoopFlow

variable {State : Type u} {Reason : Type v}

def state : LoopFlow State Reason → State
  | .running state => state
  | .returned _ state => state

@[simp]
theorem state_running (state : State) : (running state : LoopFlow State Reason).state = state := rfl

@[simp]
theorem state_returned (reason : Reason) (state : State) :
    (returned reason state).state = state := rfl

end LoopFlow

namespace Loop

variable {Input : Type w} {State : Type u} {Reason : Type v} {Failure : Type z}

/-- Iterate a loop body over a list of inputs, until it returns or fails. -/
def run (body : Input → State → Except Failure (LoopFlow State Reason)) :
    List Input → State → Except Failure (LoopFlow State Reason)
  | [], state => .ok (.running state)
  | input :: rest, state =>
      match body input state with
      | .ok (.running next) => run body rest next
      | .ok (.returned reason final) => .ok (.returned reason final)
      | .error failure => .error failure

variable {body : Input → State → Except Failure (LoopFlow State Reason)}

theorem run_append_of_running {before after : List Input} {start middle : State}
    (first : run body before start = .ok (.running middle)) :
    run body (before ++ after) start = run body after middle := by
  induction before generalizing start with
  | nil =>
      simp only [run, Except.ok.injEq, LoopFlow.running.injEq] at first
      subst first
      rfl
  | cons input rest ih =>
      simp only [run] at first
      simp only [List.cons_append, run]
      split at first
      · exact ih first
      · cases first
      · cases first

theorem run_snoc_running {before : List Input} {input : Input} {start final : State}
    (whole : run body (before ++ [input]) start = .ok (.running final)) :
    ∃ middle, run body before start = .ok (.running middle) ∧
      body input middle = .ok (.running final) := by
  induction before generalizing start with
  | nil =>
      refine ⟨start, rfl, ?_⟩
      simp only [List.nil_append, run] at whole
      split at whole
      · rename_i next bodyEq
        simp only [Except.ok.injEq, LoopFlow.running.injEq] at whole
        rw [bodyEq, whole]
      · cases whole
      · cases whole
  | cons first rest ih =>
      simp only [List.cons_append, run] at whole
      simp only [run]
      split at whole
      · exact ih whole
      · cases whole
      · cases whole

/-- An invariant of the inputs consumed and the state reached holds along every run. -/
theorem run_induction {start : State} {invariant : List Input → State → Prop}
    (initial : invariant [] start)
    (step : ∀ {before input state next}, invariant before state →
      body input state = .ok (.running next) → invariant (before ++ [input]) next)
    {inputs : List Input} {final : State}
    (reached : run body inputs start = .ok (.running final)) : invariant inputs final := by
  induction inputs using List.reverseRecOn generalizing final with
  | nil =>
      simp only [run, Except.ok.injEq, LoopFlow.running.injEq] at reached
      subst reached
      exact initial
  | append_singleton before input ih =>
      rcases run_snoc_running reached with ⟨middle, first, last⟩
      exact step (ih first) last

/-- A body which keeps an invariant and never fails under it has runs which never fail. -/
theorem run_total {holds : State → Prop}
    (step : ∀ {state}, holds state → ∀ input, ∃ flow, body input state = .ok flow ∧
      holds flow.state)
    (inputs : List Input) {start : State} (initial : holds start) :
    ∃ flow, run body inputs start = .ok flow ∧ holds flow.state := by
  induction inputs generalizing start with
  | nil => exact ⟨.running start, rfl, initial⟩
  | cons input rest ih =>
      rcases step initial input with ⟨flow, bodyEq, kept⟩
      simp only [run, bodyEq]
      cases flow with
      | running next => exact ih kept
      | returned reason final => exact ⟨.returned reason final, rfl, kept⟩

/-- What the iterations on certain inputs keep holds at the end of every run on such inputs. -/
theorem run_invariant {allowed : Input → Prop} {holds : LoopFlow State Reason → Prop}
    (step : ∀ {input state flow}, allowed input → holds (.running state) →
      body input state = .ok flow → holds flow)
    {inputs : List Input} (all : ∀ input ∈ inputs, allowed input) {start : State}
    (initial : holds (.running start)) {flow : LoopFlow State Reason}
    (reached : run body inputs start = .ok flow) : holds flow := by
  induction inputs generalizing start with
  | nil =>
      cases reached
      exact initial
  | cons input rest ih =>
      have others : ∀ input ∈ rest, allowed input :=
        fun other present => all other (List.mem_cons_of_mem _ present)
      rw [run] at reached
      split at reached
      · rename_i next bodyEq
        exact ih others (step (all input (List.mem_cons_self ..)) initial bodyEq) reached
      · rename_i bodyEq
        cases reached
        exact step (all input (List.mem_cons_self ..)) initial bodyEq
      · cases reached

theorem run_eq_error_iff {inputs : List Input} {start : State} {failure : Failure} :
    run body inputs start = .error failure ↔
      ∃ before input after state, inputs = before ++ input :: after ∧
        run body before start = .ok (.running state) ∧ body input state = .error failure := by
  constructor
  · intro failed
    induction inputs generalizing start with
    | nil => simp [run] at failed
    | cons input rest ih =>
        simp only [run] at failed
        split at failed
        · rename_i next bodyEq
          rcases ih failed with ⟨before, culprit, after, state, rfl, reached, bodyFails⟩
          refine ⟨input :: before, culprit, after, state, rfl, ?_, bodyFails⟩
          simp [run, bodyEq, reached]
        · cases failed
        · rename_i bodyEq
          cases failed
          exact ⟨[], input, rest, start, rfl, rfl, bodyEq⟩
  · rintro ⟨before, input, after, state, rfl, reached, bodyFails⟩
    rw [run_append_of_running reached]
    simp [run, bodyFails]

/-- A state which some run from the start comes to at the top of the loop. -/
def Reachable (body : Input → State → Except Failure (LoopFlow State Reason))
    (start state : State) : Prop :=
  ∃ inputs, run body inputs start = .ok (.running state)

namespace Reachable

variable {start : State}

theorem refl : Reachable body start start :=
  ⟨[], rfl⟩

/-- What holds initially and is preserved by the body holds of every reachable state. -/
theorem invariant {holds : State → Prop} (initial : holds start)
    (preserved : ∀ {input state next}, holds state →
      body input state = .ok (.running next) → holds next)
    {state : State} (reached : Reachable body start state) : holds state := by
  rcases reached with ⟨inputs, runs⟩
  have along : (fun _ => holds) inputs state := run_induction initial preserved runs
  exact along

end Reachable

variable {Record : Type x}

/--
What is recorded along a run. Each iteration adds to the record from its input and from the
state at its start, also the iteration in which the loop returns or fails.
-/
def record (body : Input → State → Except Failure (LoopFlow State Reason))
    (note : Input → State → Record → Record) : List Input → State → Record → Record
  | [], _, noted => noted
  | input :: rest, state, noted =>
      match body input state with
      | .ok (.running next) => record body note rest next (note input state noted)
      | .ok (.returned _ _) => note input state noted
      | .error _ => note input state noted

/--
An invariant of the record and the flow of control, preserved by the iterations on certain
inputs, holds at the end of every run on such inputs. What it implies for the record
alone (`sane`) holds also if the run fails.
-/
theorem record_invariant {note : Input → State → Record → Record} {allowed : Input → Prop}
    {holds : LoopFlow State Reason → Record → Prop} {sane : Record → Prop}
    (now : ∀ {flow noted}, holds flow noted → sane noted)
    (step : ∀ {input state noted}, allowed input → holds (.running state) noted →
      sane (note input state noted) ∧
        ∀ flow, body input state = .ok flow → holds flow (note input state noted))
    {inputs : List Input} (all : ∀ input ∈ inputs, allowed input) {start : State}
    {noted : Record} (initial : holds (.running start) noted) :
    sane (record body note inputs start noted) ∧
      ∀ flow, run body inputs start = .ok flow →
        holds flow (record body note inputs start noted) := by
  induction inputs generalizing start noted with
  | nil =>
      refine ⟨now initial, ?_⟩
      intro flow reached
      cases reached
      exact initial
  | cons input rest ih =>
      rcases step (all input (by simp)) initial with ⟨saneNext, kept⟩
      have others : ∀ input ∈ rest, allowed input :=
        fun other present => all other (by simp [present])
      rw [record, run]
      cases moved : body input start with
      | error failure =>
          refine ⟨saneNext, ?_⟩
          intro flow reached
          cases reached
      | ok flow =>
          cases flow with
          | running next => exact ih others (kept _ moved)
          | returned reason final =>
              refine ⟨saneNext, ?_⟩
              intro flow reached
              cases reached
              exact kept _ moved

theorem record_append_of_running {note : Input → State → Record → Record}
    {before after : List Input} {start middle : State} {noted : Record}
    (first : run body before start = .ok (.running middle)) :
    record body note (before ++ after) start noted =
      record body note after middle (record body note before start noted) := by
  induction before generalizing start noted with
  | nil =>
      cases first
      rfl
  | cons input rest ih =>
      simp only [run] at first
      simp only [List.cons_append, record]
      split at first
      · exact ih first
      · cases first
      · cases first

/-- An invariant of the inputs consumed, the record and the state holds along every run. -/
theorem record_induction {note : Input → State → Record → Record} {start : State}
    {noted : Record} {invariant : List Input → Record → State → Prop}
    (initial : invariant [] noted start)
    (step : ∀ {before input record state next}, invariant before record state →
      body input state = .ok (.running next) →
        invariant (before ++ [input]) (note input state record) next)
    {inputs : List Input} {final : State}
    (reached : run body inputs start = .ok (.running final)) :
    invariant inputs (record body note inputs start noted) final := by
  induction inputs using List.reverseRecOn generalizing final with
  | nil =>
      cases reached
      exact initial
  | append_singleton before input ih =>
      rcases run_snoc_running reached with ⟨middle, first, last⟩
      rw [record_append_of_running first]
      simp only [record, last]
      exact step (ih first) last

end Loop
