import ReliableTransfer.Library.Loop

/-!
# Loops which do the same

Two computations are alike if they succeed with related results, or fail in
related ways (`Alike`). Sequences of computations which are alike are alike
(`Alike.bind`). If the bodies of two loops are alike on inputs which say the same,
then so are the runs of the loops (`run_alike`). The relation between the states may
change when a loop returns, for example since it gives back its memory.
-/

universe u v w x y z

/-- Both succeed with related results, or both fail. -/
inductive Alike {Concrete : Type u} {Abstract : Type v} {Failure : Type w} {Other : Type x}
    (related : Concrete → Abstract → Prop) (fails : Failure → Other → Prop) :
    Except Failure Concrete → Except Other Abstract → Prop where
  | ok {concrete : Concrete} {abstract : Abstract} (same : related concrete abstract) :
      Alike related fails (.ok concrete) (.ok abstract)
  | error {failure : Failure} {other : Other} (same : fails failure other) :
      Alike related fails (.error failure) (.error other)

namespace Alike

variable {Concrete : Type u} {Abstract : Type v} {Failure : Type w} {Other : Type x}
  {related : Concrete → Abstract → Prop} {fails : Failure → Other → Prop}
  {one : Except Failure Concrete} {other : Except Other Abstract}

theorem bind {Concrete' : Type y} {Abstract' : Type z} {later : Concrete' → Abstract' → Prop}
    {next : Concrete → Except Failure Concrete'} {next' : Abstract → Except Other Abstract'}
    (alike : Alike related fails one other)
    (step : ∀ {concrete abstract}, related concrete abstract →
      Alike later fails (next concrete) (next' abstract)) :
    Alike later fails (one.bind next) (other.bind next') := by
  cases alike with
  | ok same => exact step same
  | error same => exact .error same

theorem mono {wider : Concrete → Abstract → Prop} (alike : Alike related fails one other)
    (implies : ∀ {concrete abstract}, related concrete abstract → wider concrete abstract) :
    Alike wider fails one other := by
  cases alike with
  | ok same => exact .ok (implies same)
  | error same => exact .error same

/-- What is known of the abstract result may be used of both. -/
theorem and_right {property : Abstract → Prop} (alike : Alike related fails one other)
    (holds : ∀ abstract, other = .ok abstract → property abstract) :
    Alike (fun concrete abstract => related concrete abstract ∧ property abstract) fails one
      other := by
  cases alike with
  | ok same => exact .ok ⟨same, holds _ rfl⟩
  | error same => exact .error same

/-- Both take the same branch. -/
theorem ite {condition : Prop} [Decidable condition] {one' : Except Failure Concrete}
    {other' : Except Other Abstract} (holds : condition → Alike related fails one other)
    (fails' : ¬condition → Alike related fails one' other') :
    Alike related fails (if condition then one else one')
      (if condition then other else other') := by
  split
  · exact holds ‹_›
  · exact fails' ‹_›

end Alike

namespace Loop

variable {Concrete : Type u} {Abstract : Type v} {Reason : Type w}

/-- Both loops go on, or both return for the same reason. -/
inductive SameFlow (related final : Concrete → Abstract → Prop) :
    LoopFlow Concrete Reason → LoopFlow Abstract Reason → Prop where
  | running {concrete : Concrete} {abstract : Abstract} (same : related concrete abstract) :
      SameFlow related final (.running concrete) (.running abstract)
  | returned (reason : Reason) {concrete : Concrete} {abstract : Abstract}
      (same : final concrete abstract) :
      SameFlow related final (.returned reason concrete) (.returned reason abstract)

theorem SameFlow.mono {related wider final : Concrete → Abstract → Prop}
    {flow : LoopFlow Concrete Reason} {flow' : LoopFlow Abstract Reason}
    (same : SameFlow related final flow flow')
    (implies : ∀ {concrete abstract}, related concrete abstract → wider concrete abstract) :
    SameFlow wider final flow flow' := by
  cases same with
  | running same => exact .running (implies same)
  | returned reason same => exact .returned reason same

theorem SameFlow.and_right {related final : Concrete → Abstract → Prop}
    {property : Abstract → Prop} {flow : LoopFlow Concrete Reason}
    {flow' : LoopFlow Abstract Reason} (same : SameFlow related final flow flow')
    (holds : property flow'.state) :
    SameFlow (fun concrete abstract => related concrete abstract ∧ property abstract) final
      flow flow' := by
  cases same with
  | running same => exact .running ⟨same, holds⟩
  | returned reason same => exact .returned reason same

variable {Input : Type x} {State : Type u} {Failure : Type y}

/-- A condition on the inputs of a loop, each in the state in which it is read. -/
def Along (body : Input → State → Except Failure (LoopFlow State Reason))
    (allowed : Input → State → Prop) : List Input → State → Prop
  | [], _ => True
  | input :: rest, state => allowed input state ∧
      ∀ next, body input state = .ok (.running next) → Along body allowed rest next

variable {Seen : Type z} {Other : Type x} {related final : Concrete → Abstract → Prop}
  {fails : Failure → Other → Prop}
  {body : Input → Concrete → Except Failure (LoopFlow Concrete Reason)}
  {body' : Seen → Abstract → Except Other (LoopFlow Abstract Reason)}

/-- If each iteration does the same, so does every run. -/
theorem run_alike {seen : Input → Seen} {allowed : Input → Concrete → Prop}
    (step : ∀ {input concrete abstract}, related concrete abstract → allowed input concrete →
      Alike (SameFlow related final) fails (body input concrete) (body' (seen input) abstract))
    {inputs : List Input} {concrete : Concrete} {abstract : Abstract}
    (initial : related concrete abstract) (along : Along body allowed inputs concrete) :
    Alike (SameFlow related final) fails (run body inputs concrete)
      (run body' (inputs.map seen) abstract) := by
  induction inputs generalizing concrete abstract with
  | nil => exact .ok (.running initial)
  | cons input rest ih =>
      have first := step initial along.1
      rw [List.map_cons, run, run]
      cases moved : body input concrete with
      | error failure =>
          cases moved' : body' (seen input) abstract with
          | error other =>
              rw [moved, moved'] at first
              cases first with
              | error same => exact .error same
          | ok flow =>
              rw [moved, moved'] at first
              cases first
      | ok flow =>
          cases moved' : body' (seen input) abstract with
          | error other =>
              rw [moved, moved'] at first
              cases first
          | ok flow' =>
              rw [moved, moved'] at first
              cases first with
              | ok same =>
                  cases same with
                  | running same => exact ih same (along.2 _ moved)
                  | returned reason same => exact .ok (.returned reason same)

end Loop
