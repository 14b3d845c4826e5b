/-!
# Sequences of operations

An object is a state with operations on it: an operation gives a reply and
changes the state, or it fails. A sequence of operations is performed until one
fails. If every operation on a concrete state gives the reply of an operation on
an abstract state, and keeps a relation between the two, then so does every
sequence (`performAll_refines`).

Some of the calls made to an object may be meant only to observe it. Observers
which are views do not change the state, so that removing them changes no reply
of the operations (`performAll_view`). If the reply of an observer tells whether it
behaved as a view, then all of them do exactly when the replies are those of views
(`performAll_eq_view_iff`).
-/

universe u v w x y z

namespace Operations

variable {Op : Type u} {State : Type v} {Reply : Type w} {Failure : Type x}

/-- Perform operations one after the other, and collect the replies. -/
def performAll (perform : Op → State → Except Failure (Reply × State)) :
    List Op → State → Except Failure (List Reply × State)
  | [], state => .ok ([], state)
  | op :: rest, state =>
      match perform op state with
      | .error failure => .error failure
      | .ok (reply, next) =>
          match performAll perform rest next with
          | .error failure => .error failure
          | .ok (replies, final) => .ok (reply :: replies, final)

/-- A condition on the operations, each in the state in which it is performed. -/
def Along (perform : Op → State → Except Failure (Reply × State)) (allowed : Op → State → Prop) :
    List Op → State → Prop
  | [], _ => True
  | op :: rest, state => allowed op state ∧
      ∀ reply next, perform op state = .ok (reply, next) → Along perform allowed rest next

variable {perform : Op → State → Except Failure (Reply × State)}

theorem performAll_cons_ok {op : Op} {rest : List Op} {state next final : State} {reply : Reply}
    {replies : List Reply} (performed : perform op state = .ok (reply, next))
    (others : performAll perform rest next = .ok (replies, final)) :
    performAll perform (op :: rest) state = .ok (reply :: replies, final) := by
  simp only [performAll, performed, others]

theorem performAll_cons_inv {op : Op} {rest : List Op} {state final : State}
    {replies : List Reply}
    (performed : performAll perform (op :: rest) state = .ok (replies, final)) :
    ∃ reply next others, perform op state = .ok (reply, next) ∧
      performAll perform rest next = .ok (others, final) ∧ replies = reply :: others := by
  rw [performAll] at performed
  split at performed
  · cases performed
  · rename_i reply next first
    split at performed
    · cases performed
    · rename_i others last rest
      cases performed
      exact ⟨reply, next, others, first, rest, rfl⟩

/-- Operations which keep an invariant and do not fail under it form sequences which do not. -/
theorem performAll_total {holds : State → Prop}
    (step : ∀ op {state}, holds state → ∃ reply next, perform op state = .ok (reply, next) ∧
      holds next)
    (ops : List Op) {state : State} (initial : holds state) :
    ∃ replies final, performAll perform ops state = .ok (replies, final) := by
  induction ops generalizing state with
  | nil => exact ⟨[], state, rfl⟩
  | cons op rest ih =>
      rcases step op initial with ⟨reply, next, performed, kept⟩
      rcases ih kept with ⟨replies, final, others⟩
      exact ⟨_, _, performAll_cons_ok performed others⟩

/-- What every allowed operation keeps holds at the end of a sequence of them. -/
theorem performAll_invariant {holds : State → Prop} {allowed : Op → State → Prop}
    (kept : ∀ {op state reply next}, holds state → allowed op state →
      perform op state = .ok (reply, next) → holds next)
    {ops : List Op} {state final : State} {replies : List Reply} (initial : holds state)
    (along : Along perform allowed ops state)
    (performed : performAll perform ops state = .ok (replies, final)) : holds final := by
  induction ops generalizing state replies with
  | nil =>
      cases performed
      exact initial
  | cons op rest ih =>
      rcases performAll_cons_inv performed with ⟨reply, next, others, first, later, _⟩
      exact ih (kept initial along.1 first) (along.2 reply next first) later

/-- A condition implies another one along a sequence, under an invariant of the states. -/
theorem Along.mono {allowed other : Op → State → Prop} {holds : State → Prop}
    (kept : ∀ {op state reply next}, holds state → allowed op state →
      perform op state = .ok (reply, next) → holds next)
    (implies : ∀ {op state}, holds state → allowed op state → other op state)
    {ops : List Op} {state : State} (initial : holds state)
    (along : Along perform allowed ops state) : Along perform other ops state := by
  induction ops generalizing state with
  | nil => trivial
  | cons op rest ih =>
      refine ⟨implies initial along.1, ?_⟩
      intro reply next performed
      exact ih (kept initial along.1 performed) (along.2 reply next performed)

variable {Abstract : Type y}

/-- Operations on abstract states, which do not fail. -/
def answerAll (answer : Op → Abstract → Reply × Abstract) :
    List Op → Abstract → List Reply × Abstract
  | [], state => ([], state)
  | op :: rest, state =>
      let (reply, next) := answer op state
      let (replies, final) := answerAll answer rest next
      (reply :: replies, final)

theorem answerAll_map {Op' : Type z} (answer : Op → Abstract → Reply × Abstract) (f : Op' → Op)
    (ops : List Op') (abstract : Abstract) :
    answerAll (fun op => answer (f op)) ops abstract = answerAll answer (ops.map f) abstract := by
  induction ops generalizing abstract with
  | nil => rfl
  | cons op rest ih => simp only [answerAll, List.map_cons, ih]

/-- Operations on states which stand for abstract ones are the operations on these. -/
theorem performAll_embed {answer : Op → Abstract → Reply × Abstract} {embed : Abstract → State}
    (step : ∀ op abstract, perform op (embed abstract) =
      .ok ((answer op abstract).1, embed (answer op abstract).2))
    (ops : List Op) (abstract : Abstract) :
    performAll perform ops (embed abstract) =
      .ok ((answerAll answer ops abstract).1, embed (answerAll answer ops abstract).2) := by
  induction ops generalizing abstract with
  | nil => rfl
  | cons op rest ih => exact performAll_cons_ok (step op abstract) (ih _)

/-- A relation kept by each operation, with the same reply, is kept by every sequence of them. -/
theorem performAll_refines {answer : Op → Abstract → Reply × Abstract}
    {allowed : Op → State → Prop} {represents : State → Abstract → Prop}
    (step : ∀ {op state abstract}, represents state abstract → allowed op state →
      ∃ next, perform op state = .ok ((answer op abstract).1, next) ∧
        represents next (answer op abstract).2)
    {ops : List Op} {state : State} {abstract : Abstract} (represented : represents state abstract)
    (legal : Along perform allowed ops state) :
    ∃ final, performAll perform ops state = .ok ((answerAll answer ops abstract).1, final) ∧
      represents final (answerAll answer ops abstract).2 := by
  induction ops generalizing state abstract with
  | nil => exact ⟨state, rfl, represented⟩
  | cons op rest ih =>
      rcases step represented legal.1 with ⟨next, performed, kept⟩
      rcases ih kept (legal.2 _ _ performed) with ⟨final, others, reached⟩
      exact ⟨final, performAll_cons_ok performed others, reached⟩

/--
A relation kept by each operation and one on abstract states, which also may fail, with the
same reply, is kept by every sequence of them.
-/
theorem performAll_simulates {Op' : Type z} {abstractOp : Op → Op'}
    {performAbstract : Op' → Abstract → Except Failure (Reply × Abstract)}
    {allowed : Op → State → Prop} {represents : State → Abstract → Prop}
    (step : ∀ {op state abstract}, represents state abstract → allowed op state →
      ∃ reply next abstract', perform op state = .ok (reply, next) ∧
        performAbstract (abstractOp op) abstract = .ok (reply, abstract') ∧
        represents next abstract')
    {ops : List Op} {state : State} {abstract : Abstract} (represented : represents state abstract)
    (legal : Along perform allowed ops state) :
    ∃ replies final abstract', performAll perform ops state = .ok (replies, final) ∧
      performAll performAbstract (ops.map abstractOp) abstract = .ok (replies, abstract') ∧
      represents final abstract' := by
  induction ops generalizing state abstract with
  | nil => exact ⟨[], state, abstract, rfl, rfl, represented⟩
  | cons op rest ih =>
      rcases step represented legal.1 with ⟨reply, next, middle, performed, performed', kept⟩
      rcases ih kept (legal.2 _ _ performed) with
        ⟨replies, final, abstract', others, others', reached⟩
      exact ⟨reply :: replies, final, abstract', performAll_cons_ok performed others,
        performAll_cons_ok performed' others', reached⟩

variable {Observer : Type z}

/-- A call of an operation, or of an observer. -/
def call (perform : Op → State → Except Failure (Reply × State))
    (observe : Observer → State → Reply × State) :
    Op ⊕ Observer → State → Except Failure (Reply × State)
  | .inl op, state => perform op state
  | .inr observer, state => .ok (observe observer state)

/-- The observer as it is meant: a view of the state. -/
def viewing (view : Observer → State → Reply) (observer : Observer) (state : State) :
    Reply × State :=
  (view observer state, state)

/-- The operations among some calls. -/
def operations (calls : List (Op ⊕ Observer)) : List Op :=
  calls.filterMap Sum.getLeft?

/-- The replies to the operations among some calls. -/
def operationReplies : List (Op ⊕ Observer) → List Reply → List Reply
  | .inl _ :: calls, reply :: replies => reply :: operationReplies calls replies
  | .inr _ :: calls, _ :: replies => operationReplies calls replies
  | _, _ => []

variable {observe : Observer → State → Reply × State} {view : Observer → State → Reply}

/-- Views can be removed: the operations have the same replies without them. -/
theorem performAll_view {calls : List (Op ⊕ Observer)} {state final : State}
    {replies : List Reply}
    (performed : performAll (call perform (viewing view)) calls state = .ok (replies, final)) :
    performAll perform (operations calls) state = .ok (operationReplies calls replies, final) := by
  induction calls generalizing state replies with
  | nil =>
      cases performed
      rfl
  | cons made rest ih =>
      rcases performAll_cons_inv performed with ⟨reply, next, others, first, later, rfl⟩
      cases made with
      | inl op => exact performAll_cons_ok first (ih later)
      | inr observer =>
          cases first
          exact ih later

/-- The call is of an operation, or of an observer which behaves as a view in this state. -/
def IsView (observe : Observer → State → Reply × State) (view : Observer → State → Reply)
    (made : Op ⊕ Observer) (state : State) : Prop :=
  ∀ observer, made = .inr observer → observe observer state = viewing view observer state

theorem call_eq_view {made : Op ⊕ Observer} {state : State}
    (isView : IsView observe view made state) :
    call perform observe made state = call perform (viewing view) made state := by
  cases made with
  | inl op => rfl
  | inr observer => exact congrArg Except.ok (isView observer rfl)

/--
Let the operations keep an invariant and not fail under it, and let an observer
have the reply of its view only where it behaves as the view. Then a sequence of
calls has the result it would have with views exactly when all observers behave
as these, each in the state in which it is called.
-/
theorem performAll_eq_view_iff {holds : State → Prop}
    (step : ∀ op {state}, holds state → ∃ reply next, perform op state = .ok (reply, next) ∧
      holds next)
    (decided : ∀ observer {state}, holds state →
      (observe observer state).1 = view observer state →
        observe observer state = viewing view observer state)
    (calls : List (Op ⊕ Observer)) {state : State} (initial : holds state) :
    performAll (call perform observe) calls state =
        performAll (call perform (viewing view)) calls state ↔
      Along (call perform observe) (IsView observe view) calls state := by
  have total : ∀ (made : Op ⊕ Observer) {state}, holds state →
      ∃ reply next, call perform (viewing view) made state = .ok (reply, next) ∧ holds next := by
    intro made state held
    cases made with
    | inl op => exact step op held
    | inr observer => exact ⟨_, state, rfl, held⟩
  induction calls generalizing state with
  | nil => exact ⟨fun _ => trivial, fun _ => rfl⟩
  | cons made rest ih =>
      rcases total made initial with ⟨reply, next, viewed, kept⟩
      rcases performAll_total total rest kept with ⟨replies, final, others⟩
      constructor
      · intro same
        rw [performAll_cons_ok viewed others] at same
        rcases performAll_cons_inv same with ⟨first, middle, later, performed, behind, equal⟩
        rcases List.cons.inj equal with ⟨rfl, rfl⟩
        have isView : IsView observe view made state := by
          rintro observer rfl
          cases viewed
          apply decided observer initial
          exact congrArg Prod.fst (Except.ok.inj performed)
        rw [call_eq_view isView, viewed] at performed
        cases performed
        refine ⟨isView, ?_⟩
        intro reply' next' performed'
        rw [call_eq_view isView, viewed] at performed'
        cases performed'
        exact (ih kept).mp (behind.trans others.symm)
      · rintro ⟨isView, along⟩
        have performed : call perform observe made state = .ok (reply, next) := by
          rw [call_eq_view isView, viewed]
        have behind := (ih kept).mpr (along reply next performed)
        rw [others] at behind
        rw [performAll_cons_ok viewed others, performAll_cons_ok performed behind]

end Operations
