import Mathlib.Logic.Function.Basic
import Mathlib.Data.List.Nodup

/-!
# Linked lists in a heap

A heap maps the addresses of the allocated nodes to their contents; a freed or
unused address has none. A node holds a value and a pointer to the next node,
which may be null. `Chain` says which nodes are passed on the way from one
pointer to another.

A chain which ends in the null pointer is determined by its first pointer
(`Chain.unique`), so that it passes no node twice (`Chain.nodup`). What is
written to other nodes does not change it (`Chain.update_of_notMem`).

A list owns its nodes: the `Frame` of a heap says that nothing else has been
allocated, changed or freed since a base heap.
-/

universe u v

namespace Linked

/-- A node in memory. -/
structure Node (Addr : Type u) (Value : Type v) where
  value : Value
  next : Option Addr
  deriving DecidableEq, Repr

/-- The nodes which are allocated. -/
abbrev Heap (Addr : Type u) (Value : Type v) := Addr → Option (Node Addr Value)

variable {Addr : Type u} {Value : Type v}

/-- The nodes passed from the pointer `start` on, until the pointer `stop`. -/
def Chain (heap : Heap Addr Value) : Option Addr → List (Addr × Value) → Option Addr → Prop
  | start, [], stop => start = stop
  | start, cell :: rest, stop => start = some cell.1 ∧
      ∃ next, heap cell.1 = some ⟨cell.2, next⟩ ∧ Chain heap next rest stop

/-- The addresses of some nodes. -/
def addresses (cells : List (Addr × Value)) : List Addr :=
  cells.map Prod.fst

/-- The values of some nodes. -/
def values (cells : List (Addr × Value)) : List Value :=
  cells.map Prod.snd

@[simp]
theorem addresses_nil : addresses ([] : List (Addr × Value)) = [] := rfl

@[simp]
theorem addresses_cons (cell : Addr × Value) (cells : List (Addr × Value)) :
    addresses (cell :: cells) = cell.1 :: addresses cells := rfl

@[simp]
theorem addresses_append (front back : List (Addr × Value)) :
    addresses (front ++ back) = addresses front ++ addresses back :=
  List.map_append

@[simp]
theorem values_nil : values ([] : List (Addr × Value)) = [] := rfl

@[simp]
theorem values_cons (cell : Addr × Value) (cells : List (Addr × Value)) :
    values (cell :: cells) = cell.2 :: values cells := rfl

@[simp]
theorem values_append (front back : List (Addr × Value)) :
    values (front ++ back) = values front ++ values back :=
  List.map_append

@[simp]
theorem length_values (cells : List (Addr × Value)) : (values cells).length = cells.length :=
  List.length_map ..

namespace Chain

variable {heap : Heap Addr Value} {start middle stop : Option Addr}
  {cells front back : List (Addr × Value)} {addr : Addr}

theorem append (first : Chain heap start front middle) (second : Chain heap middle back stop) :
    Chain heap start (front ++ back) stop := by
  induction front generalizing start with
  | nil =>
      cases first
      exact second
  | cons cell rest ih =>
      rcases first with ⟨rfl, next, held, linked⟩
      exact ⟨rfl, next, held, ih linked⟩

theorem split (whole : Chain heap start (front ++ back) stop) :
    ∃ middle, Chain heap start front middle ∧ Chain heap middle back stop := by
  induction front generalizing start with
  | nil => exact ⟨start, rfl, whole⟩
  | cons cell rest ih =>
      rcases whole with ⟨rfl, next, held, linked⟩
      rcases ih linked with ⟨middle, first, second⟩
      exact ⟨middle, ⟨rfl, next, held, first⟩, second⟩

theorem allocated (chain : Chain heap start cells stop) (present : addr ∈ addresses cells) :
    heap addr ≠ none := by
  induction cells generalizing start with
  | nil => cases present
  | cons cell rest ih =>
      rcases chain with ⟨rfl, next, held, linked⟩
      rcases List.mem_cons.mp present with rfl | later
      · rw [held]
        exact Option.some_ne_none _
      · exact ih linked later

/-- The nodes up to the null pointer are determined by the pointer to the first one. -/
theorem unique (one : Chain heap start front none) (other : Chain heap start back none) :
    front = back := by
  induction front generalizing start back with
  | nil =>
      cases one
      cases back with
      | nil => rfl
      | cons cell rest => cases other.1
  | cons cell rest ih =>
      rcases one with ⟨rfl, next, held, linked⟩
      cases back with
      | nil => cases other
      | cons cell' rest' =>
          rcases other with ⟨same, next', held', linked'⟩
          cases cell
          cases cell'
          cases same
          rw [held] at held'
          cases held'
          rw [ih linked linked']

/-- No node is passed twice on the way to the null pointer. -/
theorem nodup (chain : Chain heap start cells none) : (addresses cells).Nodup := by
  induction cells generalizing start with
  | nil => exact List.nodup_nil
  | cons cell rest ih =>
      rcases chain with ⟨rfl, next, held, linked⟩
      refine List.nodup_cons.mpr ⟨?_, ih linked⟩
      intro again
      -- From the second passage on, the chain would be the same as from the first one on.
      rcases List.mem_map.mp again with ⟨⟨addr, value⟩, present, same⟩
      rcases List.append_of_mem present with ⟨front, back, rfl⟩
      rcases linked.split with ⟨middle, _, rfl, next', held', linked'⟩
      have fromHere : Chain heap (some cell.1) (cell :: (front ++ (addr, value) :: back)) none :=
        ⟨rfl, next, held, linked⟩
      have fromThere : Chain heap (some cell.1) ((addr, value) :: back) none :=
        ⟨congrArg some same.symm, next', held', linked'⟩
      have lengths := congrArg List.length (fromHere.unique fromThere)
      simp at lengths
      omega

/-- Another heap with the same nodes has the same chain. -/
theorem congr {heap' : Heap Addr Value} (chain : Chain heap start cells stop)
    (same : ∀ addr ∈ addresses cells, heap' addr = heap addr) :
    Chain heap' start cells stop := by
  induction cells generalizing start with
  | nil => exact chain
  | cons cell rest ih =>
      rcases chain with ⟨rfl, next, held, linked⟩
      refine ⟨rfl, next, ?_, ih linked fun addr later => same addr (List.mem_cons_of_mem _ later)⟩
      rw [same cell.1 (List.mem_cons_self ..), held]

/-- The nodes up to the null pointer begin where the first pointer points to. -/
theorem start_eq (chain : Chain heap start cells none) : start = (addresses cells).head? := by
  cases cells with
  | nil => exact chain
  | cons cell rest => exact chain.1

/--
A node is linked into a chain. It points to the node behind it, and the node before it, or
the first pointer if there is none, points to it.
-/
theorem insert {heap' : Heap Addr Value} {value : Value}
    (chain : Chain heap start (front ++ back) none) (fresh : addr ∉ addresses (front ++ back))
    (stored : heap' addr = some ⟨value, (addresses back).head?⟩)
    (linked : ∀ last ∈ (addresses front).getLast?, heap' last =
      (heap last).map fun node => { node with next := some addr })
    (same : ∀ other, other ≠ addr → some other ≠ (addresses front).getLast? →
      heap' other = heap other) :
    Chain heap' (if front = [] then some addr else start) (front ++ (addr, value) :: back)
      none := by
  have distinct := chain.nodup
  rw [addresses_append, List.nodup_append] at distinct
  rw [addresses_append, List.mem_append, not_or] at fresh
  have behind (middle : Option Addr) (last : Chain heap middle back none) :
      Chain heap' (some addr) ((addr, value) :: back) none := by
    refine ⟨rfl, _, stored, last.start_eq ▸ last.congr ?_⟩
    intro other present
    apply same
    · rintro rfl
      exact fresh.2 present
    · intro isLast
      exact distinct.2.2 other (List.mem_of_getLast? isLast.symm) other present rfl
  rcases chain.split with ⟨middle, before, after⟩
  rcases List.eq_nil_or_concat' front with rfl | ⟨others, ⟨last, lastValue⟩, rfl⟩
  · exact behind middle after
  · rw [if_neg (by simp)]
    refine Chain.append ?_ (behind middle after)
    rcases before.split with ⟨_, first, rfl, next, held, rfl⟩
    refine (first.congr ?_).append ⟨rfl, some addr, ?_, rfl⟩
    · intro other present
      apply same
      · rintro rfl
        exact fresh.1 (by simp [present])
      · intro isLast
        rw [addresses_append, List.nodup_append] at distinct
        have again : other = last := by simpa using isLast
        exact distinct.1.2.2 other present last (by simp) again
    · rw [linked last (by simp), held]
      rfl

variable [DecidableEq Addr] {content : Option (Node Addr Value)}

/-- What happens at another address does not matter. -/
theorem update_of_notMem (chain : Chain heap start cells stop) (absent : addr ∉ addresses cells) :
    Chain (Function.update heap addr content) start cells stop := by
  induction cells generalizing start with
  | nil => exact chain
  | cons cell rest ih =>
      rcases chain with ⟨rfl, next, held, linked⟩
      rcases List.ne_and_not_mem_of_not_mem_cons absent with ⟨different, later⟩
      refine ⟨rfl, next, ?_, ih linked later⟩
      rw [Function.update_of_ne different.symm, held]

/-- The last node is linked to something else. -/
theorem relink {value : Value} {stop' : Option Addr}
    (chain : Chain heap start (front ++ [(addr, value)]) stop) (absent : addr ∉ addresses front) :
    Chain (Function.update heap addr (some ⟨value, stop'⟩)) start (front ++ [(addr, value)])
      stop' := by
  rcases chain.split with ⟨middle, first, rfl, next, held, last⟩
  refine (first.update_of_notMem absent).append ⟨rfl, stop', ?_, rfl⟩
  exact Function.update_self ..

/-- The value of one node is replaced. -/
theorem replace {value value' : Value} {next : Option Addr}
    (chain : Chain heap start (front ++ (addr, value) :: back) none)
    (held : heap addr = some ⟨value, next⟩) :
    Chain (Function.update heap addr (some ⟨value', next⟩)) start
      (front ++ (addr, value') :: back) none := by
  have distinct := chain.nodup
  rw [addresses_append, addresses_cons, List.nodup_middle, List.nodup_cons, List.mem_append,
    not_or] at distinct
  rcases chain.split with ⟨middle, before, rfl, next', held', after⟩
  rw [held] at held'
  cases held'
  exact (before.update_of_notMem distinct.1.1).append
    ⟨rfl, next, Function.update_self .., after.update_of_notMem distinct.1.2⟩

end Chain

/-- The heap holds nodes at these cells, and otherwise what the base heap holds. -/
structure Frame (base heap : Heap Addr Value) (cells : List (Addr × Value)) : Prop where
  unused : ∀ addr ∈ addresses cells, base addr = none
  same : ∀ addr, addr ∉ addresses cells → heap addr = base addr

namespace Frame

variable {base heap heap' : Heap Addr Value} {cells cells' front back : List (Addr × Value)}
  {addr : Addr}

theorem refl (base : Heap Addr Value) : Frame base base [] where
  unused _ present := by cases present
  same _ _ := rfl

/-- Without cells, nothing is left but the base heap. -/
theorem eq_base (frame : Frame base heap []) : heap = base :=
  funext fun addr => frame.same addr List.not_mem_nil

/-- Nodes which are only written to, and which keep their addresses, stay in the frame. -/
theorem congr (frame : Frame base heap cells) (places : addresses cells' = addresses cells)
    (same : ∀ addr, addr ∉ addresses cells → heap' addr = heap addr) :
    Frame base heap' cells' := by
  constructor
  · rw [places]
    exact frame.unused
  · intro addr absent
    rw [places] at absent
    rw [same addr absent, frame.same addr absent]

theorem insert {value : Value} (frame : Frame base heap (front ++ back))
    (unused : heap addr = none) (fresh : addr ∉ addresses (front ++ back))
    (same : ∀ other, other ≠ addr → other ∉ addresses (front ++ back) →
      heap' other = heap other) : Frame base heap' (front ++ (addr, value) :: back) := by
  constructor
  · intro other present
    rw [addresses_append, addresses_cons, List.mem_append, List.mem_cons] at present
    rcases present with inFront | rfl | inBack
    · exact frame.unused other (by simp [inFront])
    · rw [← frame.same other fresh, unused]
    · exact frame.unused other (by simp [inBack])
  · intro other absent
    rw [addresses_append, addresses_cons, List.mem_append, List.mem_cons] at absent
    have outside : other ∉ addresses (front ++ back) := by
      rw [addresses_append, List.mem_append]
      tauto
    rw [same other (by tauto) outside, frame.same other outside]

theorem tail [DecidableEq Addr] {cell : Addr × Value} (frame : Frame base heap (cell :: cells)) :
    Frame base (Function.update heap cell.1 none) cells := by
  constructor
  · intro other present
    exact frame.unused other (List.mem_cons_of_mem _ present)
  · intro other absent
    by_cases freed : other = cell.1
    · rw [freed, Function.update_self, frame.unused cell.1 (List.mem_cons_self ..)]
    · rw [Function.update_of_ne freed, frame.same other]
      simp [freed, absent]

end Frame

end Linked
