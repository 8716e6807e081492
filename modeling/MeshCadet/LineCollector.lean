import MeshCadet.BoundedList

/-!
# Lines collected in a bounded buffer

Items arrive one by one, each with a tag.  Some items end a line and some are
skipped; the others are added to a buffer, which starts again, without the item, when
it is full.  A complete line is handled with the tag of the item that ended it.
However the items are divided into batches, what is handled are the lines between
the ends, each without its skipped items and without what made the buffer start
again.
-/

namespace LineCollector

variable {α Tag State : Type} {capacity : Nat}

/-- Add an item, or start again with nothing when there is no room. -/
def pushOrRestart
    (list : BoundedList α capacity)
    (item : α) :
    BoundedList α capacity :=
  (list.push? item).getD .empty

/-- Take an item. -/
def collect
    (ends skips : α → Bool)
    (handle : State → Tag → List α → State)
    (current : State × BoundedList α capacity)
    (item : Tag × α) :
    State × BoundedList α capacity :=
  if ends item.2 then
    (handle current.1 item.1 current.2.elements, .empty)
  else if skips item.2 then
    current
  else
    (current.1, pushOrRestart current.2 item.2)

/-- What a buffer has of the items of a line. -/
def kept
    (capacity : Nat)
    (items : List α) :
    List α :=
  items.drop ((capacity + 1) * (items.length / (capacity + 1)))

/-- The lines that are ended, the first of them after some items. -/
def lines
    (ends skips : α → Bool)
    (capacity : Nat) :
    List α → List (Tag × α) → List (Tag × List α)
  | _, [] => []
  | pending, item :: rest =>
      if ends item.2 then
        (item.1, kept capacity pending) ::
          lines ends skips capacity [] rest
      else if skips item.2 then
        lines ends skips capacity pending rest
      else
        lines ends skips capacity (pending ++ [item.2]) rest

/-- The items of the line that is not ended. -/
def unfinished
    (ends skips : α → Bool) :
    List α → List (Tag × α) → List α
  | pending, [] => pending
  | pending, item :: rest =>
      if ends item.2 then
        unfinished ends skips [] rest
      else if skips item.2 then
        unfinished ends skips pending rest
      else
        unfinished ends skips (pending ++ [item.2]) rest

section Rules

variable
    {ends skips : α → Bool}
    {handle : State → Tag → List α → State}

theorem pushOrRestart_elements
    (list : BoundedList α capacity)
    (item : α) :
    (pushOrRestart list item).elements =
      if list.elements.length = capacity then []
      else list.elements ++ [item] := by
  unfold pushOrRestart
  split
  · next full =>
      rw [BoundedList.push?_eq_none_iff.mpr full]
      rfl
  · next room =>
      cases pushed : list.push? item with
      | none => exact absurd (BoundedList.push?_eq_none_iff.mp pushed) room
      | some larger => exact BoundedList.push?_eq_some_iff.mp pushed

theorem length_kept
    (items : List α) :
    (kept capacity items).length = items.length % (capacity + 1) := by
  rw [kept, List.length_drop, ← Nat.mod_eq_sub_mul_div]

/-- One more item of a line. -/
theorem kept_concat
    (items : List α)
    (item : α) :
    kept capacity (items ++ [item]) =
      if (kept capacity items).length = capacity then []
      else kept capacity items ++ [item] := by
  rw [length_kept, kept, kept, List.length_append, List.length_singleton]
  have parts := Nat.div_add_mod items.length (capacity + 1)
  have small : items.length % (capacity + 1) < capacity + 1 :=
    Nat.mod_lt _ (Nat.succ_pos capacity)
  split
  · next full =>
      have next :
          items.length + 1 =
            (capacity + 1) * (items.length / (capacity + 1) + 1) := by
        rw [Nat.mul_add, Nat.mul_one]
        omega
      refine List.drop_eq_nil_of_le (Nat.le_of_eq ?_)
      rw [next, Nat.mul_div_cancel_left _ (Nat.succ_pos capacity),
        List.length_append, List.length_singleton, next]
  · next room =>
      have same :
          (items.length + 1) / (capacity + 1) =
            items.length / (capacity + 1) := by
        refine Nat.div_eq_of_lt_le ?_ ?_
        · rw [Nat.mul_comm]
          omega
        · rw [Nat.add_mul, Nat.one_mul, Nat.mul_comm]
          omega
      rw [same, List.drop_append_of_le_length]
      omega

/-- A buffer with what is kept of a line keeps what is kept with one more item. -/
theorem pushOrRestart_kept
    {list : BoundedList α capacity}
    {items : List α}
    (isKept : list.elements = kept capacity items)
    (item : α) :
    (pushOrRestart list item).elements =
      kept capacity (items ++ [item]) := by
  rw [pushOrRestart_elements, isKept, kept_concat]

/-- What is handled are the lines, and the buffer has what is kept of the last. -/
theorem foldl_collect
    {items : List (Tag × α)}
    {pending : List α}
    {state : State}
    {list : BoundedList α capacity}
    (isKept : list.elements = kept capacity pending) :
    (items.foldl (collect ends skips handle) (state, list)).1 =
        (lines ends skips capacity pending items).foldl
          (fun state line => handle state line.1 line.2) state ∧
      (items.foldl (collect ends skips handle) (state, list)).2.elements =
        kept capacity (unfinished ends skips pending items) := by
  induction items generalizing pending state list with
  | nil =>
      exact ⟨rfl, isKept⟩
  | cons item rest inductionHypothesis =>
      simp only [List.foldl_cons, lines, unfinished, collect]
      split
      · have empty :
            (BoundedList.empty : BoundedList α capacity).elements =
              kept capacity [] :=
          List.drop_nil.symm
        rw [List.foldl_cons, ← isKept]
        exact inductionHypothesis empty
      · split
        · exact inductionHypothesis isKept
        · exact inductionHypothesis (pushOrRestart_kept isKept item.2)

end Rules

end LineCollector
