import MeshCadet.Search

/-!
# Lists of bounded length

The live prefix of a fixed-size array with a length counter.  A bounded list
carries its bound, so its length never has to be checked again; adding to a
full one is an explicit failure.
-/

/-- A list of at most `capacity` elements. -/
structure BoundedList (α : Type) (capacity : Nat) where
  elements : List α
  fits : elements.length ≤ capacity
deriving Repr, DecidableEq

namespace BoundedList

variable {α : Type} {capacity : Nat}

/-- No elements. -/
def empty : BoundedList α capacity :=
  { elements := []
    fits := Nat.zero_le capacity }

/-- A list taken as it is, unless it is too long. -/
def ofList?
    (elements : List α) :
    Option (BoundedList α capacity) :=
  if fits : elements.length ≤ capacity then
    some { elements := elements, fits := fits }
  else
    none

/-- One more element at the end, unless the list is full. -/
def push?
    (list : BoundedList α capacity)
    (element : α) :
    Option (BoundedList α capacity) :=
  ofList? (list.elements ++ [element])

/-- Change every element. -/
def map
    (list : BoundedList α capacity)
    (change : α → α) :
    BoundedList α capacity :=
  { elements := list.elements.map change
    fits := by
      simpa using list.fits }

/-- Change the first element satisfying the test. -/
def updateFirst
    (list : BoundedList α capacity)
    (test : α → Bool)
    (change : α → α) :
    BoundedList α capacity :=
  { elements := Search.updateFirst test change list.elements
    fits := by
      simpa using list.fits }

/-- Remove the first element satisfying the test, closing the gap. -/
def removeFirst
    (list : BoundedList α capacity)
    (test : α → Bool) :
    BoundedList α capacity :=
  { elements := list.elements.eraseP test
    fits := Nat.le_trans List.eraseP_sublist.length_le list.fits }

/-- All but the last element: the counter steps back, down to zero. -/
def dropLast
    (list : BoundedList α capacity) :
    BoundedList α capacity :=
  { elements := list.elements.dropLast
    fits := Nat.le_trans list.elements.dropLast_sublist.length_le list.fits }

@[ext] theorem ext
    {first second : BoundedList α capacity}
    (same : first.elements = second.elements) :
    first = second := by
  cases first
  cases second
  cases same
  rfl

theorem ofList?_elements
    (list : BoundedList α capacity) :
    ofList? list.elements = some list :=
  dif_pos list.fits

/-- A successful addition appends the element. -/
theorem push?_eq_some_iff
    {list pushed : BoundedList α capacity}
    {element : α} :
    list.push? element = some pushed ↔
      pushed.elements = list.elements ++ [element] := by
  constructor
  · intro accepted
    simp only [push?, ofList?] at accepted
    split at accepted
    · cases accepted
      rfl
    · cases accepted
  · intro appended
    rw [push?, ← appended]
    exact ofList?_elements pushed

/-- Dropping what was appended gives the list back. -/
theorem dropLast_of_push?
    {list pushed : BoundedList α capacity}
    {element : α}
    (accepted : list.push? element = some pushed) :
    pushed.dropLast = list := by
  ext1
  simp [dropLast, push?_eq_some_iff.mp accepted]

/-- An addition fails exactly on a full list. -/
theorem push?_eq_none_iff
    {list : BoundedList α capacity}
    {element : α} :
    list.push? element = none ↔
      list.elements.length = capacity := by
  have fits := list.fits
  simp [push?, ofList?]
  omega

end BoundedList
