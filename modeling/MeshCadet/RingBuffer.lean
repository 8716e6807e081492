import Mathlib.Data.List.Rotate

/-!
# Fixed-size rings

`Ring` is a first-in first-out queue over a fixed array: pushing onto a full
ring drops the oldest element.  `SeenRing` remembers the most recent keys it was
given.  Both are described by plain lists: the queue by its contents, the memory
by the list of all keys ever inserted.
-/

namespace RingBuffer

variable {α : Type*} {capacity : Nat}

/-- Offsets that differ by less than a full turn are different positions. -/
theorem mod_ne_of_lt
    {first second : Nat}
    (before : first < second)
    (near : second < first + capacity) :
    first % capacity ≠ second % capacity := by
  intro same
  have divides : capacity ∣ second - first :=
    Nat.dvd_of_mod_eq_zero (Nat.sub_mod_eq_zero_of_mod_eq same.symm)
  have tooSmall : second - first < capacity := by omega
  have isZero := Nat.eq_zero_of_dvd_of_lt divides tooSmall
  omega

/-- Reading back after storing into one slot. -/
theorem get_set
    (slots : Vector α capacity)
    {stored : Nat}
    (inside : stored < capacity)
    (element : α)
    (read : Fin capacity) :
    (slots.set stored element inside).get read =
      if stored = read.val then element else slots.get read :=
  Vector.getElem_set inside read.isLt

/-- A queue over fixed slots, from its oldest element on. -/
structure Ring (α : Type*) (capacity : Nat) where
  slots : Vector α capacity
  head : Nat
  count : Nat
  headInside : head < capacity
  fits : count ≤ capacity

namespace Ring

/-- The slot some places behind the oldest element. -/
def position
    (ring : Ring α capacity)
    (offset : Nat) :
    Fin capacity :=
  ⟨(ring.head + offset) % capacity,
    Nat.mod_lt _ (Nat.zero_lt_of_lt ring.headInside)⟩

/-- The slot of the oldest element. -/
def oldest
    (ring : Ring α capacity) :
    Fin capacity :=
  ⟨ring.head, ring.headInside⟩

/-- The queued elements, oldest first. -/
def contents
    (ring : Ring α capacity) :
    List α :=
  (List.range ring.count).map fun offset =>
    ring.slots.get (ring.position offset)

/-- An empty ring over initial slots that are never read. -/
def empty
    (initial : α)
    (positive : 0 < capacity) :
    Ring α capacity :=
  { slots := Vector.replicate capacity initial
    head := 0
    count := 0
    headInside := positive
    fits := Nat.zero_le _ }

/-- Add an element; on a full ring the oldest one is dropped and returned. -/
def push
    (ring : Ring α capacity)
    (element : α) :
    Ring α capacity × Option α :=
  if full : ring.count = capacity then
    ({ ring with
        slots := ring.slots.set ring.head element ring.headInside
        head := (ring.head + 1) % capacity
        headInside :=
          Nat.mod_lt _ (Nat.zero_lt_of_lt ring.headInside) },
      some (ring.slots.get ring.oldest))
  else
    ({ ring with
        slots :=
          ring.slots.set (ring.position ring.count) element
            (ring.position ring.count).isLt
        count := ring.count + 1
        fits := Nat.lt_of_le_of_ne ring.fits full },
      none)

/-- The oldest element. -/
def peek
    (ring : Ring α capacity) :
    Option α :=
  if ring.count = 0 then
    none
  else
    some (ring.slots.get ring.oldest)

/-- Remove the oldest element, if there is one. -/
def popFront
    (ring : Ring α capacity) :
    Ring α capacity :=
  if ring.count = 0 then
    ring
  else
    { ring with
      head := (ring.head + 1) % capacity
      count := ring.count - 1
      headInside :=
        Nat.mod_lt _ (Nat.zero_lt_of_lt ring.headInside)
      fits := Nat.le_trans (Nat.sub_le _ _) ring.fits }

/-- Rings with the same slots, head and count are the same ring. -/
theorem eq_of_parts
    {first second : Ring α capacity}
    (slots : first.slots = second.slots)
    (head : first.head = second.head)
    (count : first.count = second.count) :
    first = second := by
  cases first
  cases second
  cases slots
  cases head
  cases count
  rfl

@[simp] theorem length_contents
    (ring : Ring α capacity) :
    ring.contents.length = ring.count := by
  simp [contents]

@[simp] theorem contents_empty
    (initial : α)
    (positive : 0 < capacity) :
    (empty initial positive).contents = [] :=
  rfl

theorem length_contents_le
    (ring : Ring α capacity) :
    ring.contents.length ≤ capacity := by
  simpa using ring.fits

theorem getElem_contents
    (ring : Ring α capacity)
    {offset : Nat}
    (inside : offset < ring.contents.length) :
    ring.contents[offset] = ring.slots.get (ring.position offset) := by
  simp [contents]

theorem position_zero
    (ring : Ring α capacity) :
    ring.position 0 = ring.oldest := by
  apply Fin.ext
  simp [position, oldest, Nat.mod_eq_of_lt ring.headInside]

/-- Distinct offsets within the capacity are distinct slots. -/
theorem position_ne
    (ring : Ring α capacity)
    {first second : Nat}
    (before : first < second)
    (inside : second < capacity) :
    (ring.position first).val ≠ (ring.position second).val :=
  mod_ne_of_lt (by omega) (by omega)

/-- Moving the oldest position on shifts every offset by one. -/
theorem position_advanced
    {first second : Ring α capacity}
    (advanced : second.head = (first.head + 1) % capacity)
    (offset : Nat) :
    second.position offset = first.position (offset + 1) := by
  apply Fin.ext
  simp only [position, advanced, Nat.mod_add_mod]
  congr 1
  omega

/-- With room left, a push adds the element and drops nothing. -/
theorem push_room
    {ring : Ring α capacity}
    (room : ring.contents.length < capacity)
    (element : α) :
    (ring.push element).1.contents = ring.contents ++ [element] ∧
      (ring.push element).2 = none := by
  have inside : ring.count < capacity := by
    simpa using room
  have notFull : ring.count ≠ capacity := Nat.ne_of_lt inside
  constructor
  · apply List.ext_getElem
    · simp [push, notFull]
    · intro offset inNew inAppended
      rw [getElem_contents]
      have samePosition :
          (ring.push element).1.position offset = ring.position offset := by
        simp [push, notFull, position]
      have slots :
          (ring.push element).1.slots =
            ring.slots.set (ring.position ring.count) element
              (ring.position ring.count).isLt := by
        simp [push, notFull]
      have reached : offset ≤ ring.count := by
        simp at inAppended
        omega
      rw [samePosition, slots]
      rcases Nat.lt_or_eq_of_le reached with before | atEnd
      · have untouched := ring.position_ne before inside
        rw [List.getElem_append_left (by simpa using before),
          getElem_contents, get_set, if_neg (Ne.symm untouched)]
      · subst atEnd
        rw [List.getElem_append_right (by simp)]
        simp [get_set]
  · simp [push, notFull]

/-- On a full ring, a push drops the oldest element. -/
theorem push_full
    {ring : Ring α capacity}
    (full : ring.contents.length = capacity)
    (element : α) :
    (ring.push element).1.contents = ring.contents.tail ++ [element] ∧
      (ring.push element).2 = ring.contents.head? := by
  have isFull : ring.count = capacity := by
    simpa using full
  have positive : 0 < capacity := Nat.zero_lt_of_lt ring.headInside
  constructor
  · apply List.ext_getElem
    · simp [push, isFull]
      omega
    · intro offset inNew inAppended
      have advanced :
          (ring.push element).1.position offset =
            ring.position (offset + 1) := by
        apply position_advanced
        simp [push, isFull]
      have slots :
          (ring.push element).1.slots =
            ring.slots.set ring.head element ring.headInside := by
        simp [push, isFull]
      rw [getElem_contents, advanced, slots]
      have offsetInside : offset < capacity := by
        simp [push, isFull] at inNew
        exact inNew
      rcases Nat.lt_or_eq_of_le (show offset + 1 ≤ capacity from offsetInside)
        with before | atEnd
      · have untouched :
            ring.head ≠ (ring.position (offset + 1)).val := by
          have apart :=
            ring.position_ne (Nat.zero_lt_succ offset) before
          simpa [position_zero, oldest] using apart
        rw [List.getElem_append_left (by simp; omega),
          List.getElem_tail, getElem_contents, get_set,
          if_neg untouched]
      · have wrapped : (ring.position (offset + 1)).val = ring.head := by
          simp [position, atEnd, Nat.mod_eq_of_lt ring.headInside]
        rw [List.getElem_append_right (by simp; omega)]
        simp [get_set, wrapped]
  · have inside : 0 < ring.contents.length := by omega
    rw [List.head?_eq_getElem?, List.getElem?_eq_getElem inside,
      getElem_contents, position_zero]
    simp [push, isFull]

/-- A full ring holds its slots in another order. -/
theorem contents_perm
    {ring : Ring α capacity}
    (full : ring.count = capacity) :
    ring.contents.Perm ring.slots.toList := by
  -- The ring starts over at its head, so a rotation puts it in order.
  have inOrder : ring.contents = ring.slots.toList.rotate ring.head := by
    apply List.ext_getElem
    · simp [full]
    · intro offset inContents inRotated
      rw [getElem_contents, List.getElem_rotate]
      simp [position, Vector.get, Nat.add_comm]
  rw [inOrder]
  exact List.rotate_perm _ _

/-- The oldest element is the first of the contents. -/
theorem peek_eq
    (ring : Ring α capacity) :
    ring.peek = ring.contents.head? := by
  by_cases isEmpty : ring.count = 0
  · have noContents : ring.contents = [] :=
      List.eq_nil_of_length_eq_zero (by simpa using isEmpty)
    simp [peek, isEmpty, noContents]
  · have inside : 0 < ring.contents.length := by
      simp
      omega
    rw [List.head?_eq_getElem?, List.getElem?_eq_getElem inside,
      getElem_contents, position_zero]
    simp [peek, isEmpty]

/-- Removing the oldest element leaves the others. -/
theorem contents_popFront
    (ring : Ring α capacity) :
    ring.popFront.contents = ring.contents.tail := by
  by_cases isEmpty : ring.count = 0
  · have noContents : ring.contents = [] :=
      List.eq_nil_of_length_eq_zero (by simpa using isEmpty)
    simp [popFront, isEmpty, noContents]
  · apply List.ext_getElem
    · simp [popFront, isEmpty]
    · intro offset inNew inTail
      have advanced :
          ring.popFront.position offset = ring.position (offset + 1) := by
        apply position_advanced
        simp [popFront, isEmpty]
      have slots : ring.popFront.slots = ring.slots := by
        simp [popFront, isEmpty]
      rw [getElem_contents, advanced, slots, List.getElem_tail,
        getElem_contents]

end Ring

/-- A memory of the most recently inserted keys. -/
structure SeenRing (α : Type*) (capacity : Nat) where
  slots : Vector α capacity
  head : Nat
  count : Nat
  headInside : head < capacity
  fits : count ≤ capacity

namespace SeenRing

/-- A memory that has seen nothing. -/
def empty
    (initial : α)
    (positive : 0 < capacity) :
    SeenRing α capacity :=
  { slots := Vector.replicate capacity initial
    head := 0
    count := 0
    headInside := positive
    fits := Nat.zero_le _ }

/-- The key is among the ones still remembered. -/
def contains
    [BEq α]
    (ring : SeenRing α capacity)
    (key : α) :
    Bool :=
  (ring.slots.toList.take ring.count).contains key

/-- Remember a key, forgetting the oldest one when the ring is full. -/
def insert
    (ring : SeenRing α capacity)
    (key : α) :
    SeenRing α capacity :=
  { slots := ring.slots.set ring.head key ring.headInside
    head := (ring.head + 1) % capacity
    count :=
      if ring.count < capacity then ring.count + 1 else ring.count
    headInside := Nat.mod_lt _ (Nat.zero_lt_of_lt ring.headInside)
    fits := by
      have := ring.fits
      split <;> omega }

/-- The ring is what inserting these keys, oldest first, leaves. -/
structure Remembers
    (ring : SeenRing α capacity)
    (keys : List α) :
    Prop where
  head : ring.head = keys.length % capacity
  count : ring.count = min keys.length capacity
  recent :
    ∀ index (inside : index < keys.length),
      keys.length ≤ index + capacity →
        ring.slots.toList[index % capacity]? = some keys[index]
  inserted :
    ∀ key ∈ ring.slots.toList.take ring.count, key ∈ keys

theorem remembers_empty
    (initial : α)
    (positive : 0 < capacity) :
    (empty initial positive).Remembers [] :=
  { head := by simp [empty]
    count := by simp [empty]
    recent := fun _ inside => absurd inside (Nat.not_lt_zero _)
    inserted := by simp [empty] }

/-- Inserting adds the key behind the ones inserted before. -/
theorem Remembers.insert
    {ring : SeenRing α capacity}
    {keys : List α}
    (remembers : ring.Remembers keys)
    (key : α) :
    (ring.insert key).Remembers (keys ++ [key]) := by
  have headInside := ring.headInside
  have count := remembers.count
  refine
    { head := ?_
      count := ?_
      recent := ?_
      inserted := ?_ }
  · simp [SeenRing.insert, remembers.head]
  · simp only [SeenRing.insert, List.length_append, List.length_singleton]
    split <;> omega
  · intro index inside near
    simp only [List.length_append, List.length_singleton] at inside near
    rcases Nat.lt_or_eq_of_le (Nat.le_of_lt_succ inside) with
      before | isNew
    · have untouched : ring.head ≠ index % capacity := by
        rw [remembers.head]
        exact (mod_ne_of_lt before (by omega)).symm
      have old := remembers.recent index before (by omega)
      simpa [SeenRing.insert, Vector.toList_set, untouched,
        List.getElem_append_left before] using old
    · subst isNew
      simp [SeenRing.insert, Vector.toList_set, ← remembers.head,
        headInside]
  · intro stored member
    rw [List.mem_append, List.mem_singleton]
    obtain ⟨index, inTaken, rfl⟩ := List.mem_iff_getElem.mp member
    simp only [SeenRing.insert, List.length_take,
      Vector.length_toList] at inTaken
    rw [List.getElem_take]
    simp only [SeenRing.insert, Vector.toList_set]
    rw [List.getElem_set]
    split
    · exact .inr rfl
    · next untouched =>
      left
      have wasTaken : index < ring.count := by
        have head := remembers.head
        by_cases room : ring.count < capacity
        · have notFull : keys.length < capacity := by omega
          rw [Nat.mod_eq_of_lt notFull] at head
          simp only [room, ↓reduceIte] at inTaken
          omega
        · have fits := ring.fits
          simp only [room, ↓reduceIte] at inTaken
          omega
      have fits := ring.fits
      apply remembers.inserted
      rw [List.mem_take_iff_getElem]
      exact ⟨index, by simp; omega, rfl⟩

/-- Inserting keys one after the other. -/
theorem Remembers.insertAll
    {ring : SeenRing α capacity}
    {keys : List α}
    (remembers : ring.Remembers keys)
    (more : List α) :
    (more.foldl SeenRing.insert ring).Remembers (keys ++ more) := by
  induction more generalizing ring keys with
  | nil =>
      simpa using remembers
  | cons key rest inductionHypothesis =>
      simpa using inductionHypothesis (remembers.insert key)

/-- A key inserted within the last full turn is still remembered. -/
theorem Remembers.contains
    [BEq α]
    [LawfulBEq α]
    {ring : SeenRing α capacity}
    {keys later : List α}
    {key : α}
    (remembers : ring.Remembers (keys ++ key :: later))
    (few : later.length < capacity) :
    ring.contains key = true := by
  have length : (keys ++ key :: later).length =
      keys.length + later.length + 1 := by
    simp
    omega
  have stored :=
    remembers.recent keys.length (by omega) (by omega)
  have count := remembers.count
  have taken : keys.length % capacity < ring.count := by
    have inside : keys.length % capacity < capacity :=
      Nat.mod_lt _ (by omega)
    have below := Nat.mod_le keys.length capacity
    omega
  rw [SeenRing.contains, List.contains_iff_mem, List.mem_iff_getElem?]
  refine ⟨keys.length % capacity, ?_⟩
  rw [List.getElem?_take_of_lt taken, stored]
  simp

/-- The remembered keys are the most recent ones, in some order. -/
theorem Remembers.perm
    {ring : SeenRing α capacity}
    {keys : List α}
    (remembers : ring.Remembers keys) :
    (ring.slots.toList.take ring.count).Perm
      (keys.drop (keys.length - capacity)) := by
  have count := remembers.count
  rcases Nat.lt_or_ge keys.length capacity with short | long
  · have same : ring.slots.toList.take ring.count = keys := by
      apply List.ext_getElem?
      intro index
      by_cases inside : index < keys.length
      · have taken : index < ring.count := by omega
        have stored := remembers.recent index inside (by omega)
        rw [Nat.mod_eq_of_lt (by omega)] at stored
        rw [List.getElem?_take_of_lt taken, stored,
          List.getElem?_eq_getElem inside]
      · rw [List.getElem?_eq_none (by simp; omega),
          List.getElem?_eq_none (by omega)]
    rw [same, Nat.sub_eq_zero_of_le short.le, List.drop_zero]
  · -- The ring starts over at its head, so a rotation puts it in order.
    have whole :
        ring.slots.toList.take ring.count = ring.slots.toList :=
      List.take_of_length_le (by simp; omega)
    have inOrder :
        ring.slots.toList.rotate ring.head =
          keys.drop (keys.length - capacity) := by
      apply List.ext_getElem
      · simp
        omega
      · intro index inRotated inDropped
        have inside : index < capacity := by
          simpa using inRotated
        have stored :=
          remembers.recent (keys.length - capacity + index)
            (by omega) (by omega)
        have samePlace :
            (keys.length - capacity + index) % capacity =
              (index + ring.head) % capacity := by
          rw [remembers.head, Nat.add_mod_mod,
            ← Nat.add_mod_right (keys.length - capacity + index)]
          congr 1
          omega
        rw [List.getElem_rotate, List.getElem_drop]
        rw [samePlace, List.getElem?_eq_some_iff] at stored
        obtain ⟨_, isStored⟩ := stored
        simpa using isStored
    rw [whole, ← inOrder]
    exact (List.rotate_perm _ _).symm

/-- Only inserted keys are remembered. -/
theorem Remembers.mem_of_contains
    [BEq α]
    [LawfulBEq α]
    {ring : SeenRing α capacity}
    {keys : List α}
    {key : α}
    (remembers : ring.Remembers keys)
    (contained : ring.contains key = true) :
    key ∈ keys :=
  remembers.inserted key (List.contains_iff_mem.mp contained)

/-- A key is contained when it is one of the most recent ones. -/
theorem Remembers.contains_iff
    [BEq α]
    [LawfulBEq α]
    {ring : SeenRing α capacity}
    {keys : List α}
    {key : α}
    (remembers : ring.Remembers keys) :
    ring.contains key = true ↔ key ∈ keys.drop (keys.length - capacity) := by
  rw [SeenRing.contains, List.contains_iff_mem]
  exact remembers.perm.mem_iff

/-- Every slot that was reached holds one of the most recent keys. -/
theorem exists_recent_index
    {slot length : Nat}
    (inside : slot < capacity)
    (reached : slot < length) :
    ∃ index, index < length ∧ length ≤ index + capacity ∧
      index % capacity = slot := by
  -- The last index that falls on the slot.
  have whole := Nat.mod_add_div (length - 1 - slot) capacity
  have near : (length - 1 - slot) % capacity < capacity :=
    Nat.mod_lt _ (by omega)
  refine ⟨slot + capacity * ((length - 1 - slot) / capacity),
    by omega, by omega, ?_⟩
  rw [Nat.add_mul_mod_self_left, Nat.mod_eq_of_lt inside]

/-- What a slot in use holds, and when it was inserted. -/
theorem Remembers.slot
    {ring : SeenRing α capacity}
    {keys : List α}
    {slot : Nat}
    (remembers : ring.Remembers keys)
    (inUse : slot < ring.count) :
    ∃ index key, keys[index]? = some key ∧
      keys.length ≤ index + capacity ∧ index % capacity = slot ∧
        ring.slots.toList[slot]? = some key := by
  have count := remembers.count
  obtain ⟨index, before, near, isSlot⟩ :=
    @exists_recent_index capacity slot keys.length (by omega) (by omega)
  refine ⟨index, keys[index], List.getElem?_eq_getElem before, near,
    isSlot, ?_⟩
  rw [← isSlot]
  exact remembers.recent index before near

end SeenRing

end RingBuffer
