import Mathlib.Data.List.GetD

/-!
# Byte strings in blocks

A byte string is cut into blocks of one width; what the last block lacks is
zero.  A transformation of blocks acts on the string block by block, and
transformations that undo each other do so on the padded string.
-/

namespace Blocks

variable {width : Nat}

/-- Blocks needed to hold the bytes. -/
def count
    (width : Nat)
    (bytes : List UInt8) :
    Nat :=
  (bytes.length + width - 1) / width

/-- One block of the bytes; behind their end it is zero. -/
def block
    (width : Nat)
    (bytes : List UInt8)
    (index : Nat) :
    Vector UInt8 width :=
  Vector.ofFn fun offset => bytes.getD (width * index + offset) 0

/-- The first blocks of a sequence, one after the other. -/
def join
    (blocks : Nat → Vector UInt8 width) :
    Nat → List UInt8
  | 0 => []
  | index + 1 => join blocks index ++ (blocks index).toList

/-- The bytes up to the end of their last block. -/
def padded
    (width : Nat)
    (bytes : List UInt8) :
    List UInt8 :=
  join (block width bytes) (count width bytes)

/-- Change every block of the bytes. -/
def mapBlocks
    (change : Vector UInt8 width → Vector UInt8 width)
    (bytes : List UInt8) :
    List UInt8 :=
  join (fun index => change (block width bytes index))
    (count width bytes)

@[simp] theorem length_join
    (blocks : Nat → Vector UInt8 width)
    (blockCount : Nat) :
    (join blocks blockCount).length = width * blockCount := by
  induction blockCount with
  | zero =>
      rfl
  | succ before inductionHypothesis =>
      simp [join, inductionHypothesis, Nat.mul_succ]

@[simp] theorem length_mapBlocks
    (change : Vector UInt8 width → Vector UInt8 width)
    (bytes : List UInt8) :
    (mapBlocks change bytes).length = width * count width bytes :=
  length_join _ _

/-- Every block is where its index says. -/
theorem block_join
    (blocks : Nat → Vector UInt8 width)
    {blockCount index : Nat}
    (inside : index < blockCount) :
    block width (join blocks blockCount) index = blocks index := by
  induction blockCount with
  | zero =>
      exact absurd inside (Nat.not_lt_zero _)
  | succ before inductionHypothesis =>
      apply Vector.ext
      intro offset inBlock
      rcases Nat.lt_or_eq_of_le (Nat.le_of_lt_succ inside) with
        earlier | isLast
      · have place : width * index + offset < width * before := by
          have step : width * index + width ≤ width * before := by
            rw [← Nat.mul_succ]
            exact Nat.mul_le_mul_left _ earlier
          omega
        have before' :=
          congrArg (fun found => found[offset])
            (inductionHypothesis earlier)
        simp only [block, Vector.getElem_ofFn, List.getD_eq_getElem?_getD]
          at before' ⊢
        rw [join, List.getElem?_append_left (by simpa using place)]
        exact before'
      · subst isLast
        simp only [block, join, Vector.getElem_ofFn,
          List.getD_eq_getElem?_getD]
        rw [List.getElem?_append_right (by simp)]
        simp [inBlock]

/-- As many blocks as joined are needed again. -/
theorem count_join
    (positive : 0 < width)
    (blocks : Nat → Vector UInt8 width)
    (blockCount : Nat) :
    count width (join blocks blockCount) = blockCount := by
  rw [count, length_join, Nat.add_sub_assoc positive,
    Nat.mul_add_div positive,
    Nat.div_eq_of_lt (Nat.sub_lt positive Nat.one_pos), Nat.add_zero]

/-- Sequences of blocks that agree join to the same bytes. -/
theorem join_congr
    {first second : Nat → Vector UInt8 width}
    {blockCount : Nat}
    (same : ∀ index, index < blockCount → first index = second index) :
    join first blockCount = join second blockCount := by
  induction blockCount with
  | zero =>
      rfl
  | succ before inductionHypothesis =>
      rw [join, join, same before (Nat.lt_succ_self before),
        inductionHypothesis fun index inside =>
          same index (Nat.lt_succ_of_lt inside)]

/-- Undoing a change of the blocks gives the padded bytes. -/
theorem mapBlocks_mapBlocks
    (positive : 0 < width)
    {change undo : Vector UInt8 width → Vector UInt8 width}
    (undoes : ∀ block, undo (change block) = block)
    (bytes : List UInt8) :
    mapBlocks undo (mapBlocks change bytes) = padded width bytes := by
  rw [mapBlocks, mapBlocks, count_join positive, padded]
  apply join_congr
  intro index inside
  rw [block_join _ inside, undoes]

/-- The bytes fit into the blocks counted for them. -/
theorem length_le_count
    (positive : 0 < width)
    (bytes : List UInt8) :
    bytes.length ≤ width * count width bytes := by
  have below := Nat.div_add_mod (bytes.length + width - 1) width
  have inside := Nat.mod_lt (bytes.length + width - 1) positive
  simp only [count]
  omega

/-- Padding keeps the bytes and adds zeros. -/
theorem getD_padded
    (positive : 0 < width)
    (bytes : List UInt8)
    (index : Nat) :
    (padded width bytes).getD index 0 = bytes.getD index 0 := by
  by_cases inside : index < width * count width bytes
  · have inBlock : index / width < count width bytes :=
      Nat.div_lt_of_lt_mul inside
    have offsetInside := Nat.mod_lt index positive
    have place := Nat.div_add_mod index width
    have sameBlock :=
      congrArg (fun found => found[index % width])
        (block_join (block width bytes) inBlock)
    simp only [block, Vector.getElem_ofFn, place] at sameBlock
    exact sameBlock
  · have short := length_le_count positive bytes
    have outside : (padded width bytes).length ≤ index := by
      simp only [padded, length_join]
      omega
    simp only [List.getD_eq_getElem?_getD]
    rw [List.getElem?_eq_none outside,
      List.getElem?_eq_none (by omega)]

/-- Padding puts zeros behind the bytes. -/
theorem padded_eq_append
    (positive : 0 < width)
    (bytes : List UInt8) :
    padded width bytes =
      bytes ++
        List.replicate (width * count width bytes - bytes.length) 0 := by
  have fits := length_le_count positive bytes
  have length :
      (padded width bytes).length = width * count width bytes :=
    length_join _ _
  apply List.ext_getElem
  · simp only [length, List.length_append, List.length_replicate]
    omega
  · intro index inPadded inAppended
    have same := getD_padded positive bytes index
    rw [List.getD_eq_getElem _ _ inPadded] at same
    rw [same]
    by_cases inside : index < bytes.length
    · rw [List.getD_eq_getElem _ _ inside,
        List.getElem_append_left inside]
    · have outside : bytes.length ≤ index := Nat.le_of_not_lt inside
      rw [List.getD_eq_default _ _ outside,
        List.getElem_append_right outside, List.getElem_replicate]

/-- What a change makes of the bytes depends on the padded bytes only. -/
theorem mapBlocks_congr
    (positive : 0 < width)
    (change : Vector UInt8 width → Vector UInt8 width)
    {first second : List UInt8}
    (same : padded width first = padded width second) :
    mapBlocks change first = mapBlocks change second := by
  have sameCount : count width first = count width second := by
    have counts := congrArg (count width) same
    simpa only [padded, count_join positive] using counts
  rw [mapBlocks, mapBlocks, sameCount]
  apply join_congr
  intro index _
  congr 1
  apply Vector.ext
  intro offset _
  have sameByte :=
    congrArg (fun bytes => bytes.getD (width * index + offset) 0) same
  simpa only [getD_padded positive, block, Vector.getElem_ofFn]
    using sameByte

end Blocks
