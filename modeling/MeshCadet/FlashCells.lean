import Mathlib.Data.List.Basic

/-!
# Byte cells with interrupted writes

A memory maps addresses to bytes; `0xFF` is the erased byte.  Writing combines
the old byte with the new one: memory overwrites, NOR flash can only clear bits.
Both leave exactly the written byte on an erased cell.  A write that is
interrupted has stored a prefix of its bytes.
-/

namespace FlashCells

/-- The byte at every address. -/
abbrev Cells : Type :=
  Nat → UInt8

/-- How a byte written over another one ends up. -/
structure Medium where
  write : UInt8 → UInt8 → UInt8
  write_erased : ∀ value, write 0xFF value = value

/-- Memory: the new byte replaces the old one. -/
def Medium.ram : Medium :=
  { write := fun _ value => value
    write_erased := fun _ => rfl }

/-- NOR flash: programming only clears bits. -/
def Medium.nor : Medium :=
  { write := fun old value => old &&& value
    write_erased := fun _ => UInt8.neg_one_and }

/-- Cells that have never been written. -/
def erased : Cells :=
  fun _ => 0xFF

/-- The bytes stored from an offset on. -/
def read
    (cells : Cells)
    (offset length : Nat) :
    Vector UInt8 length :=
  Vector.ofFn fun index => cells (offset + index)

/-- Write bytes from an offset on. -/
def write
    (medium : Medium)
    (cells : Cells)
    (offset : Nat)
    (bytes : List UInt8) :
    Cells :=
  fun address =>
    if offset ≤ address then
      match bytes[address - offset]? with
      | some value => medium.write (cells address) value
      | none => cells address
    else
      cells address

/-- Erase the first bytes. -/
def erase
    (cells : Cells)
    (length : Nat) :
    Cells :=
  fun address => if address < length then 0xFF else cells address

/-- A field of erased bytes. -/
def blank
    (length : Nat) :
    Vector UInt8 length :=
  Vector.replicate length 0xFF

/-- A field of which only the first bytes were written. -/
def torn
    {length : Nat}
    (field : Vector UInt8 length)
    (written : Nat) :
    Vector UInt8 length :=
  Vector.ofFn fun index =>
    if index.val < written then field[index] else 0xFF

/-- A field written to its end is complete. -/
theorem torn_complete
    {length written : Nat}
    (field : Vector UInt8 length)
    (complete : length ≤ written) :
    torn field written = field := by
  apply Vector.ext
  intro index inside
  have reached : index < written := by omega
  simp [torn, reached]

/-- A field of which nothing was written is blank. -/
theorem torn_zero
    {length : Nat}
    (field : Vector UInt8 length) :
    torn field 0 = blank length := by
  apply Vector.ext
  intro index inside
  simp [torn, blank]

@[simp] theorem read_erased
    (offset length : Nat) :
    read erased offset length = blank length := by
  apply Vector.ext
  intro index inside
  simp [read, erased, blank]

/-- A write leaves every byte outside its range alone. -/
theorem read_write_apart
    (medium : Medium)
    (cells : Cells)
    (bytes : List UInt8)
    {offset length start : Nat}
    (apart :
      offset + length ≤ start ∨ start + bytes.length ≤ offset) :
    read (write medium cells start bytes) offset length =
      read cells offset length := by
  apply Vector.ext
  intro index inside
  have outside :
      offset + index < start ∨
        bytes.length ≤ offset + index - start := by
    omega
  rcases outside with before | after
  · have notReached : ¬ start ≤ offset + index := by omega
    simp [read, write, notReached]
  · simp [read, write, List.getElem?_eq_none after]

/-- On blank cells an interrupted write leaves the torn field. -/
theorem read_write_blank
    (medium : Medium)
    {cells : Cells}
    {offset length : Nat}
    (isBlank : read cells offset length = blank length)
    (field : Vector UInt8 length)
    (written : Nat) :
    read (write medium cells offset (field.toList.take written))
        offset length =
      torn field written := by
  apply Vector.ext
  intro index inside
  have wasErased : cells (offset + index) = 0xFF := by
    have same := congrArg (fun bytes => bytes[index]) isBlank
    simpa [read, blank] using same
  by_cases reached : index < written
  · simp [read, write, torn, reached, inside, wasErased,
      medium.write_erased]
  · simp [read, write, torn, reached, wasErased,
      List.getElem?_take]

/-- In memory, writing a torn field again leaves the longer prefix of it. -/
theorem read_write_torn
    {cells : Cells}
    {offset length before : Nat}
    {field : Vector UInt8 length}
    (isTorn : read cells offset length = torn field before)
    (written : Nat) :
    read
        (write Medium.ram cells offset (field.toList.take written))
        offset length =
      torn field (max before written) := by
  apply Vector.ext
  intro index inside
  have old :
      cells (offset + index) =
        if index < before then field[index] else 0xFF := by
    have same := congrArg (fun bytes => bytes[index]) isTorn
    simpa [read, torn] using same
  have longer :
      (torn field (max before written))[index] =
        if index < max before written then field[index] else 0xFF := by
    simp [torn]
  rw [longer]
  by_cases reached : index < written
  · rw [if_pos (Nat.lt_of_lt_of_le reached (Nat.le_max_right _ _))]
    simp [read, write, reached, inside, Medium.ram]
  · have unreached : (field.toList.take written)[index]? = none := by
      rw [List.getElem?_eq_none_iff, List.length_take]
      omega
    have sameReach : index < max before written ↔ index < before := by
      omega
    simp [read, write, unreached, old, sameReach]

/-- Erasing blanks every field inside its range. -/
theorem read_erase_inside
    (cells : Cells)
    {offset length erasedLength : Nat}
    (inside : offset + length ≤ erasedLength) :
    read (erase cells erasedLength) offset length = blank length := by
  apply Vector.ext
  intro index bound
  have reached : offset + index < erasedLength := by omega
  simp [read, erase, blank, reached]

/-- Once its first byte is erased, a field starts with the erased byte. -/
theorem erase_first
    (cells : Cells)
    {erasedLength : Nat}
    (started : 0 < erasedLength) :
    erase cells erasedLength 0 = 0xFF := by
  simp [erase, started]

end FlashCells
