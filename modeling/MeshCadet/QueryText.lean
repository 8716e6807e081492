import Mathlib.Data.List.Infix

/-!
# Texts of keys with values, and escaped bytes

A text may list keys with their values, with one mark between a key and its value
and another between the pairs.  Values that could hold a mark are escaped: a byte
that may not pass is written as a sign and two digits.
-/

namespace QueryText

/-! ## Pairs -/

section Pairs

variable {α : Type} [DecidableEq α]

/-- What stands before the first mark, and what behind it. -/
def splitOnce
    (mark : α) :
    List α → Option (List α × List α)
  | [] => none
  | unit :: rest =>
      if unit = mark then
        some ([], rest)
      else
        (splitOnce mark rest).map fun parts => (unit :: parts.1, parts.2)

/-- A key without the mark is what stands before it. -/
theorem splitOnce_append
    {mark : α}
    {key : List α}
    (noMark : mark ∉ key)
    (value : List α) :
    splitOnce mark (key ++ mark :: value) = some (key, value) := by
  induction key with
  | nil =>
      exact if_pos rfl
  | cons unit key inductionHypothesis =>
      rw [List.mem_cons, not_or] at noMark
      rw [List.cons_append, splitOnce, if_neg (Ne.symm noMark.1),
        inductionHypothesis noMark.2]
      rfl

/-- A key with its value. -/
def pairText
    (keyMark : α)
    (pair : List α × List α) :
    List α :=
  pair.1 ++ keyMark :: pair.2

/-- Keys with their values. -/
def pairsText
    (pairMark keyMark : α)
    (pairs : List (List α × List α)) :
    List α :=
  [pairMark].intercalate (pairs.map (pairText keyMark))

/-- The marks are not where they would be mistaken. -/
structure Unmarked
    (pairMark keyMark : α)
    (pair : List α × List α) :
    Prop where
  key : keyMark ∉ pair.1
  pairKey : pairMark ∉ pair.1
  value : pairMark ∉ pair.2

variable {pairMark keyMark : α} {pairs : List (List α × List α)}

/-- The pairs are read back from their text. -/
theorem splitOn_pairsText
    (different : pairMark ≠ keyMark)
    (unmarked : ∀ pair ∈ pairs, Unmarked pairMark keyMark pair)
    (nonempty : pairs ≠ []) :
    (pairsText pairMark keyMark pairs).splitOn pairMark =
      pairs.map (pairText keyMark) := by
  refine List.splitOn_intercalate pairMark ?_ ?_
  · intro text member
    obtain ⟨pair, isPair, rfl⟩ := List.mem_map.mp member
    have clear := unmarked pair isPair
    simp only [pairText, List.mem_append, List.mem_cons, not_or]
    exact ⟨clear.pairKey, different, clear.value⟩
  · exact fun none => nonempty (List.map_eq_nil_iff.mp none)

/-- A pair is read back from its text. -/
theorem splitOnce_pairText
    {pair : List α × List α}
    (unmarked : Unmarked pairMark keyMark pair) :
    splitOnce keyMark (pairText keyMark pair) = some pair :=
  splitOnce_append unmarked.key pair.2

end Pairs

/-! ## Escapes -/

/-- An uppercase hexadecimal digit. -/
def upperHexDigit
    (value : UInt8) :
    UInt8 :=
  if value < 10 then 0x30 + value else 0x37 + value

/-- A byte as a sign and two digits. -/
def escape
    (sign byte : UInt8) :
    List UInt8 :=
  [sign, upperHexDigit (byte >>> 4), upperHexDigit (byte &&& 0x0F)]

/-- A text in which all bytes but those that pass are escaped. -/
def escaped
    (sign : UInt8)
    (passes : UInt8 → Bool)
    (text : List UInt8) :
    List UInt8 :=
  text.flatMap fun byte =>
    if passes byte then [byte] else escape sign byte

end QueryText
