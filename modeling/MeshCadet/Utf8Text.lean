import MeshCadet.Outcome
import MeshCadet.SelfSync

namespace MeshCadet

/-!
# Text as UTF-8

A character is one to four bytes, of which only the first is not a continuation
byte.  A string is a sequence of characters; slicing it within one panics.
-/

open Outcome

/-- The bytes of a text in ASCII. -/
def ascii
    (text : String) :
    List UInt8 :=
  text.toList.map fun character => UInt8.ofNat character.toNat

/-- A byte that continues a character. -/
def isUtf8Continuation
    (byte : UInt8) :
    Bool :=
  0x80 ≤ byte && byte ≤ 0xBF

/-- The second byte may follow the first byte of a three-byte character. -/
def isUtf8Second3
    (first second : UInt8) :
    Bool :=
  isUtf8Continuation second && (first != 0xE0 || 0xA0 ≤ second) &&
    (first != 0xED || second ≤ 0x9F)

/-- The second byte may follow the first byte of a four-byte character. -/
def isUtf8Second4
    (first second : UInt8) :
    Bool :=
  isUtf8Continuation second && (first != 0xF0 || 0x90 ≤ second) &&
    (first != 0xF4 || second ≤ 0x8F)

/-- The bytes are valid UTF-8. -/
def isUtf8 : List UInt8 → Bool
  | [] => true
  | first :: rest =>
      if first < 0x80 then
        isUtf8 rest
      else
        match rest with
        | [] => false
        | second :: rest =>
            if 0xC2 ≤ first && first ≤ 0xDF then
              isUtf8Continuation second && isUtf8 rest
            else
              match rest with
              | [] => false
              | third :: rest =>
                  if 0xE0 ≤ first && first ≤ 0xEF then
                    isUtf8Second3 first second &&
                      isUtf8Continuation third && isUtf8 rest
                  else
                    match rest with
                    | [] => false
                    | fourth :: rest =>
                        0xF0 ≤ first && first ≤ 0xF4 &&
                          isUtf8Second4 first second &&
                          isUtf8Continuation third &&
                          isUtf8Continuation fourth && isUtf8 rest

/-- What stands in for a text that is not valid UTF-8. -/
def invalidUtf8 : List UInt8 :=
  [0x3C, 0x69, 0x6E, 0x76, 0x61, 0x6C, 0x69, 0x64, 0x20, 0x75, 0x74, 0x66,
    0x38, 0x3E]


/-- The bytes of a character. -/
inductive Utf8Char : List UInt8 → Prop where
  | one {first : UInt8} :
      first < 0x80 → Utf8Char [first]
  | two {first second : UInt8} :
      ¬first < 0x80 →
      (0xC2 ≤ first && first ≤ 0xDF) = true →
      isUtf8Continuation second = true →
      Utf8Char [first, second]
  | three {first second third : UInt8} :
      ¬first < 0x80 →
      ¬(0xC2 ≤ first && first ≤ 0xDF) = true →
      (0xE0 ≤ first && first ≤ 0xEF) = true →
      isUtf8Second3 first second = true →
      isUtf8Continuation third = true →
      Utf8Char [first, second, third]
  | four {first second third fourth : UInt8} :
      ¬first < 0x80 →
      ¬(0xC2 ≤ first && first ≤ 0xDF) = true →
      ¬(0xE0 ≤ first && first ≤ 0xEF) = true →
      (0xF0 ≤ first && first ≤ 0xF4) = true →
      isUtf8Second4 first second = true →
      isUtf8Continuation third = true →
      isUtf8Continuation fourth = true →
      Utf8Char [first, second, third, fourth]

/-- How many bytes a character with a first byte has. -/
def utf8Width
    (first : UInt8) :
    Nat :=
  if first < 0x80 then
    1
  else if 0xC2 ≤ first && first ≤ 0xDF then
    2
  else if 0xE0 ≤ first && first ≤ 0xEF then
    3
  else
    4

/-- The first byte of a character tells how many bytes it has. -/
theorem Utf8Char.length
    {first : UInt8}
    {rest : List UInt8}
    (isChar : Utf8Char (first :: rest)) :
    (first :: rest).length = utf8Width first := by
  cases isChar with
  | one ascii =>
      simp [utf8Width, ascii]
  | two notAscii isTwo =>
      simp [utf8Width, notAscii, isTwo]
  | three notAscii notTwo isThree =>
      rw [utf8Width, if_neg notAscii, if_neg notTwo, if_pos isThree]
      rfl
  | four notAscii notTwo notThree =>
      rw [utf8Width, if_neg notAscii, if_neg notTwo, if_neg notThree]
      rfl

/-- Continuation bytes are those of a range. -/
theorem isUtf8Continuation_iff
    {byte : UInt8} :
    isUtf8Continuation byte = true ↔
      0x80 ≤ byte.toNat ∧ byte.toNat ≤ 0xBF := by
  simp [isUtf8Continuation, UInt8.le_iff_toNat_le]

/-- Only the first byte of a character is not a continuation byte. -/
theorem Utf8Char.shape
    {units : List UInt8}
    (isChar : Utf8Char units) :
    ∃ first rest,
      units = first :: rest ∧
        (!isUtf8Continuation first) = true ∧
        ∀ unit ∈ rest, (!isUtf8Continuation unit) = false := by
  have starts :
      ∀ {first : UInt8},
        (first.toNat < 0x80 ∨ 0xC2 ≤ first.toNat) →
          (!isUtf8Continuation first) = true := by
    intro first outside
    rw [Bool.not_eq_true', ← Bool.not_eq_true, isUtf8Continuation_iff]
    omega
  cases isChar with
  | one ascii =>
      exact ⟨_, [], rfl, starts (.inl (UInt8.lt_iff_toNat_lt.mp ascii)),
        by simp⟩
  | two notAscii isTwo second =>
      simp only [Bool.and_eq_true, decide_eq_true_eq,
        UInt8.le_iff_toNat_le] at isTwo
      exact ⟨_, _, rfl, starts (.inr isTwo.1), by simp [second]⟩
  | three notAscii notTwo isThree second third =>
      simp only [Bool.and_eq_true, decide_eq_true_eq,
        UInt8.le_iff_toNat_le] at isThree
      simp only [isUtf8Second3, Bool.and_eq_true] at second
      refine ⟨_, _, rfl, starts (.inr ?_), by simp [second.1.1, third]⟩
      exact Nat.le_trans (by decide) isThree.1
  | four notAscii notTwo notThree isFour second third fourth =>
      simp only [Bool.and_eq_true, decide_eq_true_eq,
        UInt8.le_iff_toNat_le] at isFour
      simp only [isUtf8Second4, Bool.and_eq_true] at second
      refine ⟨_, _, rfl, starts (.inr ?_),
        by simp [second.1.1, third, fourth]⟩
      exact Nat.le_trans (by decide) isFour.1

/-- The code of characters. -/
def utf8 : SelfSync.Code UInt8 where
  word := Utf8Char
  leads := fun byte => !isUtf8Continuation byte
  shape := Utf8Char.shape
  whole := by
    intro units more isChar isLonger
    obtain ⟨first, rest, rfl, -⟩ := isChar.shape
    have short := isChar.length
    have long : (first :: rest ++ more).length = utf8Width first :=
      isLonger.length
    rw [List.length_append, short] at long
    exact List.eq_nil_of_length_eq_zero (by omega)

/-- The valid bytes are the sequences of characters. -/
theorem isUtf8_iff
    (bytes : List UInt8) :
    isUtf8 bytes = true ↔ utf8.Text bytes := by
  constructor
  · intro valid
    fun_induction isUtf8 bytes with
    | case1 =>
        exact .nil
    | case2 first rest ascii inductionHypothesis =>
        exact .cons (Utf8Char.one ascii) (inductionHypothesis valid)
    | case4 first notAscii second rest isTwo inductionHypothesis =>
        rw [Bool.and_eq_true] at valid
        exact .cons (Utf8Char.two notAscii isTwo valid.1)
          (inductionHypothesis valid.2)
    | case6 first notAscii second notTwo third rest isThree
        inductionHypothesis =>
        simp only [Bool.and_eq_true] at valid
        exact .cons (Utf8Char.three notAscii notTwo isThree valid.1.1 valid.1.2)
          (inductionHypothesis valid.2)
    | case8 first notAscii second notTwo third notThree fourth rest
        inductionHypothesis =>
        rw [Bool.and_eq_true, Bool.and_eq_true, Bool.and_eq_true,
          Bool.and_eq_true] at valid
        obtain ⟨⟨⟨⟨isFour, isSecond⟩, isThird⟩, isFourth⟩,
          isRest⟩ := valid
        exact .cons
          (Utf8Char.four notAscii notTwo notThree isFour isSecond isThird
            isFourth)
          (inductionHypothesis isRest)
    | case3 => cases valid
    | case5 => cases valid
    | case7 => cases valid
  · intro isText
    induction isText with
    | nil =>
        rfl
    | cons isChar _ inductionHypothesis =>
        rw [isUtf8.eq_def]
        cases isChar with
        | one ascii =>
            simp [ascii, inductionHypothesis]
        | two notAscii isTwo second =>
            simp [notAscii, isTwo, second, inductionHypothesis]
        | three notAscii notTwo isThree second third =>
            simp [notAscii, notTwo, isThree, second, third,
              inductionHypothesis]
        | four notAscii notTwo notThree isFour second third fourth =>
            simp [notAscii, notTwo, notThree, isFour, second, third, fourth,
              inductionHypothesis]

/-- Characters are valid. -/
theorem isUtf8_of_text
    {bytes : List UInt8}
    (isText : utf8.Text bytes) :
    isUtf8 bytes = true :=
  (isUtf8_iff bytes).mpr isText

/-- Bytes that are a character of their own. -/
theorem utf8_word_ascii
    {byte : UInt8}
    (ascii : byte < 0x80) :
    utf8.word [byte] :=
  Utf8Char.one ascii

/-- A string: its bytes are valid. -/
structure Str where
  bytes : List UInt8
  valid : isUtf8 bytes = true
deriving Repr, DecidableEq

namespace Str

/-- Strings with the same bytes are the same. -/
theorem ext
    {left right : Str}
    (same : left.bytes = right.bytes) :
    left = right := by
  cases left
  cases right
  cases same
  rfl

/-- The bytes of a string are characters. -/
theorem isText
    (text : Str) :
    utf8.Text text.bytes :=
  (isUtf8_iff _).mp text.valid

/-- The string of characters. -/
def ofText
    {bytes : List UInt8}
    (isText : utf8.Text bytes) :
    Str :=
  ⟨bytes, isUtf8_of_text isText⟩

/-- How many bytes the string has. -/
def len
    (text : Str) :
    Nat :=
  text.bytes.length

/-- A character starts or the string ends at the byte. -/
def isCharBoundary
    (text : Str)
    (index : Nat) :
    Bool :=
  utf8.boundary text.bytes index

/-- The bytes from a boundary on are characters. -/
theorem isText_from
    {text : Str}
    {start : Nat}
    (isBoundary : text.isCharBoundary start = true) :
    utf8.Text (text.bytes.drop start) :=
  (text.isText.split isBoundary).2

/-- The bytes up to a boundary are characters. -/
theorem isText_to
    {text : Str}
    {stop : Nat}
    (isBoundary : text.isCharBoundary stop = true) :
    utf8.Text (text.bytes.take stop) :=
  (text.isText.split isBoundary).1

/-- The string from a byte on; within a character there is none. -/
def sliceFrom
    {Failure : Type}
    (text : Str)
    (start : Nat) :
    Outcome Failure Str :=
  if isBoundary : text.isCharBoundary start = true then
    .value (ofText (isText_from isBoundary))
  else
    .panicked

/-- The string up to a byte; within a character there is none. -/
def sliceTo
    {Failure : Type}
    (text : Str)
    (stop : Nat) :
    Outcome Failure Str :=
  if isBoundary : text.isCharBoundary stop = true then
    .value (ofText (isText_to isBoundary))
  else
    .panicked

/-- The string starts with another one. -/
def startsWith
    (text pattern : Str) :
    Bool :=
  pattern.bytes.isPrefixOf text.bytes

/-- What follows a string at the start. -/
theorem isText_drop
    {text pattern : Str}
    (starts : text.startsWith pattern = true) :
    utf8.Text (text.bytes.drop pattern.len) := by
  obtain ⟨rest, isSplit⟩ := List.isPrefixOf_iff_prefix.mp starts
  apply pattern.isText.rest
  rw [← isSplit, len, List.drop_left, isSplit]
  exact text.isText

/-- What follows a string at the start, if it is there. -/
def stripPrefix
    (text pattern : Str) :
    Option Str :=
  if starts : text.startsWith pattern = true then
    some (ofText (isText_drop starts))
  else
    none

/-- The first position of a character of one byte. -/
def find
    (text : Str)
    (byte : UInt8) :
    Option Nat :=
  text.bytes.findIdx? fun other => other == byte

/-- A string behind its front. -/
theorem sliceFrom_append
    {Failure : Type}
    {text : Str}
    {front rest : List UInt8}
    (isSplit : text.bytes = front ++ rest)
    (isRest : utf8.Text rest) :
    (text.sliceFrom front.length : Outcome Failure Str) =
      .value (ofText isRest) := by
  have isBoundary : text.isCharBoundary front.length = true := by
    have atFront := @SelfSync.Code.boundary_append _ _ front _ isRest 0
    rw [isCharBoundary, isSplit]
    simpa using atFront
  rw [sliceFrom, dif_pos isBoundary, Outcome.value.injEq]
  apply ext
  calc text.bytes.drop front.length
      = (front ++ rest).drop front.length := by rw [isSplit]
    _ = rest := List.drop_left

/-- The front of a string. -/
theorem sliceTo_append
    {Failure : Type}
    {text : Str}
    {front rest : List UInt8}
    (isSplit : text.bytes = front ++ rest)
    (isFront : utf8.Text front) :
    (text.sliceTo front.length : Outcome Failure Str) =
      .value (ofText isFront) := by
  have isBoundary : text.isCharBoundary front.length = true := by
    apply text.isText.boundary_of_take
    · rw [isSplit, List.length_append]
      exact Nat.le_add_right _ _
    · rw [isSplit, List.take_left]
      exact isFront
  rw [sliceTo, dif_pos isBoundary, Outcome.value.injEq]
  apply ext
  calc text.bytes.take front.length
      = (front ++ rest).take front.length := by rw [isSplit]
    _ = front := List.take_left

/-- The number of the character that bytes start with. -/
def scalar
    (first second third fourth : UInt8) :
    Nat :=
  if first < 0x80 then
    first.toNat
  else if first < 0xE0 then
    first.toNat % 32 * 64 + second.toNat % 64
  else if first < 0xF0 then
    (first.toNat % 16 * 64 + second.toNat % 64) * 64 + third.toNat % 64
  else
    ((first.toNat % 8 * 64 + second.toNat % 64) * 64 + third.toNat % 64) * 64 +
      fourth.toNat % 64

/-- The first character of bytes. -/
def firstChar : List UInt8 → Option Char
  | [] => none
  | first :: rest =>
      some
        (Char.ofNat
          (scalar first (rest.getD 0 0) (rest.getD 1 0) (rest.getD 2 0)))

/-- The first character is the one the bytes start with. -/
theorem firstChar_append
    {character : List UInt8}
    (isChar : utf8.word character)
    (rest : List UInt8) :
    firstChar (character ++ rest) = firstChar character := by
  cases isChar with
  | one ascii =>
      simp [firstChar, scalar, ascii]
  | @two first _ notAscii isTwo _ =>
      have small : first < 0xE0 := by
        simp only [Bool.and_eq_true, decide_eq_true_eq,
          UInt8.le_iff_toNat_le] at isTwo
        exact UInt8.lt_iff_toNat_lt.mpr (Nat.lt_succ_of_le isTwo.2)
      simp [firstChar, scalar, notAscii, small]
  | @three first _ _ notAscii _ isThree _ _ =>
      have small : first < 0xF0 := by
        simp only [Bool.and_eq_true, decide_eq_true_eq,
          UInt8.le_iff_toNat_le] at isThree
        exact UInt8.lt_iff_toNat_lt.mpr (Nat.lt_succ_of_le isThree.2)
      simp [firstChar, scalar, notAscii, small]
  | four notAscii _ _ _ _ _ _ =>
      simp [firstChar]

end Str

end MeshCadet
