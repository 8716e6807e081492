import Mathlib.Data.List.Basic
import Mathlib.Data.List.Infix
import Mathlib.Data.List.TakeWhile

namespace MeshCadet

/-!
# Telling position sentences from noise

While the rate of the receiver is looked for, a buffer counts as traffic if it
holds a sentence whose checksum is right.  The scan tries each dollar in turn, so
nothing in front of a sentence hides it.  It bounds where the star may stand and
not where the sentence ends.
-/

namespace NmeaDetection

/-- Exclusive or of the bytes of a body. -/
def nmeaChecksum
    (body : List UInt8) :
    UInt8 :=
  body.foldl (fun acc b => acc ^^^ b) 0

/-- Value of a hexadecimal digit. -/
def hexDigitValue
    (b : UInt8) :
    Option UInt8 :=
  if 48 ≤ b ∧ b ≤ 57 then
    some (b - 48)
  else if 65 ≤ b ∧ b ≤ 70 then
    some (b - 65 + 10)
  else if 97 ≤ b ∧ b ≤ 102 then
    some (b - 97 + 10)
  else
    none

/-- Bytes behind the dollar that the star is looked for in. -/
def starRoom : Nat :=
  82

/-- Bytes of the shortest body. -/
def minBodyLen : Nat :=
  5

/-- Bytes in front of the star; none where the sentence breaks off before it. -/
def starBehind :
    Nat → List UInt8 → Option Nat
  | 0, _ => none
  | _ + 1, [] => none
  | room + 1, b :: rest =>
      if b = 13 ∨ b = 10 then
        none
      else if b = 42 then
        some 0
      else if 0x20 ≤ b ∧ b ≤ 0x7E then
        (starBehind room rest).map (· + 1)
      else
        none

/-- Whether what stands behind the star is the checksum of a body. -/
def checksumBehind
    (body : List UInt8) :
    List UInt8 → Bool
  | hi :: lo :: _ =>
      match hexDigitValue hi, hexDigitValue lo with
      | some hiV, some loV => nmeaChecksum body == (hiV <<< 4) ||| loV
      | _, _ => false
  | _ => false

/-- Whether what stands behind a dollar makes it a sentence. -/
def sentenceBehind
    (behind : List UInt8) :
    Bool :=
  match starBehind starRoom behind with
  | some star =>
      decide (minBodyLen ≤ (behind.take star).length) &&
        checksumBehind (behind.take star) (behind.drop (star + 1))
  | none => false

/-- Whether a buffer holds a sentence with the right checksum. -/
def containsChecksumValidNmea
    (bytes : List UInt8) :
    Bool :=
  match _found : bytes.dropWhile (· ≠ 36) with
  | [] => false
  | _ :: behind =>
      if sentenceBehind behind then
        true
      else
        containsChecksumValidNmea behind
termination_by bytes.length
decreasing_by
  have shorter := (List.dropWhile_sublist (· ≠ 36) (l := bytes)).length_le
  rw [_found, List.length_cons] at shorter
  omega

/-- A byte of a body: it is printable and not the star that would end it. -/
def BodyByte
    (b : UInt8) :
    Prop :=
  0x20 ≤ b ∧ b ≤ 0x7E ∧ b ≠ 42

instance (b : UInt8) : Decidable (BodyByte b) := by
  unfold BodyByte
  infer_instance

/-- A dollar, a body that is long enough, a star and the checksum of the body. -/
structure IsSentence
    (sentence body : List UInt8)
    (hi lo : UInt8) :
    Prop where
  layout : sentence = 36 :: (body ++ [42, hi, lo])
  printable : ∀ b ∈ body, BodyByte b
  longEnough : minBodyLen ≤ body.length
  checksum : checksumBehind body [hi, lo] = true

/-- A buffer holds a sentence whose length is between two bounds. -/
def Holds
    (shortest longest : Nat)
    (bytes : List UInt8) :
    Prop :=
  ∃ sentence body hi lo,
    IsSentence sentence body hi lo ∧ sentence <:+: bytes ∧
      shortest ≤ sentence.length ∧ sentence.length ≤ longest

/-- Bytes of the longest sentence. -/
def maxSentenceLen : Nat :=
  82

/-- Bytes of the longest sentence that the scan takes. -/
def maxScannedLen : Nat :=
  starRoom + 3

/-- The star that is found stands behind bytes of a body. -/
theorem starBehind_eq_some
    {room star : Nat}
    {behind : List UInt8}
    (found : starBehind room behind = some star) :
    ∃ body rest,
      behind = body ++ 42 :: rest ∧ body.length = star ∧ star < room ∧
        ∀ b ∈ body, BodyByte b := by
  induction behind generalizing room star with
  | nil =>
      cases room <;> cases found
  | cons b rest inductionHypothesis =>
      cases room with
      | zero => cases found
      | succ room =>
          rw [starBehind] at found
          split at found
          · cases found
          split at found
          · rename_i isStar
            cases found
            exact ⟨[], rest, by rw [isStar]; rfl, rfl, Nat.succ_pos room, nofun⟩
          rename_i notStar
          split at found
          · rename_i isPrintable
            obtain ⟨later, foundLater, isNext⟩ := Option.map_eq_some_iff.mp found
            obtain ⟨body, others, isRest, length, inside, printable⟩ :=
              inductionHypothesis foundLater
            refine ⟨b :: body, others, by rw [isRest]; rfl, ?_, by omega, ?_⟩
            · rw [List.length_cons, length, isNext]
            · intro byte member
              rcases List.mem_cons.mp member with isFirst | isLater
              · rw [isFirst]
                exact ⟨isPrintable.1, isPrintable.2, notStar⟩
              · exact printable byte isLater
          · cases found

/-- The star behind a body is found if there is room for the body. -/
theorem starBehind_body
    {body : List UInt8}
    (printable : ∀ b ∈ body, BodyByte b)
    {room : Nat}
    (inside : body.length < room)
    (rest : List UInt8) :
    starBehind room (body ++ 42 :: rest) = some body.length := by
  induction body generalizing room with
  | nil =>
      cases room with
      | zero => cases inside
      | succ room => rfl
  | cons b more inductionHypothesis =>
      cases room with
      | zero => cases inside
      | succ room =>
          obtain ⟨fromSpace, toTilde, notStar⟩ := printable b List.mem_cons_self
          have noBreak : ¬ (b = 13 ∨ b = 10) := by
            rintro (isReturn | isFeed)
            · rw [isReturn] at fromSpace
              exact absurd fromSpace (by decide)
            · rw [isFeed] at fromSpace
              exact absurd fromSpace (by decide)
          have later :=
            inductionHypothesis
              (fun byte member => printable byte (List.mem_cons_of_mem b member))
              (Nat.lt_of_succ_lt_succ inside)
          rw [List.cons_append, starBehind, if_neg noBreak, if_neg notStar,
            if_pos ⟨fromSpace, toTilde⟩, later]
          rfl

/-- Only the two digits behind the star matter. -/
theorem checksumBehind_iff
    {body behind : List UInt8} :
    checksumBehind body behind = true ↔
      ∃ hi lo rest,
        behind = hi :: lo :: rest ∧ checksumBehind body [hi, lo] = true := by
  constructor
  · intro checked
    rcases behind with _ | ⟨hi, _ | ⟨lo, rest⟩⟩
    · cases checked
    · cases checked
    · exact ⟨hi, lo, rest, rfl, checked⟩
  · rintro ⟨hi, lo, rest, rfl, checked⟩
    exact checked

/-- A dollar is taken for a sentence if one that is short enough begins there. -/
theorem sentenceBehind_iff
    {behind : List UInt8} :
    sentenceBehind behind = true ↔
      ∃ sentence body hi lo,
        IsSentence sentence body hi lo ∧ sentence <+: 36 :: behind ∧
          sentence.length ≤ maxScannedLen := by
  constructor
  · intro taken
    rw [sentenceBehind] at taken
    split at taken
    · rename_i star found
      obtain ⟨body, others, isBehind, length, inside, printable⟩ :=
        starBehind_eq_some found
      obtain ⟨longEnough, checked⟩ := (Bool.and_eq_true _ _).mp taken
      have isBody : behind.take star = body := by
        rw [isBehind, ← length, List.take_left]
      have isOthers : behind.drop (star + 1) = others := by
        rw [isBehind, ← length, ← List.drop_drop, List.drop_left]
        rfl
      rw [isBody] at longEnough checked
      rw [isOthers] at checked
      obtain ⟨hi, lo, rest, isRest, isChecksum⟩ := checksumBehind_iff.mp checked
      refine
        ⟨_, body, hi, lo,
          ⟨rfl, printable, of_decide_eq_true longEnough, isChecksum⟩,
          ⟨rest, ?_⟩, ?_⟩
      · rw [isBehind, isRest]
        simp
      · have scanned : maxScannedLen = 85 := rfl
        have looked : starRoom = 82 := rfl
        simp only [List.length_cons, List.length_append, List.length_nil]
        omega
    · cases taken
  · rintro ⟨sentence, body, hi, lo, isSentence, ⟨rest, isPrefix⟩, short⟩
    have isBehind : behind = body ++ 42 :: (hi :: lo :: rest) := by
      rw [isSentence.layout, List.cons_append] at isPrefix
      rw [← (List.cons.inj isPrefix).2]
      simp
    have inside : body.length < starRoom := by
      have scanned : maxScannedLen = 85 := rfl
      have looked : starRoom = 82 := rfl
      rw [isSentence.layout] at short
      simp only [List.length_cons, List.length_append, List.length_nil] at short
      omega
    have found :=
      starBehind_body isSentence.printable inside (hi :: lo :: rest)
    have isOthers :
        (body ++ 42 :: hi :: lo :: rest).drop (body.length + 1) =
          hi :: lo :: rest := by
      rw [← List.drop_drop, List.drop_left]
      rfl
    rw [sentenceBehind, isBehind, found]
    change
      (decide (minBodyLen ≤ (List.take body.length _).length) &&
        checksumBehind (List.take body.length _) _) = true
    rw [List.take_left, isOthers, decide_eq_true isSentence.longEnough]
    exact isSentence.checksum

/-- Bytes in front of the first dollar, the dollar and what is behind it. -/
theorem eq_of_dropWhile
    {bytes : List UInt8}
    {first : UInt8}
    {behind : List UInt8}
    (found : bytes.dropWhile (· ≠ 36) = first :: behind) :
    ∃ before,
      bytes = before ++ 36 :: behind ∧ ∀ b ∈ before, b ≠ 36 := by
  have isDollar : first = 36 := by
    have stops :=
      List.head_dropWhile_not (l := bytes)
        (fun b => decide (b ≠ (36 : UInt8))) (by rw [found]; nofun)
    simp only [found, List.head_cons] at stops
    simpa using stops
  refine ⟨bytes.takeWhile (· ≠ 36), ?_, ?_⟩
  · have whole := List.takeWhile_append_dropWhile
      (p := fun b => decide (b ≠ (36 : UInt8))) (l := bytes)
    rw [found, isDollar] at whole
    exact whole.symm
  · intro b member
    simpa using List.mem_takeWhile_imp member

/-- A sentence begins at a dollar, so it is not before the first one. -/
theorem infix_behind
    {before behind sentence body : List UInt8}
    {hi lo : UInt8}
    (quiet : ∀ b ∈ before, b ≠ 36)
    (isSentence : IsSentence sentence body hi lo) :
    sentence <:+: before ++ 36 :: behind ↔
      sentence <+: 36 :: behind ∨ sentence <:+: behind := by
  induction before with
  | nil => exact List.infix_cons_iff
  | cons b rest inductionHypothesis =>
      have notFirst : ¬ sentence <+: b :: (rest ++ 36 :: behind) := by
        rintro ⟨after, isPrefix⟩
        rw [isSentence.layout, List.cons_append] at isPrefix
        exact quiet b List.mem_cons_self (List.cons.inj isPrefix).1.symm
      rw [List.cons_append, List.infix_cons_iff, or_iff_right notFirst]
      exact
        inductionHypothesis fun byte member =>
          quiet byte (List.mem_cons_of_mem b member)

/-- The scan finds the sentences whose star is near enough, and nothing else. -/
theorem containsChecksumValidNmea_iff
    (bytes : List UInt8) :
    containsChecksumValidNmea bytes = true ↔ Holds 0 maxScannedLen bytes := by
  induction bytes using containsChecksumValidNmea.induct with
  | case1 bytes none =>
      have noDollar : ∀ b ∈ bytes, b ≠ 36 := by
        simpa using List.dropWhile_eq_nil_iff.mp none
      rw [containsChecksumValidNmea]
      constructor
      · intro found
        split at found
        · cases found
        · rename_i some
          rw [none] at some
          cases some
      · rintro ⟨sentence, body, hi, lo, isSentence, isInfix, _⟩
        have inside : (36 : UInt8) ∈ bytes := by
          apply isInfix.subset
          rw [isSentence.layout]
          exact List.mem_cons_self
        exact absurd rfl (noDollar 36 inside)
  | case2 bytes first behind found taken =>
      obtain ⟨before, isBytes, _⟩ := eq_of_dropWhile found
      obtain ⟨sentence, body, hi, lo, isSentence, isPrefix, short⟩ :=
        sentenceBehind_iff.mp taken
      rw [containsChecksumValidNmea]
      refine iff_of_true ?_ ⟨sentence, body, hi, lo, isSentence, ?_, ?_, short⟩
      · split
        · rename_i none
          rw [found] at none
          cases none
        · rename_i some
          rw [found] at some
          rw [← (List.cons.inj some).2, if_pos taken]
      · rw [isBytes]
        exact isPrefix.isInfix.trans (List.suffix_append before _).isInfix
      · exact Nat.zero_le _
  | case3 bytes first behind found notTaken inductionHypothesis =>
      obtain ⟨before, isBytes, quiet⟩ := eq_of_dropWhile found
      have goesOn :
          containsChecksumValidNmea bytes =
            containsChecksumValidNmea behind := by
        rw [containsChecksumValidNmea]
        split
        · rename_i none
          rw [found] at none
          cases none
        · rename_i some
          rw [found] at some
          rw [← (List.cons.inj some).2, if_neg notTaken]
      rw [goesOn, inductionHypothesis, isBytes]
      constructor
      · rintro ⟨sentence, body, hi, lo, isSentence, isInfix, bounds⟩
        exact
          ⟨sentence, body, hi, lo, isSentence,
            (infix_behind quiet isSentence).mpr (Or.inr isInfix), bounds⟩
      · rintro ⟨sentence, body, hi, lo, isSentence, isInfix, atLeast, short⟩
        rcases (infix_behind quiet isSentence).mp isInfix with here | later
        · refine absurd ?_ notTaken
          exact
            sentenceBehind_iff.mpr
              ⟨sentence, body, hi, lo, isSentence, here, short⟩
        · exact ⟨sentence, body, hi, lo, isSentence, later, atLeast, short⟩

/-- A buffer holds a sentence of the standard length. -/
abbrev HoldsSentence : List UInt8 → Prop :=
  Holds 0 maxSentenceLen

/-- A buffer holds a sentence that is too long by as much as the scan allows. -/
abbrev HoldsLongSentence : List UInt8 → Prop :=
  Holds (maxSentenceLen + 1) maxScannedLen

/-- What the scan finds is a sentence, or one that is too long. -/
theorem holds_scanned_iff
    (bytes : List UInt8) :
    Holds 0 maxScannedLen bytes ↔
      HoldsSentence bytes ∨ HoldsLongSentence bytes := by
  have standard : maxSentenceLen = 82 := rfl
  have scanned : maxScannedLen = 85 := rfl
  constructor
  · rintro ⟨sentence, body, hi, lo, isSentence, isInfix, _, short⟩
    rcases Nat.le_total sentence.length maxSentenceLen with within | beyond
    · exact
        Or.inl
          ⟨sentence, body, hi, lo, isSentence, isInfix, Nat.zero_le _, within⟩
    · rcases Nat.eq_or_lt_of_le beyond with exactly | beyond
      · exact
          Or.inl
            ⟨sentence, body, hi, lo, isSentence, isInfix, Nat.zero_le _,
              Nat.le_of_eq exactly.symm⟩
      · exact
          Or.inr
            ⟨sentence, body, hi, lo, isSentence, isInfix, beyond, short⟩
  · rintro (short | long)
    · obtain ⟨sentence, body, hi, lo, isSentence, isInfix, _, within⟩ := short
      exact
        ⟨sentence, body, hi, lo, isSentence, isInfix, Nat.zero_le _, by omega⟩
    · obtain ⟨sentence, body, hi, lo, isSentence, isInfix, _, within⟩ := long
      exact
        ⟨sentence, body, hi, lo, isSentence, isInfix, Nat.zero_le _, within⟩

/--
The scan tells exactly whether a buffer holds a sentence, unless it holds only
sentences that are up to three bytes too long.
-/
theorem detection_exact_iff
    (bytes : List UInt8) :
    (containsChecksumValidNmea bytes = true ↔ HoldsSentence bytes) ↔
      (HoldsLongSentence bytes → HoldsSentence bytes) := by
  rw [containsChecksumValidNmea_iff, holds_scanned_iff]
  constructor
  · intro same long
    exact same.mp (Or.inr long)
  · intro unlessLong
    refine ⟨?_, Or.inl⟩
    rintro (short | long)
    · exact short
    · exact unlessLong long

/-- What stands behind the dollar of a sentence of 83 bytes. -/
def longTail : List UInt8 :=
  List.replicate 79 65 ++ [42, 52, 49]

/-- A sentence of 83 bytes, one more than the longest, is detected. -/
theorem long_sentence_detected :
    containsChecksumValidNmea (36 :: longTail) = true ∧
      ¬ HoldsSentence (36 :: longTail) := by
  have letters : ∀ b ∈ List.replicate 79 (65 : UInt8), BodyByte b := by
    intro b member
    rw [List.eq_of_mem_replicate member]
    decide
  have standard : maxSentenceLen = 82 := rfl
  constructor
  · apply (containsChecksumValidNmea_iff _).mpr
    exact
      ⟨36 :: longTail, List.replicate 79 65, 52, 49,
        ⟨rfl, letters, by decide, by decide⟩, List.infix_rfl, Nat.zero_le _,
        by decide +kernel⟩
  · rintro ⟨sentence, body, hi, lo, isSentence, isInfix, _, within⟩
    have oneDollar : (36 : UInt8) ∉ longTail := by
      decide
    rcases List.infix_cons_iff.mp isInfix with ⟨rest, isPrefix⟩ | later
    · rw [isSentence.layout, List.cons_append] at isPrefix
      have isTail : body ++ 42 :: (hi :: lo :: rest) = longTail := by
        rw [← (List.cons.inj isPrefix).2]
        simp
      -- the one star decides where the body ends
      have few : body.length < 100 := by
        have length := congrArg List.length isTail
        have tailLength : longTail.length = 82 := by decide
        rw [List.length_append, tailLength] at length
        omega
      have first := starBehind_body isSentence.printable few (hi :: lo :: rest)
      have known : starBehind 100 longTail = some 79 := by
        decide +kernel
      rw [isTail, known] at first
      rw [isSentence.layout] at within
      simp only [List.length_cons, List.length_append, List.length_nil] at within
      have bodyLength := Option.some.inj first
      omega
    · apply oneDollar
      apply later.subset
      rw [isSentence.layout]
      exact List.mem_cons_self

end NmeaDetection

end MeshCadet
