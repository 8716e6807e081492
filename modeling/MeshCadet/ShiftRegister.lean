import Mathlib.Data.Nat.Bitwise

namespace ShiftRegister

/-!
# Shift registers with feedback

A register gives its lowest bit away at each step and, when that bit is set, takes
the feedback in.  Its steps are linear in exclusive or, so what it does with a
disturbed text is told by what it does with the disturbance.
-/

variable {width : Nat}

/-- One step of the register. -/
def shift
    (feedback state : BitVec width) :
    BitVec width :=
  if state.getLsbD 0 then
    (state >>> 1) ^^^ feedback
  else
    state >>> 1

/-- As many steps. -/
def shifts
    (feedback : BitVec width) :
    Nat → BitVec width → BitVec width
  | 0, state => state
  | steps + 1, state => shifts feedback steps (shift feedback state)

/-- Take a bit in at the lowest place. -/
def take
    (feedback state : BitVec width)
    (bit : Bool) :
    BitVec width :=
  shift feedback (state ^^^ BitVec.setWidth width (BitVec.ofBool bit))

/-- Take a text of bits in. -/
def absorb
    (feedback : BitVec width) :
    BitVec width → List Bool → BitVec width :=
  List.foldl (take feedback)

/-- The lowest bits of a word, the lowest first. -/
def bits
    (count : Nat)
    (word : BitVec width) :
    List Bool :=
  (List.range count).map word.getLsbD

@[simp]
theorem absorb_nil
    (feedback state : BitVec width) :
    absorb feedback state [] = state :=
  rfl

@[simp]
theorem absorb_cons
    (feedback state : BitVec width)
    (bit : Bool)
    (rest : List Bool) :
    absorb feedback state (bit :: rest) =
      absorb feedback (take feedback state bit) rest :=
  rfl

theorem absorb_append
    (feedback state : BitVec width)
    (first second : List Bool) :
    absorb feedback state (first ++ second) =
      absorb feedback (absorb feedback state first) second :=
  List.foldl_append

@[simp]
theorem length_bits
    (count : Nat)
    (word : BitVec width) :
    (bits count word).length = count := by
  simp [bits]

theorem bits_succ
    (count : Nat)
    (word : BitVec width) :
    bits (count + 1) word = word.getLsbD 0 :: bits count (word >>> 1) := by
  rw [bits, List.range_succ_eq_map, List.map_cons, List.map_map, bits]
  congr 1
  apply List.map_congr_left
  intro place _
  rw [Function.comp, BitVec.getLsbD_ushiftRight, Nat.add_comm]

theorem bits_add
    (first second : Nat)
    (word : BitVec width) :
    bits (first + second) word =
      bits first word ++ bits second (word >>> first) := by
  rw [bits, List.range_add, List.map_append, List.map_map, bits, bits]
  congr 1
  apply List.map_congr_left
  intro place _
  rw [Function.comp, BitVec.getLsbD_ushiftRight]

/-- Words with the same lowest bits, perhaps of other widths. -/
theorem bits_congr
    {count otherWidth : Nat}
    {word : BitVec width}
    {other : BitVec otherWidth}
    (same : ∀ place < count, word.getLsbD place = other.getLsbD place) :
    bits count word = bits count other := by
  apply List.map_congr_left
  intro place member
  exact same place (List.mem_range.mp member)

/-- The lowest bits of an exclusive or. -/
theorem bits_xor
    (count : Nat)
    (first second : BitVec width) :
    bits count (first ^^^ second) =
      List.zipWith Bool.xor (bits count first) (bits count second) := by
  rw [bits, bits, bits, List.zipWith_map, List.zipWith_self]
  apply List.map_congr_left
  intro place _
  exact BitVec.getLsbD_xor

/-- The lowest bit is the only one of a bit taken in. -/
theorem getLsbD_setWidth_ofBool
    (bit : Bool)
    (place : Nat) :
    (BitVec.setWidth width (BitVec.ofBool bit)).getLsbD place =
      (decide (place < width) && (decide (place = 0) && bit)) := by
  rw [BitVec.getLsbD_setWidth, BitVec.getLsbD_ofBool]

/-- The step is linear. -/
theorem shift_xor
    (feedback first second : BitVec width) :
    shift feedback (first ^^^ second) =
      shift feedback first ^^^ shift feedback second := by
  rw [shift, shift, shift, BitVec.getLsbD_xor, BitVec.ushiftRight_xor_distrib]
  cases first.getLsbD 0 <;> cases second.getLsbD 0
  · rfl
  · exact BitVec.xor_assoc _ _ _
  · change first >>> 1 ^^^ second >>> 1 ^^^ feedback =
      first >>> 1 ^^^ feedback ^^^ second >>> 1
    rw [BitVec.xor_assoc, BitVec.xor_assoc, BitVec.xor_comm feedback]
  · change first >>> 1 ^^^ second >>> 1 =
      first >>> 1 ^^^ feedback ^^^ (second >>> 1 ^^^ feedback)
    rw [BitVec.xor_comm (second >>> 1), BitVec.xor_assoc,
      ← BitVec.xor_assoc feedback, BitVec.xor_self, BitVec.zero_xor]

@[simp]
theorem shift_zero
    (feedback : BitVec width) :
    shift feedback (BitVec.ofNat width 0) = BitVec.ofNat width 0 := by
  simp [shift]

@[simp]
theorem shifts_zero
    (feedback : BitVec width)
    (steps : Nat) :
    shifts feedback steps (BitVec.ofNat width 0) = BitVec.ofNat width 0 := by
  induction steps with
  | zero => rfl
  | succ steps inductionHypothesis =>
      rw [shifts, shift_zero, inductionHypothesis]

/-- A feedback at the highest bit leaves no register empty but the empty one. -/
theorem shift_eq_zero
    {feedback : BitVec width}
    (top : feedback.msb = true)
    {state : BitVec width} :
    shift feedback state = BitVec.ofNat width 0 ↔
      state = BitVec.ofNat width 0 := by
  refine ⟨fun empty => ?_, fun isZero => by rw [isZero, shift_zero]⟩
  rw [shift] at empty
  split at empty
  · have highest : ((state >>> 1) ^^^ feedback).msb = true := by
      rw [BitVec.msb_xor, top, BitVec.msb_ushiftRight]
      simp
    rw [empty] at highest
    simp at highest
  · rename_i lowest
    apply BitVec.eq_of_getLsbD_eq
    intro place _
    cases place with
    | zero => simpa using lowest
    | succ place =>
        have shifted :
            (state >>> 1).getLsbD place =
              (BitVec.ofNat width 0).getLsbD place := by
          rw [empty]
        rw [BitVec.getLsbD_ushiftRight, Nat.add_comm] at shifted
        simpa using shifted

/-- Taking bits in is linear. -/
theorem take_xor
    (feedback first second : BitVec width)
    (bit other : Bool) :
    take feedback (first ^^^ second) (Bool.xor bit other) =
      take feedback first bit ^^^ take feedback second other := by
  have both :
      BitVec.setWidth width (BitVec.ofBool (Bool.xor bit other)) =
        BitVec.setWidth width (BitVec.ofBool bit) ^^^
          BitVec.setWidth width (BitVec.ofBool other) := by
    cases bit <;> cases other <;> simp
  rw [take, take, take, ← shift_xor, both]
  congr 1
  ac_rfl

/-- Taking texts of one length in is linear. -/
theorem absorb_xor
    (feedback : BitVec width)
    {text other : List Bool}
    (same : text.length = other.length)
    (first second : BitVec width) :
    absorb feedback (first ^^^ second) (List.zipWith Bool.xor text other) =
      absorb feedback first text ^^^ absorb feedback second other := by
  induction text generalizing other first second with
  | nil =>
      cases other with
      | nil => rfl
      | cons _ _ => cases same
  | cons bit rest inductionHypothesis =>
      cases other with
      | nil => cases same
      | cons otherBit otherRest =>
          rw [List.zipWith_cons_cons, absorb_cons, absorb_cons, absorb_cons,
            take_xor]
          exact inductionHypothesis (Nat.succ.inj same) _ _

/-- To take the lowest bits of a word in is to take the word in at once. -/
theorem absorb_bits
    (feedback : BitVec width)
    {count : Nat}
    {word : BitVec width}
    (whole : word >>> count = BitVec.ofNat width 0)
    (state : BitVec width) :
    absorb feedback state (bits count word) =
      shifts feedback count (state ^^^ word) := by
  induction count generalizing word state with
  | zero =>
      have isZero : word = BitVec.ofNat width 0 := by simpa using whole
      rw [isZero, BitVec.xor_zero]
      rfl
  | succ count inductionHypothesis =>
      have later : (word >>> 1) >>> count = BitVec.ofNat width 0 := by
        rw [← BitVec.shiftRight_add, Nat.add_comm]
        exact whole
      have rest :
          shift feedback
              (word ^^^ BitVec.setWidth width
                (BitVec.ofBool (word.getLsbD 0))) =
            word >>> 1 := by
        have lowest :
            (word ^^^ BitVec.setWidth width
              (BitVec.ofBool (word.getLsbD 0))).getLsbD 0 = false := by
          rw [BitVec.getLsbD_xor, getLsbD_setWidth_ofBool]
          cases isSet : word.getLsbD 0 with
          | false => simp
          | true => simp [BitVec.lt_of_getLsbD isSet]
        rw [shift, lowest, if_neg Bool.false_ne_true]
        apply BitVec.eq_of_getLsbD_eq
        intro place _
        rw [BitVec.getLsbD_ushiftRight, BitVec.getLsbD_ushiftRight,
          BitVec.getLsbD_xor, getLsbD_setWidth_ofBool]
        simp
      rw [bits_succ, absorb_cons, inductionHypothesis later, shifts, take,
        ← rest, ← shift_xor]
      congr 2
      rw [BitVec.xor_assoc, BitVec.xor_comm word, ← BitVec.xor_assoc,
        ← BitVec.xor_assoc, BitVec.xor_assoc state, BitVec.xor_self,
        BitVec.xor_zero]

/-- A register that takes its own word in is empty afterwards. -/
theorem absorb_self
    (feedback state : BitVec width) :
    absorb feedback state (bits width state) = BitVec.ofNat width 0 := by
  have whole : state >>> width = BitVec.ofNat width 0 :=
    BitVec.ushiftRight_eq_zero (Nat.le_refl width)
  rw [absorb_bits feedback whole, BitVec.xor_self, shifts_zero]

/-- An empty register stays empty while no bit is set. -/
theorem absorb_replicate_zero
    (feedback : BitVec width)
    (count : Nat) :
    absorb feedback (BitVec.ofNat width 0) (List.replicate count false) =
      BitVec.ofNat width 0 := by
  induction count with
  | zero => rfl
  | succ count inductionHypothesis =>
      have unset :
          take feedback (BitVec.ofNat width 0) false =
            BitVec.ofNat width 0 := by
        simp [take]
      rw [List.replicate_succ, absorb_cons, unset, inductionHypothesis]

/-- A register that is not empty does not get empty while no bit is set. -/
theorem absorb_replicate_ne_zero
    {feedback : BitVec width}
    (top : feedback.msb = true)
    {state : BitVec width}
    (filled : state ≠ BitVec.ofNat width 0)
    (count : Nat) :
    absorb feedback state (List.replicate count false) ≠
      BitVec.ofNat width 0 := by
  induction count generalizing state with
  | zero => exact filled
  | succ count inductionHypothesis =>
      rw [List.replicate_succ, absorb_cons]
      apply inductionHypothesis
      intro empty
      apply filled
      apply (shift_eq_zero top).mp
      simpa [take] using empty

/-- A set bit at a place or above it. -/
def SetFrom
    (place : Nat)
    (state : BitVec width) :
    Prop :=
  ∃ above, place ≤ above ∧ state.getLsbD above = true

/-- The step moves a set bit by one place, or sets the highest. -/
theorem take_setFrom
    {feedback : BitVec width}
    (top : feedback.msb = true)
    {place : Nat}
    {state : BitVec width}
    (isSet : SetFrom (place + 1) state)
    (bit : Bool) :
    SetFrom place (take feedback state bit) := by
  obtain ⟨above, atLeast, aboveSet⟩ := isSet
  have inside := BitVec.lt_of_getLsbD aboveSet
  obtain ⟨below, rfl⟩ : ∃ below, above = 1 + below :=
    Nat.exists_eq_add_of_le (by omega)
  have stays :
      (state ^^^ BitVec.setWidth width (BitVec.ofBool bit)).getLsbD
        (1 + below) = true := by
    rw [BitVec.getLsbD_xor, aboveSet, getLsbD_setWidth_ofBool]
    simp
  rw [take, shift]
  split
  · refine ⟨width - 1, by omega, ?_⟩
    have highest := top
    rw [BitVec.msb_eq_getLsbD_last] at highest
    have shiftedOut :
        ((state ^^^ BitVec.setWidth width (BitVec.ofBool bit)) >>> 1).getLsbD
          (width - 1) = false := by
      rw [BitVec.getLsbD_ushiftRight]
      apply BitVec.getLsbD_of_ge
      omega
    rw [BitVec.getLsbD_xor, highest, shiftedOut]
    rfl
  · refine ⟨below, by omega, ?_⟩
    rw [BitVec.getLsbD_ushiftRight]
    exact stays

/-- A set bit is not shifted out by a text shorter than its place. -/
theorem absorb_setFrom
    {feedback : BitVec width}
    (top : feedback.msb = true)
    {place : Nat}
    {state : BitVec width}
    (text : List Bool)
    (isSet : SetFrom (place + text.length) state) :
    SetFrom place (absorb feedback state text) := by
  induction text generalizing state with
  | nil => exact isSet
  | cons bit rest inductionHypothesis =>
      rw [absorb_cons]
      apply inductionHypothesis
      apply take_setFrom top
      exact isSet

/-- A set bit is seen after a text not longer than the register. -/
theorem absorb_burst
    {feedback : BitVec width}
    (top : feedback.msb = true)
    {burst : List Bool}
    (short : burst.length ≤ width)
    (disturbed : true ∈ burst) :
    absorb feedback (BitVec.ofNat width 0) burst ≠ BitVec.ofNat width 0 := by
  obtain ⟨before, after, rfl, quiet⟩ := List.eq_append_cons_of_mem disturbed
  have isReplicate : before = List.replicate before.length false := by
    apply List.eq_replicate_of_mem
    intro bit member
    cases bit with
    | false => rfl
    | true => exact absurd member quiet
  have positive : 0 < width := by
    simp only [List.length_append, List.length_cons] at short
    omega
  have taken : take feedback (BitVec.ofNat width 0) true = feedback := by
    have lowest :
        (BitVec.setWidth width (BitVec.ofBool true)).getLsbD 0 = true := by
      rw [getLsbD_setWidth_ofBool]
      simpa using positive
    have shifted :
        (BitVec.setWidth width (BitVec.ofBool true)) >>> 1 =
          BitVec.ofNat width 0 := by
      apply BitVec.eq_of_getLsbD_eq
      intro place _
      rw [BitVec.getLsbD_ushiftRight, getLsbD_setWidth_ofBool]
      simp
    rw [take, BitVec.zero_xor, shift, if_pos lowest, shifted,
      BitVec.zero_xor]
  have stays : SetFrom 0 (absorb feedback feedback after) := by
    apply absorb_setFrom top
    refine ⟨width - 1, ?_, ?_⟩
    · simp only [List.length_append, List.length_cons] at short
      omega
    · rw [← BitVec.msb_eq_getLsbD_last]
      exact top
  rw [absorb_append, isReplicate, absorb_replicate_zero, absorb_cons, taken]
  intro empty
  obtain ⟨place, _, isSet⟩ := stays
  rw [empty] at isSet
  simp at isSet

/-- A burst not longer than the register is seen, wherever it stands. -/
theorem absorb_burst_between
    {feedback : BitVec width}
    (top : feedback.msb = true)
    {burst : List Bool}
    (short : burst.length ≤ width)
    (disturbed : true ∈ burst)
    (before after : Nat) :
    absorb feedback (BitVec.ofNat width 0)
        (List.replicate before false ++ burst ++
          List.replicate after false) ≠
      BitVec.ofNat width 0 := by
  rw [absorb_append, absorb_append, absorb_replicate_zero]
  exact absorb_replicate_ne_zero top (absorb_burst top short disturbed) after

/-- A text whose set bits lie close together is a burst between unset bits. -/
theorem eq_burst_between
    {text : List Bool}
    {first span : Nat}
    (confined :
      ∀ place : Nat, text[place]? = some true →
        first ≤ place ∧ place < first + span) :
    text =
      List.replicate (text.take first).length false ++
        (text.drop first).take span ++
        List.replicate ((text.drop first).drop span).length false := by
  have quiet :
      ∀ part : List Bool,
        (∀ place : Nat, part[place]? ≠ some true) →
          List.replicate part.length false = part := by
    intro part unset
    apply (List.eq_replicate_of_mem _).symm
    intro bit member
    obtain ⟨place, isBit⟩ := List.mem_iff_getElem?.mp member
    cases bit with
    | false => rfl
    | true => exact absurd isBit (unset place)
  rw [quiet (text.take first), quiet ((text.drop first).drop span),
    List.append_assoc, List.take_append_drop, List.take_append_drop]
  · intro place isSet
    rw [List.getElem?_drop, List.getElem?_drop] at isSet
    have inside := (confined _ isSet).2
    omega
  · intro place isSet
    rw [List.getElem?_take] at isSet
    split at isSet
    · have inside := (confined place isSet).1
      omega
    · cases isSet

/-- A text that is disturbed in a short span does not leave the register empty. -/
theorem absorb_confined
    {feedback : BitVec width}
    (top : feedback.msb = true)
    {text : List Bool}
    (disturbed : true ∈ text)
    {first span : Nat}
    (short : span ≤ width)
    (confined :
      ∀ place : Nat, text[place]? = some true →
        first ≤ place ∧ place < first + span) :
    absorb feedback (BitVec.ofNat width 0) text ≠ BitVec.ofNat width 0 := by
  have split := eq_burst_between confined
  have inBurst : true ∈ (text.drop first).take span := by
    rw [split] at disturbed
    rcases List.mem_append.mp disturbed with front | behind
    · rcases List.mem_append.mp front with before | inside
      · exact absurd (List.eq_of_mem_replicate before) nofun
      · exact inside
    · exact absurd (List.eq_of_mem_replicate behind) nofun
  rw [split]
  apply absorb_burst_between top _ inBurst
  exact Nat.le_trans (List.length_take_le _ _) short

end ShiftRegister
