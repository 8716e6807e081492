/-!
# Self-synchronising codes

The code words of such a code start with a unit that occurs nowhere else in a code
word, and no code word starts with another one.  A text is a sequence of code
words; it can be cut exactly before the units that start one.
-/

namespace SelfSync

/-- The words of a code and the units that start them. -/
structure Code (α : Type) where
  word : List α → Prop
  leads : α → Bool
  shape :
    ∀ {units : List α},
      word units →
        ∃ first rest,
          units = first :: rest ∧
            leads first = true ∧
            ∀ unit ∈ rest, leads unit = false
  whole :
    ∀ {units more : List α},
      word units → word (units ++ more) → more = []

namespace Code

variable {α : Type} {code : Code α}

/-- A sequence of code words. -/
inductive Text (code : Code α) : List α → Prop where
  | nil : Text code []
  | cons {units rest : List α} :
      code.word units → Text code rest → Text code (units ++ rest)

/-- A code word starts or the text ends at the position. -/
def boundary
    (code : Code α)
    (units : List α)
    (position : Nat) :
    Bool :=
  position == 0 ||
    match units[position]? with
    | some unit => code.leads unit
    | none => position == units.length

/-- The text starts here. -/
@[simp] theorem boundary_zero
    (units : List α) :
    code.boundary units 0 = true := by
  simp [boundary]

/-- The text ends here. -/
@[simp] theorem boundary_length
    (units : List α) :
    code.boundary units units.length = true := by
  simp [boundary]

/-- A code word has a unit. -/
theorem length_pos
    {units : List α}
    (isWord : code.word units) :
    0 < units.length := by
  obtain ⟨first, rest, rfl, -, -⟩ := code.shape isWord
  exact Nat.succ_pos _

/-- A code word is a text. -/
theorem Text.ofWord
    {units : List α}
    (isWord : code.word units) :
    code.Text units := by
  rw [← List.append_nil units]
  exact .cons isWord .nil

/-- One text behind another is a text. -/
theorem Text.append
    {front rest : List α}
    (isFront : code.Text front)
    (isRest : code.Text rest) :
    code.Text (front ++ rest) := by
  induction isFront with
  | nil =>
      exact isRest
  | cons isWord _ inductionHypothesis =>
      rw [List.append_assoc]
      exact .cons isWord inductionHypothesis

/-- The first unit of a text starts a code word. -/
theorem Text.head_leads
    {first : α}
    {rest : List α}
    (isText : code.Text (first :: rest)) :
    code.leads first = true := by
  generalize isSame : first :: rest = units at isText
  cases isText with
  | nil =>
      cases isSame
  | cons isWord _ =>
      obtain ⟨_, _, rfl, leads, -⟩ := code.shape isWord
      cases isSame
      exact leads

/-- Behind a text the boundaries are those of what follows. -/
theorem boundary_append
    {front rest : List α}
    (isRest : code.Text rest)
    (position : Nat) :
    code.boundary (front ++ rest) (front.length + position) =
      code.boundary rest position := by
  have there :
      (front ++ rest)[front.length + position]? = rest[position]? := by
    rw [List.getElem?_append_right (Nat.le_add_right _ _),
      Nat.add_sub_cancel_left]
  cases position with
  | succ before =>
      rw [boundary, boundary, there]
      cases rest[before + 1]? with
      | some unit =>
          simp
      | none =>
          rw [Bool.eq_iff_iff]
          simp only [Bool.or_eq_true, beq_iff_eq, List.length_append]
          omega
  | zero =>
      cases rest with
      | nil =>
          simp [boundary]
      | cons first rest =>
          simp [boundary, isRest.head_leads]

/-- There is no boundary within a code word. -/
theorem boundary_within
    {units rest : List α}
    (isWord : code.word units)
    {position : Nat}
    (started : 0 < position)
    (within : position < units.length) :
    code.boundary (units ++ rest) position = false := by
  obtain ⟨first, tail, rfl, -, noLead⟩ := code.shape isWord
  obtain ⟨before, rfl⟩ := Nat.exists_eq_add_one.mpr started
  have inTail : before < tail.length := Nat.succ_lt_succ_iff.mp within
  have isUnit :
      (first :: tail ++ rest)[before + 1]? = some tail[before] := by
    rw [List.getElem?_append_left within, List.getElem?_cons_succ,
      List.getElem?_eq_getElem inTail]
  rw [boundary, isUnit]
  exact noLead _ (List.getElem_mem inTail)

/-- A text cut at a boundary gives two texts. -/
theorem Text.split
    {units : List α}
    (isText : code.Text units)
    {position : Nat}
    (isBoundary : code.boundary units position = true) :
    code.Text (units.take position) ∧ code.Text (units.drop position) := by
  induction isText generalizing position with
  | nil =>
      simp [Text.nil]
  | @cons word rest isWord isRest inductionHypothesis =>
      rcases Nat.eq_zero_or_pos position with rfl | started
      · exact ⟨.nil, .cons isWord isRest⟩
      rcases Nat.lt_or_ge position word.length with within | behind
      · rw [boundary_within isWord started within] at isBoundary
        cases isBoundary
      · obtain ⟨later, rfl⟩ := Nat.exists_eq_add_of_le behind
        rw [boundary_append isRest] at isBoundary
        obtain ⟨isFront, isEnd⟩ := inductionHypothesis isBoundary
        rw [List.take_length_add_append, List.drop_length_add_append]
        exact ⟨.cons isWord isFront, isEnd⟩

/-- Words at the start of the same units are the same. -/
theorem word_unique
    {left right leftRest rightRest : List α}
    (isLeft : code.word left)
    (isRight : code.word right)
    (same : left ++ leftRest = right ++ rightRest) :
    left = right := by
  rcases List.append_eq_append_iff.mp same with
    ⟨more, rfl, -⟩ | ⟨more, rfl, -⟩
  · rw [code.whole isLeft isRight, List.append_nil]
  · rw [code.whole isRight isLeft, List.append_nil]

/-- What follows a text in a text is a text. -/
theorem Text.rest
    {front rest : List α}
    (isFront : code.Text front)
    (isText : code.Text (front ++ rest)) :
    code.Text rest := by
  induction isFront with
  | nil =>
      exact isText
  | @cons word more isWord _ inductionHypothesis =>
      apply inductionHypothesis
      rw [List.append_assoc] at isText
      generalize isSame : word ++ (more ++ rest) = units at isText
      cases isText with
      | nil =>
          have isEmpty := (List.append_eq_nil_iff.mp isSame).1
          have nonempty := length_pos isWord
          simp [isEmpty] at nonempty
      | cons isOther isOtherRest =>
          have sameWord := word_unique isWord isOther isSame
          subst sameWord
          rw [List.append_cancel_left isSame]
          exact isOtherRest

/-- A cut that leaves a text in front is at a boundary. -/
theorem Text.boundary_of_take
    {units : List α}
    (isText : code.Text units)
    {position : Nat}
    (inside : position ≤ units.length)
    (isFront : code.Text (units.take position)) :
    code.boundary units position = true := by
  have isRest : code.Text (units.drop position) := by
    apply isFront.rest
    rw [List.take_append_drop]
    exact isText
  have atCut := @boundary_append _ _ (units.take position) _ isRest 0
  rw [List.take_append_drop, List.length_take, Nat.min_eq_left inside,
    Nat.add_zero, boundary_zero] at atCut
  exact atCut

/-- A text has the boundaries at which its front is a text. -/
theorem Text.take_iff
    {units : List α}
    (isText : code.Text units)
    {position : Nat}
    (inside : position ≤ units.length) :
    code.Text (units.take position) ↔
      code.boundary units position = true :=
  ⟨isText.boundary_of_take inside, fun isBoundary =>
    (isText.split isBoundary).1⟩

/-- Before and behind a unit that is a code word of its own are texts. -/
theorem Text.around
    {unit : α}
    (alone : code.word [unit])
    {front rest : List α}
    (isText : code.Text (front ++ unit :: rest)) :
    code.Text front ∧ code.Text rest := by
  obtain ⟨_, _, isFirst, leads, -⟩ := code.shape alone
  cases isFirst
  have isBoundary :
      code.boundary (front ++ unit :: rest) front.length = true := by
    simp [boundary, leads]
  obtain ⟨isFront, isTail⟩ := isText.split isBoundary
  rw [List.take_left] at isFront
  rw [List.drop_left] at isTail
  exact ⟨isFront, Text.rest (.ofWord alone) isTail⟩

end Code

end SelfSync
