import MeshCadet.MentionSplits

namespace MeshCadet

/-!
# Mentions there and back

Names without at signs and brackets are found again in their brackets, so a
message is shown as it was typed, and putting its mentions in brackets once more
changes nothing.  What a receiver finds besides is bare names, which are shown as
they are.
-/

open Outcome
open SpanScan

/-- A name without the signs that mark mentions. -/
def PlainName (name : Str) : Prop :=
  ∀ byte ∈ name.bytes, byte ≠ 0x40 ∧ byte ≠ 0x5B ∧ byte ≠ 0x5D

/-- No bracket stands behind an at sign. -/
def Unmarked (bytes : List UInt8) : Prop :=
  ¬[0x40, 0x5B] <:+: bytes

/-- What stands behind something unmarked is unmarked. -/
theorem Unmarked.behind
    {front rest : List UInt8}
    (unmarked : Unmarked (front ++ rest)) :
    Unmarked rest :=
  fun marked => unmarked (marked.trans (List.suffix_append front rest).isInfix)

section Wrapped

variable {alphanumeric : Char → Bool} {known : List Str}

/-- The rest of a text with its mentions in brackets. -/
def wrappedFrom
    (alphanumeric : Char → Bool)
    (known : List Str)
    (mayStart : Bool)
    (rest : List UInt8) :
    List UInt8 :=
  ((wrapRules alphanumeric known).cut false mayStart rest).flatMap bracketed

/-- Nothing is left. -/
@[simp] theorem wrappedFrom_nil
    (mayStart : Bool) :
    wrappedFrom alphanumeric known mayStart [] = [] := by
  simp [wrappedFrom]

/-- A byte outside mentions stays. -/
theorem wrappedFrom_plain
    {mayStart : Bool}
    {byte : UInt8}
    {rest : List UInt8}
    (none : nameAt alphanumeric known mayStart byte rest = none) :
    wrappedFrom alphanumeric known mayStart (byte :: rest) =
      byte ::
        wrappedFrom alphanumeric known (isAsciiWhitespace byte) rest := by
  have notFound :
      (wrapRules alphanumeric known).foundAt mayStart byte rest =
        Option.none := by
    rw [wrapRules_foundAt, none]
    rfl
  rw [wrappedFrom, Rules.cut_plain notFound]
  rfl

/-- A mention is put in brackets. -/
theorem wrappedFrom_mention
    {mayStart : Bool}
    {byte : UInt8}
    {name : Str}
    {rest : List UInt8}
    (found :
      nameAt alphanumeric known mayStart byte (name.bytes ++ rest) =
        some name) :
    ∃ later,
      wrappedFrom alphanumeric known mayStart
          (byte :: (name.bytes ++ rest)) =
        0x40 :: 0x5B ::
          (name.bytes ++
            0x5D :: wrappedFrom alphanumeric known later rest) := by
  have isFound :
      (wrapRules alphanumeric known).foundAt mayStart byte
          (name.bytes ++ rest) =
        some (name.bytes, name.len) := by
    rw [wrapRules_foundAt, found]
    rfl
  refine ⟨(wrapRules alphanumeric known).closes byte name.bytes, ?_⟩
  rw [wrappedFrom, Rules.cut_span isFound, Bool.false_or, Str.len,
    List.take_left, List.drop_left, List.flatMap_cons, bracketed,
    ← wrappedFrom]
  simp

/-- Both start with the same byte. -/
theorem wrappedFrom_cons
    (mayStart : Bool)
    (byte : UInt8)
    (rest : List UInt8) :
    ∃ behind,
      wrappedFrom alphanumeric known mayStart (byte :: rest) =
        byte :: behind := by
  cases found : nameAt alphanumeric known mayStart byte rest with
  | none =>
      exact ⟨_, wrappedFrom_plain found⟩
  | some name =>
      obtain ⟨rfl, -, -, here⟩ := nameAt_some found
      obtain ⟨-, rest, rfl⟩ := split_of_nameHere here
      obtain ⟨later, isWrapped⟩ := wrappedFrom_mention found
      exact ⟨_, isWrapped⟩

/-- Only an at sign opens a mention. -/
theorem nameAt_eq_none
    {byte : UInt8}
    (other : byte ≠ atSign)
    (mayStart : Bool)
    (rest : List UInt8) :
    nameAt alphanumeric known mayStart byte rest = none := by
  simp [nameAt, other]

/-- What holds no at sign at the start of a wrapped text is not wrapped. -/
theorem wrappedFrom_split
    {front : List UInt8}
    (noAt : ∀ byte ∈ front, byte ≠ atSign)
    {mayStart : Bool}
    {rest behind : List UInt8}
    (isSplit :
      wrappedFrom alphanumeric known mayStart rest = front ++ behind) :
    ∃ later rest',
      rest = front ++ rest' ∧
        behind = wrappedFrom alphanumeric known later rest' := by
  induction front generalizing mayStart rest with
  | nil =>
      exact ⟨mayStart, rest, rfl, isSplit.symm⟩
  | cons first front inductionHypothesis =>
      rw [List.forall_mem_cons] at noAt
      cases rest with
      | nil =>
          simp at isSplit
      | cons byte rest =>
          obtain ⟨_, isCons⟩ :=
            @wrappedFrom_cons alphanumeric known mayStart byte rest
          have same : byte = first := by
            rw [isSplit] at isCons
            exact (List.cons.inj isCons).1.symm
          subst same
          rw [wrappedFrom_plain (nameAt_eq_none noAt.1 _ _),
            List.cons_append, List.cons.injEq] at isSplit
          obtain ⟨later, rest', rfl, isBehind⟩ :=
            inductionHypothesis noAt.2 isSplit.2
          exact ⟨later, rest', rfl, isBehind⟩

/-- A text without at signs in front is not wrapped. -/
theorem wrappedFrom_append
    {front : List UInt8}
    (noAt : ∀ byte ∈ front, byte ≠ atSign)
    (mayStart : Bool)
    (rest : List UInt8) :
    ∃ later,
      wrappedFrom alphanumeric known mayStart (front ++ rest) =
        front ++ wrappedFrom alphanumeric known later rest := by
  induction front generalizing mayStart with
  | nil =>
      exact ⟨mayStart, rfl⟩
  | cons first front inductionHypothesis =>
      rw [List.forall_mem_cons] at noAt
      obtain ⟨later, isWrapped⟩ :=
        inductionHypothesis noAt.2 (isAsciiWhitespace first)
      refine ⟨later, ?_⟩
      rw [List.cons_append,
        wrappedFrom_plain (nameAt_eq_none noAt.1 _ _), isWrapped]
      rfl

/-- The names of a list hold no signs that mark mentions. -/
def PlainNames (known : List Str) : Prop :=
  ∀ name ∈ known, PlainName name

/-- No plain name starts with a bracket. -/
theorem bestName_bracket
    (plainNames : PlainNames known)
    (rest : List UInt8) :
    bestName alphanumeric (0x5B :: rest) none known = none := by
  rw [bestName_eq_none_iff]
  refine ⟨rfl, fun name member => ?_⟩
  rw [← Bool.not_eq_true]
  intro here
  obtain ⟨nonempty, behind, isSplit⟩ := split_of_nameHere here
  cases isName : name.bytes with
  | nil =>
      exact nonempty isName
  | cons first more =>
      rw [isName, List.cons_append, List.cons.injEq] at isSplit
      have inName : first ∈ name.bytes := by
        rw [isName]
        exact List.mem_cons_self
      exact (plainNames name member first inName).2.1 isSplit.1.symm

/-- A name in brackets is found behind a sign. -/
theorem splitFound_marked
    {selfName : Str}
    {name : List UInt8}
    (noBracket : ∀ byte ∈ name, byte ≠ 0x5D)
    (rest : List UInt8) :
    splitFound alphanumeric selfName known
        (0x5B :: (name ++ 0x5D :: rest)) =
      some ((markedTier selfName name, name), name.length + 2) := by
  have opened :
      openBracket.bytes.isPrefixOf (0x5B :: (name ++ 0x5D :: rest)) =
        true := by
    simp [openBracket]
  have closed :
      ((name ++ 0x5D :: rest).findIdx? fun byte => byte == closeBracket) =
        some name.length := by
    have notInName :
        (name.findIdx? fun byte => byte == closeBracket) = none := by
      rw [List.findIdx?_eq_none_iff]
      exact fun byte member => beq_false_of_ne (noBracket byte member)
    rw [List.findIdx?_append, notInName, List.findIdx?_cons]
    simp [closeBracket]
  have isStripped :
      (0x5B :: (name ++ 0x5D :: rest)).drop 1 = name ++ 0x5D :: rest :=
    rfl
  rw [splitFound, if_pos opened, isStripped, closed, Option.map_some,
    List.take_left]

/-- Behind a sign where a mention may start, the scan finds what stands there. -/
theorem splitRules_foundAt
    (selfName : Str)
    (rest : List UInt8) :
    (splitRules alphanumeric selfName known).foundAt true atSign rest =
      splitFound alphanumeric selfName known rest :=
  rfl

/-- Behind a sign without a bracket, the scan finds known names. -/
theorem splitFound_unmarked
    {selfName : Str}
    {rest : List UInt8}
    (unmarked : ∀ behind, rest ≠ 0x5B :: behind) :
    splitFound alphanumeric selfName known rest =
      (bestName alphanumeric rest none known).map fun name =>
        ((.other, name.bytes), name.len) := by
  have notOpened : ¬openBracket.bytes.isPrefixOf rest = true := by
    rw [List.isPrefixOf_iff_prefix]
    rintro ⟨behind, isSplit⟩
    exact unmarked behind isSplit.symm
  rw [splitFound, if_neg notOpened]

/-- Where no bracket stands behind a sign, none does in the wrapped text. -/
theorem wrappedFrom_unmarked
    {mayStart : Bool}
    {rest : List UInt8}
    (unmarked : Unmarked (0x40 :: rest))
    (behind : List UInt8) :
    wrappedFrom alphanumeric known mayStart rest ≠ 0x5B :: behind := by
  intro isWrapped
  cases rest with
  | nil =>
      simp at isWrapped
  | cons byte rest =>
      obtain ⟨_, isCons⟩ :=
        @wrappedFrom_cons alphanumeric known mayStart byte rest
      rw [isWrapped, List.cons.injEq] at isCons
      apply unmarked
      rw [← isCons.1]
      exact ⟨[], rest, rfl⟩

/-- Whatever the names of the receiver are, it shows a wrapped text as it was. -/
theorem shown_wrappedFrom
    {shownTo : List Str}
    (plainNames : PlainNames known)
    (plainShown : PlainNames shownTo)
    (selfName : Str)
    {rest : List UInt8}
    (unmarked : Unmarked rest)
    {mayStart later : Bool}
    (starts : mayStart = true → later = true) :
    ((splitRules alphanumeric selfName shownTo).cut true later
        (wrappedFrom alphanumeric known mayStart rest)).flatMap shownPiece =
      rest := by
  induction isLength : rest.length using Nat.strongRecOn
      generalizing rest mayStart later with
  | _ length inductionHypothesis =>
      subst isLength
      cases rest with
      | nil =>
          simp
      | cons byte rest =>
          cases found : nameAt alphanumeric known mayStart byte rest with
          | some name =>
              obtain ⟨rfl, isStart, member, here⟩ := nameAt_some found
              obtain ⟨nonempty, rest, rfl⟩ := split_of_nameHere here
              obtain ⟨again, isWrapped⟩ := wrappedFrom_mention found
              have isFound :
                  (splitRules alphanumeric selfName shownTo).foundAt true
                      0x40
                      (0x5B ::
                        (name.bytes ++
                          0x5D ::
                            wrappedFrom alphanumeric known again rest)) =
                    some
                      ((markedTier selfName name.bytes, name.bytes),
                        name.bytes.length + 2) := by
                rw [← atSign, splitRules_foundAt]
                exact splitFound_marked
                  (fun byte inName => (plainNames name member byte inName).2.2)
                  _
              have isBehind :
                  (0x5B ::
                    (name.bytes ++
                      0x5D ::
                        wrappedFrom alphanumeric known again rest)).drop
                      (name.bytes.length + 2) =
                    wrappedFrom alphanumeric known again rest := by
                simp
              rw [isWrapped, starts isStart, Rules.cut_span isFound,
                Bool.true_or, isBehind, List.flatMap_cons,
                inductionHypothesis _
                  (by
                    simp only [List.length_append, List.length_cons]
                    omega)
                  (@Unmarked.behind (0x40 :: name.bytes) rest unmarked)
                  (fun _ => rfl) rfl]
              rfl
          | none =>
              rw [wrappedFrom_plain found]
              have behind : Unmarked rest :=
                @Unmarked.behind [byte] rest unmarked
              cases isFound :
                  (splitRules alphanumeric selfName shownTo).foundAt later
                    byte
                    (wrappedFrom alphanumeric known
                      (isAsciiWhitespace byte) rest) with
              | none =>
                  have shownBehind :=
                    @inductionHypothesis rest.length (by simp) rest behind
                      (isAsciiWhitespace byte) (isAsciiWhitespace byte)
                      (fun isSpace => isSpace) rfl
                  rw [Rules.cut_plain isFound, List.flatMap_cons]
                  exact congrArg (List.cons byte) shownBehind
              | some span =>
                  obtain ⟨isMark, rfl, isSpan⟩ := Rules.foundAt_some isFound
                  have isAt : byte = 0x40 := beq_iff_eq.mp isMark
                  subst isAt
                  -- a bare name that the receiver knows: it takes no more
                  -- than the sender left outside mentions
                  have isBest :
                      splitFound alphanumeric selfName shownTo
                          (wrappedFrom alphanumeric known
                            (isAsciiWhitespace 0x40) rest) =
                        some span :=
                    isSpan
                  rw [splitFound_unmarked
                    (wrappedFrom_unmarked unmarked)] at isBest
                  obtain ⟨name, isName, rfl⟩ :=
                    Option.map_eq_some_iff.mp isBest
                  rcases bestName_some isName with isNone | ⟨member, here⟩
                  · cases isNone
                  obtain ⟨nonempty, _, isSplit⟩ := split_of_nameHere here
                  obtain ⟨again, rest, rfl, rfl⟩ :=
                    wrappedFrom_split
                      (fun byte inName =>
                        (plainShown name member byte inName).1)
                      isSplit
                  have shorter :
                      rest.length <
                        ((0x40 : UInt8) :: (name.bytes ++ rest)).length := by
                    rw [List.length_cons, List.length_append]
                    omega
                  rw [Rules.cut_span isFound, Bool.true_or, isSplit,
                    Str.len, List.drop_left, List.flatMap_cons,
                    inductionHypothesis _ shorter
                      (@Unmarked.behind name.bytes rest behind)
                      (fun _ => rfl) rfl]
                  rfl

/-- A character that is not an at sign holds none. -/
theorem noAt_of_word
    {first : UInt8}
    {more : List UInt8}
    (isChar : utf8.word (first :: more))
    (other : first ≠ atSign) :
    ∀ byte ∈ first :: more, byte ≠ atSign := by
  obtain ⟨_, _, isCons, -, noLead⟩ := utf8.shape isChar
  cases isCons
  rw [List.forall_mem_cons]
  refine ⟨other, ?_⟩
  rintro byte member rfl
  exact absurd (noLead _ member) (by decide)

/-- A text and the wrapped text start with the same character. -/
theorem firstChar_wrappedFrom
    {rest : List UInt8}
    (isText : utf8.Text rest)
    (mayStart : Bool) :
    Str.firstChar (wrappedFrom alphanumeric known mayStart rest) =
      Str.firstChar rest := by
  cases isText with
  | nil =>
      rw [wrappedFrom_nil]
  | @cons character rest isChar isRest =>
      obtain ⟨first, more, rfl, -⟩ := utf8.shape isChar
      by_cases isAt : first = atSign
      · subst isAt
        obtain ⟨behind, isCons⟩ :=
          @wrappedFrom_cons alphanumeric known mayStart atSign (more ++ rest)
        have alone : utf8.word [atSign] := utf8_word_ascii (by decide)
        rw [List.cons_append, isCons]
        exact
          (Str.firstChar_append alone behind).trans
            (Str.firstChar_append alone (more ++ rest)).symm
      · obtain ⟨later, isWrapped⟩ :=
          @wrappedFrom_append alphanumeric known _
            (noAt_of_word isChar isAt) mayStart rest
        rw [isWrapped, Str.firstChar_append isChar,
          Str.firstChar_append isChar]

/-- Behind a sign outside mentions no name is found in the wrapped text either. -/
theorem bestName_wrappedFrom
    (plainNames : PlainNames known)
    {rest : List UInt8}
    (isText : utf8.Text rest)
    (none : bestName alphanumeric rest Option.none known = Option.none)
    (mayStart : Bool) :
    bestName alphanumeric
        (wrappedFrom alphanumeric known mayStart rest) Option.none known =
      Option.none := by
  rw [bestName_eq_none_iff] at none ⊢
  refine ⟨rfl, fun name member => ?_⟩
  rw [← Bool.not_eq_true]
  intro here
  obtain ⟨nonempty, behind, isSplit⟩ := split_of_nameHere here
  obtain ⟨later, rest, rfl, rfl⟩ :=
    wrappedFrom_split
      (fun byte inName => (plainNames name member byte inName).1) isSplit
  have isRest : utf8.Text rest := name.isText.rest isText
  have notHere := none.2 name member
  have starts (behind : List UInt8) :
      name.bytes.isPrefixOf (name.bytes ++ behind) = true :=
    List.isPrefixOf_iff_prefix.mpr (List.prefix_append _ _)
  rw [nameHere, isSplit, starts, Str.len, List.drop_left,
    firstChar_wrappedFrom isRest] at here
  rw [nameHere, starts, Str.len, List.drop_left, here] at notHere
  cases notHere

/-- No mention opens up to a byte without at signs in front of it. -/
theorem cut_noAt
    {front : List UInt8}
    (noAt : ∀ byte ∈ front, byte ≠ atSign)
    {last : UInt8}
    (other : last ≠ atSign)
    (mayStart : Bool)
    (rest : List UInt8) :
    (wrapRules alphanumeric known).cut false mayStart
        (front ++ last :: rest) =
      (front ++ [last]).map Piece.plain ++
        (wrapRules alphanumeric known).cut false (isAsciiWhitespace last)
          rest := by
  have notFound {byte : UInt8} (isOther : byte ≠ atSign) (mayStart rest) :
      (wrapRules alphanumeric known).foundAt mayStart byte rest = none := by
    rw [wrapRules_foundAt, nameAt_eq_none isOther]
    rfl
  induction front generalizing mayStart with
  | nil =>
      exact Rules.cut_plain (notFound other _ _) false
  | cons first front inductionHypothesis =>
      rw [List.forall_mem_cons] at noAt
      rw [List.cons_append, Rules.cut_plain (notFound noAt.1 _ _),
        inductionHypothesis noAt.2]
      rfl

/-- The wrapped text holds no bare names. -/
theorem cut_wrappedFrom
    (plainNames : PlainNames known)
    {front rest : List UInt8}
    (isText : utf8.Text (front ++ rest))
    {mayStart later : Bool}
    (starts : later = true → mayStart = true) :
    (wrapRules alphanumeric known).cut false later
        (wrappedFrom alphanumeric known mayStart rest) =
      (wrappedFrom alphanumeric known mayStart rest).map Piece.plain := by
  induction isLength : rest.length using Nat.strongRecOn
      generalizing front rest mayStart later with
  | _ length inductionHypothesis =>
      subst isLength
      cases rest with
      | nil =>
          simp
      | cons byte rest =>
          cases found : nameAt alphanumeric known mayStart byte rest with
          | some name =>
              obtain ⟨rfl, -, member, here⟩ := nameAt_some found
              obtain ⟨nonempty, rest, rfl⟩ := split_of_nameHere here
              obtain ⟨again, isWrapped⟩ := wrappedFrom_mention found
              have notFound :
                  (wrapRules alphanumeric known).foundAt later 0x40
                      (0x5B ::
                        (name.bytes ++
                          0x5D ::
                            wrappedFrom alphanumeric known again rest)) =
                    Option.none := by
                rw [wrapRules_foundAt, nameAt, bestName_bracket plainNames]
                split <;> rfl
              have noAt : ∀ byte ∈ 0x5B :: name.bytes, byte ≠ atSign := by
                rw [List.forall_mem_cons]
                exact ⟨by decide, fun byte inName =>
                  (plainNames name member byte inName).1⟩
              have plainBehind :=
                @inductionHypothesis rest.length
                  (by
                    simp only [List.length_append, List.length_cons]
                    omega)
                  (front ++ atSign :: name.bytes) rest
                  (by simpa using isText) again false (by simp) rfl
              rw [isWrapped, Rules.cut_plain notFound, ← List.cons_append,
                cut_noAt noAt (by decide),
                show isAsciiWhitespace 0x5D = false from rfl, plainBehind]
              simp
          | none =>
              rw [wrappedFrom_plain found]
              have notFound :
                  (wrapRules alphanumeric known).foundAt later byte
                      (wrappedFrom alphanumeric known
                        (isAsciiWhitespace byte) rest) =
                    Option.none := by
                rw [wrapRules_foundAt, nameAt]
                split
                · next atMark =>
                  rw [Bool.and_eq_true, beq_iff_eq] at atMark
                  obtain ⟨rfl, isLater⟩ := atMark
                  rw [starts isLater] at found
                  have isRest := (around_ascii (by decide) isText).2
                  rw [bestName_wrappedFrom plainNames isRest found]
                  rfl
                · rfl
              have plainBehind :=
                @inductionHypothesis rest.length (by simp)
                  (front ++ [byte]) rest (by simpa using isText)
                  (isAsciiWhitespace byte) (isAsciiWhitespace byte)
                  (fun isSpace => isSpace) rfl
              rw [Rules.cut_plain notFound]
              exact congrArg (List.cons (Piece.plain byte)) plainBehind

/-- A byte that is a character of its own stands in front of a text. -/
theorem isText_ascii
    {byte : UInt8}
    (ascii : byte < 0x80)
    {rest : List UInt8}
    (isText : utf8.Text rest) :
    utf8.Text (byte :: rest) :=
  .cons (utf8_word_ascii ascii) isText

/-- The wrapped text is a text. -/
theorem isText_wrappedFrom
    {rest : List UInt8}
    (isText : utf8.Text rest)
    (mayStart : Bool) :
    utf8.Text (wrappedFrom alphanumeric known mayStart rest) := by
  induction isLength : rest.length using Nat.strongRecOn
      generalizing rest mayStart with
  | _ length inductionHypothesis =>
      subst isLength
      cases isText with
      | nil =>
          rw [wrappedFrom_nil]
          exact .nil
      | @cons character rest isChar isRest =>
          obtain ⟨first, more, rfl, -⟩ := utf8.shape isChar
          by_cases isAt : first = 0x40
          · subst isAt
            have alone : more = [] :=
              @utf8.whole [0x40] more (utf8_word_ascii (by decide)) isChar
            subst alone
            cases found :
                nameAt alphanumeric known mayStart 0x40 rest with
            | none =>
                rw [List.singleton_append, wrappedFrom_plain found]
                exact isText_ascii (by decide)
                  (inductionHypothesis _ (by simp) isRest _ rfl)
            | some name =>
                obtain ⟨-, -, -, here⟩ := nameAt_some found
                obtain ⟨-, rest, rfl⟩ := split_of_nameHere here
                obtain ⟨later, isWrapped⟩ := wrappedFrom_mention found
                have isBehind :=
                  inductionHypothesis rest.length
                    (by
                      simp only [List.length_append, List.length_cons]
                      omega)
                    (name.isText.rest isRest) later rfl
                rw [List.singleton_append, isWrapped]
                exact isText_ascii (by decide)
                  (isText_ascii (by decide)
                    (name.isText.append
                      (isText_ascii (by decide) isBehind)))
          · obtain ⟨later, isWrapped⟩ :=
              @wrappedFrom_append alphanumeric known _
                (noAt_of_word isChar isAt) mayStart rest
            rw [isWrapped]
            exact .cons isChar
              (inductionHypothesis _
                (by
                  simp only [List.length_append, List.length_cons]
                  omega) isRest _ rfl)

/-- Bytes outside mentions stay as they are. -/
theorem bracketed_plain
    (bytes : List UInt8) :
    (bytes.map Piece.plain).flatMap bracketed = bytes := by
  induction bytes with
  | nil =>
      rfl
  | cons byte bytes inductionHypothesis =>
      rw [List.map_cons, List.flatMap_cons, inductionHypothesis]
      rfl

/-- Wrapping a wrapped text changes nothing. -/
theorem wrapped_wrapped
    (plainNames : PlainNames known)
    (text : Str) :
    wrapped alphanumeric known (wrapped alphanumeric known text.bytes) =
      wrapped alphanumeric known text.bytes := by
  have holdsNone :=
    @cut_wrappedFrom alphanumeric known plainNames [] text.bytes text.isText
      true true fun _ => rfl
  have stays := congrArg (List.flatMap bracketed) holdsNone
  rw [bracketed_plain] at stays
  exact stays

/-- A wrapped text is shown as the original. -/
theorem renderMentions_wrapped
    (plainNames : PlainNames known)
    {shownTo : List Str}
    (plainShown : PlainNames shownTo)
    {text wire : Str}
    (unmarked : Unmarked text.bytes)
    (isWire : wire.bytes = wrapped alphanumeric known text.bytes)
    (selfName : Str)
    {fuel : Nat}
    (enough : wire.len < fuel) :
    ∃ tier,
      renderMentions alphanumeric fuel wire selfName shownTo =
        .value (text.bytes, tier) := by
  obtain ⟨runs, collected, areRuns⟩ :=
    @splitMentions_collect alphanumeric wire selfName shownTo fuel enough
  have isShown := areRuns.shown
  rw [isWire] at isShown
  have isText :=
    @shown_wrappedFrom alphanumeric known shownTo plainNames plainShown
      selfName text.bytes unmarked true true id
  rw [wrappedFrom, ← wrapped, ← isShown] at isText
  rw [renderMentions, collected, value_bind, isText]
  exact ⟨_, rfl⟩

end Wrapped

/-- The bytes that a buffer is filled with. -/
theorem filled_take
    {out written : List UInt8}
    (fits : written.length ≤ out.length) :
    (filled out written).1.take written.length = written := by
  rw [filled, List.take_of_length_le fits, List.take_left]

/-- A result is the wrapped text, at the front of the buffer. -/
theorem wrapMentions_value
    {Failure : Type}
    {alphanumeric : Char → Bool}
    {known : List Str}
    {text : Str}
    {out buffer : List UInt8}
    {result : Option Nat}
    (isResult :
      (wrapMentions alphanumeric text.bytes known out :
        Outcome Failure (List UInt8 × Option Nat)) =
        .value (buffer, result)) :
    (result = none ↔
        out.length < (wrapped alphanumeric known text.bytes).length) ∧
      ∀ w,
        result = some w →
          w = (wrapped alphanumeric known text.bytes).length ∧
            buffer.take w = wrapped alphanumeric known text.bytes := by
  rw [wrapMentions_eq] at isResult
  cases isResult
  constructor
  · split <;> simp_all
  · intro w isLength
    split at isLength
    · cases isLength
    · next fits =>
      cases isLength
      exact ⟨rfl, filled_take (Nat.le_of_not_lt fits)⟩

/--
For plain names and a text without bracketed mentions, the wrapped text is a text;
whatever the self name and the plain names of the receiver are, it is shown as the
original, and wrapping it again gives it back.  There is no result exactly if the
wrapped text is longer than the buffer.  Every text at all is taken apart, without
slicing within a character, into runs that cover it.
-/
theorem mention_round_trip
    (alphanumeric : Char → Bool)
    (known : List Str) :
    (PlainNames known →
      ∀ text : Str, Unmarked text.bytes →
      ∀ out buffer w,
        (wrapMentions alphanumeric text.bytes known out :
          Outcome Unit (List UInt8 × Option Nat)) =
            .value (buffer, some w) →
          ∃ wire : Str,
            wire.bytes = buffer.take w ∧
              (∀ selfName shownTo fuel,
                PlainNames shownTo →
                wire.len < fuel →
                  ∃ tier,
                    renderMentions alphanumeric fuel wire selfName
                        shownTo =
                      .value (text.bytes, tier)) ∧
              ∀ again,
                wire.len ≤ again.length →
                  ∃ rewritten,
                    (wrapMentions alphanumeric wire.bytes known again :
                      Outcome Unit (List UInt8 × Option Nat)) =
                        .value (rewritten, some w) ∧
                      rewritten.take w = wire.bytes) ∧
      (∀ (text : Str) (out : List UInt8),
        ∃ buffer result,
          (wrapMentions alphanumeric text.bytes known out :
            Outcome Unit (List UInt8 × Option Nat)) =
              .value (buffer, result) ∧
            (result = none ↔
              out.length <
                (wrapped alphanumeric known text.bytes).length) ∧
            ∀ w,
              result = some w →
                buffer.take w = wrapped alphanumeric known text.bytes) ∧
      ∀ (text selfName : Str) (fuel : Nat),
        text.len < fuel →
          ∃ runs,
            (splitMentions text selfName known).collect alphanumeric fuel =
                .value runs ∧
              RunsCover 0 runs text.bytes := by
  refine ⟨?_, ?_, ?_⟩
  · intro plainNames text unmarked out buffer w isResult
    obtain ⟨isLength, isFront⟩ := (wrapMentions_value isResult).2 w rfl
    have isText :
        utf8.Text (wrapped alphanumeric known text.bytes) :=
      isText_wrappedFrom text.isText true
    refine ⟨Str.ofText isText, isFront.symm, ?_, ?_⟩
    · intro selfName shownTo fuel plainShown enough
      exact renderMentions_wrapped plainNames plainShown unmarked rfl
        selfName enough
    · intro again enough
      have isAgain :=
        @wrapMentions_eq Unit alphanumeric known (Str.ofText isText) again
      have same :
          wrapped alphanumeric known (Str.ofText isText).bytes =
            wrapped alphanumeric known text.bytes :=
        wrapped_wrapped plainNames text
      have fits :
          (wrapped alphanumeric known text.bytes).length ≤
            again.length :=
        enough
      rw [same, if_neg (Nat.not_lt.mpr fits), ← isLength] at isAgain
      refine ⟨_, isAgain, ?_⟩
      rw [isLength]
      exact filled_take fits
  · intro text out
    have isResult :=
      @wrapMentions_eq Unit alphanumeric known text out
    have value := wrapMentions_value isResult
    exact ⟨_, _, isResult, value.1, fun w isSome => (value.2 w isSome).2⟩
  · intro text selfName fuel enough
    exact splitMentions_covers alphanumeric text selfName known enough

end MeshCadet
