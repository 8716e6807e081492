import MeshCadet.Mentions

namespace MeshCadet

/-!
# The loops over mentions as scans

Neither the loop that puts names in brackets nor the iterator over runs slices
within a character.  The first is a scan of the whole text; the second starts anew
behind each mention.
-/

open Outcome
open SpanScan

section Matching

variable {Failure : Type} (alphanumeric : Char → Bool)

/-- What follows the sign starts with the name, and the name ends there. -/
def nameHere
    (after : List UInt8)
    (name : Str) :
    Bool :=
  !name.bytes.isEmpty && name.bytes.isPrefixOf after &&
    (Str.firstChar (after.drop name.len)).all fun c => !alphanumeric c

/-- The longest name that matches, or the best one so far. -/
def bestName
    (after : List UInt8) :
    Option Str → List Str → Option Str
  | best, [] => best
  | best, name :: known =>
      bestName after
        (if nameHere alphanumeric after name && isLonger best name then
          some name
        else
          best)
        known

variable {alphanumeric}

/-- A name that matches is at the start. -/
theorem split_of_nameHere
    {after : List UInt8}
    {name : Str}
    (here : nameHere alphanumeric after name = true) :
    name.bytes ≠ [] ∧ ∃ rest, after = name.bytes ++ rest := by
  simp only [nameHere, Bool.and_eq_true, Bool.not_eq_true',
    List.isEmpty_eq_false_iff, List.isPrefixOf_iff_prefix] at here
  obtain ⟨⟨nonempty, rest, isSplit⟩, -⟩ := here
  exact ⟨nonempty, rest, isSplit.symm⟩

/-- Whether the name ends there is read without slicing a character. -/
theorem terminatorOk_eq
    {after name : Str}
    (starts : after.startsWith name = true) :
    (terminatorOk alphanumeric after name : Outcome Failure Bool) =
      .value
        ((Str.firstChar (after.bytes.drop name.len)).all fun c =>
          !alphanumeric c) := by
  obtain ⟨rest, isSplit⟩ := List.isPrefixOf_iff_prefix.mp starts
  have isRest : utf8.Text rest :=
    name.isText.rest (isSplit ▸ after.isText)
  rw [terminatorOk, Str.len, Str.sliceFrom_append isSplit.symm isRest,
    value_bind, ← isSplit, List.drop_left]
  rfl

/-- The loop over the names keeps the longest that matches. -/
theorem longestMatchFrom_eq
    (after : Str)
    (best : Option Str)
    (known : List Str) :
    (longestMatchFrom alphanumeric after best known :
      Outcome Failure (Option Str)) =
      .value (bestName alphanumeric after.bytes best known) := by
  induction known generalizing best with
  | nil =>
      rfl
  | cons name known inductionHypothesis =>
      rw [longestMatchFrom, bestName]
      split
      · next skipped =>
        have notHere : nameHere alphanumeric after.bytes name = false := by
          simp only [Bool.or_eq_true, Bool.not_eq_true'] at skipped
          rcases skipped with isEmpty | notStart
          · simp [nameHere, isEmpty]
          · rw [Str.startsWith] at notStart
            simp [nameHere, notStart]
        rw [inductionHypothesis, notHere]
        rfl
      · next tried =>
        simp only [Bool.or_eq_true, Bool.not_eq_true', not_or,
          Bool.not_eq_true, Bool.not_eq_false] at tried
        have same :
            nameHere alphanumeric after.bytes name =
              (Str.firstChar (after.bytes.drop name.len)).all fun c =>
                !alphanumeric c := by
          have starts := tried.2
          rw [Str.startsWith] at starts
          simp [nameHere, tried.1, starts]
        rw [terminatorOk_eq tried.2, value_bind, inductionHypothesis,
          inductionHypothesis, same]
        split <;> rfl

/-- The longest match is read without slicing a character. -/
theorem longestMatch_eq
    (after : Str)
    (known : List Str) :
    (longestMatch alphanumeric after known : Outcome Failure (Option Str)) =
      .value (bestName alphanumeric after.bytes none known) :=
  longestMatchFrom_eq after none known

/-- The best name is the one so far or a known one that matches. -/
theorem bestName_some
    {after : List UInt8}
    {best : Option Str}
    {known : List Str}
    {name : Str}
    (isBest : bestName alphanumeric after best known = some name) :
    best = some name ∨
      name ∈ known ∧ nameHere alphanumeric after name = true := by
  induction known generalizing best with
  | nil =>
      exact .inl isBest
  | cons other known inductionHypothesis =>
      rcases inductionHypothesis isBest with kept | ⟨member, here⟩
      · split at kept
        · next isHere =>
          cases kept
          rw [Bool.and_eq_true] at isHere
          exact .inr ⟨List.mem_cons_self, isHere.1⟩
        · exact .inl kept
      · exact .inr ⟨List.mem_cons_of_mem _ member, here⟩

/-- There is no best name exactly if no known name matches. -/
theorem bestName_eq_none_iff
    {after : List UInt8}
    {best : Option Str}
    {known : List Str} :
    bestName alphanumeric after best known = none ↔
      best = none ∧
        ∀ name ∈ known, nameHere alphanumeric after name = false := by
  induction known generalizing best with
  | nil =>
      simp [bestName]
  | cons name known inductionHypothesis =>
      rw [bestName, inductionHypothesis, List.forall_mem_cons]
      cases best with
      | none =>
          cases here : nameHere alphanumeric after name <;>
            simp [isLonger]
      | some b =>
          split <;> simp

end Matching

/-- Where the text is left behind a byte. -/
theorem isTokenBoundary_behind
    {text : Str}
    {front rest : List UInt8}
    {last : UInt8}
    (isSplit : text.bytes = front ++ last :: rest) :
    isTokenBoundary text (front.length + 1) = isAsciiWhitespace last := by
  have isLast : text.bytes.getD front.length 0 = last := by
    simp [isSplit]
  rw [isTokenBoundary, Nat.add_sub_cancel, isLast]
  rfl

/-- A token starts behind a mark and its units if they end with a space. -/
theorem isTokenBoundary_closes
    {text : Str}
    {front units rest : List UInt8}
    {mark : UInt8}
    (isSplit : text.bytes = front ++ mark :: units ++ rest) :
    isTokenBoundary text (front.length + 1 + units.length) =
      isAsciiWhitespace (units.getLastD mark) := by
  rcases List.eq_nil_or_concat units with rfl | ⟨init, last, rfl⟩
  · rw [List.append_assoc, List.cons_append] at isSplit
    exact isTokenBoundary_behind isSplit
  · have isSplitLast :
        text.bytes = (front ++ mark :: init) ++ last :: rest := by
      simp [isSplit]
    have behind := isTokenBoundary_behind isSplitLast
    rw [List.length_append, List.length_cons] at behind
    rw [List.concat_eq_append, List.getLastD_concat, ← behind,
      List.length_append, List.length_singleton]
    congr 1
    omega

/-- A text behind an at sign or a bracket is a text. -/
theorem around_ascii
    {byte : UInt8}
    (ascii : byte < 0x80)
    {front rest : List UInt8}
    (isText : utf8.Text (front ++ byte :: rest)) :
    utf8.Text front ∧ utf8.Text rest :=
  isText.around (utf8_word_ascii ascii)

/-- A mark is read as the text behind it without slicing within a character. -/
theorem sliceFrom_mark
    {Failure : Type}
    {text : Str}
    {front rest : List UInt8}
    {byte : UInt8}
    {mayStart : Bool}
    (isSplit : text.bytes = front ++ byte :: rest)
    (atMark : (byte == atSign && mayStart) = true) :
    ∃ isRest : utf8.Text rest,
      (text.sliceFrom (front.length + 1) : Outcome Failure Str) =
        .value (Str.ofText isRest) := by
  rw [Bool.and_eq_true, beq_iff_eq] at atMark
  have isText := text.isText
  rw [isSplit, atMark.1] at isText
  have isRest : utf8.Text rest := (around_ascii (by decide) isText).2
  have isSplitBehind : text.bytes = (front ++ [byte]) ++ rest := by
    rw [isSplit, List.append_assoc]
    rfl
  have sliced := @Str.sliceFrom_append Failure _ _ _ isSplitBehind isRest
  rw [List.length_append, List.length_singleton] at sliced
  exact ⟨isRest, sliced⟩

section Wrapping

variable {Failure : Type} (alphanumeric : Char → Bool) (known : List Str)

/-- The scan for known names: an at sign at a token boundary opens a mention. -/
def wrapRules : Rules UInt8 (List UInt8) where
  isMark := fun byte => byte == atSign
  isSpace := isAsciiWhitespace
  found := fun after =>
    (bestName alphanumeric after none known).map fun name =>
      (name.bytes, name.len)

/-- The name that is found at a byte, if the loop looks for one there. -/
def nameAt
    (mayStart : Bool)
    (byte : UInt8)
    (rest : List UInt8) :
    Option Str :=
  if byte == atSign && mayStart then
    bestName alphanumeric rest none known
  else
    none

variable {alphanumeric known}

/-- The scan finds the names that the loop finds. -/
theorem wrapRules_foundAt
    (mayStart : Bool)
    (byte : UInt8)
    (rest : List UInt8) :
    (wrapRules alphanumeric known).foundAt mayStart byte rest =
      (nameAt alphanumeric known mayStart byte rest).map fun name =>
        (name.bytes, name.len) := by
  have isMark :
      (wrapRules alphanumeric known).isMark byte = (byte == atSign) :=
    rfl
  rw [Rules.foundAt, nameAt, isMark]
  split <;> rfl

/-- A name that is found stands behind an at sign. -/
theorem nameAt_some
    {mayStart : Bool}
    {byte : UInt8}
    {rest : List UInt8}
    {name : Str}
    (found : nameAt alphanumeric known mayStart byte rest = some name) :
    byte = atSign ∧ mayStart = true ∧ name ∈ known ∧
      nameHere alphanumeric rest name = true := by
  unfold nameAt at found
  split at found
  · next atMark =>
    rw [Bool.and_eq_true, beq_iff_eq] at atMark
    rcases bestName_some found with isNone | ⟨member, here⟩
    · cases isNone
    · exact ⟨atMark.1, atMark.2, member, here⟩
  · cases found

/-- What the loop looks at a byte for is read without slicing a character. -/
theorem mentionAt_eq
    {text : Str}
    {front rest : List UInt8}
    {byte : UInt8}
    (isSplit : text.bytes = front ++ byte :: rest) :
    (mentionAt alphanumeric text known front.length :
      Outcome Failure (Option Str)) =
      .value
        (nameAt alphanumeric known (isTokenBoundary text front.length) byte
          rest) := by
  have isByte : text.bytes.getD front.length 0 = byte := by
    simp [isSplit]
  rw [mentionAt, isByte, nameAt]
  split
  · next atMark =>
    obtain ⟨isRest, sliced⟩ := sliceFrom_mark isSplit atMark
    rw [sliced, value_bind, longestMatch_eq]
    rfl
  · rfl

/-- What holds at the start and is kept by a byte and by a mention holds of all
pieces of the scan when the loop ends, and it ends. -/
theorem mentionLoop_rule
    {State : Type}
    {onMention : State → Nat → Str → Outcome Failure State}
    {text : Str}
    (Holds : List (Piece UInt8 (List UInt8)) → State → Prop)
    (plain :
      ∀ done byte state,
        Holds done state → Holds (done ++ [.plain byte]) state)
    (span :
      ∀ done (name : Str) rest state,
        text.bytes =
            done.flatMap Piece.units ++ (atSign :: name.bytes) ++ rest →
        Holds done state →
          ∃ next,
            onMention state (done.flatMap Piece.units).length name =
                .value next ∧
              Holds (done ++ [.span atSign name.bytes name.bytes]) next)
    {done : List (Piece UInt8 (List UInt8))}
    {rest : List UInt8}
    (isSplit : text.bytes = done.flatMap Piece.units ++ rest)
    {state : State}
    (holds : Holds done state) :
    ∃ final,
      mentionLoop alphanumeric onMention text known
          (done.flatMap Piece.units).length state =
        .value final ∧
      Holds
        (done ++
          (wrapRules alphanumeric known).cut false
            (isTokenBoundary text (done.flatMap Piece.units).length) rest)
        final := by
  induction isLength : rest.length using Nat.strongRecOn
      generalizing done rest state with
  | _ length inductionHypothesis =>
      subst isLength
      cases rest with
      | nil =>
          rw [mentionLoop, if_neg (by simp [Str.len, isSplit])]
          exact ⟨state, rfl, by simpa using holds⟩
      | cons byte rest =>
          have inside :
              (done.flatMap Piece.units).length < text.len := by
            simp [Str.len, isSplit]
          rw [mentionLoop, if_pos inside, mentionAt_eq isSplit, value_bind]
          cases found :
              nameAt alphanumeric known
                (isTokenBoundary text (done.flatMap Piece.units).length)
                byte rest with
          | none =>
              have notFound :
                  (wrapRules alphanumeric known).foundAt
                      (isTokenBoundary text
                        (done.flatMap Piece.units).length)
                      byte rest =
                    none := by
                rw [wrapRules_foundAt, found]
                rfl
              have isSplitBehind :
                  text.bytes =
                    (done ++ [Piece.plain byte]).flatMap Piece.units ++
                      rest := by
                simp [isSplit, Piece.units]
              obtain ⟨final, ends, holdsFinal⟩ :=
                inductionHypothesis rest.length (by simp) isSplitBehind
                  (plain _ byte _ holds) rfl
              have behind :
                  ((done ++ [Piece.plain byte]).flatMap Piece.units).length =
                    (done.flatMap Piece.units).length + 1 := by
                simp [Piece.units]
              rw [behind] at ends holdsFinal
              rw [isTokenBoundary_behind isSplit] at holdsFinal
              rw [Rules.cut_plain notFound]
              refine ⟨final, ends, ?_⟩
              rw [List.append_assoc] at holdsFinal
              exact holdsFinal
          | some name =>
              obtain ⟨rfl, -, -, here⟩ := nameAt_some found
              obtain ⟨-, rest, rfl⟩ := split_of_nameHere here
              have isFound :
                  (wrapRules alphanumeric known).foundAt
                      (isTokenBoundary text
                        (done.flatMap Piece.units).length)
                      atSign (name.bytes ++ rest) =
                    some (name.bytes, name.len) := by
                rw [wrapRules_foundAt, found]
                rfl
              obtain ⟨next, isNext, holdsNext⟩ :=
                span done name rest state (by simpa using isSplit) holds
              have isSplitBehind :
                  text.bytes =
                    (done ++
                      [Piece.span atSign name.bytes name.bytes]).flatMap
                        Piece.units ++
                      rest := by
                simp [isSplit, Piece.units]
              obtain ⟨final, ends, holdsFinal⟩ :=
                inductionHypothesis rest.length
                  (by
                    simp only [List.length_append, List.length_cons]
                    omega)
                  isSplitBehind holdsNext rfl
              have behind :
                  ((done ++
                    [Piece.span atSign name.bytes name.bytes]).flatMap
                      Piece.units).length =
                    (done.flatMap Piece.units).length + 1 + name.len := by
                simp [Piece.units, Str.len]
                omega
              have closes :
                  isTokenBoundary text
                      ((done.flatMap Piece.units).length + 1 + name.len) =
                    (wrapRules alphanumeric known).closes atSign
                      name.bytes :=
                isTokenBoundary_closes (by simpa using isSplit)
              rw [behind] at ends holdsFinal
              refine ⟨final, ?_, ?_⟩
              · simp only [isNext, value_bind]
                exact ends
              · rw [Rules.cut_span isFound, Bool.false_or, Str.len,
                  List.take_left, List.drop_left, ← closes]
                rw [List.append_assoc] at holdsFinal
                exact holdsFinal

/-- The loop over a whole text. -/
theorem mentionLoop_whole
    {State : Type}
    {onMention : State → Nat → Str → Outcome Failure State}
    {text : Str}
    (Holds : List (Piece UInt8 (List UInt8)) → State → Prop)
    (plain :
      ∀ done byte state,
        Holds done state → Holds (done ++ [.plain byte]) state)
    (span :
      ∀ done (name : Str) rest state,
        text.bytes =
            done.flatMap Piece.units ++ (atSign :: name.bytes) ++ rest →
        Holds done state →
          ∃ next,
            onMention state (done.flatMap Piece.units).length name =
                .value next ∧
              Holds (done ++ [.span atSign name.bytes name.bytes]) next)
    {state : State}
    (holds : Holds [] state) :
    ∃ final,
      mentionLoop alphanumeric onMention text known 0 state =
        .value final ∧
      Holds
        ((wrapRules alphanumeric known).cut false true text.bytes) final :=
  mentionLoop_rule Holds plain span (List.nil_append _).symm holds

/-- The sites of the loop are those of the scan. -/
theorem wrapSites_eq
    (text : Str) :
    (wrapSites alphanumeric text known :
      Outcome Failure (List (Nat × List UInt8))) =
      .value
        (sites 0
          ((wrapRules alphanumeric known).cut false true text.bytes)) := by
  obtain ⟨final, ends, isFinal⟩ :=
    @mentionLoop_whole Failure alphanumeric known _
      (fun found i name => pure (found ++ [(i, name.bytes)])) text
      (fun done found => found = sites 0 done)
      (by
        rintro done byte found rfl
        rw [sites_append]
        simp [sites])
      (by
        rintro done name rest found - rfl
        refine ⟨_, rfl, ?_⟩
        rw [sites_append, Nat.zero_add]
        rfl)
      [] rfl
  rw [wrapSites, ends, isFinal]

/-- What a piece becomes on the way. -/
def bracketed : Piece UInt8 (List UInt8) → List UInt8
  | .plain byte => [byte]
  | .span _ name _ => [0x40, 0x5B] ++ name ++ [0x5D]

/-- The text with its mentions in brackets. -/
def wrapped
    (alphanumeric : Char → Bool)
    (known : List Str)
    (bytes : List UInt8) :
    List UInt8 :=
  ((wrapRules alphanumeric known).cut false true bytes).flatMap bracketed

/-- What the counting loop counts is the length of the wrapped text. -/
theorem Str.requiredLen_eq
    (text : Str) :
    (Str.requiredLen alphanumeric text known : Outcome Failure Nat) =
      .value (wrapped alphanumeric known text.bytes).length := by
  obtain ⟨⟨cursor, needed⟩, ends, inside, counted⟩ :=
    @mentionLoop_whole Failure alphanumeric known _ countMention text
      (fun done counted =>
        counted.1 ≤ (done.flatMap Piece.units).length ∧
          counted.2 + ((done.flatMap Piece.units).length - counted.1) =
            (done.flatMap bracketed).length)
      (by
        rintro done byte ⟨cursor, needed⟩ ⟨inside, counted⟩
        simp only [List.flatMap_append, List.length_append] at *
        simp only [Piece.units, bracketed, List.flatMap_cons,
          List.flatMap_nil, List.append_nil, List.length_singleton]
        omega)
      (by
        rintro done name rest ⟨cursor, needed⟩ - ⟨inside, counted⟩
        refine ⟨_, rfl, ?_⟩
        simp only [List.flatMap_append, List.length_append] at *
        simp only [Piece.units, bracketed, List.flatMap_cons,
          List.flatMap_nil, List.append_nil, List.length_cons,
          List.length_append, Str.len, List.length_nil]
        omega)
      (0, 0) ⟨Nat.le_refl _, rfl⟩
  rw [Rules.cut_units] at counted
  rw [Str.requiredLen, ends, value_bind, wrapped, ← counted]
  rfl

/-- A buffer that as much as fits of what was written was copied to. -/
def filled
    (out written : List UInt8) :
    List UInt8 × Nat :=
  (written.take out.length ++ out.drop (written.take out.length).length,
    (written.take out.length).length)

/-- Appending to a filled buffer writes more to it. -/
theorem appendClamped_filled
    {out written buffer : List UInt8}
    {w : Nat}
    (isFilled : (buffer, w) = filled out written)
    (src : List UInt8) :
    ∃ next,
      (appendClamped buffer w src : Outcome Failure (List UInt8 × Nat)) =
          .value next ∧
        next = filled out (written ++ src) := by
  cases isFilled
  exact ⟨_, appendClamped_eq written src out, rfl⟩

/-- The buffer holds what the pieces become, up to the cursor. -/
def WrapState.Holds
    (out : List UInt8)
    (done : List (Piece UInt8 (List UInt8)))
    (state : WrapState) :
    Prop :=
  ∃ written,
    (state.out, state.w) = filled out written ∧
      state.cursor ≤ (done.flatMap Piece.units).length ∧
      written ++ (done.flatMap Piece.units).drop state.cursor =
        done.flatMap bracketed

/-- A byte outside mentions is left behind the cursor. -/
theorem WrapState.holds_plain
    {out : List UInt8}
    {done : List (Piece UInt8 (List UInt8))}
    {state : WrapState}
    (holds : state.Holds out done)
    (byte : UInt8) :
    state.Holds out (done ++ [.plain byte]) := by
  obtain ⟨written, isFilled, inside, same⟩ := holds
  refine ⟨written, isFilled, ?_, ?_⟩
  · rw [List.flatMap_append, List.length_append]
    exact Nat.le_add_right_of_le inside
  · rw [List.flatMap_append, List.flatMap_append,
      List.drop_append_of_le_length inside, ← List.append_assoc, same]
    rfl

/-- A mention is copied with the text in front of it. -/
theorem WrapState.holds_span
    {out : List UInt8}
    {done : List (Piece UInt8 (List UInt8))}
    {state : WrapState}
    (holds : state.Holds out done)
    {text name : Str}
    {rest : List UInt8}
    (isSplit :
      text.bytes =
        done.flatMap Piece.units ++ (atSign :: name.bytes) ++ rest) :
    ∃ next,
      (wrapMention text state (done.flatMap Piece.units).length name :
          Outcome Failure WrapState) =
        .value next ∧
      next.Holds out (done ++ [.span atSign name.bytes name.bytes]) := by
  obtain ⟨written, isFilled, inside, same⟩ := holds
  have sliced :
      (slice text.bytes state.cursor (done.flatMap Piece.units).length :
        Outcome Failure (List UInt8)) =
        .value ((done.flatMap Piece.units).drop state.cursor) := by
    have bound :
        (done.flatMap Piece.units).length ≤ text.bytes.length := by
      rw [isSplit, List.append_assoc, List.length_append]
      exact Nat.le_add_right _ _
    rw [slice, if_pos ⟨inside, bound⟩, isSplit, List.append_assoc,
      List.drop_append_of_le_length inside, ← List.length_drop,
      List.take_left]
  obtain ⟨⟨out₁, w₁⟩, first, isFilled₁⟩ :=
    @appendClamped_filled Failure _ _ _ _ isFilled
      ((done.flatMap Piece.units).drop state.cursor)
  obtain ⟨⟨out₂, w₂⟩, second, isFilled₂⟩ :=
    @appendClamped_filled Failure _ _ _ _ isFilled₁ [0x40, 0x5B]
  obtain ⟨⟨out₃, w₃⟩, third, isFilled₃⟩ :=
    @appendClamped_filled Failure _ _ _ _ isFilled₂ name.bytes
  obtain ⟨⟨out₄, w₄⟩, fourth, isFilled₄⟩ :=
    @appendClamped_filled Failure _ _ _ _ isFilled₃ [0x5D]
  simp only [wrapMention, sliced, value_bind, first, second, third, fourth]
  refine ⟨_, rfl, _, isFilled₄, ?_, ?_⟩
  · simp only [List.flatMap_append, List.length_append, List.flatMap_cons,
      List.flatMap_nil, List.append_nil, Piece.units, List.length_cons,
      Str.len]
    omega
  · have atEnd :
        ((done ++ [Piece.span atSign name.bytes name.bytes]).flatMap
            Piece.units).drop
          ((done.flatMap Piece.units).length + 1 + name.len) = [] := by
      apply List.drop_of_length_le
      simp only [List.flatMap_append, List.length_append,
        List.flatMap_cons, List.flatMap_nil, List.append_nil, Piece.units,
        List.length_cons, Str.len]
      omega
    rw [atEnd, same, List.append_nil, List.flatMap_append]
    simp [bracketed]

/-- A text is wrapped as far as the buffer goes, and the result is its length if
the buffer holds it. -/
theorem wrapMentions_eq
    (text : Str)
    (out : List UInt8) :
    (wrapMentions alphanumeric text.bytes known out :
      Outcome Failure (List UInt8 × Option Nat)) =
      .value
        ((filled out (wrapped alphanumeric known text.bytes)).1,
          if out.length <
              (wrapped alphanumeric known text.bytes).length then
            none
          else
            some (wrapped alphanumeric known text.bytes).length) := by
  obtain ⟨state, ends, written, isFilled, inside, same⟩ :=
    @mentionLoop_whole Failure alphanumeric known _ (wrapMention text) text
      (fun done state => state.Holds out done)
      (fun done byte state holds => WrapState.holds_plain holds byte)
      (fun done name rest state isSplit holds =>
        WrapState.holds_span holds isSplit)
      { cursor := 0
        out := out
        w := 0 }
      ⟨[], by simp [filled], Nat.le_refl _, rfl⟩
  rw [Rules.cut_units] at inside same
  have sliced :
      (slice text.bytes state.cursor text.len :
        Outcome Failure (List UInt8)) =
        .value (text.bytes.drop state.cursor) := by
    rw [slice, if_pos ⟨inside, Nat.le_refl _⟩, Str.len,
      ← List.length_drop, List.take_length]
  obtain ⟨⟨final, w⟩, last, isLast⟩ :=
    @appendClamped_filled Failure _ _ _ _ isFilled
      (text.bytes.drop state.cursor)
  rw [same] at isLast
  rw [wrapMentions, dif_pos text.valid]
  simp only [ends, value_bind, sliced, last, Str.requiredLen_eq]
  have isFinal :
      (final, w) = filled out (wrapped alphanumeric known text.bytes) :=
    isLast
  have isCount :
      w =
        min out.length (wrapped alphanumeric known text.bytes).length := by
    rw [← List.length_take]
    exact congrArg Prod.snd isFinal
  rw [← isFinal, isCount]
  change
    Outcome.value
        (final,
          if min out.length (wrapped alphanumeric known text.bytes).length <
              (wrapped alphanumeric known text.bytes).length then
            none
          else
            some
              (min out.length
                (wrapped alphanumeric known text.bytes).length)) =
      _
  split
  · next short =>
    rw [if_pos (by omega)]
  · next long =>
    rw [if_neg (by omega), Nat.min_eq_right (by omega)]

end Wrapping

end MeshCadet
