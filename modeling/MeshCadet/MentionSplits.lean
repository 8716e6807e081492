import MeshCadet.MentionScan

namespace MeshCadet

/-!
# Taking a message apart

Every text is taken apart into runs that cover it, whatever it holds and without
slicing within a character: the runs are what a scan finds that starts anew behind
each mention.
-/

open Outcome
open SpanScan

/-- The tier of a name in brackets. -/
def markedTier
    (selfName : Str)
    (name : List UInt8) :
    MentionTier :=
  if !name.isEmpty && name == selfName.bytes then .selfMention else .other

/-- A name has the tier of its bytes. -/
theorem markedTier_bytes
    (selfName name : Str) :
    (if !name.bytes.isEmpty && name == selfName then
      MentionTier.selfMention
    else
      .other) =
      markedTier selfName name.bytes := by
  have same : (name == selfName) = (name.bytes == selfName.bytes) := by
    rw [Bool.eq_iff_iff, beq_iff_eq, beq_iff_eq]
    exact ⟨congrArg Str.bytes, Str.ext⟩
  rw [same]
  rfl

/-- A byte that is found is where the bytes in front of it end. -/
theorem split_of_findIdx?
    {bytes : List UInt8}
    {byte : UInt8}
    {position : Nat}
    (found :
      (bytes.findIdx? fun other => other == byte) = some position) :
    bytes = bytes.take position ++ byte :: bytes.drop (position + 1) ∧
      (bytes.take position).length = position := by
  obtain ⟨inside, isByte, -⟩ :=
    List.findIdx?_eq_some_iff_getElem.mp found
  rw [beq_iff_eq] at isByte
  constructor
  · rw [← isByte, ← List.drop_eq_getElem_cons inside,
      List.take_append_drop]
  · rw [List.length_take]
    omega

section Splitting

variable {Failure : Type} (alphanumeric : Char → Bool)
variable (selfName : Str) (known : List Str)

/-- What stands behind a sign, and how many bytes it takes. -/
def splitFound
    (after : List UInt8) :
    Option ((MentionTier × List UInt8) × Nat) :=
  if openBracket.bytes.isPrefixOf after then
    ((after.drop 1).findIdx? fun byte => byte == closeBracket).map
      fun closeRel =>
        ((markedTier selfName ((after.drop 1).take closeRel),
          (after.drop 1).take closeRel), closeRel + 2)
  else
    (bestName alphanumeric after none known).map fun name =>
      ((.other, name.bytes), name.len)

/-- The scan for names in brackets and known names. -/
def splitRules : Rules UInt8 (MentionTier × List UInt8) where
  isMark := fun byte => byte == atSign
  isSpace := isAsciiWhitespace
  found := splitFound alphanumeric selfName known

variable {alphanumeric selfName known}

/-- What is found is a name in brackets or a name. -/
theorem splitFound_some
    {after : List UInt8}
    {tier : MentionTier}
    {name : List UInt8}
    {width : Nat}
    (found :
      splitFound alphanumeric selfName known after =
        some ((tier, name), width)) :
    tier ≠ .plain ∧
      ∃ rest,
        (after = name ++ rest ∧ width = name.length ∧
            ∃ matched ∈ known, matched.bytes = name) ∨
          after = 0x5B :: (name ++ 0x5D :: rest) ∧
            width = name.length + 2 := by
  unfold splitFound at found
  split at found
  · next opened =>
    obtain ⟨stripped, rfl⟩ := List.isPrefixOf_iff_prefix.mp opened
    have isStripped : (openBracket.bytes ++ stripped).drop 1 = stripped :=
      rfl
    rw [isStripped] at found
    obtain ⟨closeRel, closed, isFound⟩ := Option.map_eq_some_iff.mp found
    cases isFound
    refine ⟨?_, stripped.drop (closeRel + 1), .inr ⟨?_, ?_⟩⟩
    · unfold markedTier
      split <;> simp
    · exact congrArg (List.cons 0x5B) (split_of_findIdx? closed).1
    · rw [(split_of_findIdx? closed).2]
  · obtain ⟨matched, isBest, isFound⟩ := Option.map_eq_some_iff.mp found
    cases isFound
    rcases bestName_some isBest with isNone | ⟨member, here⟩
    · cases isNone
    · obtain ⟨-, rest, isSplit⟩ := split_of_nameHere here
      exact ⟨by simp, rest, .inl ⟨isSplit, rfl, matched, member, rfl⟩⟩

/-- What is found leaves text behind it, and is text. -/
theorem isText_of_splitFound
    {after : List UInt8}
    {tier : MentionTier}
    {name : List UInt8}
    {width : Nat}
    (isText : utf8.Text after)
    (found :
      splitFound alphanumeric selfName known after =
        some ((tier, name), width)) :
    utf8.Text name ∧
      utf8.Text (after.drop width) ∧
      (after.take width).length = width := by
  obtain ⟨-, rest, ⟨rfl, rfl, matched, -, rfl⟩ | ⟨rfl, rfl⟩⟩ :=
    splitFound_some found
  · rw [List.drop_left, List.take_left]
    exact ⟨matched.isText, matched.isText.rest isText, rfl⟩
  · have isName : utf8.Text (name ++ 0x5D :: rest) :=
      (@around_ascii 0x5B (by decide) [] _ isText).2
    obtain ⟨isFront, isRest⟩ := around_ascii (by decide) isName
    refine ⟨isFront, ?_, ?_⟩
    · simpa using isRest
    · simp

/-- A found mention stands at a position. -/
inductive FoundAt
    (position : Nat) :
    Option FoundMention →
      Option ((MentionTier × List UInt8) × Nat) → Prop where
  | none : FoundAt position none none
  | some {found : FoundMention} {width : Nat} :
      found.start = position →
      found.wireEnd = position + 1 + width →
      FoundAt position (some found)
        (some ((found.tier, found.name.bytes), width))

/-- What stands behind a sign is read without slicing within a character. -/
theorem foundBehind_eq
    (after : Str)
    (position : Nat) :
    ∃ here,
      (foundBehind alphanumeric after selfName known position :
          Outcome Failure (Option FoundMention)) =
        .value here ∧
      FoundAt position here
        (splitFound alphanumeric selfName known after.bytes) := by
  unfold foundBehind splitFound Str.stripPrefix
  by_cases opened : after.startsWith openBracket = true
  · rw [dif_pos opened, if_pos (by exact opened)]
    have isSame :
        (Str.ofText (Str.isText_drop opened)).bytes =
          after.bytes.drop 1 :=
      rfl
    rw [← isSame]
    generalize Str.ofText (Str.isText_drop opened) = stripped
    cases closed : stripped.find closeBracket with
    | none =>
        have notClosed :
            (stripped.bytes.findIdx? fun byte => byte == closeBracket) =
              none :=
          closed
        simp only [closed, notClosed, Option.map_none]
        exact ⟨none, rfl, .none⟩
    | some closeRel =>
        have isClosed :
            (stripped.bytes.findIdx? fun byte => byte == closeBracket) =
              some closeRel :=
          closed
        obtain ⟨isSplit, isLength⟩ := split_of_findIdx? isClosed
        have isText := stripped.isText
        rw [isSplit] at isText
        have isName := (around_ascii (by decide) isText).1
        have sliced := @Str.sliceTo_append Failure _ _ _ isSplit isName
        rw [isLength] at sliced
        simp only [closed, sliced, value_bind, isClosed, Option.map_some,
          markedTier_bytes]
        have sameEnd :
            position + 1 + 1 + closeRel + 1 =
              position + 1 + (closeRel + 2) := by
          omega
        exact ⟨_, rfl, .some rfl sameEnd⟩
  · rw [dif_neg opened, if_neg (by exact opened)]
    simp only [longestMatch_eq, value_bind]
    cases isBest : bestName alphanumeric after.bytes none known with
    | none =>
        exact ⟨none, rfl, .none⟩
    | some matched =>
        rcases bestName_some isBest with isNone | ⟨-, here⟩
        · cases isNone
        · obtain ⟨-, rest, isSplit⟩ := split_of_nameHere here
          have sliced :=
            @Str.sliceTo_append Failure _ _ _ isSplit matched.isText
          have sameName : Str.ofText matched.isText = matched :=
            Str.ext rfl
          simp only [Str.len, sliced, value_bind, sameName,
            Option.map_some]
          exact ⟨_, rfl, .some rfl rfl⟩

/-- What stands at a byte is read without slicing within a character. -/
theorem foundMentionAt_eq
    {text : Str}
    {front rest : List UInt8}
    {byte : UInt8}
    (isSplit : text.bytes = front ++ byte :: rest) :
    ∃ here,
      (foundMentionAt alphanumeric text selfName known front.length :
          Outcome Failure (Option FoundMention)) =
        .value here ∧
      FoundAt front.length here
        ((splitRules alphanumeric selfName known).foundAt
          (isTokenBoundary text front.length) byte rest) := by
  have isByte : text.bytes.getD front.length 0 = byte := by
    simp [isSplit]
  have isMark :
      (splitRules alphanumeric selfName known).isMark byte =
        (byte == atSign) :=
    rfl
  rw [foundMentionAt, isByte, Rules.foundAt, isMark]
  split
  · next atMark =>
    obtain ⟨isRest, sliced⟩ := sliceFrom_mark isSplit atMark
    rw [sliced, value_bind]
    exact foundBehind_eq (Str.ofText isRest) front.length
  · exact ⟨none, rfl, .none⟩

/-- What is found next: nothing but plain bytes, or a mention behind some. -/
inductive NextIs
    (rules : Rules UInt8 (MentionTier × List UInt8))
    (position : Nat)
    (mayStart : Bool)
    (rest : List UInt8) :
    Option FoundMention → Prop where
  | nothing :
      rules.cut true mayStart rest = rest.map Piece.plain →
      NextIs rules position mayStart rest none
  | mention {found : FoundMention} {plain tail : List UInt8} {width : Nat} :
      rest = plain ++ atSign :: tail →
      found.start = position + plain.length →
      found.wireEnd = found.start + 1 + width →
      rules.foundAt true atSign tail =
        some ((found.tier, found.name.bytes), width) →
      rules.cut true mayStart rest =
        plain.map Piece.plain ++ rules.cut true true (atSign :: tail) →
      NextIs rules position mayStart rest (some found)

/-- A byte outside mentions in front. -/
theorem NextIs.cons
    {rules : Rules UInt8 (MentionTier × List UInt8)}
    {position : Nat}
    {mayStart : Bool}
    {byte : UInt8}
    {rest : List UInt8}
    {next : Option FoundMention}
    (notHere : rules.foundAt mayStart byte rest = none)
    (isNext : NextIs rules (position + 1) (rules.isSpace byte) rest next) :
    NextIs rules position mayStart (byte :: rest) next := by
  cases isNext with
  | nothing allPlain =>
      refine .nothing ?_
      rw [Rules.cut_plain notHere, allPlain]
      rfl
  | @mention found plain tail width isSplit isStart isEnd isFound isCut =>
      refine @mention _ _ _ _ _ (byte :: plain) _ _ (by rw [isSplit]; rfl)
        ?_ isEnd isFound ?_
      · rw [isStart, List.length_cons]
        omega
      · rw [Rules.cut_plain notHere, isCut]
        rfl

/-- The search for a mention finds what the scan finds next. -/
theorem findNextFrom_eq
    {text : Str}
    {front rest : List UInt8}
    (isSplit : text.bytes = front ++ rest) :
    ∃ next,
      (findNextFrom alphanumeric text selfName known front.length :
          Outcome Failure (Option FoundMention)) =
        .value next ∧
      NextIs (splitRules alphanumeric selfName known) front.length
        (isTokenBoundary text front.length) rest next := by
  induction rest generalizing front with
  | nil =>
      rw [findNextFrom, if_neg (by simp [Str.len, isSplit])]
      exact ⟨none, rfl, .nothing (by simp)⟩
  | cons byte rest inductionHypothesis =>
      have inside : front.length < text.len := by
        simp [Str.len, isSplit]
      obtain ⟨here, isHere, foundHere⟩ :=
        @foundMentionAt_eq Failure alphanumeric selfName known _ _ _ _
          isSplit
      rw [findNextFrom, if_pos inside, isHere, value_bind]
      generalize isFound :
          (splitRules alphanumeric selfName known).foundAt
            (isTokenBoundary text front.length) byte rest = found
        at foundHere
      cases foundHere with
      | none =>
          have isSplitBehind : text.bytes = (front ++ [byte]) ++ rest := by
            rw [isSplit, List.append_assoc]
            rfl
          have behind := inductionHypothesis isSplitBehind
          rw [List.length_append, List.length_singleton,
            isTokenBoundary_behind isSplit] at behind
          obtain ⟨next, isNext, nextIs⟩ := behind
          exact ⟨next, isNext, nextIs.cons isFound⟩
      | @some found width isStart isEnd =>
          obtain ⟨isMark, mayStart, -⟩ := Rules.foundAt_some isFound
          have isAt : byte = atSign := beq_iff_eq.mp isMark
          subst isAt
          rw [mayStart] at isFound ⊢
          refine ⟨some found, rfl, ?_⟩
          exact .mention (List.nil_append _).symm isStart
            (by rw [isEnd, isStart]) isFound rfl

/-- Runs from a position on are the pieces of a scan: bytes outside mentions are
joined, and a mention takes its name, with or without brackets. -/
inductive RunsOf :
    Nat → List (Nat × MentionRun) →
      List (Piece UInt8 (MentionTier × List UInt8)) → Prop where
  | nil {position : Nat} : RunsOf position [] []
  | plain
      {position : Nat} {run : MentionRun}
      {runs : List (Nat × MentionRun)}
      {pieces : List (Piece UInt8 (MentionTier × List UInt8))} :
      run.tier = .plain →
      RunsOf (position + run.text.len) runs pieces →
      RunsOf position ((position, run) :: runs)
        (run.text.bytes.map Piece.plain ++ pieces)
  | mention
      {position : Nat} {run : MentionRun} {units : List UInt8}
      {runs : List (Nat × MentionRun)}
      {pieces : List (Piece UInt8 (MentionTier × List UInt8))} :
      run.tier ≠ .plain →
      (units = run.text.bytes ∨
        units = 0x5B :: (run.text.bytes ++ [0x5D])) →
      RunsOf (position + 1 + units.length) runs pieces →
      RunsOf position ((position, run) :: runs)
        (.span atSign (run.tier, run.text.bytes) units :: pieces)

/-- A mention found at a sign is a run in front of the runs behind it. -/
theorem RunsOf.found
    {mention : MentionRun}
    {front tail : List UInt8}
    {width : Nat}
    {following : List (Nat × MentionRun)}
    (isFound :
      (splitRules alphanumeric selfName known).foundAt true atSign tail =
        some ((mention.tier, mention.text.bytes), width))
    (areRuns :
      RunsOf (front ++ atSign :: tail.take width).length following
        ((splitRules alphanumeric selfName known).cut true true
          (tail.drop width))) :
    RunsOf front.length ((front.length, mention) :: following)
      ((splitRules alphanumeric selfName known).cut true true
        (atSign :: tail)) := by
  obtain ⟨-, -, isSpan⟩ := Rules.foundAt_some isFound
  obtain ⟨isMention, behind, isShape⟩ := splitFound_some isSpan
  rw [Rules.cut_span isFound, Bool.true_or]
  refine .mention isMention ?_ ?_
  · rcases isShape with ⟨isBare, isWide, -⟩ | ⟨isMarked, isWide⟩
    · left
      rw [isBare, isWide, List.take_left]
    · right
      rw [isMarked, isWide, List.take_succ_cons,
        List.take_length_add_append]
      rfl
  · have behindMention :
        (front ++ atSign :: tail.take width).length =
          front.length + 1 + (tail.take width).length := by
      rw [List.length_append, List.length_cons]
      omega
    rw [behindMention] at areRuns
    exact areRuns

/-- A run of the rest of a text leaves less of it to be taken apart. -/
theorem next_eq
    {runs : MentionRuns}
    {front rest : List UInt8}
    (isSplit : runs.text.bytes = front ++ rest)
    (isPos : runs.pos = front.length)
    (isText : utf8.Text rest)
    (more : rest ≠ []) :
    ∃ run later front' rest',
      (runs.next alphanumeric :
          Outcome Failure (Option (MentionRun × MentionRuns))) =
        .value (some (run, later)) ∧
      later = { runs with pos := front'.length } ∧
      runs.text.bytes = front' ++ rest' ∧
      utf8.Text rest' ∧
      rest'.length < rest.length ∧
      ∀ following,
        RunsOf front'.length following
            ((splitRules alphanumeric runs.selfName runs.known).cut true true
              rest') →
          RunsOf front.length ((front.length, run) :: following)
            ((splitRules alphanumeric runs.selfName runs.known).cut true true
              rest) := by
  have inside : ¬runs.text.len ≤ runs.pos := by
    have positive := List.length_pos_iff.mpr more
    rw [Str.len, isSplit, isPos, List.length_append]
    omega
  have sliced := @Str.sliceFrom_append Failure _ _ _ isSplit isText
  rw [← isPos] at sliced
  obtain ⟨next, isNext, nextIs⟩ :=
    @findNextFrom_eq Failure alphanumeric runs.selfName runs.known
      (Str.ofText isText) [] rest rfl
  have found :
      (findNextMention alphanumeric (Str.ofText isText) runs.selfName
          runs.known : Outcome Failure (Option FoundMention)) =
        .value next :=
    isNext
  have started :
      isTokenBoundary (Str.ofText isText) ([] : List UInt8).length =
        true :=
    rfl
  rw [started] at nextIs
  rw [MentionRuns.next, if_neg inside, sliced, value_bind, found,
    value_bind]
  cases nextIs with
  | nothing allPlain =>
      refine ⟨_, _, runs.text.bytes, [], rfl, rfl,
        (List.append_nil _).symm, .nil, List.length_pos_iff.mpr more, ?_⟩
      intro following areRuns
      rw [isSplit, List.length_append] at areRuns
      rw [allPlain, ← List.append_nil (rest.map Piece.plain)]
      rw [Rules.cut_nil] at areRuns
      exact .plain rfl areRuns
  | @mention mention plain tail width isRest isStart isEnd isFound isCut =>
      rw [List.length_nil, Nat.zero_add] at isStart
      obtain ⟨isPlain, isTail⟩ :=
        around_ascii (by decide) (isRest ▸ isText)
      obtain ⟨-, -, isSpan⟩ := Rules.foundAt_some isFound
      obtain ⟨isName, isBehind, isWidth⟩ :=
        isText_of_splitFound isTail isSpan
      by_cases atStart : mention.start = 0
      · have isNone : plain = [] := by
          rw [atStart] at isStart
          exact List.eq_nil_of_length_eq_zero isStart.symm
        subst isNone
        rw [List.nil_append] at isRest
        have isSpanned :
            (front ++ atSign :: tail.take width).length =
              runs.pos + mention.wireEnd := by
          rw [List.length_append, List.length_cons, isWidth, isPos, isEnd,
            atStart]
          omega
        refine ⟨{ text := mention.name, tier := mention.tier },
          { runs with pos := runs.pos + mention.wireEnd },
          front ++ atSign :: tail.take width, tail.drop width, ?_, ?_, ?_,
          isBehind, ?_, ?_⟩
        · simp only [atStart, if_true]
          rfl
        · rw [isSpanned]
        · rw [isSplit, isRest, List.append_assoc, List.cons_append,
            List.take_append_drop]
        · rw [isRest, List.length_cons, List.length_drop]
          omega
        · intro following areRuns
          rw [isRest]
          exact .found isFound areRuns
      · have slicedPlain :=
          @Str.sliceTo_append Failure (Str.ofText isText) _ _ isRest
            isPlain
        rw [← isStart] at slicedPlain
        refine ⟨{ text := Str.ofText isPlain, tier := .plain },
          { runs with pos := runs.pos + mention.start },
          front ++ plain, atSign :: tail, ?_, ?_, ?_, ?_, ?_, ?_⟩
        · simp only [atStart, if_false, slicedPlain, value_bind]
          rfl
        · rw [List.length_append, isPos, isStart]
        · rw [isSplit, isRest, List.append_assoc]
        · exact .cons (utf8_word_ascii (by decide)) isTail
        · rw [isRest, List.length_append]
          omega
        · intro following areRuns
          rw [isCut]
          rw [List.length_append] at areRuns
          exact .plain rfl areRuns

/-- A text is taken apart in as many steps as it has bytes left, and one more. -/
theorem collect_eq
    {runs : MentionRuns}
    {front rest : List UInt8}
    (isSplit : runs.text.bytes = front ++ rest)
    (isPos : runs.pos = front.length)
    (isText : utf8.Text rest)
    {fuel : Nat}
    (enough : rest.length < fuel) :
    ∃ following,
      runs.collect alphanumeric fuel = .value following ∧
      RunsOf front.length following
        ((splitRules alphanumeric runs.selfName runs.known).cut true true
          rest) := by
  induction fuel generalizing runs front rest with
  | zero =>
      cases enough
  | succ fuel inductionHypothesis =>
      by_cases more : rest = []
      · subst more
        have atEnd : runs.text.len ≤ runs.pos := by
          rw [Str.len, isSplit, isPos, List.append_nil]
        refine ⟨[], ?_, ?_⟩
        · rw [MentionRuns.collect, MentionRuns.next, if_pos atEnd]
          rfl
        · rw [Rules.cut_nil]
          exact .nil
      · obtain ⟨run, later, front', rest', isNext, isLater, isSplit',
          isText', shorter, goesOn⟩ :=
          @next_eq Unit alphanumeric _ _ _ isSplit isPos isText more
        subst isLater
        obtain ⟨following, collected, areRuns⟩ :=
          @inductionHypothesis { runs with pos := front'.length } _ _
            isSplit' rfl isText' (by omega)
        refine ⟨(front.length, run) :: following, ?_, goesOn _ areRuns⟩
        rw [MentionRuns.collect, isNext, value_bind]
        simp only [collected, value_bind, isPos]
        rfl

/-- The runs of a whole text. -/
theorem splitMentions_collect
    (text selfName : Str)
    (known : List Str)
    {fuel : Nat}
    (enough : text.len < fuel) :
    ∃ runs,
      (splitMentions text selfName known).collect alphanumeric fuel =
          .value runs ∧
        RunsOf 0 runs
          ((splitRules alphanumeric selfName known).cut true true
            text.bytes) :=
  @collect_eq alphanumeric (splitMentions text selfName known) [] _ rfl rfl
    text.isText _ enough

end Splitting

/-- What is shown of a piece. -/
def shownPiece : Piece UInt8 (MentionTier × List UInt8) → List UInt8
  | .plain byte => [byte]
  | .span _ (_, name) _ => atSign :: name

/-- Bytes outside mentions are shown as they are. -/
theorem shown_plain
    (bytes : List UInt8) :
    (bytes.map Piece.plain).flatMap shownPiece = bytes := by
  induction bytes with
  | nil =>
      rfl
  | cons byte bytes inductionHypothesis =>
      rw [List.map_cons, List.flatMap_cons, inductionHypothesis]
      rfl

/-- The runs show what the pieces show. -/
theorem RunsOf.shown
    {position : Nat}
    {runs : List (Nat × MentionRun)}
    {pieces : List (Piece UInt8 (MentionTier × List UInt8))}
    (areRuns : RunsOf position runs pieces) :
    (runs.flatMap fun run => run.2.shown) = pieces.flatMap shownPiece := by
  induction areRuns with
  | nil =>
      rfl
  | plain isPlain _ inductionHypothesis =>
      rw [List.flatMap_cons, inductionHypothesis, List.flatMap_append,
        shown_plain, MentionRun.shown, if_pos isPlain]
  | mention isMention _ _ inductionHypothesis =>
      rw [List.flatMap_cons, inductionHypothesis, List.flatMap_cons,
        MentionRun.shown, if_neg isMention]
      rfl

/-- The runs that are mentions are the spans. -/
theorem RunsOf.mentionSites
    {position : Nat}
    {runs : List (Nat × MentionRun)}
    {pieces : List (Piece UInt8 (MentionTier × List UInt8))}
    (areRuns : RunsOf position runs pieces) :
    mentionSites runs =
      (sites position pieces).map fun site => (site.1, site.2.2) := by
  induction areRuns with
  | nil =>
      rfl
  | plain isPlain _ inductionHypothesis =>
      rw [sites_append, sites_plain, units_plain, List.nil_append,
        ← Str.len, ← inductionHypothesis, MeshCadet.mentionSites,
        List.filterMap_cons_none (by simp [isPlain])]
      rfl
  | mention isMention _ _ inductionHypothesis =>
      rw [sites, List.map_cons, ← inductionHypothesis,
        MeshCadet.mentionSites,
        List.filterMap_cons_some (by simp only [isMention, if_false]; rfl)]
      rfl

/-- The bytes of the text that a run stands for. -/
inductive RunWire : MentionRun → List UInt8 → Prop where
  | plain {run : MentionRun} :
      run.tier = .plain → RunWire run run.text.bytes
  | bare {run : MentionRun} :
      run.tier ≠ .plain → RunWire run (atSign :: run.text.bytes)
  | marked {run : MentionRun} :
      run.tier ≠ .plain →
      RunWire run (atSign :: 0x5B :: (run.text.bytes ++ [0x5D]))

/-- Runs cover a text, one behind the other. -/
inductive RunsCover :
    Nat → List (Nat × MentionRun) → List UInt8 → Prop where
  | nil {position : Nat} : RunsCover position [] []
  | cons
      {position : Nat} {run : MentionRun} {wire rest : List UInt8}
      {runs : List (Nat × MentionRun)} :
      RunWire run wire →
      RunsCover (position + wire.length) runs rest →
      RunsCover position ((position, run) :: runs) (wire ++ rest)

/-- The runs cover what the pieces were cut from. -/
theorem RunsOf.covers
    {position : Nat}
    {runs : List (Nat × MentionRun)}
    {pieces : List (Piece UInt8 (MentionTier × List UInt8))}
    (areRuns : RunsOf position runs pieces) :
    RunsCover position runs (pieces.flatMap Piece.units) := by
  induction areRuns with
  | nil =>
      exact .nil
  | plain isPlain _ inductionHypothesis =>
      rw [List.flatMap_append, units_plain]
      exact .cons (.plain isPlain) inductionHypothesis
  | @mention position run units runs pieces isMention isShape _
      inductionHypothesis =>
      rw [List.flatMap_cons, Piece.units]
      refine .cons ?_ ?_
      · rcases isShape with rfl | rfl
        · exact .bare isMention
        · exact .marked isMention
      · rw [List.length_cons, ← Nat.add_assoc, Nat.add_right_comm]
        exact inductionHypothesis

/-- Every text is taken apart into runs that cover it. -/
theorem splitMentions_covers
    (alphanumeric : Char → Bool)
    (text selfName : Str)
    (known : List Str)
    {fuel : Nat}
    (enough : text.len < fuel) :
    ∃ runs,
      (splitMentions text selfName known).collect alphanumeric fuel =
          .value runs ∧
        RunsCover 0 runs text.bytes := by
  obtain ⟨runs, collected, areRuns⟩ :=
    @splitMentions_collect alphanumeric text selfName known fuel enough
  have covers := areRuns.covers
  rw [Rules.cut_units] at covers
  exact ⟨runs, collected, covers⟩

end MeshCadet
