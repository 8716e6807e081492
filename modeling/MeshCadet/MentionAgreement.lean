import MeshCadet.MentionRoundTrip

namespace MeshCadet

/-!
# Bare mentions on both sides

The receiver looks for the next mention in what is left of the text, and takes
the start of that for the start of a text.  So right behind a mention it finds one
that the sender does not: an at sign there counts although no space stands in
front.
-/

open Outcome
open SpanScan

section Agreement

variable (alphanumeric : Char → Bool) (known : List Str) (text : Str)

/-- Reading the text from the left, mentions as a whole, gets to a byte. -/
inductive ReadsTo : Nat → Prop where
  | start : ReadsTo 0
  | plain {i : Nat} :
      ReadsTo i →
      i < text.len →
      (mentionAt alphanumeric text known i : Outcome Unit (Option Str)) =
        .value none →
      ReadsTo (i + 1)
  | mention {i : Nat} {name : Str} :
      ReadsTo i →
      i < text.len →
      (mentionAt alphanumeric text known i : Outcome Unit (Option Str)) =
        .value (some name) →
      ReadsTo (i + 1 + name.len)

/-- An at sign with a known name behind it stands at the byte. -/
def KnownAt (i : Nat) : Prop :=
  text.bytes[i]? = some atSign ∧
    ∃ after name,
      (text.sliceFrom (i + 1) : Outcome Unit Str) = .value after ∧
        (longestMatch alphanumeric after known :
          Outcome Unit (Option Str)) = .value (some name)

/-- No mention has an at sign with a known name right behind it, unless it ends
with a space. -/
def MentionsApart : Prop :=
  ∀ i name,
    ReadsTo alphanumeric known text i →
    i < text.len →
    (mentionAt alphanumeric text known i : Outcome Unit (Option Str)) =
      .value (some name) →
    KnownAt alphanumeric known text (i + 1 + name.len) →
    isTokenBoundary text (i + 1 + name.len) = true

variable {alphanumeric known text}

/-- The mention at a byte, where the scan stands. -/
theorem mentionAt_foundAt
    {front rest : List UInt8}
    {byte : UInt8}
    (isSplit : text.bytes = front ++ byte :: rest)
    (found : Option Str) :
    (mentionAt alphanumeric text known front.length :
        Outcome Unit (Option Str)) =
      .value found ↔
      nameAt alphanumeric known (isTokenBoundary text front.length) byte
          rest =
        found := by
  rw [mentionAt_eq isSplit, Outcome.value.injEq]

/-- The scan finds no span where there is no name. -/
theorem foundAt_eq_none_iff
    {mayStart : Bool}
    {byte : UInt8}
    {rest : List UInt8} :
    (wrapRules alphanumeric known).foundAt mayStart byte rest = none ↔
      nameAt alphanumeric known mayStart byte rest = none := by
  rw [wrapRules_foundAt, Option.map_eq_none_iff]

/-- The scan finds the span of a name that stands there. -/
theorem foundAt_eq_some_iff
    {mayStart : Bool}
    {byte : UInt8}
    {rest what : List UInt8}
    {width : Nat} :
    (wrapRules alphanumeric known).foundAt mayStart byte rest =
        some (what, width) ↔
      ∃ name behind,
        nameAt alphanumeric known mayStart byte rest = some name ∧
          rest = name.bytes ++ behind ∧
          what = name.bytes ∧
          width = name.bytes.length := by
  rw [wrapRules_foundAt, Option.map_eq_some_iff]
  constructor
  · rintro ⟨name, isName, same⟩
    cases same
    obtain ⟨-, -, -, here⟩ := nameAt_some isName
    obtain ⟨-, behind, isSplit⟩ := split_of_nameHere here
    exact ⟨name, behind, isName, isSplit, rfl, rfl⟩
  · rintro ⟨name, behind, isName, -, rfl, rfl⟩
    exact ⟨name, isName, rfl⟩

/-- Behind a mention the text goes on, and may go on with a mention. -/
theorem behind_mention
    {front behind : List UInt8}
    {byte : UInt8}
    {name : Str}
    (isSplit : text.bytes = front ++ byte :: (name.bytes ++ behind)) :
    text.bytes = (front ++ byte :: name.bytes) ++ behind ∧
      (front ++ byte :: name.bytes).length =
        front.length + 1 + name.len ∧
      isTokenBoundary text (front.length + 1 + name.len) =
        (wrapRules alphanumeric known).closes byte name.bytes := by
  have isSplitBehind :
      text.bytes = (front ++ byte :: name.bytes) ++ behind := by
    simp [isSplit]
  refine ⟨isSplitBehind, ?_, isTokenBoundary_closes isSplitBehind⟩
  rw [List.length_append, List.length_cons, Str.len]
  omega

/-- Where the scan gets to, reading gets to. -/
theorem readsTo_of_reads
    {mayStart : Bool}
    {rest : List UInt8}
    (reads :
      (wrapRules alphanumeric known).Reads text.bytes mayStart rest) :
    ∃ front,
      text.bytes = front ++ rest ∧
        mayStart = isTokenBoundary text front.length ∧
        ReadsTo alphanumeric known text front.length := by
  induction reads with
  | start =>
      exact ⟨[], rfl, rfl, .start⟩
  | @plain _ unit rest _ notFound inductionHypothesis =>
      obtain ⟨front, isSplit, rfl, readsTo⟩ := inductionHypothesis
      refine ⟨front ++ [unit], by simp [isSplit], ?_, ?_⟩
      · rw [List.length_append, List.length_singleton,
          isTokenBoundary_behind isSplit]
        rfl
      · rw [List.length_append]
        exact .plain readsTo (by simp [Str.len, isSplit])
          ((mentionAt_foundAt isSplit none).mpr
            (foundAt_eq_none_iff.mp notFound))
  | @span _ unit rest _ _ _ isFound inductionHypothesis =>
      obtain ⟨front, isSplit, rfl, readsTo⟩ := inductionHypothesis
      obtain ⟨name, behind, isName, rfl, rfl, rfl⟩ :=
        foundAt_eq_some_iff.mp isFound
      obtain ⟨isSplitBehind, isLength, closes⟩ :=
        @behind_mention alphanumeric known text _ _ _ _ isSplit
      refine ⟨front ++ unit :: name.bytes, ?_, ?_, ?_⟩
      · rw [List.drop_left]
        exact isSplitBehind
      · rw [isLength, closes, List.take_left]
      · rw [isLength]
        exact .mention readsTo (by simp [Str.len, isSplit])
          ((mentionAt_foundAt isSplit _).mpr isName)

/-- Where reading gets to, the scan gets to. -/
theorem reads_of_readsTo
    {i : Nat}
    (reads : ReadsTo alphanumeric known text i) :
    ∃ front rest,
      front.length = i ∧
        text.bytes = front ++ rest ∧
        (wrapRules alphanumeric known).Reads text.bytes
          (isTokenBoundary text i) rest := by
  induction reads with
  | start =>
      exact ⟨[], text.bytes, rfl, rfl, .start⟩
  | plain _ inside isNone inductionHypothesis =>
      obtain ⟨front, rest, rfl, isSplit, reads⟩ := inductionHypothesis
      cases rest with
      | nil =>
          simp [Str.len, isSplit] at inside
      | cons byte rest =>
          have notFound :=
            foundAt_eq_none_iff.mpr
              ((mentionAt_foundAt isSplit none).mp isNone)
          refine ⟨front ++ [byte], rest, by simp, by simp [isSplit], ?_⟩
          rw [isTokenBoundary_behind isSplit]
          exact .plain reads notFound
  | @mention _ name _ inside isSome inductionHypothesis =>
      obtain ⟨front, rest, rfl, isSplit, reads⟩ := inductionHypothesis
      cases rest with
      | nil =>
          simp [Str.len, isSplit] at inside
      | cons byte rest =>
          have isName := (mentionAt_foundAt isSplit _).mp isSome
          obtain ⟨-, -, -, here⟩ := nameAt_some isName
          obtain ⟨-, behind, rfl⟩ := split_of_nameHere here
          have isFound :=
            foundAt_eq_some_iff.mpr ⟨name, behind, isName, rfl, rfl, rfl⟩
          obtain ⟨isSplitBehind, isLength, closes⟩ :=
            @behind_mention alphanumeric known text _ _ _ _ isSplit
          refine ⟨front ++ byte :: name.bytes, behind, isLength,
            isSplitBehind, ?_⟩
          have goesOn := Rules.Reads.span reads isFound
          rw [List.take_left, List.drop_left, ← closes] at goesOn
          exact goesOn

/-- A known name stands behind a sign exactly where a span opens. -/
theorem knownAt_iff
    {front rest : List UInt8}
    (isSplit : text.bytes = front ++ rest) :
    KnownAt alphanumeric known text front.length ↔
      (wrapRules alphanumeric known).Opens rest := by
  have isHere : text.bytes[front.length]? = rest.head? := by
    rw [isSplit, List.getElem?_append_right (Nat.le_refl _), Nat.sub_self,
      ← List.head?_eq_getElem?]
  constructor
  · rintro ⟨isAt, after, name, sliced, isLongest⟩
    rw [isHere] at isAt
    obtain ⟨tail, rfl⟩ := List.head?_eq_some_iff.mp isAt
    obtain ⟨isTail, isSliced⟩ :=
      @sliceFrom_mark Unit _ _ _ _ true isSplit rfl
    rw [isSliced, Outcome.value.injEq] at sliced
    subst sliced
    rw [longestMatch_eq, Outcome.value.injEq] at isLongest
    refine ⟨atSign, tail, rfl, ?_⟩
    have isName : nameAt alphanumeric known true atSign tail = some name :=
      isLongest
    rw [wrapRules_foundAt, isName]
    rfl
  · rintro ⟨byte, tail, rfl, isSome⟩
    obtain ⟨⟨what, width⟩, isFound⟩ := Option.isSome_iff_exists.mp isSome
    obtain ⟨name, -, isName, -⟩ := foundAt_eq_some_iff.mp isFound
    obtain ⟨rfl, -⟩ := nameAt_some isName
    obtain ⟨isTail, isSliced⟩ :=
      @sliceFrom_mark Unit _ _ _ _ true isSplit rfl
    refine ⟨isHere, _, name, isSliced, ?_⟩
    rw [longestMatch_eq, Outcome.value.injEq]
    exact isName

/-- The mentions of a text are apart exactly where the spans are. -/
theorem apart_iff :
    (wrapRules alphanumeric known).Apart text.bytes ↔
      MentionsApart alphanumeric known text := by
  constructor
  · intro apart i name readsTo inside isSome knownAt
    obtain ⟨front, rest, rfl, isSplit, reads⟩ := reads_of_readsTo readsTo
    cases rest with
    | nil =>
        simp [Str.len, isSplit] at inside
    | cons byte rest =>
        have isName := (mentionAt_foundAt isSplit _).mp isSome
        obtain ⟨-, -, -, here⟩ := nameAt_some isName
        obtain ⟨-, behind, rfl⟩ := split_of_nameHere here
        have isFound :=
          foundAt_eq_some_iff.mpr ⟨name, behind, isName, rfl, rfl, rfl⟩
        obtain ⟨isSplitBehind, isLength, closes⟩ :=
          @behind_mention alphanumeric known text _ _ _ _ isSplit
        rw [← isLength, knownAt_iff isSplitBehind] at knownAt
        have mayStart := apart _ _ _ _ _ reads isFound
        rw [List.take_left, List.drop_left] at mayStart
        rw [closes]
        exact mayStart knownAt
  · intro apart mayStart byte rest what width reads isFound opens
    obtain ⟨front, isSplit, rfl, readsTo⟩ := readsTo_of_reads reads
    obtain ⟨name, behind, isName, rfl, rfl, rfl⟩ :=
      foundAt_eq_some_iff.mp isFound
    obtain ⟨isSplitBehind, isLength, closes⟩ :=
      @behind_mention alphanumeric known text _ _ _ _ isSplit
    rw [List.drop_left, ← knownAt_iff isSplitBehind, isLength] at opens
    rw [List.take_left, ← closes]
    exact apart _ name readsTo (by simp [Str.len, isSplit])
      ((mentionAt_foundAt isSplit _).mpr isName) opens

/-- In a text without bracketed mentions, what a scan that starts anew finds is
what the receiver reports. -/
theorem splitRules_sites
    (selfName : Str)
    (unmarked : Unmarked text.bytes) :
    (sites 0
        ((splitRules alphanumeric selfName known).cut true true
          text.bytes)).map (fun site => (site.1, site.2.2)) =
      sites 0
        ((wrapRules alphanumeric known).cut true true text.bytes) := by
  have renamed :=
    @Rules.sites_map _ _ (wrapRules alphanumeric known) _
      (splitRules alphanumeric selfName known) rfl rfl
      (fun name => (MentionTier.other, name)) [] text.bytes
      (by
        intro before mark rest isSplit isMark
        have isAt : mark = 0x40 := beq_iff_eq.mp isMark
        subst isAt
        have noBracket (behind : List UInt8) : rest ≠ 0x5B :: behind := by
          rintro rfl
          apply unmarked
          refine ⟨before, behind, ?_⟩
          rw [List.nil_append] at isSplit
          simp [isSplit]
        change splitFound alphanumeric selfName known rest = _
        rw [splitFound_unmarked noBracket]
        change _ =
          ((bestName alphanumeric rest none known).map fun name =>
            (name.bytes, name.len)).map _
        rw [Option.map_map]
        rfl)
      true true 0
  rw [renamed, List.map_map]
  exact List.map_id _

end Agreement

/--
In a text without bracketed mentions, the bare mentions that the receiver reports
are those that the sender wraps exactly if no mention has an at sign with a known
name right behind it, unless it ends with a space.
-/
theorem mentions_agree_iff
    (alphanumeric : Char → Bool)
    (known : List Str)
    (selfName : Str)
    {text : Str}
    (unmarked : Unmarked text.bytes)
    {fuel : Nat}
    (enough : text.len < fuel) :
    (do
        let runs ←
          (splitMentions text selfName known).collect alphanumeric fuel
        pure (mentionSites runs)) =
        wrapSites alphanumeric text known ↔
      MentionsApart alphanumeric known text := by
  obtain ⟨runs, collected, areRuns⟩ :=
    @splitMentions_collect alphanumeric text selfName known fuel enough
  rw [collected, value_bind, wrapSites_eq, areRuns.mentionSites,
    splitRules_sites selfName unmarked, Outcome.pure_eq,
    Outcome.value.injEq, Rules.sites_anew_iff, apart_iff]

namespace AdjacentMentions

/-- The name `Alice`. -/
def aliceBytes : List UInt8 :=
  [0x41, 0x6C, 0x69, 0x63, 0x65]

/-- The name `Bob`. -/
def bobBytes : List UInt8 :=
  [0x42, 0x6F, 0x62]

/-- The text `@Alice@Bob`. -/
def textBytes : List UInt8 :=
  0x40 :: (aliceBytes ++ 0x40 :: bobBytes)

/-- The name is a string. -/
theorem alice_valid :
    isUtf8 aliceBytes = true :=
  rfl

/-- The name is a string. -/
theorem bob_valid :
    isUtf8 bobBytes = true :=
  rfl

/-- The text is a string. -/
theorem text_valid :
    isUtf8 textBytes = true :=
  rfl

/-- Alice. -/
def alice : Str :=
  ⟨aliceBytes, alice_valid⟩

/-- Bob. -/
def bob : Str :=
  ⟨bobBytes, bob_valid⟩

/-- Both, without a space in between. -/
def text : Str :=
  ⟨textBytes, text_valid⟩

/-- No bracket stands in the text. -/
theorem unmarked :
    Unmarked text.bytes := by
  rintro ⟨before, behind, isSplit⟩
  have member : 0x5B ∈ text.bytes := by
    rw [← isSplit]
    simp
  exact absurd member (by decide)

end AdjacentMentions

open AdjacentMentions in
/-- The mentions of `@Alice@Bob` are not apart. -/
theorem adjacent_mentions_not_apart :
    ¬MentionsApart Char.isAlphanum [alice, bob] AdjacentMentions.text := by
  intro apart
  have agree :=
    (@mentions_agree_iff Char.isAlphanum [alice, bob] bob
      AdjacentMentions.text unmarked 11 (by decide)).mpr apart
  revert agree
  decide +kernel

open AdjacentMentions in
/-- In `@Alice@Bob` the sender wraps Alice; the receiver reports Bob as well, at
an at sign that no space stands in front of. -/
theorem adjacent_mentions_disagree :
    Unmarked AdjacentMentions.text.bytes ∧
      (wrapSites Char.isAlphanum AdjacentMentions.text [alice, bob] :
        Outcome Unit (List (Nat × List UInt8))) =
        .value [(0, aliceBytes)] ∧
      (do
        let runs ←
          (splitMentions AdjacentMentions.text bob [alice, bob]).collect
            Char.isAlphanum 11
        pure (mentionSites runs)) =
        .value [(0, aliceBytes), (6, bobBytes)] ∧
      isTokenBoundary AdjacentMentions.text 6 = false := by
  refine ⟨unmarked, ?_, ?_, ?_⟩ <;> decide +kernel

end MeshCadet
