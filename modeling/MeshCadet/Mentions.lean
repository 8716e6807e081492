import MeshCadet.ChannelMessages
import MeshCadet.InboundDms
import MeshCadet.SpanScan
import MeshCadet.Utf8Text

namespace MeshCadet

/-!
# Mentions in messages

A mention travels as a name in brackets behind an at sign.  The sender puts the
brackets around the names it knows; the receiver takes a message apart into plain
text and mentions, bracketed ones as they stand and bare ones if it knows the
name.  Both look at the same bytes: whether a character is alphanumeric is all
they need to know about it.
-/

open Outcome
open SpanScan

/-- The sign in front of a mention. -/
def atSign : UInt8 :=
  0x40

/-- One bracket is a string. -/
theorem isUtf8_openBracket :
    isUtf8 [0x5B] = true :=
  rfl

/-- The bracket in front of a name. -/
def openBracket : Str :=
  ⟨[0x5B], isUtf8_openBracket⟩

/-- The bracket behind a name. -/
def closeBracket : UInt8 :=
  0x5D

/-- The text starts here, or a space stands in front of the byte. -/
def isTokenBoundary
    (text : Str)
    (i : Nat) :
    Bool :=
  i == 0 || isAsciiWhitespace (text.bytes.getD (i - 1) 0)

/-- How prominently a run is shown. -/
inductive MentionTier where
  | plain
  | other
  | selfMention
deriving Repr, DecidableEq

/-- The place of a tier among the others. -/
def MentionTier.rank : MentionTier → Nat
  | .plain => 0
  | .other => 1
  | .selfMention => 2

/-- A run of the text: plain text as it stands, or the name of a mention. -/
structure MentionRun where
  text : Str
  tier : MentionTier
deriving Repr, DecidableEq

/-- A mention found in a text. -/
structure FoundMention where
  start : Nat
  wireEnd : Nat
  tier : MentionTier
  name : Str
deriving Repr, DecidableEq

section Matching

variable {Failure : Type} (alphanumeric : Char → Bool)

/-- No alphanumeric character follows the name. -/
def terminatorOk
    (after name : Str) :
    Outcome Failure Bool := do
  let rest ← after.sliceFrom name.len
  pure ((Str.firstChar rest.bytes).all fun c => !alphanumeric c)

/-- The name is longer than the best one so far. -/
def isLonger
    (best : Option Str)
    (name : Str) :
    Bool :=
  best.all fun b => b.len < name.len

/-- Go through the names and keep the longest that matches. -/
def longestMatchFrom
    (after : Str) :
    Option Str → List Str → Outcome Failure (Option Str)
  | best, [] => pure best
  | best, name :: known =>
      if name.bytes.isEmpty || !after.startsWith name then
        longestMatchFrom after best known
      else do
        let ok ← terminatorOk alphanumeric after name
        if ok && isLonger best name then
          longestMatchFrom after (some name) known
        else
          longestMatchFrom after best known

/-- The longest known name that the text starts with. -/
def longestMatch
    (after : Str)
    (known : List Str) :
    Outcome Failure (Option Str) :=
  longestMatchFrom alphanumeric after none known

/-- The known name behind a sign at this byte. -/
def mentionAt
    (text : Str)
    (known : List Str)
    (i : Nat) :
    Outcome Failure (Option Str) :=
  if text.bytes.getD i 0 == atSign && isTokenBoundary text i then do
    let after ← text.sliceFrom (i + 1)
    longestMatch alphanumeric after known
  else
    pure none

/-- Go through a text; what is done at a mention is a parameter. -/
def mentionLoop
    {State : Type}
    (onMention : State → Nat → Str → Outcome Failure State)
    (text : Str)
    (known : List Str)
    (i : Nat)
    (state : State) :
    Outcome Failure State :=
  if i < text.len then do
    let here ← mentionAt alphanumeric text known i
    match here with
    | some name => do
        let state ← onMention state i name
        mentionLoop onMention text known (i + 1 + name.len) state
    | none => mentionLoop onMention text known (i + 1) state
  else
    pure state
termination_by text.len - i

end Matching

section Wrapping

variable {Failure : Type} (alphanumeric : Char → Bool)

/-- How far the text is copied, and the buffer with how much of it is written. -/
structure WrapState where
  cursor : Nat
  out : List UInt8
  w : Nat
deriving Repr, DecidableEq

/-- Copy the text up to a mention, and the mention in brackets. -/
def wrapMention
    (text : Str)
    (state : WrapState)
    (i : Nat)
    (name : Str) :
    Outcome Failure WrapState := do
  let plain ← slice text.bytes state.cursor i
  let (out, w) ← appendClamped state.out state.w plain
  let (out, w) ← appendClamped out w [0x40, 0x5B]
  let (out, w) ← appendClamped out w name.bytes
  let (out, w) ← appendClamped out w [0x5D]
  pure
    { cursor := i + 1 + name.len
      out := out
      w := w }

/-- Count what a mention in brackets and the text up to it take. -/
def countMention
    (counted : Nat × Nat)
    (i : Nat)
    (name : Str) :
    Outcome Failure (Nat × Nat) :=
  pure (i + 1 + name.len, counted.2 + (i - counted.1) + (2 + name.len + 1))

/-- The length of a text with its mentions in brackets. -/
def Str.requiredLen
    (text : Str)
    (known : List Str) :
    Outcome Failure Nat := do
  let (cursor, needed) ←
    mentionLoop alphanumeric countMention text known 0 (0, 0)
  pure (needed + (text.len - cursor))

/-- Put the mentions of a text in brackets; there is no result if the bytes are no
text or the buffer is too small. -/
def wrapMentions
    (input : List UInt8)
    (known : List Str)
    (out : List UInt8) :
    Outcome Failure (List UInt8 × Option Nat) :=
  if valid : isUtf8 input = true then do
    let text : Str := ⟨input, valid⟩
    let state ←
      mentionLoop alphanumeric (wrapMention text) text known 0
        { cursor := 0
          out := out
          w := 0 }
    let rest ← slice text.bytes state.cursor text.len
    let (out, w) ← appendClamped state.out state.w rest
    let needed ← Str.requiredLen alphanumeric text known
    pure (out, if w < needed then none else some w)
  else
    pure (out, none)

/-- Where the loop of `wrapMentions` puts names in brackets, and which. -/
def wrapSites
    (text : Str)
    (known : List Str) :
    Outcome Failure (List (Nat × List UInt8)) :=
  mentionLoop alphanumeric
    (fun sites i name => pure (sites ++ [(i, name.bytes)])) text known 0 []

end Wrapping

section Splitting

variable {Failure : Type} (alphanumeric : Char → Bool)

/-- The mention of the sign at a byte: a name in brackets, or a known name. -/
def foundBehind
    (after selfName : Str)
    (known : List Str)
    (i : Nat) :
    Outcome Failure (Option FoundMention) :=
  match after.stripPrefix openBracket with
  | some stripped =>
      match stripped.find closeBracket with
      | some closeRel => do
          let name ← stripped.sliceTo closeRel
          pure
            (some
              { start := i
                wireEnd := i + 1 + 1 + closeRel + 1
                tier :=
                  if !name.bytes.isEmpty && name == selfName then
                    .selfMention
                  else
                    .other
                name := name })
      | none => pure none
  | none => do
      let here ← longestMatch alphanumeric after known
      match here with
      | some matched => do
          let name ← after.sliceTo matched.len
          pure
            (some
              { start := i
                wireEnd := i + 1 + name.len
                tier := .other
                name := name })
      | none => pure none

/-- The mention at a byte, if there is one. -/
def foundMentionAt
    (text selfName : Str)
    (known : List Str)
    (i : Nat) :
    Outcome Failure (Option FoundMention) :=
  if text.bytes.getD i 0 == atSign && isTokenBoundary text i then do
    let after ← text.sliceFrom (i + 1)
    foundBehind alphanumeric after selfName known i
  else
    pure none

/-- The next mention from a byte on. -/
def findNextFrom
    (text selfName : Str)
    (known : List Str)
    (i : Nat) :
    Outcome Failure (Option FoundMention) :=
  if i < text.len then do
    let here ← foundMentionAt alphanumeric text selfName known i
    match here with
    | some found => pure (some found)
    | none => findNextFrom text selfName known (i + 1)
  else
    pure none
termination_by text.len - i

/-- The next mention in a text. -/
def findNextMention
    (text selfName : Str)
    (known : List Str) :
    Outcome Failure (Option FoundMention) :=
  findNextFrom alphanumeric text selfName known 0

/-- What is still to be taken apart: the text from a position on. -/
structure MentionRuns where
  text : Str
  selfName : Str
  known : List Str
  pos : Nat
deriving Repr, DecidableEq

/-- The next run, and what is left behind it. -/
def MentionRuns.next
    (runs : MentionRuns) :
    Outcome Failure (Option (MentionRun × MentionRuns)) :=
  if runs.text.len ≤ runs.pos then
    pure none
  else do
    let rest ← runs.text.sliceFrom runs.pos
    let next ← findNextMention alphanumeric rest runs.selfName runs.known
    match next with
    | some found =>
        if found.start = 0 then
          pure
            (some
              ({ text := found.name
                 tier := found.tier },
                { runs with pos := runs.pos + found.wireEnd }))
        else do
          let text ← rest.sliceTo found.start
          pure
            (some
              ({ text := text
                 tier := .plain },
                { runs with pos := runs.pos + found.start }))
    | none =>
        pure
          (some
            ({ text := rest
               tier := .plain },
              { runs with pos := runs.text.len }))

/-- The runs with their positions, as long as there are at most so many. -/
def MentionRuns.collect :
    Nat → MentionRuns → Outcome Unit (List (Nat × MentionRun))
  | 0, _ => .failed ()
  | fuel + 1, runs => do
      let item ← runs.next alphanumeric
      match item with
      | some (run, later) => do
          let rest ← collect fuel later
          pure ((runs.pos, run) :: rest)
      | none => pure []

/-- A text that is still to be taken apart. -/
def splitMentions
    (wire selfName : Str)
    (known : List Str) :
    MentionRuns :=
  { text := wire
    selfName := selfName
    known := known
    pos := 0 }

/-- The bytes that are shown for a run. -/
def MentionRun.shown
    (run : MentionRun) :
    List UInt8 :=
  if run.tier = .plain then
    run.text.bytes
  else
    atSign :: run.text.bytes

/-- Show a text, and tell its highest tier. -/
def renderMentions
    (fuel : Nat)
    (body selfName : Str)
    (known : List Str) :
    Outcome Unit (List UInt8 × Nat) := do
  let runs ← (splitMentions body selfName known).collect alphanumeric fuel
  pure
    (runs.flatMap fun run => run.2.shown,
      runs.foldl (fun tier run => max tier run.2.tier.rank) 0)

/-- Where runs are mentions, and of which names. -/
def mentionSites
    (runs : List (Nat × MentionRun)) :
    List (Nat × List UInt8) :=
  runs.filterMap fun run =>
    if run.2.tier = .plain then none else some (run.1, run.2.text.bytes)

end Splitting

end MeshCadet
