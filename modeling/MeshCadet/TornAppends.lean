import MeshCadet.SpareCopies
import MeshCadet.Transition

namespace MeshCadet

/-!
# Runs of appends with torn slot writes

Every append may be torn; the next one finds the region as it was left.  A slot
that was torn after its first visible byte takes a place among the newest 32 like
a complete one.  Text lengths stay in bounds where they were written at all.
-/

open FlashCells Transition

/-- A region, with the visible traces its appends left. -/
structure TornLog where
  region : HistoryRegion
  traces : List Trace

namespace TornLog

/-- A fresh region, claimed for a conversation. -/
def claimed
    (kind : HistoryMsgType)
    (convHash : UInt8) :
    TornLog :=
  { region := HistoryRegion.newErased.claim kind convHash
    traces := [] }

/-- One append, torn or not. -/
def step
    (log : TornLog)
    (attempt : AppendAttempt) :
    TornLog :=
  match log.region.appendWrites attempt.slot with
  | .error _ => log
  | .ok writes =>
      { region :=
          log.region.applyWrites Medium.ram (attempt.carriedOut writes)
        traces :=
          log.traces ++
            (attempt.trace writes).toList.filter Trace.isVisible }

/-- The entries that were written to their end, among the newest 32 traces. -/
def recentComplete
    (log : TornLog) :
    List DecodedSlot :=
  ((log.traces.rtake maxHistoryEntries).filter Trace.isComplete).map
    Trace.slot

/-- The newest 32 of the entries that were written to their end. -/
def newestComplete
    (log : TornLog) :
    List DecodedSlot :=
  ((log.traces.filter Trace.isComplete).rtake maxHistoryEntries).map
    Trace.slot

end TornLog

/--
However many of the newest traces are taken, what can be decoded of them is the
end of what can be decoded of as many slots.
-/
def Covers
    (traces : List Trace)
    (blobs : List EntryBlob) :
    Prop :=
  ∀ count,
    count ≤ maxHistoryEntries →
      ((traces.map Trace.blob).rtake count).filterMap decodeSlot <:+
        (blobs.rtake count).filterMap decodeSlot

namespace Covers

variable
    {traces : List Trace}
    {blobs : List EntryBlob}

/-- A trace and the slot that holds it go together. -/
theorem append
    (covers : Covers traces blobs)
    (more : List Trace) :
    Covers (traces ++ more) (blobs ++ more.map Trace.blob) := by
  induction more using List.reverseRecOn with
  | nil =>
      simpa using covers
  | append_singleton earlier trace inductionHypothesis =>
      intro count few
      cases count with
      | zero =>
          simp
      | succ fewer =>
          have before := inductionHypothesis fewer (by omega)
          simp only [List.map_append, List.map_singleton,
            ← List.append_assoc, List.rtake_concat_succ,
            List.filterMap_append] at before ⊢
          obtain ⟨older, isEnd⟩ := before
          exact ⟨older, by rw [← List.append_assoc, isEnd]⟩

/-- The kept entries cover what the slots covered. -/
theorem compact
    (covers : Covers traces blobs) :
    Covers traces ((HistoryRegion.keptEntries blobs).map encodeSlot) := by
  intro count few
  let kept := HistoryRegion.keptEntries blobs
  let shown :=
    ((traces.map Trace.blob).rtake count).filterMap decodeSlot
  have decoded :
      ((kept.map encodeSlot).rtake count).filterMap decodeSlot =
        kept.rtake count := by
    simp [List.rtake, ← List.map_drop, List.filterMap_map]
  have shortEnd : blobs.rtake count <:+ blobs.rtake maxHistoryEntries := by
    simp only [List.rtake]
    exact List.drop_suffix_drop_left _ (by omega)
  have isEnd : shown <:+ kept :=
    (covers count few).trans (shortEnd.filterMap decodeSlot)
  have shownFew : shown.length ≤ count := by
    have bound :=
      List.length_filterMap_le decodeSlot
        ((traces.map Trace.blob).rtake count)
    simp only [List.rtake, List.length_drop] at bound
    simp only [shown, List.rtake]
    omega
  have shownKept := isEnd.length_le
  have newest : kept.rtake count <:+ kept := by
    simp only [List.rtake]
    exact List.drop_suffix _ _
  rw [decoded]
  apply List.suffix_of_suffix_length_le isEnd newest
  simp only [List.rtake, List.length_drop]
  omega

end Covers

namespace TornLog

/-- The region is ready, covers the traces, and shows slots of one kind. -/
def Keeps
    (kind : DecodedSlot → Prop)
    (log : TornLog) :
    Prop :=
  ∃ active header blobs,
    log.region.Ready active header blobs ∧
      Covers log.traces blobs ∧
      ∀ blob ∈ blobs, ∀ slot, decodeSlot blob = some slot → kind slot

variable
    {kind : DecodedSlot → Prop}
    {log : TornLog}

/-- A region that keeps its traces accepts every append. -/
theorem Keeps.accepts
    (keeps : log.Keeps kind)
    (slot : DecodedSlot) :
    ∃ after, log.region.append slot = .ok after := by
  obtain ⟨active, header, blobs, ready, -, -⟩ := keeps
  obtain ⟨writes, -, -, -, appended, -⟩ :=
    ready.attempt { slot := slot, tear := none }
  exact ⟨log.region.applyWrites Medium.ram writes,
    by simp [HistoryRegion.append, show
      log.region.appendWrites slot = .ok writes from appended,
      bind, Except.bind, pure, Except.pure]⟩

/-- Entries written to their end are shown while their trace is recent. -/
theorem Keeps.shows
    (keeps : log.Keeps kind) :
    log.recentComplete.Sublist log.region.liveView := by
  obtain ⟨active, header, blobs, ready, covers, -⟩ := keeps
  have shown := covers maxHistoryEntries (Nat.le_refl _)
  rw [ready.liveView_eq]
  refine List.Sublist.trans ?_ shown.sublist
  have recentTraces :
      (log.traces.map Trace.blob).rtake maxHistoryEntries =
        (log.traces.rtake maxHistoryEntries).map Trace.blob := by
    simp [List.rtake, List.map_drop]
  rw [recentTraces, recentComplete]
  generalize log.traces.rtake maxHistoryEntries = recentTraces
  induction recentTraces with
  | nil =>
      exact .slnil
  | cons trace rest inductionHypothesis =>
      cases complete : trace.isComplete with
      | true =>
          have whole : decodeSlot trace.blob = some trace.slot := by
            have reached : 72 ≤ trace.written := by
              simpa [Trace.isComplete] using complete
            rw [Trace.blob, torn_complete _ reached]
            exact decodeSlot_encodeSlot trace.slot
          simpa [complete, whole] using inductionHypothesis
      | false =>
          rw [List.filter_cons_of_neg (by simp [complete])]
          refine inductionHypothesis.trans ?_
          exact ((List.sublist_cons_self trace rest).map
            Trace.blob).filterMap decodeSlot

/-- The slots a reader sees are of the kept kind. -/
theorem Keeps.ofKind
    (keeps : log.Keeps kind) :
    ∀ shown ∈ log.region.liveView, kind shown := by
  obtain ⟨active, header, blobs, ready, -, ofKind⟩ := keeps
  intro shown member
  rw [ready.liveView_eq] at member
  obtain ⟨blob, isBlob, decoded⟩ := List.mem_filterMap.mp member
  exact ofKind blob (List.mem_of_mem_drop isBlob) shown decoded

/-- An append, torn anywhere, keeps what the region keeps. -/
theorem Keeps.step
    (keeps : log.Keeps kind)
    {attempt : AppendAttempt}
    (attemptKind :
      ∀ written decoded,
        (written = 72 ∨
          ∃ tear, attempt.tear = some tear ∧ written = tear.bytes) →
        decodeSlot (torn (encodeSlot attempt.slot) written) =
            some decoded →
          kind decoded) :
    (log.step attempt).Keeps kind := by
  obtain ⟨active, header, blobs, ready, covers, ofKind⟩ := keeps
  obtain ⟨writes, activeAfter, headerAfter, base, appended, isBase,
    ofAttempt, readyAfter⟩ := ready.attempt attempt
  let visible := (attempt.trace writes).toList.filter Trace.isVisible
  have stepped :
      log.step attempt =
        { region :=
            log.region.applyWrites Medium.ram
              (attempt.carriedOut writes)
          traces := log.traces ++ visible } := by
    simp [TornLog.step, appended, visible]
  have baseCovers : Covers log.traces base := by
    rcases isBase with rfl | rfl
    · exact covers
    · exact covers.compact
  have baseKind :
      ∀ blob ∈ base, ∀ slot, decodeSlot blob = some slot →
        kind slot := by
    rcases isBase with rfl | rfl
    · exact ofKind
    · intro blob member slot decoded
      obtain ⟨entry, isKept, rfl⟩ := List.mem_map.mp member
      rw [decodeSlot_encodeSlot, Option.some_inj] at decoded
      subst decoded
      obtain ⟨blob, isBlob, fromBlob⟩ := List.mem_filterMap.mp isKept
      exact ofKind blob (List.mem_of_mem_drop isBlob) entry fromBlob
  rw [stepped]
  refine ⟨activeAfter, headerAfter, _, readyAfter,
    baseCovers.append visible, ?_⟩
  intro blob member slot decoded
  rcases List.mem_append.mp member with old | isNew
  · exact baseKind blob old slot decoded
  · obtain ⟨trace, isVisible, rfl⟩ := List.mem_map.mp isNew
    have isTrace : attempt.trace writes = some trace := by
      simpa using List.mem_of_mem_filter isVisible
    rw [Trace.blob, ofAttempt trace isTrace] at decoded
    exact
      attemptKind trace.written slot
        (AppendAttempt.written_of_trace isTrace).2 decoded

/-- A freshly claimed region is ready and has no slots. -/
theorem ready_claimed
    (kind : HistoryMsgType)
    (convHash : UInt8) :
    (claimed kind convHash).region.Ready 0
      { kind := kind, convHash := convHash, generation := 0 } [] := by
  let header : RegionHeader :=
    { kind := kind, convHash := convHash, generation := 0 }
  let erasedRegion : HistoryRegion := HistoryRegion.newErased
  have holds : HoldsSlots (erasedRegion (1 - 1)) [] := holdsSlots_erased
  have isBlank : read (erasedRegion (1 - 1)) 0 8 = blank 8 :=
    read_erased 0 8
  have settled :=
    HistoryRegion.settled_takeOver Medium.ram holds isBlank header
  refine .of_fresh settled (.of_erased ?_ ?_ (by simp))
  · exact read_erase_inside erased (by decide)
  · intro slot inside
    refine read_erase_inside erased ?_
    simp only [slotOffset, regionHeaderLen, sectorSize,
      slotsPerSector] at *
    omega

theorem keeps_claimed
    (shown : DecodedSlot → Prop)
    (kind : HistoryMsgType)
    (convHash : UInt8) :
    (claimed kind convHash).Keeps shown :=
  ⟨_, _, _, ready_claimed kind convHash, fun _ _ => by simp [claimed],
    fun _ member => absurd member List.not_mem_nil⟩

/--
Every append is accepted, and the entries written to their end are shown,
unaltered and in order, as long as their trace is among the newest 32.
-/
structure KeepsRecent
    (log : TornLog) :
    Prop where
  accepts : ∀ slot, ∃ after, log.region.append slot = .ok after
  shows : log.recentComplete.Sublist log.region.liveView

/-- What a reader sees has a text length in bounds, unless it was torn behind the
type and in front of the length. -/
def TextLensInBounds
    (attempts : List AppendAttempt)
    (log : TornLog) :
    Prop :=
  ∀ shown ∈ log.region.liveView,
    shown.entry.textLen ≤ 64 ∨
      ∃ attempt ∈ attempts, ∃ tear,
        attempt.tear = some tear ∧
          (2 ≤ tear.bytes ∧ tear.bytes < 7) ∧
          decodeSlot (torn (encodeSlot attempt.slot) tear.bytes) =
            some shown

/--
Over every run of appends, torn anywhere or not, complete entries are shown while
they are recent; entries with text lengths in bounds leave no other ones behind
where the length was written.
-/
theorem tornAppends_keep_recent
    (kind : HistoryMsgType)
    (convHash : UInt8)
    (attempts : List AppendAttempt) :
    Always step KeepsRecent (claimed kind convHash) attempts ∧
      ((∀ attempt ∈ attempts, attempt.slot.entry.textLen ≤ 64) →
        Always step (TextLensInBounds attempts) (claimed kind convHash)
          attempts) := by
  constructor
  · have always :
        Always step (Keeps fun _ => True) (claimed kind convHash)
          attempts :=
      always_of_invariant
        (fun log attempt keeps => keeps.step fun _ _ _ _ => trivial)
        (keeps_claimed (fun _ => True) kind convHash) attempts
    exact always.mono fun log keeps =>
      { accepts := keeps.accepts
        shows := keeps.shows }
  · intro inBounds
    let known : DecodedSlot → Prop := fun shown =>
      shown.entry.textLen ≤ 64 ∨
        ∃ attempt ∈ attempts, ∃ tear,
          attempt.tear = some tear ∧
            (2 ≤ tear.bytes ∧ tear.bytes < 7) ∧
            decodeSlot (torn (encodeSlot attempt.slot) tear.bytes) =
              some shown
    have always :
        Always step (Keeps known) (claimed kind convHash) attempts :=
      always_of_along
        (fun log attempt keeps member =>
          keeps.step fun written decoded stored isDecoded => by
            rcases textLen_of_torn isDecoded with same | between
            · exact .inl (same ▸ inBounds attempt member)
            · rcases stored with rfl | ⟨tear, isTear, rfl⟩
              · exact absurd between.2 (by decide)
              · exact
                  .inr ⟨attempt, member, tear, isTear, between, isDecoded⟩)
        (keeps_claimed known kind convHash)
        (along_of_forall (fun _ member => member)
          (claimed kind convHash))
    exact always.mono fun log keeps => keeps.ofKind

/-- Until the first compaction every visible trace has its own slot. -/
theorem run_few
    {log : TornLog}
    {active : Fin 2}
    {header : RegionHeader}
    {blobs : List EntryBlob}
    (ready : log.region.Ready active header blobs)
    {attempts : List AppendAttempt}
    (few : blobs.length + attempts.length ≤ slotsPerSector) :
    (run step log attempts).region.Ready active header
        (blobs ++ (soleTraces attempts).map Trace.blob) ∧
      (run step log attempts).traces =
        log.traces ++ soleTraces attempts := by
  induction attempts generalizing log blobs with
  | nil =>
      simpa [soleTraces] using ready
  | cons attempt rest inductionHypothesis =>
      have notFull : blobs.length < slotsPerSector := by
        simp only [List.length_cons] at few
        omega
      obtain ⟨trace, isTrace, -, carried⟩ :=
        attempt.carriedOut_single active blobs.length
      have sameTrace : attempt.soleTrace = some trace := by
        rw [← isTrace]
        rfl
      have stepped :
          log.step attempt =
            { region :=
                log.region.applyWrite Medium.ram
                  (.slot active blobs.length
                    ((encodeSlot trace.slot).toList.take
                      trace.written))
              traces :=
                log.traces ++ [trace].filter Trace.isVisible } := by
        simp [step, ready.appendWrites_notFull notFull, carried, isTrace]
      have readyAfter :
          (log.step attempt).region.Ready active header
            (blobs ++
              ([trace].filter Trace.isVisible).map Trace.blob) := by
        rw [stepped]
        exact ready.writeSlot notFull trace
      have tracesAfter :
          (log.step attempt).traces =
            log.traces ++ [trace].filter Trace.isVisible := by
        rw [stepped]
      have length :
          (([trace].filter Trace.isVisible).map Trace.blob).length ≤
            1 := by
        rw [List.length_map]
        exact List.length_filter_le _ _
      have later :=
        inductionHypothesis readyAfter (by
          simp only [List.length_append, List.length_cons] at *
          omega)
      have together :
          soleTraces (attempt :: rest) =
            [trace].filter Trace.isVisible ++ soleTraces rest := by
        rw [soleTraces, List.filterMap_cons_some sameTrace,
          ← List.singleton_append, List.filter_append, soleTraces]
      rw [tracesAfter] at later
      rw [run_cons, together, List.map_append, ← List.append_assoc,
        ← List.append_assoc]
      exact later

/-- A received message of one byte. -/
def smallMessage : DecodedSlot :=
  { entry :=
      { senderHash := 7
        msgType := .dm
        timestamp := 100
        text := Bytes.zeroPadded 64 [0x61]
        textLen := 1 }
    isOurs := false
    acked := true }

/-- One complete append, and 32 of which only the first byte was written. -/
def tornAfterComplete : List AppendAttempt :=
  { slot := smallMessage, tear := none } ::
    List.replicate 32
      { slot := smallMessage
        tear := some { slotWrite := 0, bytes := 1 } }

/-- A complete append between one that lost its length and one that kept it. -/
def tornAroundComplete : List AppendAttempt :=
  [{ slot := smallMessage
     tear := some { slotWrite := 0, bytes := 2 } },
    { slot := smallMessage, tear := none },
    { slot := smallMessage
      tear := some { slotWrite := 0, bytes := 40 } }]

/-- What the run shows of them. -/
theorem tornAroundComplete_keeps_recent :
    (run step (claimed .dm 7) tornAroundComplete).recentComplete =
        [smallMessage] ∧
      Always step KeepsRecent (claimed .dm 7) tornAroundComplete ∧
      Always step (TextLensInBounds tornAroundComplete) (claimed .dm 7)
        tornAroundComplete := by
  obtain ⟨recent, known⟩ :=
    tornAppends_keep_recent .dm 7 tornAroundComplete
  refine ⟨?_, recent, known (by decide)⟩
  have few :
      ([] : List EntryBlob).length + tornAroundComplete.length ≤
        slotsPerSector := by
    decide
  obtain ⟨-, traces⟩ := run_few (ready_claimed .dm 7) few
  rw [recentComplete, traces]
  decide +kernel

/-- The one complete entry is no longer shown. -/
theorem tornAfterComplete_hides_complete :
    (run step (claimed .dm 7) tornAfterComplete).newestComplete =
        [smallMessage] ∧
      (run step (claimed .dm 7) tornAfterComplete).region.liveView =
        [] := by
  have few : ([] : List EntryBlob).length + tornAfterComplete.length ≤
      slotsPerSector := by
    decide
  obtain ⟨ready, traces⟩ := run_few (ready_claimed .dm 7) few
  rw [ready.liveView_eq, newestComplete, traces]
  decide +kernel

end TornLog

end MeshCadet
