import MeshCadet.RegionLog
import MeshCadet.TornAppends

namespace MeshCadet

/-!
# Appends to a region in memory without torn writes

When no slot write is torn, a claimed region in memory is the log of what was
appended to it: its live view is the newest 32 entries, however often the two
sectors changed places and whatever generation they have reached.
-/

open FlashCells

namespace HistoryRegion

/-- Append entries one after the other, until one of them fails. -/
def appendAll
    (region : HistoryRegion)
    (slots : List DecodedSlot) :
    Except RegionError HistoryRegion :=
  slots.foldlM append region

/-- A claimed region in memory, with a clean spare and these recent entries. -/
def KeepsLog
    (region : HistoryRegion)
    (kind : HistoryMsgType)
    (convHash : UInt8)
    (newest : List DecodedSlot) :
    Prop :=
  ∃ active header entries,
    region.Ready active header (entries.map encodeSlot) ∧
      header.kind = kind ∧
      header.convHash = convHash ∧
      recent entries = newest

/-- A compaction keeps the recent ones of the encoded entries. -/
theorem keptEntries_encode
    (entries : List DecodedSlot) :
    keptEntries (entries.map encodeSlot) = recent entries := by
  simp [keptEntries, recent, List.rtake, ← List.map_drop,
    List.filterMap_map]

/-- A complete slot write leaves the encoded entry. -/
theorem completeTrace
    (slot : DecodedSlot) :
    ([({ slot := slot, written := 72 } : Trace)].filter
        Trace.isVisible).map Trace.blob =
      [encodeSlot slot] := by
  have whole : torn (encodeSlot slot) 72 = encodeSlot slot :=
    torn_complete _ (by omega)
  have isVisible : Trace.isVisible ⟨slot, 72⟩ = true := by
    simpa [Trace.isVisible, Trace.blob, whole] using
      encodeSlot_ne_blank slot
  simp [isVisible, Trace.blob, whole]

/-- A complete slot write behind encoded entries adds its own. -/
theorem Ready.writeEntry
    {region : HistoryRegion}
    {active : Fin 2}
    {header : RegionHeader}
    {entries : List DecodedSlot}
    (ready : region.Ready active header (entries.map encodeSlot))
    (notFull : entries.length < slotsPerSector)
    (slot : DecodedSlot) :
    (region.applyWrite Medium.ram
        (.slot active entries.length (encodeSlot slot).toList)).Ready
      active header ((entries ++ [slot]).map encodeSlot) := by
  have whole :
      (encodeSlot slot).toList.take 72 = (encodeSlot slot).toList :=
    List.take_of_length_le (by simp)
  have written :=
    ready.writeSlot (by simpa using notFull)
      { slot := slot, written := 72 }
  rw [completeTrace, List.length_map, whole] at written
  simpa using written

namespace KeepsLog

variable
    {region : HistoryRegion}
    {kind : HistoryMsgType}
    {convHash : UInt8}
    {newest : List DecodedSlot}

/-- What a reader of the region sees. -/
theorem liveView_eq
    (keeps : region.KeepsLog kind convHash newest) :
    region.liveView = newest := by
  obtain ⟨active, header, entries, ready, -, -, rfl⟩ := keeps
  rw [ready.liveView_eq, keptEntries_encode]

/-- The conversation the region is claimed for. -/
theorem header_eq
    (keeps : region.KeepsLog kind convHash newest) :
    ∃ generation,
      region.header =
        some
          { kind := kind
            convHash := convHash
            generation := generation } := by
  obtain ⟨active, header, entries, ready, rfl, rfl, -⟩ := keeps
  refine ⟨header.generation, ?_⟩
  simp [HistoryRegion.header, ready.settled.activeSectorIndex_eq,
    ready.settled.activeHeader]

/-- A freshly claimed region is an empty log. -/
theorem claimed
    (kind : HistoryMsgType)
    (convHash : UInt8) :
    (newErased.claim kind convHash).KeepsLog kind convHash [] :=
  ⟨0, _, [], TornLog.ready_claimed kind convHash, rfl, rfl, rfl⟩

/-- An append is accepted and adds the entry. -/
theorem append
    (keeps : region.KeepsLog kind convHash newest)
    (slot : DecodedSlot) :
    ∃ after,
      region.append slot = .ok after ∧
        after.KeepsLog kind convHash (recent (newest ++ [slot])) := by
  obtain ⟨active, header, entries, ready, sameKind, sameHash, rfl⟩ :=
    keeps
  rcases Nat.lt_or_ge entries.length slotsPerSector with notFull | full
  · have writes :=
      ready.appendWrites_notFull (by simpa using notFull) slot
    rw [List.length_map] at writes
    refine ⟨_, by simp only [HistoryRegion.append, writes]; rfl,
      active, header, entries ++ [slot], ?_, sameKind, sameHash, ?_⟩
    · exact ready.writeEntry notFull slot
    · exact (recent_recent_concat entries slot).symm
  · have writes := ready.appendWrites_full (by simpa using full) slot
    rw [keptEntries_encode] at writes
    have handedOff := ready.handOff
    rw [keptEntries_encode] at handedOff
    have roomAfter : (recent entries).length < slotsPerSector := by
      have few := length_recent_le entries
      simp only [maxHistoryEntries, slotsPerSector] at *
      omega
    refine ⟨_, by simp only [HistoryRegion.append, writes]; rfl,
      1 - active, header.next, recent entries ++ [slot], ?_, sameKind,
      sameHash, rfl⟩
    rw [applyWrites_append]
    exact handedOff.writeEntry roomAfter slot

/-- Appending entries one after the other adds them all. -/
theorem appendAll
    (keeps : region.KeepsLog kind convHash newest)
    (slots : List DecodedSlot) :
    ∃ after,
      region.appendAll slots = .ok after ∧
        after.KeepsLog kind convHash (recent (newest ++ slots)) := by
  induction slots generalizing region newest with
  | nil =>
      refine ⟨region, rfl, ?_⟩
      have few : newest.length ≤ maxHistoryEntries := by
        obtain ⟨active, header, entries, -, -, -, rfl⟩ := keeps
        exact length_recent_le entries
      rw [List.append_nil, recent_of_few few]
      exact keeps
  | cons slot rest inductionHypothesis =>
      obtain ⟨between, appended, keepsBetween⟩ := keeps.append slot
      obtain ⟨after, appendedRest, keepsAfter⟩ :=
        inductionHypothesis keepsBetween
      refine ⟨after, ?_, ?_⟩
      · simp only [HistoryRegion.appendAll, List.foldlM_cons, appended]
        exact appendedRest
      · rw [recent_recent_append] at keepsAfter
        simpa using keepsAfter

end KeepsLog

/--
Whatever is appended to a claimed region is accepted, and its live view is the
end of the appended entries, unaltered and in order: all of them up to 32, and
the newest 32 beyond.
-/
theorem appendAll_exact
    (kind : HistoryMsgType)
    (convHash : UInt8)
    (slots : List DecodedSlot) :
    ∃ after,
      (newErased.claim kind convHash).appendAll slots = .ok after ∧
        after.liveView <:+ slots ∧
        after.liveView.length = min slots.length maxHistoryEntries := by
  obtain ⟨after, appended, keeps⟩ :=
    (KeepsLog.claimed kind convHash).appendAll slots
  refine ⟨after, appended, ?_, ?_⟩
  · rw [keeps.liveView_eq, List.nil_append]
    exact List.drop_suffix _ _
  · rw [keeps.liveView_eq, List.nil_append]
    simp only [recent, List.rtake, List.length_drop]
    omega

end HistoryRegion

end MeshCadet
