import MeshCadet.LegacyMigration

namespace MeshCadet

/-!
# What a replayed migration leaves

While no interrupted boot has left a slot that decodes, the regions hold nothing
but stale slots, and the boot that completes puts the legacy entries behind them.
The same goes for any slots, if the legacy entries fill all that is kept.
-/

open FlashCells HistoryRegion

namespace HistoryRegion

/-- The region's log ends with the entries; the slots before them are stale. -/
def Trails
    (any : Prop)
    (region : HistoryRegion)
    (kind : HistoryMsgType)
    (convHash : UInt8)
    (entries : List DecodedSlot) :
    Prop :=
  ∃ prior,
    (∀ blob ∈ prior, Stale any blob) ∧
      region.HoldsLog kind convHash (prior ++ entries.map encodeSlot)

/-- The header of the active sector names the conversation. -/
theorem HoldsLog.claimed
    {region : HistoryRegion}
    {kind : HistoryMsgType}
    {convHash : UInt8}
    {blobs : List EntryBlob}
    (log : region.HoldsLog kind convHash blobs) :
    ∃ active header,
      region.activeSector = some (active, header) ∧
        header.kind = kind ∧
        header.convHash = convHash := by
  obtain ⟨active, header, isActive, sameKind, sameHash, -⟩ := log
  exact ⟨active, header, isActive, sameKind, sameHash⟩

/-- The two ways of finding the authoritative sector agree. -/
theorem activeSectorIndex_of_activeSector
    {region : HistoryRegion}
    {active : Fin 2}
    {header : RegionHeader}
    (isActive : region.activeSector = some (active, header)) :
    region.activeSectorIndex = some active := by
  unfold activeSector at isActive
  unfold activeSectorIndex
  split at isActive
  · split at isActive <;> cases isActive <;> simp_all
  · cases isActive
    simp_all
  · cases isActive
    simp_all
  · cases isActive

/-- A reader sees what can be decoded of the newest 32 slots. -/
theorem HoldsLog.liveView_eq
    {region : HistoryRegion}
    {kind : HistoryMsgType}
    {convHash : UInt8}
    {blobs : List EntryBlob}
    (log : region.HoldsLog kind convHash blobs) :
    region.liveView =
      (blobs.rtake maxHistoryEntries).filterMap decodeSlot := by
  obtain ⟨active, header, isActive, -, -, holds⟩ := log
  rw [liveView, activeSectorIndex_of_activeSector isActive]
  exact holds.gatherLive_eq

/-- Of few entries behind other slots all are among the newest. -/
theorem rtake_append_entries
    (prior : List EntryBlob)
    {entries : List DecodedSlot}
    (few : entries.length ≤ maxHistoryEntries) :
    (prior ++ entries.map encodeSlot).rtake maxHistoryEntries =
      prior.rtake (maxHistoryEntries - entries.length) ++
        entries.map encodeSlot := by
  have atMost :
      prior.length + entries.length - maxHistoryEntries ≤ prior.length := by
    omega
  have sameCount :
      prior.length + entries.length - maxHistoryEntries =
        prior.length - (maxHistoryEntries - entries.length) := by
    omega
  rw [List.rtake, List.rtake, List.length_append, List.length_map,
    List.drop_append_of_le_length atMost, sameCount]

/-- Encoded entries decode. -/
theorem filterMap_decodeSlot_map
    (entries : List DecodedSlot) :
    (entries.map encodeSlot).filterMap decodeSlot = entries := by
  simp [List.filterMap_map]

/-- A compaction copies few entries behind stale slots whole. -/
theorem recopied_append_entries
    {any : Prop}
    {prior : List EntryBlob}
    (stale : ∀ blob ∈ prior, Stale any blob)
    {entries : List DecodedSlot}
    (few : entries.length ≤ maxHistoryEntries) :
    ∃ copies,
      (∀ blob ∈ copies, Stale any blob) ∧
        recopied (prior ++ entries.map encodeSlot) =
          copies ++ entries.map encodeSlot := by
  refine
    ⟨((prior.rtake (maxHistoryEntries - entries.length)).filterMap
      decodeSlot).map encodeSlot, ?_, ?_⟩
  · exact stale_copies stale _
  · rw [recopied, rtake_append_entries prior few, List.filterMap_append,
      filterMap_decodeSlot_map, List.map_append]

namespace Trails

variable
    {any : Prop}
    {region : HistoryRegion}
    {kind : HistoryMsgType}
    {convHash : UInt8}
    {entries : List DecodedSlot}

/-- A claimed region trails nothing yet. -/
theorem claimed
    (region : HistoryRegion)
    (kind : HistoryMsgType)
    (convHash : UInt8) :
    (region.claimRegion kind convHash).Trails any kind convHash [] := by
  have settled := region.settled_claimRegion kind convHash
  exact
    ⟨[], fun _ member => absurd member List.not_mem_nil,
      0, _, activeSector_eq settled, rfl, rfl, settled.slots⟩

/-- An append adds the entry at the end. -/
theorem append
    (trails : region.Trails any kind convHash entries)
    (few : entries.length ≤ maxHistoryEntries)
    (slot : DecodedSlot) :
    ∃ after,
      region.appendRegion slot = some after ∧
        after.Trails any kind convHash (entries ++ [slot]) := by
  obtain ⟨prior, stale, log⟩ := trails
  obtain ⟨writes, sector, kept, isWrites, opens, isKept⟩ := log.opens slot
  have added := opens.append slot
  have whole :
      ∃ before,
        (∀ blob ∈ before, Stale any blob) ∧
          kept = before ++ entries.map encodeSlot := by
    rcases isKept with ⟨-, same⟩ | ⟨-, -, -, -, -, -, isRecopied⟩
    · exact ⟨prior, stale, same⟩
    · obtain ⟨copies, staleCopies, isCopies⟩ :=
        recopied_append_entries stale few
      exact ⟨copies, staleCopies, isRecopied.trans isCopies⟩
  obtain ⟨before, staleBefore, isBefore⟩ := whole
  have isAfter :
      region.appendRegion slot =
        some
          (region.applyWrites Medium.nor
            (writes ++ [slotWrite sector kept.length slot])) := by
    rw [appendRegion_eq, isWrites]
    rfl
  refine ⟨_, isAfter, before, staleBefore, ?_⟩
  rw [List.map_append, ← List.append_assoc, ← isBefore]
  exact added

theorem isClaimed
    (trails : region.Trails any kind convHash entries) :
    ∃ active header,
      region.activeSector = some (active, header) ∧
        header.kind = kind ∧
        header.convHash = convHash := by
  obtain ⟨_, _, log⟩ := trails
  exact log.claimed

/-- A reader sees exactly the entries, if the slots before them do not decode or
are no longer kept. -/
theorem liveView_eq
    (trails : region.Trails any kind convHash entries)
    (few : entries.length ≤ maxHistoryEntries)
    (full : any → entries.length = maxHistoryEntries) :
    region.liveView = entries := by
  obtain ⟨prior, stale, log⟩ := trails
  have nothing :
      (prior.rtake (maxHistoryEntries - entries.length)).filterMap
          decodeSlot =
        [] := by
    rw [List.filterMap_eq_nil_iff]
    intro blob member
    rcases stale blob (List.mem_of_mem_drop member) with
      anySlot | notDecoded
    · rw [full anySlot, Nat.sub_self, List.rtake, Nat.sub_zero,
        List.drop_length] at member
      cases member
    · exact notDecoded
  rw [log.liveView_eq, rtake_append_entries prior few,
    List.filterMap_append, filterMap_decodeSlot_map, nothing,
    List.nil_append]

end Trails

end HistoryRegion

namespace HistoryStore

/-- Every region is filled. -/
def Filled
    (any : Prop)
    (store : HistoryStore) :
    Prop :=
  ∀ region, HistoryRegion.Filled any (store region)

/-- A conversation's region in a filled store holds stale slots. -/
theorem Filled.log
    {any : Prop}
    {store : HistoryStore}
    (filled : store.Filled any)
    {kind : HistoryMsgType}
    {convHash : UInt8}
    {region : Fin maxConversationRegions}
    (found : store.findClaimedRegion kind convHash = some region) :
    ∃ blobs,
      (∀ blob ∈ blobs, Stale any blob) ∧
        (store region).HoldsLog kind convHash blobs := by
  have belongs := (findClaimedRegion_eq_some_iff.mp found).1
  rw [belongsTo] at belongs
  split at belongs
  · rename_i active header isActive
    obtain ⟨blobs, holds, stale⟩ :=
      filled region active header (headerOf_activeSector isActive)
    obtain ⟨sameKind, sameHash⟩ := Bool.and_eq_true_iff.mp belongs
    exact ⟨blobs, stale, active, header, isActive,
      eq_of_beq sameKind, eq_of_beq sameHash, holds⟩
  · cases belongs

/-- The writes of an append to a filled store open a log of stale slots, and end
with the slot. -/
theorem Filled.opens
    {any : Prop}
    {store : HistoryStore}
    (filled : store.Filled any)
    {kind : HistoryMsgType}
    {convHash : UInt8}
    {slot : DecodedSlot}
    {region : Fin maxConversationRegions}
    {writes : List RegionWrite}
    (isWrites :
      store.conversationWrites kind convHash slot = .ok (region, writes)) :
    ∃ before sector kept,
      writes = before ++ [slotWrite sector kept.length slot] ∧
        OpensLog (store region) kind convHash before sector kept ∧
        (∀ blob ∈ kept, Stale any blob) ∧
        ∀ written,
          HistoryRegion.Filled any
            ((store region).applyWrites Medium.nor
              (cutWrites written before)) := by
  rw [conversationWrites] at isWrites
  cases found : store.findClaimedRegion kind convHash with
  | some claimed =>
      rw [found] at isWrites
      obtain ⟨blobs, stale, log⟩ := filled.log found
      obtain ⟨before, sector, kept, appends, opens, isKept⟩ :=
        log.opens slot
      simp only [appends] at isWrites
      cases isWrites
      refine ⟨before, sector, kept, rfl, opens, ?_⟩
      rcases isKept with
        ⟨rfl, rfl⟩ | ⟨active, header, entries, rfl, few, isCopies, isKept⟩
      · exact ⟨stale, fun _ => filled region⟩
      · have staleKept : ∀ blob ∈ kept, Stale any blob := by
          rw [isKept]
          exact stale_copies stale _
        refine ⟨staleKept, fun written => ?_⟩
        rw [isCopies] at staleKept
        exact (filled region).cutRewrite active header few staleKept written
  | none =>
      rw [found] at isWrites
      simp only at isWrites
      cases free :
          (List.finRange maxConversationRegions).find? fun region =>
            (store region).activeSector.isNone with
      | none =>
          rw [free] at isWrites
          cases isWrites
      | some unclaimed =>
          rw [free] at isWrites
          have settled :=
            (store unclaimed).settled_claimRegion kind convHash
          have isActive := activeSector_eq settled
          simp only [appendRegionWrites_claimRegion] at isWrites
          cases isWrites
          refine
            ⟨claimWrites kind convHash, 0, [], rfl, ?_,
              fun _ member => absurd member List.not_mem_nil,
              fun written =>
                (filled region).cutClaim kind convHash written⟩
          exact
            { notFull := by decide
              slots := settled.slots
              active := ⟨_, isActive, rfl, rfl⟩ }

/-- Writes in one region leave the others filled. -/
theorem Filled.carryOut
    {any : Prop}
    {store : HistoryStore}
    (filled : store.Filled any)
    {region : Fin maxConversationRegions}
    {writes : List RegionWrite}
    (own :
      HistoryRegion.Filled any
        ((store region).applyWrites Medium.nor writes)) :
    (store.carryOut region writes).Filled any := by
  intro other
  by_cases same : other = region
  · subst same
    rw [HistoryStore.carryOut, Function.update_self]
    exact own
  · rw [HistoryStore.carryOut, Function.update_of_ne same]
    exact filled other

/-- A migration that loses power leaves the store filled, if no slot is too many
or power is lost early. -/
theorem Filled.cutMigration
    {any : Prop}
    {store : HistoryStore}
    (filled : store.Filled any)
    {entries : List HistoryEntry}
    {written : Nat}
    (harmless : any ∨ LostEarly store entries written) :
    (store.cutMigration entries written).Filled any := by
  induction entries generalizing store written with
  | nil =>
      exact filled
  | cons entry rest inductionHypothesis =>
      rw [HistoryStore.cutMigration]
      cases isWrites : store.legacyWrites entry with
      | error problem =>
          refine inductionHypothesis filled (harmless.imp_right ?_)
          intro early
          rw [LostEarly, isWrites] at early
          exact early
      | ok found =>
          obtain ⟨region, writes⟩ := found
          obtain ⟨before, sector, kept, rfl, opens, stale, prepared⟩ :=
            filled.opens isWrites
          have early :
              any ∨ written + 71 ≤
                totalSize
                  (before ++
                    [slotWrite sector kept.length (legacySlot entry)]) := by
            refine harmless.imp_right ?_
            intro early
            rw [LostEarly, isWrites] at early
            exact early
          have cut := opens.cut prepared stale (legacySlot entry) early
          simp only
          split
          · rename_i complete
            rw [cutWrites_all complete] at cut
            refine inductionHypothesis (filled.carryOut cut) (Or.inl ?_)
            rcases early with anySlot | few
            · exact anySlot
            · omega
          · exact filled.carryOut cut

end HistoryStore

end MeshCadet
