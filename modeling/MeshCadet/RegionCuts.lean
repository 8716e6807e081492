import MeshCadet.PowerLoss

namespace MeshCadet

/-!
# Appends to flash that lose power

An append to a region in flash claims the region or compacts it if it has to, and
then writes one slot.  Wherever power is lost, every sector with a header still
holds slots without gaps, and of the appended entry nothing can be decoded while
no more than one byte of its slot is stored.
-/

open FlashCells

namespace HistoryRegion

/-- The writes that claim a region. -/
def claimWrites
    (kind : HistoryMsgType)
    (convHash : UInt8) :
    List RegionWrite :=
  [.erase 0 sectorSize,
    .erase 1 sectorSize,
    .header 0
      (encodeRegionHeader
        { kind := kind, convHash := convHash, generation := 0 }).toList]

/-- The writes of an append to a claimed region: a compaction if it is needed,
then the slot. -/
def appendRegionWrites
    (region : HistoryRegion)
    (slot : DecodedSlot) :
    Option (List RegionWrite) := do
  let (active, header) ← region.activeSector
  let head := findWriteHead (region active)
  if slotsPerSector ≤ head then
    let rewrite :=
      rewriteRegionWrites active header (region.gatherLive active)
    let compacted := region.applyWrites Medium.nor rewrite
    let (newActive, _) ← compacted.activeSector
    let newHead := findWriteHead (compacted newActive)
    some (rewrite ++ [.slot newActive newHead (encodeSlot slot).toList])
  else
    some [.slot active head (encodeSlot slot).toList]

/-- An append carries out its writes. -/
theorem appendRegion_eq
    (region : HistoryRegion)
    (slot : DecodedSlot) :
    region.appendRegion slot =
      (region.appendRegionWrites slot).map
        (region.applyWrites Medium.nor) := by
  rw [appendRegion, appendRegionWrites]
  cases region.activeSector with
  | none => rfl
  | some found =>
      obtain ⟨active, header⟩ := found
      simp only [Option.bind_eq_bind, Option.bind_some]
      split
      · rw [compactRegion, rewriteRegion]
        cases
          (region.applyWrites Medium.nor
            (rewriteRegionWrites active header
              (region.gatherLive active))).activeSector with
        | none => rfl
        | some found =>
            simp [writeSlot]
      · rfl

/-- A slot that may be stored: one that does not decode, or any slot at all. -/
def Stale
    (any : Prop)
    (blob : EntryBlob) :
    Prop :=
  any ∨ decodeSlot blob = none

/-- Every sector with a header holds slots without gaps, all of them stale. -/
def Filled
    (any : Prop)
    (region : HistoryRegion) :
    Prop :=
  ∀ sector header,
    region.headerOf sector = some header →
      ∃ blobs,
        HoldsSlots (region sector) blobs ∧
          ∀ blob ∈ blobs, Stale any blob

/-- The authoritative sector is the conversation's and holds the slots. -/
def HoldsLog
    (region : HistoryRegion)
    (kind : HistoryMsgType)
    (convHash : UInt8)
    (blobs : List EntryBlob) :
    Prop :=
  ∃ active header,
    region.activeSector = some (active, header) ∧
      header.kind = kind ∧
      header.convHash = convHash ∧
      HoldsSlots (region active) blobs

/-- The slots that a compaction copies. -/
def recopied
    (blobs : List EntryBlob) :
    List EntryBlob :=
  ((blobs.rtake maxHistoryEntries).filterMap decodeSlot).map encodeSlot

/-- The authoritative sector has the header. -/
theorem headerOf_activeSector
    {region : HistoryRegion}
    {active : Fin 2}
    {header : RegionHeader}
    (isActive : region.activeSector = some (active, header)) :
    region.headerOf active = some header := by
  unfold activeSector at isActive
  split at isActive
  · split at isActive <;> cases isActive <;> assumption
  · cases isActive
    assumption
  · cases isActive
    assumption
  · cases isActive

/-- The authoritative sector depends on the headers only. -/
theorem activeSector_congr
    {region other : HistoryRegion}
    (same :
      ∀ owner, read (other owner) 0 8 = read (region owner) 0 8) :
    other.activeSector = region.activeSector := by
  have sameHeaders :
      ∀ owner, other.headerOf owner = region.headerOf owner := by
    intro owner
    rw [headerOf, headerOf, same]
  rw [activeSector, activeSector, sameHeaders, sameHeaders]

section Filled

variable
    {any : Prop}
    {region : HistoryRegion}

/-- A sector that is as before, or has no header, or holds stale slots keeps the
region filled. -/
theorem Filled.update
    (filled : Filled any region)
    {after : HistoryRegion}
    {sector : Fin 2}
    (others : ∀ owner, owner ≠ sector → after owner = region owner)
    (own :
      after.headerOf sector = none ∨
        ∃ blobs,
          HoldsSlots (after sector) blobs ∧
            ∀ blob ∈ blobs, Stale any blob) :
    Filled any after := by
  intro owner header hasHeader
  by_cases same : owner = sector
  · subst same
    rcases own with silent | holds
    · rw [silent] at hasHeader
      cases hasHeader
    · exact holds
  · have untouched := others owner same
    rw [headerOf, untouched] at hasHeader
    rw [untouched]
    exact filled owner header hasHeader

/-- Erasing any part of a sector keeps a region filled. -/
theorem Filled.erase
    (filled : Filled any region)
    (sector : Fin 2)
    (length : Nat) :
    Filled any
      (region.applyWrite Medium.nor (.erase sector length)) := by
  rcases Nat.eq_zero_or_pos length with rfl | started
  · rw [applyWrite_erase_zero]
    exact filled
  · exact filled.update
      (fun _ other => applyWrite_other _ _ other)
      (Or.inl (headerOf_erase _ _ _ started))

/-- A header, or a part of it, on a sector with stale slots keeps a region
filled. -/
theorem Filled.header
    (filled : Filled any region)
    {sector : Fin 2}
    {blobs : List EntryBlob}
    (holds : HoldsSlots (region sector) blobs)
    (stale : ∀ blob ∈ blobs, Stale any blob)
    {bytes : List UInt8}
    (short : bytes.length ≤ regionHeaderLen) :
    Filled any
      (region.applyWrite Medium.nor (.header sector bytes)) := by
  refine filled.update
    (fun _ other => applyWrite_other _ _ other)
    (Or.inr ⟨blobs, ?_, stale⟩)
  have own := applyWrite_own Medium.nor region (.header sector bytes)
  exact own.symm ▸ holds.write_header Medium.nor short

/-- A slot at the head of a sector that leaves a stale trace, or none, keeps a
region filled. -/
theorem Filled.slot
    (filled : Filled any region)
    {sector : Fin 2}
    {blobs : List EntryBlob}
    (holds : HoldsSlots (region sector) blobs)
    (stale : ∀ blob ∈ blobs, Stale any blob)
    (notFull : blobs.length < slotsPerSector)
    (blob : EntryBlob)
    (written : Nat)
    (staleTrace : Stale any (torn blob written)) :
    Filled any
      (region.applyWrite Medium.nor
        (.slot sector blobs.length (blob.toList.take written))) := by
  have own :=
    applyWrite_own Medium.nor region
      (.slot sector blobs.length (blob.toList.take written))
  refine filled.update
    (fun _ other => applyWrite_other _ _ other) (Or.inr ?_)
  by_cases noTrace : torn blob written = blank 72
  · exact ⟨blobs,
      own.symm ▸
        holds.write_blank Medium.nor notFull blob written noTrace,
      stale⟩
  · refine ⟨blobs ++ [torn blob written],
      own.symm ▸ holds.write_slot Medium.nor notFull blob written noTrace,
      ?_⟩
    intro other member
    rcases List.mem_append.mp member with old | isNew
    · exact stale other old
    · rw [List.mem_singleton.mp isNew]
      exact staleTrace

/-- Slots of a sector without a header keep a region filled. -/
theorem Filled.silentSlots
    (filled : Filled any region)
    {sector : Fin 2}
    (silent : region.headerOf sector = none)
    {writes : List RegionWrite}
    (slots :
      ∀ write ∈ writes,
        ∃ index bytes, write = .slot sector index bytes) :
    Filled any (region.applyWrites Medium.nor writes) := by
  refine @Filled.update any region filled _ sector ?_ (Or.inl ?_)
  · intro owner other
    apply applyWrites_other
    intro write member
    obtain ⟨index, bytes, rfl⟩ := slots write member
    exact other
  · rw [headerOf, headerBytes_slots _ _ slots]
    exact silent

/-- Erased cells hold no slots. -/
theorem holdsSlots_applyWrite_erase
    (region : HistoryRegion)
    (sector : Fin 2) :
    HoldsSlots
      (region.applyWrite Medium.nor (.erase sector sectorSize) sector)
      [] := by
  have own := applyWrite_own Medium.nor region (.erase sector sectorSize)
  exact own.symm ▸ holdsSlots_erase (region sector)

/-- A cut before or inside the first write, or behind it. -/
theorem applyWrites_cutWrites_cons
    {good : HistoryRegion → Prop}
    {write : RegionWrite}
    {rest : List RegionWrite}
    (interrupted :
      ∀ written,
        good
          (region.applyWrite Medium.nor (write.interrupted written)))
    (behind :
      ∀ written,
        good
          ((region.applyWrite Medium.nor write).applyWrites Medium.nor
            (cutWrites written rest)))
    (written : Nat) :
    good
      (region.applyWrites Medium.nor (cutWrites written (write :: rest))) := by
  rw [cutWrites]
  split
  · exact behind _
  · exact interrupted _

/-- Wherever a claim loses power, the region stays filled. -/
theorem Filled.cutClaim
    (filled : Filled any region)
    (kind : HistoryMsgType)
    (convHash : UInt8)
    (written : Nat) :
    Filled any
      (region.applyWrites Medium.nor
        (cutWrites written (claimWrites kind convHash))) := by
  have firstErased := filled.erase 0 sectorSize
  have bothErased := firstErased.erase 1 sectorSize
  have noSlots :
      HoldsSlots
        ((region.applyWrite Medium.nor
          (.erase 0 sectorSize)).applyWrite Medium.nor
            (.erase 1 sectorSize) 0)
        [] := by
    rw [applyWrite_other _ _ (by decide : (0 : Fin 2) ≠ 1)]
    exact holdsSlots_applyWrite_erase region 0
  refine applyWrites_cutWrites_cons (fun _ => filled.erase _ _) ?_ written
  refine applyWrites_cutWrites_cons (fun _ => firstErased.erase _ _) ?_
  refine applyWrites_cutWrites_cons ?_ ?_
  · intro torn
    refine bothErased.header noSlots (by simp) ?_
    rw [List.length_take, Vector.length_toList]
    exact Nat.min_le_right _ _
  · intro _
    exact bothErased.header noSlots (by simp) (by simp [regionHeaderLen])

/-- Wherever a rewrite loses power, the region stays filled. -/
theorem Filled.cutRewrite
    (filled : Filled any region)
    (active : Fin 2)
    (header : RegionHeader)
    {entries : List DecodedSlot}
    (few : entries.length ≤ maxHistoryEntries)
    (stale : ∀ blob ∈ entries.map encodeSlot, Stale any blob)
    (written : Nat) :
    Filled any
      (region.applyWrites Medium.nor
        (cutWrites written
          (rewriteRegionWrites active header entries))) := by
  have spareErased := filled.erase (1 - active) sectorSize
  have silent :
      (region.applyWrite Medium.nor
        (.erase (1 - active) sectorSize)).headerOf (1 - active) = none :=
    headerOf_erase _ _ _ (by decide)
  have withHeader :
      ∀ headerBytes,
        Filled any
          (region.withTornHeader active header entries headerBytes) := by
    intro headerBytes
    refine filled.update ?_
      (Or.inr ⟨_, region.withTornHeader_slots active header entries
        headerBytes few, stale⟩)
    intro owner other
    have isActive : owner = active := by omega
    rw [isActive]
    exact region.withTornHeader_active active header entries headerBytes
  rcases region.cut_cases active header entries written with
    ⟨-, onlyErase⟩ | ⟨-, slots, onlySlots, areSlots⟩ |
    ⟨-, tornHeader⟩ | ⟨-, length, inOld⟩
  · rw [onlyErase]
    exact filled.erase _ _
  · rw [onlySlots]
    exact spareErased.silentSlots silent areSlots
  · rw [tornHeader]
    exact withHeader _
  · rw [inOld]
    exact (withHeader 8).erase _ _

end Filled

/-- Of one byte nothing can be decoded. -/
theorem decodeSlot_torn
    (blob : EntryBlob)
    {written : Nat}
    (few : written ≤ 1) :
    decodeSlot (torn blob written) = none := by
  have typeErased : (torn blob written)[1] = 0xFF := by
    have notReached : ¬1 < written := by omega
    simp [torn, notReached]
  have noType : HistoryMsgType.fromU8 0xFF = none := rfl
  simp [decodeSlot, decodeEntryBlob, typeErased, noType]

/-- Slots that do not decode are not copied, and other copies are slots. -/
theorem stale_copies
    {any : Prop}
    {blobs : List EntryBlob}
    (stale : ∀ blob ∈ blobs, Stale any blob)
    (count : Nat) :
    ∀ blob ∈ ((blobs.rtake count).filterMap decodeSlot).map encodeSlot,
      Stale any blob := by
  intro blob member
  obtain ⟨slot, decoded, -⟩ := List.mem_map.mp member
  obtain ⟨source, isSource, isDecoded⟩ := List.mem_filterMap.mp decoded
  rcases stale source (List.mem_of_mem_drop isSource) with anySlot | notDecoded
  · exact Or.inl anySlot
  · rw [notDecoded] at isDecoded
    cases isDecoded

/-- After the writes the sector is the conversation's, and has a slot left. -/
structure OpensLog
    (region : HistoryRegion)
    (kind : HistoryMsgType)
    (convHash : UInt8)
    (writes : List RegionWrite)
    (sector : Fin 2)
    (kept : List EntryBlob) :
    Prop where
  notFull : kept.length < slotsPerSector
  slots : HoldsSlots (region.applyWrites Medium.nor writes sector) kept
  active :
    ∃ header,
      (region.applyWrites Medium.nor writes).activeSector =
          some (sector, header) ∧
        header.kind = kind ∧
        header.convHash = convHash

/-- The write of an entry's slot. -/
def slotWrite
    (sector : Fin 2)
    (index : Nat)
    (slot : DecodedSlot) :
    RegionWrite :=
  .slot sector index (encodeSlot slot).toList

theorem size_slotWrite
    (sector : Fin 2)
    (index : Nat)
    (slot : DecodedSlot) :
    (slotWrite sector index slot).size = 72 := by
  simp [slotWrite, RegionWrite.size]

theorem totalSize_append
    (first second : List RegionWrite) :
    totalSize (first ++ second) = totalSize first + totalSize second := by
  simp [totalSize]

theorem totalSize_slotWrite
    (writes : List RegionWrite)
    (sector : Fin 2)
    (index : Nat)
    (slot : DecodedSlot) :
    totalSize (writes ++ [slotWrite sector index slot]) =
      totalSize writes + 72 := by
  rw [totalSize_append]
  simp [totalSize, size_slotWrite]

/-- A cut behind the last write leaves all of them whole. -/
theorem cutWrites_all
    {writes : List RegionWrite}
    {written : Nat}
    (behind : totalSize writes ≤ written) :
    cutWrites written writes = writes := by
  have whole := cutWrites_append_of_le behind []
  simpa [cutWrites] using whole

namespace OpensLog

variable
    {any : Prop}
    {region : HistoryRegion}
    {kind : HistoryMsgType}
    {convHash : UInt8}
    {writes : List RegionWrite}
    {sector : Fin 2}
    {kept : List EntryBlob}

/-- The whole append adds the slot. -/
theorem append
    (opens : OpensLog region kind convHash writes sector kept)
    (slot : DecodedSlot) :
    HoldsLog
      (region.applyWrites Medium.nor
        (writes ++ [slotWrite sector kept.length slot]))
      kind convHash (kept ++ [encodeSlot slot]) := by
  obtain ⟨header, isActive, sameKind, sameHash⟩ := opens.active
  have isSlots :
      [slotWrite sector kept.length slot] =
        slotWrites sector kept.length [slot] :=
    rfl
  have onlySlots :
      ∀ write ∈ slotWrites sector kept.length [slot],
        ∃ index bytes, write = .slot sector index bytes :=
    fun _ member => mem_slotWrites member
  have sameHeaders :=
    headerBytes_slots Medium.nor (region.applyWrites Medium.nor writes)
      onlySlots
  rw [applyWrites_append, isSlots]
  refine ⟨sector, header, ?_, sameKind, sameHash, ?_⟩
  · rw [activeSector_congr sameHeaders]
    exact isActive
  · have room : kept.length + [slot].length ≤ slotsPerSector := by
      have notFull := opens.notFull
      simp only [List.length_singleton]
      omega
    exact holdsSlots_slotWrites Medium.nor opens.slots room

/-- An append that loses power leaves the region filled, if no slot is too many or
no more than one byte of the slot was stored. -/
theorem cut
    (opens : OpensLog region kind convHash writes sector kept)
    (filled :
      ∀ written,
        Filled any
          (region.applyWrites Medium.nor (cutWrites written writes)))
    (stale : ∀ blob ∈ kept, Stale any blob)
    (slot : DecodedSlot)
    {written : Nat}
    (early :
      any ∨
        written + 71 ≤
          totalSize (writes ++ [slotWrite sector kept.length slot])) :
    Filled any
      (region.applyWrites Medium.nor
        (cutWrites written
          (writes ++ [slotWrite sector kept.length slot]))) := by
  rcases Nat.lt_or_ge written (totalSize writes) with inside | behind
  · rw [cutWrites_append_of_lt inside]
    exact filled written
  have prepared := filled (totalSize writes)
  rw [cutWrites_all (Nat.le_refl _)] at prepared
  rw [cutWrites_append_of_le behind, applyWrites_append]
  have ofTrace :
      ∀ stored,
        any ∨ stored ≤ 1 →
        Filled any
          ((region.applyWrites Medium.nor writes).applyWrite Medium.nor
            (.slot sector kept.length
              ((encodeSlot slot).toList.take stored))) := by
    intro stored few
    exact prepared.slot opens.slots stale opens.notFull (encodeSlot slot)
      stored (few.imp_right (decodeSlot_torn _))
  rw [totalSize_slotWrite] at early
  rw [cutWrites, size_slotWrite]
  split
  · rename_i complete
    have whole :
        (encodeSlot slot).toList.take 72 = (encodeSlot slot).toList :=
      List.take_of_length_le (by simp)
    have stored := ofTrace 72 (early.imp_right fun _ => by omega)
    rw [whole] at stored
    exact stored
  · exact ofTrace _ (early.imp_right fun _ => by omega)

end OpensLog

/-- The first slot of a claimed region is written without more ado. -/
theorem appendRegionWrites_claimRegion
    (region : HistoryRegion)
    (kind : HistoryMsgType)
    (convHash : UInt8)
    (slot : DecodedSlot) :
    (region.claimRegion kind convHash).appendRegionWrites slot =
      some [slotWrite 0 0 slot] := by
  have settled := region.settled_claimRegion kind convHash
  have isActive := activeSector_eq settled
  have newHead := settled.slots.findWriteHead_eq
  have room : ¬slotsPerSector ≤ 0 := by decide
  simp [appendRegionWrites, isActive, newHead, room, slotWrite]

/-- An append to a conversation's region opens its log, compacting it if it is
full. -/
theorem HoldsLog.opens
    {region : HistoryRegion}
    {kind : HistoryMsgType}
    {convHash : UInt8}
    {blobs : List EntryBlob}
    (log : region.HoldsLog kind convHash blobs)
    (slot : DecodedSlot) :
    ∃ writes sector kept,
      region.appendRegionWrites slot =
          some (writes ++ [slotWrite sector kept.length slot]) ∧
        OpensLog region kind convHash writes sector kept ∧
        (writes = [] ∧ kept = blobs ∨
          ∃ active header entries,
            writes = rewriteRegionWrites active header entries ∧
              entries.length ≤ maxHistoryEntries ∧
              kept = entries.map encodeSlot ∧
              kept = recopied blobs) := by
  obtain ⟨active, header, isActive, sameKind, sameHash, holds⟩ := log
  rcases Nat.lt_or_ge blobs.length slotsPerSector with notFull | full
  · refine ⟨[], active, blobs, ?_, ?_, Or.inl ⟨rfl, rfl⟩⟩
    · have room : ¬slotsPerSector ≤ blobs.length := by omega
      simp [appendRegionWrites, isActive, holds.findWriteHead_eq, room,
        slotWrite]
    · exact
        { notFull := notFull
          slots := holds
          active := ⟨header, isActive, sameKind, sameHash⟩ }
  · have few := region.length_gatherLive active
    have compacted :=
      region.settled_rewriteRegion active header few
    have isNewActive := activeSector_eq compacted
    have kept :
        (region.gatherLive active).map encodeSlot = recopied blobs := by
      rw [holds.gatherLive_eq]
      rfl
    have many : maxHistoryEntries = 32 := rfl
    have slots : slotsPerSector = 56 := rfl
    refine
      ⟨rewriteRegionWrites active header (region.gatherLive active),
        1 - active, (region.gatherLive active).map encodeSlot, ?_, ?_,
        Or.inr ⟨active, header, _, rfl, few, rfl, kept⟩⟩
    · rw [rewriteRegion] at isNewActive
      have newHead := compacted.slots.findWriteHead_eq
      rw [rewriteRegion] at newHead
      simp [appendRegionWrites, isActive, holds.findWriteHead_eq, full,
        isNewActive, newHead, slotWrite]
    · exact
        { notFull := by
            rw [List.length_map]
            omega
          slots := compacted.slots
          active := ⟨header.next, isNewActive, sameKind, sameHash⟩ }

end HistoryRegion

end MeshCadet
