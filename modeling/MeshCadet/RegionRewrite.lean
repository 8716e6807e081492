import MeshCadet.RegionHandOff

namespace MeshCadet

/-!
# Rewriting a region

The flash store changes stored entries by rewriting the region: the spare is
erased and filled, its header is written last, and the old sector is erased.
Up to the header the active sector is untouched; with the header the rewritten
entries are the region's.
-/

open FlashCells

namespace HistoryRegion

/-- The live entries with the newest pending outbound one acknowledged. -/
def withNewestAcked
    (live : List DecodedSlot) :
    List DecodedSlot :=
  Search.updateLast DecodedSlot.isOursUnacked DecodedSlot.markAcked live

/-- The flash store's write sequence of a rewrite. -/
def rewriteRegionWrites
    (active : Fin 2)
    (header : RegionHeader)
    (entries : List DecodedSlot) :
    List RegionWrite :=
  .erase (1 - active) sectorSize ::
    handOffWrites active header entries

/-- Six bytes hold everything that is read back. -/
theorem decode_torn_complete
    (header : RegionHeader)
    {written : Nat}
    (enough : 6 ≤ written) :
    decodeRegionHeader (torn (encodeRegionHeader header) written) =
      some header := by
  have reached : ∀ index, index < 6 → index < written := by
    intro index inside
    omega
  simp [decodeRegionHeader, torn, encodeRegionHeader, reached]

/-- The same cells in the active sector give the same live entries. -/
theorem gatherLive_congr
    {before after : HistoryRegion}
    {sector : Fin 2}
    (same : after sector = before sector) :
    after.gatherLive sector = before.gatherLive sector := by
  have sameSlots :
      after.decodeSlotAt sector = before.decodeSlotAt sector := by
    funext slot
    simp [decodeSlotAt, same]
  simp [gatherLive, same, sameSlots]

/-- At most 32 entries are live. -/
theorem length_gatherLive
    (region : HistoryRegion)
    (sector : Fin 2) :
    (region.gatherLive sector).length ≤ maxHistoryEntries := by
  have bound :=
    List.length_filterMap_le (region.decodeSlotAt sector)
      (List.range'
        (findWriteHead (region sector) - maxHistoryEntries)
        (findWriteHead (region sector) -
          (findWriteHead (region sector) - maxHistoryEntries)))
  simp only [gatherLive, List.length_range'] at bound ⊢
  omega

/-- A sector with exactly the rewritten entries reads them all. -/
theorem gatherLive_rewritten
    {after : HistoryRegion}
    {entries : List DecodedSlot}
    (few : entries.length ≤ maxHistoryEntries)
    {sector : Fin 2}
    (holds : HoldsSlots (after sector) (entries.map encodeSlot)) :
    after.gatherLive sector = entries := by
  have whole :
      (entries.map encodeSlot).length - maxHistoryEntries = 0 := by
    simp
    omega
  rw [holds.gatherLive_eq, whole, List.drop_zero]
  simp [List.filterMap_map]

/-- Erasing a sector's first bytes takes its header away. -/
theorem headerOf_erase
    (medium : Medium)
    (region : HistoryRegion)
    (sector : Fin 2)
    {length : Nat}
    (started : 0 < length) :
    (region.applyWrite medium (.erase sector length)).headerOf sector =
      none := by
  have firstByte :
      (read
          (region.applyWrite medium (.erase sector length) sector)
          0 8)[0] =
        0xFF := by
    rw [show
      region.applyWrite medium (.erase sector length) sector =
        erase (region sector) length
      from applyWrite_own medium region (.erase sector length)]
    simpa [FlashCells.read] using erase_first (region sector) started
  simp [headerOf, decodeRegionHeader, firstByte]

/-- A header on a filled spare, then the erase: the spare has taken over. -/
theorem settled_takeOver
    (medium : Medium)
    {region : HistoryRegion}
    {active : Fin 2}
    {blobs : List EntryBlob}
    (holds : HoldsSlots (region (1 - active)) blobs)
    (isBlank : read (region (1 - active)) 0 8 = blank 8)
    (header : RegionHeader) :
    (region.applyWrites medium
        [.header (1 - active) (encodeRegionHeader header).toList,
          .erase active sectorSize]).Settled
      (1 - active) header blobs := by
  have whole :
      (encodeRegionHeader header).toList.take 8 =
        (encodeRegionHeader header).toList :=
    List.take_of_length_le (by simp)
  have other : 1 - active ≠ active := (ne_spare active).symm
  let committed :=
    region.applyWrite medium
      (.header (1 - active) (encodeRegionHeader header).toList)
  refine
    { activeHeader := ?_
      spareHeader := ?_
      slots := ?_ }
  · rw [applyWrites_cons, applyWrites_cons, applyWrites_nil, headerOf,
      applyWrite_other _ _ other]
    have readBack := headerOf_write_header medium isBlank header 8
    rwa [whole, decode_torn_complete header (by omega)] at readBack
  · rw [spare_spare]
    exact headerOf_erase medium committed active (by decide)
  · have written :
        committed (1 - active) =
          write medium (region (1 - active)) 0
            (encodeRegionHeader header).toList :=
      applyWrite_own _ _ (.header (1 - active) _)
    have holdsAfter : HoldsSlots (committed (1 - active)) blobs := by
      rw [written]
      exact holds.write_header medium (by simp [regionHeaderLen])
    rw [applyWrites_cons, applyWrites_cons, applyWrites_nil,
      applyWrite_other _ _ other]
    exact holdsAfter

section Sequence

variable
    (region : HistoryRegion)
    (active : Fin 2)
    (header : RegionHeader)
    (entries : List DecodedSlot)

/-- The region once the spare holds all entries and still no header. -/
def filledSpare :
    HistoryRegion :=
  (region.applyWrite Medium.nor
      (.erase (1 - active) sectorSize)).applyWrites Medium.nor
    (slotWrites (1 - active) 0 entries)

theorem filledSpare_active :
    region.filledSpare active entries active = region active := by
  have other : ∀ write ∈ slotWrites (1 - active) 0 entries,
      active ≠ write.sector := by
    intro write member
    obtain ⟨index, bytes, rfl⟩ := mem_slotWrites member
    exact ne_spare active
  rw [filledSpare, applyWrites_other _ _ other]
  exact applyWrite_other _ _ (ne_spare active)

theorem filledSpare_slots
    (few : entries.length ≤ maxHistoryEntries) :
    HoldsSlots (region.filledSpare active entries (1 - active))
      (entries.map encodeSlot) := by
  have emptied :
      HoldsSlots
        (region.applyWrite Medium.nor
          (.erase (1 - active) sectorSize) (1 - active))
        [] := by
    rw [show
      region.applyWrite Medium.nor
          (.erase (1 - active) sectorSize) (1 - active) =
        erase (region (1 - active)) sectorSize
      from applyWrite_own _ region (.erase (1 - active) sectorSize)]
    exact holdsSlots_erase _
  have fits : ([] : List EntryBlob).length + entries.length ≤
      slotsPerSector := by
    simp only [maxHistoryEntries, slotsPerSector] at *
    simp
    omega
  simpa [filledSpare] using
    holdsSlots_slotWrites Medium.nor emptied fits

theorem filledSpare_header :
    read (region.filledSpare active entries (1 - active)) 0 8 =
      blank 8 := by
  rw [filledSpare,
    headerBytes_slots Medium.nor _ fun _ member => mem_slotWrites member,
    show
      region.applyWrite Medium.nor
          (.erase (1 - active) sectorSize) (1 - active) =
        erase (region (1 - active)) sectorSize
      from applyWrite_own _ region (.erase (1 - active) sectorSize)]
  apply read_erase_inside
  simp only [sectorSize]
  omega

end Sequence

/-- The region after the spare's header was written up to some byte. -/
def withTornHeader
    (region : HistoryRegion)
    (active : Fin 2)
    (header : RegionHeader)
    (entries : List DecodedSlot)
    (headerBytes : Nat) :
    HistoryRegion :=
  (region.filledSpare active entries).applyWrite Medium.nor
    (.header (1 - active)
      ((encodeRegionHeader header.next).toList.take headerBytes))

section TornHeader

variable
    (region : HistoryRegion)
    (active : Fin 2)
    (header : RegionHeader)
    (entries : List DecodedSlot)
    (headerBytes : Nat)

theorem withTornHeader_active :
    region.withTornHeader active header entries headerBytes active =
      region active := by
  rw [withTornHeader, applyWrite_other _ _ (ne_spare active)]
  exact region.filledSpare_active active entries

theorem withTornHeader_slots
    (few : entries.length ≤ maxHistoryEntries) :
    HoldsSlots
      (region.withTornHeader active header entries headerBytes
        (1 - active))
      (entries.map encodeSlot) := by
  rw [withTornHeader, show
    (region.filledSpare active entries).applyWrite Medium.nor
        (.header (1 - active)
          ((encodeRegionHeader header.next).toList.take headerBytes))
        (1 - active) =
      write Medium.nor
        (region.filledSpare active entries (1 - active)) 0
        ((encodeRegionHeader header.next).toList.take headerBytes)
    from applyWrite_own _ _ (.header (1 - active) _)]
  apply (region.filledSpare_slots active entries few).write_header
  rw [List.length_take, Vector.length_toList]
  exact Nat.min_le_right _ _

theorem withTornHeader_header :
    (region.withTornHeader active header entries
        headerBytes).headerOf (1 - active) =
      decodeRegionHeader
        (torn (encodeRegionHeader header.next) headerBytes) :=
  headerOf_write_header Medium.nor
    (region.filledSpare_header active entries) header.next headerBytes

end TornHeader

/-- A complete rewrite leaves the region at rest with the entries it was given. -/
theorem settled_rewrite
    (region : HistoryRegion)
    (active : Fin 2)
    (header : RegionHeader)
    {entries : List DecodedSlot}
    (few : entries.length ≤ maxHistoryEntries) :
    (region.applyWrites Medium.nor
        (rewriteRegionWrites active header entries)).Settled
      (1 - active) header.next (entries.map encodeSlot) := by
  have sequence :
      region.applyWrites Medium.nor
          (rewriteRegionWrites active header entries) =
        (region.filledSpare active entries).applyWrites Medium.nor
          [.header (1 - active) (encodeRegionHeader header.next).toList,
            .erase active sectorSize] := by
    simp [rewriteRegionWrites, handOffWrites, filledSpare]
  rw [sequence]
  exact settled_takeOver Medium.nor
    (region.filledSpare_slots active entries few)
    (region.filledSpare_header active entries) header.next

end HistoryRegion

end MeshCadet
