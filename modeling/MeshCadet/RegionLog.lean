import Mathlib.Data.List.DropRight
import MeshCadet.RegionRewrite

namespace MeshCadet

/-!
# A region as a log of recent entries

The flash store's operations on one region, and what they mean: a claimed region
is a log of at most 32 recent entries.  Appending adds an entry at the end and
lets the oldest one go; acknowledging sets the delivery bit of the newest pending
outbound entry.  Compaction never shows.
-/

open FlashCells

namespace HistoryRegion

/-- The authoritative sector together with its header. -/
def activeSector
    (region : HistoryRegion) :
    Option (Fin 2 × RegionHeader) :=
  match region.headerOf 0, region.headerOf 1 with
  | some first, some second =>
      if generationIsNewer second.generation first.generation then
        some (1, second)
      else
        some (0, first)
  | some first, none => some (0, first)
  | none, some second => some (1, second)
  | none, none => none

/-- Claim a region: both sectors erased, then a first header in sector 0. -/
def claimRegion
    (region : HistoryRegion)
    (kind : HistoryMsgType)
    (convHash : UInt8) :
    HistoryRegion :=
  region.applyWrites Medium.nor
    [.erase 0 sectorSize,
      .erase 1 sectorSize,
      .header 0
        (encodeRegionHeader
          { kind := kind, convHash := convHash, generation := 0 }).toList]

/-- Carry the entries over to the spare sector and promote it. -/
def rewriteRegion
    (region : HistoryRegion)
    (active : Fin 2)
    (header : RegionHeader)
    (entries : List DecodedSlot) :
    HistoryRegion :=
  region.applyWrites Medium.nor
    (rewriteRegionWrites active header entries)

/-- Carry the live entries over unchanged. -/
def compactRegion
    (region : HistoryRegion)
    (active : Fin 2)
    (header : RegionHeader) :
    HistoryRegion :=
  region.rewriteRegion active header (region.gatherLive active)

/-- Write one slot. -/
def writeSlot
    (region : HistoryRegion)
    (sector : Fin 2)
    (index : Nat)
    (slot : DecodedSlot) :
    HistoryRegion :=
  region.applyWrite Medium.nor
    (.slot sector index (encodeSlot slot).toList)

/--
Append to a claimed region, compacting first when the active sector is full.
Nothing is returned where the source expects a sector and finds none.
-/
def appendRegion
    (region : HistoryRegion)
    (slot : DecodedSlot) :
    Option HistoryRegion := do
  let (active, header) ← region.activeSector
  let head := findWriteHead (region active)
  if slotsPerSector ≤ head then
    let compacted := region.compactRegion active header
    let (newActive, _) ← compacted.activeSector
    let newHead := findWriteHead (compacted newActive)
    some (compacted.writeSlot newActive newHead slot)
  else
    some (region.writeSlot active head slot)

/--
Set the delivery bit of the newest pending outbound entry; the flag tells whether
there was one.
-/
def markRegionAcked
    (region : HistoryRegion) :
    Option (HistoryRegion × Bool) := do
  let (active, header) ← region.activeSector
  let live := region.gatherLive active
  match findNewestOursUnacked live with
  | none => some (region, false)
  | some index =>
      let entries := live.modify index DecodedSlot.markAcked
      some (region.rewriteRegion active header entries, true)

/-- The two ways of finding the authoritative sector agree. -/
theorem activeSector_eq
    {region : HistoryRegion}
    {active : Fin 2}
    {header : RegionHeader}
    {blobs : List EntryBlob}
    (settled : region.Settled active header blobs) :
    region.activeSector = some (active, header) := by
  match active with
  | 0 =>
      simp [activeSector, settled.activeHeader,
        show region.headerOf 1 = none from settled.spareHeader]
  | 1 =>
      simp [activeSector, settled.activeHeader,
        show region.headerOf 0 = none from settled.spareHeader]

/-- A region is claimed exactly when it has an authoritative sector. -/
theorem activeSector_eq_none_iff
    {region : HistoryRegion} :
    region.activeSector = none ↔
      region.headerOf 0 = none ∧ region.headerOf 1 = none := by
  unfold activeSector
  cases region.headerOf 0 <;> cases region.headerOf 1 <;> simp
  split <;> simp

/-- The region is at rest and its slots are encoded entries. -/
def SettledEntries
    (region : HistoryRegion)
    (active : Fin 2)
    (header : RegionHeader)
    (entries : List DecodedSlot) :
    Prop :=
  region.Settled active header (entries.map encodeSlot)

/-- The newest 32 of a sequence of entries. -/
def recent
    (entries : List DecodedSlot) :
    List DecodedSlot :=
  entries.rtake maxHistoryEntries

theorem length_recent_le
    (entries : List DecodedSlot) :
    (recent entries).length ≤ maxHistoryEntries := by
  simp only [recent, List.rtake, List.length_drop]
  omega

/-- Few entries are all recent. -/
theorem recent_of_few
    {entries : List DecodedSlot}
    (few : entries.length ≤ maxHistoryEntries) :
    recent entries = entries := by
  have none' : entries.length - maxHistoryEntries = 0 := by omega
  simp [recent, List.rtake, none']

/-- What is recent after additions depends on the recent ones only. -/
theorem recent_recent_append
    (entries more : List DecodedSlot) :
    recent (recent entries ++ more) = recent (entries ++ more) := by
  have together :
      recent entries ++ more =
        (entries ++ more).drop (entries.length - maxHistoryEntries) := by
    rw [recent, List.rtake,
      List.drop_append_of_le_length (Nat.sub_le _ _)]
  rw [together]
  simp only [recent, List.rtake, List.drop_drop, List.length_drop,
    List.length_append]
  congr 1
  omega

theorem recent_recent_concat
    (entries : List DecodedSlot)
    (slot : DecodedSlot) :
    recent (recent entries ++ [slot]) = recent (entries ++ [slot]) :=
  recent_recent_append entries [slot]

/-- The live entries of a region at rest are its recent ones. -/
theorem SettledEntries.gatherLive_eq
    {region : HistoryRegion}
    {active : Fin 2}
    {header : RegionHeader}
    {entries : List DecodedSlot}
    (settled : region.SettledEntries active header entries) :
    region.gatherLive active = recent entries := by
  rw [settled.slots.gatherLive_eq]
  simp [recent, List.rtake, ← List.map_drop, List.filterMap_map]

theorem SettledEntries.liveView_eq
    {region : HistoryRegion}
    {active : Fin 2}
    {header : RegionHeader}
    {entries : List DecodedSlot}
    (settled : region.SettledEntries active header entries) :
    region.liveView = recent entries := by
  simp [liveView, settled.activeSectorIndex_eq, settled.gatherLive_eq]

/-- The write head of a region at rest is behind its entries. -/
theorem SettledEntries.findWriteHead_eq
    {region : HistoryRegion}
    {active : Fin 2}
    {header : RegionHeader}
    {entries : List DecodedSlot}
    (settled : region.SettledEntries active header entries) :
    findWriteHead (region active) = entries.length := by
  simpa using settled.slots.findWriteHead_eq

/-- A write at the head of a region at rest adds the entry. -/
theorem SettledEntries.writeSlot
    {region : HistoryRegion}
    {active : Fin 2}
    {header : RegionHeader}
    {entries : List DecodedSlot}
    (settled : region.SettledEntries active header entries)
    (notFull : entries.length < slotsPerSector)
    (slot : DecodedSlot) :
    (region.writeSlot active entries.length slot).SettledEntries
      active header (entries ++ [slot]) := by
  have onlySlots :
      ∀ write ∈ slotWrites active entries.length [slot],
        ∃ index bytes, write = .slot active index bytes :=
    fun _ member => mem_slotWrites member
  have sequence :
      region.writeSlot active entries.length slot =
        region.applyWrites Medium.nor
          (slotWrites active entries.length [slot]) :=
    rfl
  rw [sequence]
  refine
    { activeHeader := ?_
      spareHeader := ?_
      slots := ?_ }
  · rw [headerOf, headerBytes_slots _ _ onlySlots]
    exact settled.activeHeader
  · rw [headerOf, headerBytes_slots _ _ onlySlots]
    exact settled.spareHeader
  · have fits :
        (entries.map encodeSlot).length + [slot].length ≤
          slotsPerSector := by
      simp
      omega
    simpa using holdsSlots_slotWrites Medium.nor settled.slots fits

/-- A claimed region is an empty log. -/
theorem settled_claimRegion
    (region : HistoryRegion)
    (kind : HistoryMsgType)
    (convHash : UInt8) :
    (region.claimRegion kind convHash).SettledEntries 0
      { kind := kind, convHash := convHash, generation := 0 } [] := by
  let cleared :=
    region.applyWrites Medium.nor
      [.erase 0 sectorSize, .erase 1 sectorSize]
  have isErased :
      ∀ sector, cleared sector = erase (region sector) sectorSize := by
    intro sector
    match sector with
    | 0 => rfl
    | 1 => rfl
  let header : RegionHeader :=
    { kind := kind, convHash := convHash, generation := 0 }
  have whole :
      (encodeRegionHeader header).toList.take 8 =
        (encodeRegionHeader header).toList :=
    List.take_of_length_le (by simp)
  have sequence :
      region.claimRegion kind convHash =
        cleared.applyWrite Medium.nor
          (.header 0 ((encodeRegionHeader header).toList.take 8)) := by
    rw [whole]
    rfl
  have isBlank :
      ∀ sector, read (cleared sector) 0 8 = blank 8 := by
    intro sector
    rw [isErased sector]
    exact read_erase_inside _ (by decide)
  rw [sequence]
  refine
    { activeHeader := ?_
      spareHeader := ?_
      slots := ?_ }
  · rw [headerOf_write_header Medium.nor (isBlank 0)]
    exact decode_torn_complete header (by omega)
  · have other : (1 : Fin 2) ≠ 0 := by decide
    rw [show (1 : Fin 2) - 0 = 1 from rfl, headerOf,
      applyWrite_other _ _ other, isBlank 1]
    rfl
  · rw [show
      cleared.applyWrite Medium.nor
          (.header 0 ((encodeRegionHeader header).toList.take 8)) 0 =
        write Medium.nor (cleared 0) 0
          ((encodeRegionHeader header).toList.take 8)
      from applyWrite_own _ _ (.header 0 _),
      isErased 0]
    apply (holdsSlots_erase _).write_header
    simp [regionHeaderLen]

/-- A rewritten region is the log of the entries it was given. -/
theorem settled_rewriteRegion
    (region : HistoryRegion)
    (active : Fin 2)
    (header : RegionHeader)
    {entries : List DecodedSlot}
    (few : entries.length ≤ maxHistoryEntries) :
    (region.rewriteRegion active header entries).SettledEntries
      (1 - active) header.next entries :=
  region.settled_rewrite active header few

/-- Without compaction an append leaves sector and header as they are. -/
theorem SettledEntries.append_notFull
    {region : HistoryRegion}
    {active : Fin 2}
    {header : RegionHeader}
    {entries : List DecodedSlot}
    (settled : region.SettledEntries active header entries)
    (notFull : entries.length < slotsPerSector)
    (slot : DecodedSlot) :
    ∃ after,
      region.appendRegion slot = some after ∧
        after.SettledEntries active header (entries ++ [slot]) := by
  refine ⟨region.writeSlot active entries.length slot, ?_,
    settled.writeSlot notFull slot⟩
  have room : ¬ slotsPerSector ≤ entries.length := by omega
  simp [appendRegion, activeSector_eq settled,
    settled.findWriteHead_eq, room]

/-- An append to a full sector goes behind the recent entries in the other. -/
theorem SettledEntries.append_full
    {region : HistoryRegion}
    {active : Fin 2}
    {header : RegionHeader}
    {entries : List DecodedSlot}
    (settled : region.SettledEntries active header entries)
    (full : slotsPerSector ≤ entries.length)
    (slot : DecodedSlot) :
    ∃ after,
      region.appendRegion slot = some after ∧
        after.SettledEntries (1 - active) header.next
          (recent entries ++ [slot]) := by
  have few := length_recent_le entries
  have compacted :
      (region.compactRegion active header).SettledEntries
        (1 - active) header.next (recent entries) := by
    rw [compactRegion, settled.gatherLive_eq]
    exact region.settled_rewriteRegion active header few
  have roomAfter : (recent entries).length < slotsPerSector := by
    simp only [maxHistoryEntries, slotsPerSector] at *
    omega
  refine ⟨_, ?_, compacted.writeSlot roomAfter slot⟩
  simp [appendRegion, activeSector_eq settled,
    settled.findWriteHead_eq, full, activeSector_eq compacted,
    compacted.findWriteHead_eq]

/-- Acknowledging rewrites the recent entries with one delivery bit set. -/
theorem SettledEntries.mark_some
    {region : HistoryRegion}
    {active : Fin 2}
    {header : RegionHeader}
    {entries : List DecodedSlot}
    (settled : region.SettledEntries active header entries)
    {index : Nat}
    (pending : findNewestOursUnacked (recent entries) = some index) :
    ∃ after,
      region.markRegionAcked = some (after, true) ∧
        after.SettledEntries (1 - active) header.next
          (withNewestAcked (recent entries)) := by
  have few :
      (withNewestAcked (recent entries)).length ≤ maxHistoryEntries := by
    simpa [withNewestAcked] using length_recent_le entries
  refine ⟨region.rewriteRegion active header
    (withNewestAcked (recent entries)), ?_,
    region.settled_rewriteRegion active header few⟩
  have searched :
      Search.findLastIdx? DecodedSlot.isOursUnacked (recent entries) =
        some index :=
    pending
  simp [markRegionAcked, activeSector_eq settled, settled.gatherLive_eq,
    pending, withNewestAcked, Search.updateLast, searched]

/-- Without a pending outbound entry nothing is rewritten. -/
theorem SettledEntries.mark_none
    {region : HistoryRegion}
    {active : Fin 2}
    {header : RegionHeader}
    {entries : List DecodedSlot}
    (settled : region.SettledEntries active header entries)
    (noPending : findNewestOursUnacked (recent entries) = none) :
    region.markRegionAcked = some (region, false) := by
  simp [markRegionAcked, activeSector_eq settled, settled.gatherLive_eq,
    noPending]

/-- A claimed region of a conversation with the given recent entries. -/
def StoresRecent
    (region : HistoryRegion)
    (kind : HistoryMsgType)
    (convHash : UInt8)
    (newest : List DecodedSlot) :
    Prop :=
  ∃ active header entries,
    region.SettledEntries active header entries ∧
      header.kind = kind ∧
      header.convHash = convHash ∧
      recent entries = newest

namespace StoresRecent

variable
    {region : HistoryRegion}
    {kind : HistoryMsgType}
    {convHash : UInt8}
    {newest : List DecodedSlot}

/-- What a reader of the region sees. -/
theorem liveView_eq
    (stores : region.StoresRecent kind convHash newest) :
    region.liveView = newest := by
  obtain ⟨active, header, entries, settled, -, -, rfl⟩ := stores
  exact settled.liveView_eq

theorem few
    (stores : region.StoresRecent kind convHash newest) :
    newest.length ≤ maxHistoryEntries := by
  obtain ⟨active, header, entries, settled, -, -, rfl⟩ := stores
  exact length_recent_le entries

/-- The conversation the region belongs to. -/
theorem belongs
    (stores : region.StoresRecent kind convHash newest) :
    ∃ active header,
      region.activeSector = some (active, header) ∧
        header.kind = kind ∧
        header.convHash = convHash := by
  obtain ⟨active, header, entries, settled, sameKind, sameHash, -⟩ :=
    stores
  exact ⟨active, header, activeSector_eq settled, sameKind, sameHash⟩

/-- Appending adds the entry and keeps the recent ones. -/
theorem append
    (stores : region.StoresRecent kind convHash newest)
    (slot : DecodedSlot) :
    ∃ after,
      region.appendRegion slot = some after ∧
        after.StoresRecent kind convHash (recent (newest ++ [slot])) := by
  obtain ⟨active, header, entries, settled, sameKind, sameHash, rfl⟩ :=
    stores
  rcases Nat.lt_or_ge entries.length slotsPerSector with notFull | full
  · obtain ⟨after, appended, settledAfter⟩ :=
      settled.append_notFull notFull slot
    exact ⟨after, appended, active, header, _, settledAfter,
      sameKind, sameHash, (recent_recent_concat entries slot).symm⟩
  · obtain ⟨after, appended, settledAfter⟩ :=
      settled.append_full full slot
    exact ⟨after, appended, _, header.next, _, settledAfter,
      sameKind, sameHash, rfl⟩

/-- Acknowledging sets the bit of the newest pending outbound entry. -/
theorem mark
    (stores : region.StoresRecent kind convHash newest) :
    ∃ after found,
      region.markRegionAcked = some (after, found) ∧
        after.StoresRecent kind convHash (withNewestAcked newest) := by
  obtain ⟨active, header, entries, settled, sameKind, sameHash, rfl⟩ :=
    stores
  cases pending : findNewestOursUnacked (recent entries) with
  | none =>
      have searched :
          Search.findLastIdx? DecodedSlot.isOursUnacked
              (recent entries) =
            none :=
        pending
      refine ⟨region, false, settled.mark_none pending,
        active, header, entries, settled, sameKind, sameHash, ?_⟩
      simp [withNewestAcked, Search.updateLast, searched]
  | some index =>
      obtain ⟨after, marked, settledAfter⟩ :=
        settled.mark_some pending
      refine ⟨after, true, marked, _, header.next, _, settledAfter,
        sameKind, sameHash, recent_of_few ?_⟩
      simpa [withNewestAcked] using length_recent_le entries

end StoresRecent

end HistoryRegion

end MeshCadet
