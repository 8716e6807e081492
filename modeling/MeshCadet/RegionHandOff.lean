import MeshCadet.SectorSlots

namespace MeshCadet

/-!
# The active sector and the hand-off to the spare

A region at rest has one sector with a valid header and a spare without one.
The hand-off writes the entries and then the header of the spare, and erases the
old sector; at its end the roles are exchanged and the generation is one higher.
-/

open FlashCells

namespace HistoryRegion

/-- One sector is claimed and holds the slots; the spare has no header. -/
structure Settled
    (region : HistoryRegion)
    (active : Fin 2)
    (header : RegionHeader)
    (blobs : List EntryBlob) :
    Prop where
  activeHeader : region.headerOf active = some header
  spareHeader : region.headerOf (1 - active) = none
  slots : HoldsSlots (region active) blobs

/-- With one valid header its sector is authoritative. -/
theorem activeSectorIndex_single
    {region : HistoryRegion}
    {active : Fin 2}
    {header : RegionHeader}
    (activeHeader : region.headerOf active = some header)
    (spareHeader : region.headerOf (1 - active) = none) :
    region.activeSectorIndex = some active := by
  match active with
  | 0 =>
      simp [activeSectorIndex, activeHeader,
        show region.headerOf 1 = none from spareHeader]
  | 1 =>
      simp [activeSectorIndex, activeHeader,
        show region.headerOf 0 = none from spareHeader]

/-- With two valid headers of distinct age the newer one is authoritative. -/
theorem activeSectorIndex_newer
    {region : HistoryRegion}
    {active : Fin 2}
    {header spareHeader : RegionHeader}
    (isActive : region.headerOf active = some header)
    (isSpare : region.headerOf (1 - active) = some spareHeader)
    (newer :
      generationIsNewer spareHeader.generation header.generation = true)
    (older :
      generationIsNewer header.generation spareHeader.generation =
        false) :
    region.activeSectorIndex = some (1 - active) := by
  match active with
  | 0 =>
      simp [activeSectorIndex, isActive, newer,
        show region.headerOf 1 = some spareHeader from isSpare]
  | 1 =>
      simp [activeSectorIndex, isActive, older,
        show region.headerOf 0 = some spareHeader from isSpare]

theorem Settled.activeSectorIndex_eq
    {region : HistoryRegion}
    {active : Fin 2}
    {header : RegionHeader}
    {blobs : List EntryBlob}
    (settled : region.Settled active header blobs) :
    region.activeSectorIndex = some active :=
  activeSectorIndex_single settled.activeHeader settled.spareHeader

theorem Settled.header_eq
    {region : HistoryRegion}
    {active : Fin 2}
    {header : RegionHeader}
    {blobs : List EntryBlob}
    (settled : region.Settled active header blobs) :
    region.header = some header := by
  simp [HistoryRegion.header, settled.activeSectorIndex_eq,
    settled.activeHeader]

theorem Settled.liveView_eq
    {region : HistoryRegion}
    {active : Fin 2}
    {header : RegionHeader}
    {blobs : List EntryBlob}
    (settled : region.Settled active header blobs) :
    region.liveView =
      (blobs.drop (blobs.length - maxHistoryEntries)).filterMap
        decodeSlot := by
  simp [liveView, settled.activeSectorIndex_eq,
    settled.slots.gatherLive_eq]

/-- A write to one sector leaves the other one alone. -/
theorem applyWrite_other
    (medium : Medium)
    (region : HistoryRegion)
    {write : RegionWrite}
    {sector : Fin 2}
    (other : sector ≠ write.sector) :
    region.applyWrite medium write sector = region sector :=
  Function.update_of_ne other _ _

theorem applyWrite_own
    (medium : Medium)
    (region : HistoryRegion)
    (write : RegionWrite) :
    region.applyWrite medium write write.sector =
      write.applyTo medium (region write.sector) :=
  Function.update_self _ _ _

@[simp] theorem applyWrites_nil
    (medium : Medium)
    (region : HistoryRegion) :
    region.applyWrites medium [] = region :=
  rfl

@[simp] theorem applyWrites_cons
    (medium : Medium)
    (region : HistoryRegion)
    (write : RegionWrite)
    (rest : List RegionWrite) :
    region.applyWrites medium (write :: rest) =
      (region.applyWrite medium write).applyWrites medium rest :=
  rfl

@[simp] theorem applyWrites_append
    (medium : Medium)
    (region : HistoryRegion)
    (first second : List RegionWrite) :
    region.applyWrites medium (first ++ second) =
      (region.applyWrites medium first).applyWrites medium second := by
  simp [applyWrites]

/-- Writes that all go to one sector leave the other one alone. -/
theorem applyWrites_other
    (medium : Medium)
    (region : HistoryRegion)
    {writes : List RegionWrite}
    {sector : Fin 2}
    (other : ∀ write ∈ writes, sector ≠ write.sector) :
    region.applyWrites medium writes sector = region sector := by
  induction writes generalizing region with
  | nil =>
      rfl
  | cons first rest inductionHypothesis =>
      rw [applyWrites_cons,
        inductionHypothesis _ fun write member =>
          other write (by simp [member])]
      exact applyWrite_other medium region (other first (by simp))

/-- The spare is not the active sector. -/
theorem ne_spare
    (active : Fin 2) :
    active ≠ 1 - active := by
  match active with
  | 0 => decide
  | 1 => decide

@[simp] theorem spare_spare
    (active : Fin 2) :
    1 - (1 - active) = active := by
  match active with
  | 0 => rfl
  | 1 => rfl

/-- Slot writes, whole or cut, keep every sector's header bytes. -/
theorem headerBytes_slots
    (medium : Medium)
    (region : HistoryRegion)
    {sector : Fin 2}
    {writes : List RegionWrite}
    (slots :
      ∀ write ∈ writes,
        ∃ index bytes, write = .slot sector index bytes)
    (owner : Fin 2) :
    read (region.applyWrites medium writes owner) 0 8 =
      read (region owner) 0 8 := by
  induction writes generalizing region with
  | nil =>
      rfl
  | cons write rest inductionHypothesis =>
      obtain ⟨index, bytes, rfl⟩ := slots write (by simp)
      rw [applyWrites_cons,
        inductionHypothesis _ fun other member =>
          slots other (by simp [member])]
      by_cases same : owner = sector
      · subst same
        rw [show
          region.applyWrite medium (.slot owner index bytes) owner =
            write medium (region owner) (slotOffset index) bytes
          from applyWrite_own medium region (.slot owner index bytes)]
        apply read_write_apart
        simp only [slotOffset, regionHeaderLen]
        omega
      · rw [applyWrite_other medium region same]

/-- Filling a sector writes slots of that sector only. -/
theorem mem_slotWrites
    {sector : Fin 2}
    {start : Nat}
    {entries : List DecodedSlot}
    {write : RegionWrite}
    (member : write ∈ slotWrites sector start entries) :
    ∃ index bytes, write = .slot sector index bytes := by
  induction entries generalizing start with
  | nil =>
      cases member
  | cons entry rest inductionHypothesis =>
      rcases List.mem_cons.mp member with rfl | member
      · exact ⟨_, _, rfl⟩
      · exact inductionHypothesis member

/-- Filling slots behind the held ones adds the encoded entries. -/
theorem holdsSlots_slotWrites
    (medium : Medium)
    {region : HistoryRegion}
    {sector : Fin 2}
    {blobs : List EntryBlob}
    {entries : List DecodedSlot}
    (holds : HoldsSlots (region sector) blobs)
    (fits : blobs.length + entries.length ≤ slotsPerSector) :
    HoldsSlots
      (region.applyWrites medium
        (slotWrites sector blobs.length entries) sector)
      (blobs ++ entries.map encodeSlot) := by
  induction entries generalizing region blobs with
  | nil =>
      simpa [slotWrites] using holds
  | cons entry rest inductionHypothesis =>
      have written :
          HoldsSlots
            (region.applyWrite medium
              (.slot sector blobs.length (encodeSlot entry).toList)
              sector)
            (blobs ++ [encodeSlot entry]) := by
        have complete := torn_complete (encodeSlot entry) (Nat.le_refl 72)
        have atHead :=
          holds.write_slot medium (by simp at fits; omega)
            (encodeSlot entry) 72
            (complete.symm ▸ encodeSlot_ne_blank entry)
        rw [complete] at atHead
        have whole :
            (encodeSlot entry).toList.take 72 =
              (encodeSlot entry).toList :=
          List.take_of_length_le (by simp)
        rw [whole] at atHead
        have own :=
          applyWrite_own medium region
            (.slot sector blobs.length (encodeSlot entry).toList)
        exact own.symm ▸ atHead
      have rest :=
        inductionHypothesis written (by simp at fits ⊢; omega)
      simpa [slotWrites] using rest

/-- A header written onto erased bytes is read back. -/
theorem headerOf_write_header
    (medium : Medium)
    {region : HistoryRegion}
    {sector : Fin 2}
    (isBlank : read (region sector) 0 8 = blank 8)
    (header : RegionHeader)
    (written : Nat) :
    (region.applyWrite medium
        (.header sector
          ((encodeRegionHeader header).toList.take written))).headerOf
        sector =
      decodeRegionHeader (torn (encodeRegionHeader header) written) := by
  rw [headerOf,
    show
      region.applyWrite medium
          (.header sector
            ((encodeRegionHeader header).toList.take written)) sector =
        write medium (region sector) 0
          ((encodeRegionHeader header).toList.take written)
      from applyWrite_own medium region (.header sector _),
    read_write_blank medium isBlank]

end HistoryRegion

end MeshCadet
