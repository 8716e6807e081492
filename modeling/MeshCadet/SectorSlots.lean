import MeshCadet.HistoryRegion

namespace MeshCadet

/-!
# What a sector's slots hold

A sector that is filled from the front is described by the list of its occupied
slots.  The write head, the live entries and the effect of every region write
are read off that list.
-/

open FlashCells

/-- The sector's slots are the given ones, none erased, then erased ones. -/
structure HoldsSlots
    (cells : Cells)
    (blobs : List EntryBlob) :
    Prop where
  fits : blobs.length ≤ slotsPerSector
  stored :
    ∀ slot (inside : slot < blobs.length),
      slotBlob cells slot = blobs[slot]
  blankAfter :
    ∀ slot,
      blobs.length ≤ slot →
      slot < slotsPerSector →
        slotBlob cells slot = blank 72
  occupied : ∀ blob ∈ blobs, blob ≠ blank 72

/-- A stored slot is never erased. -/
theorem encodeSlot_ne_blank
    (slot : DecodedSlot) :
    encodeSlot slot ≠ blank 72 := by
  intro isBlank
  apply encodeSlot_typeByte slot
  rw [isBlank]
  rfl

/-- An erased sector holds no slots. -/
theorem holdsSlots_erased :
    HoldsSlots erased [] :=
  { fits := Nat.zero_le _
    stored := fun _ inside => absurd inside (Nat.not_lt_zero _)
    blankAfter := fun _ _ _ => read_erased _ _
    occupied := fun _ member => absurd member List.not_mem_nil }

/-- Erasing a whole sector leaves no slots. -/
theorem holdsSlots_erase
    (cells : Cells) :
    HoldsSlots (erase cells sectorSize) [] :=
  { fits := Nat.zero_le _
    stored := fun _ inside => absurd inside (Nat.not_lt_zero _)
    blankAfter := by
      intro slot _ inside
      apply read_erase_inside
      simp only [slotOffset, regionHeaderLen, sectorSize,
        slotsPerSector] at *
      omega
    occupied := fun _ member => absurd member List.not_mem_nil }

/-- Looking up positions to the end of a list reads its tail. -/
theorem filterMap_range'_eq
    {α β : Type}
    {elements : List α}
    {lookup : Nat → Option β}
    {decode : α → Option β}
    (reads :
      ∀ index (inside : index < elements.length),
        lookup index = decode elements[index])
    (start : Nat) :
    (List.range' start (elements.length - start)).filterMap lookup =
      (elements.drop start).filterMap decode := by
  induction remaining : elements.length - start generalizing start with
  | zero =>
      simp [List.drop_eq_nil_of_le (show elements.length ≤ start by omega)]
  | succ remaining' inductionHypothesis =>
      have inside : start < elements.length := by omega
      have rest :=
        inductionHypothesis (start + 1) (by omega)
      rw [List.drop_eq_getElem_cons inside, List.range'_succ,
        List.filterMap_cons, List.filterMap_cons, reads start inside,
        rest]

namespace HoldsSlots

variable
    {cells : Cells}
    {blobs : List EntryBlob}

/-- The write head is behind the last occupied slot. -/
theorem findWriteHead_eq
    (holds : HoldsSlots cells blobs) :
    findWriteHead cells = blobs.length := by
  have occupiedBefore :
      ∀ slot,
        slot < blobs.length →
        slotBlob cells slot ≠ blank 72 := by
    intro slot inside
    rw [holds.stored slot inside]
    exact holds.occupied _ (List.getElem_mem inside)
  rcases Nat.lt_or_eq_of_le holds.fits with notFull | full
  · have found :
        ((List.range slotsPerSector).find? fun slot =>
          slotBlob cells slot == blank 72) =
          some blobs.length := by
      apply List.find?_range_eq_some.mpr
      refine ⟨?_, List.mem_range.mpr notFull, ?_⟩
      · simpa using holds.blankAfter _ (Nat.le_refl _) notFull
      · intro slot inside
        simpa using occupiedBefore slot inside
    simp [findWriteHead, found]
  · have missing :
        ((List.range slotsPerSector).find? fun slot =>
          slotBlob cells slot == blank 72) =
          none := by
      apply List.find?_range_eq_none.mpr
      intro slot inside
      simpa using occupiedBefore slot (by omega)
    simp [findWriteHead, missing, full]

/-- The live entries are the decodable ones of the newest 32 slots. -/
theorem gatherLive_eq
    {region : HistoryRegion}
    {sector : Fin 2}
    (holds : HoldsSlots (region sector) blobs) :
    region.gatherLive sector =
      (blobs.drop (blobs.length - maxHistoryEntries)).filterMap
        decodeSlot := by
  simp only [HistoryRegion.gatherLive, holds.findWriteHead_eq]
  apply filterMap_range'_eq
  intro slot inside
  simp [HistoryRegion.decodeSlotAt, holds.stored slot inside]

/-- Cells with the same slots hold the same blobs. -/
theorem congr
    {other : Cells}
    (holds : HoldsSlots cells blobs)
    (same : ∀ slot, slotBlob other slot = slotBlob cells slot) :
    HoldsSlots other blobs :=
  { fits := holds.fits
    stored := fun slot inside =>
      (same slot).trans (holds.stored slot inside)
    blankAfter := fun slot behind inside =>
      (same slot).trans (holds.blankAfter slot behind inside)
    occupied := holds.occupied }

/-- Writing below the slots changes none of them. -/
theorem write_header
    (holds : HoldsSlots cells blobs)
    (medium : Medium)
    {bytes : List UInt8}
    (short : bytes.length ≤ regionHeaderLen) :
    HoldsSlots (write medium cells 0 bytes) blobs := by
  have same :
      ∀ slot,
        slotBlob (write medium cells 0 bytes) slot =
          slotBlob cells slot := by
    intro slot
    apply read_write_apart
    simp only [slotOffset]
    omega
  exact holds.congr same

/-- Slots other than the written one keep their bytes. -/
theorem slotBlob_write_other
    (medium : Medium)
    (cells : Cells)
    {slot written : Nat}
    (other : slot ≠ written)
    {bytes : List UInt8}
    (short : bytes.length ≤ 72) :
    slotBlob (write medium cells (slotOffset written) bytes) slot =
      slotBlob cells slot := by
  apply read_write_apart
  simp only [slotOffset]
  omega

/-- A write at the head adds the slot it leaves behind. -/
theorem write_slot
    (holds : HoldsSlots cells blobs)
    (medium : Medium)
    (notFull : blobs.length < slotsPerSector)
    (blob : EntryBlob)
    (written : Nat)
    (leavesTrace : torn blob written ≠ blank 72) :
    HoldsSlots
      (write medium cells (slotOffset blobs.length)
        (blob.toList.take written))
      (blobs ++ [torn blob written]) := by
  have short : (blob.toList.take written).length ≤ 72 := by
    rw [List.length_take, Vector.length_toList]
    exact Nat.min_le_right _ _
  have atHead :
      slotBlob
          (write medium cells (slotOffset blobs.length)
            (blob.toList.take written))
          blobs.length =
        torn blob written :=
    read_write_blank medium
      (holds.blankAfter blobs.length (Nat.le_refl _) notFull) blob written
  refine
    { fits := by
        simp
        omega
      stored := ?_
      blankAfter := ?_
      occupied := ?_ }
  · intro slot inside
    by_cases isHead : slot = blobs.length
    · subst isHead
      simpa using atHead
    · have inOld : slot < blobs.length := by
        simp at inside
        omega
      rw [slotBlob_write_other medium cells isHead short,
        holds.stored slot inOld, List.getElem_append_left inOld]
  · intro slot behind inside
    simp at behind
    rw [slotBlob_write_other medium cells (by omega) short]
    exact holds.blankAfter slot (by omega) inside
  · intro other member
    rcases List.mem_append.mp member with old | isNew
    · exact holds.occupied other old
    · rw [List.mem_singleton.mp isNew]
      exact leavesTrace

/-- A write at the head that leaves it erased changes no slot. -/
theorem write_blank
    (holds : HoldsSlots cells blobs)
    (medium : Medium)
    (notFull : blobs.length < slotsPerSector)
    (blob : EntryBlob)
    (written : Nat)
    (noTrace : torn blob written = blank 72) :
    HoldsSlots
      (write medium cells (slotOffset blobs.length)
        (blob.toList.take written))
      blobs := by
  have short : (blob.toList.take written).length ≤ 72 := by
    rw [List.length_take, Vector.length_toList]
    exact Nat.min_le_right _ _
  have headBlank :=
    holds.blankAfter blobs.length (Nat.le_refl _) notFull
  have same :
      ∀ slot,
        slotBlob
            (write medium cells (slotOffset blobs.length)
              (blob.toList.take written))
            slot =
          slotBlob cells slot := by
    intro slot
    by_cases isHead : slot = blobs.length
    · rw [isHead, headBlank]
      exact (read_write_blank medium headBlank blob written).trans noTrace
    · exact slotBlob_write_other medium cells isHead short
  exact holds.congr same

end HoldsSlots

end MeshCadet
