import Mathlib.Data.List.DropRight
import MeshCadet.RegionAppends

namespace MeshCadet

/-!
# Torn copies on the spare sector

An append that is torn while it copies leaves parts of the copies on the spare,
which has no header yet.  The active sector is untouched, so the next append
copies the same entries over what was left, and the hand-off completes as if
nothing had happened.
-/

open FlashCells

/--
A spare sector without a header, on which earlier attempts to copy the given
blobs may have left a part of each.
-/
structure SpareReady
    (cells : Cells)
    (copies : List EntryBlob) :
    Prop where
  header : read cells 0 8 = blank 8
  copied :
    ∀ slot (inside : slot < copies.length),
      ∃ written, slotBlob cells slot = torn copies[slot] written
  blankAfter :
    ∀ slot,
      copies.length ≤ slot →
      slot < slotsPerSector →
        slotBlob cells slot = blank 72

namespace SpareReady

/-- An erased sector is ready for any copies. -/
theorem of_erased
    {cells : Cells}
    (header : read cells 0 8 = blank 8)
    (slots :
      ∀ slot, slot < slotsPerSector → slotBlob cells slot = blank 72)
    {copies : List EntryBlob}
    (fits : copies.length ≤ slotsPerSector) :
    SpareReady cells copies :=
  { header := header
    copied := fun slot inside =>
      ⟨0, by rw [slots slot (by omega), torn_zero]⟩
    blankAfter := fun slot _ inside => slots slot inside }

/-- Nothing was copied yet, so any copies may follow. -/
theorem fresh
    {cells : Cells}
    (ready : SpareReady cells [])
    {copies : List EntryBlob}
    (fits : copies.length ≤ slotsPerSector) :
    SpareReady cells copies :=
  of_erased ready.header
    (fun slot inside => ready.blankAfter slot (Nat.zero_le _) inside) fits

/-- Copying a blob again, whole or in part, keeps the spare ready. -/
theorem copy
    {cells : Cells}
    {copies : List EntryBlob}
    (ready : SpareReady cells copies)
    {slot : Nat}
    (inside : slot < copies.length)
    (written : Nat) :
    SpareReady
      (write Medium.ram cells (slotOffset slot)
        (copies[slot].toList.take written))
      copies := by
  have short : (copies[slot].toList.take written).length ≤ 72 := by
    rw [List.length_take, Vector.length_toList]
    exact Nat.min_le_right _ _
  refine
    { header := ?_
      copied := ?_
      blankAfter := ?_ }
  · rw [read_write_apart]
    · exact ready.header
    · simp only [slotOffset, regionHeaderLen]
      omega
  · intro other otherInside
    obtain ⟨before, isTorn⟩ := ready.copied other otherInside
    by_cases same : other = slot
    · subst same
      exact ⟨_, read_write_torn isTorn written⟩
    · exact
        ⟨before,
          (HoldsSlots.slotBlob_write_other _ _ same short).trans isTorn⟩
  · intro other behind inSector
    rw [HoldsSlots.slotBlob_write_other _ _ (by omega) short]
    exact ready.blankAfter other behind inSector

/-- With its first slots copied in full, the spare holds the copies. -/
theorem holdsSlots
    {cells : Cells}
    {copies : List EntryBlob}
    (ready : SpareReady cells copies)
    (fits : copies.length ≤ slotsPerSector)
    (whole :
      ∀ slot (inside : slot < copies.length),
        slotBlob cells slot = copies[slot])
    (occupied : ∀ blob ∈ copies, blob ≠ blank 72) :
    HoldsSlots cells copies :=
  { fits := fits
    stored := whole
    blankAfter := ready.blankAfter
    occupied := occupied }

end SpareReady

namespace HistoryRegion

/-- One copy, whole or torn, on the spare of a region. -/
theorem ready_applyWrite_slot
    {region : HistoryRegion}
    {sector : Fin 2}
    {entries : List DecodedSlot}
    (ready :
      SpareReady (region sector) (entries.map encodeSlot))
    {slot : Nat}
    (inside : slot < entries.length)
    (written : Nat) :
    SpareReady
      (region.applyWrite Medium.ram
        (.slot sector slot
          ((encodeSlot entries[slot]).toList.take written)) sector)
      (entries.map encodeSlot) := by
  have inCopies : slot < (entries.map encodeSlot).length := by
    simpa using inside
  have copied := ready.copy inCopies written
  rw [List.getElem_map] at copied
  rw [show
    region.applyWrite Medium.ram
        (.slot sector slot
          ((encodeSlot entries[slot]).toList.take written)) sector =
      write Medium.ram (region sector) (slotOffset slot)
        ((encodeSlot entries[slot]).toList.take written)
    from applyWrite_own _ region (.slot sector slot _)]
  exact copied

/-- Copying consecutive entries leaves the spare ready and them complete. -/
theorem ready_slotWrites
    {region : HistoryRegion}
    {sector : Fin 2}
    {entries : List DecodedSlot}
    (ready :
      SpareReady (region sector) (entries.map encodeSlot))
    {start : Nat}
    {part : List DecodedSlot}
    (isPart :
      ∀ index (inside : index < part.length),
        entries[start + index]? = some part[index])
    (whole :
      ∀ slot (inside : slot < entries.length),
        slot < start →
          slotBlob (region sector) slot = encodeSlot entries[slot]) :
    SpareReady
        (region.applyWrites Medium.ram
          (slotWrites sector start part) sector)
        (entries.map encodeSlot) ∧
      ∀ slot (inside : slot < entries.length),
        slot < start + part.length →
          slotBlob
              (region.applyWrites Medium.ram
                (slotWrites sector start part) sector)
              slot =
            encodeSlot entries[slot] := by
  induction part generalizing region start with
  | nil =>
      exact ⟨ready, whole⟩
  | cons entry rest inductionHypothesis =>
      obtain ⟨startInside, isEntry⟩ :=
        List.getElem?_eq_some_iff.mp (isPart 0 (by simp))
      rw [Nat.add_zero] at startInside
      have entryHere : entries[start] = entry := isEntry
      have all :
          (encodeSlot entry).toList.take 72 =
            (encodeSlot entry).toList :=
        List.take_of_length_le (by simp)
      have copied := ready_applyWrite_slot ready startInside 72
      rw [entryHere, all] at copied
      have cellsAfter :
          region.applyWrite Medium.ram
              (.slot sector start (encodeSlot entry).toList) sector =
            write Medium.ram (region sector) (slotOffset start)
              (encodeSlot entry).toList :=
        applyWrite_own _ region (.slot sector start _)
      have wholeAfter :
          ∀ slot (inside : slot < entries.length),
            slot < start + 1 →
              slotBlob
                  (region.applyWrite Medium.ram
                    (.slot sector start (encodeSlot entry).toList)
                    sector)
                  slot =
                encodeSlot entries[slot] := by
        intro slot inside reached
        rw [cellsAfter]
        by_cases isStart : slot = start
        · subst isStart
          obtain ⟨before, isTorn⟩ :=
            ready.copied slot (by simpa using inside)
          have blobBefore :
              read (region sector) (slotOffset slot) 72 =
                torn (encodeSlot entry) before := by
            simpa [slotBlob, entryHere] using isTorn
          have rewritten := read_write_torn blobBefore 72
          rw [all, torn_complete _ (by omega)] at rewritten
          rw [entryHere]
          exact rewritten
        · rw [HoldsSlots.slotBlob_write_other _ _ isStart (by simp)]
          exact whole slot inside (by omega)
      have later :=
        inductionHypothesis copied
          (fun index inside => by
            have shifted := isPart (index + 1) (by simpa using inside)
            have position : start + 1 + index = start + (index + 1) := by
              omega
            rw [position, shifted]
            rfl)
          wholeAfter
      simpa [slotWrites, Nat.add_assoc, Nat.add_comm 1] using later

/-- The entries a compaction keeps of a sector's slots. -/
def keptEntries
    (blobs : List EntryBlob) :
    List DecodedSlot :=
  (blobs.rtake maxHistoryEntries).filterMap decodeSlot

theorem length_keptEntries
    (blobs : List EntryBlob) :
    (keptEntries blobs).length ≤ maxHistoryEntries := by
  have bound :=
    List.length_filterMap_le decodeSlot (blobs.rtake maxHistoryEntries)
  simp only [keptEntries, List.rtake, List.length_drop] at bound ⊢
  omega

/-- At rest, with a spare on which only a compaction may have begun. -/
structure Ready
    (region : HistoryRegion)
    (active : Fin 2)
    (header : RegionHeader)
    (blobs : List EntryBlob) :
    Prop where
  settled : region.Settled active header blobs
  spareFresh :
    blobs.length < slotsPerSector →
      SpareReady (region (1 - active)) []
  spareCopies :
    SpareReady (region (1 - active))
      ((keptEntries blobs).map encodeSlot)

namespace Ready

variable
    {region : HistoryRegion}
    {active : Fin 2}
    {header : RegionHeader}
    {blobs : List EntryBlob}

/-- With an untouched spare a region at rest is ready. -/
theorem of_fresh
    (settled : region.Settled active header blobs)
    (fresh : SpareReady (region (1 - active)) []) :
    region.Ready active header blobs :=
  { settled := settled
    spareFresh := fun _ => fresh
    spareCopies := fresh.fresh (by
      have few := length_keptEntries blobs
      simp only [List.length_map, maxHistoryEntries,
        slotsPerSector] at *
      omega) }

/-- A reader sees the entries a compaction would keep. -/
theorem liveView_eq
    (ready : region.Ready active header blobs) :
    region.liveView = keptEntries blobs :=
  ready.settled.liveView_eq

theorem spareHeader_eq
    (ready : region.Ready active header blobs) :
    region.headerOf (1 - active) = none :=
  ready.settled.spareHeader

/-- The slot write of an append adds what it left, if that is visible. -/
theorem writeSlot
    (ready : region.Ready active header blobs)
    (notFull : blobs.length < slotsPerSector)
    (trace : Trace) :
    (region.applyWrite Medium.ram
        (.slot active blobs.length
          ((encodeSlot trace.slot).toList.take trace.written))).Ready
      active header
      (blobs ++
        ([trace].filter Trace.isVisible).map Trace.blob) := by
  let after :=
    region.applyWrite Medium.ram
      (.slot active blobs.length
        ((encodeSlot trace.slot).toList.take trace.written))
  have onlySlot :
      ∀ write ∈
        [RegionWrite.slot active blobs.length
          ((encodeSlot trace.slot).toList.take trace.written)],
        ∃ index bytes, write = .slot active index bytes := by
    simp
  have sameHeader :
      ∀ sector, after.headerOf sector = region.headerOf sector := by
    intro sector
    exact congrArg decodeRegionHeader
      (headerBytes_slots Medium.ram region onlySlot sector)
  have activeAfter :
      after active =
        write Medium.ram (region active) (slotOffset blobs.length)
          ((encodeSlot trace.slot).toList.take trace.written) :=
    applyWrite_own _ _ (.slot active blobs.length _)
  have spareAfter : after (1 - active) = region (1 - active) :=
    applyWrite_other _ _ (ne_spare active).symm
  have holdsAfter :
      HoldsSlots (after active)
        (blobs ++ ([trace].filter Trace.isVisible).map Trace.blob) := by
    rw [activeAfter]
    cases visible : trace.isVisible with
    | true =>
        have leavesTrace :
            torn (encodeSlot trace.slot) trace.written ≠ blank 72 := by
          simpa [Trace.isVisible, Trace.blob] using visible
        simpa [visible, Trace.blob] using
          ready.settled.slots.write_slot Medium.ram notFull
            (encodeSlot trace.slot) trace.written leavesTrace
    | false =>
        have noTrace :
            torn (encodeSlot trace.slot) trace.written = blank 72 := by
          simpa [Trace.isVisible, Trace.blob] using visible
        simpa [visible] using
          ready.settled.slots.write_blank Medium.ram notFull
            (encodeSlot trace.slot) trace.written noTrace
  refine of_fresh ?_ ?_
  · exact
      { activeHeader :=
          (sameHeader active).trans ready.settled.activeHeader
        spareHeader :=
          (sameHeader (1 - active)).trans ready.settled.spareHeader
        slots := holdsAfter }
  · rw [show
      region.applyWrite Medium.ram
          (.slot active blobs.length
            ((encodeSlot trace.slot).toList.take trace.written))
          (1 - active) =
        region (1 - active)
      from spareAfter]
    exact ready.spareFresh notFull

/-- A torn copy leaves the region as it was, the spare aside. -/
theorem tornCopy
    (ready : region.Ready active header blobs)
    (full : slotsPerSector ≤ blobs.length)
    {tear : Tear}
    (inside : tear.slotWrite < (keptEntries blobs).length) :
    (region.applyWrites Medium.ram
        (slotWrites (1 - active) 0
            ((keptEntries blobs).take tear.slotWrite) ++
          [.slot (1 - active) tear.slotWrite
            ((encodeSlot (keptEntries blobs)[tear.slotWrite]).toList.take
              tear.bytes)])).Ready
      active header blobs := by
  let writes :=
    slotWrites (1 - active) 0
        ((keptEntries blobs).take tear.slotWrite) ++
      [.slot (1 - active) tear.slotWrite
        ((encodeSlot (keptEntries blobs)[tear.slotWrite]).toList.take
          tear.bytes)]
  have onlySlots :
      ∀ write ∈ writes,
        ∃ index bytes, write = .slot (1 - active) index bytes := by
    intro write member
    rcases List.mem_append.mp member with copy | torn
    · exact mem_slotWrites copy
    · exact ⟨_, _, List.mem_singleton.mp torn⟩
  have sameHeader :
      ∀ sector,
        (region.applyWrites Medium.ram writes).headerOf sector =
          region.headerOf sector := by
    intro sector
    exact congrArg decodeRegionHeader
      (headerBytes_slots Medium.ram region onlySlots sector)
  have activeSame :
      region.applyWrites Medium.ram writes active = region active := by
    apply applyWrites_other
    intro write member
    obtain ⟨index, bytes, rfl⟩ := onlySlots write member
    exact ne_spare active
  obtain ⟨copied, -⟩ :=
    ready_slotWrites ready.spareCopies
      (show
        ∀ index
          (inside :
            index <
              ((keptEntries blobs).take tear.slotWrite).length),
          (keptEntries blobs)[0 + index]? =
            some ((keptEntries blobs).take tear.slotWrite)[index]
        by
          intro index taken
          simp only [List.length_take] at taken
          simp)
      (fun _ _ none' => absurd none' (Nat.not_lt_zero _))
  refine
    { settled := ?_
      spareFresh := fun notFull => absurd notFull (by omega)
      spareCopies := ?_ }
  · exact
      { activeHeader :=
          (sameHeader active).trans ready.settled.activeHeader
        spareHeader :=
          (sameHeader (1 - active)).trans ready.settled.spareHeader
        slots := activeSame ▸ ready.settled.slots }
  · rw [applyWrites_append]
    exact ready_applyWrite_slot copied inside tear.bytes

/-- A whole hand-off leaves the kept entries in the other sector. -/
theorem handOff
    (ready : region.Ready active header blobs) :
    (region.applyWrites Medium.ram
        (handOffWrites active header (keptEntries blobs))).Ready
      (1 - active) header.next
      ((keptEntries blobs).map encodeSlot) := by
  let filled :=
    region.applyWrites Medium.ram
      (slotWrites (1 - active) 0 (keptEntries blobs))
  have few := length_keptEntries blobs
  have fits :
      ((keptEntries blobs).map encodeSlot).length ≤ slotsPerSector := by
    simp only [List.length_map, maxHistoryEntries, slotsPerSector] at *
    omega
  obtain ⟨copied, whole⟩ :=
    ready_slotWrites ready.spareCopies
      (show
        ∀ index (inside : index < (keptEntries blobs).length),
          (keptEntries blobs)[0 + index]? =
            some (keptEntries blobs)[index]
        by simp)
      (fun _ _ none' => absurd none' (Nat.not_lt_zero _))
  have holds :
      HoldsSlots (filled (1 - active))
        ((keptEntries blobs).map encodeSlot) := by
    apply copied.holdsSlots fits
    · intro slot inside
      simp only [List.length_map] at inside
      rw [List.getElem_map]
      exact whole slot inside (by omega)
    · intro blob member
      obtain ⟨entry, -, rfl⟩ := List.mem_map.mp member
      exact encodeSlot_ne_blank entry
  have sequence :
      region.applyWrites Medium.ram
          (handOffWrites active header (keptEntries blobs)) =
        filled.applyWrites Medium.ram
          [.header (1 - active) (encodeRegionHeader header.next).toList,
            .erase active sectorSize] := by
    simp [handOffWrites, filled]
  have oldErased :
      ∃ cells,
        region.applyWrites Medium.ram
            (handOffWrites active header (keptEntries blobs)) active =
          erase cells sectorSize := by
    rw [sequence]
    exact ⟨_, applyWrite_own _ _ (.erase active sectorSize)⟩
  obtain ⟨cells, isErased⟩ := oldErased
  refine of_fresh ?_ ?_
  · rw [sequence]
    exact settled_takeOver Medium.ram holds copied.header header.next
  · rw [spare_spare, isErased]
    refine .of_erased (read_erase_inside cells (by decide)) ?_ (by simp)
    intro slot inside
    apply read_erase_inside
    simp only [slotOffset, regionHeaderLen, sectorSize,
      slotsPerSector] at *
    omega

/-- With room left, an append is one slot write at the head. -/
theorem appendWrites_notFull
    (ready : region.Ready active header blobs)
    (notFull : blobs.length < slotsPerSector)
    (slot : DecodedSlot) :
    region.appendWrites slot =
      .ok [.slot active blobs.length (encodeSlot slot).toList] := by
  have room : ¬ slotsPerSector ≤ blobs.length := by omega
  simp [appendWrites, ready.settled.activeSectorIndex_eq,
    ready.settled.slots.findWriteHead_eq, room]

/-- On a full sector an append hands over and writes behind the copies. -/
theorem appendWrites_full
    (ready : region.Ready active header blobs)
    (full : slotsPerSector ≤ blobs.length)
    (slot : DecodedSlot) :
    region.appendWrites slot =
      .ok (handOffWrites active header (keptEntries blobs) ++
        [.slot (1 - active) (keptEntries blobs).length
          (encodeSlot slot).toList]) := by
  have gathered : region.gatherLive active = keptEntries blobs :=
    ready.settled.slots.gatherLive_eq
  have writes :
      region.compactWrites active header =
        handOffWrites active header (keptEntries blobs) := by
    simp [compactWrites, ready.spareHeader_eq, gathered]
  have compacted := ready.handOff
  have newHead := compacted.settled.slots.findWriteHead_eq
  rw [List.length_map] at newHead
  simp [appendWrites, ready.settled.activeSectorIndex_eq,
    ready.settled.slots.findWriteHead_eq, full,
    ready.settled.activeHeader, writes,
    compacted.settled.activeSectorIndex_eq, newHead]

/--
What one append leaves: behind the slots there were, or behind the kept entries,
the visible trace of its own slot write, if it got that far.
-/
theorem attempt
    (ready : region.Ready active header blobs)
    (attempt : AppendAttempt) :
    ∃ writes activeAfter headerAfter base,
      region.appendWrites attempt.slot = .ok writes ∧
      (base = blobs ∨ base = (keptEntries blobs).map encodeSlot) ∧
      (∀ trace, attempt.trace writes = some trace →
        trace.slot = attempt.slot) ∧
      (region.applyWrites Medium.ram (attempt.carriedOut writes)).Ready
        activeAfter headerAfter
        (base ++
          ((attempt.trace writes).toList.filter
            Trace.isVisible).map Trace.blob) := by
  rcases Nat.lt_or_ge blobs.length slotsPerSector with notFull | full
  · obtain ⟨trace, isTrace, ofAttempt, carried⟩ :=
      attempt.carriedOut_single active blobs.length
    refine ⟨_, active, header, blobs,
      ready.appendWrites_notFull notFull attempt.slot, .inl rfl, ?_, ?_⟩
    · rintro other isOther
      rw [isTrace, Option.some_inj] at isOther
      exact isOther ▸ ofAttempt
    · rw [carried, isTrace]
      exact ready.writeSlot notFull trace
  · have writes := ready.appendWrites_full full attempt.slot
    by_cases inside :
        ∃ tear,
          attempt.tear = some tear ∧
            tear.slotWrite < (keptEntries blobs).length
    · obtain ⟨tear, isTorn, inside⟩ := inside
      have noTrace :=
        AppendAttempt.trace_inside isTorn inside active header
          (keptEntries blobs).length
      refine ⟨_, active, header, blobs, writes, .inl rfl, ?_, ?_⟩
      · simp [noTrace]
      · rw [noTrace]
        simp only [AppendAttempt.carriedOut, isTorn, handOffWrites,
          List.append_assoc, tornWrites_inside (1 - active) 0 inside]
        simpa using ready.tornCopy full inside
    · have behind :
          ∀ tear,
            attempt.tear = some tear →
              (keptEntries blobs).length ≤ tear.slotWrite := by
        intro tear isTorn
        by_contra notBehind
        exact inside ⟨tear, isTorn, by omega⟩
      obtain ⟨trace, isTrace, ofAttempt, carried⟩ :=
        attempt.carriedOut_behind behind active header
          (keptEntries blobs).length
      have few := length_keptEntries blobs
      have room :
          ((keptEntries blobs).map encodeSlot).length <
            slotsPerSector := by
        simp only [List.length_map, maxHistoryEntries,
          slotsPerSector] at *
        omega
      have written := ready.handOff.writeSlot room trace
      rw [List.length_map] at written
      refine ⟨_, 1 - active, header.next,
        (keptEntries blobs).map encodeSlot, writes, .inr rfl, ?_, ?_⟩
      · rintro other isOther
        rw [isTrace, Option.some_inj] at isOther
        exact isOther ▸ ofAttempt
      · rw [carried, isTrace, applyWrites_append]
        exact written

end Ready

end HistoryRegion

end MeshCadet
