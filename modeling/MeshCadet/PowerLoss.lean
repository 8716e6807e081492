import Mathlib.Algebra.GroupWithZero.Nat
import MeshCadet.RegionLog

namespace MeshCadet

/-!
# Power loss during a rewrite

The flash store rewrites a region in one sequence: erase the spare, write the
entries, write the header, erase the old sector.  Power can be lost after any
byte of it.  What the next boot reads back depends on where the cut falls; only
a header of which four or five bytes were written can be mistaken for a complete
one.
-/

open FlashCells

namespace RegionWrite

/-- Number of bytes a write stores. -/
def size : RegionWrite → Nat
  | erase _ length => length
  | slot _ _ bytes => bytes.length
  | header _ bytes => bytes.length

/-- The write interrupted after some bytes. -/
def interrupted
    (written : Nat) :
    RegionWrite → RegionWrite
  | erase sector length => erase sector (min written length)
  | slot sector index bytes => slot sector index (bytes.take written)
  | header sector bytes => header sector (bytes.take written)

end RegionWrite

/-- The writes carried out when power is lost after some bytes. -/
def cutWrites
    (written : Nat) :
    List RegionWrite → List RegionWrite
  | [] =>
      []
  | write :: rest =>
      if write.size ≤ written then
        write :: cutWrites (written - write.size) rest
      else
        [write.interrupted written]

/-- Bytes of a sequence of writes. -/
def totalSize
    (writes : List RegionWrite) :
    Nat :=
  (writes.map RegionWrite.size).sum

/-- A cut behind the first part leaves that part whole. -/
theorem cutWrites_append_of_le
    {written : Nat}
    {first : List RegionWrite}
    (behind : totalSize first ≤ written)
    (second : List RegionWrite) :
    cutWrites written (first ++ second) =
      first ++ cutWrites (written - totalSize first) second := by
  induction first generalizing written with
  | nil =>
      simp [totalSize]
  | cons write rest inductionHypothesis =>
      simp only [totalSize, List.map_cons, List.sum_cons] at behind
      have whole : write.size ≤ written := by omega
      have restBehind : totalSize rest ≤ written - write.size := by
        simp only [totalSize]
        omega
      rw [List.cons_append, cutWrites, if_pos whole,
        inductionHypothesis restBehind]
      simp [totalSize, Nat.sub_sub]

/-- A cut inside the first part never reaches the second. -/
theorem cutWrites_append_of_lt
    {written : Nat}
    {first : List RegionWrite}
    (inside : written < totalSize first)
    (second : List RegionWrite) :
    cutWrites written (first ++ second) = cutWrites written first := by
  induction first generalizing written with
  | nil =>
      simp [totalSize] at inside
  | cons write rest inductionHypothesis =>
      simp only [totalSize, List.map_cons, List.sum_cons] at inside
      by_cases whole : write.size ≤ written
      · have restInside : written - write.size < totalSize rest := by
          simp only [totalSize]
          omega
        rw [List.cons_append, cutWrites, cutWrites, if_pos whole,
          if_pos whole, inductionHypothesis restInside]
      · rw [List.cons_append, cutWrites, cutWrites, if_neg whole,
          if_neg whole]

namespace HistoryRegion

/-- Why the flash store rewrites a region. -/
inductive RewriteCause where
  | compaction
  | markAcked
deriving Repr, DecidableEq

/-- The entries a rewrite carries over from the active sector. -/
def rewriteEntries
    (region : HistoryRegion)
    (active : Fin 2) :
    RewriteCause → List DecodedSlot
  | .compaction => region.gatherLive active
  | .markAcked => withNewestAcked (region.gatherLive active)

/-- The region a boot finds when a rewrite lost power after some bytes. -/
def afterPowerLoss
    (region : HistoryRegion)
    (active : Fin 2)
    (header : RegionHeader)
    (entries : List DecodedSlot)
    (written : Nat) :
    HistoryRegion :=
  region.applyWrites Medium.nor
    (cutWrites written
      (rewriteRegionWrites active header entries))

/--
The boot reads the header from before the rewrite or the complete new one, and
the entries the rewrite started from or all of the rewritten ones.
-/
structure Recovered
    (before after : HistoryRegion)
    (header : RegionHeader)
    (entries : List DecodedSlot) :
    Prop where
  header :
    after.header = some header ∨ after.header = some header.next
  live : after.liveView = before.liveView ∨ after.liveView = entries

/-- Header bytes written when power is lost. -/
def headerBytesWritten
    (entries : List DecodedSlot)
    (written : Nat) :
    Nat :=
  written - (sectorSize + 72 * entries.length)

/-- An erased generation byte is taken as newer than the active sector's. -/
def erasedGenerationWins
    (active : Fin 2)
    (generation : UInt8) :
    Bool :=
  if active = 0 then
    generationIsNewer 0xFF generation
  else
    !generationIsNewer generation 0xFF

/--
A header of which four or five bytes were written is taken as authoritative
although it is neither the old nor the new one.
-/
def tornHeaderTakesOver
    (active : Fin 2)
    (header : RegionHeader)
    (headerBytes : Nat) :
    Bool :=
  erasedGenerationWins active header.generation &&
    (headerBytes == 4 &&
        !(header.convHash == 0xFF && 254 ≤ header.generation.toNat) ||
      headerBytes == 5 && header.generation.toNat < 254)

/-- With fewer than four bytes a header is not valid. -/
theorem decode_torn_none
    (header : RegionHeader)
    {written : Nat}
    (few : written < 4) :
    decodeRegionHeader (torn (encodeRegionHeader header) written) =
      none := by
  have kindErased :
      (torn (encodeRegionHeader header) written)[3] = 0xFF := by
    have notReached : ¬ 3 < written := by omega
    simp [torn, notReached]
  have noKind : HistoryMsgType.fromU8 0xFF = none := rfl
  simp [decodeRegionHeader, kindErased, noKind]

/-- Four bytes hold the kind; the other two fields read erased. -/
theorem decode_torn_four
    (header : RegionHeader) :
    decodeRegionHeader (torn (encodeRegionHeader header) 4) =
      some { kind := header.kind, convHash := 0xFF, generation := 0xFF } := by
  simp [decodeRegionHeader, torn, encodeRegionHeader]

/-- Five bytes hold kind and hash; the generation reads erased. -/
theorem decode_torn_five
    (header : RegionHeader) :
    decodeRegionHeader (torn (encodeRegionHeader header) 5) =
      some { header with generation := 0xFF } := by
  simp [decodeRegionHeader, torn, encodeRegionHeader]

/-- An erased generation decides which of two valid headers wins. -/
theorem activeSectorIndex_erasedGeneration
    {region : HistoryRegion}
    {active : Fin 2}
    {header spareHeader : RegionHeader}
    (isActive : region.headerOf active = some header)
    (isSpare : region.headerOf (1 - active) = some spareHeader)
    (generationErased : spareHeader.generation = 0xFF) :
    region.activeSectorIndex =
      some
        (if erasedGenerationWins active header.generation then
          1 - active
        else
          active) := by
  match active with
  | 0 =>
      have isSecond : region.headerOf 1 = some spareHeader := isSpare
      cases wins : generationIsNewer 0xFF header.generation <;>
        simp [activeSectorIndex, isActive, isSecond,
          generationErased, erasedGenerationWins, wins]
  | 1 =>
      have isFirst : region.headerOf 0 = some spareHeader := isSpare
      cases wins : generationIsNewer header.generation 0xFF <;>
        simp [activeSectorIndex, isActive, isFirst,
          generationErased, erasedGenerationWins, wins]

/-- A rewrite carries over at most 32 entries. -/
theorem length_rewriteEntries
    (region : HistoryRegion)
    (active : Fin 2)
    (cause : RewriteCause) :
    (region.rewriteEntries active cause).length ≤
      maxHistoryEntries := by
  have bound := region.length_gatherLive active
  cases cause with
  | compaction =>
      exact bound
  | markAcked =>
      simpa [rewriteEntries, withNewestAcked] using bound

section Cut

variable
    {before after : HistoryRegion}
    {active : Fin 2}
    {header : RegionHeader}
    {entries : List DecodedSlot}

/-- While the spare has no header, the boot finds what was there before. -/
theorem recovered_of_silentSpare
    (isActive : before.activeSectorIndex = some active)
    (hasHeader : before.headerOf active = some header)
    (untouched : after active = before active)
    (silent : after.headerOf (1 - active) = none) :
    Recovered before after header entries := by
  have stillHeader : after.headerOf active = some header := by
    rw [← hasHeader, headerOf, headerOf, untouched]
  have stillActive : after.activeSectorIndex = some active :=
    activeSectorIndex_single stillHeader silent
  exact
    { header := by
        simp [HistoryRegion.header, stillActive, stillHeader]
      live := by
        left
        simp [liveView, stillActive, isActive,
          gatherLive_congr untouched] }

/-- Once the spare's header is complete, the boot finds the rewritten region. -/
theorem recovered_of_complete
    (few : entries.length ≤ maxHistoryEntries)
    (holds :
      HoldsSlots (after (1 - active)) (entries.map encodeSlot))
    (isSpare : after.headerOf (1 - active) = some header.next)
    (isActive :
      after.headerOf active = some header ∨
        after.headerOf active = none) :
    Recovered before after header entries := by
  have newActive : after.activeSectorIndex = some (1 - active) := by
    rcases isActive with stillValid | erasedHeader
    · have newer := generationIsNewer_next header.generation
      exact activeSectorIndex_newer stillValid isSpare newer.1 newer.2
    · apply activeSectorIndex_single isSpare
      simpa using erasedHeader
  exact
    { header := by
        simp [HistoryRegion.header, newActive, isSpare]
      live := by
        right
        simp [liveView, newActive, gatherLive_rewritten few holds] }

/-- With a torn header the boot decides by the erased generation. -/
theorem recovered_torn_iff
    {tornHeader : RegionHeader}
    (few : entries.length ≤ maxHistoryEntries)
    (isActive : before.activeSectorIndex = some active)
    (hasHeader : before.headerOf active = some header)
    (untouched : after active = before active)
    (holds :
      HoldsSlots (after (1 - active)) (entries.map encodeSlot))
    (isSpare : after.headerOf (1 - active) = some tornHeader)
    (generationErased : tornHeader.generation = 0xFF) :
    Recovered before after header entries ↔
      (erasedGenerationWins active header.generation = true →
        tornHeader = header ∨ tornHeader = header.next) := by
  have stillHeader : after.headerOf active = some header := by
    rw [← hasHeader, headerOf, headerOf, untouched]
  have decided :=
    activeSectorIndex_erasedGeneration
      stillHeader isSpare generationErased
  cases wins : erasedGenerationWins active header.generation with
  | false =>
      have stillActive : after.activeSectorIndex = some active := by
        simpa [wins] using decided
      refine iff_of_true ?_ (by simp)
      exact
        { header := by
            simp [HistoryRegion.header, stillActive, stillHeader]
          live := by
            left
            simp [liveView, stillActive, isActive,
              gatherLive_congr untouched] }
  | true =>
      have newActive : after.activeSectorIndex = some (1 - active) := by
        simpa [wins] using decided
      have readBack : after.header = some tornHeader := by
        simp [HistoryRegion.header, newActive, isSpare]
      have live : after.liveView = entries := by
        simp [liveView, newActive, gatherLive_rewritten few holds]
      constructor
      · intro recovered _
        have readsKnown := recovered.header
        simpa [readBack] using readsKnown
      · intro isKnown
        exact
          { header := by
              simpa [readBack] using isKnown rfl
            live := .inr live }

end Cut

theorem totalSize_slotWrites
    (sector : Fin 2)
    (start : Nat)
    (entries : List DecodedSlot) :
    totalSize (slotWrites sector start entries) =
      72 * entries.length := by
  induction entries generalizing start with
  | nil =>
      rfl
  | cons entry rest inductionHypothesis =>
      have restSize := inductionHypothesis (start + 1)
      simp only [totalSize] at restSize
      simp [totalSize, slotWrites, RegionWrite.size, restSize]
      omega

/-- A cut sequence of slot writes writes slots of the same sector. -/
theorem mem_cutWrites_slotWrites
    {written : Nat}
    {sector : Fin 2}
    {start : Nat}
    {entries : List DecodedSlot}
    {write : RegionWrite}
    (member :
      write ∈ cutWrites written (slotWrites sector start entries)) :
    ∃ index bytes, write = .slot sector index bytes := by
  induction entries generalizing written start with
  | nil =>
      cases member
  | cons entry rest inductionHypothesis =>
      rw [slotWrites, cutWrites] at member
      split at member
      · rcases List.mem_cons.mp member with rfl | member
        · exact ⟨_, _, rfl⟩
        · exact inductionHypothesis member
      · rw [List.mem_singleton.mp member]
        exact ⟨_, _, rfl⟩

/-- An erased generation is the old one or the next one. -/
theorem erasedGeneration_iff
    (generation : UInt8) :
    (0xFF = generation ∨ 0xFF = generation + 1) ↔
      254 ≤ generation.toNat := by
  have bound := generation.toNat_lt
  rw [← UInt8.toNat_inj, ← UInt8.toNat_inj, UInt8.toNat_add]
  simp
  omega

/-- A header of four bytes is a known one when hash and generation are. -/
theorem fourBytes_known_iff
    (header : RegionHeader) :
    (({ kind := header.next.kind
        convHash := 0xFF
        generation := 0xFF } : RegionHeader) = header ∨
      ({ kind := header.next.kind
         convHash := 0xFF
         generation := 0xFF } : RegionHeader) = header.next) ↔
      header.convHash = 0xFF ∧ 254 ≤ header.generation.toNat := by
  rw [← erasedGeneration_iff]
  rcases header with ⟨kind, convHash, generation⟩
  constructor
  · rintro (same | same)
    · obtain ⟨-, sameHash, sameGeneration⟩ :=
        RegionHeader.mk.inj same
      exact ⟨sameHash.symm, .inl sameGeneration⟩
    · obtain ⟨-, sameHash, sameGeneration⟩ :=
        RegionHeader.mk.inj same
      exact ⟨sameHash.symm, .inr sameGeneration⟩
  · rintro ⟨sameHash, sameGeneration | sameGeneration⟩
    · left
      exact congrArg₂ (RegionHeader.mk kind)
        sameHash.symm sameGeneration
    · right
      exact congrArg₂ (RegionHeader.mk kind)
        sameHash.symm sameGeneration

/-- A header of five bytes is a known one when its generation is. -/
theorem fiveBytes_known_iff
    (header : RegionHeader) :
    (({ header.next with generation := 0xFF } : RegionHeader) =
        header ∨
      ({ header.next with generation := 0xFF } : RegionHeader) =
        header.next) ↔
      254 ≤ header.generation.toNat := by
  rw [← erasedGeneration_iff]
  rcases header with ⟨kind, convHash, generation⟩
  constructor
  · rintro (same | same)
    · exact .inl (RegionHeader.mk.inj same).2.2
    · exact .inr (RegionHeader.mk.inj same).2.2
  · rintro (sameGeneration | sameGeneration)
    · left
      exact congrArg (RegionHeader.mk kind convHash) sameGeneration
    · right
      exact congrArg (RegionHeader.mk kind convHash) sameGeneration

/--
Losing power while the header is written recovers unless the torn header takes
over.
-/
theorem recovered_withTornHeader_iff
    {region : HistoryRegion}
    {active : Fin 2}
    {header : RegionHeader}
    {entries : List DecodedSlot}
    (few : entries.length ≤ maxHistoryEntries)
    (isActive : region.activeSectorIndex = some active)
    (hasHeader : region.headerOf active = some header)
    (headerBytes : Nat) :
    Recovered region
        (region.withTornHeader active header entries headerBytes)
        header entries ↔
      tornHeaderTakesOver active header headerBytes = false := by
  have untouched :=
    region.withTornHeader_active active header entries headerBytes
  have slots :=
    region.withTornHeader_slots active header entries headerBytes few
  have isSpare :=
    region.withTornHeader_header active header entries headerBytes
  have stillHeader :
      (region.withTornHeader active header entries
          headerBytes).headerOf active = some header := by
    rw [← hasHeader, headerOf, headerOf, untouched]
  rcases Nat.lt_or_ge headerBytes 4 with tooFew | atLeastFour
  · rw [decode_torn_none header.next tooFew] at isSpare
    refine iff_of_true
      (recovered_of_silentSpare isActive hasHeader untouched isSpare) ?_
    have notFour : headerBytes ≠ 4 := by omega
    have notFive : headerBytes ≠ 5 := by omega
    simp [tornHeaderTakesOver, notFour, notFive]
  rcases Nat.lt_or_ge headerBytes 6 with atMostFive | complete
  · obtain rfl | rfl : headerBytes = 4 ∨ headerBytes = 5 := by
      omega
    · rw [decode_torn_four] at isSpare
      rw [recovered_torn_iff few isActive hasHeader untouched slots
        isSpare rfl]
      rw [fourBytes_known_iff]
      cases wins : erasedGenerationWins active header.generation <;>
        simp [tornHeaderTakesOver, wins]
    · rw [decode_torn_five] at isSpare
      rw [recovered_torn_iff few isActive hasHeader untouched slots
        isSpare rfl]
      rw [fiveBytes_known_iff]
      cases wins : erasedGenerationWins active header.generation <;>
        simp [tornHeaderTakesOver, wins]
  · rw [decode_torn_complete header.next complete] at isSpare
    refine iff_of_true
      (recovered_of_complete few slots isSpare (.inl stillHeader)) ?_
    have notFour : headerBytes ≠ 4 := by omega
    have notFive : headerBytes ≠ 5 := by omega
    simp [tornHeaderTakesOver, notFour, notFive]

/-- What a rewrite interrupted after some bytes leaves. -/
theorem cut_cases
    (region : HistoryRegion)
    (active : Fin 2)
    (header : RegionHeader)
    (entries : List DecodedSlot)
    (written : Nat) :
    (headerBytesWritten entries written = 0 ∧
        cutWrites written
            (rewriteRegionWrites active header entries) =
          [.erase (1 - active) written]) ∨
      (headerBytesWritten entries written = 0 ∧
        ∃ slots,
          cutWrites written
              (rewriteRegionWrites active header entries) =
            .erase (1 - active) sectorSize :: slots ∧
          ∀ write ∈ slots,
            ∃ index bytes, write = .slot (1 - active) index bytes) ∨
      (headerBytesWritten entries written < 8 ∧
        region.applyWrites Medium.nor
            (cutWrites written
              (rewriteRegionWrites active header entries)) =
          region.withTornHeader active header entries
            (headerBytesWritten entries written)) ∨
      (8 ≤ headerBytesWritten entries written ∧
        ∃ length,
          region.applyWrites Medium.nor
              (cutWrites written
                (rewriteRegionWrites active header entries)) =
            (region.withTornHeader active header entries 8).applyWrite
              Medium.nor (.erase active length)) := by
  by_cases inErase : written < sectorSize
  · left
    refine ⟨by simp only [headerBytesWritten]; omega, ?_⟩
    have notWhole : ¬ sectorSize ≤ written := by omega
    simp [rewriteRegionWrites, cutWrites, RegionWrite.size,
      RegionWrite.interrupted, notWhole]
    omega
  right
  have erased :
      cutWrites written (rewriteRegionWrites active header entries) =
        .erase (1 - active) sectorSize ::
          cutWrites (written - sectorSize)
            (handOffWrites active header entries) := by
    have whole : sectorSize ≤ written := by omega
    simp [rewriteRegionWrites, cutWrites, RegionWrite.size, whole]
  have slotsSize :=
    totalSize_slotWrites (1 - active) 0 entries
  by_cases inSlots : written - sectorSize < 72 * entries.length
  · left
    refine ⟨by simp only [headerBytesWritten]; omega, _, erased, ?_⟩
    intro write member
    rw [handOffWrites, cutWrites_append_of_lt (by omega)] at member
    exact mem_cutWrites_slotWrites member
  right
  have remaining :
      written - sectorSize - 72 * entries.length =
        headerBytesWritten entries written := by
    simp only [headerBytesWritten]
    omega
  rw [erased, handOffWrites, cutWrites_append_of_le (by omega),
    slotsSize, remaining]
  rcases Nat.lt_or_ge (headerBytesWritten entries written) 8 with
    inHeader | behindHeader
  · left
    have notWhole :
        ¬ 8 ≤ headerBytesWritten entries written := by
      omega
    refine ⟨inHeader, ?_⟩
    simp [cutWrites, RegionWrite.size, RegionWrite.interrupted,
      notWhole, withTornHeader, filledSpare]
  · right
    refine ⟨behindHeader, ?_⟩
    have wholeHeader :
        (encodeRegionHeader header.next).toList.take 8 =
          (encodeRegionHeader header.next).toList :=
      List.take_of_length_le (by simp)
    by_cases inOld :
        sectorSize ≤ headerBytesWritten entries written - 8
    · refine ⟨sectorSize, ?_⟩
      simp [cutWrites, RegionWrite.size, behindHeader, inOld,
        withTornHeader, filledSpare, wholeHeader]
    · refine
        ⟨min (headerBytesWritten entries written - 8) sectorSize, ?_⟩
      simp [cutWrites, RegionWrite.size, RegionWrite.interrupted,
        behindHeader, inOld, withTornHeader, filledSpare, wholeHeader]

/-- Without header bytes no torn header takes over. -/
theorem tornHeaderTakesOver_zero
    (active : Fin 2)
    (header : RegionHeader) :
    tornHeaderTakesOver active header 0 = false := by
  simp [tornHeaderTakesOver]

/-- Erasing nothing changes nothing. -/
theorem applyWrite_erase_zero
    (region : HistoryRegion)
    (sector : Fin 2) :
    region.applyWrite Medium.nor (.erase sector 0) = region := by
  have same : erase (region sector) 0 = region sector := by
    funext address
    simp [erase]
  simp [applyWrite, RegionWrite.applyTo, RegionWrite.sector, same]

/-- A rewrite to any few entries recovers unless a torn header takes over. -/
theorem recovered_afterPowerLoss_iff
    {region : HistoryRegion}
    {active : Fin 2}
    {header : RegionHeader}
    {entries : List DecodedSlot}
    (few : entries.length ≤ maxHistoryEntries)
    (isActive : region.activeSectorIndex = some active)
    (hasHeader : region.headerOf active = some header)
    (written : Nat) :
    Recovered region
        (region.afterPowerLoss active header entries written)
        header entries ↔
      tornHeaderTakesOver active header
          (headerBytesWritten entries written) =
        false := by
  rcases region.cut_cases active header entries written with
    ⟨noHeader, onlyErase⟩ | ⟨noHeader, slots, onlySlots, areSlots⟩ |
    ⟨inHeader, tornHeader⟩ | ⟨behindHeader, length, inOld⟩
  · rw [noHeader, afterPowerLoss, onlyErase, applyWrites_cons,
      applyWrites_nil]
    refine iff_of_true ?_ (tornHeaderTakesOver_zero active header)
    rcases Nat.eq_zero_or_pos written with rfl | started
    · rw [applyWrite_erase_zero]
      exact
        { header := by
            simp [HistoryRegion.header, isActive, hasHeader]
          live := .inl rfl }
    · exact recovered_of_silentSpare isActive hasHeader
        (applyWrite_other _ _ (ne_spare active))
        (headerOf_erase _ _ _ started)
  · rw [noHeader, afterPowerLoss, onlySlots, applyWrites_cons]
    refine iff_of_true ?_ (tornHeaderTakesOver_zero active header)
    apply recovered_of_silentSpare isActive hasHeader
    · rw [applyWrites_other]
      · exact applyWrite_other _ _ (ne_spare active)
      · intro write member
        obtain ⟨index, bytes, rfl⟩ := areSlots write member
        exact ne_spare active
    · have erasedHeader :=
        headerOf_erase Medium.nor region (1 - active)
          (show 0 < sectorSize by decide)
      rw [headerOf, headerBytes_slots _ _ areSlots]
      exact erasedHeader
  · rw [afterPowerLoss, tornHeader]
    exact recovered_withTornHeader_iff few isActive hasHeader _
  · have notFour : headerBytesWritten entries written ≠ 4 := by omega
    have notFive : headerBytesWritten entries written ≠ 5 := by omega
    refine iff_of_true ?_ (by simp [tornHeaderTakesOver, notFour, notFive])
    rw [afterPowerLoss, inOld]
    have other : 1 - active ≠ active := (ne_spare active).symm
    apply recovered_of_complete few
    · rw [applyWrite_other _ _ other]
      exact region.withTornHeader_slots active header entries 8 few
    · rw [headerOf, applyWrite_other _ _ other]
      have isSpare :=
        region.withTornHeader_header active header entries 8
      rw [decode_torn_complete header.next (by omega)] at isSpare
      exact isSpare
    · rcases Nat.eq_zero_or_pos length with rfl | started
      · left
        rw [applyWrite_erase_zero, headerOf,
          region.withTornHeader_active active header entries 8]
        exact hasHeader
      · exact .inr (headerOf_erase _ _ _ started)

/--
A rewrite that lost power after any byte recovers exactly when no torn header
takes over.
-/
theorem rewrite_recovers_iff
    {region : HistoryRegion}
    {active : Fin 2}
    {header : RegionHeader}
    (isActive : region.activeSectorIndex = some active)
    (hasHeader : region.headerOf active = some header)
    (cause : RewriteCause)
    (written : Nat) :
    Recovered region
        (region.afterPowerLoss active header
          (region.rewriteEntries active cause) written)
        header (region.rewriteEntries active cause) ↔
      tornHeaderTakesOver active header
          (headerBytesWritten
            (region.rewriteEntries active cause) written) =
        false :=
  recovered_afterPowerLoss_iff
    (region.length_rewriteEntries active cause)
    isActive hasHeader written

/-- An outbound message that waits for its acknowledgement. -/
def pendingMessage : DecodedSlot :=
  { entry :=
      { senderHash := 0x42
        msgType := .dm
        timestamp := 0
        text := Vector.replicate 64 0
        textLen := 0 }
    isOurs := true
    acked := false }

/-- The first message of a conversation is acknowledged, and power is lost after four
bytes of the new header. -/
theorem rewrite_recovers_fourBytes :
    ∃ region,
      (newErased.claimRegion .dm 0x42).appendRegion pendingMessage =
          some region ∧
        region.rewriteEntries 0 .markAcked =
          [{ pendingMessage with acked := true }] ∧
        Recovered region
          (region.afterPowerLoss 0
            { kind := .dm, convHash := 0x42, generation := 0 }
            (region.rewriteEntries 0 .markAcked) (sectorSize + 72 + 4))
          { kind := .dm, convHash := 0x42, generation := 0 }
          (region.rewriteEntries 0 .markAcked) := by
  obtain ⟨region, appended, settled⟩ :=
    (settled_claimRegion newErased .dm 0x42).append_notFull (by decide)
      pendingMessage
  have rewritten :
      region.rewriteEntries 0 .markAcked =
        [{ pendingMessage with acked := true }] := by
    rw [rewriteEntries, settled.gatherLive_eq]
    decide
  refine ⟨region, appended, rewritten, ?_⟩
  refine
    (rewrite_recovers_iff settled.activeSectorIndex_eq settled.activeHeader
        .markAcked _).mpr ?_
  rw [rewritten]
  decide

/-- A conversation after some messages, each sent and then acknowledged. -/
def acknowledgedRounds : Nat → Option HistoryRegion
  | 0 =>
      some (newErased.claimRegion .dm 0x42)
  | rounds + 1 => do
      let region ← acknowledgedRounds rounds
      let sent ← region.appendRegion pendingMessage
      let (acked, _) ← sent.markRegionAcked
      some acked

/-- Every acknowledged message exchanges the sectors once. -/
theorem acknowledgedRounds_settled
    (rounds : Nat) :
    ∃ region entries,
      acknowledgedRounds rounds = some region ∧
        region.SettledEntries (Fin.ofNat 2 rounds)
          { kind := .dm
            convHash := 0x42
            generation := UInt8.ofNat rounds }
          entries ∧
        entries.length ≤ maxHistoryEntries := by
  induction rounds with
  | zero =>
      exact ⟨_, [], rfl, settled_claimRegion newErased .dm 0x42, by decide⟩
  | succ rounds inductionHypothesis =>
      obtain ⟨region, entries, reached, settled, few⟩ :=
        inductionHypothesis
      have notFull : entries.length < slotsPerSector := by
        simp only [maxHistoryEntries, slotsPerSector] at *
        omega
      obtain ⟨sent, appended, settledSent⟩ :=
        settled.append_notFull notFull pendingMessage
      have newestPending :
          findNewestOursUnacked (recent (entries ++ [pendingMessage])) =
            some ((entries.rtake 31).length) := by
        rw [recent, show maxHistoryEntries = 31 + 1 from rfl,
          List.rtake_concat_succ]
        exact Search.findLastIdx?_eq_some_iff.mpr
          ⟨_, pendingMessage, [], rfl, rfl, rfl, by simp⟩
      obtain ⟨acked, marked, settledAcked⟩ :=
        settledSent.mark_some newestPending
      have nextSector :
          1 - Fin.ofNat 2 rounds = Fin.ofNat 2 (rounds + 1) := by
        rcases Nat.mod_two_eq_zero_or_one rounds with even | odd
        · apply Fin.ext
          simp [Fin.sub_def]
          omega
        · apply Fin.ext
          simp [Fin.sub_def]
          omega
      have nextGeneration :
          UInt8.ofNat rounds + 1 = UInt8.ofNat (rounds + 1) := by
        simp [UInt8.ofNat_add]
      rw [nextSector, RegionHeader.next, nextGeneration] at settledAcked
      refine ⟨acked, _, ?_, settledAcked, ?_⟩
      · simp [acknowledgedRounds, reached, appended, marked]
      · simpa [withNewestAcked] using
          length_recent_le (entries ++ [pendingMessage])

/--
After 128 acknowledged messages, a compaction that loses power behind the fourth
byte of the header hands the region to another conversation.
-/
theorem tornHeader_changes_conversation :
    ∃ region,
      acknowledgedRounds 128 = some region ∧
        region.header =
          some { kind := .dm, convHash := 0x42, generation := 128 } ∧
        (region.afterPowerLoss 0
            { kind := .dm, convHash := 0x42, generation := 128 }
            (region.rewriteEntries 0 .compaction)
            (sectorSize +
              72 * (region.rewriteEntries 0 .compaction).length +
              4)).header =
          some { kind := .dm, convHash := 0xFF, generation := 0xFF } := by
  obtain ⟨region, entries, reached, settled, -⟩ :=
    acknowledgedRounds_settled 128
  have inSectorZero :
      region.Settled 0
        { kind := .dm, convHash := 0x42, generation := 128 }
        (entries.map encodeSlot) :=
    settled
  refine ⟨region, reached, inSectorZero.header_eq, ?_⟩
  generalize region.rewriteEntries 0 .compaction = rewritten
  generalize isCut : sectorSize + 72 * rewritten.length + 4 = written
  have fourBytes : headerBytesWritten rewritten written = 4 := by
    simp only [headerBytesWritten]
    omega
  rcases region.cut_cases 0
      { kind := .dm, convHash := 0x42, generation := 128 }
      rewritten written with
    ⟨noHeader, -⟩ | ⟨noHeader, -⟩ | ⟨-, tornHeader⟩ | ⟨whole, -⟩
  · omega
  · omega
  · have stillHeader :
        (region.withTornHeader 0
            { kind := .dm, convHash := 0x42, generation := 128 }
            rewritten 4).headerOf 0 =
          some { kind := .dm, convHash := 0x42, generation := 128 } := by
      rw [headerOf, region.withTornHeader_active 0]
      exact inSectorZero.activeHeader
    have isSpare :=
      region.withTornHeader_header 0
        { kind := .dm, convHash := 0x42, generation := 128 }
        rewritten 4
    rw [decode_torn_four] at isSpare
    have newActive :=
      activeSectorIndex_erasedGeneration stillHeader isSpare rfl
    have wins : erasedGenerationWins 0 128 = true := by decide
    rw [afterPowerLoss, tornHeader, fourBytes, HistoryRegion.header,
      newActive, wins]
    exact isSpare
  · omega

end HistoryRegion

end MeshCadet
