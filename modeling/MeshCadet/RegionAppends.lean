import MeshCadet.RegionRewrite

namespace MeshCadet

/-!
# Appends to a region in memory

The region codec keeps both sectors in memory.  An append writes one slot, after
copying the live entries to the spare sector when the active one is full.  Any
of its slot writes may be torn; the rest of that append is then lost.
-/

open FlashCells

/-- Why an append does not happen; `noActiveSector` is the codec's panic. -/
inductive RegionError where
  | unclaimed
  | noActiveSector
deriving Repr, DecidableEq

/-- A slot write of an append, counted from zero, and the bytes it stores. -/
structure Tear where
  slotWrite : Nat
  bytes : Nat
deriving Repr, DecidableEq

/-- The writes carried out when a slot write is torn and the rest is lost. -/
def tornWrites
    (tear : Tear) :
    List RegionWrite → List RegionWrite
  | [] =>
      []
  | .slot sector index bytes :: rest =>
      match tear.slotWrite with
      | 0 => [.slot sector index (bytes.take tear.bytes)]
      | later + 1 =>
          .slot sector index bytes ::
            tornWrites { tear with slotWrite := later } rest
  | write :: rest =>
      write :: tornWrites tear rest

namespace HistoryRegion

/-- Claim an unclaimed region held in memory. -/
def claim
    (region : HistoryRegion)
    (kind : HistoryMsgType)
    (convHash : UInt8) :
    HistoryRegion :=
  let header : RegionHeader :=
    { kind := kind, convHash := convHash, generation := 0 }
  region.applyWrites Medium.ram
    [.header 0 (encodeRegionHeader header).toList, .erase 1 sectorSize]

/-- Copy the live entries to the spare, which is erased if it has a header. -/
def compactWrites
    (region : HistoryRegion)
    (active : Fin 2)
    (header : RegionHeader) :
    List RegionWrite :=
  let spareErase : List RegionWrite :=
    if (region.headerOf (1 - active)).isSome then
      [.erase (1 - active) sectorSize]
    else
      []
  spareErase ++ handOffWrites active header (region.gatherLive active)

/-- The writes of an append: a compaction if it is needed, then the slot. -/
def appendWrites
    (region : HistoryRegion)
    (slot : DecodedSlot) :
    Except RegionError (List RegionWrite) :=
  match region.activeSectorIndex with
  | none => .error .unclaimed
  | some active =>
      let head := findWriteHead (region active)
      if slotsPerSector ≤ head then
        match region.headerOf active with
        | none => .error .unclaimed
        | some header =>
            let writes := region.compactWrites active header
            let compacted := region.applyWrites Medium.ram writes
            match compacted.activeSectorIndex with
            | none => .error .noActiveSector
            | some newActive =>
                let newHead := findWriteHead (compacted newActive)
                .ok (writes ++
                  [.slot newActive newHead (encodeSlot slot).toList])
      else
        .ok [.slot active head (encodeSlot slot).toList]

/-- Append one entry to a region held in memory. -/
def append
    (region : HistoryRegion)
    (slot : DecodedSlot) :
    Except RegionError HistoryRegion := do
  let writes ← region.appendWrites slot
  return region.applyWrites Medium.ram writes

end HistoryRegion

/-- An append, and where it is torn if it is. -/
structure AppendAttempt where
  slot : DecodedSlot
  tear : Option Tear
deriving Repr, DecidableEq

/-- The writes of an append that are carried out. -/
def AppendAttempt.carriedOut
    (attempt : AppendAttempt)
    (writes : List RegionWrite) :
    List RegionWrite :=
  match attempt.tear with
  | none => writes
  | some tear => tornWrites tear writes

/-- What the write of an entry's own slot stored of it. -/
structure Trace where
  slot : DecodedSlot
  written : Nat
deriving Repr, DecidableEq

namespace Trace

/-- The bytes the trace left in its slot. -/
def blob
    (trace : Trace) :
    EntryBlob :=
  torn (encodeSlot trace.slot) trace.written

/-- The whole entry was written. -/
def isComplete
    (trace : Trace) :
    Bool :=
  72 ≤ trace.written

/-- Some byte of the slot is no longer erased. -/
def isVisible
    (trace : Trace) :
    Bool :=
  trace.blob != blank 72

end Trace

/-- Slot writes that precede the one of the appended entry itself. -/
def copyCount
    (writes : List RegionWrite) :
    Nat :=
  (writes.countP fun write =>
    match write with
    | .slot _ _ _ => true
    | _ => false) - 1

/-- What an append stored of its entry, if it got that far. -/
def AppendAttempt.trace
    (attempt : AppendAttempt)
    (writes : List RegionWrite) :
    Option Trace :=
  match attempt.tear with
  | none => some { slot := attempt.slot, written := 72 }
  | some tear =>
      if tear.slotWrite < copyCount writes then
        none
      else if tear.slotWrite = copyCount writes then
        some { slot := attempt.slot, written := tear.bytes }
      else
        some { slot := attempt.slot, written := 72 }

/-- It stored the whole of its entry, or as much as its write got to. -/
theorem AppendAttempt.written_of_trace
    {attempt : AppendAttempt}
    {writes : List RegionWrite}
    {trace : Trace}
    (isTrace : attempt.trace writes = some trace) :
    trace.slot = attempt.slot ∧
      (trace.written = 72 ∨
        ∃ tear, attempt.tear = some tear ∧ trace.written = tear.bytes) := by
  unfold AppendAttempt.trace at isTrace
  split at isTrace
  · cases isTrace
    exact ⟨rfl, .inl rfl⟩
  · next tear isTear =>
    split at isTrace
    · cases isTrace
    · split at isTrace <;> cases isTrace
      · exact ⟨rfl, .inr ⟨tear, isTear, rfl⟩⟩
      · exact ⟨rfl, .inl rfl⟩

/-- What an append that needs no copies stores of its entry. -/
def AppendAttempt.soleTrace
    (attempt : AppendAttempt) :
    Option Trace :=
  attempt.trace []

/-- The visible traces of appends that need no copies. -/
def soleTraces
    (attempts : List AppendAttempt) :
    List Trace :=
  (attempts.filterMap AppendAttempt.soleTrace).filter Trace.isVisible

/-- A tear inside the copies stores the earlier ones and a part of its own. -/
theorem tornWrites_inside
    {tear : Tear}
    (sector : Fin 2)
    (start : Nat)
    {entries : List DecodedSlot}
    (inside : tear.slotWrite < entries.length)
    (rest : List RegionWrite) :
    tornWrites tear
        (HistoryRegion.slotWrites sector start entries ++ rest) =
      HistoryRegion.slotWrites sector start
          (entries.take tear.slotWrite) ++
        [.slot sector (start + tear.slotWrite)
          ((encodeSlot entries[tear.slotWrite]).toList.take
            tear.bytes)] := by
  obtain ⟨slotWrite, bytes⟩ := tear
  induction entries generalizing start slotWrite with
  | nil =>
      simp at inside
  | cons entry later inductionHypothesis =>
      cases slotWrite with
      | zero =>
          simp [HistoryRegion.slotWrites, tornWrites]
      | succ before =>
          have insideLater : before < later.length := by
            simpa using inside
          simp [HistoryRegion.slotWrites, tornWrites,
            inductionHypothesis (start + 1) before insideLater,
            Nat.add_right_comm, Nat.add_assoc]

/-- A tear behind the copies leaves them whole. -/
theorem tornWrites_behind
    {tear : Tear}
    (sector : Fin 2)
    (start : Nat)
    {entries : List DecodedSlot}
    (behind : entries.length ≤ tear.slotWrite)
    (rest : List RegionWrite) :
    tornWrites tear
        (HistoryRegion.slotWrites sector start entries ++ rest) =
      HistoryRegion.slotWrites sector start entries ++
        tornWrites
          { tear with slotWrite := tear.slotWrite - entries.length }
          rest := by
  obtain ⟨slotWrite, bytes⟩ := tear
  induction entries generalizing start slotWrite with
  | nil =>
      simp [HistoryRegion.slotWrites]
  | cons entry later inductionHypothesis =>
      cases slotWrite with
      | zero =>
          simp at behind
      | succ before =>
          have behindLater : later.length ≤ before := by
            simpa using behind
          simp [HistoryRegion.slotWrites, tornWrites,
            inductionHypothesis (start + 1) before behindLater]

/-- Every copy is a slot write. -/
theorem copyCount_handOff
    (active : Fin 2)
    (header : RegionHeader)
    (entries : List DecodedSlot)
    (sector : Fin 2)
    (index : Nat)
    (bytes : List UInt8) :
    copyCount
        (HistoryRegion.handOffWrites active header entries ++
          [.slot sector index bytes]) =
      entries.length := by
  have copies :
      ∀ start,
        ((HistoryRegion.slotWrites (1 - active) start entries).countP
          fun write =>
            match write with
            | .slot _ _ _ => true
            | _ => false) =
          entries.length := by
    intro start
    induction entries generalizing start with
    | nil =>
        rfl
    | cons entry rest inductionHypothesis =>
        simp [HistoryRegion.slotWrites, inductionHypothesis]
  simp [copyCount, HistoryRegion.handOffWrites, List.countP_append,
    copies]

namespace AppendAttempt

/-- The slot write of an entry without copies before it leaves its trace. -/
theorem carriedOut_single
    (attempt : AppendAttempt)
    (sector : Fin 2)
    (index : Nat) :
    ∃ trace,
      attempt.trace
          [.slot sector index (encodeSlot attempt.slot).toList] =
        some trace ∧
      trace.slot = attempt.slot ∧
      attempt.carriedOut
          [.slot sector index (encodeSlot attempt.slot).toList] =
        [.slot sector index
          ((encodeSlot trace.slot).toList.take trace.written)] := by
  obtain ⟨slot, tear⟩ := attempt
  have whole :
      (encodeSlot slot).toList.take 72 = (encodeSlot slot).toList :=
    List.take_of_length_le (by simp)
  match tear with
  | none =>
      exact ⟨{ slot := slot, written := 72 }, rfl, rfl,
        by simp [carriedOut, whole]⟩
  | some ⟨0, bytes⟩ =>
      exact ⟨{ slot := slot, written := bytes }, rfl, rfl, rfl⟩
  | some ⟨later + 1, bytes⟩ =>
      exact ⟨{ slot := slot, written := 72 }, rfl, rfl,
        by simp [carriedOut, tornWrites, whole]⟩

/-- A tear inside the copies stores nothing of the entry itself. -/
theorem trace_inside
    {attempt : AppendAttempt}
    {tear : Tear}
    (isTorn : attempt.tear = some tear)
    {entries : List DecodedSlot}
    (inside : tear.slotWrite < entries.length)
    (active : Fin 2)
    (header : RegionHeader)
    (index : Nat) :
    attempt.trace
        (HistoryRegion.handOffWrites active header entries ++
          [.slot (1 - active) index
            (encodeSlot attempt.slot).toList]) =
      none := by
  simp [trace, isTorn, copyCount_handOff, inside]

/-- Behind the copies the slot write of the entry leaves its trace. -/
theorem carriedOut_behind
    (attempt : AppendAttempt)
    {entries : List DecodedSlot}
    (behind :
      ∀ tear,
        attempt.tear = some tear → entries.length ≤ tear.slotWrite)
    (active : Fin 2)
    (header : RegionHeader)
    (index : Nat) :
    ∃ trace,
      attempt.trace
          (HistoryRegion.handOffWrites active header entries ++
            [.slot (1 - active) index
              (encodeSlot attempt.slot).toList]) =
        some trace ∧
      trace.slot = attempt.slot ∧
      attempt.carriedOut
          (HistoryRegion.handOffWrites active header entries ++
            [.slot (1 - active) index
              (encodeSlot attempt.slot).toList]) =
        HistoryRegion.handOffWrites active header entries ++
          [.slot (1 - active) index
            ((encodeSlot trace.slot).toList.take trace.written)] := by
  obtain ⟨slot, tear⟩ := attempt
  have whole :
      (encodeSlot slot).toList.take 72 = (encodeSlot slot).toList :=
    List.take_of_length_le (by simp)
  cases tear with
  | none =>
      exact ⟨{ slot := slot, written := 72 }, rfl, rfl,
        by simp [carriedOut, whole]⟩
  | some tear =>
      have reached : entries.length ≤ tear.slotWrite := behind tear rfl
      have notInside : ¬ tear.slotWrite < entries.length := by omega
      have afterCopies :=
        tornWrites_behind (1 - active) 0 reached
          [.header (1 - active) (encodeRegionHeader header.next).toList,
            .erase active sectorSize,
            .slot (1 - active) index (encodeSlot slot).toList]
      by_cases own : tear.slotWrite = entries.length
      · refine ⟨{ slot := slot, written := tear.bytes }, ?_, rfl, ?_⟩
        · simp [trace, copyCount_handOff, own]
        · simp [carriedOut, HistoryRegion.handOffWrites, afterCopies,
            tornWrites, own]
      · obtain ⟨later, isLater⟩ :
            ∃ later, tear.slotWrite - entries.length = later + 1 :=
          ⟨tear.slotWrite - entries.length - 1, by omega⟩
        refine ⟨{ slot := slot, written := 72 }, ?_, rfl, ?_⟩
        · simp [trace, copyCount_handOff, own, notInside]
        · simp [carriedOut, HistoryRegion.handOffWrites, afterCopies,
            tornWrites, isLater, whole]

end AppendAttempt

/-- A torn slot that still decodes has its text length, unless the write stopped
behind the type and in front of the length. -/
theorem textLen_of_torn
    {slot decoded : DecodedSlot}
    {written : Nat}
    (isDecoded :
      decodeSlot (torn (encodeSlot slot) written) = some decoded) :
    decoded.entry.textLen = slot.entry.textLen ∨
      2 ≤ written ∧ written < 7 := by
  have textLenByte : (encodeSlot slot)[6] = slot.entry.textLen := by
    simp [encodeSlot_eq, entryBlobWithFlags]
  simp only [decodeSlot, decodeEntryBlob, Option.map_map,
    Option.map_eq_some_iff] at isDecoded
  obtain ⟨msgType, isType, rfl⟩ := isDecoded
  by_cases reached : 6 < written
  · left
    change (torn (encodeSlot slot) written)[6] = _
    simp [torn, reached, textLenByte]
  · right
    refine ⟨Nat.le_of_not_lt fun short => ?_, by omega⟩
    have erasedType : (torn (encodeSlot slot) written)[1] = 0xFF := by
      have notReached : ¬ 1 < written := by omega
      simp [torn, notReached]
    rw [erasedType] at isType
    have noType : HistoryMsgType.fromU8 0xFF = none := by decide
    rw [noType] at isType
    cases isType

end MeshCadet
