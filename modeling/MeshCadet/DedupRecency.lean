import MeshCadet.FloodFrames

namespace MeshCadet

/-!
# What the duplicate filter remembers

The filter compares a frame with the slots in use.  After any run of inserts
these hold the keys of the last frames, whether or not the ring has come around.
A slot that was never written is not compared.
-/

namespace DuplicateFilter

open RingBuffer

/-- One turn of the loop over the slots: a slot in use holds the key. -/
def slotMatches
    (filter : DuplicateFilter)
    (crypto : Crypto)
    (frame : List UInt8)
    (slot : Nat) :
    Bool :=
  decide (slot < min filter.count dedupSlots) &&
    filter.slots.toList[slot]? == some (packetDedupKey crypto frame)

/-- A frame is a duplicate when some turn of the loop finds its key. -/
theorem isDuplicate_iff
    (filter : DuplicateFilter)
    (crypto : Crypto)
    (frame : List UInt8) :
    filter.isDuplicate crypto frame = true ↔
      ∃ slot, filter.slotMatches crypto frame slot = true := by
  have limit : min filter.count dedupSlots = filter.count :=
    Nat.min_eq_left filter.fits
  simp only [isDuplicate, SeenRing.contains, slotMatches, limit,
    List.contains_iff_mem, List.mem_iff_getElem?, Bool.and_eq_true,
    decide_eq_true_eq, beq_iff_eq]
  constructor
  · rintro ⟨slot, stored⟩
    have inUse : slot < filter.count := by
      have taken := (List.getElem?_eq_some_iff.mp stored).1
      rw [List.length_take] at taken
      omega
    rw [List.getElem?_take_of_lt inUse] at stored
    exact ⟨slot, inUse, stored⟩
  · rintro ⟨slot, inUse, stored⟩
    refine ⟨slot, ?_⟩
    rw [List.getElem?_take_of_lt inUse]
    exact stored

/-- The filter after frames were inserted one after the other. -/
def afterInserts
    (crypto : Crypto)
    (frames : List (List UInt8)) :
    DuplicateFilter :=
  frames.foldl (fun filter frame => filter.insert crypto frame) new

/-- The last frames of a run, as many as there are slots. -/
def lastFrames
    (frames : List (List UInt8)) :
    List (List UInt8) :=
  frames.drop (frames.length - dedupSlots)

/-- The ring is what inserting the keys of the frames leaves. -/
theorem remembers_afterInserts
    (crypto : Crypto)
    (frames : List (List UInt8)) :
    SeenRing.Remembers (afterInserts crypto frames)
      (frames.map (packetDedupKey crypto)) := by
  have inserted :=
    (SeenRing.remembers_empty (Vector.replicate 4 (0 : UInt8))
      (show 0 < dedupSlots by decide)).insertAll
        (frames.map (packetDedupKey crypto))
  rw [List.foldl_map, List.nil_append] at inserted
  exact inserted

/-- The last keys are the keys of the last frames. -/
theorem map_lastFrames
    (crypto : Crypto)
    (frames : List (List UInt8)) :
    (frames.map (packetDedupKey crypto)).drop
        ((frames.map (packetDedupKey crypto)).length - dedupSlots) =
      (lastFrames frames).map (packetDedupKey crypto) := by
  rw [lastFrames, List.length_map, List.map_drop]

/-- A slot that is found was written by one of the last frames. -/
theorem writer_of_slotMatches
    {crypto : Crypto}
    {frames : List (List UInt8)}
    {frame : List UInt8}
    {slot : Nat}
    (found :
      (afterInserts crypto frames).slotMatches crypto frame slot = true) :
    ∃ index writer, frames[index]? = some writer ∧
      frames.length ≤ index + dedupSlots ∧ index % dedupSlots = slot ∧
        packetDedupKey crypto writer = packetDedupKey crypto frame := by
  rw [slotMatches, Bool.and_eq_true, decide_eq_true_eq, beq_iff_eq] at found
  obtain ⟨inUse, stored⟩ := found
  obtain ⟨index, key, inserted, near, isSlot, held⟩ :=
    (remembers_afterInserts crypto frames).slot
      (Nat.lt_of_lt_of_le inUse (Nat.min_le_left _ _))
  rw [List.getElem?_map, Option.map_eq_some_iff] at inserted
  obtain ⟨writer, isWriter, isKey⟩ := inserted
  refine ⟨index, writer, isWriter, ?_, isSlot, ?_⟩
  · rwa [List.length_map] at near
  · rw [isKey]
    exact Option.some.inj (held.symm.trans stored)

/--
The filter knows the last frames of a run and no others: the slots in use hold
their keys, and no slot that was not written matches.
-/
structure Recency
    (crypto : Crypto)
    (frames : List (List UInt8)) :
    Prop where
  inUse :
    ((afterInserts crypto frames).slots.toList.take
        (afterInserts crypto frames).count).Perm
      ((lastFrames frames).map (packetDedupKey crypto))
  recent :
    ∀ frame ∈ lastFrames frames,
      (afterInserts crypto frames).isDuplicate crypto frame = true
  only :
    ∀ frame,
      (afterInserts crypto frames).isDuplicate crypto frame = true →
        ∃ other ∈ lastFrames frames,
          packetDedupKey crypto frame = packetDedupKey crypto other
  written :
    ∀ frame slot,
      (afterInserts crypto frames).slotMatches crypto frame slot = true →
        ∃ index writer, frames[index]? = some writer ∧
          frames.length ≤ index + dedupSlots ∧
            index % dedupSlots = slot ∧
              packetDedupKey crypto writer = packetDedupKey crypto frame
  unwritten :
    ∀ slot, (∀ index < frames.length, index % dedupSlots ≠ slot) →
      ∀ frame,
        (afterInserts crypto frames).slotMatches crypto frame slot = false

/-- The filter after any run of inserts, of any length. -/
theorem recency
    (crypto : Crypto)
    (frames : List (List UInt8)) :
    Recency crypto frames := by
  have remembers := remembers_afterInserts crypto frames
  have known
      (frame : List UInt8) :
      (afterInserts crypto frames).isDuplicate crypto frame = true ↔
        packetDedupKey crypto frame ∈
          (lastFrames frames).map (packetDedupKey crypto) := by
    rw [← map_lastFrames]
    exact remembers.contains_iff
  refine
    { inUse := ?_
      recent := ?_
      only := ?_
      written := fun _ _ found => writer_of_slotMatches found
      unwritten := ?_ }
  · rw [← map_lastFrames]
    exact remembers.perm
  · intro frame isLast
    exact (known frame).mpr (List.mem_map_of_mem isLast)
  · intro frame duplicate
    obtain ⟨slot, found⟩ := (isDuplicate_iff _ _ _).mp duplicate
    obtain ⟨index, writer, isWriter, near, -, sameKey⟩ :=
      writer_of_slotMatches found
    refine ⟨writer, ?_, sameKey.symm⟩
    rw [lastFrames, List.mem_iff_getElem?]
    refine ⟨index - (frames.length - dedupSlots), ?_⟩
    rw [List.getElem?_drop, Nat.add_sub_cancel' (by omega)]
    exact isWriter
  · intro slot never frame
    rw [Bool.eq_false_iff]
    intro found
    obtain ⟨index, writer, isWriter, -, isSlot, -⟩ :=
      writer_of_slotMatches found
    exact never index (List.getElem?_eq_some_iff.mp isWriter).1 isSlot

end DuplicateFilter

end MeshCadet
