import Mathlib.Algebra.GroupWithZero.Nat
import Mathlib.Logic.Function.Basic
import MeshCadet.FlashCells
import MeshCadet.HistoryEntry

namespace MeshCadet

/-!
# Conversation history regions

A region is two flash sectors.  Each starts with a header and is filled with
72-byte slots from the front; the sector with the newer valid header is the
active one.  Every change of a region is a list of sector writes, so that a run
can be interrupted between and inside them.
-/

open FlashCells

/-- Bytes of a flash sector. -/
def sectorSize : Nat :=
  4096

/-- Bytes of a sector header. -/
def regionHeaderLen : Nat :=
  8

/-- Slots that fit after the header of a sector. -/
def slotsPerSector : Nat :=
  56

/-- Regions of the history partition. -/
def maxConversationRegions : Nat :=
  24

/-- A region has two sectors, numbered from zero. -/
instance twoSectors : NeZero 2 :=
  ⟨by decide⟩

/-- Byte offset of a slot within a sector. -/
def slotOffset
    (slot : Nat) :
    Nat :=
  regionHeaderLen + slot * 72

/-- Decoded sector header. -/
structure RegionHeader where
  kind : HistoryMsgType
  convHash : UInt8
  generation : UInt8
deriving Repr, DecidableEq

/-- The header of the sector that takes over from this one. -/
def RegionHeader.next
    (header : RegionHeader) :
    RegionHeader :=
  { header with generation := header.generation + 1 }

/-- Encode a sector header. -/
def encodeRegionHeader
    (header : RegionHeader) :
    Vector UInt8 8 :=
  #v[0x4D, 0x48, 1, header.kind.toU8, header.convHash,
    header.generation, 0, 0]

/-- Decode a sector header; magic, version and kind have to be valid. -/
def decodeRegionHeader
    (bytes : Vector UInt8 8) :
    Option RegionHeader :=
  if bytes[0] ≠ 0x4D ∨ bytes[1] ≠ 0x48 then
    none
  else if bytes[2] ≠ 1 then
    none
  else
    (HistoryMsgType.fromU8 bytes[3]).map fun kind =>
      { kind := kind
        convHash := bytes[4]
        generation := bytes[5] }

/-- The difference of the generations, as a signed byte, is positive. -/
def generationIsNewer
    (candidate current : UInt8) :
    Bool :=
  let difference := (candidate - current).toNat
  0 < difference && difference < 128

/-- The bytes of a slot. -/
def slotBlob
    (cells : Cells)
    (slot : Nat) :
    EntryBlob :=
  read cells (slotOffset slot) 72

/-- The first erased slot, or the number of slots when there is none. -/
def findWriteHead
    (cells : Cells) :
    Nat :=
  ((List.range slotsPerSector).find? fun slot =>
    slotBlob cells slot == blank 72).getD slotsPerSector

/-- The two sectors of a conversation's region. -/
abbrev HistoryRegion : Type :=
  Fin 2 → Cells

/-- One write of a region's storage; `length` and `bytes` may be cut short. -/
inductive RegionWrite where
  | erase (sector : Fin 2) (length : Nat)
  | slot (sector : Fin 2) (index : Nat) (bytes : List UInt8)
  | header (sector : Fin 2) (bytes : List UInt8)
deriving Repr, DecidableEq

namespace RegionWrite

/-- The sector a write goes to. -/
def sector : RegionWrite → Fin 2
  | erase sector _ => sector
  | slot sector _ _ => sector
  | header sector _ => sector

/-- What a write does to its sector. -/
def applyTo
    (medium : Medium)
    (cells : Cells) :
    RegionWrite → Cells
  | erase _ length => FlashCells.erase cells length
  | slot _ index bytes => write medium cells (slotOffset index) bytes
  | header _ bytes => write medium cells 0 bytes

end RegionWrite

namespace HistoryRegion

/-- A fresh, unclaimed region. -/
def newErased : HistoryRegion :=
  fun _ => erased

/-- The valid header of a sector, if it has one. -/
def headerOf
    (region : HistoryRegion)
    (sector : Fin 2) :
    Option RegionHeader :=
  decodeRegionHeader (read (region sector) 0 8)

/-- Decode one slot of a sector. -/
def decodeSlotAt
    (region : HistoryRegion)
    (sector : Fin 2)
    (slot : Nat) :
    Option DecodedSlot :=
  decodeSlot (slotBlob (region sector) slot)

/-- The authoritative sector: the one with the newer valid header. -/
def activeSectorIndex
    (region : HistoryRegion) :
    Option (Fin 2) :=
  match region.headerOf 0, region.headerOf 1 with
  | some first, some second =>
      if generationIsNewer second.generation first.generation then
        some 1
      else
        some 0
  | some _, none => some 0
  | none, some _ => some 1
  | none, none => none

/-- The region belongs to a conversation. -/
def isClaimed
    (region : HistoryRegion) :
    Bool :=
  region.activeSectorIndex.isSome

/-- The active sector's header. -/
def header
    (region : HistoryRegion) :
    Option RegionHeader :=
  region.activeSectorIndex.bind region.headerOf

/-- The decodable ones of a sector's newest 32 slots, oldest first. -/
def gatherLive
    (region : HistoryRegion)
    (sector : Fin 2) :
    List DecodedSlot :=
  let head := findWriteHead (region sector)
  let start := head - maxHistoryEntries
  (List.range' start (head - start)).filterMap
    (region.decodeSlotAt sector)

/-- The entries a reader of the region sees, oldest first. -/
def liveView
    (region : HistoryRegion) :
    List DecodedSlot :=
  match region.activeSectorIndex with
  | some active => region.gatherLive active
  | none => []

/-- Carry out one write. -/
def applyWrite
    (medium : Medium)
    (region : HistoryRegion)
    (write : RegionWrite) :
    HistoryRegion :=
  Function.update region write.sector
    (write.applyTo medium (region write.sector))

/-- Carry out writes in order. -/
def applyWrites
    (medium : Medium)
    (region : HistoryRegion)
    (writes : List RegionWrite) :
    HistoryRegion :=
  writes.foldl (applyWrite medium) region

/-- Writes that fill consecutive slots. -/
def slotWrites
    (sector : Fin 2)
    (start : Nat) :
    List DecodedSlot → List RegionWrite
  | [] =>
      []
  | slot :: rest =>
      .slot sector start (encodeSlot slot).toList ::
        slotWrites sector (start + 1) rest

/--
The hand-off to the spare sector: entries first, header last, then the old
sector is erased.
-/
def handOffWrites
    (active : Fin 2)
    (header : RegionHeader)
    (entries : List DecodedSlot) :
    List RegionWrite :=
  slotWrites (1 - active) 0 entries ++
    [.header (1 - active) (encodeRegionHeader header.next).toList,
      .erase active sectorSize]

end HistoryRegion

/-- The generation handed to the spare sector is the newer one. -/
theorem generationIsNewer_next
    (generation : UInt8) :
    generationIsNewer (generation + 1) generation = true ∧
      generationIsNewer generation (generation + 1) = false := by
  have bound := generation.toNat_lt
  have ahead : (generation + 1 - generation).toNat = 1 := by
    simp only [UInt8.toNat_sub, UInt8.toNat_add, UInt8.reduceToNat]
    omega
  have behind : (generation - (generation + 1)).toNat = 255 := by
    simp only [UInt8.toNat_sub, UInt8.toNat_add, UInt8.reduceToNat]
    omega
  simp only [generationIsNewer, ahead, behind]
  decide

/-- A complete header is read back. -/
theorem decodeRegionHeader_encode
    (header : RegionHeader) :
    decodeRegionHeader (encodeRegionHeader header) = some header := by
  simp [decodeRegionHeader, encodeRegionHeader]

end MeshCadet
