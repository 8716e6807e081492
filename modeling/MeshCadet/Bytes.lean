import Mathlib.Data.List.Basic

/-!
# Fixed-width reads and little-endian words

Byte strings are lists, fixed-width fields are vectors.  A read carries the
proof that it stays inside the string, so a decoder built from these reads
cannot index out of bounds.
-/

namespace Bytes

/-- The four bytes of a word, least significant first. -/
def u32ToLeBytes
    (value : UInt32) :
    Vector UInt8 4 :=
  #v[UInt8.ofNat value.toNat,
    UInt8.ofNat (value.toNat / 256),
    UInt8.ofNat (value.toNat / 65536),
    UInt8.ofNat (value.toNat / 16777216)]

/-- The word whose bytes, least significant first, are the given ones. -/
def u32FromLeBytes
    (bytes : Vector UInt8 4) :
    UInt32 :=
  UInt32.ofNat
    (bytes[0].toNat + 256 * bytes[1].toNat +
      65536 * bytes[2].toNat + 16777216 * bytes[3].toNat)

/-- Reading back the bytes of a word gives the word. -/
@[simp] theorem u32FromLeBytes_toLeBytes
    (value : UInt32) :
    u32FromLeBytes (u32ToLeBytes value) = value := by
  apply UInt32.toNat_inj.mp
  have bound := value.toNat_lt
  simp [u32FromLeBytes, u32ToLeBytes]
  omega

/-- The first byte of a key, a hash or a prefix. -/
def firstByte
    {size : Nat}
    (bytes : Vector UInt8 (size + 1)) :
    UInt8 :=
  bytes[0]

/-- The bytes at `offset`; the caller shows that they all exist. -/
def slice
    (bytes : List UInt8)
    (offset length : Nat)
    (inside : offset + length ≤ bytes.length := by omega) :
    Vector UInt8 length :=
  ⟨((bytes.drop offset).take length).toArray, by
    simp
    omega⟩

/-- A field's own bytes are what a read at its place returns. -/
theorem slice_toList_append
    {length : Nat}
    (field : Vector UInt8 length)
    (after : List UInt8)
    (inside : 0 + length ≤ (field.toList ++ after).length) :
    slice (field.toList ++ after) 0 length inside = field := by
  apply Vector.toList_inj.mp
  simp [slice, Vector.toList]

/-- A fixed-width field holding the given bytes and zeros after them. -/
def zeroPadded
    (length : Nat)
    (bytes : List UInt8) :
    Vector UInt8 length :=
  Vector.ofFn fun index => bytes.getD index 0

end Bytes
