import Mathlib.Data.List.GetD
import MeshCadet.BufferFills

/-!
# Decoding with checked lengths

A decoder reads a byte string at absolute offsets.  It is safe from some length
on if no longer string makes it panic; each check of the length raises that
bound.  It decodes some bytes behind a front to a result if it does so whatever
follows.  The rules for both go through a decoder read by read, as the rules of
a writer go through its writes, so that one list of bytes connects the two.
-/

namespace ByteDecoders

open Outcome BufferFills

variable {Failure α β : Type}

/-- A computation that reads a byte string. -/
abbrev Decoder
    (Failure α : Type) :
    Type :=
  List UInt8 → Outcome Failure α

/-- The bytes of a half word, least significant first. -/
def u16ToLeBytes
    (value : UInt16) :
    List UInt8 :=
  [UInt8.ofNat value.toNat, UInt8.ofNat (value.toNat >>> 8)]

/-- The half word of two bytes, least significant first. -/
def u16FromLeBytes
    (bytes : Vector UInt8 2) :
    UInt16 :=
  UInt16.ofNat
    ((bytes.toList.getD 0 0).toNat + 256 * (bytes.toList.getD 1 0).toNat)

/-- The little-endian half word of the two bytes between two positions. -/
def halfAt
    (input : List UInt8)
    (start stop : Nat) :
    Outcome Failure UInt16 := do
  let read ← arrayAt 2 input start stop
  pure (u16FromLeBytes read)

/-- The bytes behind their length byte, and how many more have to follow. -/
def prefixedSlice
    (max : Nat)
    (tooLong short : Failure)
    (payload : List UInt8)
    (lenAt behind : Nat) :
    Outcome Failure (List UInt8) := do
  let lenByte ← index payload lenAt
  let len := lenByte.toNat
  if max < len then
    .failed tooLong
  else if payload.length < lenAt + 1 + len + behind then
    .failed short
  else
    slice payload (lenAt + 1) (lenAt + 1 + len)

/-- Copy bytes to the front of a zeroed array. -/
def copyPadded
    (length : Nat)
    (source : List UInt8) :
    Outcome Failure (Vector UInt8 length) := do
  let copied ← write (List.replicate length 0) 0 source
  copyFromSlice length copied

/-- The bytes behind their length byte as an array, and their number. -/
def prefixedAt
    (max : Nat)
    (tooLong short : Failure)
    (payload : List UInt8)
    (lenAt behind : Nat) :
    Outcome Failure (Vector UInt8 max × UInt8) := do
  let source ← prefixedSlice max tooLong short payload lenAt behind
  let array ← copyPadded max source
  pure (array, UInt8.ofNat source.length)

/-- Write the length of some bytes, at most the longest, and as many bytes. -/
def writePrefixed
    (max : Nat)
    (out : List UInt8)
    (lenAt : Nat)
    (bytes : List UInt8) :
    Outcome Failure (List UInt8) := do
  let len := min bytes.length max
  let out ← write out lenAt [UInt8.ofNat len]
  write out (lenAt + 1) (bytes.take len)

/-- A length byte and the bytes. -/
def prefixed
    (bytes : List UInt8) :
    List UInt8 :=
  UInt8.ofNat bytes.length :: bytes

/-- The bytes of an array that are in use. -/
def used
    {length : Nat}
    (array : Vector UInt8 length)
    (len : UInt8) :
    List UInt8 :=
  array.toList.take len.toNat

/-- The bytes in use are within the array, and the others are zero. -/
structure Padded
    {length : Nat}
    (array : Vector UInt8 length)
    (len : UInt8) :
    Prop where
  within : len.toNat ≤ length
  zeros :
    ∀ place, len.toNat ≤ place → array.toList.getD place 0 = 0

/-! ## Half words -/

theorem u16FromLeBytes_toLeBytes
    {bytes : Vector UInt8 2}
    {value : UInt16}
    (written : bytes.toList = u16ToLeBytes value) :
    u16FromLeBytes bytes = value := by
  have bound := value.toNat_lt
  rw [u16FromLeBytes, written]
  apply UInt16.toNat_inj.mp
  simp [u16ToLeBytes, Nat.shiftRight_eq_div_pow]
  omega

theorem halfAt_eq
    {input : List UInt8}
    {start stop : Nat}
    (inside : stop ≤ input.length)
    (isStop : stop = start + 2) :
    (halfAt input start stop : Outcome Failure UInt16) =
      .value (u16FromLeBytes (fieldAt 2 input start)) := by
  rw [halfAt, arrayAt_eq inside isStop, value_bind, pure_eq]

/-! ## Bytes behind their length -/

variable {max lenAt behind : Nat} {tooLong short : Failure}
  {payload : List UInt8}

/-- What the length byte of a field says. -/
theorem prefixedSlice_eq
    (inside : lenAt < payload.length) :
    prefixedSlice max tooLong short payload lenAt behind =
      if max < (payload.getD lenAt 0).toNat then
        .failed tooLong
      else if payload.length <
          lenAt + 1 + (payload.getD lenAt 0).toNat + behind then
        .failed short
      else
        .value
          ((payload.drop (lenAt + 1)).take (payload.getD lenAt 0).toNat) := by
  rw [prefixedSlice, index_getD inside, value_bind]
  dsimp only
  split
  · rfl
  split
  · rfl
  rename_i enough
  rw [slice_eq (Nat.le_add_right _ _) (by omega), Nat.add_sub_cancel_left]

/-- Copying what fits pads it with zeros. -/
theorem copyPadded_eq
    {length : Nat}
    {source : List UInt8}
    (fits : source.length ≤ length) :
    (copyPadded length source : Outcome Failure (Vector UInt8 length)) =
      .value (Bytes.zeroPadded length source) :=
  zeroed_copy fits

/-- A field is copied with the number of its bytes. -/
theorem prefixedAt_eq
    (inside : lenAt < payload.length) :
    prefixedAt max tooLong short payload lenAt behind =
      if max < (payload.getD lenAt 0).toNat then
        .failed tooLong
      else if payload.length <
          lenAt + 1 + (payload.getD lenAt 0).toNat + behind then
        .failed short
      else
        .value
          (Bytes.zeroPadded max
            ((payload.drop (lenAt + 1)).take (payload.getD lenAt 0).toNat),
            payload.getD lenAt 0) := by
  rw [prefixedAt, prefixedSlice_eq inside]
  split
  · rfl
  rename_i notLong
  split
  · rfl
  rename_i enough
  have length :
      ((payload.drop (lenAt + 1)).take
        (payload.getD lenAt 0).toNat).length =
        (payload.getD lenAt 0).toNat := by
    rw [List.length_take, List.length_drop]
    omega
  rw [value_bind, copyPadded_eq (by omega), value_bind, length,
    UInt8.ofNat_toNat]
  rfl

/-! ## Arrays that are padded with zeros -/

section Arrays

variable {length : Nat} {array : Vector UInt8 length} {len : UInt8}

theorem Padded.length_used
    (padded : Padded array len) :
    (used array len).length = len.toNat := by
  have within := padded.within
  rw [used, List.length_take, Vector.length_toList]
  omega

/-- The bytes in use make up a padded array. -/
theorem Padded.zeroPadded_used
    (padded : Padded array len) :
    Bytes.zeroPadded length (used array len) = array := by
  apply Vector.ext
  intro place inside
  have atPlace : array.toList.getD place 0 = array[place] := by
    simp [inside]
  rw [Bytes.zeroPadded, Vector.getElem_ofFn, used,
    List.getD_eq_getElem?_getD, List.getElem?_take]
  split
  · rw [← List.getD_eq_getElem?_getD, atPlace]
  · rename_i behindUsed
    rw [← atPlace, padded.zeros place (Nat.le_of_not_lt behindUsed)]
    rfl

/-- The bytes in use are not cut when they are written. -/
theorem Padded.take_used
    (padded : Padded array len) :
    (used array len).take length = used array len := by
  have within := padded.within
  rw [List.take_of_length_le (by rw [padded.length_used]; omega)]

end Arrays

/-! ## Safe decoders -/

/-- No byte string of at least some length makes the decoder panic. -/
def SafeFrom
    (length : Nat)
    (decoder : Decoder Failure α) :
    Prop :=
  ∀ payload : List UInt8,
    length ≤ payload.length → decoder payload ≠ .panicked

variable {length bound position start stop : Nat}
  {decoder : Decoder Failure α}

theorem SafeFrom.done
    (result : α) :
    SafeFrom length
      (fun _ => (Pure.pure result : Outcome Failure α)) :=
  fun _ _ => nofun

theorem SafeFrom.failed
    (reason : Failure) :
    SafeFrom length
      (fun _ => (.failed reason : Outcome Failure α)) :=
  fun _ _ => nofun

/-- One read after the other. -/
theorem SafeFrom.bind
    {next : α → Decoder Failure β}
    (first : SafeFrom length decoder)
    (later : ∀ read, SafeFrom length (next read)) :
    SafeFrom length
      (fun payload => decoder payload >>= fun read => next read payload) := by
  intro payload enough
  dsimp only
  cases read : decoder payload with
  | value result => exact later result payload enough
  | failed reason => exact nofun
  | panicked => exact absurd read (first payload enough)

/-- A check of the length raises the bound for what is behind it. -/
theorem SafeFrom.unlessShort
    {reason : Failure}
    (later : SafeFrom bound decoder) :
    SafeFrom length
      (fun payload =>
        if payload.length < bound then .failed reason else
          decoder payload) := by
  intro payload _
  dsimp only
  split
  · exact nofun
  · rename_i enough
    exact later payload (Nat.le_of_not_lt enough)

/-- A check of what was read. -/
theorem SafeFrom.unless
    {rejects : Prop}
    [Decidable rejects]
    {reason : Failure}
    (later : SafeFrom length decoder) :
    SafeFrom length
      (fun payload =>
        if rejects then .failed reason else decoder payload) := by
  intro payload enough
  dsimp only
  split
  · exact nofun
  · exact later payload enough

theorem safeFrom_index
    (inside : position < length) :
    SafeFrom length
      (fun payload => (index payload position : Outcome Failure UInt8)) := by
  intro payload enough
  dsimp only
  rw [index_getD (Nat.lt_of_lt_of_le inside enough)]
  exact nofun

theorem safeFrom_flagAt
    (inside : position < length) :
    SafeFrom length
      (fun payload => (flagAt payload position : Outcome Failure Bool)) := by
  intro payload enough
  dsimp only
  rw [flagAt_eq (Nat.lt_of_lt_of_le inside enough)]
  exact nofun

theorem safeFrom_arrayAt
    {size : Nat}
    (inside : stop ≤ length)
    (isStop : stop = start + size) :
    SafeFrom length
      (fun payload =>
        (arrayAt size payload start stop :
          Outcome Failure (Vector UInt8 size))) := by
  intro payload enough
  dsimp only
  rw [arrayAt_eq (Nat.le_trans inside enough) isStop]
  exact nofun

theorem safeFrom_wordAt
    (inside : stop ≤ length)
    (isStop : stop = start + 4) :
    SafeFrom length
      (fun payload => (wordAt payload start stop : Outcome Failure UInt32)) :=
  (safeFrom_arrayAt inside isStop).bind fun _ => .done _

theorem safeFrom_halfAt
    (inside : stop ≤ length)
    (isStop : stop = start + 2) :
    SafeFrom length
      (fun payload => (halfAt payload start stop : Outcome Failure UInt16)) :=
  (safeFrom_arrayAt inside isStop).bind fun _ => .done _

/-- Behind a field with its length all its bytes are there. -/
theorem SafeFrom.prefixedSlice
    {next : List UInt8 → Decoder Failure β}
    (inside : lenAt < length)
    (later : ∀ source : List UInt8,
      source.length ≤ max →
        SafeFrom (lenAt + 1 + source.length + behind) (next source)) :
    SafeFrom length
      (fun payload =>
        ByteDecoders.prefixedSlice max tooLong short payload lenAt behind >>=
          fun source => next source payload) := by
  intro payload enough
  dsimp only
  rw [prefixedSlice_eq (Nat.lt_of_lt_of_le inside enough)]
  split
  · exact nofun
  rename_i notLong
  split
  · exact nofun
  rename_i complete
  have length :
      ((payload.drop (lenAt + 1)).take
        (payload.getD lenAt 0).toNat).length =
        (payload.getD lenAt 0).toNat := by
    rw [List.length_take, List.length_drop]
    omega
  exact later _ (by omega) payload (by omega)

/-- The array of a field with its length, and all its bytes are there. -/
theorem SafeFrom.prefixedAt
    {next : Vector UInt8 max × UInt8 → Decoder Failure β}
    (inside : lenAt < length)
    (later : ∀ field : Vector UInt8 max × UInt8,
      SafeFrom (lenAt + 1 + field.2.toNat + behind) (next field)) :
    SafeFrom length
      (fun payload =>
        ByteDecoders.prefixedAt max tooLong short payload lenAt behind >>=
          fun field => next field payload) := by
  intro payload enough
  dsimp only
  rw [prefixedAt_eq (Nat.lt_of_lt_of_le inside enough)]
  split
  · exact nofun
  split
  · exact nofun
  rename_i complete
  exact later _ payload (Nat.le_of_not_lt complete)

/-! ## Decoding what stands behind a front -/

/-- The decoder decodes bytes behind a front, whatever follows them. -/
def DecodesBehind
    (front : List UInt8)
    (decoder : Decoder Failure α)
    (bytes : List UInt8)
    (result : α) :
    Prop :=
  ∀ rest : List UInt8, decoder (front ++ bytes ++ rest) = .value result

variable {front bytes field : List UInt8} {result : β}

theorem DecodesBehind.done :
    DecodesBehind front
      (fun _ => (Pure.pure result : Outcome Failure β)) [] result :=
  fun _ => rfl

/-- One read after the other. -/
theorem DecodesBehind.bind
    {next : α → Decoder Failure β}
    {read : α}
    (first : DecodesBehind front decoder field read)
    (later : DecodesBehind (front ++ field) (next read) bytes result) :
    DecodesBehind front
      (fun payload => decoder payload >>= fun read => next read payload)
      (field ++ bytes) result := by
  intro rest
  have here := first (bytes ++ rest)
  have there := later rest
  dsimp only
  rw [← List.append_assoc] at here ⊢
  rw [here, value_bind]
  exact there

/-- The string is long enough. -/
theorem DecodesBehind.unlessShort
    {later : Decoder Failure β}
    {reason : Failure}
    (decodes : DecodesBehind front later bytes result)
    (enough : bound ≤ (front ++ bytes).length) :
    DecodesBehind front
      (fun payload =>
        if payload.length < bound then .failed reason else later payload)
      bytes result := by
  intro rest
  dsimp only
  rw [List.length_append, if_neg (by omega)]
  exact decodes rest

/-- What was read is not rejected. -/
theorem DecodesBehind.unless
    {later : Decoder Failure β}
    {rejects : Prop}
    [Decidable rejects]
    {reason : Failure}
    (decodes : DecodesBehind front later bytes result)
    (passes : ¬ rejects) :
    DecodesBehind front
      (fun payload =>
        if rejects then .failed reason else later payload)
      bytes result := by
  intro rest
  dsimp only
  rw [if_neg passes]
  exact decodes rest

theorem decodesBehind_index
    {byte : UInt8}
    (isAt : front.length = position) :
    DecodesBehind front
      (fun payload => (index payload position : Outcome Failure UInt8))
      [byte] byte := by
  intro rest
  subst isAt
  dsimp only
  rw [index_getD (by simp), List.append_assoc,
    List.getD_append_right _ _ _ _ (Nat.le_refl _), Nat.sub_self]
  rfl

theorem decodesBehind_flagAt
    {flag : Bool}
    (isAt : front.length = position) :
    DecodesBehind front
      (fun payload => (flagAt payload position : Outcome Failure Bool))
      [flag.toUInt8] flag := by
  have isFlag : (flag.toUInt8 != 0) = flag := by
    cases flag <;> rfl
  intro rest
  have read :
      (index (front ++ [flag.toUInt8] ++ rest) position :
          Outcome Failure UInt8) =
        .value flag.toUInt8 :=
    decodesBehind_index isAt rest
  dsimp only
  rw [flagAt, read, value_bind, isFlag]
  rfl

theorem decodesBehind_arrayAt
    {size : Nat}
    {array : Vector UInt8 size}
    (isAt : front.length = start)
    (isStop : stop = start + size) :
    DecodesBehind front
      (fun payload =>
        (arrayAt size payload start stop :
          Outcome Failure (Vector UInt8 size)))
      array.toList array := by
  intro rest
  subst isAt
  have inside :
      stop ≤ (front ++ array.toList ++ rest).length := by
    simp [isStop]
  dsimp only
  rw [arrayAt_eq inside isStop]
  congr 1
  apply Vector.ext
  intro place before
  have reached : place < array.toList.length := by
    rwa [Vector.length_toList]
  rw [fieldAt, Vector.getElem_ofFn, List.append_assoc,
    List.getD_append_right _ _ _ _ (Nat.le_add_right _ _),
    Nat.add_sub_cancel_left, List.getD_append _ _ _ _ reached,
    List.getD_eq_getElem _ _ reached, Vector.getElem_toList]

theorem decodesBehind_wordAt
    {word : UInt32}
    (isAt : front.length = start)
    (isStop : stop = start + 4) :
    DecodesBehind front
      (fun payload => (wordAt payload start stop : Outcome Failure UInt32))
      (Bytes.u32ToLeBytes word).toList word := by
  intro rest
  have read :
      (arrayAt 4 (front ++ (Bytes.u32ToLeBytes word).toList ++ rest)
          start stop :
          Outcome Failure (Vector UInt8 4)) =
        .value (Bytes.u32ToLeBytes word) :=
    decodesBehind_arrayAt isAt isStop rest
  dsimp only
  rw [wordAt, read, value_bind, Bytes.u32FromLeBytes_toLeBytes]
  rfl

theorem decodesBehind_halfAt
    {half : UInt16}
    (isAt : front.length = start)
    (isStop : stop = start + 2) :
    DecodesBehind front
      (fun payload => (halfAt payload start stop : Outcome Failure UInt16))
      (u16ToLeBytes half) half := by
  intro rest
  let array : Vector UInt8 2 := ⟨(u16ToLeBytes half).toArray, rfl⟩
  have decoded :
      (arrayAt 2 (front ++ array.toList ++ rest) start stop :
          Outcome Failure (Vector UInt8 2)) =
        .value array :=
    decodesBehind_arrayAt isAt isStop rest
  change
    halfAt (front ++ array.toList ++ rest) start stop = .value half
  rw [halfAt, decoded, value_bind, u16FromLeBytes_toLeBytes rfl]
  rfl

/-- The bytes behind their length. -/
theorem DecodesBehind.prefixedSlice
    {next : List UInt8 → Decoder Failure β}
    (isAt : front.length = lenAt)
    (fits : field.length ≤ max)
    (small : max < 256)
    (followed : behind ≤ bytes.length)
    (later :
      DecodesBehind (front ++ prefixed field) (next field) bytes result) :
    DecodesBehind front
      (fun payload =>
        ByteDecoders.prefixedSlice max tooLong short payload lenAt behind >>=
          fun source => next source payload)
      (prefixed field ++ bytes) result := by
  intro rest
  have there := later rest
  subst isAt
  have lenByte :
      (front ++ (prefixed field ++ bytes) ++ rest).getD front.length 0 =
        UInt8.ofNat field.length := by
    rw [List.append_assoc,
      List.getD_append_right _ _ _ _ (Nat.le_refl _), Nat.sub_self]
    rfl
  have len : (UInt8.ofNat field.length).toNat = field.length := by
    rw [UInt8.toNat_ofNat']
    omega
  have total :
      (front ++ (prefixed field ++ bytes) ++ rest).length =
        front.length + 1 + field.length + bytes.length + rest.length := by
    simp only [List.length_append, prefixed, List.length_cons]
    omega
  have source :
      ((front ++ (prefixed field ++ bytes) ++ rest).drop
          (front.length + 1)).take field.length =
        field := by
    rw [← List.drop_drop, List.append_assoc, List.drop_left, prefixed,
      List.cons_append, List.cons_append, List.drop_succ_cons,
      List.drop_zero, List.append_assoc, List.take_left]
  dsimp only
  rw [prefixedSlice_eq (by omega), lenByte, len, if_neg (by omega),
    if_neg (by omega), source, value_bind, ← List.append_assoc]
  exact there

/-- The array that is padded with zeros behind its length. -/
theorem DecodesBehind.prefixedAt
    {next : Vector UInt8 max × UInt8 → Decoder Failure β}
    {array : Vector UInt8 max}
    {len : UInt8}
    (padded : Padded array len)
    (isAt : front.length = lenAt)
    (small : max < 256)
    (followed : behind ≤ bytes.length)
    (later :
      DecodesBehind (front ++ prefixed ((used array len).take max))
        (next (array, len)) bytes result) :
    DecodesBehind front
      (fun payload =>
        ByteDecoders.prefixedAt max tooLong short payload lenAt behind >>=
          fun field => next field payload)
      (prefixed ((used array len).take max) ++ bytes) result := by
  have isLength := padded.length_used
  have fits : (used array len).length ≤ max := by
    rw [isLength]
    exact padded.within
  rw [padded.take_used] at later ⊢
  have copied :
      DecodesBehind (front ++ prefixed (used array len))
        (fun payload =>
          copyPadded max (used array len) >>= fun field =>
            next (field, UInt8.ofNat (used array len).length) payload)
        bytes result := by
    intro rest
    dsimp only
    rw [copyPadded_eq fits, value_bind, padded.zeroPadded_used, isLength,
      UInt8.ofNat_toNat]
    exact later rest
  have decodes :
      DecodesBehind front
        (fun payload =>
          ByteDecoders.prefixedSlice max tooLong short payload lenAt
              behind >>= fun source =>
            copyPadded max source >>= fun field =>
              next (field, UInt8.ofNat source.length) payload)
        (prefixed (used array len) ++ bytes) result := by
    refine .prefixedSlice isAt fits small followed ?_
    exact copied
  intro rest
  rw [← decodes rest]
  simp only [ByteDecoders.prefixedAt, bind_assoc, pure_bind]

/-! ## Writing what is decoded -/

/-- A length byte and then the bytes, cut to the longest, are written. -/
theorem fillsBehind_prefixed
    {writer : Writer Failure}
    (isStart : front.length = start)
    (later :
      FillsBehind (front ++ ByteDecoders.prefixed (field.take max)) writer
        bytes) :
    FillsBehind front
      (fun out => writePrefixed max out start field >>= writer)
      (ByteDecoders.prefixed (field.take max) ++ bytes) := by
  have isCut : field.take (min field.length max) = field.take max := by
    rw [Nat.min_comm]
    exact List.take_eq_take_min.symm
  have cutLength : (field.take max).length = min field.length max := by
    rw [List.length_take, Nat.min_comm]
  have twoWrites :
      FillsBehind front
        (fun out =>
          Outcome.write out start [UInt8.ofNat (min field.length max)] >>=
            fun out =>
              Outcome.write out (start + 1)
                (field.take (min field.length max)) >>= writer)
        ([UInt8.ofNat (min field.length max)] ++
          (field.take (min field.length max) ++ bytes)) := by
    refine .write isStart (.write ?_ ?_)
    · rw [List.length_append, isStart]
      rfl
    · rw [isCut, ← cutLength, List.append_assoc]
      exact later
  rw [isCut, ← cutLength] at twoWrites
  intro out fits
  refine Eq.trans ?_ (twoWrites out fits)
  simp only [writePrefixed, bind_assoc, isCut, cutLength]

end ByteDecoders
