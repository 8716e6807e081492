import MeshCadet.ByteDecoders

/-!
# Numbers, byte arrays and strings of JavaScript

Numbers are integers here; their bit operations work on 32 bits, signed except
for the unsigned right shift.  A byte array stores numbers modulo 256 and ignores
a store outside it; a read outside it, which gives no number, and a copy that
does not fit, which throws, both count as panics.  A string is a list of UTF-16
units; encoding it puts the replacement character for a lone surrogate.
-/

namespace JavaScript

open Outcome

variable {Failure : Type}

/-! ## Numbers -/

/-- The 32 bits that a bit operation works on. -/
def bits
    (n : Int) :
    BitVec 32 :=
  BitVec.ofInt 32 n

/-- The operator `&`. -/
def bitAnd
    (a b : Int) :
    Int :=
  (bits a &&& bits b).toInt

/-- The operator `|`. -/
def bitOr
    (a b : Int) :
    Int :=
  (bits a ||| bits b).toInt

/-- The operator `^`. -/
def bitXor
    (a b : Int) :
    Int :=
  (bits a ^^^ bits b).toInt

/-- The operator `<<`. -/
def shiftLeft
    (a : Int)
    (count : Nat) :
    Int :=
  (bits a <<< (count % 32)).toInt

/-- The operator `>>>`. -/
def shiftRight
    (a : Int)
    (count : Nat) :
    Int :=
  (bits a >>> (count % 32)).toNat

section BitOperations

variable {a b count : Nat}

theorem toNat_bits
    (n : Nat) :
    (bits n).toNat = n % 4294967296 := by
  rw [bits, BitVec.ofInt_natCast, BitVec.toNat_ofNat]

/-- A number with the sign bit clear is its own bits. -/
theorem toInt_eq
    {word : BitVec 32}
    (small : word.toNat < 2147483648) :
    word.toInt = word.toNat :=
  BitVec.toInt_eq_toNat_of_lt (by omega)

theorem bitAnd_natCast
    (aFits : a < 2147483648)
    (bFits : b < 2147483648) :
    bitAnd a b = ((a &&& b : Nat) : Int) := by
  have same : (bits a &&& bits b).toNat = a &&& b := by
    rw [BitVec.toNat_and, toNat_bits, toNat_bits,
      Nat.mod_eq_of_lt (by omega), Nat.mod_eq_of_lt (by omega)]
  have fits : a &&& b < 2147483648 :=
    Nat.lt_of_le_of_lt Nat.and_le_left aFits
  rw [bitAnd, toInt_eq (by omega), same]

theorem bitOr_natCast
    (aFits : a < 2147483648)
    (bFits : b < 2147483648) :
    bitOr a b = ((a ||| b : Nat) : Int) := by
  have same : (bits a ||| bits b).toNat = a ||| b := by
    rw [BitVec.toNat_or, toNat_bits, toNat_bits,
      Nat.mod_eq_of_lt (by omega), Nat.mod_eq_of_lt (by omega)]
  have fits : a ||| b < 2 ^ 31 := Nat.or_lt_two_pow aFits bFits
  rw [bitOr, toInt_eq (by omega), same]

theorem bitXor_natCast
    (aFits : a < 2147483648)
    (bFits : b < 2147483648) :
    bitXor a b = ((a ^^^ b : Nat) : Int) := by
  have same : (bits a ^^^ bits b).toNat = a ^^^ b := by
    rw [BitVec.toNat_xor, toNat_bits, toNat_bits,
      Nat.mod_eq_of_lt (by omega), Nat.mod_eq_of_lt (by omega)]
  have fits : a ^^^ b < 2 ^ 31 := Nat.xor_lt_two_pow aFits bFits
  rw [bitXor, toInt_eq (by omega), same]

theorem shiftRight_natCast
    (aFits : a < 4294967296)
    (few : count < 32) :
    shiftRight a count = ((a >>> count : Nat) : Int) := by
  rw [shiftRight, BitVec.toNat_ushiftRight, toNat_bits,
    Nat.mod_eq_of_lt aFits, Nat.mod_eq_of_lt few]

theorem shiftLeft_natCast
    (fits : a <<< count < 2147483648)
    (few : count < 32) :
    shiftLeft a count = ((a <<< count : Nat) : Int) := by
  have atMost : a ≤ a <<< count := by
    rw [Nat.shiftLeft_eq]
    exact Nat.le_mul_of_pos_right _ (Nat.two_pow_pos _)
  have same : (bits a <<< (count % 32)).toNat = a <<< count := by
    have aFits : a < 4294967296 := by omega
    rw [BitVec.toNat_shiftLeft, toNat_bits, Nat.mod_eq_of_lt few,
      Nat.mod_eq_of_lt aFits, Nat.mod_eq_of_lt (by omega)]
  rw [shiftLeft, toInt_eq (by omega), same]

end BitOperations

/-! ## Byte arrays -/

/-- What an element of a byte array keeps of a number. -/
def toUint8
    (n : Int) :
    UInt8 :=
  UInt8.ofNat (n % 256).toNat

/-- A byte array of a length, filled with zeros. -/
def newUint8Array
    (length : Nat) :
    List UInt8 :=
  List.replicate length 0

/-- The element at a place. -/
def element
    (array : List UInt8)
    (place : Nat) :
    Outcome Failure Int := do
  let byte ← index array place
  pure byte.toNat

/-- Store a number at a place, if there is one. -/
def store
    (array : List UInt8)
    (place : Nat)
    (n : Int) :
    Outcome Failure (List UInt8) :=
  .value (array.set place (toUint8 n))

/-- The part of an array between two places, as far as it goes. -/
def subarray
    (array : List UInt8)
    (start stop : Nat) :
    List UInt8 :=
  (array.take stop).drop start

/-- The little-endian unsigned half word at a place. -/
def getUint16
    (array : List UInt8)
    (start : Nat) :
    Outcome Failure Int := do
  let half ← ByteDecoders.halfAt array start (start + 2)
  pure half.toNat

/-- The little-endian unsigned word at a place. -/
def getUint32
    (array : List UInt8)
    (start : Nat) :
    Outcome Failure Int := do
  let word ← wordAt array start (start + 4)
  pure word.toNat

/-- The little-endian signed word at a place. -/
def getInt32
    (array : List UInt8)
    (start : Nat) :
    Outcome Failure Int := do
  let word ← wordAt array start (start + 4)
  pure word.toInt32.toInt

/-- Write the low half word of a number at a place, little-endian. -/
def setUint16
    (array : List UInt8)
    (start : Nat)
    (n : Int) :
    Outcome Failure (List UInt8) :=
  write array start (ByteDecoders.u16ToLeBytes (UInt16.ofNat (n % 65536).toNat))

/-- Write the low word of a number at a place, little-endian. -/
def setUint32
    (array : List UInt8)
    (start : Nat)
    (n : Int) :
    Outcome Failure (List UInt8) :=
  write array start
    (Bytes.u32ToLeBytes (UInt32.ofNat (n % 4294967296).toNat)).toList

theorem toUint8_natCast
    (n : Nat) :
    toUint8 n = UInt8.ofNat n := by
  have isMod : ((n : Int) % 256).toNat = n % 256 := by
    omega
  apply UInt8.toNat_inj.mp
  rw [toUint8, isMod, UInt8.toNat_ofNat', UInt8.toNat_ofNat']
  exact Nat.mod_mod _ _

/-- A number masked to a byte is stored as its low byte. -/
theorem toUint8_bitAnd
    (n : Nat) :
    toUint8 (bitAnd n 255) = UInt8.ofNat n := by
  have isMask : (255 : Int) = ((255 : Nat) : Int) := rfl
  have same : (bits n &&& bits 255).toNat = n % 4294967296 % 256 := by
    rw [isMask, BitVec.toNat_and, toNat_bits, toNat_bits]
    exact Nat.and_two_pow_sub_one_eq_mod _ 8
  rw [bitAnd, toInt_eq (by omega), same, toUint8_natCast]
  apply UInt8.toNat_inj.mp
  rw [UInt8.toNat_ofNat', UInt8.toNat_ofNat']
  omega

/-- The second byte of a number is stored. -/
theorem toUint8_bitAnd_shiftRight
    (n : Nat) :
    toUint8 (bitAnd (shiftRight n 8) 255) = UInt8.ofNat (n >>> 8) := by
  have shifted :
      shiftRight n 8 = (((n % 4294967296) >>> 8 : Nat) : Int) := by
    rw [shiftRight, BitVec.toNat_ushiftRight, toNat_bits]
  rw [shifted, toUint8_bitAnd]
  apply UInt8.toNat_inj.mp
  rw [UInt8.toNat_ofNat', UInt8.toNat_ofNat', Nat.shiftRight_eq_div_pow,
    Nat.shiftRight_eq_div_pow]
  omega

section Reads

variable {array : List UInt8} {place start : Nat}

theorem element_eq
    (inside : place < array.length) :
    (element array place : Outcome Failure Int) =
      .value ((array.getD place 0).toNat : Int) := by
  rw [element, index_getD inside, value_bind, pure_eq]

theorem getUint16_eq
    (inside : start + 2 ≤ array.length) :
    (getUint16 array start : Outcome Failure Int) =
      .value
        ((ByteDecoders.u16FromLeBytes (fieldAt 2 array start)).toNat :
          Int) := by
  rw [getUint16, ByteDecoders.halfAt_eq inside rfl, value_bind, pure_eq]

theorem getUint32_eq
    (inside : start + 4 ≤ array.length) :
    (getUint32 array start : Outcome Failure Int) =
      .value
        ((Bytes.u32FromLeBytes (fieldAt 4 array start)).toNat : Int) := by
  rw [getUint32, wordAt_eq inside rfl, value_bind, pure_eq]

theorem getInt32_eq
    (inside : start + 4 ≤ array.length) :
    (getInt32 array start : Outcome Failure Int) =
      .value
        (Bytes.u32FromLeBytes (fieldAt 4 array start)).toInt32.toInt := by
  rw [getInt32, wordAt_eq inside rfl, value_bind, pure_eq]

/-- A part of an array, by its start and its length. -/
theorem subarray_eq
    (stop : Nat) :
    subarray array start stop = (array.drop start).take (stop - start) := by
  rw [subarray, List.drop_take]

end Reads

/-! ## Filling a new array -/

section Filling

variable {front bytes source : List UInt8} {start : Nat}
  {body : List UInt8 → Outcome Failure (List UInt8)}

/-- What goes on behind a filled front fills the array further. -/
def FillsArray
    (front : List UInt8)
    (body : List UInt8 → Outcome Failure (List UInt8))
    (bytes : List UInt8) :
    Prop :=
  ∀ array : List UInt8,
    (front ++ bytes).length ≤ array.length →
      body (front ++ array.drop front.length) =
        .value (front ++ bytes ++ array.drop (front ++ bytes).length)

theorem FillsArray.done :
    FillsArray front
      (fun array => (pure array : Outcome Failure (List UInt8))) [] := by
  intro array _
  rw [List.append_nil]
  rfl

/-- A copy behind the front. -/
theorem FillsArray.write
    (isStart : front.length = start)
    (later : FillsArray (front ++ source) body bytes) :
    FillsArray front
      (fun array => Outcome.write array start source >>= body)
      (source ++ bytes) := by
  intro array fits
  rw [← List.append_assoc] at fits ⊢
  have room : start + source.length ≤ array.length := by
    rw [List.length_append, List.length_append] at fits
    omega
  dsimp only
  rw [BufferFills.fill_next front isStart source room, value_bind]
  exact later array fits

/-- A store behind the front. -/
theorem FillsArray.store
    {n : Int}
    (isStart : front.length = start)
    (later : FillsArray (front ++ [toUint8 n]) body bytes) :
    FillsArray front
      (fun array => JavaScript.store array start n >>= body)
      ([toUint8 n] ++ bytes) := by
  intro array fits
  have written := FillsArray.write isStart later array fits
  have inside : start < (front ++ array.drop front.length).length := by
    rw [List.length_append, List.length_append, List.length_singleton]
      at fits
    rw [List.length_append, List.length_drop]
    omega
  have stored :
      (Outcome.write (front ++ array.drop front.length) start
          [toUint8 n] :
          Outcome Failure (List UInt8)) =
        JavaScript.store (front ++ array.drop front.length) start n := by
    rw [write_eq inside, JavaScript.store, List.set_eq_take_append_cons_drop,
      if_pos inside, List.append_assoc]
    rfl
  dsimp only at written ⊢
  rw [← stored]
  exact written

/-- The last copy. -/
theorem FillsArray.lastWrite
    (isStart : front.length = start) :
    FillsArray front
      (fun array =>
        (Outcome.write array start source : Outcome Failure (List UInt8)))
      (source ++ []) := by
  have written :
      FillsArray front
        (fun array =>
          (Outcome.write array start source >>= pure :
            Outcome Failure (List UInt8)))
        (source ++ []) :=
    .write isStart .done
  simpa only [bind_pure] using written

/-- The last store. -/
theorem FillsArray.lastStore
    {n : Int}
    (isStart : front.length = start) :
    FillsArray front
      (fun array =>
        (JavaScript.store array start n : Outcome Failure (List UInt8)))
      ([toUint8 n] ++ []) := by
  have stored :
      FillsArray front
        (fun array =>
          (JavaScript.store array start n >>= pure :
            Outcome Failure (List UInt8)))
        ([toUint8 n] ++ []) :=
    .store isStart .done
  simpa only [bind_pure] using stored

/-- Only what the body does behind the front counts. -/
theorem FillsArray.congr
    {other : List UInt8 → Outcome Failure (List UInt8)}
    (fills : FillsArray front other bytes)
    (same : ∀ rest : List UInt8, body (front ++ rest) = other (front ++ rest)) :
    FillsArray front body bytes := by
  intro array fits
  rw [same]
  exact fills array fits

/-- What was filled is read. -/
theorem subarray_front
    {stop : Nat}
    (isStop : front.length = stop)
    (rest : List UInt8) :
    subarray (front ++ rest) 0 stop = front := by
  subst isStop
  rw [subarray, List.take_left, List.drop_zero]

/-- A new array is filled from its start to its end. -/
theorem FillsArray.filled
    {length : Nat}
    {array : List UInt8}
    (isNew : newUint8Array length = array)
    (fills : FillsArray [] body bytes)
    (isLength : bytes.length = length) :
    body array = .value bytes := by
  subst isLength isNew
  have filled :=
    fills (newUint8Array bytes.length) (by simp [newUint8Array])
  have nothingLeft :
      (newUint8Array bytes.length).drop bytes.length = [] :=
    List.drop_of_length_le (by simp [newUint8Array])
  simpa [nothingLeft] using filled

end Filling

/-! ## Strings -/

/-- The unit is half of a pair. -/
def isSurrogate
    (unit : UInt16) :
    Bool :=
  0xD800 ≤ unit && unit ≤ 0xDFFF

/-- The unit is the first half of a pair. -/
def isHighSurrogate
    (unit : UInt16) :
    Bool :=
  0xD800 ≤ unit && unit ≤ 0xDBFF

/-- The unit is the second half of a pair. -/
def isLowSurrogate
    (unit : UInt16) :
    Bool :=
  0xDC00 ≤ unit && unit ≤ 0xDFFF

/-- The scalar value of a unit that is in no pair. -/
def loneScalar
    (unit : UInt16) :
    Nat :=
  if isSurrogate unit then 0xFFFD else unit.toNat

/-- The scalar value of a pair. -/
def pairScalar
    (high low : UInt16) :
    Nat :=
  0x10000 + (high.toNat - 0xD800) * 0x400 + (low.toNat - 0xDC00)

/-- A continuation byte with six bits of a scalar value. -/
def continuation
    (scalar shift : Nat) :
    UInt8 :=
  UInt8.ofNat (0x80 + scalar / shift % 64)

/-- The bytes of a scalar value. -/
def scalarBytes
    (scalar : Nat) :
    List UInt8 :=
  if scalar < 0x80 then
    [UInt8.ofNat scalar]
  else if scalar < 0x800 then
    [UInt8.ofNat (0xC0 + scalar / 64), continuation scalar 1]
  else if scalar < 0x10000 then
    [UInt8.ofNat (0xE0 + scalar / 4096), continuation scalar 64,
      continuation scalar 1]
  else
    [UInt8.ofNat (0xF0 + scalar / 262144), continuation scalar 4096,
      continuation scalar 64, continuation scalar 1]

/-- Encode a string. -/
def encodeUtf8 :
    List UInt16 → List UInt8
  | [] => []
  | [unit] => scalarBytes (loneScalar unit)
  | unit :: next :: rest =>
      if isHighSurrogate unit && isLowSurrogate next then
        scalarBytes (pairScalar unit next) ++ encodeUtf8 rest
      else
        scalarBytes (loneScalar unit) ++ encodeUtf8 (next :: rest)

/-- The unit is a digit. -/
def isDigit
    (unit : UInt16) :
    Bool :=
  0x30 ≤ unit && unit ≤ 0x39

/-- A string of digits and of nothing else, at least one. -/
def isDigits
    (text : List UInt16) :
    Bool :=
  !text.isEmpty && text.all isDigit

/-- A digit is one byte. -/
theorem scalarBytes_digit
    {unit : UInt16}
    (digit : isDigit unit = true) :
    scalarBytes (loneScalar unit) = [UInt8.ofNat unit.toNat] := by
  have atMost : unit.toNat ≤ 0x39 := by
    simp only [isDigit, Bool.and_eq_true, decide_eq_true_eq] at digit
    exact UInt16.le_iff_toNat_le.mp digit.2
  have notSurrogate : isSurrogate unit = false := by
    have below : ¬ (0xD800 : UInt16) ≤ unit := by
      intro above
      have atLeast : 0xD800 ≤ unit.toNat :=
        UInt16.le_iff_toNat_le.mp above
      omega
    simp [isSurrogate, below]
  rw [loneScalar, notSurrogate, if_neg Bool.false_ne_true, scalarBytes,
    if_pos (by omega)]

/-- Digits are encoded one byte each. -/
theorem encodeUtf8_digits
    {text : List UInt16}
    (digits : text.all isDigit = true) :
    encodeUtf8 text = text.map fun unit => UInt8.ofNat unit.toNat := by
  induction text using encodeUtf8.induct with
  | case1 => rfl
  | case2 unit =>
      rw [List.all_cons, Bool.and_eq_true] at digits
      rw [encodeUtf8, scalarBytes_digit digits.1]
      rfl
  | case3 unit next rest pair inductionHypothesis =>
      rw [List.all_cons, Bool.and_eq_true] at digits
      have isUnit := digits.1
      simp only [isDigit, isHighSurrogate, Bool.and_eq_true,
        decide_eq_true_eq] at isUnit pair
      have atMost : unit.toNat ≤ 0x39 :=
        UInt16.le_iff_toNat_le.mp isUnit.2
      have atLeast : 0xD800 ≤ unit.toNat :=
        UInt16.le_iff_toNat_le.mp pair.1.1
      omega
  | case4 unit next rest notPair inductionHypothesis =>
      rw [List.all_cons, Bool.and_eq_true] at digits
      rw [encodeUtf8, if_neg notPair, scalarBytes_digit digits.1,
        inductionHypothesis digits.2]
      rfl

end JavaScript
