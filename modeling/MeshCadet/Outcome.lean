import MeshCadet.ByteParser

/-!
# Computations over buffers that can panic

An outcome is a value, a failure the computation reports, or a panic.  Indexing,
slicing and copying panic outside their buffer.  `Follows` relates a computation
that reads a string at absolute offsets to a sequential reader of the same
string; where it holds, the computation does not panic.
-/

/-- What a computation that may report a failure or panic comes to. -/
inductive Outcome (Failure Value : Type) where
  | value (result : Value)
  | failed (reason : Failure)
  | panicked
deriving Repr, DecidableEq

namespace Outcome

variable {Failure α β : Type}

/-- Continue with the value; a failure or a panic ends the computation. -/
def bind
    (first : Outcome Failure α)
    (next : α → Outcome Failure β) :
    Outcome Failure β :=
  match first with
  | .value result => next result
  | .failed reason => .failed reason
  | .panicked => .panicked

instance : Monad (Outcome Failure) where
  pure := .value
  bind := bind

/-- Report a failure under another name. -/
def mapFailure
    {Reason : Type}
    (change : Failure → Reason) :
    Outcome Failure α → Outcome Reason α
  | .value result => .value result
  | .failed reason => .failed (change reason)
  | .panicked => .panicked

/-- A missing result is a reported failure. -/
def ofOption :
    Option α → Outcome Unit α
  | some result => .value result
  | none => .failed ()

/-- A reported error is a failure. -/
def ofExcept :
    Except Failure α → Outcome Failure α
  | .ok result => .value result
  | .error reason => .failed reason

/-- The element at a position; there is none past the end. -/
def index
    (elements : List α)
    (position : Nat) :
    Outcome Failure α :=
  match elements[position]? with
  | some element => .value element
  | none => .panicked

/-- The elements from one position up to another. -/
def slice
    (elements : List α)
    (start stop : Nat) :
    Outcome Failure (List α) :=
  if start ≤ stop ∧ stop ≤ elements.length then
    .value ((elements.drop start).take (stop - start))
  else
    .panicked

/-- Copy a slice into a fixed-size array; their lengths must agree. -/
def copyFromSlice
    (length : Nat)
    (source : List α) :
    Outcome Failure (Vector α length) :=
  if same : source.length = length then
    .value ⟨source.toArray, same⟩
  else
    .panicked

/-- Copy a slice into a buffer from a position on. -/
def write
    (buffer : List α)
    (start : Nat)
    (source : List α) :
    Outcome Failure (List α) :=
  if start + source.length ≤ buffer.length then
    .value
      (buffer.take start ++ source ++ buffer.drop (start + source.length))
  else
    .panicked

/-- The byte at a position as a flag. -/
def flagAt
    (input : List UInt8)
    (position : Nat) :
    Outcome Failure Bool := do
  let read ← index input position
  pure (read != 0)

/-- The array of the bytes from one position up to another. -/
def arrayAt
    (length : Nat)
    (input : List UInt8)
    (start stop : Nat) :
    Outcome Failure (Vector UInt8 length) := do
  let source ← slice input start stop
  copyFromSlice length source

/-- The little-endian word of the four bytes between two positions. -/
def wordAt
    (input : List UInt8)
    (start stop : Nat) :
    Outcome Failure UInt32 := do
  let read ← arrayAt 4 input start stop
  pure (Bytes.u32FromLeBytes read)

/-- The bytes from a position on; zeros stand in past the end. -/
def fieldAt
    (length : Nat)
    (input : List UInt8)
    (start : Nat) :
    Vector UInt8 length :=
  Vector.ofFn fun position => input.getD (start + position.val) 0

@[simp] theorem pure_eq
    (result : α) :
    (Pure.pure result : Outcome Failure α) = .value result :=
  rfl

@[simp] theorem value_bind
    (result : α)
    (next : α → Outcome Failure β) :
    (Outcome.value result >>= next) = next result :=
  rfl

@[simp] theorem failed_bind
    (reason : Failure)
    (next : α → Outcome Failure β) :
    (Outcome.failed reason >>= next) = .failed reason :=
  rfl

@[simp] theorem panicked_bind
    (next : α → Outcome Failure β) :
    ((Outcome.panicked : Outcome Failure α) >>= next) = .panicked :=
  rfl

@[simp] theorem mapFailure_value
    {Reason : Type}
    (change : Failure → Reason)
    (result : α) :
    mapFailure change (.value result : Outcome Failure α) =
      .value result :=
  rfl

@[simp] theorem mapFailure_failed
    {Reason : Type}
    (change : Failure → Reason)
    (reason : Failure) :
    mapFailure change (.failed reason : Outcome Failure α) =
      .failed (change reason) :=
  rfl

@[simp] theorem mapFailure_panicked
    {Reason : Type}
    (change : Failure → Reason) :
    mapFailure change (.panicked : Outcome Failure α) = .panicked :=
  rfl

/-- A computation that only reports errors does not panic. -/
theorem ofExcept_ne_panicked
    (result : Except Failure α) :
    ofExcept result ≠ .panicked := by
  cases result <;> simp [ofExcept]

/-- A sequence of computations has a value when each of them does. -/
theorem bind_eq_value_iff
    {first : Outcome Failure α}
    {next : α → Outcome Failure β}
    {result : β} :
    (first >>= next) = .value result ↔
      ∃ between, first = .value between ∧ next between = .value result := by
  cases first with
  | value between =>
      simp
  | failed reason =>
      simp
  | panicked =>
      simp

/-- A computation behind a check has a value when the check passes. -/
theorem unless_eq_value_iff
    {rejects : Prop}
    [Decidable rejects]
    {reason : Failure}
    {later : Outcome Failure α}
    {result : α} :
    (if rejects then .failed reason else later) = .value result ↔
      ¬ rejects ∧ later = .value result := by
  split
  case isTrue rejected =>
    simp [rejected]
  case isFalse passes =>
    simp [passes]

theorem ofOption_eq_value_iff
    {option : Option α}
    {result : α} :
    ofOption option = .value result ↔ option = some result := by
  cases option with
  | none =>
      simp [ofOption]
  | some found =>
      simp [ofOption]

instance : LawfulMonad (Outcome Failure) :=
  LawfulMonad.mk' _
    (by
      intro _ first
      cases first <;> rfl)
    (fun _ _ => rfl)
    (by
      intro _ _ _ first _ _
      cases first <;> rfl)

/-- Indexing inside the list gives the element. -/
theorem index_eq
    {elements : List α}
    {position : Nat}
    (inside : position < elements.length) :
    (index elements position : Outcome Failure α) =
      .value elements[position] := by
  simp [index, inside]

/-- Slicing inside the list gives the slice. -/
theorem slice_eq
    {elements : List α}
    {start stop : Nat}
    (ordered : start ≤ stop)
    (inside : stop ≤ elements.length) :
    (slice elements start stop : Outcome Failure (List α)) =
      .value ((elements.drop start).take (stop - start)) :=
  if_pos ⟨ordered, inside⟩

/-- Indexing a byte string inside it gives the byte. -/
theorem index_getD
    {input : List UInt8}
    {position : Nat}
    (inside : position < input.length) :
    (index input position : Outcome Failure UInt8) =
      .value (input.getD position 0) := by
  rw [index_eq inside]
  simp [inside]

theorem flagAt_eq
    {input : List UInt8}
    {position : Nat}
    (inside : position < input.length) :
    (flagAt input position : Outcome Failure Bool) =
      .value (input.getD position 0 != 0) := by
  rw [flagAt, index_getD inside, value_bind, pure_eq]

/-- Copying a slice of the right length copies it. -/
theorem copyFromSlice_eq
    {length : Nat}
    {source : List α}
    (same : source.length = length) :
    (copyFromSlice length source : Outcome Failure (Vector α length)) =
      .value ⟨source.toArray, same⟩ :=
  dif_pos same

/-- An array of bytes inside the string holds the bytes there. -/
theorem arrayAt_eq
    {length : Nat}
    {input : List UInt8}
    {start stop : Nat}
    (inside : stop ≤ input.length)
    (isStop : stop = start + length) :
    (arrayAt length input start stop :
        Outcome Failure (Vector UInt8 length)) =
      .value (fieldAt length input start) := by
  subst isStop
  have sliced :
      ((input.drop start).take (start + length - start)).length =
        length := by
    rw [Nat.add_sub_cancel_left, List.length_take, List.length_drop]
    omega
  rw [arrayAt, slice_eq (Nat.le_add_right _ _) inside, value_bind,
    copyFromSlice_eq sliced]
  congr 1
  apply Vector.ext
  intro position before
  have reached : start + position < input.length := by omega
  simp [fieldAt, List.getElem?_eq_getElem reached]

theorem wordAt_eq
    {input : List UInt8}
    {start stop : Nat}
    (inside : stop ≤ input.length)
    (isStop : stop = start + 4) :
    (wordAt input start stop : Outcome Failure UInt32) =
      .value (Bytes.u32FromLeBytes (fieldAt 4 input start)) := by
  rw [wordAt, arrayAt_eq inside isStop, value_bind, pure_eq]

/-- A field inside the front of a string is a field of the front. -/
theorem fieldAt_append
    {length start : Nat}
    {front : List UInt8}
    (inside : start + length ≤ front.length)
    (rest : List UInt8) :
    fieldAt length (front ++ rest) start = fieldAt length front start := by
  apply Vector.ext
  intro position before
  have reached : start + position < front.length := by omega
  rw [fieldAt, fieldAt, Vector.getElem_ofFn, Vector.getElem_ofFn,
    List.getD_eq_getElem?_getD, List.getD_eq_getElem?_getD,
    List.getElem?_append_left reached]

/-- A field is the zero-padded rest of the string. -/
theorem zeroPadded_drop
    (length start : Nat)
    (input : List UInt8) :
    Bytes.zeroPadded length (input.drop start) =
      fieldAt length input start := by
  apply Vector.ext
  intro position before
  simp [Bytes.zeroPadded, fieldAt]

/-- Writing inside the buffer replaces that part of it. -/
theorem write_eq
    {buffer source : List α}
    {start : Nat}
    (inside : start + source.length ≤ buffer.length) :
    (write buffer start source : Outcome Failure (List α)) =
      .value
        (buffer.take start ++ source ++
          buffer.drop (start + source.length)) :=
  if_pos inside

/-- Writing right behind what a buffer was filled with fills it further. -/
theorem write_behind
    {front source buffer : List α}
    (inside : front.length + source.length ≤ buffer.length) :
    (write (front ++ buffer.drop front.length) front.length source :
        Outcome Failure (List α)) =
      .value
        (front ++ source ++ buffer.drop (front.length + source.length)) := by
  have fits :
      front.length + source.length ≤
        (front ++ buffer.drop front.length).length := by
    rw [List.length_append, List.length_drop]
    omega
  have behind :
      (front ++ buffer.drop front.length).drop
          (front.length + source.length) =
        buffer.drop (front.length + source.length) := by
    rw [← List.drop_drop, List.drop_left, List.drop_drop]
  rw [write_eq fits, List.take_left, behind]

/-- Writing past the end of the buffer panics. -/
theorem write_past
    {front source buffer : List α}
    (filled : front.length ≤ buffer.length)
    (past : buffer.length < front.length + source.length) :
    (write (front ++ buffer.drop front.length) front.length source :
        Outcome Failure (List α)) =
      .panicked := by
  refine if_neg ?_
  rw [List.length_append, List.length_drop]
  omega

/-- What is copied to the front of a zeroed array is padded with zeros. -/
theorem zeroed_copy
    {length : Nat}
    {source : List UInt8}
    (fits : source.length ≤ length) :
    (do
      let copied ← write (List.replicate length 0) 0 source
      copyFromSlice length copied :
        Outcome Failure (Vector UInt8 length)) =
      .value (Bytes.zeroPadded length source) := by
  have inside :
      0 + source.length ≤ (List.replicate length (0 : UInt8)).length := by
    simpa using fits
  have total :
      ((List.replicate length (0 : UInt8)).take 0 ++ source ++
          (List.replicate length (0 : UInt8)).drop
            (0 + source.length)).length =
        length := by
    simp
    omega
  rw [write_eq inside, value_bind, copyFromSlice_eq total]
  congr 1
  apply Vector.ext
  intro position before
  rw [Bytes.zeroPadded, Vector.getElem_ofFn]
  by_cases inSource : position < source.length
  · simp [inSource]
  · simp [List.getElem_append, inSource]

/-- Read records of one width, one behind the other. -/
def records
    (recordAt : Nat → Outcome Failure α)
    (width : Nat) :
    Nat → Nat → Outcome Failure (List α)
  | 0, _ => pure []
  | count + 1, offset => do
      let first ← recordAt offset
      let others ← records recordAt width count (offset + width)
      pure (first :: others)

/-- As many records are read as were asked for. -/
theorem length_of_records
    {recordAt : Nat → Outcome Failure α}
    {width count offset : Nat}
    {elements : List α}
    (read : records recordAt width count offset = .value elements) :
    elements.length = count := by
  induction count generalizing offset elements with
  | zero =>
      cases read
      rfl
  | succ count inductionHypothesis =>
      rw [records] at read
      cases first : recordAt offset with
      | failed reason =>
          rw [first] at read
          cases read
      | panicked =>
          rw [first] at read
          cases read
      | value record =>
          rw [first, value_bind] at read
          cases others :
              records recordAt width count (offset + width) with
          | failed reason =>
              rw [others] at read
              cases read
          | panicked =>
              rw [others] at read
              cases read
          | value list =>
              rw [others, value_bind] at read
              cases read
              simp [inductionHypothesis others]

/-- Records that are all there are read at their places. -/
theorem records_eq
    {recordAt : Nat → Outcome Failure α}
    {width limit : Nat}
    (recordOf : Nat → α)
    (each : ∀ offset, offset + width ≤ limit →
      recordAt offset = .value (recordOf offset))
    {count offset : Nat}
    (inside : offset + count * width ≤ limit) :
    records recordAt width count offset =
      .value
        ((List.range count).map fun place =>
          recordOf (offset + place * width)) := by
  induction count generalizing offset with
  | zero =>
      rfl
  | succ count inductionHypothesis =>
      rw [Nat.succ_mul] at inside
      have first := each offset (by omega)
      have remaining :
          offset + width + count * width ≤ limit := by omega
      have others := inductionHypothesis remaining
      have shifted :
          ∀ place,
            offset + width + place * width =
              offset + (place + 1) * width := by
        intro place
        rw [Nat.succ_mul]
        omega
      rw [records, first, value_bind, others, value_bind, pure_eq,
        List.range_succ_eq_map, List.map_cons, List.map_map]
      simp only [shifted, Nat.zero_mul, Nat.add_zero]
      rfl

open ByteParser

/--
Reading the string from `start` up to `stop` gives what the sequential reader
gives there: the same value, or a failure where the reader fails.
-/
def Follows
    (input : List UInt8)
    (start stop : Nat)
    (checked : Outcome Unit α)
    (parser : Parser α) :
    Prop :=
  start ≤ stop ∧
    (stop ≤ input.length →
      (∃ result,
        checked = .value result ∧
          parser (input.drop start) = some (result, input.drop stop)) ∨
        checked = .failed () ∧ parser (input.drop start) = none)

/--
The computation comes to what the sequential reader comes to on the input: its
value, or a failure where it fails.
-/
def Agrees
    (checked : Outcome Unit α)
    (parser : Parser α)
    (input : List UInt8) :
    Prop :=
  checked = ofOption ((parser input).map Prod.fst)

section Rules

variable {input : List UInt8} {start middle stop : Nat}

/-- What the reader reads first need not be read again. -/
theorem Agrees.after
    {checked : Outcome Unit β}
    {parser : Parser α}
    {next : α → Parser β}
    {read : α}
    {rest : List UInt8}
    (reads : parser input = some (read, rest))
    (later : Agrees checked (next read) rest) :
    Agrees checked (parser >>= next) input := by
  rw [Agrees, bind_apply, reads]
  exact later

/-- A check between reads, written as an early return. -/
theorem Agrees.unless
    {rejects : Prop}
    [Decidable rejects]
    {condition : Bool}
    {later : Outcome Unit β}
    {next : Unit → Parser β}
    (opposite : condition = true ↔ ¬ rejects)
    (agrees : ¬ rejects → Agrees later (next ()) input) :
    Agrees
      (if rejects then .failed () else later)
      (ensure condition >>= next) input := by
  by_cases rejected : rejects
  · have fails : condition = false :=
      Bool.eq_false_iff.mpr fun holds => opposite.mp holds rejected
    rw [Agrees, if_pos rejected, ensure_bind_none fails]
    rfl
  · rw [Agrees, if_neg rejected,
      ensure_bind_apply (opposite.mpr rejected)]
    exact agrees rejected

/-- One read after the other; both fail where the first does. -/
theorem Agrees.bind
    {Read : Type}
    {first : Outcome Unit Read}
    {second : Read → Outcome Unit β}
    {parser : Parser α}
    {next : α → Parser β}
    (reads :
      (∃ result read rest,
        first = .value result ∧ parser input = some (read, rest) ∧
          Agrees (second result) (next read) rest) ∨
        first = .failed () ∧ parser input = none) :
    Agrees (first >>= second) (parser >>= next) input := by
  rcases reads with
    ⟨result, read, rest, isValue, parsed, later⟩ | ⟨isFailed, unread⟩
  · rw [Agrees, isValue, value_bind, bind_apply, parsed]
    exact later
  · rw [Agrees, isFailed, bind_apply, unread]
    rfl

/-- A value that needs no input. -/
theorem Follows.pure
    (result : α) :
    Follows input start start (.value result) (Pure.pure result) :=
  ⟨Nat.le_refl _, fun _ => .inl ⟨result, rfl, rfl⟩⟩

/-- One read after the other. -/
theorem Follows.bind
    {first : Outcome Unit α}
    {second : α → Outcome Unit β}
    {parser : Parser α}
    {next : α → Parser β}
    (ordered : middle ≤ stop)
    (follows : Follows input start middle first parser)
    (later : ∀ result, Follows input middle stop (second result)
      (next result)) :
    Follows input start stop (first >>= second) (parser >>= next) := by
  refine ⟨Nat.le_trans follows.1 ordered, fun inside => ?_⟩
  have sequence :
      (parser >>= next) (input.drop start) =
        (parser (input.drop start)).bind
          fun pair => next pair.1 pair.2 := rfl
  rcases follows.2 (Nat.le_trans ordered inside) with
    ⟨result, isValue, read⟩ | ⟨isFailed, unread⟩
  · rw [sequence, read, isValue]
    exact (later result).2 inside
  · rw [sequence, unread, isFailed]
    exact .inr ⟨rfl, rfl⟩

/-- The last read, whose result completes the value. -/
theorem Follows.last
    {first : Outcome Unit α}
    {parser : Parser α}
    {finish : α → β}
    (follows : Follows input start stop first parser) :
    Follows input start stop
      (first >>= fun read => Pure.pure (finish read))
      (parser >>= fun read => Pure.pure (finish read)) :=
  follows.bind (Nat.le_refl _) fun result => Follows.pure (finish result)

/-- A check between reads, written as an early return. -/
theorem Follows.unless
    {condition rejects : Prop}
    [Decidable condition]
    [Decidable rejects]
    {later : Outcome Unit β}
    {next : Unit → Parser β}
    (opposite : rejects ↔ ¬ condition)
    (follows : Follows input start stop later (next ())) :
    Follows input start stop
      (if rejects then .failed () else later)
      (ensure (decide condition) >>= next) := by
  refine ⟨follows.1, fun inside => ?_⟩
  by_cases holds : condition
  · have passes : ¬ rejects := fun rejected =>
      opposite.mp rejected holds
    have checked :
        (ensure (decide condition) >>= next) (input.drop start) =
          next () (input.drop start) := by
      rw [decide_eq_true holds]
      rfl
    rw [if_neg passes, checked]
    exact follows.2 inside
  · rw [if_pos (opposite.mpr holds), decide_eq_false holds]
    exact .inr ⟨rfl, rfl⟩

/-- What a read returns is changed the same way on both sides. -/
theorem Follows.map
    {first : Outcome Unit α}
    {parser : Parser α}
    {change : α → β}
    (follows : Follows input start stop first parser) :
    Follows input start stop
      (first >>= fun read => Pure.pure (change read))
      (change <$> parser) :=
  follows.last

theorem follows_byte :
    Follows input start (start + 1) (index input start) byte := by
  refine ⟨Nat.le_succ _, fun inside => .inl ⟨input[start], ?_, ?_⟩⟩
  · exact index_eq inside
  · rw [List.drop_eq_getElem_cons inside]
    rfl

theorem follows_flag :
    Follows input start (start + 1) (flagAt input start) flag :=
  follows_byte.map

/-- A slice copied into an array is what reading as many bytes gives. -/
theorem follows_bytes
    {length : Nat}
    (isStop : stop = start + length) :
    Follows input start stop (arrayAt length input start stop)
      (bytes length) := by
  subst isStop
  refine ⟨Nat.le_add_right _ _, fun inside => ?_⟩
  have enough : length ≤ (input.drop start).length := by
    rw [List.length_drop]
    omega
  have sliced :
      ((input.drop start).take (start + length - start)).length =
        length := by
    rw [Nat.add_sub_cancel_left, List.length_take]
    omega
  refine .inl
    ⟨⟨((input.drop start).take (start + length - start)).toArray, sliced⟩,
      ?_, ?_⟩
  · rw [arrayAt, slice_eq (Nat.le_add_right _ _) inside, value_bind,
      copyFromSlice_eq sliced]
  · rw [bytes, dif_pos enough, List.drop_drop]
    simp [Bytes.slice]

/-- Four bytes read as a little-endian word. -/
theorem follows_u32Le
    (isStop : stop = start + 4) :
    Follows input start stop (wordAt input start stop) u32Le :=
  (follows_bytes isStop).map

/-- Records one behind the other are what repeating the reader gives. -/
theorem follows_records
    {width : Nat}
    {recordAt : Nat → Outcome Unit α}
    {parser : Parser α}
    (record : ∀ offset,
      Follows input offset (offset + width) (recordAt offset) parser)
    (count offset : Nat) :
    Follows input offset (offset + count * width)
      (records recordAt width count offset) (times count parser) := by
  induction count generalizing offset with
  | zero =>
      rw [Nat.zero_mul]
      exact Follows.pure []
  | succ count inductionHypothesis =>
      have others := inductionHypothesis (offset + width)
      have shifted :
          offset + width + count * width =
            offset + (count + 1) * width := by
        rw [Nat.succ_mul]
        omega
      rw [shifted] at others
      exact (record offset).bind others.1 fun _ => others.last

end Rules

end Outcome
