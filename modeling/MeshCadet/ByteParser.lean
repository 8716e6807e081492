import MeshCadet.Bytes

/-!
# Sequential readers of byte strings

A reader consumes a prefix of its input and fails on short input.  `Reads` says
that a reader consumes exactly one encoding and returns its value, whatever
follows; readers of records are built from readers of fields by the rules
below.  `Yields` bounds what a reader can return on any input.
-/

namespace ByteParser

/-- A reader takes the remaining input to a value and what it left over. -/
abbrev Parser (α : Type) : Type :=
  StateT (List UInt8) Option α

/-- Read one byte. -/
def byte : Parser UInt8 :=
  fun
  | [] => none
  | head :: rest => some (head, rest)

/-- Read one byte as a flag. -/
def flag : Parser Bool :=
  (· != 0) <$> byte

/-- Read a fixed number of bytes. -/
def bytes
    (length : Nat) :
    Parser (Vector UInt8 length) :=
  fun input =>
    if enough : length ≤ input.length then
      some (Bytes.slice input 0 length, input.drop length)
    else
      none

/-- Read a little-endian word. -/
def u32Le : Parser UInt32 :=
  Bytes.u32FromLeBytes <$> bytes 4

/-- Fail unless the condition holds. -/
def ensure
    (condition : Bool) :
    Parser Unit :=
  fun input =>
    if condition then some ((), input) else none

/-- Read a fixed number of records. -/
def times
    {α : Type}
    (count : Nat)
    (parser : Parser α) :
    Parser (List α) :=
  match count with
  | 0 => pure []
  | count + 1 => do
      let first ← parser
      let others ← times count parser
      pure (first :: others)

/-- The reader consumes exactly the encoding and returns the value. -/
def Reads
    {α : Type}
    (parser : Parser α)
    (encoded : List UInt8)
    (value : α) :
    Prop :=
  ∀ rest, parser (encoded ++ rest) = some (value, rest)

/-- Whatever the reader returns, on any input, satisfies the property. -/
def Yields
    {α : Type}
    (parser : Parser α)
    (property : α → Prop) :
    Prop :=
  ∀ input value rest,
    parser input = some (value, rest) → property value

section Rules

variable {α β : Type}

/-- Readers in sequence: the second one reads what the first left over. -/
theorem bind_apply
    (parser : Parser α)
    (next : α → Parser β)
    (input : List UInt8) :
    (parser >>= next) input =
      (parser input).bind fun pair => next pair.1 pair.2 :=
  rfl

/-- A check that holds leaves the input alone. -/
theorem ensure_bind_apply
    {condition : Bool}
    (holds : condition = true)
    (next : Unit → Parser β)
    (input : List UInt8) :
    (ensure condition >>= next) input = next () input := by
  rw [holds]
  rfl

/-- A check that does not hold fails. -/
theorem ensure_bind_none
    {condition : Bool}
    (fails : condition = false)
    (next : Unit → Parser β)
    (input : List UInt8) :
    (ensure condition >>= next) input = none := by
  rw [fails]
  rfl

theorem Reads.pure
    (value : α) :
    Reads (Pure.pure value) [] value :=
  fun _ => rfl

/-- Readers in sequence read encodings in sequence. -/
theorem Reads.bind
    {parser : Parser α}
    {next : α → Parser β}
    {encoded encodedNext : List UInt8}
    {value : α}
    {result : β}
    (first : Reads parser encoded value)
    (second : Reads (next value) encodedNext result) :
    Reads (parser >>= next) (encoded ++ encodedNext) result := by
  intro rest
  have step :
      (parser >>= next) (encoded ++ encodedNext ++ rest) =
        (parser (encoded ++ (encodedNext ++ rest))).bind
          fun pair => next pair.1 pair.2 := by
    rw [List.append_assoc]
    rfl
  rw [step, first]
  exact second rest

theorem Reads.map
    {parser : Parser α}
    {change : α → β}
    {encoded : List UInt8}
    {value : α}
    (first : Reads parser encoded value) :
    Reads (change <$> parser) encoded (change value) := by
  intro rest
  have step :
      (change <$> parser) (encoded ++ rest) =
        (parser (encoded ++ rest)).bind
          fun pair => some (change pair.1, pair.2) :=
    rfl
  rw [step, first]
  rfl

/-- The last reader of a record, whose result completes the value. -/
theorem Reads.last
    {parser : Parser α}
    {finish : α → β}
    {encoded : List UInt8}
    {value : α}
    (final : Reads parser encoded value) :
    Reads (parser >>= fun read => Pure.pure (finish read))
      encoded (finish value) := by
  intro rest
  have step :
      (parser >>= fun read => Pure.pure (finish read))
          (encoded ++ rest) =
        (parser (encoded ++ rest)).bind
          fun pair => some (finish pair.1, pair.2) :=
    rfl
  rw [step, final]
  rfl

theorem reads_byte
    (value : UInt8) :
    Reads byte [value] value :=
  fun _ => rfl

/-- A flag is read back from the byte it is written as. -/
theorem reads_flag
    (value : Bool) :
    Reads flag [value.toUInt8] value := by
  intro rest
  cases value <;> rfl

theorem reads_bytes
    {length : Nat}
    (field : Vector UInt8 length) :
    Reads (bytes length) field.toList field := by
  intro rest
  have enough : length ≤ (field.toList ++ rest).length := by
    simp
  rw [bytes, dif_pos enough]
  simp [Bytes.slice_toList_append]

theorem reads_u32Le
    (value : UInt32) :
    Reads u32Le (Bytes.u32ToLeBytes value).toList value := by
  have readsBytes :
      Reads u32Le (Bytes.u32ToLeBytes value).toList
        (Bytes.u32FromLeBytes (Bytes.u32ToLeBytes value)) :=
    (reads_bytes (Bytes.u32ToLeBytes value)).map
  simpa using readsBytes

theorem reads_ensure
    {condition : Bool}
    (holds : condition = true) :
    Reads (ensure condition) [] () := by
  intro rest
  simp [ensure, holds]

/-- A check that holds consumes nothing. -/
theorem Reads.check
    {condition : Bool}
    {next : Unit → Parser α}
    {encoded : List UInt8}
    {value : α}
    (holds : condition = true)
    (later : Reads (next ()) encoded value) :
    Reads (ensure condition >>= next) encoded value :=
  Reads.bind (reads_ensure holds) later

/-- Records written one after the other are read back in order. -/
theorem reads_times
    {parser : Parser α}
    {encode : α → List UInt8}
    (values : List α)
    (reads : ∀ value ∈ values, Reads parser (encode value) value) :
    Reads (times values.length parser)
      (values.flatMap encode) values := by
  induction values with
  | nil =>
      exact Reads.pure []
  | cons first others inductionHypothesis =>
      have readsFirst := reads first (by simp)
      have readsOthers :=
        inductionHypothesis fun value member =>
          reads value (by simp [member])
      rw [List.length_cons, List.flatMap_cons, times]
      refine Reads.bind readsFirst ?_
      exact Reads.last readsOthers

theorem Yields.pure
    {property : α → Prop}
    {value : α}
    (holds : property value) :
    Yields (Pure.pure value) property := by
  intro input result rest accepted
  cases accepted
  exact holds

/-- What a sequence returns is what its last reader returns. -/
theorem Yields.bind
    {parser : Parser α}
    {next : α → Parser β}
    {between : α → Prop}
    {property : β → Prop}
    (first : Yields parser between)
    (second : ∀ value, between value → Yields (next value) property) :
    Yields (parser >>= next) property := by
  intro input result rest accepted
  obtain ⟨⟨value, middle⟩, readFirst, readSecond⟩ :=
    Option.bind_eq_some_iff.mp accepted
  exact
    second value (first _ _ _ readFirst) _ _ _ readSecond

/-- A reader whose result is not looked at. -/
theorem Yields.any
    (parser : Parser α) :
    Yields parser fun _ => True :=
  fun _ _ _ _ => trivial

theorem yields_ensure
    (condition : Bool) :
    Yields (ensure condition) fun _ => condition = true := by
  intro input result rest accepted
  by_contra fails
  simp [ensure, fails] at accepted

/-- A fixed number of records is read, each as its reader returns it. -/
theorem yields_times
    {parser : Parser α}
    {property : α → Prop}
    (count : Nat)
    (yields : Yields parser property) :
    Yields (times count parser) fun values =>
      values.length = count ∧ ∀ value ∈ values, property value := by
  induction count with
  | zero =>
      exact Yields.pure (by simp)
  | succ count inductionHypothesis =>
      refine Yields.bind yields fun first firstHolds => ?_
      refine Yields.bind inductionHypothesis
        fun others othersHold => ?_
      refine Yields.pure ⟨by simp [othersHold.1], ?_⟩
      rintro value (_ | ⟨_, member⟩)
      · exact firstHolds
      · exact othersHold.2 value member

end Rules

end ByteParser
