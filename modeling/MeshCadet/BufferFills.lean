import MeshCadet.Outcome

/-!
# Filling a buffer from the front

A writer writes into a buffer and reports how far it wrote.  It fills a buffer
with some bytes if they are what it writes, and all it writes, in every buffer
that is long enough; then it does not panic there.
-/

namespace BufferFills

open Outcome

variable {Failure : Type}

/-- A computation that writes into a buffer and reports how far. -/
abbrev Writer
    (Failure : Type) :
    Type :=
  List UInt8 → Outcome Failure (List UInt8 × Nat)

/-- Run a writer on the buffer from a position on. -/
def onTail
    (start : Nat)
    (writer : Writer Failure) :
    Writer Failure :=
  fun out =>
    if start ≤ out.length then
      writer (out.drop start) >>= fun written =>
        .value (out.take start ++ written.1, written.2)
    else
      .panicked

/-- Copy a part of a buffer to another place in it. -/
def copyWithin
    (out : List UInt8)
    (start stop position : Nat) :
    Outcome Failure (List UInt8) := do
  let source ← slice out start stop
  write out position source

/-- A writer fills every buffer that is long enough with some bytes. -/
def Fills
    (writer : Writer Failure)
    (bytes : List UInt8) :
    Prop :=
  ∀ out : List UInt8,
    bytes.length ≤ out.length →
      writer out = .value (bytes ++ out.drop bytes.length, bytes.length)

variable {writer : Writer Failure} {bytes front rest : List UInt8}

/-- A writer fills what is behind the front of a buffer. -/
theorem Fills.onTail
    (fills : Fills writer bytes)
    {start : Nat}
    (isStart : front.length = start)
    (fits : bytes.length ≤ rest.length) :
    BufferFills.onTail start writer (front ++ rest) =
      .value (front ++ bytes ++ rest.drop bytes.length, bytes.length) := by
  subst isStart
  have inside : front.length ≤ (front ++ rest).length := by
    rw [List.length_append]
    omega
  rw [BufferFills.onTail, if_pos inside, List.drop_left, List.take_left,
    fills rest fits, value_bind, List.append_assoc]

/-- Writing where the front of a buffer ends. -/
theorem write_behind_front
    {start : Nat}
    (isStart : front.length = start)
    (source : List UInt8)
    (fits : source.length ≤ rest.length) :
    (write (front ++ rest) start source : Outcome Failure (List UInt8)) =
      .value (front ++ source ++ rest.drop source.length) := by
  subst isStart
  rw [write_eq (by rw [List.length_append]; omega), List.take_left,
    ← List.drop_drop, List.drop_left]

/-- A buffer that is filled up to some place is filled further. -/
theorem fill_next
    {buffer : List UInt8}
    {start : Nat}
    (front : List UInt8)
    (isStart : front.length = start)
    (source : List UInt8)
    (fits : start + source.length ≤ buffer.length) :
    (write (front ++ buffer.drop front.length) start source :
        Outcome Failure (List UInt8)) =
      .value
        (front ++ source ++ buffer.drop (front ++ source).length) := by
  subst isStart
  rw [write_behind fits, List.length_append]

/-- Copying the middle of a buffer further back. -/
theorem copyWithin_eq
    {start stop position : Nat}
    (isStart : front.length = start)
    (isStop : start + bytes.length = stop)
    (fits : position + bytes.length ≤ (front ++ bytes ++ rest).length) :
    (copyWithin (front ++ bytes ++ rest) start stop position :
        Outcome Failure (List UInt8)) =
      .value
        ((front ++ bytes ++ rest).take position ++ bytes ++
          (front ++ bytes ++ rest).drop (position + bytes.length)) := by
  subst isStart isStop
  have middle :
      (slice (front ++ bytes ++ rest) front.length
          (front.length + bytes.length) :
          Outcome Failure (List UInt8)) =
        .value bytes := by
    rw [slice_eq (Nat.le_add_right _ _) (by
        rw [List.length_append, List.length_append]
        omega),
      Nat.add_sub_cancel_left, List.append_assoc, List.drop_left,
      List.take_left]
  rw [copyWithin, middle, value_bind, write_eq fits]

/-- A writer that goes on behind a filled front fills the buffer further. -/
def FillsBehind
    (front : List UInt8)
    (writer : Writer Failure)
    (bytes : List UInt8) :
    Prop :=
  ∀ out : List UInt8,
    (front ++ bytes).length ≤ out.length →
      writer (front ++ out.drop front.length) =
        .value
          (front ++ bytes ++ out.drop (front ++ bytes).length,
            (front ++ bytes).length)

/-- The last step reports how far the writer came. -/
theorem FillsBehind.done
    {stop : Nat}
    (isStop : front.length = stop) :
    FillsBehind front
      (fun out => (Pure.pure (out, stop) :
        Outcome Failure (List UInt8 × Nat)))
      [] := by
  intro out _
  subst isStop
  rw [List.append_nil]
  rfl

/-- One write after the other. -/
theorem FillsBehind.write
    {source : List UInt8}
    {start : Nat}
    (isStart : front.length = start)
    (later : FillsBehind (front ++ source) writer bytes) :
    FillsBehind front
      (fun out => Outcome.write out start source >>= writer)
      (source ++ bytes) := by
  intro out fits
  rw [← List.append_assoc] at fits ⊢
  have room : start + source.length ≤ out.length := by
    rw [List.length_append, List.length_append] at fits
    omega
  dsimp only
  rw [fill_next front isStart source room, value_bind]
  exact later out fits

/-- A writer that runs on what is behind the front, as the last step. -/
theorem FillsBehind.onTail
    (fills : Fills writer bytes)
    {start : Nat}
    (isStart : front.length = start) :
    FillsBehind front
      (fun out => do
        let written ← BufferFills.onTail start writer out
        pure (written.1, start + written.2))
      bytes := by
  intro out fits
  rw [List.length_append] at fits
  dsimp only
  rw [fills.onTail isStart (by rw [List.length_drop]; omega), value_bind,
    pure_eq, List.drop_drop, List.length_append, isStart]

/-- A writer that starts at the front of the buffer. -/
theorem FillsBehind.fills
    (behind : FillsBehind [] writer bytes) :
    Fills writer bytes :=
  behind

end BufferFills
