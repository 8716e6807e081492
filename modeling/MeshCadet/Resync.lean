import Mathlib.Data.List.Basic

/-!
# Readers of a byte stream that arrives in chunks

A reader keeps what it has not consumed in a buffer.  In each turn it adds the
next chunk, if there is one, and makes one pass over the buffer, which may return
a frame.  A reader whose passes agree with a parse of whole streams delivers what
the parse finds, however the stream is cut into chunks.
-/

namespace Resync

variable {Token Frame : Type}

/-- What is buffered, and the chunks still to come. -/
structure Link (Token : Type) where
  buffer : List Token
  chunks : List (List Token)
deriving Repr, DecidableEq

namespace Link

/-- Everything that was not consumed. -/
def stream
    (link : Link Token) :
    List Token :=
  link.buffer ++ link.chunks.flatten

/-- Add the next chunk to the buffer; without one nothing is added. -/
def pull
    (link : Link Token) :
    Link Token :=
  match link.chunks with
  | [] => link
  | chunk :: chunks =>
      { buffer := link.buffer ++ chunk
        chunks := chunks }

@[simp] theorem stream_pull
    (link : Link Token) :
    link.pull.stream = link.stream := by
  obtain ⟨buffer, chunks⟩ := link
  cases chunks <;> simp [pull, stream]

end Link

/-- One turn: the next chunk, then a pass over the buffer. -/
def turn
    (pass : List Token → Option Frame × List Token)
    (link : Link Token) :
    Option Frame × Link Token :=
  ((pass link.pull.buffer).1,
    { link.pull with buffer := (pass link.pull.buffer).2 })

/-- Take turns until there is a frame; the turns are up at the deadline. -/
def receive
    (pass : List Token → Option Frame × List Token) :
    Nat → Link Token → Option Frame × Link Token
  | 0, link => (none, link)
  | turns + 1, link =>
      match turn pass link with
      | (some frame, next) => (some frame, next)
      | (none, next) => receive pass turns next

/--
The frames that successive calls return, with as many turns as they need, before
a call that returns none however long it waits.
-/
inductive Delivers
    (pass : List Token → Option Frame × List Token) :
    Link Token → List Frame → Prop where
  | quiet
      {link : Link Token}
      (silent : ∀ turns, (receive pass turns link).1 = none) :
      Delivers pass link []
  | frame
      {link next : Link Token}
      {frame : Frame}
      {frames : List Frame}
      (turns : Nat)
      (received : receive pass turns link = (some frame, next))
      (later : Delivers pass next frames) :
      Delivers pass link (frame :: frames)

/-- A pass consumes what a parse of the whole stream consumes first. -/
structure Reads
    (pass : List Token → Option Frame × List Token)
    (parse : List Token → List Frame) :
    Prop where
  agrees : ∀ buffer more,
    parse (buffer ++ more) =
      (pass buffer).1.toList ++ parse ((pass buffer).2 ++ more)
  shrinks : ∀ buffer,
    (pass buffer).2.length < buffer.length ∨
      pass buffer = (none, buffer) ∧ parse buffer = []

section Rules

variable {pass : List Token → Option Frame × List Token}
variable {parse : List Token → List Frame}
variable {link next : Link Token} {frame : Frame} {frames : List Frame}

/-- More turns do not change what was received. -/
theorem receive_mono
    {turns more : Nat}
    (received : receive pass turns link = (some frame, next))
    (enough : turns ≤ more) :
    receive pass more link = (some frame, next) := by
  induction turns generalizing link more with
  | zero =>
      cases received
  | succ turns inductionHypothesis =>
      obtain ⟨others, rfl⟩ := Nat.exists_eq_add_of_le' enough
      rw [receive] at received
      rw [← Nat.add_assoc, receive]
      rcases isTurn : turn pass link with ⟨found, after⟩
      rw [isTurn] at received
      cases found with
      | some first => exact received
      | none =>
          exact inductionHypothesis received (Nat.le_add_left _ _)

/-- A turn without a frame does not change what is delivered. -/
theorem Delivers.of_turn
    (isTurn : turn pass link = (none, next))
    (delivers : Delivers pass next frames) :
    Delivers pass link frames := by
  have receives :
      ∀ turns, receive pass (turns + 1) link = receive pass turns next := by
    intro turns
    rw [receive, isTurn]
  cases delivers with
  | quiet silent =>
      refine .quiet fun turns => ?_
      cases turns with
      | zero => rfl
      | succ turns =>
          rw [receives]
          exact silent turns
  | frame turns received later =>
      exact .frame (turns + 1) ((receives turns).trans received) later

/-- At most one list of frames is delivered. -/
theorem Delivers.unique
    {others : List Frame}
    (delivers : Delivers pass link frames)
    (delivered : Delivers pass link others) :
    frames = others := by
  induction delivers generalizing others with
  | quiet silent =>
      cases delivered with
      | quiet => rfl
      | frame turns received _ =>
          have nothing := silent turns
          rw [received] at nothing
          cases nothing
  | frame turns received _ inductionHypothesis =>
      cases delivered with
      | quiet silent =>
          have nothing := silent turns
          rw [received] at nothing
          cases nothing
      | frame otherTurns otherReceived later =>
          have first :=
            receive_mono received (Nat.le_max_left turns otherTurns)
          have second :=
            receive_mono otherReceived (Nat.le_max_right turns otherTurns)
          rw [first] at second
          cases second
          rw [inductionHypothesis later]

/-- A reader delivers what the parse of the whole stream finds. -/
theorem Reads.delivers
    (reads : Reads pass parse)
    (link : Link Token) :
    Delivers pass link (parse link.stream) := by
  induction size : link.chunks.length + link.stream.length
    using Nat.strongRecOn generalizing link with
  | ind total inductionHypothesis =>
      let pulled := link.pull
      let after : Link Token :=
        { pulled with buffer := (pass pulled.buffer).2 }
      have isTurn : turn pass link = ((pass pulled.buffer).1, after) := rfl
      have parsed :
          parse link.stream =
            (pass pulled.buffer).1.toList ++ parse after.stream := by
        rw [← Link.stream_pull]
        exact reads.agrees pulled.buffer pulled.chunks.flatten
      have fewer : pulled.chunks.length ≤ link.chunks.length := by
        obtain ⟨buffer, chunks⟩ := link
        cases chunks <;> simp [pulled, Link.pull]
      have sameChunks : after.chunks.length = pulled.chunks.length := rfl
      have sameLength : pulled.stream.length = link.stream.length := by
        rw [Link.stream_pull]
      have step :
          after.chunks.length + after.stream.length < total →
            Delivers pass link (parse link.stream) := by
        intro smaller
        have later := inductionHypothesis _ smaller after rfl
        rw [parsed]
        cases found : (pass pulled.buffer).1 with
        | none =>
            rw [found] at isTurn
            exact later.of_turn isTurn
        | some frame =>
            rw [found] at isTurn
            refine .frame 1 ?_ later
            rw [receive, isTurn]
      have lengths :
          after.stream.length + pulled.buffer.length =
            (pass pulled.buffer).2.length + pulled.stream.length := by
        simp only [Link.stream, List.length_append, after]
        omega
      rcases reads.shrinks pulled.buffer with shorter | ⟨same, nothing⟩
      · exact step (by omega)
      · cases chunks : link.chunks with
        | cons chunk others =>
            have dropped :
                pulled.chunks.length < link.chunks.length := by
              simp [pulled, Link.pull, chunks]
            have kept :
                (pass pulled.buffer).2.length = pulled.buffer.length := by
              rw [same]
            exact step (by omega)
        | nil =>
            have isPulled : pulled = link := by
              simp [pulled, Link.pull, chunks]
            have stays : turn pass link = (none, link) := by
              rw [isTurn, same]
              simp only [after, same]
              rw [isPulled]
            have silent :
                ∀ turns, (receive pass turns link).1 = none := by
              intro turns
              induction turns with
              | zero => rfl
              | succ turns stillSilent =>
                  rw [receive, stays]
                  exact stillSilent
            have empty : parse link.stream = [] := by
              rw [isPulled] at nothing
              simpa [Link.stream, chunks] using nothing
            rw [empty]
            exact .quiet silent

/-- What is delivered is what the parse finds, and nothing else. -/
theorem Reads.delivers_iff
    (reads : Reads pass parse)
    (link : Link Token) :
    Delivers pass link frames ↔ parse link.stream = frames := by
  constructor
  · intro delivers
    exact (reads.delivers link).unique delivers
  · rintro rfl
    exact reads.delivers link

end Rules

end Resync
