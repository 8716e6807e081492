import MeshCadet.HostCommands
import MeshCadet.Transition

namespace MeshCadet

/-!
# Commands of the host and answers of the device

The host sends a command's frame again when no answer comes in time, and drops
what has arrived by then.  Frames carry no sequence number.  A command is answered
by its own answers exactly when no answer to an earlier one is still owed when it
takes a frame.
-/

open Transition

/-- A frame and the number of the command that it was sent for. -/
structure TracedFrame where
  command : Nat
  frame : HostFrame
deriving Repr, DecidableEq

/-- The command that runs; it sends its frame again until one has arrived. -/
structure RunningCommand where
  command : SessionCommand
  progress : Progress
  retrying : Bool
deriving Repr, DecidableEq

/-- A session, the device behind it, and the frames between them. -/
structure HostSession where
  begun : Nat
  running : Option RunningCommand
  requests : List TracedFrame
  onWire : List TracedFrame
  arrived : List TracedFrame
  interpreted : List (Nat × TracedFrame)
deriving Repr, DecidableEq

/-- What happens to a session. -/
inductive SessionEvent where
  | call (command : SessionCommand)
  | answer (frames : List HostFrame)
  | arrive
  | recvFrame
  | timeout (deadlinePassed : Bool)
deriving Repr, DecidableEq

namespace HostSession

/-- A session before its first command. -/
def fresh : HostSession :=
  { begun := 0
    running := none
    requests := []
    onWire := []
    arrived := []
    interpreted := [] }

/-- Send a frame for the command that was begun last. -/
def sendFrame
    (frame : HostFrame)
    (session : HostSession) :
    HostSession :=
  { session with
    requests :=
      session.requests ++ [{ command := session.begun, frame := frame }] }

/-- Begin a command; a session runs one at a time. -/
def call
    (command : SessionCommand)
    (session : HostSession) :
    HostSession :=
  match session.running with
  | some _ => session
  | none =>
      { session with
        begun := session.begun + 1
        running :=
          some
            { command := command
              progress := .initial
              retrying := true } }.sendFrame command.request

/-- The device answers the oldest frame. -/
def answer
    (frames : List HostFrame)
    (session : HostSession) :
    HostSession :=
  match session.requests with
  | [] => session
  | request :: requests =>
      { session with
        requests := requests
        onWire :=
          session.onWire ++
            frames.map fun frame =>
              { command := request.command, frame := frame } }

/-- The oldest frame on the wire arrives; one too large for the reader is lost. -/
def arrive
    (session : HostSession) :
    HostSession :=
  match session.onWire with
  | [] => session
  | traced :: onWire =>
      if maxValidFramePayloadLen < traced.frame.payload.length then
        { session with onWire := onWire }
      else
        { session with
          onWire := onWire
          arrived := session.arrived ++ [traced] }

/-- The command that runs takes the oldest frame that arrived. -/
def recvFrame
    (session : HostSession) :
    HostSession :=
  match session.running, session.arrived with
  | some running, traced :: arrived =>
      match running.command.onFrame running.progress traced.frame with
      | .finished =>
          { session with
            running := none
            arrived := arrived
            interpreted := (session.begun, traced) :: session.interpreted }
      | .reads progress =>
          { session with
            running :=
              some { running with progress := progress, retrying := false }
            arrived := arrived
            interpreted := (session.begun, traced) :: session.interpreted }
      | .skips progress =>
          { session with
            running :=
              some { running with progress := progress, retrying := false }
            arrived := arrived }
  | _, _ => session

/--
No frame arrived in time.  Before its first frame, and before its deadline, a
command drops what has arrived since and sends its frame again; otherwise it fails
and drops nothing.
-/
def timeout
    (deadlinePassed : Bool)
    (session : HostSession) :
    HostSession :=
  match session.running with
  | none => session
  | some running =>
      if running.retrying ∧ ¬ deadlinePassed then
        { session with arrived := [] }.sendFrame running.command.request
      else
        { session with running := none }

/-- One step of a session. -/
def step
    (session : HostSession) :
    SessionEvent → HostSession
  | .call command => session.call command
  | .answer frames => session.answer frames
  | .arrive => session.arrive
  | .recvFrame => session.recvFrame
  | .timeout deadlinePassed => session.timeout deadlinePassed

/-- Every frame that a command took for its answer was sent for that command. -/
def Correlated
    (session : HostSession) :
    Prop :=
  ∀ taken ∈ session.interpreted, taken.2.command = taken.1

/-- What the device has to answer and what of its answers is not taken, by age. -/
def owed
    (session : HostSession) :
    List TracedFrame :=
  session.arrived ++ session.onWire ++ session.requests

/-- The command that runs would take the next frame for its answer. -/
def interprets
    (session : HostSession) :
    Bool :=
  match session.running, session.arrived with
  | some running, traced :: _ =>
      match running.command.onFrame running.progress traced.frame with
      | .skips _ => false
      | _ => true
  | _, _ => false

/--
When a command takes a frame for its answer, no answer to an earlier command is
owed: not being made, not on the wire, and not buffered.
-/
def Settled
    (session : HostSession) :
    SessionEvent → Prop
  | .recvFrame =>
      session.interprets = true →
        ∀ traced ∈ session.owed, traced.command = session.begun
  | _ => True

/-- What is owed is owed by age, and none of it to a later command. -/
structure Ordered
    (session : HostSession) :
    Prop where
  byAge : (session.owed.map (·.command)).Pairwise (· ≤ ·)
  none_later : ∀ traced ∈ session.owed, traced.command ≤ session.begun

section Order

variable {session : HostSession}

/-- The order of what is owed, in terms of the command numbers alone. -/
theorem Ordered.of_sublist
    {next : HostSession}
    (ordered : session.Ordered)
    (fewer : next.owed.Sublist session.owed)
    (same : next.begun = session.begun) :
    next.Ordered where
  byAge := ordered.byAge.sublist (fewer.map _)
  none_later := by
    intro traced member
    rw [same]
    exact ordered.none_later traced (fewer.subset member)

/-- A frame of the newest command stands behind all that is owed. -/
theorem Ordered.of_sent
    {next : HostSession}
    (ordered : session.Ordered)
    (frame : HostFrame)
    (sent :
      next.owed = session.owed ++ [{ command := next.begun, frame := frame }])
    (notEarlier : session.begun ≤ next.begun) :
    next.Ordered where
  byAge := by
    rw [sent, List.map_append, List.pairwise_append]
    refine ⟨ordered.byAge, List.pairwise_singleton _ _, ?_⟩
    intro command member last isLast
    obtain ⟨traced, isOwed, rfl⟩ := List.mem_map.mp member
    rw [List.map_singleton, List.mem_singleton] at isLast
    rw [isLast]
    exact (ordered.none_later traced isOwed).trans notEarlier
  none_later := by
    intro traced member
    rw [sent] at member
    rcases List.mem_append.mp member with isOwed | isSent
    · exact (ordered.none_later traced isOwed).trans notEarlier
    · rw [List.mem_singleton.mp isSent]

/-- Frames for one request stand where it stood. -/
theorem Ordered.of_answered
    {next : HostSession}
    {older newer : List TracedFrame}
    {request : TracedFrame}
    (ordered : session.Ordered)
    (frames : List HostFrame)
    (before : session.owed = older ++ request :: newer)
    (after :
      next.owed =
        older ++
          (frames.map fun frame =>
            { command := request.command, frame := frame }) ++ newer)
    (same : next.begun = session.begun) :
    next.Ordered where
  byAge := by
    have byAge := ordered.byAge
    rw [before, List.map_append, List.map_cons, List.pairwise_append,
      List.pairwise_cons] at byAge
    obtain ⟨olderByAge, ⟨afterRequest, newerByAge⟩, across⟩ := byAge
    rw [after, List.map_append, List.map_append, List.map_map,
      List.append_assoc, List.pairwise_append, List.pairwise_append]
    refine ⟨olderByAge, ⟨?_, newerByAge, ?_⟩, ?_⟩
    · rw [List.pairwise_map]
      exact List.pairwise_of_forall fun _ _ => Nat.le_refl _
    · intro command isFrame later isNewer
      obtain ⟨_, _, rfl⟩ := List.mem_map.mp isFrame
      exact afterRequest later isNewer
    · intro earlier isOlder command member
      rcases List.mem_append.mp member with isFrame | isNewer
      · obtain ⟨_, _, rfl⟩ := List.mem_map.mp isFrame
        exact across earlier isOlder request.command List.mem_cons_self
      · exact across earlier isOlder command
          (List.mem_cons_of_mem _ isNewer)
  none_later := by
    have requestBound :=
      ordered.none_later request (by rw [before]; simp)
    intro traced member
    rw [same]
    rw [after] at member
    rcases List.mem_append.mp member with older | newer
    · rcases List.mem_append.mp older with isOlder | isFrame
      · exact ordered.none_later traced (by rw [before]; simp [isOlder])
      · obtain ⟨_, _, rfl⟩ := List.mem_map.mp isFrame
        exact requestBound
    · exact ordered.none_later traced (by rw [before]; simp [newer])

/-- What a step can do to a session. -/
inductive Changes
    (session : HostSession) :
    SessionEvent → HostSession → Prop where
  | nothing
      {event : SessionEvent}
      (quiet : event = .recvFrame → session.interprets = false) :
      Changes session event session
  | called
      {command : SessionCommand}
      {running : RunningCommand}
      (idle : session.running = none) :
      Changes session (.call command)
        ({ session with
            begun := session.begun + 1
            running := some running }.sendFrame command.request)
  | answered
      {frames : List HostFrame}
      {request : TracedFrame}
      {requests : List TracedFrame}
      (oldest : session.requests = request :: requests) :
      Changes session (.answer frames)
        { session with
          requests := requests
          onWire :=
            session.onWire ++
              frames.map fun frame =>
                { command := request.command, frame := frame } }
  | lost
      {traced : TracedFrame}
      {onWire : List TracedFrame}
      (oldest : session.onWire = traced :: onWire) :
      Changes session .arrive { session with onWire := onWire }
  | arrived
      {traced : TracedFrame}
      {onWire : List TracedFrame}
      (oldest : session.onWire = traced :: onWire)
      (fits : traced.frame.payload.length ≤ maxValidFramePayloadLen) :
      Changes session .arrive
        { session with
          onWire := onWire
          arrived := session.arrived ++ [traced] }
  | took
      {traced : TracedFrame}
      {arrived : List TracedFrame}
      {running : Option RunningCommand}
      {interpreted : List (Nat × TracedFrame)}
      (runs : session.running ≠ none)
      (oldest : session.arrived = traced :: arrived)
      (logged :
        interpreted =
          if session.interprets then
            (session.begun, traced) :: session.interpreted
          else
            session.interpreted) :
      Changes session .recvFrame
        { session with
          running := running
          arrived := arrived
          interpreted := interpreted }
  | resent
      {frame : HostFrame}
      (runs : session.running ≠ none) :
      Changes session (.timeout false)
        ({ session with arrived := [] }.sendFrame frame)
  | failed
      {deadlinePassed : Bool}
      (runs : session.running ≠ none) :
      Changes session (.timeout deadlinePassed)
        { session with running := none }

/-- Every step is one of these changes. -/
theorem step_changes
    (session : HostSession)
    (event : SessionEvent) :
    session.Changes event (session.step event) := by
  cases event with
  | call command =>
      rw [HostSession.step, HostSession.call]
      split
      · exact .nothing nofun
      · rename_i idle
        exact .called idle
  | answer frames =>
      rw [HostSession.step, HostSession.answer]
      split
      · exact .nothing nofun
      · rename_i oldest
        exact .answered oldest
  | arrive =>
      rw [HostSession.step, HostSession.arrive]
      split
      · exact .nothing nofun
      · rename_i oldest
        split
        · exact .lost oldest
        · rename_i fits
          exact .arrived oldest (Nat.le_of_not_lt fits)
  | recvFrame =>
      rw [HostSession.step, HostSession.recvFrame]
      split
      · rename_i running traced arrived isRunning isArrived
        have runs : session.running ≠ none := by
          rw [isRunning]
          nofun
        split <;>
          rename_i reaction <;>
          refine .took runs isArrived ?_ <;>
          simp [interprets, isRunning, isArrived, reaction]
      · rename_i noFrame
        refine .nothing fun _ => ?_
        rw [interprets]
        split
        · rename_i running traced arrived isRunning isArrived
          exact absurd isArrived (noFrame running traced arrived isRunning)
        · rfl
  | timeout deadlinePassed =>
      rw [HostSession.step, HostSession.timeout]
      split
      · exact .nothing nofun
      · rename_i running isRunning
        have runs : session.running ≠ none := by
          rw [isRunning]
          nofun
        cases deadlinePassed with
        | true =>
            rw [if_neg (by simp)]
            exact .failed runs
        | false =>
            split
            · exact .resent runs
            · exact .failed runs

/-- No step disturbs the order of what is owed. -/
theorem Ordered.step
    (ordered : session.Ordered)
    (event : SessionEvent) :
    (session.step event).Ordered := by
  have changes := session.step_changes event
  generalize session.step event = next at changes ⊢
  cases changes with
  | nothing => exact ordered
  | @called command running idle =>
      refine ordered.of_sent command.request ?_ (Nat.le_succ _)
      simp [owed, sendFrame]
  | @answered frames request requests oldest =>
      have before :
          session.owed =
            (session.arrived ++ session.onWire) ++ request :: requests := by
        rw [owed, oldest]
      refine ordered.of_answered frames before ?_ rfl
      simp [owed]
  | lost oldest =>
      refine ordered.of_sublist ?_ rfl
      simp [owed, oldest]
  | arrived oldest =>
      refine ordered.of_sublist ?_ rfl
      simp [owed, oldest]
  | took runs oldest =>
      refine ordered.of_sublist ?_ rfl
      simp [owed, oldest]
  | @resent frame =>
      have dropped : { session with arrived := [] }.Ordered := by
        refine ordered.of_sublist ?_ rfl
        simp [owed]
      refine dropped.of_sent frame ?_ (Nat.le_refl _)
      simp [owed, sendFrame]
  | failed =>
      exact ordered.of_sublist (List.Sublist.refl _) rfl

/-- Whether an event begins a command. -/
def isCall : SessionEvent → Bool
  | .call _ => true
  | _ => false

/-- Only a call begins a command. -/
theorem begun_step
    {event : SessionEvent}
    (other : isCall event = false) :
    (session.step event).begun = session.begun := by
  have changes := session.step_changes event
  generalize session.step event = next at changes ⊢
  cases changes with
  | called => cases other
  | nothing | answered | lost | arrived | took | resent | failed => rfl

/-- Only a call makes an idle session run a command. -/
theorem running_step
    {event : SessionEvent}
    (other : isCall event = false)
    (idle : session.running = none) :
    (session.step event).running = none := by
  have changes := session.step_changes event
  generalize session.step event = next at changes ⊢
  cases changes with
  | called => cases other
  | nothing | answered | lost | arrived => exact idle
  | took runs | resent runs | failed runs => exact absurd idle runs

/-- What is owed after a step is the newest command's or was owed before it. -/
theorem command_of_owed_step
    {event : SessionEvent}
    {traced : TracedFrame}
    (isOwed : traced ∈ (session.step event).owed) :
    traced.command = (session.step event).begun ∨
      ∃ older ∈ session.owed, older.command = traced.command := by
  have changes := session.step_changes event
  generalize session.step event = next at changes isOwed ⊢
  cases changes with
  | nothing => exact Or.inr ⟨traced, isOwed, rfl⟩
  | called =>
      simp only [owed, sendFrame, ← List.append_assoc] at isOwed
      rcases List.mem_append.mp isOwed with older | isSent
      · exact Or.inr ⟨traced, older, rfl⟩
      · rw [List.mem_singleton.mp isSent]
        exact Or.inl rfl
  | @answered frames request requests oldest =>
      refine Or.inr ?_
      simp only [owed, oldest, List.mem_append, List.mem_map,
        List.mem_cons] at isOwed ⊢
      rcases isOwed with (arrived | onWire | ⟨frame, -, rfl⟩) | later
      · exact ⟨traced, Or.inl (Or.inl arrived), rfl⟩
      · exact ⟨traced, Or.inl (Or.inr onWire), rfl⟩
      · exact ⟨request, Or.inr (Or.inl rfl), rfl⟩
      · exact ⟨traced, Or.inr (Or.inr later), rfl⟩
  | lost oldest | arrived oldest =>
      refine Or.inr ⟨traced, ?_, rfl⟩
      simp [owed, oldest] at isOwed ⊢
      tauto
  | took runs oldest =>
      refine Or.inr ⟨traced, ?_, rfl⟩
      rw [owed, oldest]
      exact List.mem_cons_of_mem _ isOwed
  | resent =>
      simp only [owed, sendFrame, List.nil_append,
        ← List.append_assoc] at isOwed
      rcases List.mem_append.mp isOwed with older | isSent
      · refine Or.inr ⟨traced, ?_, rfl⟩
        rw [owed, List.append_assoc]
        exact List.mem_append_right _ older
      · rw [List.mem_singleton.mp isSent]
        exact Or.inl rfl
  | failed => exact Or.inr ⟨traced, isOwed, rfl⟩

/-- The oldest frame is the newest command's exactly when all that is owed is. -/
theorem Ordered.oldest_iff
    {traced : TracedFrame}
    {arrived : List TracedFrame}
    (ordered : session.Ordered)
    (oldest : session.arrived = traced :: arrived) :
    traced.command = session.begun ↔
      ∀ other ∈ session.owed, other.command = session.begun := by
  have isOwed :
      session.owed =
        traced :: (arrived ++ session.onWire ++ session.requests) := by
    rw [owed, oldest]
    rfl
  constructor
  · intro isNewest other member
    refine Nat.le_antisymm (ordered.none_later other member) ?_
    have byAge := ordered.byAge
    rw [isOwed, List.map_cons, List.pairwise_cons] at byAge
    rw [isOwed] at member
    rcases List.mem_cons.mp member with rfl | later
    · exact isNewest.ge
    · rw [← isNewest]
      exact byAge.1 other.command (List.mem_map_of_mem later)
  · intro all
    exact all traced (by rw [isOwed]; exact List.mem_cons_self)

/-- While a command runs, only its own frames are owed. -/
def OwnOnly
    (session : HostSession) :
    Prop :=
  session.running ≠ none →
    ∀ traced ∈ session.owed, traced.command = session.begun

/-- A command begins when nothing is owed. -/
def CallsSettled
    (session : HostSession) :
    SessionEvent → Prop
  | .call _ => session.running = none → session.owed = []
  | _ => True

/-- While commands begin when nothing is owed, only their own frames are owed. -/
theorem OwnOnly.step
    {event : SessionEvent}
    (ownOnly : session.OwnOnly)
    (settled : session.CallsSettled event) :
    (session.step event).OwnOnly := by
  intro runs traced isOwed
  cases begins : isCall event with
  | false =>
      have runsBefore : session.running ≠ none := by
        intro idle
        exact runs (running_step begins idle)
      rcases command_of_owed_step isOwed with
        isNewest | ⟨older, wasOwed, same⟩
      · exact isNewest
      · rw [begun_step begins, ← same]
        exact ownOnly runsBefore older wasOwed
  | true =>
      cases event with
      | call command =>
          cases isRunning : session.running with
          | some running =>
              have same : session.step (.call command) = session := by
                rw [HostSession.step, HostSession.call, isRunning]
              rw [same] at isOwed ⊢
              exact ownOnly (by rw [isRunning]; nofun) traced isOwed
          | none =>
              rcases command_of_owed_step isOwed with
                isNewest | ⟨older, wasOwed, -⟩
              · exact isNewest
              · rw [settled isRunning] at wasOwed
                cases wasOwed
      | answer | arrive | recvFrame | timeout => cases begins

/-- A step keeps the answers apart exactly when what it takes is settled. -/
theorem Correlated.step_iff
    (ordered : session.Ordered)
    (correlated : session.Correlated)
    (event : SessionEvent) :
    (session.step event).Correlated ↔ session.Settled event := by
  have changes := session.step_changes event
  generalize session.step event = next at changes ⊢
  cases changes with
  | nothing quiet =>
      refine iff_of_true correlated ?_
      cases event with
      | recvFrame =>
          intro interprets
          rw [quiet rfl] at interprets
          cases interprets
      | call | answer | arrive | timeout => trivial
  | called | answered | lost | arrived | resent | failed =>
      exact iff_of_true correlated trivial
  | took runs oldest logged =>
      rw [Settled, Correlated, logged]
      cases session.interprets with
      | false =>
          exact iff_of_true correlated nofun
      | true =>
          have newest := ordered.oldest_iff oldest
          rw [if_pos rfl]
          constructor
          · intro all _
            exact newest.mp (all _ List.mem_cons_self)
          · intro settled taken member
            rcases List.mem_cons.mp member with rfl | earlier
            · exact newest.mpr (settled rfl)
            · exact correlated taken earlier

/-- What takes a frame runs. -/
theorem running_of_interprets
    (interprets : session.interprets = true) :
    session.running ≠ none := by
  intro idle
  rw [HostSession.interprets, idle] at interprets
  cases interprets

/-- While only its own frames are owed, what a command takes is settled. -/
theorem OwnOnly.settled
    (ownOnly : session.OwnOnly)
    (event : SessionEvent) :
    session.Settled event := by
  cases event with
  | recvFrame =>
      intro interprets
      exact ownOnly (running_of_interprets interprets)
  | call | answer | arrive | timeout => trivial

/-- What arrived is small enough for the reader. -/
def ArrivedSmall
    (session : HostSession) :
    Prop :=
  ∀ traced ∈ session.arrived,
    traced.frame.payload.length ≤ maxValidFramePayloadLen

/-- Frames that are too large never arrive. -/
theorem ArrivedSmall.step
    (small : session.ArrivedSmall)
    (event : SessionEvent) :
    (session.step event).ArrivedSmall := by
  have changes := session.step_changes event
  generalize session.step event = next at changes ⊢
  cases changes with
  | nothing | called | answered | lost | failed => exact small
  | arrived oldest fits =>
      intro traced member
      rcases List.mem_append.mp member with before | isNew
      · exact small traced before
      · rw [List.mem_singleton.mp isNew]
        exact fits
  | took runs oldest =>
      intro traced member
      refine small traced ?_
      rw [oldest]
      exact List.mem_cons_of_mem _ member
  | resent => exact nofun

end Order

theorem ordered_fresh :
    fresh.Ordered where
  byAge := List.Pairwise.nil
  none_later := nofun

theorem correlated_fresh :
    fresh.Correlated :=
  nofun

end HostSession

open HostSession

/--
Over all runs, every frame that a command takes for its answer was sent for that
command exactly when, whenever one is taken, no answer to an earlier command is
owed.
-/
theorem session_correlated_iff
    (events : List SessionEvent) :
    Always HostSession.step Correlated fresh events ↔
      Along HostSession.step Settled fresh events :=
  always_iff_along_invariant
    (fun _ event ordered => ordered.step event)
    (fun _ event ordered correlated => correlated.step_iff ordered event)
    ordered_fresh correlated_fresh

/--
Whatever the chunks that carry what arrived, the reader returns it frame by frame:
its next call returns the oldest frame and leaves the others for later calls.
-/
theorem reader_returns_arrived
    {events : List SessionEvent}
    {link : Resync.Link UInt8}
    {traced : TracedFrame}
    {arrived : List TracedFrame}
    (oldest :
      (run HostSession.step fresh events).arrived = traced :: arrived)
    (carries :
      link.stream =
        LineItem.stream
          ((traced :: arrived).map fun sent => .frame sent.frame)) :
    ∃ turns next,
      recvFrame turns link = (some (.ok traced.frame), next) ∧
        Resync.Delivers recvPass next
          (arrived.map fun sent => .ok sent.frame) := by
  have always : Always HostSession.step ArrivedSmall fresh events :=
    always_of_invariant (fun _ event small => small.step event) nofun events
  have small := always.last
  rw [ArrivedSmall, oldest] at small
  have isLine :
      link.stream =
        LineItem.stream
          (((traced :: arrived).map (·.frame)).map .frame) := by
    rw [carries, List.map_map]
    rfl
  have smallEach :
      ∀ sent ∈ (traced :: arrived).map (·.frame),
        sent.payload.length ≤ maxValidFramePayloadLen := by
    intro sent member
    obtain ⟨found, isFound, rfl⟩ := List.mem_map.mp member
    exact small found isFound
  have delivers := (delivers_frames_iff isLine).mpr smallEach
  rw [List.map_map, List.map_cons] at delivers
  cases delivers with
  | frame turns received later => exact ⟨turns, _, received, later⟩

/--
A session whose commands begin when nothing is owed takes only their own answers,
however often they send their frames.
-/
theorem correlated_of_callsSettled
    {events : List SessionEvent}
    (settled : Along HostSession.step CallsSettled fresh events) :
    Always HostSession.step Correlated fresh events := by
  have initially :
      fresh.Ordered ∧ fresh.Correlated ∧ fresh.OwnOnly :=
    ⟨ordered_fresh, correlated_fresh, nofun⟩
  have always :
      Always HostSession.step
        (fun session =>
          session.Ordered ∧ session.Correlated ∧ session.OwnOnly)
        fresh events := by
    refine always_of_along ?_ initially settled
    rintro session event ⟨ordered, correlated, ownOnly⟩ isSettled
    exact
      ⟨ordered.step event,
        (correlated.step_iff ordered event).mpr (ownOnly.settled event),
        ownOnly.step isSettled⟩
  exact always.mono fun _ good => good.2.1

/-- A command is answered once, and reads the whole answer in time. -/
def promptRun
    (command : SessionCommand)
    (frames : List HostFrame) :
    List SessionEvent :=
  .call command :: .answer frames ::
    ((frames.map fun _ => .arrive) ++ frames.map fun _ => .recvFrame)

section Prompt

variable {session : HostSession}

/-- Small frames on the wire arrive one by one. -/
theorem run_arrive
    {frames : List TracedFrame}
    (onWire : session.onWire = frames)
    (small :
      ∀ traced ∈ frames,
        traced.frame.payload.length ≤ maxValidFramePayloadLen) :
    run HostSession.step session (frames.map fun _ => .arrive) =
      { session with
        onWire := []
        arrived := session.arrived ++ frames } := by
  induction frames generalizing session with
  | nil =>
      obtain ⟨begun, running, requests, wire, arrived, interpreted⟩ := session
      subst onWire
      rw [List.append_nil]
      rfl
  | cons first rest inductionHypothesis =>
      have isSmall :=
        Nat.not_lt_of_le (small first List.mem_cons_self)
      have arrives :
          session.step .arrive =
            { session with
              onWire := rest
              arrived := session.arrived ++ [first] } := by
        rw [HostSession.step, HostSession.arrive, onWire]
        exact if_neg isSmall
      rw [List.map_cons, run_cons, arrives,
        inductionHypothesis rfl fun other member =>
          small other (List.mem_cons_of_mem first member)]
      simp

/-- A frame that does not end a command leaves it waiting for the next. -/
theorem recvFrame_readsOn
    {running : RunningCommand}
    {progress : Progress}
    {first : TracedFrame}
    {rest : List TracedFrame}
    (isRunning : session.running = some running)
    (arrived : session.arrived = first :: rest)
    (reaction :
      running.command.onFrame running.progress first.frame =
          .reads progress ∨
        running.command.onFrame running.progress first.frame =
          .skips progress) :
    ∃ interpreted,
      session.step .recvFrame =
        { session with
          running :=
            some { running with progress := progress, retrying := false }
          arrived := rest
          interpreted := interpreted } := by
  rw [HostSession.step, HostSession.recvFrame, isRunning, arrived]
  rcases reaction with reads | skips
  · simp only [reads]
    exact ⟨_, rfl⟩
  · simp only [skips]
    exact ⟨_, rfl⟩

/-- A command that consumes what arrived leaves nothing of it. -/
theorem run_recvFrame
    {running : RunningCommand}
    {frames : List TracedFrame}
    (isRunning : session.running = some running)
    (arrived : session.arrived = frames)
    (consumes :
      running.command.Consumes running.progress (frames.map (·.frame))) :
    ∃ interpreted,
      run HostSession.step session (frames.map fun _ => .recvFrame) =
        { session with
          running := none
          arrived := []
          interpreted := interpreted } := by
  induction frames generalizing session running with
  | nil =>
      cases consumes
  | cons first rest inductionHypothesis =>
      rw [List.map_cons, run_cons]
      rw [List.map_cons, SessionCommand.Consumes] at consumes
      cases reaction :
          running.command.onFrame running.progress first.frame with
      | finished =>
          rw [reaction] at consumes
          have noMore : rest = [] := List.map_eq_nil_iff.mp consumes
          subst noMore
          rw [HostSession.step, HostSession.recvFrame, isRunning, arrived]
          simp only [reaction]
          exact ⟨_, rfl⟩
      | reads progress =>
          rw [reaction] at consumes
          obtain ⟨interpreted, received⟩ :=
            recvFrame_readsOn isRunning arrived (.inl reaction)
          rw [received]
          exact inductionHypothesis rfl rfl consumes
      | skips progress =>
          rw [reaction] at consumes
          obtain ⟨interpreted, received⟩ :=
            recvFrame_readsOn isRunning arrived (.inr reaction)
          rw [received]
          exact inductionHypothesis rfl rfl consumes

/-- A prompt command leaves the session idle and nothing owed. -/
theorem run_promptRun
    {command : SessionCommand}
    {frames : List HostFrame}
    (idle : session.running = none)
    (nothing : session.owed = [])
    (consumes : command.Consumes .initial frames)
    (small :
      ∀ frame ∈ frames,
        frame.payload.length ≤ maxValidFramePayloadLen) :
    (run HostSession.step session (promptRun command frames)).running =
        none ∧
      (run HostSession.step session (promptRun command frames)).owed =
        [] := by
  have nothingEach :
      session.arrived = [] ∧ session.onWire = [] ∧
        session.requests = [] := by
    simpa [owed, List.append_eq_nil_iff, and_assoc] using nothing
  obtain ⟨noArrived, noWire, noRequests⟩ := nothingEach
  let traced : List TracedFrame :=
    frames.map fun frame =>
      { command := session.begun + 1, frame := frame }
  let answered : HostSession :=
    { session with
      begun := session.begun + 1
      running :=
        some
          { command := command
            progress := .initial
            retrying := true }
      onWire := traced }
  have isAnswered :
      (session.step (.call command)).step (.answer frames) = answered := by
    simp [HostSession.step, HostSession.call, HostSession.answer, idle,
      sendFrame, noRequests, noWire, answered, traced]
  have sameArrivals :
      (frames.map fun _ => SessionEvent.arrive) =
        traced.map fun _ => SessionEvent.arrive := by
    rw [List.map_map]
    rfl
  have sameReceptions :
      (frames.map fun _ => SessionEvent.recvFrame) =
        traced.map fun _ => SessionEvent.recvFrame := by
    rw [List.map_map]
    rfl
  have smallEach :
      ∀ sent ∈ traced,
        sent.frame.payload.length ≤ maxValidFramePayloadLen := by
    intro sent member
    obtain ⟨frame, isFrame, rfl⟩ := List.mem_map.mp member
    exact small frame isFrame
  have onWire : answered.onWire = traced := rfl
  have arrives := run_arrive onWire smallEach
  let waiting : HostSession :=
    { answered with
      onWire := []
      arrived := answered.arrived ++ traced }
  have allArrived : waiting.arrived = traced := by
    simp [waiting, answered, noArrived]
  have consumesEach :
      command.Consumes .initial (traced.map (·.frame)) := by
    rw [List.map_map]
    simpa [Function.comp_def] using consumes
  have isRunning :
      waiting.running =
        some
          { command := command
            progress := .initial
            retrying := true } := rfl
  obtain ⟨interpreted, receives⟩ :=
    run_recvFrame isRunning allArrived consumesEach
  rw [promptRun, run_cons, run_cons, isAnswered, run_append, sameArrivals,
    sameReceptions, arrives, receives]
  refine ⟨rfl, ?_⟩
  simp [owed, waiting, answered, noRequests]

/-- Without calls there is nothing to settle. -/
theorem callsSettled_of_no_calls
    {events : List SessionEvent}
    (noCalls : ∀ event ∈ events, isCall event = false)
    (session : HostSession) :
    Along HostSession.step CallsSettled session events := by
  induction events generalizing session with
  | nil =>
      trivial
  | cons event rest inductionHypothesis =>
      refine ⟨?_, inductionHypothesis (fun other member =>
        noCalls other (List.mem_cons_of_mem event member)) _⟩
      have noCall := noCalls event List.mem_cons_self
      cases event with
      | call => cases noCall
      | answer | arrive | recvFrame | timeout => trivial

/-- Prompt commands, one after the other, each begin when nothing is owed. -/
theorem callsSettled_promptRuns
    {calls : List (SessionCommand × List HostFrame)}
    (idle : session.running = none)
    (nothing : session.owed = [])
    (consumed : ∀ call ∈ calls, call.1.Consumes .initial call.2)
    (small :
      ∀ call ∈ calls, ∀ frame ∈ call.2,
        frame.payload.length ≤ maxValidFramePayloadLen) :
    Along HostSession.step CallsSettled session
      (calls.flatMap fun call => promptRun call.1 call.2) := by
  induction calls generalizing session with
  | nil =>
      trivial
  | cons call rest inductionHypothesis =>
      have settles :=
        run_promptRun idle nothing (consumed call List.mem_cons_self)
          (small call List.mem_cons_self)
      rw [List.flatMap_cons, along_append]
      refine ⟨⟨fun _ => nothing, trivial, ?_⟩, ?_⟩
      · apply callsSettled_of_no_calls
        intro event member
        rcases List.mem_append.mp member with arrival | reception
        · obtain ⟨_, _, rfl⟩ := List.mem_map.mp arrival
          rfl
        · obtain ⟨_, _, rfl⟩ := List.mem_map.mp reception
          rfl
      · exact
          inductionHypothesis settles.1 settles.2
            (fun other member =>
              consumed other (List.mem_cons_of_mem call member))
            fun other member =>
              small other (List.mem_cons_of_mem call member)

end Prompt

/-- A session of prompt commands takes only their own answers. -/
theorem correlated_of_prompt
    {calls : List (SessionCommand × List HostFrame)}
    (consumed : ∀ call ∈ calls, call.1.Consumes .initial call.2)
    (small :
      ∀ call ∈ calls, ∀ frame ∈ call.2,
        frame.payload.length ≤ maxValidFramePayloadLen) :
    Always HostSession.step Correlated fresh
      (calls.flatMap fun call => promptRun call.1 call.2) :=
  correlated_of_callsSettled
    (callsSettled_promptRuns rfl rfl consumed small)

/-- What the device answers to a query for a listing is read to its end. -/
theorem consumes_readback
    (crypto : Crypto)
    (stores : AdminStores)
    (listing : Listing) :
    (SessionCommand.list listing).Consumes .initial
      (listing.answer (listing.entries (stores.readback crypto))) :=
  SessionCommand.consumes_answer
    (listing.decodes_entries crypto stores) .initial

/--
The answer to the PIN's first frame comes after the frame was sent again.  The
session takes it, and takes the answer to the second frame for the answer to the
commit.
-/
def lateAnswer : List SessionEvent :=
  [.call (.setPin [0x04, 0x34, 0x37, 0x31, 0x31]),
    .timeout false,
    .answer [{ frameType := 0x80, payload := [] }],
    .answer [{ frameType := 0x80, payload := [] }],
    .arrive,
    .recvFrame,
    .call .commit,
    .arrive,
    .recvFrame]

/-- The commit is answered by what was sent for the PIN. -/
theorem lateAnswer_not_correlated :
    ¬ Always HostSession.step Correlated fresh lateAnswer := by
  intro always
  have last : (run HostSession.step fresh lateAnswer).Correlated :=
    always.last
  have commit :
      (2, { command := 1, frame := { frameType := 0x80, payload := [] } }) ∈
        (run HostSession.step fresh lateAnswer).interpreted := by
    decide
  exact absurd (last _ commit) (by decide)

end MeshCadet
