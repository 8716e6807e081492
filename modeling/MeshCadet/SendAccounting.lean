import Mathlib.Algebra.Group.Nat.Defs
import Mathlib.Data.List.Count
import Mathlib.Data.List.Nodup
import MeshCadet.OutstandingSends
import MeshCadet.Transition

namespace MeshCadet

/-!
# Accounting for the outstanding sends

The owner of the table inserts sends, resolves acknowledgements, reports dropped
frames and sweeps.  A ledger beside the table records what was inserted, every
way out of the table and every retry the owner agreed to.  Sends with different
acknowledgement hashes never get mixed up, so each of them is in the table or
left it once, and its retries are those of an unchanged frame.
-/

open OutstandingSends SlotTable

/-- The operations of the table, as its owner calls them. -/
inductive SendOperation (σ : Type) where
  | insert (send : OutstandingSend)
  | resolve (ackHash : AckHash)
  | resolveEvicted (tag : Option AckHash)
  | sweepExpired (now : Nat) (retryIf : σ → OutstandingSend → σ × Bool)

/-- A retry the owner agreed to: when, and the send it was shown. -/
structure Retry where
  now : Nat
  send : OutstandingSend
deriving Repr, DecidableEq

/--
The table, its owner's state and what became of the sends; the inserted sends
are listed newest first.
-/
structure SendLedger (σ : Type) where
  table : OutstandingSends
  owner : σ
  inserted : List OutstandingSend
  resolved : List (AckHash × OutstandingSend)
  evicted : List OutstandingSend
  undelivered : List OutstandingSend
  retries : List Retry

namespace SendLedger

variable {σ : Type}

/-- An empty table and nothing recorded. -/
def start
    (owner : σ) :
    SendLedger σ :=
  { table := OutstandingSends.new
    owner := owner
    inserted := []
    resolved := []
    evicted := []
    undelivered := []
    retries := [] }

/-- The owner's decision, with the retries it agrees to recorded. -/
def recordRetries
    (now : Nat)
    (retryIf : σ → OutstandingSend → σ × Bool)
    (current : σ × List Retry)
    (send : OutstandingSend) :
    (σ × List Retry) × Bool :=
  let (owner, retried) := retryIf current.1 send
  ((owner,
      if retried then
        current.2 ++ [{ now := now, send := send }]
      else
        current.2),
    retried)

/-- Record what an acknowledgement hash resolved. -/
def resolveHash
    (ledger : SendLedger σ)
    (ackHash : AckHash) :
    SendLedger σ :=
  let (table, taken) := ledger.table.resolve ackHash
  { ledger with
    table := table
    resolved := ledger.resolved ++ taken.toList.map fun send => (ackHash, send) }

/-- One operation on the table. -/
def step
    (ledger : SendLedger σ) :
    SendOperation σ → SendLedger σ
  | .insert send =>
      let (table, evicted) := ledger.table.insert send
      { ledger with
        table := table
        inserted := send :: ledger.inserted
        evicted := ledger.evicted ++ evicted.toList }
  | .resolve ackHash =>
      ledger.resolveHash ackHash
  | .resolveEvicted tag =>
      let (table, taken) := ledger.table.resolveEvicted tag
      { ledger with
        table := table
        resolved :=
          ledger.resolved ++
            tag.toList.flatMap fun ackHash =>
              taken.toList.map fun send => (ackHash, send) }
  | .sweepExpired now retryIf =>
      let (table, (owner, retries), undelivered) :=
        ledger.table.sweepExpired now (recordRetries now retryIf)
          (ledger.owner, ledger.retries)
      { ledger with
        table := table
        owner := owner
        undelivered := ledger.undelivered ++ undelivered
        retries := retries }

/-- The sends an operation inserts. -/
def insertion :
    SendOperation σ → Option OutstandingSend
  | .insert send => some send
  | _ => none

/-- The sends a run inserts. -/
def insertions
    (operations : List (SendOperation σ)) :
    List OutstandingSend :=
  operations.filterMap insertion

/-- The sends that left the table. -/
def departed
    (ledger : SendLedger σ) :
    List OutstandingSend :=
  ledger.resolved.map Prod.snd ++ ledger.evicted ++ ledger.undelivered

/-- The retries of one send. -/
def retriesOf
    (retries : List Retry)
    (ackHash : AckHash) :
    List Retry :=
  retries.filter (·.send.ackHash == ackHash)

/-- Reporting a dropped frame resolves its hash. -/
theorem step_resolveEvicted
    (ledger : SendLedger σ)
    (tag : Option AckHash) :
    ledger.step (.resolveEvicted tag) =
      match tag with
      | some ackHash => ledger.resolveHash ackHash
      | none => ledger := by
  cases tag with
  | none =>
      simp [step, OutstandingSends.resolveEvicted]
  | some ackHash =>
      simp [step, resolveHash, OutstandingSends.resolveEvicted]

end SendLedger

/-- The send after these retries. -/
def OutstandingSend.after
    (send : OutstandingSend)
    (retries : List Retry) :
    OutstandingSend :=
  retries.foldl (fun current retry => current.retriedAt retry.now) send

/--
Every retry shows the send as the earlier ones left it, no earlier than its
deadline at that time and with retries left.
-/
def InTurn :
    OutstandingSend → List Retry → Prop
  | _, [] =>
      True
  | send, retry :: rest =>
      retry.send = send ∧
        send.deadlineMs ≤ retry.now ∧
        send.attempts < maxSendRetries ∧
        InTurn (send.retriedAt retry.now) rest

namespace InTurn

theorem after_snoc
    (send : OutstandingSend)
    (retries : List Retry)
    (last : Retry) :
    send.after (retries ++ [last]) =
      (send.after retries).retriedAt last.now := by
  simp [OutstandingSend.after]

/-- Retries change neither the hash nor the kind nor the frame. -/
theorem after_same
    (send : OutstandingSend)
    (retries : List Retry) :
    (send.after retries).ackHash = send.ackHash ∧
      (send.after retries).kind = send.kind ∧
      (send.after retries).frame = send.frame ∧
      (send.after retries).sentAtMs = send.sentAtMs ∧
      (send.after retries).attempts =
        send.attempts + retries.length := by
  induction retries generalizing send with
  | nil =>
      simp [OutstandingSend.after]
  | cons retry rest inductionHypothesis =>
      obtain ⟨sameHash, sameKind, sameFrame, sameTime, attempts⟩ :=
        inductionHypothesis (send.retriedAt retry.now)
      refine ⟨sameHash, sameKind, sameFrame, sameTime, ?_⟩
      change (send.after (retry :: rest)).attempts =
        (send.attempts + 1) + rest.length at attempts
      rw [attempts, List.length_cons]
      omega

/-- One more retry follows the others. -/
theorem snoc
    {send : OutstandingSend}
    {retries : List Retry}
    (inTurn : InTurn send retries)
    {now : Nat}
    (due : (send.after retries).deadlineMs ≤ now)
    (left : (send.after retries).attempts < maxSendRetries) :
    InTurn send
      (retries ++ [{ now := now, send := send.after retries }]) := by
  induction retries generalizing send with
  | nil =>
      exact ⟨rfl, due, left, trivial⟩
  | cons retry rest inductionHypothesis =>
      obtain ⟨shown, wasDue, wasLeft, restInTurn⟩ := inTurn
      exact ⟨shown, wasDue, wasLeft,
        inductionHypothesis restInTurn due left⟩

/-- A send is retried at most twice. -/
theorem length_le
    {send : OutstandingSend}
    {retries : List Retry}
    (inTurn : InTurn send retries) :
    retries.length ≤ maxSendRetries - send.attempts := by
  induction retries generalizing send with
  | nil =>
      simp
  | cons retry rest inductionHypothesis =>
      obtain ⟨-, -, left, restInTurn⟩ := inTurn
      have bounded := inductionHypothesis restInTurn
      change rest.length ≤ maxSendRetries - (send.attempts + 1) at bounded
      rw [List.length_cons]
      omega

/-- Every retry shows the send with its hash, kind and frame. -/
theorem shows_same
    {send : OutstandingSend}
    {retries : List Retry}
    (inTurn : InTurn send retries) :
    ∀ retry ∈ retries,
      retry.send.ackHash = send.ackHash ∧
        retry.send.kind = send.kind ∧
        retry.send.frame = send.frame ∧
        retry.send.deadlineMs ≤ retry.now := by
  induction retries generalizing send with
  | nil =>
      simp
  | cons first rest inductionHypothesis =>
      obtain ⟨rfl, due, -, restInTurn⟩ := inTurn
      intro retry member
      rcases List.mem_cons.mp member with rfl | inRest
      · exact ⟨rfl, rfl, rfl, due⟩
      · exact inductionHypothesis restInTurn retry inRest

end InTurn

namespace SendLedger

variable {σ : Type}

/--
The sends known now are the inserted ones, each as its retries left it, and no
other send was retried.
-/
structure Follows
    (inserted known : List OutstandingSend)
    (retries : List Retry) :
    Prop where
  hashes :
    (known.map OutstandingSend.ackHash).Perm
      (inserted.map OutstandingSend.ackHash)
  retried :
    ∀ send ∈ known,
      ∃ original ∈ inserted,
        original.ackHash = send.ackHash ∧
          InTurn original (retriesOf retries original.ackHash) ∧
          send = original.after (retriesOf retries original.ackHash)
  inserted :
    ∀ retry ∈ retries,
      retry.send.ackHash ∈ inserted.map OutstandingSend.ackHash

namespace Follows

variable
    {inserted known : List OutstandingSend}
    {retries : List Retry}

/-- The order in which the sends are known does not matter. -/
theorem perm
    (follows : Follows inserted known retries)
    {others : List OutstandingSend}
    (same : others.Perm known) :
    Follows inserted others retries :=
  ⟨(same.map _).trans follows.hashes,
    fun send member => follows.retried send (same.mem_iff.mp member),
    follows.inserted⟩

/-- A send with a hash not seen before is known as it was inserted. -/
theorem insert
    (follows : Follows inserted known retries)
    {send : OutstandingSend}
    (fresh : send.ackHash ∉ inserted.map OutstandingSend.ackHash) :
    Follows (send :: inserted) (send :: known) retries := by
  have notRetried : retriesOf retries send.ackHash = [] := by
    rw [retriesOf, List.filter_eq_nil_iff]
    intro retry member same
    have isInserted := follows.inserted retry member
    rw [beq_iff_eq.mp same] at isInserted
    exact fresh isInserted
  constructor
  · exact follows.hashes.cons _
  · intro other member
    rcases List.mem_cons.mp member with rfl | isKnown
    · refine ⟨other, by simp, rfl, ?_, ?_⟩
      · rw [notRetried]
        trivial
      · rw [notRetried]
        rfl
    · obtain ⟨original, isInserted, rest⟩ := follows.retried other isKnown
      exact ⟨original, List.mem_cons_of_mem _ isInserted, rest⟩
  · intro retry member
    exact List.mem_cons_of_mem _ (follows.inserted retry member)

/-- A due send with retries left may be retried. -/
theorem retry
    {send : OutstandingSend}
    (follows : Follows inserted (send :: known) retries)
    (distinct : (inserted.map OutstandingSend.ackHash).Nodup)
    {now : Nat}
    (due : send.deadlineMs ≤ now)
    (left : send.attempts < maxSendRetries) :
    Follows inserted (send.retriedAt now :: known)
      (retries ++ [{ now := now, send := send }]) := by
  have knownDistinct : (send.ackHash ::
      known.map OutstandingSend.ackHash).Nodup :=
    follows.hashes.nodup_iff.mpr distinct
  constructor
  · exact follows.hashes
  · intro other member
    rcases List.mem_cons.mp member with rfl | isKnown
    · obtain ⟨original, isInserted, sameHash, inTurn, current⟩ :=
        follows.retried send (by simp)
      have extended :
          retriesOf (retries ++ [{ now := now, send := send }])
              original.ackHash =
            retriesOf retries original.ackHash ++
              [{ now := now, send := send }] := by
        simp [retriesOf, sameHash]
      have oneMore :=
        inTurn.snoc (current ▸ due) (current ▸ left)
      rw [← current] at oneMore
      refine ⟨original, isInserted, sameHash, ?_, ?_⟩
      · rwa [extended]
      · rw [extended, InTurn.after_snoc, ← current]
    · obtain ⟨original, isInserted, sameHash, rest⟩ :=
        follows.retried other (List.mem_cons_of_mem _ isKnown)
      have apart : send.ackHash ≠ original.ackHash := by
        intro same
        apply (List.nodup_cons.mp knownDistinct).1
        rw [same, sameHash]
        exact List.mem_map_of_mem isKnown
      have unchanged :
          retriesOf (retries ++ [{ now := now, send := send }])
              original.ackHash =
            retriesOf retries original.ackHash := by
        simp [retriesOf, apart]
      refine ⟨original, isInserted, sameHash, ?_⟩
      rwa [unchanged]
  · intro other member
    rcases List.mem_append.mp member with isRetry | isLast
    · exact follows.inserted other isRetry
    · obtain rfl := List.mem_singleton.mp isLast
      exact follows.hashes.mem_iff.mp (by simp)

/-- The visits of a sweep keep every send known. -/
theorem sweepExpired
    {table : OutstandingSends}
    {elsewhere : List OutstandingSend}
    (follows : Follows inserted (elsewhere ++ table.sends) retries)
    (distinct : (inserted.map OutstandingSend.ackHash).Nodup)
    (now : Nat)
    (retryIf : σ → OutstandingSend → σ × Bool)
    (owner : σ) :
    Follows inserted
      (elsewhere ++
        (table.sweepExpired now (recordRetries now retryIf)
          (owner, retries)).2.2 ++
        (table.sweepExpired now (recordRetries now retryIf)
          (owner, retries)).1.sends)
      (table.sweepExpired now (recordRetries now retryIf)
        (owner, retries)).2.1.2 := by
  have swept :=
    @sweep_invariant _ _
      (sweepVisit now (recordRetries now retryIf))
      (fun (state : (σ × List Retry) × List OutstandingSend)
          (sends : List OutstandingSend) =>
        Follows inserted (elsewhere ++ state.2 ++ sends) state.1.2)
      ?_ ((owner, retries), []) table.slots
      (by simpa [OutstandingSends.sends] using follows)
  · exact swept
  · rintro ⟨⟨currentOwner, recorded⟩, givenUp⟩ kept send rest holds
    have sendFirst :
        Follows inserted
          (send :: (elsewhere ++ givenUp ++ (kept ++ rest))) recorded :=
      holds.perm
        (by simpa using (@List.perm_middle _ send
          (elsewhere ++ givenUp ++ kept) rest).symm)
    by_cases waiting : now < send.deadlineMs
    · simpa [sweepVisit, waiting] using holds
    have due : send.deadlineMs ≤ now := Nat.le_of_not_lt waiting
    by_cases left : send.attempts < maxSendRetries
    · cases agreed : (retryIf currentOwner send).2 with
      | true =>
          have again := sendFirst.retry distinct due left
          simpa [sweepVisit, recordRetries, waiting, left, agreed]
            using again.perm
              (@List.perm_middle _ (send.retriedAt now)
                (elsewhere ++ givenUp ++ kept) rest |>.trans
                (by simp))
      | false =>
          simpa [sweepVisit, recordRetries, waiting, left, agreed]
            using sendFirst.perm
              (@List.perm_middle _ send (elsewhere ++ givenUp)
                (kept ++ rest))
    · simpa [sweepVisit, recordRetries, waiting, left]
        using sendFirst.perm
          (@List.perm_middle _ send (elsewhere ++ givenUp)
            (kept ++ rest))

end Follows

/-- Every inserted send is in the table or left it, once. -/
structure Accounted
    (ledger : SendLedger σ) :
    Prop where
  distinct :
    (ledger.inserted.map OutstandingSend.ackHash).Nodup
  follows :
    Follows ledger.inserted (ledger.departed ++ ledger.table.sends)
      ledger.retries
  own :
    ∀ entry ∈ ledger.resolved,
      entry.2.ackHash = entry.1

/-- An operation inserts no hash that was inserted before. -/
def Fresh
    (ledger : SendLedger σ)
    (operation : SendOperation σ) :
    Prop :=
  ∀ ackHash,
    (insertion operation).map OutstandingSend.ackHash = some ackHash →
      ackHash ∉ ledger.inserted.map OutstandingSend.ackHash

theorem accounted_start
    (owner : σ) :
    (start owner).Accounted :=
  { distinct := List.nodup_nil
    follows :=
      { hashes := by simp [start, departed]
        retried := by simp [start, departed]
        inserted := by simp [start] }
    own := by simp [start] }

namespace Accounted

variable {ledger : SendLedger σ}

theorem resolveHash
    (accounted : ledger.Accounted)
    (ackHash : AckHash) :
    (ledger.resolveHash ackHash).Accounted := by
  have found := (ledger.table.resolve_eq ackHash).2
  have exchanged := ledger.table.resolve_sends ackHash
  refine ⟨accounted.distinct, ?_, ?_⟩
  · apply accounted.follows.perm
    rw [List.perm_iff_count]
    intro send
    have counted := exchanged.count_eq send
    simp only [SendLedger.resolveHash, departed, List.count_append,
      List.map_append, List.map_map, Function.comp_def, List.map_id']
      at counted ⊢
    omega
  · intro entry member
    rcases List.mem_append.mp member with earlier | isTaken
    · exact accounted.own entry earlier
    · obtain ⟨send, isSend, rfl⟩ := List.mem_map.mp isTaken
      have taken : (ledger.table.resolve ackHash).2 = some send :=
        Option.mem_toList.mp isSend
      rw [found] at taken
      simpa using List.find?_some taken

theorem insert
    (accounted : ledger.Accounted)
    {send : OutstandingSend}
    (fresh : send.ackHash ∉
      ledger.inserted.map OutstandingSend.ackHash) :
    (ledger.step (.insert send)).Accounted := by
  refine
    ⟨List.nodup_cons.mpr ⟨fresh, accounted.distinct⟩, ?_, accounted.own⟩
  apply (accounted.follows.insert fresh).perm
  rw [List.perm_iff_count]
  intro other
  have counted := (ledger.table.insert_sends send).count_eq other
  simp only [step, departed, List.count_append, List.count_cons]
    at counted ⊢
  omega

theorem sweepExpired
    (accounted : ledger.Accounted)
    (now : Nat)
    (retryIf : σ → OutstandingSend → σ × Bool) :
    (ledger.step (.sweepExpired now retryIf)).Accounted := by
  have swept :=
    accounted.follows.sweepExpired accounted.distinct now retryIf
      ledger.owner
  refine ⟨accounted.distinct, ?_, accounted.own⟩
  simpa [step, departed] using swept

/-- Every operation with a new hash keeps the accounts. -/
theorem step
    (accounted : ledger.Accounted)
    {operation : SendOperation σ}
    (fresh : ledger.Fresh operation) :
    (ledger.step operation).Accounted := by
  cases operation with
  | insert send =>
      exact accounted.insert (fresh send.ackHash rfl)
  | resolve ackHash =>
      exact accounted.resolveHash ackHash
  | resolveEvicted tag =>
      rw [step_resolveEvicted]
      cases tag with
      | none =>
          exact accounted
      | some ackHash =>
          exact accounted.resolveHash ackHash
  | sweepExpired now retryIf =>
      exact accounted.sweepExpired now retryIf

end Accounted

theorem step_inserted
    (ledger : SendLedger σ)
    (operation : SendOperation σ) :
    (ledger.step operation).inserted =
      (insertion operation).toList ++ ledger.inserted := by
  cases operation with
  | insert send =>
      rfl
  | resolve ackHash =>
      rfl
  | resolveEvicted tag =>
      rw [step_resolveEvicted]
      cases tag <;> rfl
  | sweepExpired now retryIf =>
      rfl

/-- A run records its insertions, the newest first. -/
theorem run_inserted
    (ledger : SendLedger σ)
    (operations : List (SendOperation σ)) :
    (Transition.run SendLedger.step ledger operations).inserted =
      (insertions operations).reverse ++ ledger.inserted := by
  induction operations generalizing ledger with
  | nil =>
      rfl
  | cons operation rest inductionHypothesis =>
      rw [Transition.run_cons, inductionHypothesis, step_inserted]
      cases inserts : insertion operation <;>
        simp [insertions, inserts]

/-- Runs that insert different hashes keep the accounts. -/
theorem accounted_run
    (owner : σ)
    {operations : List (SendOperation σ)}
    (distinct :
      ((insertions operations).map OutstandingSend.ackHash).Nodup) :
    (Transition.run SendLedger.step (start owner) operations).Accounted := by
  have records :
      ∀ (ledger : SendLedger σ) (operation : SendOperation σ),
        (ledger.step operation).inserted.map OutstandingSend.ackHash =
          ((insertion operation).map OutstandingSend.ackHash).toList ++
            ledger.inserted.map OutstandingSend.ackHash := by
    intro ledger operation
    rw [step_inserted]
    cases insertion operation <;> rfl
  have fresh :=
    @Transition.along_fresh _ _ SendLedger.step AckHash
      (fun operation : SendOperation σ =>
        (insertion operation).map OutstandingSend.ackHash)
      (fun ledger => ledger.inserted.map OutstandingSend.ackHash)
      records (start owner) operations
      (by simpa [start, insertions, List.map_filterMap] using distinct)
  exact
    (@Transition.always_of_along _ _ SendLedger.step Accounted Fresh
      (fun _ _ accounted isFresh => accounted.step isFresh) _ _
      (accounted_start owner) fresh).last

/--
In every run with different hashes each inserted send was resolved by its own
hash, evicted, given up or is still in the table, exactly one of them and once;
it was retried at most twice, each time when its deadline at that time had
passed and with the frame it was inserted with; and a full table evicts a send
with the lowest sending time.
-/
theorem every_send_is_accounted_for
    (owner : σ)
    (operations : List (SendOperation σ))
    (distinct :
      ((insertions operations).map OutstandingSend.ackHash).Nodup)
    (representable :
      ∀ send ∈ insertions operations, send.sentAtMs < 2 ^ 64) :
    let ledger := Transition.run SendLedger.step (start owner) operations
    (∀ send ∈ insertions operations,
      (ledger.resolved.map (·.2.ackHash)).count send.ackHash +
            (ledger.evicted.map (·.ackHash)).count send.ackHash +
            (ledger.undelivered.map (·.ackHash)).count send.ackHash +
            (ledger.table.sends.map (·.ackHash)).count send.ackHash =
          1 ∧
        (retriesOf ledger.retries send.ackHash).length ≤ maxSendRetries ∧
        InTurn send (retriesOf ledger.retries send.ackHash) ∧
        ∀ retry ∈ ledger.retries,
          retry.send.ackHash = send.ackHash →
            retry.send.kind = send.kind ∧
              retry.send.frame = send.frame ∧
              retry.send.deadlineMs ≤ retry.now) ∧
      (∀ known ∈ ledger.departed ++ ledger.table.sends,
        ∃ send ∈ insertions operations,
          known = send.after (retriesOf ledger.retries send.ackHash)) ∧
      (∀ entry ∈ ledger.resolved, entry.2.ackHash = entry.1) ∧
      (∀ retry ∈ ledger.retries,
        ∃ send ∈ insertions operations,
          retry.send.ackHash = send.ackHash) ∧
      (ledger.table.sends.length = maxOutstandingSends →
        ∀ newer,
          ∃ evicted ∈ ledger.table.sends,
            (ledger.table.insert newer).2 = some evicted ∧
              ∀ tracked ∈ ledger.table.sends,
                evicted.sentAtMs ≤ tracked.sentAtMs) := by
  intro ledger
  have accounted : ledger.Accounted := accounted_run owner distinct
  have isInserted :
      ∀ send, send ∈ ledger.inserted ↔ send ∈ insertions operations := by
    intro send
    have recorded : ledger.inserted = _ :=
      run_inserted (start owner) operations
    simp [recorded, start]
  have follows := accounted.follows
  have known :
      ∀ send ∈ ledger.departed ++ ledger.table.sends,
        ∃ original ∈ insertions operations,
          send = original.after
            (retriesOf ledger.retries original.ackHash) := by
    intro send member
    obtain ⟨original, wasInserted, -, -, current⟩ :=
      follows.retried send member
    exact ⟨original, (isInserted original).mp wasInserted, current⟩
  refine ⟨?_, known, accounted.own, ?_, ?_⟩
  · intro send member
    have wasInserted := (isInserted send).mpr member
    have once :
        ((ledger.departed ++ ledger.table.sends).map
          OutstandingSend.ackHash).count send.ackHash = 1 := by
      rw [follows.hashes.count_eq]
      exact List.count_eq_one_of_mem accounted.distinct
        (List.mem_map_of_mem wasInserted)
    have inTurn :
        InTurn send (retriesOf ledger.retries send.ackHash) := by
      have isKnown : send.ackHash ∈
          (ledger.departed ++ ledger.table.sends).map
            OutstandingSend.ackHash :=
        follows.hashes.mem_iff.mpr (List.mem_map_of_mem wasInserted)
      obtain ⟨current, isCurrent, sameHash⟩ := List.mem_map.mp isKnown
      obtain ⟨original, originalInserted, originalHash, inTurn, -⟩ :=
        follows.retried current isCurrent
      have sameSend : original = send :=
        List.inj_on_of_nodup_map accounted.distinct originalInserted
          wasInserted (originalHash.trans sameHash)
      rwa [sameSend] at inTurn
    refine ⟨?_, inTurn.length_le.trans (Nat.sub_le _ _), inTurn, ?_⟩
    · simpa [departed, List.count_append, Function.comp_def,
        Nat.add_assoc] using once
    · intro retry isRetry sameHash
      obtain ⟨-, sameKind, sameFrame, due⟩ :=
        inTurn.shows_same retry
          (List.mem_filter.mpr ⟨isRetry, beq_iff_eq.mpr sameHash⟩)
      exact ⟨sameKind, sameFrame, due⟩
  · intro retry isRetry
    obtain ⟨send, wasInserted, sameHash⟩ :=
      List.mem_map.mp (follows.inserted retry isRetry)
    exact ⟨send, (isInserted send).mp wasInserted, sameHash.symm⟩
  · intro full newer
    apply insert_of_full full
    intro tracked isTracked
    obtain ⟨original, wasInserted, current⟩ :=
      known tracked (List.mem_append_right _ isTracked)
    rw [current, (InTurn.after_same original _).2.2.2.1]
    exact representable original wasInserted

/-- A message that is retried twice and given up. -/
def givenUpSend : OutstandingSend :=
  OutstandingSend.new #v[65, 66, 67, 68] (.dm 7) 1000 [1, 2, 3]

/-- A room post whose acknowledgement arrives after one retry. -/
def acknowledgedSend : OutstandingSend :=
  OutstandingSend.new #v[69, 70, 71, 72] (.roomPost 9) 2000 [4, 5]

/-- A run in which the owner counts the retries it agrees to. -/
def sampleOperations : List (SendOperation Nat) :=
  [.insert givenUpSend,
    .insert acknowledgedSend,
    .sweepExpired 40000 fun agreed _ => (agreed + 1, true),
    .resolve acknowledgedSend.ackHash,
    .sweepExpired 200000 fun agreed _ => (agreed + 1, true),
    .sweepExpired 400000 fun agreed _ => (agreed + 1, true)]

theorem sampleSends_are_accounted_for :
    let ledger :=
      Transition.run SendLedger.step (start 0) sampleOperations
    ledger.undelivered.length = 1 ∧
      ledger.retries.length = 3 ∧
      (ledger.resolved.map (·.2.ackHash)).count givenUpSend.ackHash +
            (ledger.evicted.map (·.ackHash)).count givenUpSend.ackHash +
            (ledger.undelivered.map (·.ackHash)).count
              givenUpSend.ackHash +
            (ledger.table.sends.map (·.ackHash)).count
              givenUpSend.ackHash =
          1 ∧
        (retriesOf ledger.retries givenUpSend.ackHash).length ≤
          maxSendRetries :=
  have accounts :=
    every_send_is_accounted_for 0 sampleOperations (by decide) (by decide)
  ⟨by decide +kernel, by decide +kernel,
    (accounts.1 givenUpSend (by decide)).1,
    (accounts.1 givenUpSend (by decide)).2.1⟩

end SendLedger

end MeshCadet
