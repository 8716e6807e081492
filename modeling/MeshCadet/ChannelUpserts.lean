import MeshCadet.ConfigStore
import MeshCadet.PrimaryTable

namespace MeshCadet

/-!
# Two stores of channels

The device keeps channels in its configuration, and the tests of the protocol keep
them in a staging buffer.  Both are arrays with a counter, and both upsert by the
secret.  A staged channel has no length of its key, which an upsert does not look
at.
-/

open PrimaryTable

/-- What the configuration looks at in a channel. -/
def channelRules : Rules Channel Key where
  key := Channel.secret
  primary := Channel.primary
  demote := fun channel => { channel with primary := false }
  key_demote := fun _ => rfl
  primary_demote := fun _ => rfl

/-- A zeroed-out channel. -/
def Channel.null : Channel :=
  { secret := Vector.replicate 32 0
    keyLen := 32
    primary := false
    name := Vector.replicate 32 0
    nameLen := 0 }

/-- The channels of a configuration. -/
abbrev ChannelTable : Type :=
  Table Channel

/-- Insert or update a channel of the configuration. -/
def ChannelTable.upsertChannel :
    ChannelTable → Channel → Outcome Empty (ChannelTable × Except Full Placed) :=
  upsert channelRules maxChannels

/-- A channel in the staging buffer. -/
structure StagingChannel where
  secret : Key
  primary : Bool
  name : Vector UInt8 32
  nameLen : UInt8
deriving Repr, DecidableEq

/-- A zeroed-out staged channel. -/
def StagingChannel.null : StagingChannel :=
  { secret := Vector.replicate 32 0
    primary := false
    name := Vector.replicate 32 0
    nameLen := 0 }

/-- Maximum number of staged channels. -/
def maxStagingChannels : Nat :=
  8

/-- What the staging buffer looks at in a channel. -/
def stagingRules : Rules StagingChannel Key where
  key := StagingChannel.secret
  primary := StagingChannel.primary
  demote := fun channel => { channel with primary := false }
  key_demote := fun _ => rfl
  primary_demote := fun _ => rfl

/-- The channels of a staging buffer. -/
abbrev StagingTable : Type :=
  Table StagingChannel

/-- Insert or update a staged channel. -/
def StagingTable.upsertChannel :
    StagingTable → StagingChannel →
      Outcome Empty (StagingTable × Except Full Placed) :=
  upsert stagingRules maxStagingChannels

/-- A channel as it is staged. -/
def Channel.staged
    (channel : Channel) :
    StagingChannel :=
  { secret := channel.secret
    primary := channel.primary
    name := channel.name
    nameLen := channel.nameLen }

/-- The staging buffer sees of a channel what the configuration looks at. -/
theorem staged_sameView :
    SameView channelRules stagingRules Channel.staged where
  key := fun _ => rfl
  primary := fun _ => rfl
  demote := fun _ => rfl

/-- The outcome of an upsert of the configuration. -/
def Upsert.placed : Upsert → Placed
  | .updated => .updated
  | .added => .added

/-- The configuration upserts its list of channels as its array. -/
theorem place_upsertChannel
    (config : ProvisionedConfig)
    (channel : Channel) :
    place channelRules maxChannels config.channels.elements channel =
      match config.upsertChannel channel with
      | .ok (next, outcome) =>
          (next.channels.elements, .ok outcome.placed)
      | .error _ => (config.channels.elements, .error .listFull) := by
  have sameKey :
      channelRules.sameKey channel =
        fun other => other.secret == channel.secret := by
    funext other
    exact (beq_eq_decide _ _).symm
  have demoted :
      channelRules.demoteFor channel config.channels.elements =
        (if channel.primary then
          config.channels.map fun other => { other with primary := false }
        else config.channels).elements := by
    rw [Rules.demoteFor]
    change (if channel.primary then _ else _) = _
    split <;> rfl
  have found :
      config.channels.elements.any (channelRules.sameKey channel) =
        (config.channelFor? channel.secret).isSome := by
    rw [ProvisionedConfig.channelFor?, List.isSome_find?, sameKey]
  have length :
      (if channel.primary then
        config.channels.map fun other => { other with primary := false }
      else config.channels).elements.length =
        config.channels.elements.length := by
    rw [← demoted, length_demoteFor]
  unfold ProvisionedConfig.upsertChannel
  rw [place, found, demoted]
  generalize
    (if channel.primary then
      config.channels.map fun other => { other with primary := false }
    else config.channels) = others at length ⊢
  cases config.channelFor? channel.secret with
  | some known =>
      rw [Option.isSome_some, if_pos rfl, sameKey]
      rfl
  | none =>
      rw [Option.isSome_none, if_neg Bool.false_ne_true]
      have fits := config.channels.fits
      cases pushed : others.push? channel with
      | none =>
          have isFull := BoundedList.push?_eq_none_iff.mp pushed
          rw [if_pos (by omega)]
          simp only [pushed]
      | some next =>
          have appended := BoundedList.push?_eq_some_iff.mp pushed
          have bounded := next.fits
          rw [appended, List.length_append, List.length_singleton] at bounded
          rw [if_neg (by omega), ← appended]
          simp only [pushed]
          rfl

/-- What holds of both stores of channels after any upserts. -/
structure ChannelStores :
    Prop where
  config :
    ∀ calls,
      ∃ table results,
        SoundRun channelRules maxChannels Channel.null calls table results
  staging :
    ∀ calls,
      ∃ table results,
        SoundRun stagingRules maxStagingChannels StagingChannel.null calls
          table results
  same :
    ∀ calls,
      ∃ table staged results,
        SoundRun channelRules maxChannels Channel.null calls table results ∧
          SoundRun stagingRules maxStagingChannels StagingChannel.null
              (calls.map Channel.staged) staged results ∧
            staged.live = table.live.map Channel.staged

/--
Whatever channels are upserted, both stores stay sound, and the staging buffer
gives the results of the configuration and holds its channels.
-/
theorem channelStores :
    ChannelStores where
  config := exists_soundRun channelRules maxChannels Channel.null
  staging :=
    exists_soundRun stagingRules maxStagingChannels StagingChannel.null
  same := by
    intro calls
    obtain ⟨table, results, run⟩ :=
      exists_soundRun channelRules maxChannels Channel.null calls
    obtain ⟨staged, stagedResults, stagedRun⟩ :=
      exists_soundRun stagingRules maxStagingChannels StagingChannel.null
        (calls.map Channel.staged)
    obtain ⟨after, stagedAfter, both, isRun, isStaged, view⟩ :=
      staged_sameView.upserts (wellFormed_empty maxChannels Channel.null)
        (wellFormed_empty maxChannels StagingChannel.null) rfl calls
    have sameRun := run.isRun.symm.trans isRun
    have sameStaged := stagedRun.isRun.symm.trans isStaged
    cases sameRun
    cases sameStaged
    exact ⟨table, staged, results, run, stagedRun, view⟩

end MeshCadet
