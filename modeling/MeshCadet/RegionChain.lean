import MeshCadet.FailedPersists
import MeshCadet.Outcome

namespace MeshCadet

/-!
# From a region name to the boot-time scope

A region name is checked on the wire, stored as it was sent, and turned into a
key at the next boot.  The flash store is not part of the repository; what is
relied on is that it gives back what was last written.
-/

open Outcome

/-- Why a configured region gives no key. -/
inductive RegionScopeError where
  | name (problem : RegionNameError)
  | storeUnavailable
deriving Repr, DecidableEq

/-- The region scope of a boot. -/
inductive BootScope where
  | unscoped
  | scoped (key : Vector UInt8 16)
  | unusable (reason : RegionScopeError)
deriving Repr, DecidableEq

/-- What the flood frames of this boot are sent with. -/
def BootScope.regionScope : BootScope → RegionScope
  | .unscoped => .unscoped
  | .scoped key => .scoped key
  | .unusable _ => .unusable

/-- A name as it is handed to the store: zero-padded, with its length. -/
structure ValidatedRegionName where
  name : Vector UInt8 regionNameMax
  nameLen : UInt8
deriving Repr, DecidableEq

/-- Pad an accepted name. -/
def ValidatedRegionName.ofName
    (name : List UInt8) :
    ValidatedRegionName :=
  { name := Bytes.zeroPadded regionNameMax name
    nameLen := UInt8.ofNat name.length }

/--
Write the canonical name to the front of a buffer.  A name keeps its leading
`#`; a bare name gets one.
-/
def canonicalRegionName
    (name out : List UInt8) :
    Outcome RegionNameError (List UInt8 × Nat) :=
  match validateRegionName name with
  | .error problem => .failed problem
  | .ok _ =>
      if name.headD 0 = 0x23 then do
        let out ← write out 0 name
        pure (out, name.length)
      else do
        let out ← write out 0 [0x23]
        let out ← write out 1 name
        pure (out, 1 + name.length)

/-- The buffer that canonical names are written to. -/
def canonicalBuf : List UInt8 :=
  List.replicate (regionNameMax + 1) 0

/-- The canonical name a buffer was filled with. -/
def canonicalName
    (name : List UInt8) :
    Outcome RegionNameError (List UInt8) := do
  let (canonical, len) ← canonicalRegionName name canonicalBuf
  slice canonical 0 len

/-- The transport key of a region. -/
def regionKey
    (crypto : Crypto)
    (name : List UInt8) :
    Outcome RegionNameError (Vector UInt8 16) := do
  let canonical ← canonicalName name
  let digest := crypto.sha256 canonical
  arrayAt 16 digest.toList 0 16

namespace BootScope

/-- The scope of a name; no name is no region. -/
def fromName
    (crypto : Crypto)
    (name : List UInt8) :
    Outcome RegionNameError BootScope :=
  if name = [] then
    .value .unscoped
  else do
    let key ← regionKey crypto name
    pure (.scoped key)

/-- The scope of a stored name: one without a key makes the region unusable. -/
def fromStoredName
    (crypto : Crypto)
    (name : List UInt8) :
    Outcome Unit BootScope :=
  match fromName crypto name with
  | .value scope => .value scope
  | .failed problem => .value (.unusable (.name problem))
  | .panicked => .panicked

/-- The scope of what the store returned; `none` is a failed read. -/
def boot
    (crypto : Crypto)
    (storedName : Option (List UInt8)) :
    Outcome Unit BootScope :=
  match storedName with
  | some name => fromStoredName crypto name
  | none => .value (.unusable .storeUnavailable)

end BootScope

/--
The flash entry of the region name.  `none` is a flash error; a read is given
the size of its buffer and returns `some none` where nothing is stored.
-/
structure RegionNvs (Store : Type) where
  setBlob : Store → List UInt8 → Option Store
  remove : Store → Option Store
  getBlob : Store → Nat → Option (Option (List UInt8))

namespace RegionNvs

variable {Store : Type}

/-- A blob that was written is read back by a buffer it fits in. -/
def KeepsBlobs
    (nvs : RegionNvs Store) :
    Prop :=
  ∀ store stored blob size,
    nvs.setBlob store blob = some stored →
      blob.length ≤ size → nvs.getBlob stored size = some (some blob)

/-- Store a name; an empty one erases the entry. -/
def save
    (nvs : RegionNvs Store)
    (store : Store)
    (accepted : ValidatedRegionName) :
    Option Store :=
  let n := min accepted.nameLen.toNat regionNameMax
  if n = 0 then
    nvs.remove store
  else
    nvs.setBlob store (accepted.name.toList.take n)

/-- Read the padded name and its length. -/
def loadName
    (nvs : RegionNvs Store)
    (store : Store) :
    Option ValidatedRegionName :=
  match nvs.getBlob store regionNameMax with
  | none =>
      none
  | some none =>
      some (.ofName [])
  | some (some bytes) =>
      some (.ofName bytes)

/-- The scope of the next boot. -/
def loadScope
    (nvs : RegionNvs Store)
    (crypto : Crypto)
    (store : Store) :
    Outcome Unit BootScope :=
  match nvs.loadName store with
  | some loaded => do
      let name ←
        slice loaded.name.toList 0 (min loaded.nameLen.toNat regionNameMax)
      BootScope.boot crypto (some name)
  | none =>
      BootScope.boot crypto none

/-- The answer to a region query; `none` is a failed read. -/
def queryRegion
    (nvs : RegionNvs Store)
    (store : Store) :
    Outcome Unit (Option (Except RegionNameError (List UInt8))) :=
  match nvs.loadName store with
  | some loaded => do
      let name ← slice loaded.name.toList 0 loaded.nameLen.toNat
      pure (some (handleQueryRegion name))
  | none =>
      pure none

end RegionNvs

/-- Decode the answer to a region query, by the rules of a set-region frame. -/
def decodeRspRegion
    (payload : List UInt8) :
    Except ProvError (List UInt8) :=
  decodeSetRegion payload

/-- The names are the same, or one is the other with its implicit `#`. -/
def SameUpToHash
    (first second : List UInt8) :
    Prop :=
  first = second ∨
    second.headD 0 ≠ 0x23 ∧ first = 0x23 :: second ∨
    first.headD 0 ≠ 0x23 ∧ second = 0x23 :: first

/-- The name with its leading `#`. -/
def withHash
    (name : List UInt8) :
    List UInt8 :=
  if name.headD 0 = 0x23 then name else 0x23 :: name

/-- A name a set-region frame can ask for. -/
structure AcceptedName
    (name : List UInt8) :
    Prop where
  notEmpty : name ≠ []
  short : name.length ≤ regionNameMax
  valid : validateRegionName name = .ok ()

/-- A valid name is not empty and not too long. -/
theorem AcceptedName.of_valid
    {name : List UInt8}
    (valid : validateRegionName name = .ok ()) :
    AcceptedName name := by
  refine ⟨fun isEmpty => ?_, ?_, valid⟩
  · rw [validateRegionName, if_pos isEmpty] at valid
    cases valid
  · by_contra long
    by_cases isEmpty : name = []
    · rw [isEmpty] at long
      exact long (Nat.zero_le _)
    · rw [validateRegionName, if_neg isEmpty,
        if_pos (Nat.lt_of_not_le long)] at valid
      cases valid

/-- What a set-region frame stores, other than a clear, is a valid name. -/
theorem acceptedName_of_apply
    {payload name : List UInt8}
    (applied : handleSetRegion payload = .apply name)
    (notClear : name ≠ []) :
    AcceptedName name := by
  have classified :
      ∀ asked, classifyRegion asked = .apply name →
        AcceptedName name := by
    intro asked isApply
    rw [classifyRegion] at isApply
    cases checked : validateRegionName asked with
    | ok _ =>
        rw [checked] at isApply
        cases isApply
        exact .of_valid checked
    | error problem =>
        rw [checked] at isApply
        cases problem <;> cases isApply
  rw [handleSetRegion.eq_def] at applied
  split at applied
  · cases applied
  · split at applied
    · cases applied
    · split at applied
      · cases applied
      · split at applied
        all_goals
          first
          | cases applied
          | split at applied
            · cases applied
              exact absurd rfl notClear
            · exact classified _ applied

namespace AcceptedName

variable {name : List UInt8}

/-- The canonical name of an accepted name fits the buffer it is written to. -/
theorem canonicalName_eq
    (accepted : AcceptedName name) :
    canonicalName name = .value (withHash name) := by
  have short : name.length ≤ 31 := accepted.short
  rw [canonicalName, canonicalRegionName, accepted.valid]
  by_cases hashed : name.headD 0 = 0x23
  · have fits : 0 + name.length ≤ canonicalBuf.length := by
      simp [canonicalBuf, regionNameMax]
      omega
    rw [withHash, if_pos hashed]
    simp only [if_pos hashed]
    rw [write_eq fits, value_bind, pure_eq, value_bind]
    rw [slice_eq (Nat.zero_le _) (by simp)]
    simp
  · have hashFits : 0 + [(0x23 : UInt8)].length ≤ canonicalBuf.length := by
      simp [canonicalBuf, regionNameMax]
    have fits :
        1 + name.length ≤
          (canonicalBuf.take 0 ++ [0x23] ++
            canonicalBuf.drop (0 + [(0x23 : UInt8)].length)).length := by
      simp [canonicalBuf, regionNameMax]
      omega
    rw [withHash, if_neg hashed]
    simp only [if_neg hashed]
    rw [write_eq hashFits, value_bind, write_eq fits, value_bind, pure_eq,
      value_bind, slice_eq (Nat.zero_le _) (by simp; omega)]
    simp [Nat.add_comm]

/-- The key is the front of the hash of the canonical name. -/
theorem regionKey_eq
    (accepted : AcceptedName name)
    (crypto : Crypto) :
    regionKey crypto name =
      .value (fieldAt 16 (crypto.sha256 (withHash name)).toList 0) := by
  rw [regionKey, accepted.canonicalName_eq, value_bind]
  exact arrayAt_eq (by simp) rfl

/-- The padded form keeps the name. -/
theorem toList_take_padded
    (accepted : AcceptedName name) :
    (Bytes.zeroPadded regionNameMax name).toList.take name.length =
      name := by
  have short : name.length ≤ 31 := accepted.short
  apply List.ext_getElem
  · simp [regionNameMax]
    omega
  · intro position inPadded inName
    simp [Bytes.zeroPadded, inName]

/-- The length byte of the padded form is the length of the name. -/
theorem toNat_length
    (accepted : AcceptedName name) :
    (UInt8.ofNat name.length).toNat = name.length := by
  have short : name.length ≤ 31 := accepted.short
  simp
  omega

end AcceptedName

section Chain

variable {Store : Type} {nvs : RegionNvs Store} {store stored : Store}
variable {name : List UInt8}

/-- A stored name is loaded as it was stored. -/
theorem loadName_save
    (keeps : nvs.KeepsBlobs)
    (accepted : AcceptedName name)
    (saved : nvs.save store (.ofName name) = some stored) :
    nvs.loadName stored = some (.ofName name) := by
  have short : name.length ≤ 31 := accepted.short
  have length :
      min (UInt8.ofNat name.length).toNat regionNameMax = name.length := by
    rw [accepted.toNat_length]
    exact Nat.min_eq_left short
  have positive : name.length ≠ 0 := fun isZero =>
    accepted.notEmpty (List.eq_nil_of_length_eq_zero isZero)
  simp only [RegionNvs.save, ValidatedRegionName.ofName, length,
    if_neg positive, accepted.toList_take_padded] at saved
  rw [RegionNvs.loadName, keeps _ _ _ _ saved accepted.short]

/-- The stored name, read out of its padded form. -/
theorem slice_ofName
    (accepted : AcceptedName name) :
    (slice (ValidatedRegionName.ofName name).name.toList 0 name.length :
        Outcome Unit (List UInt8)) =
      .value name := by
  have fits :
      name.length ≤
        (ValidatedRegionName.ofName name).name.toList.length := by
    simpa using accepted.short
  rw [slice_eq (Nat.zero_le _) fits]
  exact congrArg Outcome.value accepted.toList_take_padded

/-- A stored name boots to its own key. -/
theorem loadScope_save
    (keeps : nvs.KeepsBlobs)
    (crypto : Crypto)
    (accepted : AcceptedName name)
    (saved : nvs.save store (.ofName name) = some stored) :
    nvs.loadScope crypto stored =
      .value
        (.scoped
          (fieldAt 16 (crypto.sha256 (withHash name)).toList 0)) := by
  have length :
      min (ValidatedRegionName.ofName name).nameLen.toNat regionNameMax =
        name.length := by
    rw [ValidatedRegionName.ofName, accepted.toNat_length]
    exact Nat.min_eq_left accepted.short
  rw [RegionNvs.loadScope, loadName_save keeps accepted saved]
  simp only [length]
  rw [slice_ofName accepted, value_bind, BootScope.boot,
    BootScope.fromStoredName, BootScope.fromName,
    if_neg accepted.notEmpty, accepted.regionKey_eq, value_bind]
  rfl

/-- After the boot flood frames are sent with the key of the stored name. -/
theorem regionEmission_save
    (keeps : nvs.KeepsBlobs)
    (crypto : Crypto)
    (accepted : AcceptedName name)
    (saved : nvs.save store (.ofName name) = some stored) :
    (do
      let scope ← nvs.loadScope crypto stored
      pure (regionEmission scope.regionScope)) =
      .value
        (some
          (some (fieldAt 16 (crypto.sha256 (withHash name)).toList 0))) := by
  rw [loadScope_save keeps crypto accepted saved, value_bind]
  rfl

/-- A stored name is reported as it was sent. -/
theorem queryRegion_save
    (keeps : nvs.KeepsBlobs)
    (accepted : AcceptedName name)
    (saved : nvs.save store (.ofName name) = some stored) :
    nvs.queryRegion stored =
      .value (some (.ok (lengthPrefixed name))) := by
  have length :
      (ValidatedRegionName.ofName name).nameLen.toNat = name.length :=
    accepted.toNat_length
  rw [RegionNvs.queryRegion, loadName_save keeps accepted saved]
  simp only [length]
  rw [slice_ofName accepted, value_bind, handleQueryRegion,
    if_neg accepted.notEmpty, accepted.valid]
  rfl

/-- A reported name is decoded as it was reported. -/
theorem decodeRspRegion_lengthPrefixed
    (accepted : AcceptedName name) :
    decodeRspRegion (lengthPrefixed name) = .ok name := by
  have length := accepted.toNat_length
  have notLong : ¬ name.length > regionNameMax :=
    Nat.not_lt_of_le accepted.short
  have decoded :
      decodeLengthPrefixed regionNameMax .regionNameInvalid
          (lengthPrefixed name) =
        .ok name := by
    simp [decodeLengthPrefixed, lengthPrefixed, length, notLong]
  rw [decodeRspRegion, decodeSetRegion, decoded]
  simp only [if_neg accepted.notEmpty, accepted.valid]

theorem withHash_hashed
    (hashed : name.headD 0 = 0x23) :
    withHash name = name :=
  if_pos hashed

theorem withHash_bare
    (bare : name.headD 0 ≠ 0x23) :
    withHash name = 0x23 :: name :=
  if_neg bare

/-- Names agree with their leading `#` exactly up to an implicit one. -/
theorem withHash_eq_iff
    {first second : List UInt8} :
    withHash first = withHash second ↔ SameUpToHash first second := by
  constructor
  · intro same
    by_cases firstHashed : first.headD 0 = 0x23 <;>
      by_cases secondHashed : second.headD 0 = 0x23
    · rw [withHash_hashed firstHashed, withHash_hashed secondHashed] at same
      exact .inl same
    · rw [withHash_hashed firstHashed, withHash_bare secondHashed] at same
      exact .inr (.inl ⟨secondHashed, same⟩)
    · rw [withHash_bare firstHashed, withHash_hashed secondHashed] at same
      exact .inr (.inr ⟨firstHashed, same.symm⟩)
    · rw [withHash_bare firstHashed, withHash_bare secondHashed] at same
      exact .inl (List.cons.inj same).2
  · rintro (rfl | ⟨bare, rfl⟩ | ⟨bare, rfl⟩)
    · rfl
    · rw [withHash_bare bare]
      exact withHash_hashed rfl
    · rw [withHash_bare bare]
      exact (withHash_hashed rfl).symm

end Chain

/--
Every name a set-region frame can ask for, once stored, boots to the key of its
canonical name and is reported back as it was sent; two such names have the same
canonical name exactly when they are the same up to an implicit `#`.
-/
theorem regionScope_chain
    {Store : Type}
    (nvs : RegionNvs Store)
    (keeps : nvs.KeepsBlobs)
    (crypto : Crypto) :
    (∀ payload name store stored,
      handleSetRegion payload = .apply name →
        name ≠ [] →
          nvs.save store (.ofName name) = some stored →
            ∃ canonical key,
              canonicalName name = .value canonical ∧
                key = fieldAt 16 (crypto.sha256 canonical).toList 0 ∧
                regionKey crypto name = .value key ∧
                nvs.loadScope crypto stored = .value (.scoped key) ∧
                nvs.queryRegion stored =
                  .value (some (.ok (lengthPrefixed name))) ∧
                decodeRspRegion (lengthPrefixed name) = .ok name) ∧
      ∀ first second firstName secondName,
        handleSetRegion first = .apply firstName →
          handleSetRegion second = .apply secondName →
            firstName ≠ [] → secondName ≠ [] →
              (canonicalName firstName = canonicalName secondName ↔
                SameUpToHash firstName secondName) := by
  constructor
  · intro payload name store stored applied notClear saved
    have accepted := acceptedName_of_apply applied notClear
    exact
      ⟨withHash name, _, accepted.canonicalName_eq, rfl,
        accepted.regionKey_eq crypto,
        loadScope_save keeps crypto accepted saved,
        queryRegion_save keeps accepted saved,
        decodeRspRegion_lengthPrefixed accepted⟩
  · intro first second firstName secondName firstApplied secondApplied
      firstNotClear secondNotClear
    have firstAccepted :=
      acceptedName_of_apply firstApplied firstNotClear
    have secondAccepted :=
      acceptedName_of_apply secondApplied secondNotClear
    rw [firstAccepted.canonicalName_eq, secondAccepted.canonicalName_eq,
      Outcome.value.injEq]
    exact withHash_eq_iff

/-- A flash entry in memory. -/
def memoryNvs : RegionNvs (Option (List UInt8)) :=
  { setBlob := fun _ blob => some (some blob)
    remove := fun _ => some none
    getBlob := fun store size =>
      match store with
      | none => some none
      | some blob =>
          if blob.length ≤ size then some (some blob) else none }

/-- The region `abc`, stored, is reported as `abc`. -/
theorem regionScope_chain_abc :
    memoryNvs.queryRegion (some [0x61, 0x62, 0x63]) =
        .value (some (.ok [3, 0x61, 0x62, 0x63])) ∧
      canonicalName [0x61, 0x62, 0x63] =
        canonicalName [0x23, 0x61, 0x62, 0x63] := by
  have keeps : memoryNvs.KeepsBlobs := by
    intro store stored blob size written fits
    cases written
    simp [memoryNvs, fits]
  obtain ⟨chain, same⟩ :=
    regionScope_chain memoryNvs keeps
      (CryptoRecord.crypto ⟨[], [], [], []⟩)
  obtain ⟨_, _, _, _, _, _, reported, -⟩ :=
    chain [3, 0x61, 0x62, 0x63] [0x61, 0x62, 0x63] none
      (some [0x61, 0x62, 0x63]) (by decide) (by decide) (by decide)
  exact
    ⟨reported,
      (same [3, 0x61, 0x62, 0x63] [4, 0x23, 0x61, 0x62, 0x63] _ _
        (by decide) (by decide) (by decide) (by decide)).mpr
        (.inr (.inr ⟨by decide, rfl⟩))⟩

end MeshCadet
