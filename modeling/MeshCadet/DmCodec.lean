import Mathlib.Data.List.TakeWhile
import MeshCadet.Frames

namespace MeshCadet

/-!
# Direct messages and path returns

The payload of a direct message is the two routing hashes, a two-byte code and
the ciphertext.  Its plaintext is a timestamp, a byte of flags and a text; a path
return has a route and an optional reply in the same envelope.
-/

/-- Errors of the codecs. -/
inductive CodecError where
  | macMismatch
  | truncatedPayload
  | misalignedCiphertext
  | invalidPathLen
deriving Repr, DecidableEq

/-- Encode a direct message. -/
def encodeDmPayload
    (crypto : Crypto)
    (secret : Key)
    (destHash srcHash : UInt8)
    (plaintext : List UInt8) :
    List UInt8 :=
  [destHash, srcHash] ++
    crypto.encryptThenMac (Crypto.aesKey secret) secret.toList plaintext

/-- Decode a direct message: routing hashes and padded plaintext. -/
def decodeDmPayload
    (crypto : Crypto)
    (secret : Key)
    (payload : List UInt8) :
    Except CodecError (UInt8 × UInt8 × List UInt8) :=
  match payload with
  | destHash :: srcHash :: macAndCiphertext =>
      if macAndCiphertext.length < 2 then
        .error .truncatedPayload
      else if (macAndCiphertext.length - 2) % 16 ≠ 0 then
        .error .misalignedCiphertext
      else
        match crypto.macThenDecrypt (Crypto.aesKey secret) secret.toList
            macAndCiphertext with
        | some plaintext => .ok (destHash, srcHash, plaintext)
        | none => .error .macMismatch
  | _ => .error .truncatedPayload

/-- The frame's code was made with the shared secret. -/
def Authenticates
    (crypto : Crypto)
    (secret : Key)
    (payload : List UInt8) :
    Prop :=
  crypto.macMatches secret.toList (payload.drop 2) = true

/-- A message decodes exactly when it authenticates. -/
theorem decodeDmPayload_ok_iff
    {crypto : Crypto}
    {secret : Key}
    {payload : List UInt8} :
    (∃ decoded, decodeDmPayload crypto secret payload = .ok decoded) ↔
      Authenticates crypto secret payload := by
  match payload with
  | [] => simp [decodeDmPayload, Authenticates, Crypto.macMatches]
  | [_] => simp [decodeDmPayload, Authenticates, Crypto.macMatches]
  | destHash :: srcHash :: rest =>
      have dropped : (destHash :: srcHash :: rest).drop 2 = rest := rfl
      rw [Authenticates, dropped]
      by_cases short : rest.length < 2
      · simp [decodeDmPayload, short, Crypto.macMatches,
          Nat.not_le.mpr short]
      · by_cases whole : (rest.length - 2) % 16 = 0
        · cases isMatch : crypto.macMatches secret.toList rest <;>
            simp [decodeDmPayload, short, whole, Crypto.macThenDecrypt,
              isMatch]
        · simp [decodeDmPayload, short, whole, Crypto.macMatches]

/-- What was encoded decodes to the padded plaintext. -/
theorem decodeDmPayload_encode
    {crypto : Crypto}
    (inverse : crypto.DecryptsEncrypted)
    (secret : Key)
    (destHash srcHash : UInt8)
    (plaintext : List UInt8) :
    decodeDmPayload crypto secret
        (encodeDmPayload crypto secret destHash srcHash plaintext) =
      .ok (destHash, srcHash, Blocks.padded 16 plaintext) := by
  have length :
      (crypto.encryptThenMac (Crypto.aesKey secret) secret.toList
        plaintext).length =
        2 + 16 * Blocks.count 16 plaintext := by
    simp [Crypto.encryptThenMac, Crypto.aes128EcbEncrypt]
  have long :
      ¬ (crypto.encryptThenMac (Crypto.aesKey secret) secret.toList
        plaintext).length < 2 := by
    omega
  have whole :
      ((crypto.encryptThenMac (Crypto.aesKey secret) secret.toList
        plaintext).length - 2) % 16 = 0 := by
    omega
  simp only [encodeDmPayload, List.cons_append, List.nil_append,
    decodeDmPayload, long, whole,
    Crypto.macThenDecrypt_encryptThenMac inverse]
  rfl

/-- Subtypes of a text message. -/
inductive TxtType where
  | plain
  | cliData
  | signedPlain
  | cliCommand
  | unknown (raw : UInt8)
deriving Repr, DecidableEq

namespace TxtType

/-- Classify the upper six bits of the flags. -/
def fromByte
    (raw : UInt8) :
    TxtType :=
  if raw = 0 then
    plain
  else if raw = 1 then
    cliData
  else if raw = 2 then
    signedPlain
  else if raw = 3 then
    cliCommand
  else
    unknown raw

/-- The subtype's value on the air. -/
def asByte : TxtType → UInt8
  | plain => 0
  | cliData => 1
  | signedPlain => 2
  | cliCommand => 3
  | unknown raw => raw

/-- The subtype carries text to display. -/
def isText : TxtType → Bool
  | plain => true
  | signedPlain => true
  | _ => false

end TxtType

/-- The plaintext of a text message. -/
def encodeTxtMsgPlaintext
    (timestamp : UInt32)
    (txtType attempt : UInt8)
    (text : List UInt8) :
    List UInt8 :=
  (Bytes.u32ToLeBytes timestamp).toList ++
    [(txtType <<< 2) ||| (attempt &&& 0x03)] ++ text

/-- The word at the start of a plaintext. -/
def leadingTimestamp
    (plaintext : List UInt8) :
    UInt32 :=
  Bytes.u32FromLeBytes
    #v[plaintext.getD 0 0, plaintext.getD 1 0, plaintext.getD 2 0,
      plaintext.getD 3 0]

/-- The fields in front of the text of a decrypted message. -/
structure TxtMsgFields where
  timestamp : UInt32
  txtType : TxtType
  attempt : UInt8
  textOffset : Nat
deriving Repr, DecidableEq

/-- Decode the fields in front of the text. -/
def decodeTxtMsgPlaintext
    (plaintext : List UInt8) :
    Except CodecError TxtMsgFields :=
  if plaintext.length < 5 then
    .error .truncatedPayload
  else
    .ok
      { timestamp := leadingTimestamp plaintext
        txtType := .fromByte (plaintext.getD 4 0 >>> 2)
        attempt := plaintext.getD 4 0 &&& 0x03
        textOffset := 5 }

/-- The zeros behind a text are not part of it. -/
theorem takeWhile_zeros
    (text : List UInt8)
    (zeros : Nat) :
    (text ++ List.replicate zeros 0).takeWhile (fun byte => byte ≠ 0) =
      text.takeWhile fun byte => byte ≠ 0 := by
  induction text with
  | nil => cases zeros <;> simp [List.replicate_succ]
  | cons byte rest inductionHypothesis =>
      simp only [List.cons_append, List.takeWhile_cons,
        inductionHypothesis]

/-- A text without zero bytes ends at the padding. -/
theorem takeWhile_noZero
    {text : List UInt8}
    (noZero : ∀ byte ∈ text, byte ≠ 0) :
    text.takeWhile (fun byte => byte ≠ 0) = text :=
  List.takeWhile_eq_self_iff.mpr (by simpa using noZero)

/-- The byte of flags holds the type above the two bits of the attempt. -/
theorem flags_toNat
    {txtType : UInt8}
    (sixBits : txtType < 64)
    (attempt : UInt8) :
    ((txtType <<< 2) ||| (attempt &&& 0x03)).toNat =
      4 * txtType.toNat + attempt.toNat % 4 := by
  have few : txtType.toNat < 64 := UInt8.lt_iff_toNat_lt.mp sixBits
  have attemptBits : (attempt &&& 0x03).toNat = attempt.toNat % 4 := by
    rw [UInt8.toNat_and]
    exact Nat.and_two_pow_sub_one_eq_mod attempt.toNat 2
  have typeBits : (txtType <<< 2).toNat = txtType.toNat <<< 2 := by
    rw [UInt8.toNat_shiftLeft]
    refine Nat.mod_eq_of_lt ?_
    change txtType.toNat <<< 2 < 256
    rw [Nat.shiftLeft_eq]
    omega
  rw [UInt8.toNat_or, typeBits, attemptBits,
    ← Nat.shiftLeft_add_eq_or_of_lt (show attempt.toNat % 4 < 2 ^ 2 from
      Nat.mod_lt _ (by decide)), Nat.shiftLeft_eq]
  omega

/-- The timestamp is read back from a padded message. -/
theorem leadingTimestamp_encode
    (timestamp : UInt32)
    (txtType attempt : UInt8)
    (text : List UInt8) :
    leadingTimestamp
        (Blocks.padded 16
          (encodeTxtMsgPlaintext timestamp txtType attempt text)) =
      timestamp := by
  have isTimestamp :
      leadingTimestamp
          (encodeTxtMsgPlaintext timestamp txtType attempt text) =
        timestamp :=
    Bytes.u32FromLeBytes_toLeBytes timestamp
  refine Eq.trans ?_ isTimestamp
  simp only [leadingTimestamp, Blocks.getD_padded (show 0 < 16 by decide)]

/-- The fields in front of the text are read back from a padded message. -/
theorem decodeTxtMsgPlaintext_encode
    (timestamp : UInt32)
    {txtType : UInt8}
    (sixBits : txtType < 64)
    (attempt : UInt8)
    (text : List UInt8) :
    decodeTxtMsgPlaintext
        (Blocks.padded 16
          (encodeTxtMsgPlaintext timestamp txtType attempt text)) =
      .ok
        { timestamp := timestamp
          txtType := .fromByte txtType
          attempt := attempt &&& 0x03
          textOffset := 5 } := by
  have long :
      ¬(Blocks.padded 16
        (encodeTxtMsgPlaintext timestamp txtType attempt text)).length <
          5 := by
    rw [Blocks.padded_eq_append (by decide)]
    simp [encodeTxtMsgPlaintext]
    omega
  have flags := flags_toNat sixBits attempt
  have isType :
      ((txtType <<< 2) ||| (attempt &&& 0x03)) >>> 2 = txtType := by
    apply UInt8.toNat_inj.mp
    rw [UInt8.toNat_shiftRight, flags]
    change (4 * txtType.toNat + attempt.toNat % 4) >>> 2 = txtType.toNat
    rw [Nat.shiftRight_eq_div_pow]
    omega
  have isAttempt :
      ((txtType <<< 2) ||| (attempt &&& 0x03)) &&& 0x03 =
        attempt &&& 0x03 := by
    apply UInt8.toNat_inj.mp
    rw [UInt8.toNat_and, flags, UInt8.toNat_and]
    change (4 * txtType.toNat + attempt.toNat % 4) &&& (2 ^ 2 - 1) =
      attempt.toNat &&& (2 ^ 2 - 1)
    rw [Nat.and_two_pow_sub_one_eq_mod, Nat.and_two_pow_sub_one_eq_mod]
    omega
  have flagsByte :
      (encodeTxtMsgPlaintext timestamp txtType attempt text).getD 4 0 =
        (txtType <<< 2) ||| (attempt &&& 0x03) :=
    rfl
  simp only [decodeTxtMsgPlaintext, long, if_false,
    leadingTimestamp_encode, Blocks.getD_padded (show 0 < 16 by decide),
    flagsByte, isType, isAttempt]

/-- The text of a padded message ends where its zeros begin. -/
theorem text_encode
    (timestamp : UInt32)
    (txtType attempt : UInt8)
    (text : List UInt8) :
    ((Blocks.padded 16
        (encodeTxtMsgPlaintext timestamp txtType attempt text)).drop
          5).takeWhile (fun byte => byte ≠ 0) =
      text.takeWhile fun byte => byte ≠ 0 := by
  have behindFlags :
      5 ≤ (encodeTxtMsgPlaintext timestamp txtType attempt text).length := by
    simp [encodeTxtMsgPlaintext]
    omega
  have dropped :
      (encodeTxtMsgPlaintext timestamp txtType attempt text).drop 5 =
        text := by
    rw [encodeTxtMsgPlaintext, List.drop_left' (by simp)]
  rw [Blocks.padded_eq_append (by decide),
    List.drop_append_of_le_length behindFlags, dropped, takeWhile_zeros]

/-- The byte of flags in a padded message. -/
theorem flags_encode
    (timestamp : UInt32)
    (txtType attempt : UInt8)
    (text : List UInt8) :
    (Blocks.padded 16
        (encodeTxtMsgPlaintext timestamp txtType attempt text)).getD 4 0 =
      (txtType <<< 2) ||| (attempt &&& 0x03) := by
  rw [Blocks.getD_padded (by decide)]
  rfl

/-- The hash by which the recipient acknowledges a message. -/
def computeAckHash
    (crypto : Crypto)
    (timestamp : UInt32)
    (txtTypeAttempt : UInt8)
    (text : List UInt8)
    (senderPubKey : Key) :
    Vector UInt8 4 :=
  crypto.leadingHash
    ((Bytes.u32ToLeBytes timestamp).toList ++ [txtTypeAttempt] ++ text ++
      senderPubKey.toList)

/-- What a path return carries besides the path. -/
inductive PathExtra where
  | ack (hash : Vector UInt8 4)
  | response (plaintext : Vector UInt8 13)
  | none
deriving Repr, DecidableEq

/-- A decoded path return. -/
structure ReturnPath where
  pathLenByte : UInt8
  path : Vector UInt8 maxPathSize
  pathByteCount : Nat
  extra : PathExtra
deriving Repr, DecidableEq

/-- Decode what follows the path of a path return. -/
def decodePathExtra
    (plaintext : List UInt8)
    (extraOffset : Nat) :
    Except CodecError PathExtra :=
  let extraType := plaintext.getD extraOffset 0 &&& 0x0F
  let extraBytes := plaintext.drop (extraOffset + 1)
  if extraType = 0x03 then
    if plaintext.length < extraOffset + 1 + 4 then
      .error .truncatedPayload
    else
      .ok (.ack (Bytes.zeroPadded 4 extraBytes))
  else if extraType = 0x01 then
    if plaintext.length < extraOffset + 1 + 13 then
      .error .truncatedPayload
    else
      .ok (.response (Bytes.zeroPadded 13 extraBytes))
  else
    .ok .none

/-- The path length byte at the start of a plaintext. -/
def leadingPathLen
    (plaintext : List UInt8) :
    PathLen :=
  { byte := plaintext.getD 0 0 }

/-- Decode the plaintext of a path return. -/
def decodePathReturnPlaintext
    (plaintext : List UInt8) :
    Except CodecError ReturnPath :=
  if plaintext.length < 2 then
    .error .truncatedPayload
  else if ¬ (leadingPathLen plaintext).isValid then
    .error .invalidPathLen
  else if plaintext.length < 1 + (leadingPathLen plaintext).pathBytes + 1
  then
    .error .truncatedPayload
  else
    (decodePathExtra plaintext
      (1 + (leadingPathLen plaintext).pathBytes)).map fun extra =>
        { pathLenByte := (leadingPathLen plaintext).byte
          path :=
            Bytes.zeroPadded maxPathSize
              ((plaintext.drop 1).take (leadingPathLen plaintext).pathBytes)
          pathByteCount := (leadingPathLen plaintext).pathBytes
          extra := extra }

/-- Decode a path return. -/
def decodePathReturn
    (crypto : Crypto)
    (secret : Key)
    (payload : List UInt8) :
    Except CodecError (UInt8 × UInt8 × ReturnPath) := do
  let (destHash, srcHash, plaintext) ←
    decodeDmPayload crypto secret payload
  let returned ← decodePathReturnPlaintext plaintext
  return (destHash, srcHash, returned)

/-- A sequence of computations succeeds when each of them does. -/
theorem bind_eq_ok_iff
    {Failure First Second : Type}
    {first : Except Failure First}
    {second : First → Except Failure Second}
    {result : Second} :
    (first >>= second) = .ok result ↔
      ∃ between, first = .ok between ∧ second between = .ok result := by
  cases first with
  | error error =>
      simp [bind, Except.bind]
  | ok between =>
      simp [bind, Except.bind]

/-- An accepted path return has a valid path length byte. -/
theorem decodePathReturnPlaintext_ok
    {plaintext : List UInt8}
    {returned : ReturnPath}
    (accepted : decodePathReturnPlaintext plaintext = .ok returned) :
    (PathLen.mk returned.pathLenByte).isValid = true ∧
      returned.pathByteCount =
        (PathLen.mk returned.pathLenByte).pathBytes := by
  unfold decodePathReturnPlaintext at accepted
  split at accepted
  · cases accepted
  · split at accepted
    · cases accepted
    · next isValid =>
      split at accepted
      · cases accepted
      · cases isExtra :
            decodePathExtra plaintext
              (1 + (leadingPathLen plaintext).pathBytes) with
        | error error =>
            simp [isExtra, Except.map] at accepted
        | ok extra =>
            rw [isExtra] at accepted
            cases accepted
            exact ⟨not_not.mp isValid, rfl⟩

theorem decodePathReturn_ok
    {crypto : Crypto}
    {secret : Key}
    {payload : List UInt8}
    {destHash srcHash : UInt8}
    {returned : ReturnPath}
    (accepted :
      decodePathReturn crypto secret payload =
        .ok (destHash, srcHash, returned)) :
    (PathLen.mk returned.pathLenByte).isValid = true ∧
      returned.pathByteCount =
        (PathLen.mk returned.pathLenByte).pathBytes := by
  obtain ⟨⟨dest, src, plaintext⟩, -, inner⟩ := bind_eq_ok_iff.mp accepted
  obtain ⟨found, isFound, same⟩ := bind_eq_ok_iff.mp inner
  cases same
  exact decodePathReturnPlaintext_ok isFound

end MeshCadet
