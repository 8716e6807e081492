import MeshCadet.Blocks
import MeshCadet.Bytes
import MeshCadet.ConfigStore

namespace MeshCadet

/-!
# Cryptographic primitives

The hash, the keyed hash, the block cipher and the key agreement come from
libraries that are not part of the repository, so they are parameters.  What the
codecs build from them is modelled: encryption block by block with zero padding,
and a two-byte code over the ciphertext.
-/

/-- The primitives the codecs call. -/
structure Crypto where
  sha256 : List UInt8 → Vector UInt8 32
  hmacSha256 : List UInt8 → List UInt8 → Vector UInt8 32
  encryptBlock : Vector UInt8 16 → Vector UInt8 16 → Vector UInt8 16
  decryptBlock : Vector UInt8 16 → Vector UInt8 16 → Vector UInt8 16
  ecdhSharedSecret : Key → Key → Key

namespace Crypto

/-- Decryption undoes encryption under the same key. -/
def DecryptsEncrypted
    (crypto : Crypto) :
    Prop :=
  ∀ key block,
    crypto.decryptBlock key (crypto.encryptBlock key block) = block

/-- The cipher key of a shared secret. -/
def aesKey
    (secret : Key) :
    Vector UInt8 16 :=
  Vector.ofFn fun index : Fin 16 => secret[index.val]

/-- Encrypt zero-padded blocks. -/
def aes128EcbEncrypt
    (crypto : Crypto)
    (key : Vector UInt8 16)
    (plaintext : List UInt8) :
    List UInt8 :=
  Blocks.mapBlocks (crypto.encryptBlock key) plaintext

/-- Decrypt block by block. -/
def aes128EcbDecrypt
    (crypto : Crypto)
    (key : Vector UInt8 16)
    (ciphertext : List UInt8) :
    List UInt8 :=
  Blocks.mapBlocks (crypto.decryptBlock key) ciphertext

/-- The first two bytes of the keyed hash. -/
def hmacSha256_2
    (crypto : Crypto)
    (key data : List UInt8) :
    Vector UInt8 2 :=
  let result := crypto.hmacSha256 key data
  #v[result[0], result[1]]

/-- The first four bytes of a hash. -/
def leadingHash
    (crypto : Crypto)
    (input : List UInt8) :
    Vector UInt8 4 :=
  let hash := crypto.sha256 input
  #v[hash[0], hash[1], hash[2], hash[3]]

/-- Encrypt, and put the code of the ciphertext in front. -/
def encryptThenMac
    (crypto : Crypto)
    (key : Vector UInt8 16)
    (hmacKey plaintext : List UInt8) :
    List UInt8 :=
  let ciphertext := crypto.aes128EcbEncrypt key plaintext
  (crypto.hmacSha256_2 hmacKey ciphertext).toList ++ ciphertext

/-- The leading two bytes are the code of whole blocks of ciphertext. -/
def macMatches
    (crypto : Crypto)
    (hmacKey payload : List UInt8) :
    Bool :=
  2 ≤ payload.length && (payload.drop 2).length % 16 == 0 &&
    payload.take 2 == (crypto.hmacSha256_2 hmacKey (payload.drop 2)).toList

/-- Check the code, then decrypt. -/
def macThenDecrypt
    (crypto : Crypto)
    (key : Vector UInt8 16)
    (hmacKey payload : List UInt8) :
    Option (List UInt8) :=
  if crypto.macMatches hmacKey payload then
    some (crypto.aes128EcbDecrypt key (payload.drop 2))
  else
    none

/-- Whole blocks are decrypted if the code in front of them is theirs. -/
theorem macThenDecrypt_append
    (crypto : Crypto)
    (key : Vector UInt8 16)
    (hmacKey : List UInt8)
    (code : Vector UInt8 2)
    {ciphertext : List UInt8}
    (whole : ciphertext.length % 16 = 0) :
    crypto.macThenDecrypt key hmacKey (code.toList ++ ciphertext) =
      if crypto.hmacSha256_2 hmacKey ciphertext = code then
        some (crypto.aes128EcbDecrypt key ciphertext)
      else
        none := by
  have rest : (code.toList ++ ciphertext).drop 2 = ciphertext :=
    List.drop_left' (by simp)
  have front : (code.toList ++ ciphertext).take 2 = code.toList :=
    List.take_left' (by simp)
  by_cases same : crypto.hmacSha256_2 hmacKey ciphertext = code
  · rw [macThenDecrypt, macMatches, rest, front, if_pos same]
    simp [whole, same]
  · have differs : code ≠ crypto.hmacSha256_2 hmacKey ciphertext :=
      fun equal => same equal.symm
    rw [macThenDecrypt, macMatches, rest, front, if_neg same]
    simp [differs]

/-- What was encrypted is accepted, and decrypts to the padded plaintext. -/
theorem macThenDecrypt_encryptThenMac
    {crypto : Crypto}
    (inverse : crypto.DecryptsEncrypted)
    (key : Vector UInt8 16)
    (hmacKey plaintext : List UInt8) :
    crypto.macThenDecrypt key hmacKey
        (crypto.encryptThenMac key hmacKey plaintext) =
      some (Blocks.padded 16 plaintext) := by
  have whole : (crypto.aes128EcbEncrypt key plaintext).length % 16 = 0 := by
    simp [aes128EcbEncrypt]
  rw [encryptThenMac, macThenDecrypt_append crypto key hmacKey _ whole,
    if_pos rfl, Option.some_inj]
  exact Blocks.mapBlocks_mapBlocks (by decide) (inverse key) plaintext

end Crypto

/-- A device's own keys. -/
structure Identity where
  seed : Key
  pubkey : Key
deriving Repr, DecidableEq

/-- The routing hash of a public key is its first byte. -/
def pubHash
    (pubkey : Key) :
    UInt8 :=
  Bytes.firstByte pubkey

/-- The secret a device shares with the owner of a public key. -/
def Identity.ecdhSharedSecret
    (identity : Identity)
    (crypto : Crypto)
    (remotePubkey : Key) :
    Key :=
  crypto.ecdhSharedSecret identity.seed remotePubkey

/-- What the primitives return for a few inputs. -/
structure CryptoRecord where
  ciphers : List (Vector UInt8 16 × Vector UInt8 16 × Vector UInt8 16)
  codes : List (List UInt8 × List UInt8 × Vector UInt8 32)
  digests : List (List UInt8 × Vector UInt8 32)
  agreements : List (Key × Key × Key)

namespace CryptoRecord

/-- Exchange two blocks. -/
def exchange
    (first second block : Vector UInt8 16) :
    Vector UInt8 16 :=
  if block = first then
    second
  else if block = second then
    first
  else
    block

theorem exchange_exchange
    (first second block : Vector UInt8 16) :
    exchange first second (exchange first second block) = block := by
  unfold exchange
  split <;> split <;> simp_all

/-- The recorded pairs of plaintext and ciphertext under a key. -/
def pairs
    (record : CryptoRecord)
    (key : Vector UInt8 16) :
    List (Vector UInt8 16 × Vector UInt8 16) :=
  (record.ciphers.filter fun entry => entry.1 == key).map Prod.snd

/-- Primitives that return what was recorded, and encrypt invertibly. -/
def crypto
    (record : CryptoRecord) :
    Crypto :=
  { sha256 := fun data =>
      ((record.digests.find? fun entry => entry.1 == data).map
        Prod.snd).getD (Vector.replicate 32 0)
    hmacSha256 := fun key data =>
      ((record.codes.find? fun entry =>
        entry.1 == key && entry.2.1 == data).map
          fun entry => entry.2.2).getD (Vector.replicate 32 0)
    encryptBlock := fun key block =>
      (record.pairs key).foldl
        (fun current pair => exchange pair.1 pair.2 current) block
    decryptBlock := fun key block =>
      (record.pairs key).foldr
        (fun pair current => exchange pair.1 pair.2 current) block
    ecdhSharedSecret := fun seed remote =>
      ((record.agreements.find? fun entry =>
        entry.1 == seed && entry.2.1 == remote).map
          fun entry => entry.2.2).getD (Vector.replicate 32 0) }

/-- Recorded encryption can be undone. -/
theorem decryptsEncrypted
    (record : CryptoRecord) :
    record.crypto.DecryptsEncrypted := by
  intro key block
  simp only [crypto]
  induction record.pairs key generalizing block with
  | nil =>
      rfl
  | cons pair rest inductionHypothesis =>
      rw [List.foldr_cons, List.foldl_cons, inductionHypothesis,
        exchange_exchange]

end CryptoRecord

/-! Keys of a device and of two others whose public keys start alike, and the
secrets the device shares with them. -/
namespace RecordedKeys

/-- The device's own keys. -/
def device : Identity :=
  { seed := Vector.replicate 32 0x01
    pubkey :=
      #v[0x8A, 0x88, 0xE3, 0xDD, 0x74, 0x09, 0xF1, 0x95, 0xFD, 0x52, 0xDB,
        0x2D, 0x3C, 0xBA, 0x5D, 0x72, 0xCA, 0x67, 0x09, 0xBF, 0x1D, 0x94,
        0x12, 0x1B, 0xF3, 0x74, 0x88, 0x01, 0xB4, 0x0F, 0x6F, 0x5C] }

/-- The first other public key. -/
def anaPubkey : Key :=
  #v[0x0B, 0x51, 0x3A, 0xD9, 0xB4, 0x92, 0x40, 0x15, 0xCA, 0x09, 0x02, 0xED,
    0x07, 0x90, 0x44, 0xD3, 0xAC, 0x5D, 0xBE, 0xC2, 0x30, 0x6F, 0x06, 0x94,
    0x8C, 0x10, 0xDA, 0x8E, 0xB6, 0xE3, 0x9F, 0x2D]

/-- The second other public key. -/
def boPubkey : Key :=
  #v[0x0B, 0xEE, 0xF5, 0xA9, 0xE6, 0x79, 0xE6, 0xA3, 0xE1, 0x34, 0xFE, 0x27,
    0x83, 0x7B, 0xFF, 0x32, 0xC7, 0xCB, 0x5F, 0x5D, 0x44, 0xEA, 0x09, 0xBC,
    0xB0, 0xE5, 0x42, 0xBA, 0xD6, 0xA4, 0xC0, 0xCC]

/-- The secret shared with the owner of the first key. -/
def anaSecret : Key :=
  #v[0xC9, 0xA7, 0x95, 0xA1, 0x6C, 0xFB, 0x45, 0xA2, 0x7F, 0xCA, 0x75, 0x05,
    0xEB, 0x98, 0xD2, 0x23, 0x60, 0xF0, 0x49, 0xAE, 0x86, 0xED, 0xB3, 0xCF,
    0x27, 0x78, 0x4E, 0xD1, 0xCA, 0x8F, 0x7A, 0x46]

/-- The secret shared with the owner of the second key. -/
def boSecret : Key :=
  #v[0x1F, 0xDE, 0xC5, 0x64, 0x7F, 0xBC, 0x6E, 0x50, 0xCB, 0x54, 0x63, 0x30,
    0x6C, 0x1F, 0xD9, 0x87, 0xAD, 0xCF, 0x9B, 0x9E, 0x63, 0xF9, 0x37, 0x69,
    0x70, 0xE2, 0xD5, 0xF2, 0xB9, 0x6C, 0x63, 0x31]

/-- What the key agreement returns for the two keys. -/
def agreements : List (Key × Key × Key) :=
  [(device.seed, anaPubkey, anaSecret), (device.seed, boPubkey, boSecret)]

/-- The plaintext of the message `hi`. -/
def hiPlaintext : Vector UInt8 16 :=
  #v[0x01, 0x02, 0x03, 0x64, 0x00, 0x68, 0x69, 0x00, 0x00, 0x00, 0x00, 0x00,
    0x00, 0x00, 0x00, 0x00]

/-- The message under the secret shared with the owner of the first key. -/
def anaHiCiphertext : Vector UInt8 16 :=
  #v[0x63, 0xE8, 0x61, 0xA8, 0x43, 0x0C, 0x1E, 0x61, 0xC5, 0x8E, 0xC2, 0xD5,
    0xC4, 0x26, 0x6B, 0xB4]

/-- The keyed hash of that ciphertext. -/
def anaHiCode : Vector UInt8 32 :=
  #v[0x8A, 0x83, 0x4F, 0xBA, 0x5E, 0xC4, 0x49, 0xE1, 0x3B, 0x13, 0xB7, 0x26,
    0x84, 0x99, 0xBE, 0xC8, 0xFD, 0xAB, 0x78, 0xB9, 0x7A, 0x3A, 0x2E, 0x1A,
    0x7D, 0xF9, 0x68, 0x41, 0x9E, 0xF6, 0xE5, 0x45]

/-- The hash that acknowledges the message to the device. -/
def deviceHiDigest : Vector UInt8 32 :=
  #v[0xA4, 0xD5, 0x8C, 0xC4, 0xD1, 0x48, 0xCD, 0x39, 0xC5, 0xC9, 0x1D, 0xF1,
    0x7D, 0xCD, 0x5F, 0x49, 0xD4, 0x44, 0x54, 0xFC, 0xF8, 0x26, 0x89, 0xFA,
    0x5E, 0x8A, 0x29, 0x3B, 0x8F, 0xFD, 0x06, 0xD0]

end RecordedKeys

end MeshCadet
