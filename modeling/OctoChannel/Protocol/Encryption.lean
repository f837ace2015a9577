import OctoChannel.Foundation.Base64
import OctoChannel.Identity.Shards
import Mathlib.Logic.Equiv.Basic

/-! `aes_encrypt`, `aes_decrypt` and the key that both ends derive. The ciphers themselves are
the `cryptography` package's. -/

namespace OctoChannel.Protocol

open Foundation

/-- The encryptor and the decryptor of `Cipher(algorithms.AES(key), modes.CBC(iv))`, each with
its `finalize`. -/
structure Cipher where
  encrypt : Bytes → Except PyError Bytes
  decrypt : Bytes → Except PyError Bytes

/-- What the protocol calls of `cryptography` and `hashlib`: the padder and the unpadder of
`PKCS7(128)`, AES in CBC mode from a key and an IV, X25519 on raw keys, and MD5. -/
structure Primitives where
  pad : Bytes → Bytes
  unpad : Bytes → Except PyError Bytes
  cipher : Bytes → Bytes → Except PyError Cipher
  publicKey : Bytes → Bytes
  exchange : Bytes → Bytes → Except PyError Bytes
  md5 : Bytes → { digest : Bytes // digest.length = 16 }

/-- What the package documents of padding and mode: the padder fills up whole blocks and only
its own output can be unpadded; of no more than sixteen bytes AES takes exactly sixteen for a
key, and CBC for an IV; whole blocks can be encrypted, and are what decryption brings back. -/
structure Primitives.Documented (primitives : Primitives) : Prop where
  pad_whole : ∀ data, 16 ∣ (primitives.pad data).length
  unpad_iff : ∀ padded data, primitives.unpad padded = .ok data ↔ primitives.pad data = padded
  cipher_iff : ∀ key iv : Bytes, key.length ≤ 16 → iv.length ≤ 16 →
    ((∃ cipher, primitives.cipher key iv = .ok cipher) ↔ key.length = 16 ∧ iv.length = 16)
  encrypt_whole : ∀ key iv cipher, primitives.cipher key iv = .ok cipher →
    ∀ data, (∃ encrypted, cipher.encrypt data = .ok encrypted) ↔ 16 ∣ data.length
  decrypt_iff : ∀ key iv cipher, primitives.cipher key iv = .ok cipher →
    ∀ data encrypted, cipher.decrypt encrypted = .ok data ↔ cipher.encrypt data = .ok encrypted

variable (primitives : Primitives)

def aesEncrypt (plaintext aesKey aesIv : PyStr) : Except PyError PyStr :=
  match utf8Encode aesKey, utf8Encode aesIv, utf8Encode plaintext with
  | some key, some iv, some data =>
    match primitives.cipher (key.take 16) (iv.take 16) with
    | .error error => .error error
    | .ok cipher => (cipher.encrypt (primitives.pad data)).map b64encode
  | _, _, _ => .error .unicodeError

def aesDecrypt (data : Bytes) (aesKey aesIv : PyStr) : Except PyError Bytes :=
  match utf8Encode aesKey, utf8Encode aesIv with
  | some key, some iv =>
    match looseB64decode (latin1 data) with
    | .error error => .error error
    | .ok ciphertext =>
      match primitives.cipher (key.take 16) (iv.take 16) with
      | .error error => .error error
      | .ok cipher =>
        match cipher.decrypt ciphertext with
        | .error error => .error error
        | .ok padded => primitives.unpad padded
  | _, _ => .error .unicodeError

/-- The text is encoded in sixteen bytes or more. -/
def Whole (text : PyStr) : Prop := ∃ raw, utf8Encode text = some raw ∧ 16 ≤ raw.length

/-- The cipher of the first sixteen bytes of a key and of an IV. -/
def Keyed (aesKey aesIv : PyStr) (cipher : Cipher) : Prop :=
  ∃ key iv, utf8Encode aesKey = some key ∧ utf8Encode aesIv = some iv ∧
    primitives.cipher (key.take 16) (iv.take 16) = .ok cipher

variable {primitives} {aesKey aesIv : PyStr} {cipher : Cipher} {plaintext data : Bytes}

theorem keyed_exists_iff (documented : primitives.Documented) :
    (∃ cipher, Keyed primitives aesKey aesIv cipher) ↔ Whole aesKey ∧ Whole aesIv := by
  have cut (raw : Bytes) : (raw.take 16).length = 16 ↔ 16 ≤ raw.length := by
    rw [List.length_take]
    omega
  have short (raw : Bytes) : (raw.take 16).length ≤ 16 := List.length_take_le 16 raw
  constructor
  · rintro ⟨cipher, key, iv, keyed, started, ready⟩
    obtain ⟨first, second⟩ :=
      (documented.cipher_iff _ _ (short key) (short iv)).mp ⟨cipher, ready⟩
    exact ⟨⟨key, keyed, (cut key).mp first⟩, ⟨iv, started, (cut iv).mp second⟩⟩
  · rintro ⟨⟨key, keyed, first⟩, iv, started, second⟩
    obtain ⟨cipher, ready⟩ := (documented.cipher_iff _ _ (short key) (short iv)).mpr
      ⟨(cut key).mpr first, (cut iv).mpr second⟩
    exact ⟨cipher, key, iv, keyed, started, ready⟩

theorem aesEncrypt_eq_ok_iff {text sealed : PyStr} :
    aesEncrypt primitives text aesKey aesIv = .ok sealed ↔
      ∃ cipher plaintext ciphertext, Keyed primitives aesKey aesIv cipher ∧
        utf8Encode text = some plaintext ∧
        cipher.encrypt (primitives.pad plaintext) = .ok ciphertext ∧
        sealed = b64encode ciphertext := by
  constructor
  · intro encrypted
    unfold aesEncrypt at encrypted
    split at encrypted
    · rename_i key iv plaintext keyed started encoded
      split at encrypted
      · cases encrypted
      · rename_i cipher ready
        cases made : cipher.encrypt (primitives.pad plaintext) with
        | error error =>
          rw [made] at encrypted
          cases encrypted
        | ok ciphertext =>
          rw [made] at encrypted
          cases encrypted
          exact ⟨cipher, plaintext, ciphertext, ⟨key, iv, keyed, started, ready⟩, encoded, made,
            rfl⟩
    · cases encrypted
  · rintro ⟨cipher, plaintext, ciphertext, ⟨key, iv, keyed, started, ready⟩, encoded, made, rfl⟩
    rw [aesEncrypt, keyed, started, encoded]
    dsimp only
    rw [ready]
    dsimp only
    rw [made]
    rfl

/-- Exactly the base64 of the ciphertext of a padded text is decrypted, and to that text. -/
theorem aesDecrypt_eq_ok_iff (documented : primitives.Documented) :
    aesDecrypt primitives data aesKey aesIv = .ok plaintext ↔
      ∃ cipher ciphertext, Keyed primitives aesKey aesIv cipher ∧
        looseB64decode (latin1 data) = .ok ciphertext ∧
        cipher.encrypt (primitives.pad plaintext) = .ok ciphertext := by
  constructor
  · intro decrypted
    unfold aesDecrypt at decrypted
    split at decrypted
    · rename_i key iv keyed started
      split at decrypted
      · cases decrypted
      · rename_i ciphertext decoded
        split at decrypted
        · cases decrypted
        · rename_i cipher ready
          split at decrypted
          · cases decrypted
          · rename_i padded opened
            refine ⟨cipher, ciphertext, ⟨key, iv, keyed, started, ready⟩, decoded, ?_⟩
            rw [(documented.unpad_iff padded plaintext).mp decrypted]
            exact (documented.decrypt_iff _ _ cipher ready padded ciphertext).mp opened
    · cases decrypted
  · rintro ⟨cipher, ciphertext, ⟨key, iv, keyed, started, ready⟩, decoded, made⟩
    have opened := (documented.decrypt_iff _ _ cipher ready _ ciphertext).mpr made
    rw [aesDecrypt, keyed, started]
    dsimp only
    rw [decoded]
    dsimp only
    rw [ready]
    dsimp only
    rw [opened]
    exact (documented.unpad_iff _ plaintext).mpr rfl

/-- What is encrypted under a key and an IV is decrypted under them. -/
theorem aesDecrypt_aesEncrypt (documented : primitives.Documented) {text sealed : PyStr}
    (encrypted : aesEncrypt primitives text aesKey aesIv = .ok sealed) :
    ∃ plaintext, utf8Encode text = some plaintext ∧
      aesDecrypt primitives (asciiBytes sealed) aesKey aesIv = .ok plaintext := by
  obtain ⟨cipher, plaintext, ciphertext, keyed, encoded, made, rfl⟩ :=
    aesEncrypt_eq_ok_iff.mp encrypted
  refine ⟨plaintext, encoded, (aesDecrypt_eq_ok_iff documented).mpr
    ⟨cipher, ciphertext, keyed, ?_, made⟩⟩
  rw [latin1_asciiBytes (ascii_b64encode ciphertext), looseB64decode_b64encode]

/-- Exactly the texts without lone surrogates are encrypted, under a whole key and a whole IV;
exactly the base64 of the ciphertext of a padded text is decrypted, and to that text; and
decryption undoes encryption. -/
structure Inverse (primitives : Primitives) (aesKey aesIv : PyStr) : Prop where
  encrypts : ∀ text, (∃ sealed, aesEncrypt primitives text aesKey aesIv = .ok sealed) ↔
    Encodable text ∧ Whole aesKey ∧ Whole aesIv
  decrypts : ∀ data plaintext, aesDecrypt primitives data aesKey aesIv = .ok plaintext ↔
    ∃ cipher ciphertext, Keyed primitives aesKey aesIv cipher ∧
      looseB64decode (latin1 data) = .ok ciphertext ∧
      cipher.encrypt (primitives.pad plaintext) = .ok ciphertext
  undoes : ∀ text sealed, aesEncrypt primitives text aesKey aesIv = .ok sealed →
    ∃ plaintext, utf8Encode text = some plaintext ∧
      aesDecrypt primitives (asciiBytes sealed) aesKey aesIv = .ok plaintext

theorem aes_inverse (documented : primitives.Documented) (aesKey aesIv : PyStr) :
    Inverse primitives aesKey aesIv where
  encrypts text := by
    constructor
    · rintro ⟨sealed, encrypted⟩
      obtain ⟨cipher, plaintext, ciphertext, keyed, encoded, -⟩ :=
        aesEncrypt_eq_ok_iff.mp encrypted
      exact ⟨(utf8Encode_isSome_iff text).mp (encoded ▸ rfl),
        (keyed_exists_iff documented).mp ⟨cipher, keyed⟩⟩
    · rintro ⟨encodable, whole⟩
      obtain ⟨plaintext, encoded⟩ :=
        Option.isSome_iff_exists.mp ((utf8Encode_isSome_iff text).mpr encodable)
      obtain ⟨cipher, key, iv, keyed, started, ready⟩ := (keyed_exists_iff documented).mpr whole
      obtain ⟨ciphertext, made⟩ := (documented.encrypt_whole _ _ cipher ready _).mpr
        (documented.pad_whole plaintext)
      exact ⟨_, aesEncrypt_eq_ok_iff.mpr
        ⟨cipher, plaintext, ciphertext, ⟨key, iv, keyed, started, ready⟩, encoded, made, rfl⟩⟩
  decrypts _ _ := aesDecrypt_eq_ok_iff documented
  undoes _ _ := aesDecrypt_aesEncrypt documented

def samplePad (data : Bytes) : Bytes :=
  data ++ List.replicate (16 - data.length % 16) (UInt8.ofNat (16 - data.length % 16))

/-- The last byte is how many bytes the padding has. -/
def sampleUnpad (padded : Bytes) : Except PyError Bytes :=
  let data := padded.take (padded.length - (padded.getLastD 0).toNat)
  if samplePad data = padded then .ok data
  else .error (.valueError "Invalid padding bytes.")

/-- The padded text of the sample, and AES of it under the key and the IV of the sample. -/
def samplePadded : Bytes :=
  [0x7b, 0x22, 0x74, 0x79, 0x70, 0x65, 0x22, 0x3a, 0x31, 0x7d, 0x06, 0x06, 0x06, 0x06, 0x06, 0x06]

def sampleEncrypted : Bytes :=
  [0x4f, 0xc8, 0xe6, 0x46, 0xe1, 0x71, 0x52, 0x62, 0xea, 0x15, 0x4e, 0x60, 0x5e, 0x50, 0xac, 0x7d]

def sampleCrypt (data : Bytes) : Except PyError Bytes :=
  if 16 ∣ data.length then .ok (Equiv.swap samplePadded sampleEncrypted data)
  else .error (.valueError
    "The length of the provided data is not a multiple of the block length.")

def sampleCipher (key iv : Bytes) : Except PyError Cipher :=
  if key.length = 16 ∧ iv.length = 16 then .ok ⟨sampleCrypt, sampleCrypt⟩
  else .error (.valueError "Invalid key size for AES.")

def sampleClientKey : Bytes := (List.range 32).map fun index => UInt8.ofNat (index + 1)

def sampleClientPublic : Bytes :=
  [0x07, 0xa3, 0x7c, 0xbc, 0x14, 0x20, 0x93, 0xc8, 0xb7, 0x55, 0xdc, 0x1b, 0x10, 0xe8, 0x6c, 0xb4,
    0x26, 0x37, 0x4a, 0xd1, 0x6a, 0xa8, 0x53, 0xed, 0x0b, 0xdf, 0xc0, 0xb2, 0xb8, 0x6d, 0x1c, 0x7c]

def sampleServerPublic : Bytes :=
  [0x58, 0x69, 0xaf, 0xf4, 0x50, 0x54, 0x97, 0x32, 0xcb, 0xaa, 0xed, 0x5e, 0x5d, 0xf9, 0xb3, 0x0a,
    0x6d, 0xa3, 0x1c, 0xb0, 0xe5, 0x74, 0x2b, 0xad, 0x5a, 0xd4, 0xa1, 0xa7, 0x68, 0xf1, 0xa6, 0x7b]

def sampleSecret : Bytes :=
  [0xa8, 0x4d, 0xc7, 0xc3, 0xc8, 0xf0, 0x58, 0xb1, 0xb2, 0xdc, 0x4c, 0xd1, 0xe9, 0xb5, 0xdc, 0x0a,
    0x79, 0x87, 0xf8, 0x8b, 0x6a, 0x95, 0x64, 0xcd, 0xe3, 0x39, 0x1f, 0xc4, 0x21, 0x15, 0x9e, 0x77]

/-- The MD5 digest of the secret in base64. -/
def sampleDigest : { digest : Bytes // digest.length = 16 } :=
  ⟨[0x8e, 0x65, 0x54, 0x9a, 0xc3, 0xe5, 0x9b, 0xa4, 0x16, 0x80, 0xcb, 0x1e, 0xbc, 0x93, 0x7b,
    0x38], rfl⟩

/-- The primitives as they are on the inputs of the sample. -/
def samplePrimitives : Primitives where
  pad := samplePad
  unpad := sampleUnpad
  cipher := sampleCipher
  publicKey key := if key = sampleClientKey then sampleClientPublic else sampleServerPublic
  exchange _ _ := .ok sampleSecret
  md5 _ := sampleDigest

private theorem dvd_length_samplePad (data : Bytes) : 16 ∣ (samplePad data).length := by
  rw [samplePad, List.length_append, List.length_replicate]
  omega

private theorem sampleUnpad_samplePad (data : Bytes) : sampleUnpad (samplePad data) = .ok data := by
  have count : 0 < 16 - data.length % 16 ∧ 16 - data.length % 16 < 256 := by omega
  have last : ((samplePad data).getLastD 0).toNat = 16 - data.length % 16 := by
    rw [samplePad, List.getLastD_eq_getLast?, List.getLast?_append, List.getLast?_replicate,
      if_neg (Nat.ne_of_gt count.1), Option.some_or, Option.getD_some, UInt8.toNat_ofNat']
    exact Nat.mod_eq_of_lt count.2
  have front : (samplePad data).take
      ((samplePad data).length - ((samplePad data).getLastD 0).toNat) = data := by
    rw [last, samplePad, List.length_append, List.length_replicate, Nat.add_sub_cancel,
      List.take_left]
  rw [sampleUnpad, front, if_pos rfl]

private theorem sampleUnpad_eq_ok_iff (padded data : Bytes) :
    sampleUnpad padded = .ok data ↔ samplePad data = padded := by
  constructor
  · intro taken
    unfold sampleUnpad at taken
    dsimp only at taken
    split at taken
    · rename_i same
      exact Except.ok.inj taken ▸ same
    · cases taken
  · rintro rfl
    exact sampleUnpad_samplePad data

private theorem sampleCrypt_eq_ok_iff {data encrypted : Bytes} :
    sampleCrypt data = .ok encrypted ↔
      16 ∣ data.length ∧ Equiv.swap samplePadded sampleEncrypted data = encrypted := by
  rw [sampleCrypt]
  split
  · rename_i whole
    exact ⟨fun same => ⟨whole, Except.ok.inj same⟩, fun ⟨_, same⟩ => congrArg Except.ok same⟩
  · rename_i cut
    exact iff_of_false nofun fun ⟨whole, _⟩ => cut whole

/-- Both texts that are swapped are one block. -/
private theorem dvd_length_swap (data : Bytes) :
    16 ∣ (Equiv.swap samplePadded sampleEncrypted data).length ↔ 16 ∣ data.length := by
  rw [Equiv.swap_apply_def]
  split
  · rename_i same
    subst same
    decide
  · split
    · rename_i same
      subst same
      decide
    · exact Iff.rfl

private theorem sampleCipher_eq_ok_iff {key iv : Bytes} {cipher : Cipher} :
    sampleCipher key iv = .ok cipher ↔
      (key.length = 16 ∧ iv.length = 16) ∧ cipher = ⟨sampleCrypt, sampleCrypt⟩ := by
  rw [sampleCipher]
  split
  · rename_i whole
    exact ⟨fun made => ⟨whole, (Except.ok.inj made).symm⟩, fun ⟨_, same⟩ => congrArg _ same.symm⟩
  · rename_i cut
    exact iff_of_false nofun fun ⟨whole, _⟩ => cut whole

theorem samplePrimitives_documented : samplePrimitives.Documented where
  pad_whole := dvd_length_samplePad
  unpad_iff := sampleUnpad_eq_ok_iff
  cipher_iff key iv _ _ :=
    ⟨fun ⟨_, made⟩ => (sampleCipher_eq_ok_iff.mp made).1,
      fun whole => ⟨_, sampleCipher_eq_ok_iff.mpr ⟨whole, rfl⟩⟩⟩
  encrypt_whole key iv cipher made data := by
    obtain ⟨-, rfl⟩ := sampleCipher_eq_ok_iff.mp made
    exact ⟨fun ⟨_, crypted⟩ => (sampleCrypt_eq_ok_iff.mp crypted).1,
      fun whole => ⟨_, sampleCrypt_eq_ok_iff.mpr ⟨whole, rfl⟩⟩⟩
  decrypt_iff key iv cipher made data encrypted := by
    obtain ⟨-, rfl⟩ := sampleCipher_eq_ok_iff.mp made
    -- A swap is its own inverse.
    have back {first second : Bytes} (crypted : sampleCrypt first = .ok second) :
        sampleCrypt second = .ok first := by
      obtain ⟨whole, rfl⟩ := sampleCrypt_eq_ok_iff.mp crypted
      exact sampleCrypt_eq_ok_iff.mpr
        ⟨(dvd_length_swap first).mpr whole, Equiv.swap_apply_self _ _ first⟩
    exact ⟨back, back⟩

def sampleText : PyStr := py "\x7b\"type\":1\x7d"

theorem sampleText_encrypted :
    aesEncrypt samplePrimitives sampleText (py "8e65549ac3e59ba4") (List.replicate 16 (ch 's')) =
      .ok (b64encode sampleEncrypted) := by
  decide +kernel

theorem aes_inverse_sample :
    Inverse samplePrimitives (py "8e65549ac3e59ba4") (List.replicate 16 (ch 's')) ∧
      aesEncrypt samplePrimitives sampleText (py "8e65549ac3e59ba4")
        (List.replicate 16 (ch 's')) = .ok (b64encode sampleEncrypted) :=
  ⟨aes_inverse samplePrimitives_documented _ _, sampleText_encrypted⟩

end OctoChannel.Protocol
