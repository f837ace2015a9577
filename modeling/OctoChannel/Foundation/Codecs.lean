import OctoChannel.Foundation.ByteSizes

namespace OctoChannel.Foundation

/-- The six bits of a character. -/
def sextet (point : CodePoint) : Option Nat :=
  if 0x41 ≤ point.val ∧ point.val ≤ 0x5a then some (point.val - 0x41)
  else if 0x61 ≤ point.val ∧ point.val ≤ 0x7a then some (point.val - 0x61 + 26)
  else if 0x30 ≤ point.val ∧ point.val ≤ 0x39 then some (point.val - 0x30 + 52)
  else if point = ch '+' then some 62
  else if point = ch '/' then some 63
  else none

/-- The bytes of a group of four; only the last group may be padded. -/
def decodeGroup (last : Bool) (first second third fourth : CodePoint) : Option Bytes := do
  let one ← sextet first
  let two ← sextet second
  let front := UInt8.ofNat (one * 4 + two / 16)
  if last ∧ third = ch '=' ∧ fourth = ch '=' then return [front]
  let three ← sextet third
  let middle := UInt8.ofNat (two * 16 + three / 4)
  if last ∧ fourth = ch '=' then return [front, middle]
  let four ← sextet fourth
  return [front, middle, UInt8.ofNat (three * 64 + four)]

/-- `base64.b64decode(text, validate=True)` by the strict rules; Python 3.11 and 3.12 also let
surplus `=` through. -/
def b64decode : PyStr → Option Bytes
  | [] => some []
  | first :: second :: third :: fourth :: rest => do
    let group ← decodeGroup rest.isEmpty first second third fourth
    let others ← b64decode rest
    return group ++ others
  | _ => none

example : b64decode (py "TWFu") = some [0x4d, 0x61, 0x6e] := by decide

/-- The padding characters that a text ends in. -/
def base64Padding (text : PyStr) : Nat :=
  if py "==" <:+ text then 2 else if py "=" <:+ text then 1 else 0

theorem sextet_pad : sextet (ch '=') = none := by decide

theorem base64Padding_cons (point : CodePoint) {rest : PyStr} (long : 2 ≤ rest.length) :
    base64Padding (point :: rest) = base64Padding rest := by
  have behind (mark : PyStr) (short : mark.length ≤ 2) : mark <:+ point :: rest ↔ mark <:+ rest := by
    refine List.suffix_cons_iff.trans (or_iff_right ?_)
    intro same
    rw [same, List.length_cons] at short
    omega
  have double := behind (py "==") (by decide)
  have single := behind (py "=") (by decide)
  simp only [base64Padding, double, single]

/-- A group within a text stands for three bytes. -/
theorem length_decodeGroup_inner {first second third fourth : CodePoint} {bytes : Bytes}
    (decoded : decodeGroup false first second third fourth = some bytes) : bytes.length = 3 := by
  simp only [decodeGroup, Bool.false_eq_true, false_and, if_false, Option.bind_eq_bind,
    Option.bind_eq_some_iff, Option.pure_def, Option.some.injEq] at decoded
  obtain ⟨one, -, two, -, three, -, four, -, same⟩ := decoded
  rw [← same]
  rfl

theorem base64Padding_group (first second third fourth : CodePoint) :
    base64Padding [first, second, third, fourth] =
      if fourth = ch '=' then if third = ch '=' then 2 else 1 else 0 := by
  have double : py "==" <:+ [first, second, third, fourth] ↔ third = ch '=' ∧ fourth = ch '=' := by
    constructor
    · intro ends
      have same := (List.suffix_iff_eq_drop.mp ends).symm
      injection same with mark rest
      injection rest with last
      exact ⟨mark, last⟩
    · rintro ⟨rfl, rfl⟩
      exact ⟨[first, second], rfl⟩
  have single : py "=" <:+ [first, second, third, fourth] ↔ fourth = ch '=' := by
    constructor
    · intro ends
      have same := (List.suffix_iff_eq_drop.mp ends).symm
      injection same with last
    · rintro rfl
      exact ⟨[first, second, third], rfl⟩
  simp only [base64Padding, double, single]
  split_ifs <;> tauto

/-- The last group stands for as many bytes as its padding leaves. -/
theorem length_decodeGroup_last {first second third fourth : CodePoint} {bytes : Bytes}
    (decoded : decodeGroup true first second third fourth = some bytes) :
    bytes.length + base64Padding [first, second, third, fourth] = 3 := by
  rw [base64Padding_group]
  simp only [decodeGroup, true_and, Option.bind_eq_bind, Option.bind_eq_some_iff,
    Option.pure_def] at decoded
  obtain ⟨one, -, two, -, read⟩ := decoded
  by_cases double : third = ch '=' ∧ fourth = ch '='
  · rw [if_pos double] at read
    rw [if_pos double.2, if_pos double.1, ← Option.some.inj read]
    rfl
  · rw [if_neg double, Option.bind_eq_some_iff] at read
    obtain ⟨three, found, read⟩ := read
    have inner : third ≠ ch '=' := by
      rintro rfl
      rw [sextet_pad] at found
      cases found
    by_cases single : fourth = ch '='
    · rw [if_pos single] at read
      rw [if_pos single, if_neg inner, ← Option.some.inj read]
      rfl
    · rw [if_neg single, Option.bind_eq_some_iff] at read
      obtain ⟨four, -, read⟩ := read
      rw [if_neg single, ← Option.some.inj read]
      rfl

/-- The length of a text in base64 and its padding say how many bytes it stands for. -/
theorem length_b64decode {text : PyStr} {bytes : Bytes} (decoded : b64decode text = some bytes) :
    ∃ groups, text.length = 4 * groups ∧ bytes.length + base64Padding text = 3 * groups := by
  induction text using b64decode.induct generalizing bytes with
  | case1 =>
    cases decoded
    exact ⟨0, rfl, rfl⟩
  | case2 first second third fourth rest ih =>
    simp only [b64decode, Option.bind_eq_bind, Option.bind_eq_some_iff, Option.pure_def] at decoded
    obtain ⟨group, front, others, later, whole⟩ := decoded
    obtain ⟨groups, size, total⟩ := ih later
    refine ⟨groups + 1, by simp only [List.length_cons]; omega, ?_⟩
    rw [← Option.some.inj whole, List.length_append]
    cases rest with
    | nil =>
      cases later
      have ends := length_decodeGroup_last front
      rw [List.length_nil] at size ⊢
      omega
    | cons next tail =>
      have inner := length_decodeGroup_inner front
      rw [List.length_cons] at size
      have long : 2 ≤ (next :: tail).length := by
        rw [List.length_cons]
        omega
      rw [base64Padding_cons, base64Padding_cons, base64Padding_cons, base64Padding_cons _ long]
      · omega
      all_goals
        simp only [List.length_cons]
        omega
  | case3 text short ungrouped =>
    rw [b64decode] at decoded
    · cases decoded
    · exact short
    · exact ungrouped

def hexNibble (byte : UInt8) : Option Nat :=
  if 0x30 ≤ byte ∧ byte ≤ 0x39 then some (byte.toNat - 0x30)
  else if 0x41 ≤ byte ∧ byte ≤ 0x46 then some (byte.toNat - 0x37)
  else if 0x61 ≤ byte ∧ byte ≤ 0x66 then some (byte.toNat - 0x57)
  else none

/-- The byte of an escape; anything but `%` and two hex digits is none. -/
def percentByte (byte high low : UInt8) : Option UInt8 :=
  if byte = 0x25 then do
    return UInt8.ofNat ((← hexNibble high) * 16 + (← hexNibble low))
  else none

def unquoteBytes : Bytes → Bytes
  | byte :: high :: low :: rest =>
    match percentByte byte high low with
    | some value => value :: unquoteBytes rest
    | none => byte :: unquoteBytes (high :: low :: rest)
  | short => short

/-- `urllib.parse.unquote_to_bytes`: a lone surrogate cannot be encoded. -/
def unquoteToBytes (text : PyStr) : Option Bytes := (utf8Encode text).map unquoteBytes

example : unquoteToBytes (py "a%2Fb%zz%") = some [0x61, 0x2f, 0x62, 0x25, 0x7a, 0x7a, 0x25] := by
  decide

theorem length_le_unquoteBytes (bytes : Bytes) : bytes.length ≤ 3 * (unquoteBytes bytes).length := by
  induction bytes using unquoteBytes.induct with
  | case1 byte high low rest value found ih =>
    simp only [unquoteBytes, found, List.length_cons]
    omega
  | case2 byte high low rest plain ih =>
    simp only [unquoteBytes, plain, List.length_cons] at ih ⊢
    omega
  | case3 short few =>
    rw [unquoteBytes]
    · omega
    · exact few

theorem length_le_utf8Encode {text : PyStr} {bytes : Bytes} (encoded : utf8Encode text = some bytes) :
    text.length ≤ bytes.length := by
  have encodable : Encodable text := (utf8Encode_isSome_iff text).mp (by rw [encoded]; rfl)
  rw [length_utf8Encode encoded]
  clear encoded
  induction text with
  | nil => exact Nat.zero_le _
  | cons point rest ih =>
    obtain ⟨scalar, later⟩ := encodable_cons.mp encodable
    obtain ⟨char, found⟩ := Option.isSome_iff_exists.mp scalar
    have wide : 0 < pointBytes point := by
      rw [pointBytes, found]
      exact Char.utf8Size_pos char
    rw [List.length_cons, weigh_cons]
    have := ih later
    omega

/-- A text stands for at least a third as many bytes as it has characters. -/
theorem length_le_unquoteToBytes {text : PyStr} {bytes : Bytes}
    (decoded : unquoteToBytes text = some bytes) : text.length ≤ 3 * bytes.length := by
  obtain ⟨raw, encoded, unquoted⟩ := Option.map_eq_some_iff.mp decoded
  rw [← unquoted]
  exact (length_le_utf8Encode encoded).trans (length_le_unquoteBytes raw)

end OctoChannel.Foundation
