import OctoChannel.Foundation.Codecs

namespace OctoChannel.Foundation

/-- The character of six bits. -/
def base64Char (bits : Nat) : CodePoint :=
  if bits < 26 then Fin.ofNat _ (0x41 + bits)
  else if bits < 52 then Fin.ofNat _ (0x61 + (bits - 26))
  else if bits < 62 then Fin.ofNat _ (0x30 + (bits - 52))
  else if bits = 62 then ch '+'
  else ch '/'

/-- `base64.b64encode(bytes).decode("ascii")` -/
def b64encode : Bytes → PyStr
  | [] => []
  | [first] =>
    [base64Char (first.toNat / 4), base64Char (first.toNat % 4 * 16), ch '=', ch '=']
  | [first, second] =>
    [base64Char (first.toNat / 4), base64Char (first.toNat % 4 * 16 + second.toNat / 16),
      base64Char (second.toNat % 16 * 4), ch '=']
  | first :: second :: third :: rest =>
    [base64Char (first.toNat / 4), base64Char (first.toNat % 4 * 16 + second.toNat / 16),
      base64Char (second.toNat % 16 * 4 + third.toNat / 64), base64Char (third.toNat % 64)] ++
      b64encode rest

example : b64encode [0x4d, 0x61] = py "TWE=" := by decide

/-- `binascii.a2b_base64` without `strict_mode`: how many characters of the group of four
have been read, which of their bits are left over, and how many padding characters followed. -/
def a2bBase64 (position left pads : Nat) : PyStr → Option Bytes
  | [] => if position = 0 then some [] else none
  | point :: rest =>
    if point = ch '=' then
      -- the padding that fills up a group ends the text, whatever follows
      if 2 ≤ position then
        if 4 ≤ position + (pads + 1) then some [] else a2bBase64 position left (pads + 1) rest
      else a2bBase64 position left pads rest
    else
      match sextet point with
      | none => a2bBase64 position left pads rest
      | some bits =>
        match position with
        | 0 => a2bBase64 1 bits 0 rest
        | 1 => (a2bBase64 2 (bits % 16) 0 rest).map (UInt8.ofNat (left * 4 + bits / 16) :: ·)
        | 2 => (a2bBase64 3 (bits % 4) 0 rest).map (UInt8.ofNat (left * 16 + bits / 4) :: ·)
        | _ => (a2bBase64 0 0 0 rest).map (UInt8.ofNat (left * 64 + bits) :: ·)

/-- `base64.b64decode(text)`: what is not ASCII is refused, and so is an unfinished group. -/
def looseB64decode (text : PyStr) : Except PyError Bytes :=
  if text.all fun point => point.val < 128 then
    match a2bBase64 0 0 0 text with
    | some bytes => .ok bytes
    | none => .error (.valueError "Incorrect padding")
  else .error (.valueError "string argument should contain only ASCII characters")

example : looseB64decode (py "T W\nE=!") = .ok [0x4d, 0x61] := by decide

theorem sextet_base64Char {bits : Nat} (small : bits < 64) :
    sextet (base64Char bits) = some bits := by
  have every : ∀ value : Fin 64, sextet (base64Char value.val) = some value.val := by
    decide +kernel
  exact every ⟨bits, small⟩

theorem base64Char_ne_pad {bits : Nat} (small : bits < 64) : base64Char bits ≠ ch '=' := by
  intro same
  have known := sextet_base64Char small
  rw [same, sextet_pad] at known
  cases known

theorem base64Char_lt {bits : Nat} (small : bits < 64) : (base64Char bits).val < 128 := by
  have every : ∀ value : Fin 64, (base64Char value.val).val < 128 := by decide +kernel
  exact every ⟨bits, small⟩

private theorem byte_eq (byte : UInt8) {value : Nat} (same : value = byte.toNat) :
    UInt8.ofNat value = byte := by
  rw [same, UInt8.ofNat_toNat]

/-- One character of the alphabet. -/
private theorem a2bBase64_char {bits : Nat} (small : bits < 64) (position left pads : Nat)
    (rest : PyStr) : a2bBase64 position left pads (base64Char bits :: rest) =
      match position with
      | 0 => a2bBase64 1 bits 0 rest
      | 1 => (a2bBase64 2 (bits % 16) 0 rest).map (UInt8.ofNat (left * 4 + bits / 16) :: ·)
      | 2 => (a2bBase64 3 (bits % 4) 0 rest).map (UInt8.ofNat (left * 16 + bits / 4) :: ·)
      | _ => (a2bBase64 0 0 0 rest).map (UInt8.ofNat (left * 64 + bits) :: ·) := by
  rw [a2bBase64, if_neg (base64Char_ne_pad small), sextet_base64Char small]

/-- The first two characters of a group, whose last four bits belong to the second byte. -/
private theorem a2bBase64_front (first : UInt8) {high : Nat} (small : high < 16) (rest : PyStr) :
    a2bBase64 0 0 0
        (base64Char (first.toNat / 4) :: base64Char (first.toNat % 4 * 16 + high) :: rest) =
      (a2bBase64 2 high 0 rest).map (first :: ·) := by
  have bound := first.toNat_lt
  have second : a2bBase64 1 (first.toNat / 4) 0 (base64Char (first.toNat % 4 * 16 + high) :: rest) =
      (a2bBase64 2 ((first.toNat % 4 * 16 + high) % 16) 0 rest).map
        (UInt8.ofNat (first.toNat / 4 * 4 + (first.toNat % 4 * 16 + high) / 16) :: ·) :=
    a2bBase64_char (by omega) 1 (first.toNat / 4) 0 rest
  rw [show (first.toNat % 4 * 16 + high) % 16 = high by omega, byte_eq first (by omega)] at second
  exact (a2bBase64_char (show first.toNat / 4 < 64 by omega) 0 0 0 _).trans second

/-- The third character, whose last two bits belong to the third byte. -/
private theorem a2bBase64_middle (second : UInt8) {high : Nat} (small : high < 4) (rest : PyStr) :
    a2bBase64 2 (second.toNat / 16) 0 (base64Char (second.toNat % 16 * 4 + high) :: rest) =
      (a2bBase64 3 high 0 rest).map (second :: ·) := by
  have third :
      a2bBase64 2 (second.toNat / 16) 0 (base64Char (second.toNat % 16 * 4 + high) :: rest) =
      (a2bBase64 3 ((second.toNat % 16 * 4 + high) % 4) 0 rest).map
        (UInt8.ofNat (second.toNat / 16 * 16 + (second.toNat % 16 * 4 + high) / 4) :: ·) :=
    a2bBase64_char (by omega) 2 (second.toNat / 16) 0 rest
  rw [show (second.toNat % 16 * 4 + high) % 4 = high by omega, byte_eq second (by omega)] at third
  exact third

private theorem a2bBase64_back (third : UInt8) (rest : PyStr) :
    a2bBase64 3 (third.toNat / 64) 0 (base64Char (third.toNat % 64) :: rest) =
      (a2bBase64 0 0 0 rest).map (third :: ·) := by
  have fourth : a2bBase64 3 (third.toNat / 64) 0 (base64Char (third.toNat % 64) :: rest) =
      (a2bBase64 0 0 0 rest).map (UInt8.ofNat (third.toNat / 64 * 64 + third.toNat % 64) :: ·) :=
    a2bBase64_char (by omega) 3 (third.toNat / 64) 0 rest
  rw [byte_eq third (by omega)] at fourth
  exact fourth

theorem a2bBase64_b64encode (bytes : Bytes) : a2bBase64 0 0 0 (b64encode bytes) = some bytes := by
  induction bytes using b64encode.induct with
  | case1 => rfl
  | case2 first =>
    have front := a2bBase64_front first (show 0 < 16 by decide) [ch '=', ch '=']
    rw [Nat.add_zero] at front
    rw [b64encode, front]
    rfl
  | case3 first second =>
    have bound := second.toNat_lt
    have middle := a2bBase64_middle second (show 0 < 4 by decide) [ch '=']
    rw [Nat.add_zero] at middle
    rw [b64encode, a2bBase64_front first (by omega), middle]
    rfl
  | case4 first second third rest ih =>
    have bound := second.toNat_lt
    have bound' := third.toNat_lt
    rw [b64encode, List.cons_append, List.cons_append, List.cons_append, List.cons_append,
      List.nil_append, a2bBase64_front first (by omega), a2bBase64_middle second (by omega),
      a2bBase64_back, ih]
    rfl

theorem ascii_b64encode (bytes : Bytes) : ∀ point ∈ b64encode bytes, point.val < 128 := by
  have pad : (ch '=').val < 128 := by decide
  induction bytes using b64encode.induct with
  | case1 => simp [b64encode]
  | case2 first =>
    have bound := first.toNat_lt
    simp only [b64encode, List.forall_mem_cons]
    exact ⟨base64Char_lt (by omega), base64Char_lt (by omega), pad, pad, by simp⟩
  | case3 first second =>
    have bound := first.toNat_lt
    have bound' := second.toNat_lt
    simp only [b64encode, List.forall_mem_cons]
    exact ⟨base64Char_lt (by omega), base64Char_lt (by omega), base64Char_lt (by omega), pad,
      by simp⟩
  | case4 first second third rest ih =>
    have bound := first.toNat_lt
    have bound' := second.toNat_lt
    have bound'' := third.toNat_lt
    simp only [b64encode, List.cons_append, List.nil_append, List.forall_mem_cons]
    exact ⟨base64Char_lt (by omega), base64Char_lt (by omega), base64Char_lt (by omega),
      base64Char_lt (by omega), ih⟩

theorem looseB64decode_b64encode (bytes : Bytes) :
    looseB64decode (b64encode bytes) = .ok bytes := by
  have ascii : (b64encode bytes).all (fun point => point.val < 128) = true := by
    simpa using ascii_b64encode bytes
  rw [looseB64decode, if_pos ascii, a2bBase64_b64encode]

/-- `bytes.decode("latin-1")` -/
def latin1 (bytes : Bytes) : PyStr := bytes.map fun byte => Fin.ofNat _ byte.toNat

def asciiBytes (text : PyStr) : Bytes := text.map fun point => UInt8.ofNat point.val

theorem latin1_asciiBytes {text : PyStr} (ascii : ∀ point ∈ text, point.val < 128) :
    latin1 (asciiBytes text) = text := by
  induction text with
  | nil => rfl
  | cons point rest ih =>
    rw [List.forall_mem_cons] at ascii
    have back : Fin.ofNat 0x110000 (UInt8.ofNat point.val).toNat = point := by
      apply Fin.ext
      rw [UInt8.toNat_ofNat']
      change point.val % 2 ^ 8 % 0x110000 = point.val
      omega
    change Fin.ofNat 0x110000 (UInt8.ofNat point.val).toNat :: latin1 (asciiBytes rest) = _
    rw [back, ih ascii.2]

end OctoChannel.Foundation
