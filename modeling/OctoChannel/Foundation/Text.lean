import Mathlib.Algebra.GroupWithZero.Nat
import Mathlib.Data.List.TakeWhile
import Mathlib.Order.Fin.Basic
import Mathlib.Data.List.Lex

/-! Text as a sequence of Unicode code points. Unlike Lean strings these may hold
lone surrogates, which is exactly where the strict UTF-8 encoder fails. -/

namespace OctoChannel.Foundation

/-- The exception classes a modelled call can raise. -/
inductive PyError where
  | valueError (message : String)
  | typeError (message : String)
  | unicodeError
  | recursionError
  | osError
  | runtimeError (message : String)
  | indexError
  | structError
  deriving DecidableEq, Repr

/-- `UnicodeDecodeError` and `UnicodeEncodeError` are subclasses of `ValueError`. -/
def PyError.IsValueError : PyError → Prop
  | .valueError _ | .unicodeError => True
  | _ => False

abbrev CodePoint := Fin 0x110000

instance CodePoint.neZero : NeZero 0x110000 := ⟨by decide⟩

instance : LawfulBEq CodePoint := inferInstance

abbrev PyStr := List CodePoint

instance : LawfulBEq PyStr := inferInstance

abbrev Bytes := List UInt8

def CodePoint.ofChar (char : Char) : CodePoint :=
  ⟨char.val.toNat, by
    have valid : char.val.toNat < 0xd800 ∨ (0xdfff < char.val.toNat ∧ char.val.toNat < 0x110000) :=
      char.valid
    omega⟩

/-- A surrogate code point is the only one that is not a scalar value. -/
def CodePoint.toChar? (point : CodePoint) : Option Char :=
  if valid : point.val.isValidChar then some (Char.ofNatAux point.val valid) else none

/-- The code points of a Lean literal. -/
def py (text : String) : PyStr := text.toList.map CodePoint.ofChar

@[simp] theorem CodePoint.toChar?_ofChar (char : Char) : (ofChar char).toChar? = some char := by
  have valid : (ofChar char).val.isValidChar := char.valid
  unfold toChar?
  rw [dif_pos valid]
  apply congrArg some
  apply Char.ext
  apply UInt32.toNat_inj.mp
  rfl

theorem py_inj {first second : String} : py first = py second ↔ first = second := by
  constructor
  · intro same
    have injective : Function.Injective CodePoint.ofChar := by
      intro one other equal
      have read := congrArg CodePoint.toChar? equal
      simpa using read
    apply String.toList_injective
    exact List.map_injective_iff.mpr injective same
  · intro same
    rw [same]

theorem CodePoint.ofChar_of_toChar? {point : CodePoint} {char : Char}
    (scalar : point.toChar? = some char) : ofChar char = point := by
  by_cases valid : point.val.isValidChar
  · rw [toChar?, dif_pos valid] at scalar
    cases scalar
    rfl
  · rw [toChar?, dif_neg valid] at scalar
    cases scalar

/-- Every code point is a scalar value, so the strict encoder accepts the text. -/
def Encodable (text : PyStr) : Prop := ∀ point ∈ text, (point.toChar?).isSome

instance (text : PyStr) : Decidable (Encodable text) :=
  inferInstanceAs (Decidable (∀ point ∈ text, (point.toChar?).isSome))

/-- `str.encode("utf-8")`: fails on a lone surrogate. -/
def utf8Encode (text : PyStr) : Option Bytes :=
  (text.mapM CodePoint.toChar?).map fun chars => chars.flatMap String.utf8EncodeChar

/-- `bytes.decode("utf-8")`: fails on anything but well-formed UTF-8. -/
def utf8Decode (bytes : Bytes) : Option PyStr :=
  (ByteArray.mk bytes.toArray).utf8Decode?.map fun chars => chars.toList.map CodePoint.ofChar

/-- `str.isspace` of one character. -/
def CodePoint.isWhitespace (point : CodePoint) : Bool :=
  (0x09 ≤ point.val ∧ point.val ≤ 0x0d) ∨ (0x1c ≤ point.val ∧ point.val ≤ 0x20) ∨
    point.val = 0x85 ∨ point.val = 0xa0 ∨ point.val = 0x1680 ∨
    (0x2000 ≤ point.val ∧ point.val ≤ 0x200a) ∨ point.val = 0x2028 ∨ point.val = 0x2029 ∨
    point.val = 0x202f ∨ point.val = 0x205f ∨ point.val = 0x3000

/-- `str.strip()` -/
def strip (text : PyStr) : PyStr :=
  ((text.dropWhile CodePoint.isWhitespace).reverse.dropWhile CodePoint.isWhitespace).reverse

/-- A text that starts with a visible character has something left. -/
theorem strip_ne_nil {point : CodePoint} (visible : point.isWhitespace = false) (rest : PyStr) :
    strip (point :: rest) ≠ [] := by
  intro empty
  rw [strip, List.reverse_eq_nil_iff, List.dropWhile_eq_nil_iff] at empty
  have kept : (point :: rest).dropWhile CodePoint.isWhitespace = point :: rest :=
    List.dropWhile_cons_of_neg (by simp [visible])
  have blank := empty point (by simp [kept])
  rw [visible] at blank
  cases blank

private theorem mapM_toChar? {text : PyStr} {chars : List Char}
    (scalars : text.mapM CodePoint.toChar? = some chars) : chars.map CodePoint.ofChar = text := by
  induction text generalizing chars with
  | nil =>
    cases scalars
    rfl
  | cons point rest ih =>
    cases head : point.toChar? with
    | none => simp [List.mapM_cons, head] at scalars
    | some char =>
      cases tail : rest.mapM CodePoint.toChar? with
      | none => simp [List.mapM_cons, head, tail] at scalars
      | some others =>
        simp only [List.mapM_cons, head, tail, Option.pure_def, Option.bind_eq_bind,
          Option.bind_some, Option.some.injEq] at scalars
        rw [← scalars, List.map_cons, ih tail, CodePoint.ofChar_of_toChar? head]

/-- Decoding undoes encoding. -/
theorem utf8Decode_of_encode {text : PyStr} {bytes : Bytes} (encoded : utf8Encode text = some bytes) :
    utf8Decode bytes = some text := by
  unfold utf8Encode at encoded
  cases scalars : text.mapM CodePoint.toChar? with
  | none => simp [scalars] at encoded
  | some chars =>
    simp only [scalars, Option.map_some, Option.some.injEq] at encoded
    have whole : ByteArray.mk bytes.toArray = chars.utf8Encode := by
      rw [← encoded, List.utf8Encode]
      apply ByteArray.ext
      simp
    simp [utf8Decode, whole, mapM_toChar? scalars]

/-- Encoding undoes decoding. -/
theorem utf8Encode_of_decode {bytes : Bytes} {text : PyStr} (decoded : utf8Decode bytes = some text) :
    utf8Encode text = some bytes := by
  unfold utf8Decode at decoded
  cases found : (ByteArray.mk bytes.toArray).utf8Decode? with
  | none => simp [found] at decoded
  | some chars =>
    simp only [found, Option.map_some, Option.some.injEq] at decoded
    have scalars : text.mapM CodePoint.toChar? = some chars.toList := by
      rw [← decoded]
      induction chars.toList with
      | nil => rfl
      | cons char rest ih => simp [List.mapM_cons, ih]
    have whole : chars.toList.utf8Encode = ByteArray.mk bytes.toArray := by
      have isSome : (ByteArray.mk bytes.toArray).utf8Decode?.isSome := by rw [found]; rfl
      have back := @ByteArray.utf8Encode_get_utf8Decode? _ isSome
      simpa only [found, Option.get_some] using back
    have flat := congrArg (fun array : ByteArray => array.data.toList) whole
    simp only [utf8Encode, scalars, Option.map_some, Option.some.injEq]
    simpa [List.utf8Encode] using flat

theorem utf8Encode_isSome_iff (text : PyStr) : (utf8Encode text).isSome ↔ Encodable text := by
  unfold utf8Encode Encodable
  rw [Option.isSome_map]
  induction text with
  | nil => simp
  | cons point rest ih =>
    cases head : point.toChar? with
    | none => simp [List.mapM_cons, head]
    | some char =>
      cases tail : rest.mapM CodePoint.toChar? with
      | none => simpa [List.mapM_cons, head, tail] using ih
      | some others => simpa [List.mapM_cons, head, tail] using ih

theorem encodable_append {first second : PyStr} :
    Encodable (first ++ second) ↔ Encodable first ∧ Encodable second := by
  simp only [Encodable, List.mem_append]
  constructor
  · exact fun all => ⟨fun point h => all point (.inl h), fun point h => all point (.inr h)⟩
  · rintro ⟨left, right⟩ point (h | h)
    · exact left point h
    · exact right point h

theorem encodable_cons {point : CodePoint} {rest : PyStr} :
    Encodable (point :: rest) ↔ (point.toChar?).isSome ∧ Encodable rest := by
  simp [Encodable]

theorem encodable_py (text : String) : Encodable (py text) := by
  intro point member
  obtain ⟨char, _, same⟩ := List.mem_map.mp member
  simp [← same]

end OctoChannel.Foundation
