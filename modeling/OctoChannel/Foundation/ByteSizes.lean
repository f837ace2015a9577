import OctoChannel.Foundation.JsonEncodable

namespace OctoChannel.Foundation

/-- The weight of a text is that of its characters. -/
def weigh (weight : CodePoint → Nat) (text : PyStr) : Nat := (text.map weight).sum

section Weights

variable (weight : CodePoint → Nat)

@[simp] theorem weigh_nil : weigh weight [] = 0 := rfl

@[simp] theorem weigh_cons (point : CodePoint) (rest : PyStr) :
    weigh weight (point :: rest) = weight point + weigh weight rest := rfl

@[simp] theorem weigh_append (first second : PyStr) :
    weigh weight (first ++ second) = weigh weight first + weigh weight second := by
  simp [weigh]

theorem weigh_flatMap (text : PyStr) (render : CodePoint → PyStr) :
    weigh weight (text.flatMap render) = weigh (fun point => weigh weight (render point)) text := by
  induction text with
  | nil => rfl
  | cons point rest ih => simp [ih]

theorem weigh_replicate (count : Nat) (point : CodePoint) :
    weigh weight (List.replicate count point) = count * weight point := by
  simp [weigh]

/-- A text weighs at most its length times the heaviest character in it. -/
theorem weigh_le {text : PyStr} {heaviest : Nat} (bound : ∀ point ∈ text, weight point ≤ heaviest) :
    weigh weight text ≤ text.length * heaviest := by
  induction text with
  | nil => simp
  | cons point rest ih =>
    rw [List.forall_mem_cons] at bound
    rw [weigh_cons, List.length_cons, Nat.succ_mul, Nat.add_comm]
    exact Nat.add_le_add (ih bound.2) bound.1

end Weights

/-- The bytes of one character. -/
def pointBytes (point : CodePoint) : Nat := (point.toChar?.map Char.utf8Size).getD 0

theorem length_utf8Encode {text : PyStr} {bytes : Bytes} (encoded : utf8Encode text = some bytes) :
    bytes.length = weigh pointBytes text := by
  induction text generalizing bytes with
  | nil =>
    cases encoded
    rfl
  | cons point rest ih =>
    cases head : point.toChar? with
    | none => simp [utf8Encode, List.mapM_cons, head] at encoded
    | some char =>
      cases tail : rest.mapM CodePoint.toChar? with
      | none => simp [utf8Encode, List.mapM_cons, head, tail] at encoded
      | some chars =>
        have later := @ih (chars.flatMap String.utf8EncodeChar) (by simp [utf8Encode, tail])
        simp only [utf8Encode, List.mapM_cons, head, tail, Option.pure_def, Option.bind_eq_bind,
          Option.bind_some, Option.map_some, Option.some.injEq] at encoded
        simp [← encoded, later, pointBytes, head]

/-- A text that can be encoded is encoded to as many bytes as it weighs. -/
theorem utf8Encode_of_encodable {text : PyStr} (encodable : Encodable text) :
    ∃ bytes, utf8Encode text = some bytes ∧ bytes.length = weigh pointBytes text := by
  obtain ⟨bytes, encoded⟩ := Option.isSome_iff_exists.mp ((utf8Encode_isSome_iff text).mpr encodable)
  exact ⟨bytes, encoded, length_utf8Encode encoded⟩

theorem pointBytes_le (point : CodePoint) : pointBytes point ≤ 4 := by
  rw [pointBytes]
  cases point.toChar? with
  | none => exact Nat.zero_le 4
  | some char => exact Char.utf8Size_le_four char

namespace Json

/-- The bytes of one character inside a printed string. -/
def escapedBytes (point : CodePoint) : Nat := weigh pointBytes (escapeChar point)

theorem weigh_printStr (text : PyStr) :
    weigh pointBytes (printStr text) = 2 + weigh escapedBytes text := by
  have quote : pointBytes (ch '"') = 1 := by decide
  have inside : weigh pointBytes (text.flatMap escapeChar) = weigh escapedBytes text :=
    weigh_flatMap _ text escapeChar
  simp only [printStr, List.cons_append, weigh_cons, weigh_append, inside, weigh_nil, quote]
  omega

theorem pointBytes_hexDigit {value : Nat} (small : value < 16) : pointBytes (hexDigit value) = 1 := by
  have every : ∀ digit < 16, pointBytes (hexDigit digit) = 1 := by decide
  exact every value small

theorem escapedBytes_le (point : CodePoint) : escapedBytes point ≤ 6 := by
  have four := pointBytes_le point
  rw [escapedBytes, escapeChar]
  split_ifs with quote backslash newline carriage tab feed back control
  · decide
  · decide
  · decide
  · decide
  · decide
  · decide
  · decide
  · have high := @pointBytes_hexDigit (point.val / 16) (by omega)
    have low := @pointBytes_hexDigit (point.val % 16) (by omega)
    have ascii : pointBytes (ch '\\') = 1 ∧ pointBytes (ch 'u') = 1 ∧ pointBytes (ch '0') = 1 := by
      decide
    simp only [weigh_cons, weigh_nil, high, low, ascii]
    omega
  · simp only [weigh_cons, weigh_nil]
    omega

/-- The bytes of a member with the comma or the brace behind it. -/
def memberBytes (member : PyStr × Json) : Nat :=
  weigh pointBytes (printStr member.1) + 1 + weigh pointBytes member.2.print + 1

theorem weigh_printMembers (members : List (PyStr × Json)) :
    weigh pointBytes (printMembers members) = 1 + (members.map memberBytes).sum := by
  have comma : pointBytes (ch ',') = 1 := by decide
  have colon : pointBytes (ch ':') = 1 := by decide
  have brace : pointBytes (ch '}') = 1 := by decide
  induction members with
  | nil => simp [printMembers, brace]
  | cons member rest ih =>
    simp only [printMembers, List.cons_append, weigh_cons, weigh_append, ih, comma, colon,
      List.map_cons, List.sum_cons, memberBytes]
    omega

/-- The bytes of an object; an empty one has no member that brings its closing brace. -/
def objectBytes (members : List Nat) : Nat := if members = [] then 2 else 1 + members.sum

theorem weigh_print_obj (members : List (PyStr × Json)) :
    weigh pointBytes (Json.obj members).print = objectBytes (members.map memberBytes) := by
  have opening : pointBytes (ch '{') = 1 := by decide
  have colon : pointBytes (ch ':') = 1 := by decide
  cases members with
  | nil =>
    simp only [print]
    decide
  | cons member rest =>
    simp only [print, List.cons_append, weigh_cons, weigh_append, weigh_printMembers, opening,
      colon, List.map_cons, objectBytes, List.sum_cons, memberBytes, reduceCtorEq, if_false]
    omega

theorem objectBytes_mono {sizes bounds : List Nat} (each : List.Forall₂ (· ≤ ·) sizes bounds) :
    objectBytes sizes ≤ objectBytes bounds := by
  have total : sizes.sum ≤ bounds.sum := by
    induction each with
    | nil => exact Nat.le_refl 0
    | cons first _ ih => exact Nat.add_le_add first ih
  cases each with
  | nil => exact Nat.le_refl _
  | cons first rest =>
    simp only [objectBytes, reduceCtorEq, if_false]
    exact Nat.add_le_add_left total 1

theorem objectBytes_perm {sizes others : List Nat} (same : sizes.Perm others) :
    objectBytes sizes = objectBytes others := by
  by_cases none : sizes = []
  · subst none
    rw [List.nil_perm.mp same]
  · have noneElse : others ≠ [] := by
      rintro rfl
      exact none (List.perm_nil.mp same)
    simp [objectBytes, none, noneElse, same.sum_eq]

end Json

end OctoChannel.Foundation
