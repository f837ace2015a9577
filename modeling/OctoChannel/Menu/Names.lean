import OctoChannel.Rendering.Texts

namespace OctoChannel.Menu

open Foundation

/-- What the menu can tell of a value in a registry: a text, or its truth, whether it can be
hashed and how it is formatted. -/
inductive Field where
  | text (value : PyStr)
  | other (truthy hashable : Bool) (shown : PyStr)

namespace Field

/-- `None`, also for a member that is missing. -/
def missing : Field := .other false true (py "None")

def truthy : Field → Bool
  | .text value => value ≠ []
  | .other truthy _ _ => truthy

/-- The value inside an f-string. -/
def shown : Field → PyStr
  | .text value => value
  | .other _ _ shown => shown

/-- `value in {…}` for a set of texts. -/
def isAmong (texts : List PyStr) (value : Field) : Except PyError Bool :=
  match value with
  | .text value => .ok (value ∈ texts)
  | .other _ true _ => .ok false
  | .other _ false _ => .error (.typeError "unhashable type")

end Field

def dashed (text : PyStr) : PyStr := text.map fun point => if point = ch '_' then ch '-' else point

/-- `str.lower` and the categories of `unicodedata`. A lowered text is its own lower case. -/
structure Letters where
  lower : PyStr → PyStr
  isControl : CodePoint → Bool
  lower_dashed : ∀ text, lower (dashed (lower text)) = dashed (lower text)

def commandNameLimit : Nat := 50
def commandDescriptionLimit : Nat := 100

variable (letters : Letters)

/-- `_valid_token` -/
def validToken (bare : PyStr) : Bool :=
  bare ≠ [] && bare.length ≤ commandNameLimit && bare.all fun point =>
    point ≠ ch '/' && point ≠ ch '@' && !point.isWhitespace && !letters.isControl point

/-- `_exact_dispatch_name` -/
def exactDispatchName : Field → Option PyStr
  | .text value =>
    if value ≠ strip value ∨ value ≠ letters.lower value then none
    else if validToken letters value then some value
    else none
  | .other .. => none

def withoutSlash : PyStr → PyStr
  | [] => []
  | point :: rest => if point = ch '/' then rest else point :: rest

/-- `_normalized_dispatch_name` -/
def normalizedDispatchName : Field → Option PyStr
  | .text value =>
    let bare := dashed (letters.lower (withoutSlash (strip value)))
    if validToken letters bare then some bare else none
  | .other .. => none

/-- `_normalize_description`; control characters go first, so a line break leaves no space. -/
def normalizeDescription (value : Field) (fallback : PyStr) (argsHint : Field) : PyStr :=
  let text := match value with
    | .text value => if strip value = [] then fallback else value
    | .other .. => fallback
  let hint := match argsHint with
    | .text hint => strip hint
    | .other .. => []
  let text := if hint = [] then text else text ++ ch ' ' :: hint
  (Rendering.normalizeSpace (text.filter fun point => !letters.isControl point)).take
    commandDescriptionLimit

theorem dropWhile_of_not {text : PyStr} (plain : ∀ point ∈ text, point.isWhitespace = false) :
    text.dropWhile CodePoint.isWhitespace = text := by
  cases text with
  | nil => rfl
  | cons point rest =>
    rw [List.forall_mem_cons] at plain
    rw [List.dropWhile_cons_of_neg (by simp [plain.1])]

private theorem strip_of_plain {text : PyStr} (plain : ∀ point ∈ text, point.isWhitespace = false) :
    strip text = text := by
  rw [strip, dropWhile_of_not plain, dropWhile_of_not, List.reverse_reverse]
  intro point member
  exact plain point (List.mem_reverse.mp member)

variable {letters}

private theorem strip_of_validToken {bare : PyStr} (valid : validToken letters bare = true) :
    strip bare = bare := by
  simp only [validToken, Bool.and_eq_true, List.all_eq_true] at valid
  refine strip_of_plain fun point member => ?_
  have checks := valid.2 point member
  simp only [Bool.not_eq_true'] at checks
  exact checks.1.2

/-- An exact name is the text itself. -/
theorem exactDispatchName_eq_some {value : Field} {name : PyStr} :
    exactDispatchName letters value = some name ↔
      value = .text name ∧ letters.lower name = name ∧ validToken letters name = true := by
  cases value with
  | other truthy hashable shown => simp [exactDispatchName]
  | text value =>
    rw [exactDispatchName]
    constructor
    · intro read
      split at read
      · cases read
      · rename_i same
        simp only [not_or, not_not, ne_eq] at same
        split at read
        · rename_i valid
          cases read
          exact ⟨rfl, same.2.symm, valid⟩
        · cases read
    · rintro ⟨same, lowered, valid⟩
      cases same
      rw [if_neg (by simp [strip_of_validToken valid, lowered]), if_pos valid]

/-- A normalized name is exact. -/
theorem exact_of_normalized {value : Field} {name : PyStr}
    (read : normalizedDispatchName letters value = some name) :
    exactDispatchName letters (.text name) = some name := by
  cases value with
  | other truthy hashable shown => cases read
  | text value =>
    simp only [normalizedDispatchName, Option.ite_none_right_eq_some, Option.some.injEq] at read
    obtain ⟨valid, rfl⟩ := read
    exact exactDispatchName_eq_some.mpr ⟨rfl, letters.lower_dashed _, valid⟩

theorem exact_of_exact {value : Field} {name : PyStr}
    (read : exactDispatchName letters value = some name) :
    exactDispatchName letters (.text name) = some name := by
  obtain ⟨rfl, _⟩ := exactDispatchName_eq_some.mp read
  exact read

end OctoChannel.Menu
