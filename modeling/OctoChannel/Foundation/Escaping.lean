import OctoChannel.Foundation.Json

namespace OctoChannel.Foundation

/-- ASCII punctuation, the only characters that a backslash escapes. -/
def isPunctuation (point : CodePoint) : Bool :=
  (0x21 ≤ point.val && point.val ≤ 0x2f) || (0x3a ≤ point.val && point.val ≤ 0x40) ||
    (0x5b ≤ point.val && point.val ≤ 0x60) || (0x7b ≤ point.val && point.val ≤ 0x7e)

/-- The text that Markdown shows: a backslash before punctuation is dropped. -/
def unescape : PyStr → PyStr
  | [] => []
  | [point] => [point]
  | point :: next :: rest =>
    if point = ch '\\' ∧ isPunctuation next then next :: unescape rest
    else point :: unescape (next :: rest)

theorem unescape_escaped {point : CodePoint} (punctuation : isPunctuation point = true)
    (rest : PyStr) : unescape (ch '\\' :: point :: rest) = point :: unescape rest := by
  simp [unescape, punctuation]

theorem unescape_plain {point : CodePoint} (plain : point ≠ ch '\\') (rest : PyStr) :
    unescape (point :: rest) = point :: unescape rest := by
  cases rest with
  | nil => rfl
  | cons next more => simp [unescape, plain]

section Escape

variable (special : CodePoint → Bool)

/-- A backslash goes before every special character. -/
def backslashEscape (text : PyStr) : PyStr :=
  text.flatMap fun point => if special point then [ch '\\', point] else [point]

/-- The characters of a text that come from a value are marked; right before a special one
stands an odd number of backslashes. The flag tells whether the run of them is odd so far. -/
def OddlyEscaped : Bool → List (CodePoint × Bool) → Prop
  | _, [] => True
  | odd, (point, fromValue) :: rest =>
    (fromValue = true → special point = true → odd = true) ∧
      OddlyEscaped (if point = ch '\\' then !odd else false) rest

/-- A part of a text shows the value literally: its characters stand there in order, the
special ones escaped, and Markdown reads them back. -/
structure ShowsLiterally (part value : PyStr) : Prop where
  located : ∃ marked : List (CodePoint × Bool), marked.map Prod.fst = part ∧
    (marked.filter Prod.snd).map Prod.fst = value ∧ OddlyEscaped special false marked
  shown : unescape part = value

variable {special}

theorem unescape_escape (backslash : special (ch '\\') = true)
    (punctuation : ∀ point, special point = true → isPunctuation point = true) (text : PyStr) :
    unescape (backslashEscape special text) = text := by
  induction text with
  | nil => rfl
  | cons point rest ih =>
    simp only [backslashEscape, List.flatMap_cons] at ih ⊢
    by_cases escaped : special point = true
    · rw [if_pos escaped, List.cons_append, List.cons_append, List.nil_append,
        unescape_escaped (punctuation point escaped), ih]
    · have plain : point ≠ ch '\\' := by
        rintro rfl
        exact escaped backslash
      rw [if_neg escaped, List.cons_append, List.nil_append, unescape_plain plain, ih]

/-- The characters of the value in its escaped form. -/
def markEscaped (special : CodePoint → Bool) (text : PyStr) : List (CodePoint × Bool) :=
  text.flatMap fun point =>
    if special point then [(ch '\\', false), (point, true)] else [(point, true)]

theorem markEscaped_text (text : PyStr) :
    (markEscaped special text).map Prod.fst = backslashEscape special text := by
  rw [markEscaped, backslashEscape, List.map_flatMap]
  congr 1
  funext point
  split <;> rfl

theorem markEscaped_value (text : PyStr) :
    ((markEscaped special text).filter Prod.snd).map Prod.fst = text := by
  induction text with
  | nil => rfl
  | cons point rest ih =>
    simp only [markEscaped, List.flatMap_cons, List.filter_append, List.map_append] at ih ⊢
    rw [ih]
    split <;> rfl

theorem markEscaped_odd (backslash : special (ch '\\') = true) (text : PyStr) :
    OddlyEscaped special false (markEscaped special text) := by
  induction text with
  | nil => trivial
  | cons point rest ih =>
    simp only [markEscaped, List.flatMap_cons] at ih ⊢
    by_cases escaped : special point = true
    · simpa [escaped, OddlyEscaped] using ih
    · have plain : point ≠ ch '\\' := by
        rintro rfl
        exact escaped backslash
      simpa [escaped, OddlyEscaped, plain] using ih

/-- Escaping once shows the value. -/
theorem showsLiterally_escape (backslash : special (ch '\\') = true)
    (punctuation : ∀ point, special point = true → isPunctuation point = true) (value : PyStr) :
    ShowsLiterally special (backslashEscape special value) value :=
  ⟨⟨markEscaped special value, markEscaped_text value, markEscaped_value value,
    markEscaped_odd backslash value⟩, unescape_escape backslash punctuation value⟩

theorem backslashEscape_cons (point : CodePoint) (rest : PyStr) :
    backslashEscape special (point :: rest) =
      (if special point then [ch '\\', point] else [point]) ++ backslashEscape special rest := rfl

theorem length_le_backslashEscape (text : PyStr) :
    text.length ≤ (backslashEscape special text).length := by
  induction text with
  | nil => exact Nat.le_refl 0
  | cons point rest ih =>
    rw [backslashEscape_cons, List.length_append, List.length_cons]
    split
    · simp only [List.length_cons, List.length_nil]
      omega
    · simp only [List.length_cons, List.length_nil]
      omega

/-- Escaping changes a text exactly when it has a special character. -/
theorem backslashEscape_eq_iff (text : PyStr) :
    backslashEscape special text = text ↔ ∀ point ∈ text, special point = false := by
  induction text with
  | nil => simp [backslashEscape]
  | cons point rest ih =>
    rw [backslashEscape_cons, List.forall_mem_cons]
    by_cases escaped : special point = true
    · rw [if_pos escaped]
      refine iff_of_false ?_ fun all => ?_
      · intro same
        have lengths := congrArg List.length same
        have longer := @length_le_backslashEscape special rest
        simp only [List.length_append, List.length_cons, List.length_nil] at lengths
        omega
      · rw [escaped] at all
        exact absurd all.1 (by decide)
    · rw [if_neg escaped, List.cons_append, List.nil_append, List.cons.injEq, ih]
      simp [escaped]

end Escape

end OctoChannel.Foundation
