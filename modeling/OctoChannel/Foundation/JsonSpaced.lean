import OctoChannel.Foundation.JsonRoundTrip

namespace OctoChannel.Foundation.Json

/-- Where a printer leaves white space: before an item or a bracket at a level of nesting, and
behind the colon of a member. -/
structure Spacing where
  line : Nat → PyStr
  colon : PyStr
  line_blank : ∀ level, ∀ point ∈ line level, isSpace point = true
  colon_blank : ∀ point ∈ colon, isSpace point = true

/-- `indent=width` -/
def Spacing.indent (width : Nat) : Spacing where
  line := fun level => ch '\n' :: List.replicate (width * level) (ch ' ')
  colon := [ch ' ']
  line_blank := by
    intro level point member
    rcases List.mem_cons.mp member with same | blank
    · rw [same]
      rfl
    · rw [List.eq_of_mem_replicate blank]
      rfl
  colon_blank := by
    intro point member
    rw [List.mem_singleton.mp member]
    rfl

variable (spacing : Spacing)

mutual

def printSpaced : Nat → Json → PyStr
  | _, .null => py "null"
  | _, .bool true => py "true"
  | _, .bool false => py "false"
  | _, .int value => printInt value
  | _, .float text => py text
  | _, .str text => printStr text
  | _, .arr [] => py "[]"
  | level, .arr (item :: rest) =>
    ch '[' :: (spacing.line (level + 1) ++ printSpaced (level + 1) item ++ spacedItems level rest)
  | _, .obj [] => py "{}"
  | level, .obj ((key, value) :: rest) =>
    ch '{' :: (spacing.line (level + 1) ++ printStr key ++ ch ':' :: spacing.colon ++
      printSpaced (level + 1) value ++ spacedMembers level rest)

/-- The rest of an array around which the level is this one. -/
def spacedItems : Nat → List Json → PyStr
  | level, [] => spacing.line level ++ [ch ']']
  | level, item :: rest =>
    ch ',' :: (spacing.line (level + 1) ++ printSpaced (level + 1) item ++ spacedItems level rest)

def spacedMembers : Nat → List (PyStr × Json) → PyStr
  | level, [] => spacing.line level ++ [ch '}']
  | level, (key, value) :: rest =>
    ch ',' :: (spacing.line (level + 1) ++ printStr key ++ ch ':' :: spacing.colon ++
      printSpaced (level + 1) value ++ spacedMembers level rest)

end

variable {spacing} {runtime : Runtime}

/-- A line break is never followed by this character, nor by the end of the text. -/
def Breaks (never : CodePoint) (text : PyStr) : Prop :=
  ∀ front back, text = front ++ ch '\n' :: back → ∃ point ∈ back.head?, point ≠ never

variable {never : CodePoint}

theorem breaks_of_plain {text : PyStr} (plain : ch '\n' ∉ text) : Breaks never text := by
  intro front back same
  rw [same] at plain
  exact absurd (by simp) plain

theorem Breaks.append {first second : PyStr} (breaks : Breaks never first)
    (others : Breaks never second) : Breaks never (first ++ second) := by
  intro front back same
  rcases List.append_eq_append_iff.mp same with ⟨more, split, rest⟩ | ⟨more, split, rest⟩
  · exact others more back rest
  · cases more with
    | nil => exact others [] back rest.symm
    | cons point tail =>
      obtain ⟨rfl, rfl⟩ := List.cons.inj rest
      obtain ⟨after, found, other⟩ := breaks front tail split
      refine ⟨after, ?_, other⟩
      cases tail with
      | nil => cases found
      | cons head others => exact found

theorem Breaks.cons {point : CodePoint} {text : PyStr} (breaks : Breaks never text)
    (plain : point ≠ ch '\n') : Breaks never (point :: text) := by
  have single : Breaks never [point] := breaks_of_plain (by simpa using plain.symm)
  exact single.append breaks

theorem breaks_replicate {text : PyStr} {count : Nat} (breaks : Breaks never text)
    (other : ch ' ' ≠ never) (starts : 0 < count ∨ ∃ point ∈ text.head?, point ≠ never) :
    Breaks never (ch '\n' :: List.replicate count (ch ' ') ++ text) := by
  have spaced : Breaks never (List.replicate count (ch ' ') ++ text) := by
    refine Breaks.append (breaks_of_plain ?_) breaks
    intro member
    have blank := List.eq_of_mem_replicate member
    exact absurd blank (by decide)
  intro front back same
  cases front with
  | nil =>
    obtain ⟨_, rfl⟩ := List.cons.inj same
    cases count with
    | zero =>
      rcases starts with some | some
      · cases some
      · exact some
    | succ count => exact ⟨ch ' ', rfl, other⟩
  | cons point rest =>
    obtain ⟨_, later⟩ := List.cons.inj same
    exact spaced rest back later

theorem newline_not_mem_escape (point : CodePoint) : ch '\n' ∉ escapeChar point := by
  have plain : ∀ value < 16, ch '\n' ≠ hexDigit value := by decide
  unfold escapeChar
  split_ifs with quote backslash newline carriage tab feed back control
  · decide
  · decide
  · decide
  · decide
  · decide
  · decide
  · decide
  · have first := plain (point.val / 16) (by omega)
    have second := plain (point.val % 16) (by omega)
    have fixed : ch '\n' ∉ [ch '\\', ch 'u', ch '0', ch '0'] := by decide
    simp only [List.mem_cons, List.not_mem_nil, or_false, not_or] at fixed ⊢
    exact ⟨fixed.1, fixed.2.1, fixed.2.2.1, fixed.2.2.2, first, second⟩
  · rw [List.mem_singleton]
    rintro rfl
    exact newline rfl

theorem breaks_printStr (text : PyStr) : Breaks never (printStr text) := by
  apply breaks_of_plain
  rw [printStr, List.mem_append, List.mem_cons, List.mem_flatMap]
  rintro ((quote | ⟨point, _, inside⟩) | quote)
  · exact absurd quote (by decide)
  · exact newline_not_mem_escape point inside
  · exact absurd quote (by decide)

theorem newline_not_mem_of_plain {literal : PyStr}
    (plain : ∀ point ∈ literal, isDelimiter point = false) : ch '\n' ∉ literal := by
  intro member
  have delimiter := plain _ member
  exact absurd delimiter (by decide)

variable {width : Nat}

theorem breaks_line (wide : 0 < width) (other : ch ' ' ≠ never) (level : Nat) {text : PyStr}
    (breaks : Breaks never text) :
    Breaks never ((Spacing.indent width).line (level + 1) ++ text) :=
  breaks_replicate breaks other (.inl (Nat.mul_pos wide (Nat.succ_pos level)))

theorem breaks_close (other : ch ' ' ≠ never) (level : Nat) {point : CodePoint} (tail : PyStr)
    (plain : Breaks never (point :: tail)) (closing : point ≠ never) :
    Breaks never ((Spacing.indent width).line level ++ point :: tail) :=
  breaks_replicate plain other (.inr ⟨point, rfl, closing⟩)

/-- A printed value with indentation breaks its lines only before a blank or a closing bracket. -/
theorem ReadsBack.breaks {value : Json} (good : ReadsBack runtime value) (wide : 0 < width)
    (blank : ch ' ' ≠ never) (bracket : ch ']' ≠ never) (brace : ch '\x7d' ≠ never)
    (level : Nat) : Breaks never (printSpaced (.indent width) level value) := by
  induction good generalizing level with
  | null => exact @breaks_of_plain _ (py "null") (by decide)
  | bool value =>
    cases value
    · exact @breaks_of_plain _ (py "false") (by decide)
    · exact @breaks_of_plain _ (py "true") (by decide)
  | int short => exact breaks_of_plain (newline_not_mem_of_plain (printInt_plain _))
  | float start plain read => exact breaks_of_plain (newline_not_mem_of_plain plain)
  | str text => exact breaks_printStr text
  | @arr items each ih =>
    have others : ∀ rest : List Json, (∀ item ∈ rest, item ∈ items) →
        Breaks never (spacedItems (.indent width) level rest) := by
      intro rest among
      induction rest with
      | nil =>
        rw [spacedItems]
        exact breaks_close blank level [] (breaks_of_plain (by decide)) bracket
      | cons item rest later =>
        rw [List.forall_mem_cons] at among
        rw [spacedItems, List.append_assoc]
        refine Breaks.cons (breaks_line wide blank level ?_) (by decide)
        exact (ih item among.1 (level + 1)).append (later among.2)
    cases items with
    | nil => exact @breaks_of_plain _ (py "[]") (by decide)
    | cons item rest =>
      rw [printSpaced, List.append_assoc]
      refine Breaks.cons (breaks_line wide blank level ?_) (by decide)
      refine (ih item (by simp) (level + 1)).append (others rest ?_)
      intro later member
      exact List.mem_cons_of_mem item member
  | @obj members nodup each ih =>
    have colon : Breaks never (ch ':' :: (Spacing.indent width).colon) :=
      @breaks_of_plain _ (py ": ") (by decide)
    have member (name : PyStr) (value : Json) (tail : PyStr) (present : (name, value) ∈ members)
        (rest : Breaks never tail) : Breaks never ((Spacing.indent width).line (level + 1) ++
          printStr name ++ ch ':' :: (Spacing.indent width).colon ++
            printSpaced (.indent width) (level + 1) value ++ tail) := by
      simp only [List.append_assoc]
      refine breaks_line wide blank level ((breaks_printStr name).append (colon.append ?_))
      exact (ih (name, value) present (level + 1)).append rest
    have others : ∀ rest : List (PyStr × Json), (∀ item ∈ rest, item ∈ members) →
        Breaks never (spacedMembers (.indent width) level rest) := by
      intro rest among
      induction rest with
      | nil =>
        rw [spacedMembers]
        exact breaks_close blank level [] (breaks_of_plain (by decide)) brace
      | cons item rest later =>
        rw [List.forall_mem_cons] at among
        rw [spacedMembers]
        exact Breaks.cons (member _ _ _ among.1 (later among.2)) (by decide)
    cases members with
    | nil => exact @breaks_of_plain _ (py "\x7b\x7d") (by decide)
    | cons item rest =>
      rw [printSpaced]
      refine Breaks.cons (member _ _ _ (by simp) (others rest ?_)) (by decide)
      intro later present
      exact List.mem_cons_of_mem item present

end OctoChannel.Foundation.Json
