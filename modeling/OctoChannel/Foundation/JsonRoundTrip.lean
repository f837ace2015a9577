import Mathlib.Data.Nat.Digits.Lemmas
import Mathlib.Data.List.TakeWhile
import OctoChannel.Foundation.JsonLoads

namespace OctoChannel.Foundation.Json

variable {runtime : Runtime}

/-- Values a printed text determines: integers within the digit limit, floats
whose text is their own repr, and objects without a repeated key. -/
inductive ReadsBack (runtime : Runtime) : Json → Prop where
  | null : ReadsBack runtime .null
  | bool (value : Bool) : ReadsBack runtime (.bool value)
  | int {value : Int} (short : (printNat value.natAbs).length ≤ maxIntDigits) :
      ReadsBack runtime (.int value)
  | float {text : String} (start : py text ≠ []) (plain : ∀ point ∈ py text, isDelimiter point = false)
      (read : readAtom runtime (py text) = .ok (.float text)) : ReadsBack runtime (.float text)
  | str (text : PyStr) : ReadsBack runtime (.str text)
  | arr {items : List Json} (each : ∀ item ∈ items, ReadsBack runtime item) :
      ReadsBack runtime (.arr items)
  | obj {members : List (PyStr × Json)} (nodup : (members.map Prod.fst).Nodup)
      (each : ∀ member ∈ members, ReadsBack runtime member.2) : ReadsBack runtime (.obj members)

/-- Run the reader over the remaining text and conclude. -/
def conclude (runtime : Runtime) (state : State) (text : PyStr) : Except LoadsError Json :=
  match run runtime state text with
  | .ok final => finish runtime final
  | .error error => .error error

theorem conclude_nil (state : State) : conclude runtime state [] = finish runtime state := rfl

theorem conclude_cons {state next : State} {point : CodePoint} (taken : step runtime state point = .ok next)
    (rest : PyStr) : conclude runtime state (point :: rest) = conclude runtime next rest := by
  simp only [conclude, run, taken]

theorem conclude_congr {first second : State} {point : CodePoint}
    (same : step runtime first point = step runtime second point) (rest : PyStr) :
    conclude runtime first (point :: rest) = conclude runtime second (point :: rest) := by
  simp only [conclude, run, same]

/-- The text after an atom ends it: nothing, or a delimiter. -/
def Stops (rest : PyStr) : Prop := ∀ point ∈ rest.head?, isDelimiter point = true

theorem stops_nil : Stops [] := by simp [Stops]

theorem stops_cons {point : CodePoint} (delimiter : isDelimiter point = true) (rest : PyStr) :
    Stops (point :: rest) := by
  simpa [Stops] using delimiter

private theorem conclude_atom_more (stack : List Frame) (read literal rest : PyStr)
    (plain : ∀ point ∈ literal, isDelimiter point = false) :
    conclude runtime (.atom read, stack) (literal ++ rest) =
      conclude runtime (.atom (read ++ literal), stack) rest := by
  induction literal generalizing read with
  | nil => simp
  | cons point others ih =>
    have taken : step runtime (.atom read, stack) point = .ok (.atom (read ++ [point]), stack) := by
      simp [step, plain point (by simp)]
    rw [List.cons_append, conclude_cons taken, ih _ (fun item member => plain item (by simp [member]))]
    simp

theorem step_deliver (value : Json) (stack : List Frame) (point : CodePoint) :
    step runtime (deliver value stack) point = afterValue (deliver value stack) point := by
  cases stack with
  | nil => rfl
  | cons frame rest => cases frame <;> rfl

private theorem conclude_atom_end {read rest : PyStr} {value : Json} (stack : List Frame)
    (stops : Stops rest) (meant : readAtom runtime read = .ok value) :
    conclude runtime (.atom read, stack) rest = conclude runtime (deliver value stack) rest := by
  cases rest with
  | nil =>
    rw [conclude_nil, conclude_nil, finish, meant]
    cases stack with
    | nil => rfl
    | cons frame others => cases frame <;> rfl
  | cons point others =>
    have delimiter : isDelimiter point = true := stops point (by simp)
    apply conclude_congr
    rw [step_deliver]
    simp [step, delimiter, meant]

theorem not_special {point : CodePoint} (plain : isDelimiter point = false) :
    isSpace point = false ∧ point ≠ ch ',' ∧ point ≠ ch ':' ∧ point ≠ ch ']' ∧ point ≠ ch '}' ∧
      point ≠ ch '[' ∧ point ≠ ch '{' ∧ point ≠ ch '"' := by
  simpa [isDelimiter, and_assoc] using plain

theorem plain_of_all {literal : PyStr}
    (all : literal.all (fun point => !isDelimiter point) = true) :
    ∀ point ∈ literal, isDelimiter point = false := by
  intro point member
  simpa using List.all_eq_true.mp all point member

theorem conclude_atom {literal rest : PyStr} {value : Json} (stack : List Frame)
    (start : literal ≠ []) (plain : ∀ point ∈ literal, isDelimiter point = false)
    (stops : Stops rest) (meant : readAtom runtime literal = .ok value) :
    conclude runtime (.value, stack) (literal ++ rest) = conclude runtime (deliver value stack) rest := by
  cases literal with
  | nil => exact absurd rfl start
  | cons point others =>
    have head := plain point (by simp)
    obtain ⟨space, _, _, _, _, bracket, brace, quote⟩ := not_special head
    have taken : step runtime (.value, stack) point = .ok (.atom [point], stack) := by
      simp [step, beginValue, space, bracket, brace, quote, head]
    rw [List.cons_append, conclude_cons taken,
      conclude_atom_more stack _ _ _ (fun item member => plain item (by simp [member]))]
    exact conclude_atom_end stack stops meant

private theorem digit_val {value : Nat} (small : value < 10) : (digit value).val = 0x30 + value := by
  simp only [digit, Fin.ofNat]
  omega

private theorem isDigit_digit {value : Nat} (small : value < 10) : isDigit (digit value) = true := by
  simp only [isDigit, digit_val small, Bool.and_eq_true, decide_eq_true_eq]
  omega

private theorem plain_of_isDigit {point : CodePoint} (numeral : isDigit point = true) :
    isDelimiter point = false := by
  simp only [isDigit, Bool.and_eq_true, decide_eq_true_eq] at numeral
  have apart (other : CodePoint) (outside : other.val < 0x30 ∨ 0x39 < other.val) : point ≠ other := by
    rintro rfl
    omega
  simp only [isDelimiter, isSpace, Bool.or_eq_false_iff, decide_eq_false_iff_not]
  refine ⟨⟨⟨⟨⟨⟨⟨⟨⟨⟨apart _ (by decide), ?_⟩, ?_⟩, ?_⟩, apart _ (by decide)⟩, apart _ (by decide)⟩,
    apart _ (by decide)⟩, apart _ (by decide)⟩, apart _ (by decide)⟩, apart _ (by decide)⟩,
    apart _ (by decide)⟩ <;> omega

theorem printNat_digits (value : Nat) : ∀ point ∈ printNat value, isDigit point = true := by
  intro point member
  unfold printNat at member
  split at member
  · rw [List.mem_singleton.mp member]
    decide
  · obtain ⟨number, present, same⟩ := List.mem_map.mp member
    rw [← same]
    exact isDigit_digit (Nat.digits_lt_base (by omega) (List.mem_reverse.mp present))

theorem printNat_ne_nil (value : Nat) : printNat value ≠ [] := by
  unfold printNat
  split
  · simp
  · rename_i positive
    simpa using Nat.digits_ne_nil_iff_ne_zero.mpr positive

theorem readNat_printNat (value : Nat) : readNat (printNat value) = value := by
  unfold printNat
  split
  · rename_i zero
    simp +decide [readNat, zero]
  · have back : ((Nat.digits 10 value).map digit).map (fun point => point.val - 0x30) =
        Nat.digits 10 value := by
      rw [List.map_map]
      refine (List.map_congr_left ?_).trans (List.map_id _)
      intro number present
      simp [digit_val (Nat.digits_lt_base (by omega) present)]
    rw [readNat, ← List.map_reverse, List.reverse_reverse, back, Nat.ofDigits_digits]

theorem isIntPart_printNat (value : Nat) : isIntPart (printNat value) = true := by
  by_cases zero : value = 0
  · subst zero
    decide
  · have leading : (printNat value).head? = some (digit ((Nat.digits 10 value).getLast
        (Nat.digits_ne_nil_iff_ne_zero.mpr zero))) := by
      simp [printNat, zero, List.head?_reverse, List.getLast?_eq_getLast_of_ne_nil
        (Nat.digits_ne_nil_iff_ne_zero.mpr zero)]
    have nonzero := Nat.getLast_digit_ne_zero 10 zero
    have small : (Nat.digits 10 value).getLast (Nat.digits_ne_nil_iff_ne_zero.mpr zero) < 10 :=
      Nat.digits_lt_base (by omega) (List.getLast_mem _)
    have different : digit ((Nat.digits 10 value).getLast
        (Nat.digits_ne_nil_iff_ne_zero.mpr zero)) ≠ ch '0' := by
      intro same
      have values := congrArg Fin.val same
      rw [digit_val small] at values
      have code : (ch '0').val = 0x30 := by decide
      omega
    simp [isIntPart, leading, isDigit_digit small, different]

private theorem readNumber_printNat (literal : PyStr) (negative : Bool) (value : Nat)
    (short : (printNat value).length ≤ maxIntDigits) :
    readNumber runtime literal negative (printNat value) =
      .ok (.int (if negative then -(value : Int) else value)) := by
  have whole : (printNat value).takeWhile isDigit = printNat value :=
    List.takeWhile_eq_self_iff.mpr (printNat_digits value)
  have rest : (printNat value).dropWhile isDigit = [] :=
    List.dropWhile_eq_nil_iff.mpr (printNat_digits value)
  simp [readNumber, whole, rest, isIntPart_printNat, readNat_printNat, Nat.not_lt.mpr short]

private theorem readAtom_number {first : CodePoint} {rest : PyStr}
    (numeric : isDigit first = true ∨ (first = ch '-' ∧ ∀ point ∈ rest.head?, isDigit point = true)) :
    readAtom runtime (first :: rest) =
      if first = ch '-' then readNumber runtime (first :: rest) true rest
      else readNumber runtime (first :: rest) false (first :: rest) := by
  have noKeyword : ∀ keyword ∈ [py "null", py "true", py "false", py "NaN", py "Infinity",
      py "-Infinity"], first :: rest ≠ keyword := by
    intro keyword member same
    have shape : keyword.head? = some first ∧ keyword.tail = rest := by simp [← same]
    rcases numeric with numeral | ⟨minus, tail⟩
    · simp only [List.mem_cons, List.not_mem_nil, or_false] at member
      rcases member with h | h | h | h | h | h <;> subst h <;>
        · have start := Option.some.inj shape.1
          rw [← start] at numeral
          revert numeral
          decide
    · simp only [List.mem_cons, List.not_mem_nil, or_false] at member
      rcases member with h | h | h | h | h | h <;> subst h
      iterate 5
        · have start := Option.some.inj shape.1
          rw [minus] at start
          revert start
          decide
      · have next : isDigit (ch 'I') = true := tail _ (by rw [← shape.2]; decide)
        revert next
        decide
  simp only [List.mem_cons, List.not_mem_nil, or_false, forall_eq_or_imp, forall_eq] at noKeyword
  obtain ⟨null, true', false', nan, infinity, minusInfinity⟩ := noKeyword
  simp only [readAtom, null, true', false', nan, infinity, minusInfinity, if_false, decide_false,
    Bool.or_self, Bool.false_eq_true]

/-- A printed integer reads as that integer. -/
theorem readAtom_printInt {value : Int} (short : (printNat value.natAbs).length ≤ maxIntDigits) :
    readAtom runtime (printInt value) = .ok (.int value) := by
  cases printed : printNat value.natAbs with
  | nil => exact absurd printed (printNat_ne_nil _)
  | cons first rest =>
    have digits : ∀ point ∈ first :: rest, isDigit point = true := by
      rw [← printed]
      exact printNat_digits _
    unfold printInt
    rw [printed]
    split
    · rename_i negative
      rw [readAtom_number (.inr ⟨rfl, by simpa using digits first (by simp)⟩), if_pos rfl,
        ← printed, readNumber_printNat _ _ _ short, if_pos rfl]
      congr 2
      omega
    · rename_i nonnegative
      have numeral := digits first (by simp)
      have notMinus : first ≠ ch '-' := by
        rintro rfl
        revert numeral
        decide
      rw [readAtom_number (.inl numeral), if_neg notMinus, ← printed,
        readNumber_printNat _ _ _ short]
      simp only [Bool.false_eq_true, if_false]
      congr 2
      omega

theorem printInt_plain (value : Int) : ∀ point ∈ printInt value, isDelimiter point = false := by
  intro point member
  unfold printInt at member
  split at member
  · rcases List.mem_cons.mp member with minus | numeral
    · rw [minus]
      decide
    · exact plain_of_isDigit (printNat_digits _ point numeral)
  · exact plain_of_isDigit (printNat_digits _ point member)

theorem printInt_ne_nil (value : Int) : printInt value ≠ [] := by
  unfold printInt
  split
  · simp
  · exact printNat_ne_nil _

private theorem hexValue_hexDigit : ∀ value < 16, hexValue (hexDigit value) = some value := by
  decide

private theorem conclude_simple_escape {point letter : CodePoint} (kind : TextKind) (read : PyStr)
    (high : Bool) (stack : List Frame) (rest : PyStr) (letterName : letter ≠ ch 'u')
    (meant : simpleEscape letter = some point) :
    conclude runtime (.text kind read high, stack) (ch '\\' :: letter :: rest) =
      conclude runtime (.text kind (read ++ [point]) false, stack) rest := by
  have opened : step runtime (.text kind read high, stack) (ch '\\') =
      .ok (.escape kind read high, stack) := by
    simp +decide [step]
  have closed : step runtime (.escape kind read high, stack) letter =
      .ok (.text kind (read ++ [point]) false, stack) := by
    simp [step, letterName, meant]
  rw [conclude_cons opened, conclude_cons closed]

private theorem conclude_unicode_escape {point : CodePoint} (kind : TextKind) (read : PyStr)
    (high : Bool) (stack : List Frame) (rest : PyStr) (control : point.val < 0x20) :
    conclude runtime (.text kind read high, stack)
      (ch '\\' :: ch 'u' :: ch '0' :: ch '0' :: hexDigit (point.val / 16) ::
        hexDigit (point.val % 16) :: rest) =
      conclude runtime (.text kind (read ++ [point]) false, stack) rest := by
  have opened : step runtime (.text kind read high, stack) (ch '\\') =
      .ok (.escape kind read high, stack) := by
    simp +decide [step]
  have named : step runtime (.escape kind read high, stack) (ch 'u') =
      .ok (.unicode kind read high [], stack) := by
    simp [step]
  have zero : hexValue (ch '0') = some 0 := by decide
  have upper := hexValue_hexDigit (point.val / 16) (by omega)
  have lower := hexValue_hexDigit (point.val % 16) (by omega)
  have first : step runtime (.unicode kind read high [], stack) (ch '0') =
      .ok (.unicode kind read high [0], stack) := by
    simp [step, zero]
  have second : step runtime (.unicode kind read high [0], stack) (ch '0') =
      .ok (.unicode kind read high [0, 0], stack) := by
    simp [step, zero]
  have third : step runtime (.unicode kind read high [0, 0], stack) (hexDigit (point.val / 16)) =
      .ok (.unicode kind read high [0, 0, point.val / 16], stack) := by
    simp [step, upper]
  have unit : point.val / 16 * 16 + point.val % 16 = point.val := Nat.div_add_mod' _ _
  have appended : appendUnit read high point.val = (read ++ [point], false) := by
    have notLow : ¬ (high = true ∧ 0xdc00 ≤ point.val ∧ point.val ≤ 0xdfff) := by omega
    have notHigh : ¬ (0xd800 ≤ point.val ∧ point.val ≤ 0xdbff) := by omega
    have same : Fin.ofNat 0x110000 point.val = point := by
      apply Fin.ext
      simp [Fin.ofNat, Nat.mod_eq_of_lt point.isLt]
    rw [appendUnit, if_neg notLow, same, decide_eq_false notHigh]
  have last : step runtime (.unicode kind read high [0, 0, point.val / 16], stack)
      (hexDigit (point.val % 16)) = .ok (.text kind (read ++ [point]) false, stack) := by
    simp [step, lower, unit, appended]
  rw [conclude_cons opened, conclude_cons named, conclude_cons first, conclude_cons second,
    conclude_cons third, conclude_cons last]

private theorem point_eq {point : CodePoint} {code : Nat} (small : code < 0x110000)
    (same : point.val = code) : point = ⟨code, small⟩ := Fin.ext same

private theorem conclude_escaped (point : CodePoint) (kind : TextKind) (read : PyStr) (high : Bool)
    (stack : List Frame) (rest : PyStr) :
    conclude runtime (.text kind read high, stack) (escapeChar point ++ rest) =
      conclude runtime (.text kind (read ++ [point]) false, stack) rest := by
  unfold escapeChar
  split_ifs with quote backslash newline carriage tab feed back control
  · subst quote
    exact conclude_simple_escape kind read high stack rest (by decide) (by decide)
  · subst backslash
    exact conclude_simple_escape kind read high stack rest (by decide) (by decide)
  · rw [point_eq (by decide) newline]
    exact conclude_simple_escape kind read high stack rest (by decide) (by decide)
  · rw [point_eq (by decide) carriage]
    exact conclude_simple_escape kind read high stack rest (by decide) (by decide)
  · rw [point_eq (by decide) tab]
    exact conclude_simple_escape kind read high stack rest (by decide) (by decide)
  · rw [point_eq (by decide) feed]
    exact conclude_simple_escape kind read high stack rest (by decide) (by decide)
  · rw [point_eq (by decide) back]
    exact conclude_simple_escape kind read high stack rest (by decide) (by decide)
  · exact conclude_unicode_escape kind read high stack rest control
  · have taken : step runtime (.text kind read high, stack) point =
        .ok (.text kind (read ++ [point]) false, stack) := by
      simp [step, quote, backslash, control]
    exact conclude_cons taken rest

theorem conclude_text (kind : TextKind) (read text : PyStr) (high : Bool)
    (stack : List Frame) (rest : PyStr) {next : State}
    (finished : finishText kind (read ++ text) stack = .ok next) :
    conclude runtime (.text kind read high, stack) (text.flatMap escapeChar ++ ch '"' :: rest) =
      conclude runtime next rest := by
  induction text generalizing read high with
  | nil =>
    have taken : step runtime (.text kind read high, stack) (ch '"') = .ok next := by
      simpa [step] using finished
    exact conclude_cons taken rest
  | cons point others ih =>
    rw [List.flatMap_cons, List.append_assoc, conclude_escaped]
    exact ih (read ++ [point]) false (by simpa using finished)

theorem conclude_str (text : PyStr) (stack : List Frame) (rest : PyStr) :
    conclude runtime (.value, stack) (printStr text ++ rest) =
      conclude runtime (deliver (.str text) stack) rest := by
  have opened : step runtime (.value, stack) (ch '"') = .ok (.text .value [] false, stack) := by
    simp +decide [step, beginValue]
  simp only [printStr, List.cons_append, List.append_assoc, List.nil_append]
  rw [conclude_cons opened]
  exact conclude_text .value [] text false stack rest rfl

private theorem print_start {value : Json} (good : ReadsBack runtime value) :
    ∃ point rest, value.print = point :: rest ∧ isSpace point = false ∧ point ≠ ch ']' := by
  have plainStart {literal : PyStr} (start : literal ≠ [])
      (plain : ∀ point ∈ literal, isDelimiter point = false) :
      ∃ point rest, literal = point :: rest ∧ isSpace point = false ∧ point ≠ ch ']' := by
    cases literal with
    | nil => exact absurd rfl start
    | cons point rest =>
      obtain ⟨space, _, _, bracket, _⟩ := not_special (plain point (by simp))
      exact ⟨point, rest, rfl, space, bracket⟩
  cases good with
  | null => exact ⟨_, _, rfl, by decide, by decide⟩
  | bool value => cases value <;> exact ⟨_, _, rfl, by decide, by decide⟩
  | int short => exact plainStart (printInt_ne_nil _) (printInt_plain _)
  | float start plain read => exact plainStart start plain
  | str text => exact ⟨_, _, rfl, by decide, by decide⟩
  | @arr items each =>
    cases items with
    | nil => exact ⟨_, _, rfl, by decide, by decide⟩
    | cons item rest => exact ⟨_, _, rfl, by decide, by decide⟩
  | @obj members nodup each =>
    cases members with
    | nil => exact ⟨_, _, rfl, by decide, by decide⟩
    | cons member rest => exact ⟨_, _, rfl, by decide, by decide⟩

/-- Before a printed value the two expecting modes do the same. -/
private theorem conclude_firstItem {value : Json} (good : ReadsBack runtime value)
    (stack : List Frame) (rest : PyStr) :
    conclude runtime (.firstItem, stack) (value.print ++ rest) =
      conclude runtime (.value, stack) (value.print ++ rest) := by
  obtain ⟨point, others, shape, space, bracket⟩ := print_start good
  rw [shape, List.cons_append]
  apply conclude_congr
  simp [step, space, bracket]

/-- What reading a printed value does, whatever stands around it. -/
def Delivers (runtime : Runtime) (value : Json) : Prop :=
  ∀ (stack : List Frame) (rest : PyStr), value.depth + stack.length ≤ runtime.loadsDepth →
    Stops rest → conclude runtime (.value, stack) (value.print ++ rest) =
      conclude runtime (deliver value stack) rest

private theorem stops_printItems (items : List Json) (rest : PyStr) :
    Stops (printItems items ++ rest) := by
  cases items with
  | nil => exact stops_cons (by decide) _
  | cons item others => exact stops_cons (by decide) _

private theorem stops_printMembers (members : List (PyStr × Json)) (rest : PyStr) :
    Stops (printMembers members ++ rest) := by
  cases members with
  | nil => exact stops_cons (by decide) _
  | cons member others => exact stops_cons (by decide) _

private theorem conclude_items (items done : List Json) (stack : List Frame) (rest : PyStr)
    (each : ∀ item ∈ items, Delivers runtime item)
    (room : itemsDepth items + stack.length + 1 ≤ runtime.loadsDepth) :
    conclude runtime (.more, .arr done :: stack) (printItems items ++ rest) =
      conclude runtime (deliver (.arr (done ++ items)) stack) rest := by
  induction items generalizing done with
  | nil =>
    have closed : step runtime (.more, .arr done :: stack) (ch ']') =
        .ok (deliver (.arr done) stack) := by
      simp +decide [step, afterValue, closeArray]
    simpa [printItems] using conclude_cons closed rest
  | cons item others ih =>
    have separated : step runtime (.more, .arr done :: stack) (ch ',') =
        .ok (.value, .arr done :: stack) := by
      simp +decide [step, afterValue]
    simp only [itemsDepth] at room
    simp only [printItems, List.cons_append, List.append_assoc]
    rw [conclude_cons separated, each item (by simp) _ _ (by simp; omega) (stops_printItems _ _)]
    have next := ih (done ++ [item]) (fun value member => each value (by simp [member])) (by omega)
    simpa [deliver] using next

private theorem conclude_member (name : PyStr) (value : Json) (members : List (PyStr × Json))
    (before : PyStr) (stack : List Frame) (rest : PyStr) (reads : Delivers runtime value)
    (room : value.depth + stack.length + 1 ≤ runtime.loadsDepth) (stops : Stops rest) :
    conclude runtime (.text .name [] false, .obj members before :: stack)
      (name.flatMap escapeChar ++ ch '"' :: ch ':' :: value.print ++ rest) =
      conclude runtime (.more, .obj (Dict.assign name value members) name :: stack) rest := by
  have colon : step runtime (.colon, .obj members name :: stack) (ch ':') =
      .ok (.value, .obj members name :: stack) := by
    simp +decide [step]
  simp only [List.append_assoc, List.cons_append]
  rw [conclude_text .name [] name false (.obj members before :: stack) _ rfl, List.nil_append,
    conclude_cons colon,
    reads _ _ (by simp; omega) stops]
  rfl

private theorem conclude_members (members done : List (PyStr × Json)) (before : PyStr)
    (stack : List Frame) (rest : PyStr) (each : ∀ member ∈ members, Delivers runtime member.2)
    (nodup : ((done ++ members).map Prod.fst).Nodup)
    (room : membersDepth members + stack.length + 1 ≤ runtime.loadsDepth) :
    conclude runtime (.more, .obj done before :: stack) (printMembers members ++ rest) =
      conclude runtime (deliver (.obj (done ++ members)) stack) rest := by
  induction members generalizing done before with
  | nil =>
    have closed : step runtime (.more, .obj done before :: stack) (ch '}') =
        .ok (deliver (.obj done) stack) := by
      simp +decide [step, afterValue, closeObject]
    simpa [printMembers] using conclude_cons closed rest
  | cons member others ih =>
    obtain ⟨name, value⟩ := member
    have separated : step runtime (.more, .obj done before :: stack) (ch ',') =
        .ok (.name, .obj done before :: stack) := by
      simp +decide [step, afterValue]
    have quoted : step runtime (.name, .obj done before :: stack) (ch '"') =
        .ok (.text .name [] false, .obj done before :: stack) := by
      simp +decide [step]
    have fresh : name ∉ done.map Prod.fst := by
      rw [List.map_append, List.nodup_append] at nodup
      exact fun present => nodup.2.2 name present name (by simp) rfl
    simp only [membersDepth] at room
    have first := conclude_member name value done before stack (printMembers others ++ rest)
      (each (name, value) (by simp)) (by omega) (stops_printMembers _ _)
    simp only [List.append_assoc, List.cons_append] at first
    simp only [printMembers, printStr, List.cons_append, List.append_assoc, List.nil_append]
    rw [conclude_cons separated, conclude_cons quoted, first, Dict.assign_of_not_mem fresh]
    have next := ih (done ++ [(name, value)]) name
      (fun item member => each item (by simp [member])) (by simpa using nodup) (by omega)
    simpa using next

/-- Reading a printed value delivers it to its container. -/
theorem ReadsBack.delivers {value : Json} (good : ReadsBack runtime value) :
    Delivers runtime value := by
  induction good with
  | null =>
    intro stack rest _ stops
    rw [show print .null = py "null" from rfl]
    exact conclude_atom stack (by decide) (plain_of_all (by decide)) stops rfl
  | bool value =>
    intro stack rest _ stops
    cases value
    · rw [show print (.bool false) = py "false" from rfl]
      exact conclude_atom stack (by decide) (plain_of_all (by decide)) stops rfl
    · rw [show print (.bool true) = py "true" from rfl]
      exact conclude_atom stack (by decide) (plain_of_all (by decide)) stops rfl
  | int short =>
    intro stack rest _ stops
    exact conclude_atom stack (printInt_ne_nil _) (printInt_plain _) stops (readAtom_printInt short)
  | float start plain read =>
    intro stack rest _ stops
    exact conclude_atom stack start plain stops read
  | str text =>
    intro stack rest _ _
    exact conclude_str text stack rest
  | @arr items each ih =>
    intro stack rest room _
    simp only [depth] at room
    have opened : step runtime (.value, stack) (ch '[') = .ok (.firstItem, .arr [] :: stack) := by
      simp +decide [step, beginValue, openContainer]
      omega
    cases items with
    | nil =>
      have closed : step runtime (.firstItem, .arr [] :: stack) (ch ']') =
          .ok (deliver (.arr []) stack) := by
        simp +decide [step, closeArray]
      have shape : print (.arr []) = [ch '[', ch ']'] := rfl
      rw [shape, List.cons_append, conclude_cons opened]
      exact conclude_cons closed rest
    | cons item others =>
      simp only [itemsDepth] at room
      simp only [print, List.cons_append, List.append_assoc]
      rw [conclude_cons opened, conclude_firstItem (each item (by simp)),
        ih item (by simp) _ _ (by simp; omega) (stops_printItems _ _)]
      have tail := conclude_items others [item] stack rest
        (fun value member => ih value (by simp [member])) (by omega)
      simpa [deliver] using tail
  | @obj members nodup each ih =>
    intro stack rest room _
    simp only [depth] at room
    have opened : step runtime (.value, stack) (ch '{') = .ok (.firstName, .obj [] [] :: stack) := by
      simp +decide [step, beginValue, openContainer]
      omega
    cases members with
    | nil =>
      have closed : step runtime (.firstName, .obj [] [] :: stack) (ch '}') =
          .ok (deliver (.obj []) stack) := by
        simp +decide [step, closeObject]
      have shape : print (.obj []) = [ch '{', ch '}'] := rfl
      rw [shape, List.cons_append, conclude_cons opened]
      exact conclude_cons closed rest
    | cons member others =>
      obtain ⟨name, value⟩ := member
      have quoted : step runtime (.firstName, .obj [] [] :: stack) (ch '"') =
          .ok (.text .name [] false, .obj [] [] :: stack) := by
        simp +decide [step]
      simp only [membersDepth] at room
      have first := conclude_member name value [] [] stack (printMembers others ++ rest)
        (ih (name, value) (by simp)) (by omega) (stops_printMembers _ _)
      simp only [List.append_assoc, List.cons_append] at first
      simp only [print, printStr, List.cons_append, List.append_assoc, List.nil_append]
      rw [conclude_cons opened, conclude_cons quoted, first]
      have tail := conclude_members others [(name, value)] name stack rest
        (fun item member => ih item (by simp [member])) (by simpa using nodup) (by omega)
      simpa [Dict.assign] using tail

/-- `json.loads` inverts the printer on every value the text determines. -/
theorem loads_print {value : Json} (good : ReadsBack runtime value)
    (shallow : value.depth ≤ runtime.loadsDepth) : loads runtime value.print = .ok value := by
  have whole := good.delivers [] [] (by simpa using shallow) stops_nil
  rw [List.append_nil] at whole
  exact whole

/-- Sorting keys keeps a value readable. -/
theorem ReadsBack.sortKeys {value : Json} (good : ReadsBack runtime value) :
    ReadsBack runtime value.sortKeys := by
  induction good with
  | null => exact .null
  | bool value => exact .bool value
  | int short => exact .int short
  | float start plain read => exact .float start plain read
  | str text => exact .str text
  | arr each ih =>
    rw [sortKeys_arr]
    refine .arr fun item present => ?_
    obtain ⟨origin, original, same⟩ := List.mem_map.mp present
    exact same ▸ ih origin original
  | obj nodup each ih =>
    rw [sortKeys_obj]
    refine .obj ((keys_sorted _).nodup_iff.mpr nodup) fun member present => ?_
    obtain ⟨origin, original, same⟩ := List.mem_map.mp ((List.mem_insertionSort keyLE).mp present)
    exact same ▸ ih origin original

/-- A dumped document reads back as the value with its keys sorted. -/
theorem loads_dumps {value : Json} {text : PyStr} (good : ReadsBack runtime value)
    (shallow : value.depth ≤ runtime.loadsDepth) (printed : dumps runtime value = .ok text) :
    loads runtime text = .ok value.sortKeys := by
  unfold dumps at printed
  split at printed
  · cases printed
    exact loads_print good.sortKeys (depth_sortKeys_le shallow)
  · cases printed

end OctoChannel.Foundation.Json
