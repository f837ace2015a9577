import OctoChannel.Foundation.JsonRoundTrip

namespace OctoChannel.Foundation.Json

/-- No key and no text of the tree holds a lone surrogate. -/
inductive Scalar : Json → Prop where
  | null : Scalar .null
  | bool (value : Bool) : Scalar (.bool value)
  | int (value : Int) : Scalar (.int value)
  | float (text : String) : Scalar (.float text)
  | str {text : PyStr} (encodable : Encodable text) : Scalar (.str text)
  | arr {items : List Json} (each : ∀ item ∈ items, Scalar item) : Scalar (.arr items)
  | obj {members : List (PyStr × Json)} (keys : ∀ member ∈ members, Encodable member.1)
      (each : ∀ member ∈ members, Scalar member.2) : Scalar (.obj members)

theorem Scalar.sortKeys {value : Json} (scalar : Scalar value) : Scalar value.sortKeys := by
  induction scalar with
  | null => exact .null
  | bool value => exact .bool value
  | int value => exact .int value
  | float text => exact .float text
  | str encodable => exact .str encodable
  | arr each ih =>
    rw [sortKeys_arr]
    refine .arr fun item present => ?_
    obtain ⟨origin, original, same⟩ := List.mem_map.mp present
    exact same ▸ ih origin original
  | @obj members keys each ih =>
    rw [sortKeys_obj]
    refine .obj (fun member present => ?_) fun member present => ?_
    · obtain ⟨origin, original, same⟩ :=
        List.mem_map.mp ((List.mem_insertionSort keyLE).mp present)
      exact same ▸ keys origin original
    · obtain ⟨origin, original, same⟩ :=
        List.mem_map.mp ((List.mem_insertionSort keyLE).mp present)
      exact same ▸ ih origin original

theorem toChar?_of_lt {point : CodePoint} (low : point.val < 0xd800) :
    point.toChar?.isSome := by
  have valid : point.val.isValidChar := .inl low
  rw [CodePoint.toChar?, dif_pos valid]
  rfl

private theorem encodable_printInt (value : Int) : Encodable (printInt value) := by
  have digits : Encodable (printNat value.natAbs) := by
    intro point member
    have numeral := printNat_digits value.natAbs point member
    refine toChar?_of_lt ?_
    simp only [isDigit, Bool.and_eq_true, decide_eq_true_eq] at numeral
    omega
  rw [printInt]
  split
  · exact encodable_cons.mpr ⟨by simp, digits⟩
  · exact digits

theorem toChar?_hexDigit {value : Nat} (small : value < 16) : (hexDigit value).toChar?.isSome := by
  refine toChar?_of_lt ?_
  simp only [hexDigit, Fin.ofNat]
  split <;> omega

private theorem encodable_escapeChar {point : CodePoint} (valid : point.toChar?.isSome) :
    Encodable (escapeChar point) := by
  unfold escapeChar
  split_ifs with quote backslash newline carriage tab feed back control
  · simp [Encodable]
  · simp [Encodable]
  · simp [Encodable]
  · simp [Encodable]
  · simp [Encodable]
  · simp [Encodable]
  · simp [Encodable]
  · have high := @toChar?_hexDigit (point.val / 16) (by omega)
    have low := @toChar?_hexDigit (point.val % 16) (by omega)
    simp [Encodable, high, low]
  · exact encodable_cons.mpr ⟨valid, by simp [Encodable]⟩

private theorem encodable_printStr {text : PyStr} (encodable : Encodable text) :
    Encodable (printStr text) := by
  rw [printStr, List.cons_append, encodable_cons, encodable_append]
  refine ⟨by simp, ?_, by simp [Encodable]⟩
  intro point member
  obtain ⟨origin, original, escaped⟩ := List.mem_flatMap.mp member
  exact encodable_escapeChar (encodable origin original) point escaped

/-- A member of an object behind the comma or brace that opens it. -/
private theorem encodable_member {key : PyStr} {value : Json} {rest : PyStr}
    {opening : CodePoint} (valid : opening.toChar?.isSome) (named : Encodable key)
    (printed : Encodable value.print) (others : Encodable rest) :
    Encodable (opening :: printStr key ++ ch ':' :: value.print ++ rest) := by
  rw [encodable_append, encodable_append, encodable_cons, encodable_cons]
  exact ⟨⟨⟨valid, encodable_printStr named⟩, by simp, printed⟩, others⟩

private theorem encodable_printItems {items : List Json}
    (each : ∀ item ∈ items, Encodable item.print) : Encodable (printItems items) := by
  induction items with
  | nil => simp [Encodable, printItems]
  | cons item rest ih =>
    rw [List.forall_mem_cons] at each
    rw [printItems, List.cons_append, encodable_cons, encodable_append]
    exact ⟨by simp, each.1, ih each.2⟩

private theorem encodable_printMembers {members : List (PyStr × Json)}
    (keys : ∀ member ∈ members, Encodable member.1)
    (each : ∀ member ∈ members, Encodable member.2.print) : Encodable (printMembers members) := by
  induction members with
  | nil => simp [Encodable, printMembers]
  | cons member rest ih =>
    rw [List.forall_mem_cons] at keys each
    exact encodable_member (by simp) keys.1 each.1 (ih keys.2 each.2)

theorem Scalar.print {value : Json} (scalar : Scalar value) : Encodable value.print := by
  induction scalar with
  | null => exact encodable_py "null"
  | bool value =>
    cases value with
    | true => exact encodable_py "true"
    | false => exact encodable_py "false"
  | int value =>
    rw [Json.print]
    exact encodable_printInt value
  | float text =>
    rw [Json.print]
    exact encodable_py text
  | str encodable =>
    rw [Json.print]
    exact encodable_printStr encodable
  | @arr items each ih =>
    cases items with
    | nil => exact encodable_py "[]"
    | cons item rest =>
      rw [List.forall_mem_cons] at ih
      rw [Json.print, List.cons_append, encodable_cons, encodable_append]
      exact ⟨by simp, ih.1, encodable_printItems ih.2⟩
  | @obj members keys each ih =>
    cases members with
    | nil => exact encodable_py "{}"
    | cons member rest =>
      rw [List.forall_mem_cons] at keys ih
      exact encodable_member (by simp) keys.1 ih.1 (encodable_printMembers keys.2 ih.2)

/-- A document without lone surrogates can be printed and encoded. -/
theorem Scalar.textEncodable {value : Json} (scalar : Scalar value) : value.TextEncodable :=
  scalar.sortKeys.print

/-- Only scalar values escape to something that can be encoded. -/
theorem toChar?_of_escapeChar {point : CodePoint} (escaped : Encodable (escapeChar point)) :
    point.toChar?.isSome := by
  rw [escapeChar] at escaped
  split_ifs at escaped with quote backslash newline carriage tab feed back control
  · rw [quote]
    simp
  · rw [backslash]
    simp
  · exact toChar?_of_lt (by omega)
  · exact toChar?_of_lt (by omega)
  · exact toChar?_of_lt (by omega)
  · exact toChar?_of_lt (by omega)
  · exact toChar?_of_lt (by omega)
  · exact toChar?_of_lt (by omega)
  · exact escaped point (by simp)

theorem encodable_of_printStr {text : PyStr} (printed : Encodable (printStr text)) :
    Encodable text := by
  rw [printStr, List.cons_append, encodable_cons, encodable_append] at printed
  intro point member
  exact toChar?_of_escapeChar fun other within =>
    printed.2.1 other (List.mem_flatMap.mpr ⟨point, member, within⟩)

private theorem scalar_of_printItems {items : List Json}
    (each : ∀ item ∈ items, Encodable item.print → Scalar item)
    (printed : Encodable (printItems items)) : ∀ item ∈ items, Scalar item := by
  induction items with
  | nil => simp
  | cons item rest ih =>
    rw [List.forall_mem_cons] at each ⊢
    rw [printItems, List.cons_append, encodable_cons, encodable_append] at printed
    exact ⟨each.1 printed.2.1, ih each.2 printed.2.2⟩

private theorem scalar_of_printMembers {members : List (PyStr × Json)}
    (each : ∀ member ∈ members, Encodable member.2.print → Scalar member.2)
    (printed : Encodable (printMembers members)) :
    (∀ member ∈ members, Encodable member.1) ∧ ∀ member ∈ members, Scalar member.2 := by
  induction members with
  | nil => simp
  | cons member rest ih =>
    rw [List.forall_mem_cons] at each
    simp only [printMembers, List.cons_append, encodable_cons, encodable_append] at printed
    obtain ⟨_, ⟨key, _, value⟩, others⟩ := printed
    obtain ⟨keys, values⟩ := ih each.2 others
    exact ⟨List.forall_mem_cons.mpr ⟨encodable_of_printStr key, keys⟩,
      List.forall_mem_cons.mpr ⟨each.1 value, values⟩⟩

/-- A document whose text can be encoded has no lone surrogate anywhere. -/
theorem Scalar.of_print {value : Json} (printed : Encodable value.print) : Scalar value := by
  induction value using Json.induction with
  | null => exact .null
  | bool value => exact .bool value
  | int value => exact .int value
  | float text => exact .float text
  | str text =>
    rw [Json.print] at printed
    exact .str (encodable_of_printStr printed)
  | arr items ih =>
    refine .arr ?_
    cases items with
    | nil => simp
    | cons item rest =>
      rw [List.forall_mem_cons] at ih ⊢
      rw [Json.print, List.cons_append, encodable_cons, encodable_append] at printed
      exact ⟨ih.1 printed.2.1, scalar_of_printItems ih.2 printed.2.2⟩
  | obj members ih =>
    cases members with
    | nil => exact .obj (by simp) (by simp)
    | cons member rest =>
      rw [List.forall_mem_cons] at ih
      simp only [Json.print, List.cons_append, encodable_cons, encodable_append] at printed
      obtain ⟨_, ⟨key, _, value⟩, others⟩ := printed
      obtain ⟨keys, values⟩ := scalar_of_printMembers ih.2 others
      exact .obj (List.forall_mem_cons.mpr ⟨encodable_of_printStr key, keys⟩)
        (List.forall_mem_cons.mpr ⟨ih.1 value, values⟩)

end OctoChannel.Foundation.Json
