import OctoChannel.Mentions.Conversion

namespace OctoChannel.Mentions

open Foundation Identity

variable {content text : PyStr} {targets : List Nat} {offset : Nat}

theorem le_largest {target : Nat} (member : target ∈ targets) : target ≤ largest targets := by
  have general : ∀ (items : List Nat) (start : Nat),
      start ≤ items.foldl max start ∧ ∀ item ∈ items, item ≤ items.foldl max start := by
    intro items
    induction items with
    | nil => exact fun start => ⟨Nat.le_refl start, fun item none => by cases none⟩
    | cons first rest ih =>
      intro start
      obtain ⟨least, all⟩ := ih (max start first)
      rw [List.foldl_cons]
      refine ⟨by omega, ?_⟩
      intro item present
      rcases List.mem_cons.mp present with same | later
      · rw [same]
        omega
      · exact all item later
  exact (general targets 0).2 target member

/-- What the scan has found behind the characters that it has read. -/
def Scanned (text : PyStr) (targets : List Nat) (units : Nat) (boundaries : Dict Nat Nat) : Prop :=
  ∀ offset, boundaries.get? offset =
    if offset ∈ targets ∧ offset ≤ units then unitIndex? text offset else none

theorem Scanned.step {done rest : PyStr} {point : CodePoint} {boundaries : Dict Nat Nat}
    (scanned : Scanned (done ++ point :: rest) targets (utf16 done).length boundaries) :
    Scanned (done ++ point :: rest) targets ((utf16 done).length + point.width)
      (if (utf16 done).length + point.width ∈ targets then
        boundaries.set ((utf16 done).length + point.width) (done.length + 1)
      else boundaries) := by
  have wide := point.width_pos
  have before : (utf16 ((done ++ point :: rest).take done.length)).length =
      (utf16 done).length := by
    rw [List.take_left]
  have behind : (utf16 ((done ++ point :: rest).take (done.length + 1))).length =
      (utf16 done).length + point.width := by
    rw [List.take_append, List.take_of_length_le (by omega)]
    simp
  have inside : done.length + 1 ≤ (done ++ point :: rest).length := by simp
  have here : unitIndex? (done ++ point :: rest) ((utf16 done).length + point.width) =
      some (done.length + 1) := unitIndex?_eq_some_iff.mpr ⟨inside, behind⟩
  -- Between the last character and this one no character begins.
  have between : ∀ offset, (utf16 done).length < offset →
      offset < (utf16 done).length + point.width →
        unitIndex? (done ++ point :: rest) offset = none := by
    intro offset low high
    apply unitIndex?_eq_none_iff.mpr
    intro index within same
    rcases Nat.lt_or_ge index (done.length + 1) with early | late
    · have shorter := @length_utf16_take_le (done ++ point :: rest) index done.length (by omega)
        (by omega)
      omega
    · have longer := length_utf16_take_le late within
      omega
  intro offset
  have known := scanned offset
  by_cases now : offset = (utf16 done).length + point.width
  · subst now
    split
    · rename_i member
      rw [Dict.get?_set_self, if_pos ⟨member, Nat.le_refl _⟩, here]
    · rename_i absent
      rw [known, if_neg fun both => absent both.1, if_neg fun both => absent both.1]
  · have kept : (if (utf16 done).length + point.width ∈ targets then
        boundaries.set ((utf16 done).length + point.width) (done.length + 1)
      else boundaries).get? offset = boundaries.get? offset := by
      split
      · rw [Dict.get?_set_of_ne _ _ (Ne.symm now)]
      · rfl
    rw [kept, known]
    by_cases low : offset ≤ (utf16 done).length
    · have later : offset ≤ (utf16 done).length + point.width := by omega
      simp only [low, later]
    · by_cases high : offset < (utf16 done).length + point.width
      · rw [if_neg fun both => low both.2, between offset (by omega) high, ite_self]
      · rw [if_neg fun both => low both.2, if_neg fun both => by omega]

private theorem scanned_scanBoundaries (done rest : PyStr) {boundaries : Dict Nat Nat}
    (scanned : Scanned (done ++ rest) targets (utf16 done).length boundaries) (offset : Nat) :
    (scanBoundaries targets (largest targets) done.length (utf16 done).length rest
      boundaries).get? offset = if offset ∈ targets then unitIndex? (done ++ rest) offset else none := by
  induction rest generalizing done boundaries with
  | nil =>
    rw [scanBoundaries, scanned offset]
    by_cases member : offset ∈ targets
    · by_cases reached : offset ≤ (utf16 done).length
      · rw [if_pos ⟨member, reached⟩, if_pos member]
      · rw [if_neg fun both => reached both.2, if_pos member, List.append_nil,
          unitIndex?_of_beyond (Nat.not_le.mp reached)]
    · rw [if_neg fun both => member both.1, if_neg member]
  | cons point rest ih =>
    have next := scanned.step
    unfold scanBoundaries
    dsimp only
    split
    · rename_i finished
      rw [next offset]
      by_cases member : offset ∈ targets
      · rw [if_pos ⟨member, (le_largest member).trans finished⟩, if_pos member]
      · rw [if_neg fun both => member both.1, if_neg member]
    · have size : (utf16 (done ++ [point])).length = (utf16 done).length + point.width := by simp
      have whole : done ++ point :: rest = done ++ [point] ++ rest := by simp
      have length : done.length + 1 = (done ++ [point]).length := by simp
      rw [whole] at next ⊢
      rw [← size, length] at next
      rw [← size, length]
      exact ih (done ++ [point]) next

private theorem get?_utf16Boundaries (text : PyStr) (targets : List Nat) (offset : Nat) :
    (utf16Boundaries text targets).get? offset =
      if offset ∈ targets then unitIndex? text offset else none := by
  have first : unitIndex? text 0 = some 0 := unitIndex?_eq_some_iff.mpr ⟨Nat.zero_le _, rfl⟩
  have scanned : Scanned text targets 0
      (if 0 ∈ targets then Dict.empty.set 0 0 else Dict.empty) := by
    intro offset
    by_cases zero : offset = 0
    · subst zero
      by_cases member : 0 ∈ targets
      · simp [member, first]
      · simp [member]
    · have outside : ¬ (offset ∈ targets ∧ offset ≤ 0) := fun both => zero (Nat.le_zero.mp both.2)
      rw [if_neg outside]
      split
      · rw [Dict.get?_set_of_ne _ _ (Ne.symm zero), Dict.get?_empty]
      · rfl
  unfold utf16Boundaries
  dsimp only
  by_cases none : targets = []
  · subst none
    rfl
  · rw [if_neg none]
    exact scanned_scanBoundaries [] text scanned offset

/-- What an entity means: its ends, counted in the UTF-16 units of the content, are the
boundaries of characters, and the first of these is `@`. -/
def referenceRange (content : PyStr) (entity : MentionEntity) : Option EntityRange :=
  match entity.offset, entity.length with
  | .int offset, .int length =>
    if truthy entity.uid ∧ 0 ≤ offset ∧ 0 < length then
      match unitIndex? content offset.toNat, unitIndex? content (offset + length).toNat with
      | some start, some stop =>
        if content[start]? = some (ch '@') then some ⟨entity, start, stop⟩ else none
      | _, _ => none
    else none
  | _, _ => none

section Cases

variable {entity : MentionEntity} {first length : Int}

theorem validUnits_of_integers (hasOffset : entity.offset = .int first)
    (hasLength : entity.length = .int length) :
    validUnits entity = if truthy entity.uid && decide (0 ≤ first) && decide (0 < length) then
      some (first.toNat, (first + length).toNat) else none := by
  unfold validUnits
  rw [hasOffset, hasLength]

theorem referenceRange_of_integers (hasOffset : entity.offset = .int first)
    (hasLength : entity.length = .int length) :
    referenceRange content entity =
      if truthy entity.uid ∧ 0 ≤ first ∧ 0 < length then
        match unitIndex? content first.toNat, unitIndex? content (first + length).toNat with
        | some start, some stop =>
          if content[start]? = some (ch '@') then some ⟨entity, start, stop⟩ else none
        | _, _ => none
      else none := by
  unfold referenceRange
  rw [hasOffset, hasLength]

/-- An entity whose ends are not both integers. -/
def NoIntegers (entity : MentionEntity) : Prop :=
  ∀ first length : Int, entity.offset = .int first → entity.length = .int length → False

theorem integers_or (entity : MentionEntity) :
    (∃ first length : Int, entity.offset = .int first ∧ entity.length = .int length) ∨
      NoIntegers entity := by
  by_cases integers : ∃ first length : Int,
      entity.offset = .int first ∧ entity.length = .int length
  · exact .inl integers
  · refine .inr ?_
    intro first length hasOffset hasLength
    exact integers ⟨first, length, hasOffset, hasLength⟩

private theorem validUnits_of_noIntegers (other : NoIntegers entity) :
    validUnits entity = none := by
  unfold validUnits
  split
  · rename_i first length hasOffset hasLength
    exact (other first length hasOffset hasLength).elim
  · rfl

private theorem referenceRange_of_noIntegers (other : NoIntegers entity) :
    referenceRange content entity = none := by
  unfold referenceRange
  split
  · rename_i first length hasOffset hasLength
    exact (other first length hasOffset hasLength).elim
  · rfl

end Cases

theorem validUnits_some {entity : MentionEntity} {units : Nat × Nat}
    (valid : validUnits entity = some units) : units.1 < units.2 ∧
      referenceRange content entity = rangeAt content (unitIndex? content) entity units := by
  rcases integers_or entity with ⟨offset, length, hasOffset, hasLength⟩ | other
  · rw [validUnits_of_integers hasOffset hasLength] at valid
    rw [referenceRange_of_integers hasOffset hasLength]
    split at valid
    · rename_i good
      simp only [Bool.and_eq_true, decide_eq_true_eq] at good
      obtain ⟨⟨uid, low⟩, long⟩ := good
      cases valid
      have ordered : offset.toNat < (offset + length).toNat := by omega
      refine ⟨ordered, ?_⟩
      rw [if_pos ⟨uid, low, long⟩]
      unfold rangeAt
      dsimp only
      cases first : unitIndex? content offset.toNat with
      | none => rfl
      | some start =>
        cases last : unitIndex? content (offset + length).toNat with
        | none => rfl
        | some stop =>
          obtain ⟨inside, starts⟩ := unitIndex?_eq_some_iff.mp first
          obtain ⟨-, stops⟩ := unitIndex?_eq_some_iff.mp last
          have before : ¬ stop ≤ start := by
            intro back
            have shorter := length_utf16_take_le back inside
            omega
          dsimp only
          by_cases marked : content[start]? = some (ch '@')
          · rw [if_pos marked, if_neg fun either => either.elim before fun other => other marked]
          · rw [if_neg marked, if_pos (.inr marked)]
    · cases valid
  · rw [validUnits_of_noIntegers other] at valid
    cases valid

theorem validUnits_none {entity : MentionEntity} (invalid : validUnits entity = none) :
    referenceRange content entity = none := by
  rcases integers_or entity with ⟨offset, length, hasOffset, hasLength⟩ | other
  · rw [validUnits_of_integers hasOffset hasLength] at invalid
    rw [referenceRange_of_integers hasOffset hasLength]
    split at invalid
    · cases invalid
    · rename_i bad
      simp only [Bool.and_eq_true, decide_eq_true_eq] at bad
      exact if_neg fun good => bad ⟨⟨good.1, good.2.1⟩, good.2.2⟩
  · exact referenceRange_of_noIntegers other

variable {valid : List (MentionEntity × (Nat × Nat))} {item : MentionEntity × (Nat × Nat)}

theorem mem_boundaryTargets (member : item ∈ valid) (either : offset = item.2.1 ∨ offset = item.2.2)
    (inside : offset ≤ 2 * content.length) : offset ∈ boundaryTargets content valid := by
  apply List.mem_filter.mpr
  refine ⟨List.mem_flatMap.mpr ⟨item, member, ?_⟩, by simpa using inside⟩
  rcases either with same | same <;> simp [same]

theorem unitIndex?_of_far (far : 2 * content.length < offset) : unitIndex? content offset = none :=
  unitIndex?_of_beyond (Nat.lt_of_le_of_lt (length_utf16_le content) far)

/-- The identity maps a boundary right when the prefix that is inspected is plain. -/
theorem plainIndex_of_plain (plain : plainPrefix content (boundaryTargets content valid) = true)
    (member : item ∈ valid) (either : offset = item.2.1 ∨ offset = item.2.2) :
    plainIndex content offset = unitIndex? content offset := by
  by_cases inside : offset ≤ 2 * content.length
  · have reached := le_largest (mem_boundaryTargets member either inside)
    have basic : ∀ point ∈ content.take (largest (boundaryTargets content valid)),
        point.val ≤ 0xffff := by
      intro point present
      have small := List.all_eq_true.mp plain point present
      simpa using small
    rw [unitIndex?_of_plain basic reached, plainIndex]
  · have far : ¬ offset ≤ content.length := by omega
    rw [unitIndex?_of_far (Nat.not_le.mp inside), plainIndex, if_neg far]

/-- The scan always does. -/
theorem get?_of_valid (member : item ∈ valid) (either : offset = item.2.1 ∨ offset = item.2.2) :
    (utf16Boundaries content (boundaryTargets content valid)).get? offset =
      unitIndex? content offset := by
  rw [get?_utf16Boundaries]
  split
  · rfl
  · rename_i absent
    symm
    apply unitIndex?_of_far
    apply Nat.not_le.mp
    intro inside
    exact absent (mem_boundaryTargets member either inside)

theorem rangeAt_congr {first second : Nat → Option Nat} {entity : MentionEntity}
    {units : Nat × Nat} (starts : first units.1 = second units.1)
    (stops : first units.2 = second units.2) :
    rangeAt content first entity units = rangeAt content second entity units := by
  unfold rangeAt
  rw [starts, stops]

theorem filterMap_plainIndex
    (plain : plainPrefix content (boundaryTargets content valid) = true) :
    (valid.filterMap fun item => rangeAt content (plainIndex content) item.1 item.2) =
      valid.filterMap fun item => rangeAt content (unitIndex? content) item.1 item.2 := by
  apply List.filterMap_congr
  intro item member
  exact rangeAt_congr (plainIndex_of_plain plain member (.inl rfl))
    (plainIndex_of_plain plain member (.inr rfl))

theorem filterMap_boundaries (content : PyStr) (valid : List (MentionEntity × (Nat × Nat))) :
    (valid.filterMap fun item => rangeAt content
      (utf16Boundaries content (boundaryTargets content valid)).get? item.1 item.2) =
        valid.filterMap fun item => rangeAt content (unitIndex? content) item.1 item.2 := by
  apply List.filterMap_congr
  intro item member
  exact rangeAt_congr (get?_of_valid member (.inl rfl)) (get?_of_valid member (.inr rfl))

theorem filterMap_validEntities (content : PyStr) (entities : List MentionEntity) :
    ((validEntities entities).filterMap fun item =>
      rangeAt content (unitIndex? content) item.1 item.2) =
        entities.filterMap (referenceRange content) := by
  unfold validEntities
  rw [List.filterMap_filterMap]
  apply List.filterMap_congr
  intro entity _
  cases valid : validUnits entity with
  | none => rw [Option.map_none, Option.bind_none, validUnits_none valid]
  | some units => rw [Option.map_some, Option.bind_some, (validUnits_some valid).2]

theorem entityRanges_eq (content : PyStr) (entities : List MentionEntity) :
    entityRanges content entities = entities.filterMap (referenceRange content) := by
  rw [← filterMap_validEntities]
  unfold entityRanges
  dsimp only
  split
  · rename_i plain
    exact filterMap_plainIndex plain
  · exact filterMap_boundaries content (validEntities entities)

/-- The ranges are the reference's, whichever mapping is taken, and each entity counts for
itself. -/
theorem entity_ranges_exact (content : PyStr) (entities : List MentionEntity) :
    let valid := validEntities entities
    let targets := boundaryTargets content valid
    entityRanges content entities = entities.filterMap (referenceRange content) ∧
      (valid.filterMap fun item =>
        rangeAt content (utf16Boundaries content targets).get? item.1 item.2) =
          entityRanges content entities ∧
      (plainPrefix content targets = true →
        (valid.filterMap fun item => rangeAt content (plainIndex content) item.1 item.2) =
          entityRanges content entities) ∧
      entityRanges content entities =
        entities.flatMap fun entity => entityRanges content [entity] := by
  intro valid targets
  have reference := entityRanges_eq content entities
  have meant := filterMap_validEntities content entities
  refine ⟨reference, ?_, ?_, ?_⟩
  · rw [reference, ← meant]
    exact filterMap_boundaries content valid
  · intro plain
    rw [reference, ← meant]
    exact filterMap_plainIndex plain
  · rw [reference, List.filterMap_eq_flatMap_toList]
    apply List.flatMap_congr
    intro entity _
    rw [entityRanges_eq]
    cases range : referenceRange content entity with
    | none => simp [range]
    | some found => simp [range]

end OctoChannel.Mentions
