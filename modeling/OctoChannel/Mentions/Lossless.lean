import OctoChannel.Mentions.EntityRanges

namespace OctoChannel.Mentions

open Foundation Identity

variable {words : WordChars} {str : Json → PyStr} {content : PyStr} {members : Dict PyStr PyStr}

/-- The mention stands in the text from this position on. -/
structure StandsIn (text : PyStr) (position : Nat) (mention : MentionMatch) : Prop where
  after : position ≤ mention.start
  here : ∃ rest, text.drop (mention.start - position) = ch '@' :: mention.name ++ rest

theorem standsIn_scanMentions {previous : Option CodePoint} {position skip : Nat} {text : PyStr} :
    ∀ mention ∈ scanMentions words previous position skip text,
      StandsIn text position mention ∧ position + skip ≤ mention.start := by
  induction text generalizing previous position skip with
  | nil => exact fun mention none => by cases none
  | cons point rest ih =>
    have moved : ∀ {skip : Nat} {mention : MentionMatch}, StandsIn rest (position + 1) mention ∧
        position + 1 + skip ≤ mention.start → StandsIn (point :: rest) position mention := by
      intro skip mention found
      obtain ⟨⟨after, more, here⟩, -⟩ := found
      refine ⟨by omega, more, ?_⟩
      have step : mention.start - position = mention.start - (position + 1) + 1 := by omega
      rw [step, List.drop_succ_cons, here]
    intro mention found
    unfold scanMentions at found
    split at found
    · have later := ih mention found
      exact ⟨moved later, by omega⟩
    · rename_i free
      dsimp only at found
      split at found
      · rename_i marked
        simp only [Bool.and_eq_true, decide_eq_true_eq] at marked
        rcases List.mem_cons.mp found with same | later
        · subst same
          refine ⟨⟨Nat.le_refl position, rest.dropWhile (nameChar words), ?_⟩, by
            dsimp only
            omega⟩
          rw [Nat.sub_self, List.drop_zero, marked.1.1, List.cons_append,
            List.takeWhile_append_dropWhile]
        · have found := ih mention later
          exact ⟨moved found, by omega⟩
      · have later := ih mention found
        exact ⟨moved later, by omega⟩

/-- One mention ends before the next begins. -/
theorem apart_scanMentions {previous : Option CodePoint} {position skip : Nat} {text : PyStr} :
    (scanMentions words previous position skip text).Pairwise fun first second =>
      first.start + 1 + first.name.length ≤ second.start := by
  induction text generalizing previous position skip with
  | nil => exact .nil
  | cons point rest ih =>
    unfold scanMentions
    split
    · exact ih
    · dsimp only
      split
      · apply List.pairwise_cons.mpr
        exact ⟨fun mention later => (standsIn_scanMentions mention later).2, ih⟩
      · exact ih

theorem apart_boundedMentions (words : WordChars) (content : PyStr) :
    (boundedMentions words content).Pairwise fun first second =>
      first.start + 1 + first.name.length ≤ second.start :=
  apart_scanMentions.sublist (List.take_sublist _ _)

theorem standsIn_boundedMentions {mention : MentionMatch}
    (member : mention ∈ boundedMentions words content) :
    ∃ rest, content.drop mention.start = ch '@' :: mention.name ++ rest :=
  (standsIn_scanMentions mention (List.mem_of_mem_take member)).1.here

/-- The range holds `@` and the name of its envelope. -/
structure Replacement.Exact (replacement : Replacement) (content : PyStr) : Prop where
  within : replacement.patch.Within content.length
  covers : replacement.patch.covered content = ch '@' :: replacement.envelope.name

theorem exact_replaceName {start : Nat} {envelope : Envelope} {rest : PyStr}
    (here : content.drop start = ch '@' :: envelope.name ++ rest) :
    (replaceName start envelope).Exact content := by
  have size := congrArg List.length here
  rw [List.length_drop, List.length_append, List.length_cons] at size
  refine ⟨⟨?_, ?_⟩, ?_⟩
  · show start ≤ start + 1 + envelope.name.length
    omega
  · show start + 1 + envelope.name.length ≤ content.length
    omega
  · show (content.take (start + 1 + envelope.name.length)).drop start = _
    have width : start + 1 + envelope.name.length - start =
        (ch '@' :: envelope.name).length := by
      rw [List.length_cons]
      omega
    rw [List.drop_take, here, width, List.take_left]
    rfl

private theorem exact_positionalReplacement {mention : MentionMatch} {uid : Json}
    {replacement : Replacement}
    (member : mention ∈ boundedMentions words content)
    (taken : positionalReplacement (mention, uid) = some replacement) :
    replacement.Exact content := by
  obtain ⟨rest, here⟩ := standsIn_boundedMentions member
  obtain ⟨text, -, same⟩ := Option.map_eq_some_iff.mp taken
  subst same
  exact exact_replaceName here

theorem resolveMember_here {mention : MentionMatch} {envelope : Envelope}
    (member : mention ∈ boundedMentions words content)
    (resolved : resolveMember words content members mention = some envelope) :
    ∃ rest, content.drop mention.start = ch '@' :: envelope.name ++ rest := by
  obtain ⟨rest, here⟩ := standsIn_boundedMentions member
  unfold resolveMember at resolved
  split at resolved
  · rename_i longer
    cases resolved
    obtain ⟨candidate, -, found⟩ := List.exists_of_findSome?_eq_some longer
    split at found
    · rename_i bounded
      rw [Bool.and_eq_true, List.isPrefixOf_iff_prefix] at bounded
      obtain ⟨more, continued⟩ := bounded.1
      obtain ⟨uid, -, same⟩ := Option.map_eq_some_iff.mp found
      subst same
      refine ⟨more, ?_⟩
      have next := congrArg (List.drop 1) here
      rw [List.drop_drop, ← continued] at next
      rw [here, List.cons_append, List.cons_append, next]
      rfl
    · cases found
  · obtain ⟨uid, -, same⟩ := Option.map_eq_some_iff.mp resolved
    subst same
    exact ⟨rest, here⟩

private theorem exact_memberReplacement {mention : MentionMatch} {replacement : Replacement}
    (member : mention ∈ boundedMentions words content)
    (taken : memberReplacement words content members mention = some replacement) :
    replacement.Exact content := by
  obtain ⟨envelope, resolved, same⟩ := Option.map_eq_some_iff.mp taken
  obtain ⟨rest, here⟩ := resolveMember_here member resolved
  subst same
  exact exact_replaceName here

private theorem rangeAt_some {index : Nat → Option Nat} {entity : MentionEntity} {units : Nat × Nat}
    {range : EntityRange} (found : rangeAt content index entity units = some range) :
    range.start < range.stop ∧ content[range.start]? = some (ch '@') ∧
      index units.2 = some range.stop := by
  unfold rangeAt at found
  split at found
  · rename_i start stop first last
    split at found
    · cases found
    · rename_i good
      rw [not_or, not_not] at good
      cases found
      exact ⟨Nat.not_le.mp good.1, good.2, last⟩
  · cases found

private theorem exact_replacement {range : EntityRange} (ordered : range.start < range.stop)
    (inside : range.stop ≤ content.length) (marked : content[range.start]? = some (ch '@')) :
    (range.replacement str content).Exact content := by
  refine ⟨⟨Nat.le_of_lt ordered, inside⟩, ?_⟩
  show (content.take range.stop).drop range.start =
    ch '@' :: (content.take range.stop).drop (range.start + 1)
  have here : (content.take range.stop)[range.start]? = some (ch '@') := by
    rw [List.getElem?_take, if_pos ordered, marked]
  obtain ⟨short, same⟩ := List.getElem?_eq_some_iff.mp here
  rw [List.drop_eq_getElem_cons short, same]

private theorem inOrder_of_not_overlaps {cursor : Nat} {ranges : List EntityRange}
    (apart : overlaps ranges = false) (reached : ∀ range ∈ ranges.head?, cursor ≤ range.start) :
    InOrder cursor ((ranges.map (EntityRange.replacement str content)).map Replacement.patch) := by
  induction ranges generalizing cursor with
  | nil => trivial
  | cons range rest ih =>
    refine ⟨reached range rfl, ?_⟩
    cases rest with
    | nil => trivial
    | cons next others =>
      simp only [overlaps, Bool.or_eq_false_iff, decide_eq_false_iff_not] at apart
      apply ih apart.2
      intro found same
      cases same
      exact Nat.not_lt.mp apart.1

/-- The result is the content cut into slices and names, with the slices neutralised and an
envelope for each name. -/
def Lossless (content : PyStr) (envelopes : List Envelope) (result : PyStr) : Prop :=
  ∃ (slices : List PyStr) (last : PyStr), slices.length = envelopes.length ∧
    content = interleave (slices.zip (envelopes.map fun envelope => ch '@' :: envelope.name)) last ∧
    result = interleave ((slices.map neutralizeStructuredMentionEnvelopes).zip
      (envelopes.map Envelope.text)) (neutralizeStructuredMentionEnvelopes last)

theorem length_neutralize (text : PyStr) :
    (neutralizeStructuredMentionEnvelopes text).length = text.length := by
  induction text with
  | nil => rfl
  | cons point rest ih =>
    rw [neutralizeStructuredMentionEnvelopes, List.length_cons, List.length_cons, ih]

theorem length_envelope (envelope : Envelope) :
    envelope.text.length = envelopeLength envelope.uid envelope.name := by
  simp only [Envelope.text, envelopeLength, List.cons_append, List.length_cons, List.length_append,
    List.length_nil]
  omega

variable {replacements : List Replacement}

/-- A rendering is lossless exactly when the ranges of its replacements are in order. -/
theorem lossless_render_iff (precise : ∀ replacement ∈ replacements, replacement.Exact content) :
    Lossless content (replacements.map Replacement.envelope)
        (renderTrustedReplacements content replacements) ↔
      InOrder 0 (replacements.map Replacement.patch) := by
  have within : ∀ patch ∈ replacements.map Replacement.patch, patch.Within content.length := by
    intro patch member
    obtain ⟨replacement, listed, same⟩ := List.mem_map.mp member
    rw [← same]
    exact (precise replacement listed).within
  have covered : (replacements.map Replacement.patch).map (fun patch => patch.covered content) =
      (replacements.map Replacement.envelope).map fun envelope => ch '@' :: envelope.name := by
    rw [List.map_map, List.map_map]
    apply List.map_congr_left
    exact fun replacement member => (precise replacement member).covers
  have pieces : (replacements.map Replacement.patch).map Patch.piece =
      (replacements.map Replacement.envelope).map Envelope.text := by
    rw [List.map_map, List.map_map]
    rfl
  constructor
  · intro lossless
    obtain ⟨slices, last, same, source, result⟩ := lossless
    have before := length_interleave slices
      ((replacements.map Replacement.envelope).map fun envelope => ch '@' :: envelope.name) last
      (by rw [List.length_map, same])
    have after := length_interleave (slices.map neutralizeStructuredMentionEnvelopes)
      ((replacements.map Replacement.envelope).map Envelope.text)
      (neutralizeStructuredMentionEnvelopes last) (by rw [List.length_map, List.length_map, same])
    have even : (slices.map neutralizeStructuredMentionEnvelopes).map List.length =
        slices.map List.length := by
      rw [List.map_map]
      exact List.map_congr_left fun slice _ => length_neutralize slice
    rw [← source, ← covered, ← widths_eq_covered within] at before
    rw [← result, even, length_neutralize, ← pieces, List.map_map] at after
    apply (length_splice length_neutralize within (Nat.zero_le _)).2.mp
    show (renderTrustedReplacements content replacements).length + _ = _
    rw [after, before, pieceSizes, Function.comp_def]
    omega
  · intro inOrder
    refine ⟨gaps content 0 (replacements.map Replacement.patch),
      tailGap content 0 (replacements.map Replacement.patch), ?_, ?_, ?_⟩
    · rw [length_gaps, List.length_map, List.length_map]
    · rw [← covered]
      exact drop_eq_interleave within inOrder
    · rw [← pieces]
      exact splice_eq_interleave _ content 0 _

private theorem exact_of_entityRanges {entities : List MentionEntity} {range : EntityRange}
    (member : range ∈ entityRanges content entities) :
    (range.replacement str content).Exact content := by
  rw [entityRanges_eq] at member
  obtain ⟨entity, -, reference⟩ := List.mem_filterMap.mp member
  cases valid : validUnits entity with
  | none =>
    rw [validUnits_none valid] at reference
    cases reference
  | some units =>
    rw [(validUnits_some valid).2] at reference
    obtain ⟨ordered, marked, last⟩ := rangeAt_some reference
    exact exact_replacement ordered (unitIndex?_eq_some_iff.mp last).1 marked

private theorem exact_entityReplacements {payload : MentionPayload}
    (taken : entityReplacements str content payload = some replacements) :
    ∀ replacement ∈ replacements, replacement.Exact content := by
  unfold entityReplacements at taken
  split at taken
  · cases taken
  · rename_i entities listed
    dsimp only at taken
    split at taken
    · cases taken
    · cases taken
      intro replacement member
      obtain ⟨range, sorted, same⟩ := List.mem_map.mp member
      rw [← same]
      exact exact_of_entityRanges ((List.mem_insertionSort _).mp sorted)

private theorem inOrder_entityReplacements {payload : MentionPayload}
    (taken : entityReplacements str content payload = some replacements) :
    InOrder 0 (replacements.map Replacement.patch) := by
  unfold entityReplacements at taken
  split at taken
  · cases taken
  · dsimp only at taken
    split at taken
    · cases taken
    · rename_i good
      rw [Bool.or_eq_true, not_or, Bool.not_eq_true, Bool.not_eq_true] at good
      cases taken
      exact inOrder_of_not_overlaps good.2 fun range _ => Nat.zero_le range.start

variable {payload : MentionPayload} {named : Option (Dict PyStr PyStr)}

theorem exact_fallbackReplacements {replacement : Replacement}
    (member : replacement ∈ fallbackReplacements words content payload named) :
    replacement.Exact content := by
  unfold fallbackReplacements at member
  split at member
  · obtain ⟨mention, listed, taken⟩ := List.mem_filterMap.mp member
    exact exact_memberReplacement listed taken
  · obtain ⟨⟨mention, uid⟩, listed, taken⟩ := List.mem_filterMap.mp member
    exact exact_positionalReplacement (List.of_mem_zip listed).1 taken

/-- Both kinds of replacement begin where their mention does. -/
theorem start_memberReplacement {mention : MentionMatch} {replacement : Replacement}
    (taken : memberReplacement words content members mention = some replacement) :
    replacement.start = mention.start := by
  obtain ⟨envelope, -, same⟩ := Option.map_eq_some_iff.mp taken
  rw [← same]
  rfl

theorem positionalReplacement_some {pair : MentionMatch × Json} {replacement : Replacement}
    (taken : positionalReplacement pair = some replacement) :
    replacement.start = pair.1.start ∧
      replacement.stop = pair.1.start + 1 + pair.1.name.length := by
  obtain ⟨uid, -, same⟩ := Option.map_eq_some_iff.mp taken
  rw [← same]
  exact ⟨rfl, rfl⟩

private theorem pairwise_zip {Item Other : Type} {Rel : Item → Item → Prop} {items : List Item}
    (apart : items.Pairwise Rel) (others : List Other) :
    (items.zip others).Pairwise fun first second => Rel first.1 second.1 := by
  induction apart generalizing others with
  | nil => exact .nil
  | cons before later ih =>
    cases others with
    | nil => exact .nil
    | cons other rest =>
      rw [List.zip_cons_cons]
      apply List.pairwise_cons.mpr
      exact ⟨fun pair member => before pair.1 (List.of_mem_zip member).1, ih rest⟩

theorem apart_zip (words : WordChars) (content : PyStr) (uids : List Json) :
    ((boundedMentions words content).zip uids).Pairwise fun first second =>
      first.1.start + 1 + first.1.name.length ≤ second.1.start :=
  pairwise_zip (apart_boundedMentions words content) uids

private theorem increasing_fallbackReplacements (words : WordChars) (content : PyStr)
    (payload : MentionPayload) (named : Option (Dict PyStr PyStr)) :
    (fallbackReplacements words content payload named).Pairwise fun first second =>
      first.start < second.start := by
  unfold fallbackReplacements
  split
  · apply List.pairwise_filterMap.mpr
    refine (apart_boundedMentions words content).imp ?_
    intro first second apart one taken other taken'
    rw [start_memberReplacement taken, start_memberReplacement taken']
    omega
  · apply List.pairwise_filterMap.mpr
    refine (apart_zip words content _).imp ?_
    intro first second apart one taken other taken'
    rw [(positionalReplacement_some taken).1, (positionalReplacement_some taken').1]
    omega

theorem sortReplacements_fallback (words : WordChars) (content : PyStr)
    (payload : MentionPayload) (named : Option (Dict PyStr PyStr)) :
    sortReplacements (fallbackReplacements words content payload named) =
      fallbackReplacements words content payload named :=
  List.Pairwise.insertionSort_eq
    ((increasing_fallbackReplacements words content payload named).imp Nat.le_of_lt)

theorem exact_trustedReplacements {mention : MentionArg} {replacement : Replacement}
    (member : replacement ∈ trustedReplacements words str content mention named) :
    replacement.Exact content := by
  unfold trustedReplacements at member
  split at member
  · cases member
  · split at member
    · rename_i taken
      exact exact_entityReplacements taken replacement member
    · rw [sortReplacements_fallback] at member
      exact exact_fallbackReplacements member

/-- The name taken at one mention reaches over the `@` of a later mention, and both stand for
members. -/
def NamesCross (words : WordChars) (content : PyStr) (members : Dict PyStr PyStr) : Prop :=
  ∃ first ∈ boundedMentions words content, ∃ second ∈ boundedMentions words content,
    ∃ envelope other, resolveMember words content members first = some envelope ∧
      resolveMember words content members second = some other ∧ first.start < second.start ∧
        second.start ≤ first.start + envelope.name.length

/-- The message goes by the names of its members, and two of them cross. -/
def CrossedMembers (words : WordChars) (str : Json → PyStr) (content : PyStr)
    (mention : MentionArg) (named : Option (Dict PyStr PyStr)) : Prop :=
  ∃ payload, coerceMention mention = some payload ∧
    entityReplacements str content payload = none ∧ hasMembers named = true ∧
      NamesCross words content (named.getD .empty)

theorem pairwise_iff_of_increasing {Item : Type} {place : Item → Nat} {Rel : Item → Item → Prop}
    {items : List Item}
    (increasing : items.Pairwise fun first second => place first < place second) :
    items.Pairwise Rel ↔
      ∀ first ∈ items, ∀ second ∈ items, place first < place second → Rel first second := by
  induction items with
  | nil => simp
  | cons item rest ih =>
    obtain ⟨before, later⟩ := List.pairwise_cons.mp increasing
    rw [List.pairwise_cons, ih later]
    constructor
    · intro both first one second two ordered
      rcases List.mem_cons.mp one with same | early
      · subst same
        rcases List.mem_cons.mp two with same | two
        · subst same
          exact absurd ordered (Nat.lt_irrefl _)
        · exact both.1 second two
      · rcases List.mem_cons.mp two with same | late
        · have behind := before first early
          rw [same] at ordered
          omega
        · exact both.2 first early second late ordered
    · intro all
      constructor
      · exact fun second two =>
          all item List.mem_cons_self second (List.mem_cons_of_mem item two) (before second two)
      · exact fun first one second two =>
          all first (List.mem_cons_of_mem item one) second (List.mem_cons_of_mem item two)

private theorem inOrder_patches_iff
    (precise : ∀ replacement ∈ replacements, replacement.Exact content) :
    InOrder 0 (replacements.map Replacement.patch) ↔
      replacements.Pairwise fun first second => first.stop ≤ second.start := by
  have ordered : ∀ patch ∈ replacements.map Replacement.patch, patch.start ≤ patch.stop := by
    intro patch member
    obtain ⟨replacement, listed, same⟩ := List.mem_map.mp member
    rw [← same]
    exact (precise replacement listed).within.ordered
  rw [inOrder_iff_pairwise ordered, List.pairwise_map]
  constructor
  · exact fun both => both.2
  · exact fun apart => ⟨fun patch _ => Nat.zero_le patch.start, apart⟩

private theorem inOrder_members_iff (words : WordChars) (content : PyStr)
    (members : Dict PyStr PyStr) :
    ((boundedMentions words content).filterMap
      (memberReplacement words content members)).Pairwise (fun first second =>
        first.stop ≤ second.start) ↔ ¬ NamesCross words content members := by
  have increasing : (boundedMentions words content).Pairwise fun first second =>
      first.start < second.start :=
    (apart_boundedMentions words content).imp fun apart => by omega
  rw [List.pairwise_filterMap, pairwise_iff_of_increasing increasing]
  constructor
  · intro apart crossed
    obtain ⟨first, one, second, two, envelope, other, taken, taken', before, reaches⟩ := crossed
    have behind := apart first one second two before (replaceName first.start envelope)
      (by rw [memberReplacement, taken]; rfl) (replaceName second.start other)
      (by rw [memberReplacement, taken']; rfl)
    have clear : first.start + 1 + envelope.name.length ≤ second.start := behind
    omega
  · intro free first one second two before replacement taken replacement' taken'
    obtain ⟨envelope, resolved, same⟩ := Option.map_eq_some_iff.mp taken
    obtain ⟨other, resolved', same'⟩ := Option.map_eq_some_iff.mp taken'
    subst same same'
    show first.start + 1 + envelope.name.length ≤ second.start
    by_contra reaches
    exact free ⟨first, one, second, two, envelope, other, resolved, resolved', before, by omega⟩

private theorem apart_positional (words : WordChars) (content : PyStr) (uids : List Json) :
    (((boundedMentions words content).zip uids).filterMap positionalReplacement).Pairwise
      fun first second => first.stop ≤ second.start := by
  apply List.pairwise_filterMap.mpr
  refine (apart_zip words content uids).imp ?_
  intro first second apart one taken other taken'
  rw [(positionalReplacement_some taken).2, (positionalReplacement_some taken').1]
  exact apart

theorem inOrder_trusted_iff (words : WordChars) (str : Json → PyStr) (content : PyStr)
    (mention : MentionArg) (named : Option (Dict PyStr PyStr)) :
    InOrder 0 ((trustedReplacements words str content mention named).map Replacement.patch) ↔
      ¬ CrossedMembers words str content mention named := by
  unfold trustedReplacements CrossedMembers
  cases coerced : coerceMention mention with
  | none =>
    constructor
    · rintro - ⟨payload, equal, -⟩
      cases equal
    · exact fun _ => trivial
  | some payload =>
    dsimp only
    cases taken : entityReplacements str content payload with
    | some replacements =>
      constructor
      · rintro - ⟨other, equal, missing, -⟩
        cases equal
        cases taken.symm.trans missing
      · exact fun _ => inOrder_entityReplacements taken
    | none =>
      have precise : ∀ replacement ∈ fallbackReplacements words content payload named,
          replacement.Exact content := fun replacement member => exact_fallbackReplacements member
      dsimp only
      rw [sortReplacements_fallback, inOrder_patches_iff precise]
      unfold fallbackReplacements
      split
      · rename_i some_
        rw [inOrder_members_iff]
        constructor
        · rintro free ⟨other, -, -, -, crossed⟩
          exact free crossed
        · exact fun free crossed => free ⟨payload, rfl, taken, some_, crossed⟩
      · rename_i nobody
        constructor
        · rintro - ⟨other, -, -, somebody, -⟩
          exact nobody somebody
        · exact fun _ => apart_positional words content _

/-- The conversion keeps every character once and adds nothing but its envelopes, unless it
goes by the names of members and two names cross. -/
theorem conversion_lossless_iff (words : WordChars) (str : Json → PyStr) (content : PyStr)
    (mention : MentionArg) (named : Option (Dict PyStr PyStr)) :
    Lossless content ((trustedReplacements words str content mention named).map
        Replacement.envelope) (convertContentForLlm words str content mention named) ↔
      ¬ CrossedMembers words str content mention named := by
  rw [convert_eq_render, ← inOrder_trusted_iff]
  exact lossless_render_iff fun replacement member => exact_trustedReplacements member

/-- A member's name holds a further mention, which is then converted a second time. -/
theorem crossed_names_repeat_text :
    let words : WordChars :=
      ⟨fun point => isAsciiAlnum point || point = ch '_', fun _ _ => rfl⟩
    let mention : MentionArg := .payload ⟨some [.str (py "u1")], none⟩
    let members := (Dict.empty.set (py "a @b") (py "u1")).set (py "b") (py "u2")
    let content := py "@a @b"
    convertContentForLlm words (fun _ => []) content mention (some members) =
        py "@[u1:a @b]@[u2:b]" ∧
      ¬ Lossless content ((trustedReplacements words (fun _ => []) content mention
        (some members)).map Replacement.envelope)
          (convertContentForLlm words (fun _ => []) content mention (some members)) := by
  intro words mention members content
  have crossed : CrossedMembers words (fun _ => []) content mention (some members) :=
    ⟨_, rfl, rfl, rfl, ⟨0, py "a"⟩, by decide, ⟨3, py "b"⟩, by decide, ⟨py "u1", py "a @b"⟩,
      ⟨py "u2", py "b"⟩, by decide, by decide, by decide, by decide⟩
  refine ⟨by decide, ?_⟩
  rw [convert_eq_render, lossless_render_iff fun _ member => exact_trustedReplacements member,
    inOrder_trusted_iff]
  exact not_not.mpr crossed

end OctoChannel.Mentions
