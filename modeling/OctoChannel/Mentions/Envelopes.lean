import Mathlib.Data.List.TakeWhile
import OctoChannel.Mentions.Lossless

namespace OctoChannel.Mentions

open Foundation Identity

variable {words : WordChars} {str : Json → PyStr} {content text : PyStr}

/-- Uid and name are ones that the pattern takes whole. -/
structure Envelope.WellFormed (words : WordChars) (envelope : Envelope) : Prop where
  uid : envelope.uid ≠ []
  uidChars : ∀ point ∈ envelope.uid, uidChar words point = true
  name : envelope.name ≠ []
  nameChars : ∀ point ∈ envelope.name, envelopeNameChar point = true

theorem uidChar_of_ascii {point : CodePoint} (ascii : point.val < 0x80) :
    uidChar words point =
      (isAsciiAlnum point || point = ch '_' || point = ch '.' || point = ch '-') := by
  rw [uidChar, words.ascii point ascii]

private theorem not_uidChar_colon : uidChar words (ch ':') = false := by
  rw [uidChar_of_ascii (by decide)]
  decide

private theorem not_uidChar_bracket : uidChar words (ch ']') = false := by
  rw [uidChar_of_ascii (by decide)]
  decide

theorem takeWhile_append_stop {Item : Type} {keep : Item → Bool} {front back : List Item}
    {stop : Item} (kept : ∀ item ∈ front, keep item = true) (stops : keep stop = false) :
    (front ++ stop :: back).takeWhile keep = front ∧
      (front ++ stop :: back).dropWhile keep = stop :: back := by
  rw [List.takeWhile_append_of_pos kept, List.dropWhile_append_of_pos kept,
    List.takeWhile_cons_of_neg (by simp [stops]), List.dropWhile_cons_of_neg (by simp [stops]),
    List.append_nil]
  exact ⟨rfl, rfl⟩

/-- The pattern matches here exactly a well-formed envelope that the text starts with. -/
theorem envelopeHere_eq_some_iff {uid name : PyStr} : envelopeHere words text = some (uid, name) ↔
    Envelope.WellFormed words ⟨uid, name⟩ ∧ Envelope.text ⟨uid, name⟩ <+: text := by
  constructor
  · intro found
    unfold envelopeHere at found
    dsimp only at found
    split at found
    · rename_i shape
      obtain ⟨opens, hasUid, colon, hasName, closes⟩ := shape
      cases found
      refine ⟨⟨hasUid, fun point member => List.mem_takeWhile_imp member, hasName,
        fun point member => List.mem_takeWhile_imp member⟩, ?_⟩
      obtain ⟨afterUid, restIs⟩ := List.head?_eq_some_iff.mp colon
      rw [restIs, List.drop_succ_cons, List.drop_zero] at closes ⊢
      obtain ⟨afterName, lastIs⟩ := List.head?_eq_some_iff.mp closes
      refine ⟨afterName, ?_⟩
      have whole := List.take_append_drop 2 text
      have body := @List.takeWhile_append_dropWhile _ (uidChar words) (text.drop 2)
      have tail := @List.takeWhile_append_dropWhile _ envelopeNameChar afterUid
      rw [lastIs] at tail
      rw [restIs, ← tail] at body
      rw [opens, ← body] at whole
      refine Eq.trans ?_ whole
      simp [Envelope.text]
    · cases found
  · intro both
    obtain ⟨formed, rest, same⟩ := both
    subst same
    have body : Envelope.text ⟨uid, name⟩ ++ rest =
        ch '@' :: ch '[' :: (uid ++ ch ':' :: (name ++ ch ']' :: rest)) := by
      simp [Envelope.text]
    obtain ⟨takesUid, dropsUid⟩ := @takeWhile_append_stop _ (uidChar words) uid
      (name ++ ch ']' :: rest) (ch ':') formed.uidChars not_uidChar_colon
    obtain ⟨takesName, dropsName⟩ := @takeWhile_append_stop _ envelopeNameChar name rest (ch ']')
      formed.nameChars (by decide)
    rw [body]
    unfold envelopeHere
    simp [takesUid, dropsUid, takesName, dropsName, formed.uid, formed.name]

/-- An envelope has its only closing bracket at its end. -/
theorem Envelope.WellFormed.bracket {envelope : Envelope} (formed : envelope.WellFormed words) :
    ∃ front, envelope.text = front ++ [ch ']'] ∧ ch ']' ∉ front := by
  refine ⟨ch '@' :: ch '[' :: (envelope.uid ++ ch ':' :: envelope.name), ?_, ?_⟩
  · simp [Envelope.text]
  · intro member
    simp only [List.mem_cons, List.mem_append] at member
    rcases member with same | same | inUid | same | inName
    · exact absurd same (by decide)
    · exact absurd same (by decide)
    · have kept := formed.uidChars _ inUid
      rw [not_uidChar_bracket] at kept
      cases kept
    · exact absurd same (by decide)
    · have kept := formed.nameChars _ inName
      exact absurd kept (by decide)

private theorem prefix_of_stop {Item : Type} {front inside rest : List Item} {stop : Item}
    (absent : stop ∉ front) (starts : front ++ [stop] <+: inside ++ stop :: rest) :
    front ++ [stop] <+: inside ++ [stop] := by
  have split : inside ++ stop :: rest = inside ++ [stop] ++ rest := by simp
  rw [split] at starts
  have whole : inside ++ [stop] <+: inside ++ [stop] ++ rest := List.prefix_append _ _
  rcases Nat.lt_or_ge inside.length front.length with short | long
  · have within : inside ++ [stop] <+: front ++ [stop] :=
      List.prefix_of_prefix_length_le whole starts (by simp; omega)
    have early : inside ++ [stop] <+: front :=
      List.prefix_of_prefix_length_le within (List.prefix_append _ _) (by simp; omega)
    exact absurd (early.subset (by simp)) absent
  · exact List.prefix_of_prefix_length_le starts whole (by simp; omega)

/-- Nothing that begins in the first text is read on into the second. -/
def Closed (words : WordChars) (first second : PyStr) : Prop :=
  ∀ back, back <:+ first → back ≠ [] →
    envelopeHere words (back ++ second) = envelopeHere words back

private theorem closed_envelope (envelope : Envelope) (second : PyStr) :
    Closed words envelope.text second := by
  intro back suffix nonempty
  obtain ⟨inside, same⟩ : ∃ inside, back = inside ++ [ch ']'] := by
    have last : envelope.text.getLast? = some (ch ']') := by
      rw [Envelope.text, List.getLast?_append]
      rfl
    have kept : back.getLast? = some (ch ']') := by
      obtain ⟨front, split⟩ := suffix
      rw [← split, List.getLast?_append] at last
      cases found : back.getLast? with
      | none => exact absurd (List.getLast?_eq_none_iff.mp found) nonempty
      | some point =>
        rw [found] at last
        exact last
    exact ⟨_, List.getLast?_eq_some_iff.mp kept |>.choose_spec⟩
  subst same
  apply Option.ext
  rintro ⟨uid, name⟩
  rw [envelopeHere_eq_some_iff, envelopeHere_eq_some_iff]
  constructor
  · intro both
    obtain ⟨formed, starts⟩ := both
    obtain ⟨front, shape, absent⟩ := formed.bracket
    refine ⟨formed, ?_⟩
    rw [shape] at starts ⊢
    rw [List.append_assoc] at starts
    exact prefix_of_stop absent starts
  · intro both
    exact ⟨both.1, both.2.trans (List.prefix_append _ _)⟩

/-- Neutral text has no opening of an envelope. -/
private theorem no_opening_neutralize (text : PyStr) :
    ¬ [ch '@', ch '['] <:+: neutralizeStructuredMentionEnvelopes text := by
  induction text with
  | nil => exact fun opening => absurd (List.infix_nil.mp opening) (by simp)
  | cons point rest ih =>
    intro opening
    rw [neutralizeStructuredMentionEnvelopes] at opening
    rcases List.infix_cons_iff.mp opening with here | later
    · obtain ⟨first, second⟩ := List.cons_prefix_cons.mp here
      cases rest with
      | nil => exact absurd (List.prefix_nil.mp second) (by simp)
      | cons next others =>
        rw [neutralizeStructuredMentionEnvelopes] at second
        obtain ⟨bracket, -⟩ := List.cons_prefix_cons.mp second
        have following : next = ch '[' := by
          split at bracket
          · exact absurd bracket (by decide)
          · exact bracket.symm
        rw [following, List.head?_cons] at first
        split at first
        · exact absurd first (by decide)
        · rename_i other
          simp only [decide_true, Bool.and_true, decide_eq_true_eq] at other
          exact other first.symm
    · exact ih later

theorem closed_neutralize (text : PyStr) {second : PyStr}
    (marked : ∀ point ∈ second.head?, point = ch '@') :
    Closed words (neutralizeStructuredMentionEnvelopes text) second ∧
      ∀ back, back <:+ neutralizeStructuredMentionEnvelopes text →
        envelopeHere words back = none := by
  have nothing : ∀ back more, back <:+ neutralizeStructuredMentionEnvelopes text → back ≠ [] →
      (∀ point ∈ more.head?, point = ch '@') → envelopeHere words (back ++ more) = none := by
    intro back more suffix nonempty marked
    cases found : envelopeHere words (back ++ more) with
    | none => rfl
    | some pair =>
      obtain ⟨uid, name⟩ := pair
      obtain ⟨-, starts⟩ := envelopeHere_eq_some_iff.mp found
      cases back with
      | nil => exact absurd rfl nonempty
      | cons first others =>
        obtain ⟨opens, bracket⟩ := List.cons_prefix_cons.mp starts
        cases others with
        | nil =>
          cases more with
          | nil => exact absurd (List.prefix_nil.mp bracket) (by simp)
          | cons point rest =>
            obtain ⟨same, -⟩ := List.cons_prefix_cons.mp bracket
            have other := marked point rfl
            rw [← same] at other
            exact absurd other (by decide)
        | cons next rest =>
          obtain ⟨same, -⟩ := List.cons_prefix_cons.mp bracket
          rw [← opens, ← same] at suffix
          have opening : [ch '@', ch '['] <:+: ch '@' :: ch '[' :: rest := ⟨[], rest, rfl⟩
          exact absurd (opening.trans suffix.isInfix) (no_opening_neutralize text)
  have alone : ∀ back, back <:+ neutralizeStructuredMentionEnvelopes text →
      envelopeHere words back = none := by
    intro back suffix
    cases back with
    | nil => rfl
    | cons first others =>
      have known := nothing (first :: others) [] suffix (by simp) (fun point none => by cases none)
      rwa [List.append_nil] at known
  refine ⟨?_, alone⟩
  intro back suffix nonempty
  rw [nothing back second suffix nonempty marked, alone back suffix]

theorem envelopeLength_le {uid name : PyStr} (found : envelopeHere words text = some (uid, name)) :
    envelopeLength uid name ≤ text.length := by
  obtain ⟨-, starts⟩ := envelopeHere_eq_some_iff.mp found
  have size := starts.length_le
  rwa [length_envelope] at size

theorem scanEnvelopes_append {first second : PyStr} {position skip : Nat}
    (closed : Closed words first second) (within : skip ≤ first.length) :
    scanEnvelopes words position skip (first ++ second) =
      scanEnvelopes words position skip first ++
        scanEnvelopes words (position + first.length) 0 second := by
  induction first generalizing position skip with
  | nil =>
    have none : skip = 0 := Nat.le_zero.mp within
    rw [none]
    rfl
  | cons point rest ih =>
    have later : Closed words rest second :=
      fun back suffix => closed back (suffix.trans (List.suffix_cons point rest))
    have moved : position + (point :: rest).length = position + 1 + rest.length := by
      rw [List.length_cons]
      omega
    rw [List.length_cons] at within
    rw [moved, List.cons_append, scanEnvelopes, scanEnvelopes]
    split
    · exact ih later (by omega)
    · have here := closed (point :: rest) (List.suffix_refl _) (by simp)
      rw [List.cons_append] at here
      rw [here]
      cases found : envelopeHere words (point :: rest) with
      | none => exact ih later (Nat.zero_le _)
      | some pair =>
        obtain ⟨uid, name⟩ := pair
        have size := envelopeLength_le found
        rw [List.length_cons] at size
        dsimp only
        rw [ih later (by omega), List.cons_append]

theorem scanEnvelopes_of_none {position : Nat}
    (nothing : ∀ back, back <:+ text → envelopeHere words back = none) :
    scanEnvelopes words position 0 text = [] := by
  induction text generalizing position with
  | nil => rfl
  | cons point rest ih =>
    rw [scanEnvelopes, if_neg (Nat.lt_irrefl 0), nothing (point :: rest) (List.suffix_refl _)]
    exact ih fun back suffix => nothing back (suffix.trans (List.suffix_cons point rest))

/-- Every token is one of well-formed parts, inside the text that is read. -/
theorem mem_scanEnvelopes {position skip : Nat} {token : StructuredMention}
    (member : token ∈ scanEnvelopes words position skip text) :
    Envelope.WellFormed words ⟨token.uid, token.name⟩ ∧ position ≤ token.offset ∧
      token.offset + token.length ≤ position + text.length := by
  induction text generalizing position skip with
  | nil => cases member
  | cons point rest ih =>
    have moved : ∀ {skip : Nat}, token ∈ scanEnvelopes words (position + 1) skip rest →
        Envelope.WellFormed words ⟨token.uid, token.name⟩ ∧ position ≤ token.offset ∧
          token.offset + token.length ≤ position + (point :: rest).length := by
      intro skip later
      obtain ⟨formed, after, inside⟩ := ih later
      rw [List.length_cons]
      exact ⟨formed, by omega, by omega⟩
    rw [scanEnvelopes] at member
    split at member
    · exact moved member
    · cases found : envelopeHere words (point :: rest) with
      | none =>
        rw [found] at member
        exact moved member
      | some pair =>
        obtain ⟨uid, name⟩ := pair
        rw [found] at member
        rcases List.mem_cons.mp member with same | later
        · subst same
          have size := envelopeLength_le found
          refine ⟨(envelopeHere_eq_some_iff.mp found).1, Nat.le_refl position, ?_⟩
          exact Nat.add_le_add_left size position
        · exact moved later

/-- Whether any token is found does not depend on the count of positions. -/
theorem scanEnvelopes_eq_nil {position skip : Nat} (other : Nat)
    (nothing : scanEnvelopes words position skip text = []) :
    scanEnvelopes words other skip text = [] := by
  induction text generalizing position skip other with
  | nil => rfl
  | cons point rest ih =>
    rw [scanEnvelopes] at nothing ⊢
    split
    · rename_i within
      rw [if_pos within] at nothing
      exact ih (other + 1) nothing
    · rename_i free
      rw [if_neg free] at nothing
      cases found : envelopeHere words (point :: rest) with
      | none =>
        rw [found] at nothing
        exact ih (other + 1) nothing
      | some pair =>
        rw [found] at nothing
        cases nothing

/-- A well-formed envelope is read as itself. -/
private theorem scanEnvelopes_wellFormed {envelope : Envelope} (formed : envelope.WellFormed words)
    (position : Nat) : scanEnvelopes words position 0 envelope.text =
      [⟨envelope.uid, envelope.name, position, envelope.text.length⟩] := by
  have found : envelopeHere words envelope.text = some (envelope.uid, envelope.name) :=
    envelopeHere_eq_some_iff.mpr ⟨formed, List.prefix_refl _⟩
  have skipped : ∀ (rest : PyStr) (position : Nat),
      scanEnvelopes words position rest.length rest = [] := by
    intro rest
    induction rest with
    | nil => exact fun position => rfl
    | cons point rest ih =>
      intro position
      rw [scanEnvelopes, List.length_cons, if_pos (Nat.succ_pos _)]
      exact ih (position + 1)
  have size := length_envelope envelope
  cases shape : envelope.text with
  | nil =>
    rw [shape] at found
    cases found
  | cons point rest =>
    rw [shape] at found size
    have width : envelopeLength envelope.uid envelope.name - 1 = rest.length := by
      rw [← size]
      rfl
    rw [scanEnvelopes, if_neg (Nat.lt_irrefl 0), found]
    dsimp only
    rw [width, skipped, size]

/-- Where in the result each envelope begins. -/
def placements (content : PyStr) : Nat → Nat → List Replacement → List (Nat × Envelope)
  | _, _, [] => []
  | position, cursor, replacement :: rest =>
    let start := position + ((content.take replacement.start).drop cursor).length
    (start, replacement.envelope) ::
      placements content (start + replacement.envelope.text.length) replacement.stop rest

private theorem placements_envelopes (content : PyStr) (position cursor : Nat)
    (replacements : List Replacement) :
    (placements content position cursor replacements).map Prod.snd =
      replacements.map Replacement.envelope := by
  induction replacements generalizing position cursor with
  | nil => rfl
  | cons replacement rest ih =>
    rw [placements, List.map_cons, List.map_cons, ih]

private theorem placements_after {position cursor : Nat} {replacements : List Replacement}
    {placed : Nat × Envelope} (member : placed ∈ placements content position cursor replacements) :
    position ≤ placed.1 := by
  induction replacements generalizing position cursor with
  | nil => cases member
  | cons replacement rest ih =>
    rw [placements] at member
    rcases List.mem_cons.mp member with same | later
    · rw [same]
      exact Nat.le_add_right _ _
    · have after := ih later
      omega

private theorem placements_apart (content : PyStr) (position cursor : Nat)
    (replacements : List Replacement) :
    (placements content position cursor replacements).Pairwise fun first second =>
      first.1 + first.2.text.length ≤ second.1 := by
  induction replacements generalizing position cursor with
  | nil => exact .nil
  | cons replacement rest ih =>
    rw [placements]
    apply List.pairwise_cons.mpr
    exact ⟨fun placed member => placements_after member, ih _ _⟩

/-- The scan of a rendering reads its envelopes one by one and nothing else. -/
private theorem scanEnvelopes_splice (content : PyStr) (position cursor : Nat)
    (replacements : List Replacement) :
    scanEnvelopes words position 0 (splice neutralizeStructuredMentionEnvelopes content cursor
        (replacements.map Replacement.patch)) =
      (placements content position cursor replacements).flatMap fun placed =>
        scanEnvelopes words placed.1 0 placed.2.text := by
  induction replacements generalizing position cursor with
  | nil =>
    have neutral := @closed_neutralize words (content.drop cursor) [] fun point none => by cases none
    exact scanEnvelopes_of_none neutral.2
  | cons replacement rest ih =>
    have neutral := @closed_neutralize words ((content.take replacement.start).drop cursor)
      (replacement.envelope.text ++ splice neutralizeStructuredMentionEnvelopes content
        replacement.stop (rest.map Replacement.patch)) (by
          intro point first
          cases first
          rfl)
    rw [List.map_cons, splice, List.append_assoc]
    show scanEnvelopes words position 0 (neutralizeStructuredMentionEnvelopes
      ((content.take replacement.start).drop cursor) ++ (replacement.envelope.text ++
        splice neutralizeStructuredMentionEnvelopes content replacement.stop
          (rest.map Replacement.patch))) = _
    rw [scanEnvelopes_append neutral.1 (Nat.zero_le _), scanEnvelopes_of_none neutral.2,
      List.nil_append, length_neutralize]
    have inner := ih (position + ((content.take replacement.start).drop cursor).length +
      replacement.envelope.text.length) replacement.stop
    rw [placements, List.flatMap_cons, ← inner]
    exact scanEnvelopes_append (closed_envelope _ _) (Nat.zero_le _)

/-- Every token that is read is a trusted envelope, at its place and with its uid and name. -/
def Unforged (words : WordChars) (trusted : List (Nat × Envelope)) (result : PyStr) : Prop :=
  ∀ token ∈ parseStructuredMentions words result, ∃ placed ∈ trusted,
    token = ⟨placed.2.uid, placed.2.name, placed.1, placed.2.text.length⟩

/-- The envelope holds no token but itself. -/
def Envelope.Sealed (words : WordChars) (envelope : Envelope) : Prop :=
  envelope.WellFormed words ∨ parseStructuredMentions words envelope.text = []

private theorem unforged_render_iff (content : PyStr) (replacements : List Replacement) :
    Unforged words (placements content 0 0 replacements)
        (renderTrustedReplacements content replacements) ↔
      ∀ replacement ∈ replacements, replacement.envelope.Sealed words := by
  have tokens : parseStructuredMentions words (renderTrustedReplacements content replacements) =
      (placements content 0 0 replacements).flatMap fun placed =>
        scanEnvelopes words placed.1 0 placed.2.text := scanEnvelopes_splice content 0 0 replacements
  have envelopes := placements_envelopes content 0 0 replacements
  unfold Unforged
  rw [tokens]
  constructor
  · intro unforged replacement member
    have listed : replacement.envelope ∈
        (placements content 0 0 replacements).map Prod.snd := by
      rw [envelopes]
      exact List.mem_map_of_mem member
    obtain ⟨placed, present, same⟩ := List.mem_map.mp listed
    rw [← same]
    cases read : scanEnvelopes words placed.1 0 placed.2.text with
    | nil => exact .inr (scanEnvelopes_eq_nil 0 read)
    | cons token others =>
      have known : token ∈ scanEnvelopes words placed.1 0 placed.2.text := by
        rw [read]
        exact List.mem_cons_self
      obtain ⟨formed, after, inside⟩ := mem_scanEnvelopes known
      obtain ⟨other, present', whole⟩ :=
        unforged token (List.mem_flatMap.mpr ⟨placed, present, known⟩)
      -- Envelopes stand apart in the result, so the token can be no other one.
      have here : other = placed := by
        have apart := placements_apart content 0 0 replacements
        have wide : 0 < other.2.text.length := Nat.succ_pos _
        have either : other = placed ∨ other.1 + other.2.text.length ≤ placed.1 ∨
            placed.1 + placed.2.text.length ≤ other.1 := by
          rw [List.pairwise_iff_getElem] at apart
          obtain ⟨first, bound, at_⟩ := List.mem_iff_getElem.mp present'
          obtain ⟨second, bound', at'⟩ := List.mem_iff_getElem.mp present
          rcases Nat.lt_trichotomy first second with less | equal | greater
          · have clear := apart first second bound bound' less
            rw [at_, at'] at clear
            exact .inr (.inl clear)
          · subst equal
            exact .inl (at_.symm.trans at')
          · have clear := apart second first bound' bound greater
            rw [at_, at'] at clear
            exact .inr (.inr clear)
        rw [whole] at after inside
        dsimp only at after inside
        rcases either with same | before | behind
        · exact same
        · omega
        · omega
      rw [whole, here] at formed
      exact .inl formed
  · intro seals token member
    obtain ⟨placed, present, known⟩ := List.mem_flatMap.mp member
    have listed : placed.2 ∈ replacements.map Replacement.envelope := by
      rw [← envelopes]
      exact List.mem_map_of_mem present
    obtain ⟨replacement, source, same⟩ := List.mem_map.mp listed
    rcases seals replacement source with formed | barren
    · rw [same] at formed
      rw [scanEnvelopes_wellFormed formed] at known
      exact ⟨placed, present, List.mem_singleton.mp known⟩
    · rw [same] at barren
      rw [scanEnvelopes_eq_nil placed.1 barren] at known
      cases known

/-- No envelope is forged exactly when each trusted uid with its name holds no token but the
envelope made of them. -/
theorem conversion_unforged_iff (words : WordChars) (str : Json → PyStr) (content : PyStr)
    (mention : MentionArg) (named : Option (Dict PyStr PyStr)) :
    Unforged words
        (placements content 0 0 (trustedReplacements words str content mention named))
        (convertContentForLlm words str content mention named) ↔
      ∀ replacement ∈ trustedReplacements words str content mention named,
        replacement.envelope.Sealed words := by
  rw [convert_eq_render]
  exact unforged_render_iff content _

/-- The text inside an entity's range carries an envelope of its own. -/
theorem entity_text_forges_envelope :
    let words : WordChars :=
      ⟨fun point => isAsciiAlnum point || point = ch '_', fun _ _ => rfl⟩
    let content := py "@x]@[boss:Boss"
    let mention : MentionArg :=
      .payload ⟨none, some [⟨.str (py "u1"), .int 0, .int 14⟩]⟩
    parseStructuredMentions words (convertContentForLlm words (fun _ => []) content mention none) =
        [⟨py "u1", py "x", 0, 7⟩, ⟨py "boss", py "Boss", 7, 12⟩] ∧
      ¬ Unforged words
        (placements content 0 0 (trustedReplacements words (fun _ => []) content mention none))
        (convertContentForLlm words (fun _ => []) content mention none) := by
  intro words content mention
  have read : parseStructuredMentions words
      (convertContentForLlm words (fun _ => []) content mention none) =
        [⟨py "u1", py "x", 0, 7⟩, ⟨py "boss", py "Boss", 7, 12⟩] := by
    decide
  refine ⟨read, ?_⟩
  intro unforged
  have only : placements content 0 0 (trustedReplacements words (fun _ => []) content mention none) =
      [(0, ⟨py "u1", py "x]@[boss:Boss"⟩)] := by
    decide
  obtain ⟨placed, member, same⟩ := unforged ⟨py "boss", py "Boss", 7, 12⟩ (by rw [read]; simp)
  rw [only] at member
  rw [List.mem_singleton.mp member] at same
  exact absurd (congrArg StructuredMention.offset same) (by decide)

end OctoChannel.Mentions
