import OctoChannel.Mentions.Outbound

namespace OctoChannel.Mentions

open Foundation Identity

variable {words : WordChars} {outside : Surroundings} {text : PyStr}
  {validUids : Option (List PyStr)}

/-- The entity carries the uid of the token, and `@name` stands at its range. -/
structure Points (whole : PyStr) (token : StructuredMention) (entity : SidecarEntity) : Prop where
  uid : entity.tag = token.uid
  slice : entity.cut (utf16 whole) = utf16 (ch '@' :: token.name)

/-- One entity for each token, in order and apart. -/
structure Sidecar (whole : PyStr) (tokens : List StructuredMention)
    (entities : List SidecarEntity) : Prop where
  apart : entities.Pairwise fun first second => first.offset + first.length ≤ second.offset
  points : List.Forall₂ (Points whole) tokens entities

/-- The tokens of a text that the allow-list lets through. -/
def allowedTokens (words : WordChars) (validUids : Option (List PyStr)) (text : PyStr) :
    List StructuredMention :=
  (parseStructuredMentions words text).filter fun token => uidAllowed validUids token.uid

def tokenPiece (token : StructuredMention) : Piece CodePoint PyStr :=
  ⟨ch '@' :: token.name, some token.uid⟩

/-- The text between tokens, and each token as the name that replaces it. -/
def pieces (text : PyStr) (validUids : Option (List PyStr)) :
    Nat → List StructuredMention → List (Piece CodePoint PyStr)
  | cursor, [] => [⟨text.drop cursor, none⟩]
  | cursor, mention :: rest =>
    ⟨(text.take mention.offset).drop cursor, none⟩ ::
      (if uidAllowed validUids mention.uid then tokenPiece mention
        else ⟨ch '@' :: mention.name, none⟩) ::
      pieces text validUids (mention.offset + mention.length) rest

private theorem convertFrom_eq (text : PyStr) (validUids : Option (List PyStr))
    (cursor runningLen : Nat)
    (mentions : List StructuredMention) :
    convertFrom text validUids cursor runningLen mentions =
      ⟨assembled (pieces text validUids cursor mentions),
        marks CodePoint.units runningLen (pieces text validUids cursor mentions),
        (pieces text validUids cursor mentions).filterMap Piece.tag⟩ := by
  induction mentions generalizing cursor runningLen with
  | nil => simp [convertFrom, pieces, assembled, marks]
  | cons mention rest ih =>
    rw [convertFrom, pieces, ih]
    by_cases allowed : uidAllowed validUids mention.uid
    · rw [if_pos allowed, if_pos allowed]
      simp [assembled, marks, tokenPiece, utf16, encoded]
    · rw [if_neg allowed, if_neg allowed]
      simp [assembled, marks, utf16, encoded]

private theorem tagged_pieces (text : PyStr) (validUids : Option (List PyStr)) (cursor : Nat)
    (mentions : List StructuredMention) :
    (pieces text validUids cursor mentions).filter (fun piece => piece.tag.isSome) =
      (mentions.filter fun mention => uidAllowed validUids mention.uid).map tokenPiece := by
  induction mentions generalizing cursor with
  | nil => rfl
  | cons mention rest ih =>
    rw [pieces, List.filter_cons_of_neg Bool.false_ne_true]
    by_cases allowed : uidAllowed validUids mention.uid
    · rw [if_pos allowed, List.filter_cons_of_pos rfl, ih]
      simp [allowed]
    · rw [if_neg allowed, List.filter_cons_of_neg Bool.false_ne_true, ih]
      simp [allowed]

/-- Marked pieces whose tagged ones are tokens give those tokens a sidecar. -/
theorem sidecar_marks {marked : List (Piece CodePoint PyStr)} {tokens : List StructuredMention}
    (tagged : marked.filter (fun piece => piece.tag.isSome) = tokens.map tokenPiece) :
    Sidecar (assembled marked) tokens (marks CodePoint.units 0 marked) where
  apart := marks_apart 0 marked
  points := by
    have pointed := @marks_pointAt _ _ _ CodePoint.units [] marked []
    rw [List.append_nil, tagged, List.forall₂_map_left_iff] at pointed
    refine pointed.imp ?_
    intro token entity found
    have same := found.tag
    exact ⟨(Option.some.inj same).symm, found.cut⟩

private theorem increasing_scanEnvelopes (position skip : Nat) (text : PyStr) :
    (scanEnvelopes words position skip text).Pairwise fun first second =>
      first.offset ≤ second.offset := by
  induction text generalizing position skip with
  | nil => exact .nil
  | cons point rest ih =>
    rw [scanEnvelopes]
    split
    · exact ih _ _
    · split
      · apply List.pairwise_cons.mpr
        refine ⟨?_, ih _ _⟩
        intro token later
        have after := (mem_scanEnvelopes later).2.1
        exact Nat.le_of_succ_le after
      · exact ih _ _

private theorem sortedMentions_parsed (words : WordChars) (text : PyStr) :
    sortedMentions (parseStructuredMentions words text) = parseStructuredMentions words text :=
  List.Pairwise.insertionSort_eq (increasing_scanEnvelopes 0 0 text)

/-- The converted text as pieces. -/
theorem converted_eq (words : WordChars) (text : PyStr) (validUids : Option (List PyStr)) :
    ∃ marked : List (Piece CodePoint PyStr),
      convertStructuredMentions text (parseStructuredMentions words text) validUids =
        ⟨assembled marked, marks CodePoint.units 0 marked, marked.filterMap Piece.tag⟩ ∧
      marked.filter (fun piece => piece.tag.isSome) =
        (allowedTokens words validUids text).map tokenPiece := by
  refine ⟨pieces text validUids 0 (parseStructuredMentions words text), ?_, tagged_pieces _ _ _ _⟩
  rw [convertStructuredMentions, sortedMentions_parsed, convertFrom_eq]

private theorem sidecar_converted (words : WordChars) (text : PyStr)
    (validUids : Option (List PyStr)) :
    let converted := convertStructuredMentions text (parseStructuredMentions words text) validUids
    Sidecar converted.content (allowedTokens words validUids text) converted.entities ∧
      converted.uids = converted.entities.map Mark.tag := by
  intro converted
  obtain ⟨marked, same, tagged⟩ := converted_eq words text validUids
  change converted = _ at same
  rw [same]
  exact ⟨sidecar_marks tagged, (marks_map_tag 0 marked).symm⟩

/-- What a block adds to the plain text. -/
def RichTextBlock.plain : RichTextBlock → PyStr
  | .text text => text
  | .image _ => richTextImagePlaceholder

/-- The text of a text block, as it was given. -/
def givenText (raw : Json) : Option PyStr :=
  match readBlock raw with
  | .ok (.text text) => some text
  | _ => none

/-- The tokens that the text blocks hold and the allow-list lets through. -/
def givenTokens (words : WordChars) (roster : List PyStr) (raw : List Json) :
    List StructuredMention :=
  (raw.filterMap givenText).flatMap (allowedTokens words (some roster))

/-- The message so far is these marked pieces. -/
structure Assembly.Renders (words : WordChars) (roster : List PyStr) (assembly : Assembly)
    (tokens : List StructuredMention) (marked : List (Piece CodePoint PyStr)) : Prop where
  plain : assembly.plainParts.flatten = assembled marked
  blocks : assembly.blocks.flatMap RichTextBlock.plain = assembled marked
  units : assembly.plainUtf16Length = (utf16 (assembled marked)).length
  entities : assembly.mentionEntities = marks CodePoint.units 0 marked
  uids : assembly.mentionUids = (marked.filterMap Piece.tag).eraseDups
  tagged : marked.filter (fun piece => piece.tag.isSome) = tokens.map tokenPiece
  allowlist : assembly.allowlist = none ∨ assembly.allowlist = some roster

private theorem addUids_eraseDups (given uids : List PyStr) :
    addUids given.eraseDups uids = (given ++ uids).eraseDups := by
  induction uids generalizing given with
  | nil => rw [List.append_nil]; rfl
  | cons uid rest ih =>
    have next : (if uid ∈ given.eraseDups then given.eraseDups else given.eraseDups ++ [uid]) =
        (given ++ [uid]).eraseDups := by
      rw [List.eraseDups_append]
      by_cases known : uid ∈ given
      · rw [if_pos (List.mem_eraseDups.mpr known)]
        simp [known, List.cons_removeAll]
      · rw [if_neg fun found => known (List.mem_eraseDups.mp found)]
        simp [known, List.cons_removeAll, List.eraseDups_cons]
    rw [addUids, List.foldl_cons, next]
    have later := ih (given ++ [uid])
    rw [List.append_assoc] at later
    exact later

/-- A text block appends its own pieces. -/
theorem prepared_eq (words : WordChars) (roster : List PyStr) (text : PyStr)
    {allowlist : Option (List PyStr)} (known : allowlist = none ∨ allowlist = some roster) :
    ∃ marked : List (Piece CodePoint PyStr),
      (prepareOutboundMentions words roster text allowlist).content = assembled marked ∧
      (prepareOutboundMentions words roster text allowlist).entities.getD [] =
        marks CodePoint.units 0 marked ∧
      (prepareOutboundMentions words roster text allowlist).uids.getD [] =
        marked.filterMap Piece.tag ∧
      marked.filter (fun piece => piece.tag.isSome) =
        (allowedTokens words (some roster) text).map tokenPiece := by
  unfold prepareOutboundMentions
  split
  · rename_i nothing
    refine ⟨[⟨text, none⟩], ?_, rfl, rfl, ?_⟩
    · exact (List.append_nil text).symm
    · rw [allowedTokens, nothing]
      rfl
  · obtain ⟨marked, same, tagged⟩ := converted_eq words text (some roster)
    have listed : allowlist.getD roster = roster := by
      rcases known with missing | present
      · rw [missing, Option.getD_none]
      · rw [present, Option.getD_some]
    rw [listed, same]
    exact ⟨marked, rfl, rfl, rfl, tagged⟩

theorem Assembly.Renders.addText {assembly : Assembly} {tokens : List StructuredMention}
    {marked : List (Piece CodePoint PyStr)}
    (renders : assembly.Renders words outside.roster tokens marked) (text : PyStr) :
    ∃ more, (addText words outside assembly text).Renders words outside.roster
      (tokens ++ allowedTokens words (some outside.roster) text) (marked ++ more) := by
  have known : (Mentions.addText words outside assembly text).allowlist = none ∨
      (Mentions.addText words outside assembly text).allowlist = some outside.roster := by
    unfold Mentions.addText
    dsimp only
    split
    · exact .inr rfl
    · exact renders.allowlist
  obtain ⟨more, content, entities, uids, tagged⟩ := prepared_eq words outside.roster text known
  refine ⟨more, ?_⟩
  have whole := assembled_append marked more
  refine { plain := ?_, blocks := ?_, units := ?_, entities := ?_, uids := ?_, tagged := ?_,
           allowlist := known }
  · rw [whole, ← renders.plain, ← content]
    simp [Mentions.addText]
  · rw [whole, ← renders.blocks, ← content]
    simp [Mentions.addText, RichTextBlock.plain]
  · rw [whole, length_utf16_append, ← renders.units, ← content]
    rfl
  · have shifted := @marks_add _ _ _ CodePoint.units assembly.plainUtf16Length 0 more
    rw [Nat.add_zero, ← entities] at shifted
    rw [marks_append, Nat.zero_add, ← renders.entities]
    have start : (encoded CodePoint.units (assembled marked)).length =
        assembly.plainUtf16Length := renders.units.symm
    rw [start, shifted]
    rfl
  · rw [List.filterMap_append, ← uids, ← addUids_eraseDups, ← renders.uids]
    rfl
  · rw [List.filter_append, renders.tagged, tagged, List.map_append]

theorem Assembly.Renders.addImage {assembly : Assembly} {tokens : List StructuredMention}
    {marked : List (Piece CodePoint PyStr)}
    (renders : assembly.Renders words outside.roster tokens marked)
    (uploaded : Option ImageBlock) :
    ∃ more, (addImage assembly uploaded).Renders words outside.roster tokens (marked ++ more) := by
  cases uploaded with
  | none => exact ⟨[], by rw [List.append_nil]; exact { renders with }⟩
  | some image =>
    refine ⟨[⟨richTextImagePlaceholder, none⟩], ?_⟩
    have whole : assembled (marked ++ [⟨richTextImagePlaceholder, none⟩]) =
        assembled marked ++ richTextImagePlaceholder := by
      rw [assembled_append]
      exact congrArg _ (List.append_nil _)
    refine { plain := ?_, blocks := ?_, units := ?_, entities := ?_, uids := ?_, tagged := ?_,
             allowlist := renders.allowlist }
    · rw [whole, ← renders.plain]
      simp [Mentions.addImage]
    · rw [whole, ← renders.blocks]
      simp [Mentions.addImage, RichTextBlock.plain]
    · rw [whole, length_utf16_append, ← renders.units]
      rfl
    · rw [marks_append]
      simp [Mentions.addImage, renders.entities, marks]
    · rw [List.filterMap_append]
      simp [Mentions.addImage, renders.uids]
    · rw [List.filter_append]
      simp [renders.tagged]

private theorem renders_empty : Assembly.empty.Renders words outside.roster [] [] where
  plain := rfl
  blocks := rfl
  units := rfl
  entities := rfl
  uids := rfl
  tagged := rfl
  allowlist := .inl rfl

/-- One round of the loop. -/
theorem Assembly.Renders.addBlock {assembly next : Assembly} {tokens : List StructuredMention}
    {marked : List (Piece CodePoint PyStr)} {number : Nat} {raw : Json}
    (renders : assembly.Renders words outside.roster tokens marked)
    (added : addBlock words outside number assembly raw = .ok next) :
    ∃ more, next.Renders words outside.roster
      (tokens ++ givenTokens words outside.roster [raw]) (marked ++ more) := by
  unfold Mentions.addBlock at added
  unfold givenTokens
  cases read : readBlock raw with
  | error error =>
    rw [read] at added
    cases added
  | ok block =>
    rw [read] at added
    cases block with
    | text text =>
      cases added
      simpa [givenText, read] using renders.addText text
    | image url =>
      cases added
      simpa [givenText, read] using renders.addImage (outside.upload number url)

/-- The whole loop. -/
theorem Assembly.Renders.addBlocks {assembly final : Assembly} {tokens : List StructuredMention}
    {marked : List (Piece CodePoint PyStr)} {number : Nat} {raw : List Json}
    (renders : assembly.Renders words outside.roster tokens marked)
    (added : addBlocks words outside number assembly raw = .ok final) :
    ∃ more, final.Renders words outside.roster
      (tokens ++ givenTokens words outside.roster raw) (marked ++ more) := by
  induction raw generalizing number assembly tokens marked with
  | nil =>
    cases added
    exact ⟨[], by simpa [givenTokens] using renders⟩
  | cons block rest ih =>
    rw [Mentions.addBlocks] at added
    cases one : Mentions.addBlock words outside number assembly block with
    | error error =>
      rw [one] at added
      cases added
    | ok next =>
      rw [one] at added
      obtain ⟨more, here⟩ := renders.addBlock one
      obtain ⟨others, there⟩ := ih here added
      refine ⟨more ++ others, ?_⟩
      have given : givenTokens words outside.roster (block :: rest) =
          givenTokens words outside.roster [block] ++ givenTokens words outside.roster rest := by
        unfold givenTokens
        rw [← List.flatMap_append, ← List.filterMap_append]
        rfl
      rw [given, ← List.append_assoc, ← List.append_assoc]
      exact there

theorem getD_nonemptyList {Item : Type} (items : List Item) :
    (nonemptyList items).getD [] = items := by
  cases items <;> rfl

/-- Entities point at the names of the allowed tokens, one for each: in one converted text,
and over the blocks of a message whatever images fail. The uids of a text follow its
entities; the message names each uid once. -/
theorem outbound_mentions_point (words : WordChars) :
    (∀ text validUids,
      let converted :=
        convertStructuredMentions text (parseStructuredMentions words text) validUids
      Sidecar converted.content (allowedTokens words validUids text) converted.entities ∧
        converted.uids = converted.entities.map Mark.tag) ∧
    ∀ outside raw message, octoSendRichText words outside (.arr raw) = .ok (some message) →
      message.plain = message.blocks.flatMap RichTextBlock.plain ∧
      Sidecar message.plain (givenTokens words outside.roster raw)
        (message.mentionEntities.getD []) ∧
      message.mentionUids.getD [] =
        ((message.mentionEntities.getD []).map Mark.tag).eraseDups := by
  refine ⟨sidecar_converted words, ?_⟩
  intro outside raw message sent
  unfold octoSendRichText at sent
  dsimp only at sent
  split at sent
  · cases sent
  · cases ran : addBlocks words outside 0 .empty raw with
    | error error =>
      rw [ran] at sent
      cases sent
    | ok assembly =>
      rw [ran] at sent
      dsimp only at sent
      split at sent
      · cases sent
      · cases sent
        obtain ⟨marked, renders⟩ := renders_empty.addBlocks ran
        rw [List.nil_append, List.nil_append] at renders
        rw [getD_nonemptyList, getD_nonemptyList, renders.plain, renders.blocks,
          renders.entities, marks_map_tag]
        exact ⟨rfl, sidecar_marks renders.tagged, renders.uids⟩

/-- ASCII letters, digits and the underscore. -/
def asciiWords : WordChars := ⟨fun point => isAsciiAlnum point || point = ch '_', fun _ _ => rfl⟩

/-- A failed image, an astral character and a member named twice. -/
theorem outbound_mentions_point_astral :
    let outside : Surroundings := ⟨[py "u"], fun _ _ => none⟩
    let block (text : String) : Json := .obj [(py "type", .str (py "text")), (py "text", .str (py text))]
    let raw := [block "😀@[u:x]", .obj [(py "type", .str (py "image"))], block "@[v:y]@[u:x]"]
    let message : RichTextMessage :=
      ⟨[.text (py "😀@x"), .text (py "@y@x")], py "😀@x@y@x", some [py "u"],
        some [⟨py "u", 2, 2⟩, ⟨py "u", 6, 2⟩]⟩
    octoSendRichText asciiWords outside (.arr raw) = .ok (some message) ∧
      Sidecar message.plain (givenTokens asciiWords outside.roster raw)
        (message.mentionEntities.getD []) := by
  intro outside block raw message
  have sent : octoSendRichText asciiWords outside (.arr raw) = .ok (some message) := by rfl
  exact ⟨sent, ((outbound_mentions_point asciiWords).2 outside raw message sent).2.1⟩

/-- The uids of a single text repeat with its entities. -/
theorem converted_uids_repeat : ¬ ∀ text validUids,
    let converted :=
      convertStructuredMentions text (parseStructuredMentions asciiWords text) validUids
    converted.uids = (converted.entities.map Mark.tag).eraseDups := by
  intro once
  have twice := once (py "@[u:x]@[u:x]") none
  revert twice
  decide

end OctoChannel.Mentions
