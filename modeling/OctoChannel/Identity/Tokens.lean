import OctoChannel.Foundation.Json

/-! `OCTO_BOT_TOKEN`: one token, or several of them with a `;` in between. A refusal
names positions, never the text of a token. -/

namespace OctoChannel.Identity

open Foundation

/-- `TokenConfigError` for an entry without text. -/
def emptyEntry (position : Nat) : PyError :=
  .valueError s!"OCTO_BOT_TOKEN entry #{position} is empty: separate tokens with one ';' and do not use a leading or trailing ';'"

/-- `TokenConfigError` for an entry that stands there twice. -/
def repeatedEntry (position first : Nat) : PyError :=
  .valueError s!"OCTO_BOT_TOKEN entry #{position} repeats entry #{first}: the same identity must not open two connections"

/-- The loop of `parse_bot_tokens`, from a position on. -/
def parseEntries (position : Nat) (seen : Dict PyStr Nat) (tokens : List PyStr) :
    List PyStr → Except PyError (List PyStr)
  | [] => .ok tokens
  | item :: rest =>
    let token := strip item
    if token = [] then .error (emptyEntry position)
    else
      match seen.get? token with
      | some first => .error (repeatedEntry position first)
      | none => parseEntries (position + 1) (seen.set token position) (tokens ++ [token]) rest

def parseBotTokens : Json → Except PyError (List PyStr)
  | .null => .ok []
  | .str raw =>
    if strip raw = [] then .ok []
    else parseEntries 1 .empty [] (raw.splitOn (ch ';'))
  | _ => .error (.valueError "OCTO_BOT_TOKEN must be a string")

/-- The entries of a list of tokens, as the loop looks at them. -/
def tokenEntries (raw : PyStr) : List PyStr := (raw.splitOn (ch ';')).map strip

/-- No entry is empty, and none stands there twice. -/
structure Distinct (tokens : List PyStr) : Prop where
  filled : [] ∉ tokens
  nodup : tokens.Nodup

/-- The first entry that is empty or a repetition, with the refusal it leads to. -/
inductive TokenFault (tokens : List PyStr) : PyError → Prop where
  | empty (before after : List PyStr) (split : tokens = before ++ [] :: after)
      (distinct : Distinct before) : TokenFault tokens (emptyEntry (before.length + 1))
  | repeated (before after : List PyStr) (token : PyStr) (first : Nat)
      (split : tokens = before ++ token :: after) (distinct : Distinct before)
      (place : before[first]? = some token) :
      TokenFault tokens (repeatedEntry (before.length + 1) (first + 1))

/-- The positions of the entries that were read, counted from one. -/
private structure Seen (seen : Dict PyStr Nat) (tokens : List PyStr) : Prop where
  distinct : Distinct tokens
  places : ∀ token position, seen.get? token = some position ↔
    ∃ first, position = first + 1 ∧ tokens[first]? = some token

private theorem Seen.none {seen : Dict PyStr Nat} {tokens : List PyStr} (known : Seen seen tokens)
    {token : PyStr} (absent : seen.get? token = Option.none) : token ∉ tokens := by
  intro member
  obtain ⟨first, place⟩ := List.mem_iff_getElem?.mp member
  have found := (known.places token (first + 1)).mpr ⟨first, rfl, place⟩
  rw [absent] at found
  cases found

private theorem Distinct.concat {tokens : List PyStr} (distinct : Distinct tokens) {token : PyStr}
    (text : token ≠ []) (fresh : token ∉ tokens) : Distinct (tokens ++ [token]) where
  filled := by simpa [distinct.filled] using Ne.symm text
  nodup := List.nodup_append.mpr ⟨distinct.nodup, List.nodup_singleton token, by
    intro old present new same
    rw [List.mem_singleton.mp same]
    exact fun equal => fresh (equal ▸ present)⟩

private theorem Seen.concat {seen : Dict PyStr Nat} {tokens : List PyStr} (known : Seen seen tokens)
    {token : PyStr} (text : token ≠ []) (fresh : token ∉ tokens) :
    Seen (seen.set token (tokens.length + 1)) (tokens ++ [token]) where
  distinct := known.distinct.concat text fresh
  places := by
    intro other position
    rw [Dict.get?_set]
    by_cases same : token = other
    · subst same
      simp only [if_true, Option.some.injEq]
      constructor
      · rintro rfl
        exact ⟨tokens.length, rfl, by simp⟩
      · rintro ⟨first, rfl, place⟩
        rcases Nat.lt_or_ge first tokens.length with earlier | later
        · rw [List.getElem?_append_left earlier] at place
          exact absurd (List.mem_of_getElem? place) fresh
        · rw [List.getElem?_append_right later] at place
          have last := (List.getElem?_eq_some_iff.mp place).1
          simp only [List.length_singleton] at last
          omega
    · rw [if_neg same, known.places]
      refine exists_congr fun first => and_congr_right fun _ => ?_
      rcases Nat.lt_or_ge first tokens.length with earlier | later
      · rw [List.getElem?_append_left earlier]
      · rw [List.getElem?_append_right later, List.getElem?_eq_none later]
        cases first - tokens.length <;> simp [same]

/-- The loop hands out every entry, or stops at the first one that is at fault. -/
private theorem parseEntries_case {seen : Dict PyStr Nat} {tokens : List PyStr}
    (known : Seen seen tokens) (items : List PyStr) :
    (parseEntries (tokens.length + 1) seen tokens items = .ok (tokens ++ items.map strip) ∧
        Distinct (tokens ++ items.map strip)) ∨
      ∃ error, parseEntries (tokens.length + 1) seen tokens items = .error error ∧
        TokenFault (tokens ++ items.map strip) error := by
  induction items generalizing seen tokens with
  | nil => exact .inl ⟨by simp [parseEntries], by simpa using known.distinct⟩
  | cons item rest ih =>
    rw [parseEntries, List.map_cons]
    by_cases text : strip item = []
    · rw [if_pos text]
      exact .inr ⟨_, rfl, .empty tokens _ (by rw [text]) known.distinct⟩
    · rw [if_neg text]
      cases found : seen.get? (strip item) with
      | some position =>
        obtain ⟨first, rfl, place⟩ := (known.places _ _).mp found
        exact .inr ⟨_, rfl, .repeated tokens _ _ first rfl known.distinct place⟩
      | none =>
        have next := ih (known.concat text (known.none found))
        rw [List.length_append, List.length_singleton, List.append_assoc, List.singleton_append]
          at next
        exact next

private theorem not_distinct_of_fault {tokens : List PyStr} {error : PyError}
    (fault : TokenFault tokens error) : ¬ Distinct tokens := by
  intro distinct
  cases fault with
  | empty before after split => exact distinct.filled (by simp [split])
  | repeated before after token first split _ place =>
    have nodup := distinct.nodup
    rw [split, List.nodup_append] at nodup
    exact nodup.2.2 token (List.mem_of_getElem? place) token (by simp) rfl

/-- Two splits at entries that are no more distinct from what stands before them are one. -/
private theorem split_unique {tokens before before' after after' : List PyStr}
    {token token' : PyStr} (split : tokens = before ++ token :: after)
    (split' : tokens = before' ++ token' :: after') (distinct : Distinct before)
    (distinct' : Distinct before') (fault : ¬ Distinct (before ++ [token]))
    (fault' : ¬ Distinct (before' ++ [token'])) : before = before' ∧ token = token' := by
  have front {long short tail tail' : List PyStr} {last other : PyStr}
      (same : long ++ last :: tail = short ++ other :: tail') (less : short.length < long.length)
      (clean : Distinct long) : Distinct (short ++ [other]) := by
    have prefixed : short ++ [other] <+: long := by
      have inside : short ++ [other] <+: long ++ last :: tail := by
        rw [same]
        exact ⟨tail', by simp⟩
      exact List.prefix_of_prefix_length_le inside (List.prefix_append _ _)
        (by simpa using Nat.succ_le_of_lt less)
    exact ⟨fun member => clean.filled (prefixed.subset member),
      clean.nodup.sublist prefixed.sublist⟩
  have same := split.symm.trans split'
  rcases Nat.lt_trichotomy before.length before'.length with less | equal | more
  · exact absurd (front same.symm less distinct') fault
  · obtain ⟨rfl, rest⟩ := List.append_inj same equal
    exact ⟨rfl, (List.cons.inj rest).1⟩
  · exact absurd (front same more distinct) fault'

/-- Only one entry is the first at fault, and it is refused in one way. -/
private theorem fault_unique {tokens : List PyStr} {error error' : PyError}
    (fault : TokenFault tokens error) (fault' : TokenFault tokens error') : error = error' := by
  have unfilled {before : List PyStr} : ¬ Distinct (before ++ [[]]) :=
    fun distinct => distinct.filled (by simp)
  have again {before : List PyStr} {token : PyStr} {first : Nat}
      (place : before[first]? = some token) : ¬ Distinct (before ++ [token]) := by
    intro distinct
    exact (List.nodup_append.mp distinct.nodup).2.2 token (List.mem_of_getElem? place) token
      (by simp) rfl
  cases fault with
  | empty before after split distinct =>
    cases fault' with
    | empty before' after' split' distinct' =>
      rw [(split_unique split split' distinct distinct' unfilled unfilled).1]
    | repeated before' after' token' first' split' distinct' place' =>
      obtain ⟨rfl, rfl⟩ := split_unique split split' distinct distinct' unfilled (again place')
      exact absurd (List.mem_of_getElem? place') distinct.filled
  | repeated before after token first split distinct place =>
    cases fault' with
    | empty before' after' split' distinct' =>
      obtain ⟨rfl, rfl⟩ := split_unique split split' distinct distinct' (again place) unfilled
      exact absurd (List.mem_of_getElem? place) distinct.filled
    | repeated before' after' token' first' split' distinct' place' =>
      obtain ⟨rfl, rfl⟩ := split_unique split split' distinct distinct' (again place) (again place')
      obtain ⟨bound, there⟩ := List.getElem?_eq_some_iff.mp place
      obtain ⟨bound', there'⟩ := List.getElem?_eq_some_iff.mp place'
      rw [(List.Nodup.getElem_inj_iff distinct.nodup).mp (there.trans there'.symm)]

private theorem seen_empty : Seen .empty [] where
  distinct := ⟨by simp, List.nodup_nil⟩
  places token position := by simp

private theorem parseBotTokens_blank {raw : PyStr} (blank : strip raw = []) :
    parseBotTokens (.str raw) = .ok [] := by
  simp [parseBotTokens, blank]

/-- A text with something in it is parsed to its entries, or refused for the first at fault. -/
private theorem parseBotTokens_filled {raw : PyStr} (filled : strip raw ≠ []) :
    (parseBotTokens (.str raw) = .ok (tokenEntries raw) ∧ Distinct (tokenEntries raw)) ∨
      ∃ error, parseBotTokens (.str raw) = .error error ∧ TokenFault (tokenEntries raw) error := by
  have loop := parseEntries_case seen_empty (raw.splitOn (ch ';'))
  have entered : parseBotTokens (.str raw) = parseEntries 1 .empty [] (raw.splitOn (ch ';')) := by
    simp [parseBotTokens, filled]
  rw [List.length_nil, Nat.zero_add, ← entered, List.nil_append] at loop
  exact loop

theorem parseBotTokens_eq_ok_iff {raw : PyStr} {tokens : List PyStr} :
    parseBotTokens (.str raw) = .ok tokens ↔
      strip raw = [] ∧ tokens = [] ∨
        strip raw ≠ [] ∧ tokens = tokenEntries raw ∧ Distinct (tokenEntries raw) := by
  by_cases blank : strip raw = []
  · simp [parseBotTokens_blank blank, blank, eq_comm]
  · rcases parseBotTokens_filled blank with ⟨parsed, distinct⟩ | ⟨error, parsed, fault⟩
    · simp [parsed, blank, distinct, eq_comm]
    · rw [parsed]
      refine iff_of_false (fun never => by cases never) ?_
      rintro (⟨empty, -⟩ | ⟨-, -, distinct⟩)
      · exact blank empty
      · exact not_distinct_of_fault fault distinct

private theorem parseBotTokens_eq_error_iff {raw : PyStr} {error : PyError} :
    parseBotTokens (.str raw) = .error error ↔
      strip raw ≠ [] ∧ TokenFault (tokenEntries raw) error := by
  by_cases blank : strip raw = []
  · simp [parseBotTokens_blank blank, blank]
  · rcases parseBotTokens_filled blank with ⟨parsed, distinct⟩ | ⟨found, parsed, fault⟩
    · rw [parsed]
      refine iff_of_false (fun never => by cases never) fun fault => ?_
      exact not_distinct_of_fault fault.2 distinct
    · rw [parsed]
      constructor
      · intro same
        cases same
        exact ⟨blank, fault⟩
      · rintro ⟨-, fault'⟩
        rw [fault_unique fault fault']

/-- A token that can be written down: some text without a semicolon or outer blanks. -/
structure Writable (token : PyStr) : Prop where
  text : token ≠ []
  trimmed : strip token = token
  separate : ch ';' ∉ token

private theorem Writable.visible {token : PyStr} (writable : Writable token) :
    ∃ point rest, token = point :: rest ∧ point.isWhitespace = false := by
  cases token with
  | nil => exact absurd rfl writable.text
  | cons point rest =>
    refine ⟨point, rest, rfl, ?_⟩
    cases blank : point.isWhitespace with
    | false => rfl
    | true =>
      have shorter : (strip (point :: rest)).length ≤ rest.length := by
        simp only [strip, List.dropWhile_cons, blank, if_true, List.length_reverse]
        exact (List.length_dropWhile_le _ _).trans (by
          rw [List.length_reverse]
          exact List.length_dropWhile_le _ _)
      rw [writable.trimmed] at shorter
      simp at shorter

/-- Distinct tokens written side by side are read back. -/
private theorem parseBotTokens_joined {tokens : List PyStr} (several : tokens ≠ [])
    (writable : ∀ token ∈ tokens, Writable token) (nodup : tokens.Nodup) :
    parseBotTokens (.str (List.intercalate [ch ';'] tokens)) = .ok tokens := by
  have split : tokenEntries (List.intercalate [ch ';'] tokens) = tokens := by
    rw [tokenEntries, List.splitOn_intercalate _ (fun token member =>
      (writable token member).separate)
      several]
    exact (List.map_congr_left fun token member => (writable token member).trimmed).trans
      (List.map_id' tokens)
  have shown : strip (List.intercalate [ch ';'] tokens) ≠ [] := by
    obtain ⟨token, rest, rfl⟩ := List.exists_cons_of_ne_nil several
    obtain ⟨point, others, rfl, visible⟩ := (writable token (by simp)).visible
    cases rest with
    | nil => exact strip_ne_nil visible _
    | cons next rest => exact strip_ne_nil visible _
  rw [parseBotTokens_eq_ok_iff, split]
  refine .inr ⟨shown, rfl, ?_, nodup⟩
  exact fun member => (writable [] member).text rfl

/-- What `parse_bot_tokens` makes of a text: the entries between the semicolons, all of them
and in their order, or the position of the first one at fault. Distinct tokens without a
semicolon or outer blanks are read back from where they were written side by side. -/
structure ParsesTokens (raw : PyStr) : Prop where
  accepts : ∀ tokens, parseBotTokens (.str raw) = .ok tokens ↔
    strip raw = [] ∧ tokens = [] ∨
      strip raw ≠ [] ∧ tokens = tokenEntries raw ∧ Distinct (tokenEntries raw)
  refuses : ∀ error, parseBotTokens (.str raw) = .error error ↔
    strip raw ≠ [] ∧ TokenFault (tokenEntries raw) error
  written : ∀ tokens, tokens ≠ [] → (∀ token ∈ tokens, Writable token) → tokens.Nodup →
    raw = List.intercalate [ch ';'] tokens → parseBotTokens (.str raw) = .ok tokens

theorem botTokens_parsed (raw : PyStr) : ParsesTokens raw where
  accepts _ := parseBotTokens_eq_ok_iff
  refuses _ := parseBotTokens_eq_error_iff
  written tokens several writable nodup same := by
    rw [same]
    exact parseBotTokens_joined several writable nodup

end OctoChannel.Identity
