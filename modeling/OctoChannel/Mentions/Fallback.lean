import OctoChannel.Mentions.Outbound

namespace OctoChannel.Mentions

open Foundation Identity

variable (words : WordChars)

def lowerAscii (point : CodePoint) : CodePoint :=
  if ch 'A' ≤ point ∧ point ≤ ch 'Z' then Fin.ofNat 0x110000 (point.val + 32) else point

/-- `name.lower() == "all" or name == "所有人"`: no character beyond ASCII is lowered to one
of these letters. -/
def isBroadcast (name : PyStr) : Bool := name.map lowerAscii = py "all" || name = py "所有人"

/-- The entity that one mention gives. -/
def fallbackEntity (content : PyStr) (members : Dict PyStr PyStr) (mention : MentionMatch) :
    Option SidecarEntity :=
  if isBroadcast mention.name then none
  else
    (resolveMember words content members mention).map fun envelope =>
      ⟨envelope.uid, (utf16 (content.take mention.start)).length,
        (utf16 (ch '@' :: envelope.name)).length⟩

def entitiesFrom (content : PyStr) (members : Dict PyStr PyStr) :
    List MentionMatch → List SidecarEntity × List PyStr
  | [] => ([], [])
  | mention :: rest =>
    let later := entitiesFrom content members rest
    match fallbackEntity words content members mention with
    | none => later
    | some entity => (entity :: later.1, entity.tag :: later.2)

/-- `build_entities_from_fallback`; content that is no text has none. -/
def buildEntitiesFromFallback (content : Json) (members : Dict PyStr PyStr) :
    List SidecarEntity × List PyStr :=
  match content with
  | .str text => entitiesFrom words text members (boundedMentions words text)
  | _ => ([], [])

variable {words} {content : PyStr} {members : Dict PyStr PyStr}

theorem entitiesFrom_eq (content : PyStr) (members : Dict PyStr PyStr)
    (mentions : List MentionMatch) :
    entitiesFrom words content members mentions =
      (mentions.filterMap (fallbackEntity words content members),
        (mentions.filterMap (fallbackEntity words content members)).map Mark.tag) := by
  induction mentions with
  | nil => rfl
  | cons mention rest ih =>
    rw [entitiesFrom, ih]
    cases found : fallbackEntity words content members mention with
    | none => rw [List.filterMap_cons_none found]
    | some entity =>
      rw [List.filterMap_cons_some found]
      rfl

/-- The entity starts where the character with this index does. -/
def StartsAt (content : PyStr) (entity : SidecarEntity) (index : Nat) : Prop :=
  index < content.length ∧ (utf16 (content.take index)).length = entity.offset

/-- The range holds `@` and a name of the map, and the uid is what the map has for it. -/
def NamesMember (content : PyStr) (members : Dict PyStr PyStr) (entity : SidecarEntity) : Prop :=
  ∃ name, members.get? name = some entity.tag ∧
    entity.cut (utf16 content) = utf16 (ch '@' :: name)

/-- What holds of every entity by itself and of the list of uids. -/
structure Faithful (words : WordChars) (content : PyStr) (members : Dict PyStr PyStr)
    (entities : List SidecarEntity) (uids : List PyStr) : Prop where
  sorted : entities.Pairwise fun first second => first.offset < second.offset
  named : ∀ entity ∈ entities, NamesMember content members entity
  aligned : uids = entities.map Mark.tag
  quiet : ∀ entity ∈ entities, ∀ mention ∈ mentionMatches words content,
    StartsAt content entity mention.start → isBroadcast mention.name = false
  bounded : ∀ entity ∈ entities, ∀ index, StartsAt content entity (index + 1) →
    ∀ previous, content[index]? = some previous → isAsciiAlnum previous = false

/-- No two entities share a unit. -/
def Disjoint (entities : List SidecarEntity) : Prop :=
  entities.Pairwise fun first second => first.offset + first.length ≤ second.offset

/-- The name taken at one mention reaches over the `@` of a later one; both stand for members,
and neither is a broadcast. -/
def NamesOverlap (words : WordChars) (content : PyStr) (members : Dict PyStr PyStr) : Prop :=
  ∃ first ∈ boundedMentions words content, ∃ second ∈ boundedMentions words content,
    isBroadcast first.name = false ∧ isBroadcast second.name = false ∧
    ∃ envelope other, resolveMember words content members first = some envelope ∧
      resolveMember words content members second = some other ∧ first.start < second.start ∧
        second.start ≤ first.start + envelope.name.length

theorem fallbackEntity_some {mention : MentionMatch} {entity : SidecarEntity}
    (found : fallbackEntity words content members mention = some entity) :
    isBroadcast mention.name = false ∧
      ∃ envelope, resolveMember words content members mention = some envelope ∧
        entity = ⟨envelope.uid, (utf16 (content.take mention.start)).length,
          (utf16 (ch '@' :: envelope.name)).length⟩ := by
  unfold fallbackEntity at found
  split at found
  · cases found
  · rename_i plain
    obtain ⟨envelope, resolved, same⟩ := Option.map_eq_some_iff.mp found
    exact ⟨Bool.eq_false_iff.mpr plain, envelope, resolved, same.symm⟩

/-- A member that a mention stands for is one of the map. -/
private theorem get?_of_resolved {mention : MentionMatch} {envelope : Envelope}
    (resolved : resolveMember words content members mention = some envelope) :
    members.get? envelope.name = some envelope.uid := by
  have taken : ∀ {name : PyStr} {found : Envelope},
      ((memberUid members name).map fun uid => (⟨uid, name⟩ : Envelope)) = some found →
        members.get? found.name = some found.uid := by
    intro name found same
    obtain ⟨uid, known, equal⟩ := Option.map_eq_some_iff.mp same
    rw [← equal]
    exact (Option.filter_eq_some_iff.mp known).1
  unfold resolveMember at resolved
  split at resolved
  · rename_i longer
    cases resolved
    obtain ⟨candidate, -, found⟩ := List.exists_of_findSome?_eq_some longer
    split at found
    · exact taken found
    · cases found
  · exact taken resolved

/-- Where the mention stands, counted in units. -/
theorem utf16_of_here {start : Nat} {name : PyStr}
    (here : ∃ rest, content.drop start = ch '@' :: name ++ rest) :
    (utf16 (content.take (start + 1 + name.length))).length =
      (utf16 (content.take start)).length + (utf16 (ch '@' :: name)).length := by
  obtain ⟨rest, here⟩ := here
  have width : (ch '@' :: name).length = 1 + name.length := by
    rw [List.length_cons, Nat.add_comm]
  have part : content.take (start + 1 + name.length) = content.take start ++ ch '@' :: name := by
    rw [Nat.add_assoc, ← width, List.take_add, here, List.take_left]
  rw [part, length_utf16_append]

private theorem cut_of_here {start : Nat} {name uid : PyStr}
    (here : ∃ rest, content.drop start = ch '@' :: name ++ rest) :
    (⟨uid, (utf16 (content.take start)).length, (utf16 (ch '@' :: name)).length⟩ :
      SidecarEntity).cut (utf16 content) = utf16 (ch '@' :: name) := by
  obtain ⟨rest, here⟩ := here
  have whole : utf16 content =
      utf16 (content.take start) ++ (utf16 (ch '@' :: name) ++ utf16 rest) := by
    rw [utf16, utf16, utf16, utf16, ← List.flatMap_append, ← List.flatMap_append, ← here,
      List.take_append_drop]
  rw [Mark.cut, whole, List.drop_left, List.take_left]

theorem start_lt_length {mention : MentionMatch} (member : mention ∈ mentionMatches words content) :
    mention.start < content.length := by
  obtain ⟨rest, here⟩ := (standsIn_scanMentions mention member).1.here
  have size := congrArg List.length here
  rw [List.length_drop, List.length_append, List.length_cons] at size
  omega

/-- Different characters start at different units. -/
theorem index_eq_of_units {first second : Nat} (inside : first ≤ content.length)
    (inside' : second ≤ content.length)
    (same : (utf16 (content.take first)).length = (utf16 (content.take second)).length) :
    first = second := by
  rcases Nat.lt_trichotomy first second with less | equal | more
  · exact absurd same (Nat.ne_of_lt (length_utf16_take_lt less inside'))
  · exact equal
  · exact absurd same.symm (Nat.ne_of_lt (length_utf16_take_lt more inside))

/-- The search takes an `@` only at a boundary. -/
private theorem boundary_scanMentions {previous : Option CodePoint} {position skip : Nat}
    {text : PyStr} :
    ∀ mention ∈ scanMentions words previous position skip text,
      mentionBoundary (if mention.start = position then previous
        else text[mention.start - position - 1]?) = true := by
  induction text generalizing previous position skip with
  | nil => exact fun mention none => by cases none
  | cons point rest ih =>
    have moved : ∀ {skip : Nat}, ∀ mention ∈ scanMentions words (some point) (position + 1) skip rest,
        mentionBoundary (if mention.start = position then previous
          else (point :: rest)[mention.start - position - 1]?) = true := by
      intro skip mention found
      have after := (standsIn_scanMentions mention found).1.after
      have here := ih mention found
      rw [if_neg (by omega)]
      by_cases first : mention.start = position + 1
      · rw [if_pos first] at here
        rw [first, Nat.add_sub_cancel_left, Nat.sub_self]
        exact here
      · rw [if_neg first] at here
        have step : mention.start - position - 1 = mention.start - (position + 1) - 1 + 1 := by omega
        rw [step, List.getElem?_cons_succ]
        exact here
    intro mention found
    unfold scanMentions at found
    split at found
    · exact moved mention found
    · dsimp only at found
      split at found
      · rename_i marked
        simp only [Bool.and_eq_true, decide_eq_true_eq] at marked
        rcases List.mem_cons.mp found with same | later
        · subst same
          rw [if_pos rfl]
          exact marked.1.2
        · exact moved mention later
      · exact moved mention found

private theorem mention_eq_of_start {first second : MentionMatch}
    (member : first ∈ mentionMatches words content)
    (member' : second ∈ mentionMatches words content) (same : first.start = second.start) :
    first = second := by
  have starts : ((mentionMatches words content).map MentionMatch.start).Nodup := by
    apply List.pairwise_map.mpr
    refine apart_scanMentions.imp ?_
    intro one other apart
    omega
  exact List.inj_on_of_nodup_map starts member member' same

private theorem units_strict {first second : MentionMatch}
    (member : second ∈ mentionMatches words content) (before : first.start < second.start) :
    (utf16 (content.take first.start)).length < (utf16 (content.take second.start)).length :=
  length_utf16_take_lt before (Nat.le_of_lt (start_lt_length member))

/-- An entity is one of a mention that the loop looks at. -/
theorem mem_entities {entity : SidecarEntity}
    (member : entity ∈ (boundedMentions words content).filterMap
      (fallbackEntity words content members)) :
    ∃ mention ∈ boundedMentions words content, isBroadcast mention.name = false ∧
      ∃ envelope, resolveMember words content members mention = some envelope ∧
        entity = ⟨envelope.uid, (utf16 (content.take mention.start)).length,
          (utf16 (ch '@' :: envelope.name)).length⟩ := by
  obtain ⟨mention, listed, found⟩ := List.mem_filterMap.mp member
  exact ⟨mention, listed, fallbackEntity_some found⟩

private theorem faithful_fallback (words : WordChars) (content : PyStr)
    (members : Dict PyStr PyStr) :
    Faithful words content members
      (buildEntitiesFromFallback words (.str content) members).1
      (buildEntitiesFromFallback words (.str content) members).2 := by
  unfold buildEntitiesFromFallback
  dsimp only
  rw [entitiesFrom_eq]
  refine { sorted := ?_, named := ?_, aligned := rfl, quiet := ?_, bounded := ?_ }
  · apply List.pairwise_filterMap.mpr
    have listed : (boundedMentions words content).Pairwise fun first second =>
        second ∈ mentionMatches words content ∧ first.start < second.start := by
      refine (List.pairwise_iff_forall_sublist.mpr ?_)
      intro first second sublist
      have apart := (apart_boundedMentions words content).forall_sublist sublist
      have present : second ∈ boundedMentions words content := sublist.subset (by simp)
      exact ⟨List.mem_of_mem_take present, by omega⟩
    refine listed.imp ?_
    intro first second both entity found other found'
    obtain ⟨-, envelope, -, same⟩ := fallbackEntity_some found
    obtain ⟨-, envelope', -, same'⟩ := fallbackEntity_some found'
    rw [same, same']
    exact units_strict both.1 both.2
  · intro entity member
    obtain ⟨mention, listed, -, envelope, resolved, same⟩ := mem_entities member
    rw [same]
    exact ⟨envelope.name, get?_of_resolved resolved, cut_of_here (resolveMember_here listed resolved)⟩
  · intro entity member mention listed starts
    obtain ⟨own, present, quiet, envelope, -, same⟩ := mem_entities member
    have there : (utf16 (content.take mention.start)).length =
        (utf16 (content.take own.start)).length := by
      rw [starts.2, same]
    have here := List.mem_of_mem_take present
    have equal := index_eq_of_units (Nat.le_of_lt starts.1)
      (Nat.le_of_lt (start_lt_length here)) there
    rw [mention_eq_of_start listed here equal]
    exact quiet
  · intro entity member index starts previous before
    obtain ⟨own, present, -, envelope, -, same⟩ := mem_entities member
    have here := List.mem_of_mem_take present
    have there : (utf16 (content.take (index + 1))).length =
        (utf16 (content.take own.start)).length := by
      rw [starts.2, same]
    have equal := index_eq_of_units (Nat.le_of_lt starts.1)
      (Nat.le_of_lt (start_lt_length here)) there
    have boundary := boundary_scanMentions own here
    rw [← equal, if_neg (Nat.succ_ne_zero index), Nat.sub_zero, Nat.add_sub_cancel, before]
      at boundary
    simpa [mentionBoundary] using boundary

private theorem disjoint_fallback_iff (words : WordChars) (content : PyStr)
    (members : Dict PyStr PyStr) :
    Disjoint (buildEntitiesFromFallback words (.str content) members).1 ↔
      ¬ NamesOverlap words content members := by
  have increasing : (boundedMentions words content).Pairwise fun first second =>
      first.start < second.start :=
    (apart_boundedMentions words content).imp fun apart => by omega
  unfold buildEntitiesFromFallback Disjoint
  dsimp only
  rw [entitiesFrom_eq, List.pairwise_filterMap, pairwise_iff_of_increasing increasing]
  constructor
  · intro apart overlap
    obtain ⟨first, one, second, two, quiet, quiet', envelope, other, taken, taken', before,
      reaches⟩ := overlap
    have found : fallbackEntity words content members first = some ⟨envelope.uid,
        (utf16 (content.take first.start)).length, (utf16 (ch '@' :: envelope.name)).length⟩ := by
      rw [fallbackEntity, quiet, taken]
      rfl
    have found' : fallbackEntity words content members second = some ⟨other.uid,
        (utf16 (content.take second.start)).length, (utf16 (ch '@' :: other.name)).length⟩ := by
      rw [fallbackEntity, quiet', taken']
      rfl
    have behind := apart first one second two before _ found _ found'
    have stops : (utf16 (content.take first.start)).length +
        (utf16 (ch '@' :: envelope.name)).length ≤
          (utf16 (content.take second.start)).length := behind
    rw [← utf16_of_here (resolveMember_here one taken)] at stops
    have inside : first.start + 1 + envelope.name.length ≤ content.length := by
      obtain ⟨rest, here⟩ := resolveMember_here one taken
      have size := congrArg List.length here
      rw [List.length_drop, List.length_append, List.length_cons] at size
      omega
    have reached : second.start < first.start + 1 + envelope.name.length := by omega
    have shorter := length_utf16_take_lt reached inside
    omega
  · intro free first one second two before entity found other found'
    obtain ⟨quiet, envelope, taken, same⟩ := fallbackEntity_some found
    obtain ⟨quiet', envelope', taken', same'⟩ := fallbackEntity_some found'
    rw [same, same']
    show _ + _ ≤ (utf16 (content.take second.start)).length
    rw [← utf16_of_here (resolveMember_here one taken)]
    apply length_utf16_take_le _ (Nat.le_of_lt (start_lt_length (List.mem_of_mem_take two)))
    by_contra reaches
    exact free ⟨first, one, second, two, quiet, quiet', envelope, envelope', taken, taken', before,
      by omega⟩

/-- The entities are sorted, exact, aligned and quiet on every input; they are disjoint
unless the names of two members overlap. -/
theorem fallback_wellFormed_iff (words : WordChars) (content : PyStr)
    (members : Dict PyStr PyStr) :
    (Faithful words content members (buildEntitiesFromFallback words (.str content) members).1
        (buildEntitiesFromFallback words (.str content) members).2 ∧
      Disjoint (buildEntitiesFromFallback words (.str content) members).1) ↔
      ¬ NamesOverlap words content members := by
  rw [disjoint_fallback_iff]
  exact and_iff_right (faithful_fallback words content members)

/-- A member's name holds the `@name` of another member. -/
theorem fallback_names_overlap :
    let words : WordChars := ⟨fun point => isAsciiAlnum point || point = ch '_', fun _ _ => rfl⟩
    let members := (Dict.empty.set (py "a @b") (py "u1")).set (py "b") (py "u2")
    buildEntitiesFromFallback words (.str (py "@a @b")) members =
        ([⟨py "u1", 0, 5⟩, ⟨py "u2", 3, 2⟩], [py "u1", py "u2"]) ∧
      ¬ Disjoint (buildEntitiesFromFallback words (.str (py "@a @b")) members).1 := by
  intro words members
  have built : buildEntitiesFromFallback words (.str (py "@a @b")) members =
      ([⟨py "u1", 0, 5⟩, ⟨py "u2", 3, 2⟩], [py "u1", py "u2"]) := by decide
  refine ⟨built, ?_⟩
  rw [built]
  unfold Disjoint
  decide

end OctoChannel.Mentions
