import OctoChannel.Rendering.Binding
import OctoChannel.Rendering.Display

/-! Cards made of what the server advertises, and the display card as one of them. -/

namespace OctoChannel.Rendering

open Foundation Identity Cards

/-- The elements that a server can leave out. -/
def elementTypes : List PyStr :=
  [py "TextBlock", py "Container", py "ColumnSet", py "FactSet", py "Image", py "ActionSet",
    py "RichTextBlock"]

/-- An element or an action of this type is advertised. -/
structure TypeAdvertised (capabilities : Option CardCapabilities) (name : PyStr) : Prop where
  element : name ∈ elementTypes → offers capabilities CardCapabilities.elements name = true
  action : (py "Action.").isPrefixOf name = true →
    offers capabilities CardCapabilities.actions name = true

def NodeAdvertised (capabilities : Option CardCapabilities) (node : List (PyStr × Json)) : Prop :=
  ∀ name, typeOf node = .str name → TypeAdvertised capabilities name

/-- Every node of the value, at any depth, is advertised. -/
def Advertised (capabilities : Option CardCapabilities) (value : Json) : Prop :=
  ∀ node ∈ value.objects, NodeAdvertised capabilities node

section Advertised

variable {capabilities : Option CardCapabilities}

theorem advertised_arr {items : List Json} :
    Advertised capabilities (.arr items) ↔ ∀ item ∈ items, Advertised capabilities item := by
  simp only [Advertised, Json.objects_arr, List.mem_flatMap]
  constructor
  · intro every item member node within
    exact every node ⟨item, member, within⟩
  · rintro every node ⟨item, member, within⟩
    exact every item member node within

theorem advertised_obj {members : List (PyStr × Json)} :
    Advertised capabilities (.obj members) ↔
      NodeAdvertised capabilities members ∧ ∀ member ∈ members, Advertised capabilities member.2 := by
  simp only [Advertised, Json.objects_obj, List.forall_mem_cons, List.mem_flatMap]
  refine and_congr_right fun _ => ⟨?_, ?_⟩
  · intro every member present node within
    exact every node ⟨member, present, within⟩
  · rintro every node ⟨member, present, within⟩
    exact every member present node within

@[simp] theorem advertised_str (text : PyStr) : Advertised capabilities (.str text) := by
  simp [Advertised]

@[simp] theorem advertised_bool (value : Bool) : Advertised capabilities (.bool value) := by
  simp [Advertised]

theorem advertised_typed {name : PyStr} {members : List (PyStr × Json)} :
    Advertised capabilities (.obj ((py "type", .str name) :: members)) ↔
      TypeAdvertised capabilities name ∧ ∀ member ∈ members, Advertised capabilities member.2 := by
  have named : NodeAdvertised capabilities ((py "type", .str name) :: members) ↔
      TypeAdvertised capabilities name := by
    rw [NodeAdvertised, typeOf, field_head]
    constructor
    · intro every
      exact every name rfl
    · intro advertised other same
      rwa [← Json.str.inj same]
  rw [advertised_obj, named, List.forall_mem_cons]
  simp

/-- A node without a type is no element. -/
theorem advertised_untyped {members : List (PyStr × Json)} (untyped : typeOf members = .null) :
    Advertised capabilities (.obj members) ↔
      ∀ member ∈ members, Advertised capabilities member.2 := by
  rw [advertised_obj]
  refine and_iff_right fun name same => ?_
  rw [untyped] at same
  cases same

private theorem advertised_optional (key : String) {value : Option Json}
    (inside : ∀ given ∈ value, Advertised capabilities given) :
    ∀ member ∈ optionalMember key value, Advertised capabilities member.2 := by
  intro member present
  simp only [optionalMember, Option.mem_toList, Option.map_eq_some_iff] at present
  obtain ⟨given, known, rfl⟩ := present
  exact inside given known

theorem advertised_optionalText (key : String) (value : Option String) :
    ∀ member ∈ optionalMember key (value.map fun text => .str (py text)),
      Advertised capabilities member.2 := by
  refine advertised_optional key fun given known => ?_
  rw [Option.mem_map] at known
  obtain ⟨text, _, rfl⟩ := known
  exact advertised_str _

/-- A type that is neither an element nor an action. -/
theorem typeAdvertised_of_other {name : PyStr}
    (other : name ∉ elementTypes ∧ (py "Action.").isPrefixOf name = false) :
    TypeAdvertised capabilities name :=
  ⟨fun element => absurd element other.1, fun action => by simp [other.2] at action⟩

theorem typeAdvertised_of_element {name : PyStr}
    (offered : offers capabilities CardCapabilities.elements name = true)
    (element : (py "Action.").isPrefixOf name = false) : TypeAdvertised capabilities name :=
  ⟨fun _ => offered, fun action => by simp [element] at action⟩

theorem requireElement_ok {element : String} {passed : Unit}
    (ran : requireElement capabilities element = .ok passed) :
    offers capabilities CardCapabilities.elements (py element) = true := by
  simpa using refuse_ok ran

/-- The server shows text blocks. -/
def ShowsText (capabilities : Option CardCapabilities) : Prop :=
  offers capabilities CardCapabilities.elements (py "TextBlock") = true

theorem advertised_textElement (shows : ShowsText capabilities) (text : PyStr) (style : TextStyle) :
    Advertised capabilities (.obj (textElement text style)) := by
  simp only [textElement, List.cons_append, List.nil_append]
  refine advertised_typed.mpr ⟨typeAdvertised_of_element shows (by decide), ?_⟩
  intro member present
  simp only [List.mem_cons, List.mem_append] at present
  rcases present with rfl | rfl | ((bold | size) | subtle) | spacing
  · exact advertised_str _
  · exact advertised_bool _
  · split at bold
    · rw [List.mem_singleton] at bold
      rw [bold]
      exact advertised_str _
    · cases bold
  · exact advertised_optionalText "size" style.size member size
  · split at subtle
    · rw [List.mem_singleton] at subtle
      rw [subtle]
      exact advertised_bool _
    · cases subtle
  · exact advertised_optionalText "spacing" style.spacing member spacing

theorem advertised_grouped {element : List (PyStr × Json)} {name : PyStr} {rest : List (PyStr × Json)}
    (shape : element = (py "type", .str name) :: rest)
    (inside : Advertised capabilities (.obj element)) (spacing : Option String) :
    Advertised capabilities (.obj (grouped element spacing)) := by
  subst shape
  rw [advertised_typed] at inside
  rw [grouped, List.cons_append]
  refine advertised_typed.mpr ⟨inside.1, fun member present => ?_⟩
  rcases List.mem_append.mp present with own | added
  · exact inside.2 member own
  · exact advertised_optionalText "spacing" spacing member added

/-- What a block shows is advertised. -/
def StateAdvertised (capabilities : Option CardCapabilities) (state : DisplayState) : Prop :=
  ∀ item ∈ state.body, Advertised capabilities item

theorem StateAdvertised.append {state : DisplayState} (before : StateAdvertised capabilities state)
    {elements : List (List (PyStr × Json))}
    (added : ∀ element ∈ elements, Advertised capabilities (.obj element)) (lines : List PyStr)
    (previous : Preceding) : StateAdvertised capabilities (state.append elements lines previous) := by
  intro item member
  rcases List.mem_append.mp member with old | new
  · exact before item old
  · obtain ⟨element, present, rfl⟩ := List.mem_map.mp new
    exact added element present

theorem richOrLines_advertised {advertised : Bool} {element : List (PyStr × Json)} {name : PyStr}
    {rest : List (PyStr × Json)} {lines : List PyStr} {state next : DisplayState}
    (shape : element = (py "type", .str name) :: rest)
    (rich : advertised = true → Advertised capabilities (.obj element))
    (before : StateAdvertised capabilities state)
    (ran : richOrLines capabilities advertised element lines state = .ok next) :
    StateAdvertised capabilities next ∧ next.plainLines = state.plainLines ++ lines := by
  cases advertised with
  | true =>
    cases ran
    refine ⟨before.append ?_ lines _, rfl⟩
    intro shown member
    rw [List.mem_singleton] at member
    rw [member]
    exact advertised_grouped shape (rich rfl) _
  | false =>
    obtain ⟨_, required, rfl⟩ := ok_of_map ran
    refine ⟨before.append ?_ lines _, rfl⟩
    intro shown member
    obtain ⟨line, _, rfl⟩ := List.mem_map.mp member
    exact advertised_textElement (requireElement_ok required) line _

private theorem advertised_factSet (offered : offers capabilities CardCapabilities.elements
    (py "FactSet") = true) (facts : List (PyStr × PyStr)) :
    Advertised capabilities (.obj (factSetElement facts)) := by
  refine advertised_typed.mpr ⟨typeAdvertised_of_element offered (by decide), ?_⟩
  intro member present
  rw [List.mem_singleton] at present
  subst present
  refine advertised_arr.mpr fun item within => ?_
  obtain ⟨fact, _, rfl⟩ := List.mem_map.mp within
  exact (advertised_untyped rfl).mpr (by simp [factNode])

private theorem advertised_image (offered : offers capabilities CardCapabilities.elements
    (py "Image") = true) (url alt : PyStr) :
    Advertised capabilities (.obj (imageElement url alt)) :=
  advertised_typed.mpr ⟨typeAdvertised_of_element offered (by decide), by simp⟩

private theorem advertised_linkSet
    (offered : offers capabilities CardCapabilities.elements (py "ActionSet") = true)
    (opens : offers capabilities CardCapabilities.actions (py "Action.OpenUrl") = true)
    (links : List (PyStr × PyStr)) : Advertised capabilities (.obj (linkSetElement links)) := by
  refine advertised_typed.mpr ⟨typeAdvertised_of_element offered (by decide), ?_⟩
  intro member present
  rw [List.mem_singleton] at present
  subst present
  refine advertised_arr.mpr fun item within => ?_
  obtain ⟨link, _, rfl⟩ := List.mem_map.mp within
  exact advertised_typed.mpr
    ⟨⟨fun element => absurd element (by decide), fun _ => opens⟩, by simp⟩

private theorem advertised_partElements (shows : ShowsText capabilities)
    (parts : List (Bool × PyStr)) :
    ∀ element ∈ partElements parts, Advertised capabilities (.obj element) := by
  have each : ∀ first part, Advertised capabilities (.obj (partElement first part)) := by
    intro first part
    rw [partElement]
    split
    · exact advertised_textElement shows _ _
    · exact advertised_textElement shows _ _
  cases parts with
  | nil => simp [partElements]
  | cons part rest =>
    rw [partElements, List.forall_mem_cons]
    refine ⟨each true part, fun element member => ?_⟩
    obtain ⟨other, _, rfl⟩ := List.mem_map.mp member
    exact each false other

/-- The lines of a section need a server that shows text. -/
theorem readPart_shows {block : List (PyStr × Json)} {field : String} {isLabel : Bool}
    {parts : List (Bool × PyStr)} (ran : readPart capabilities block field isLabel = .ok parts) :
    parts = [] ∨ ShowsText capabilities := by
  rw [readPart] at ran
  split at ran
  · cases ran
    exact .inl rfl
  · obtain ⟨clean, _, ran⟩ := ok_of_bind ran
    cases clean with
    | none =>
      cases ran
      exact .inl rfl
    | some clean =>
      obtain ⟨_, required, _⟩ := ok_of_bind ran
      exact .inr (requireElement_ok required)
  · cases ran

private theorem readParts_shows {block : List (PyStr × Json)} {parts : List (Bool × PyStr)}
    (ran : readParts capabilities block = .ok parts) : parts = [] ∨ ShowsText capabilities := by
  rw [readParts] at ran
  obtain ⟨title, ranTitle, ran⟩ := ok_of_bind ran
  obtain ⟨text, ranText, ran⟩ := ok_of_bind ran
  cases ran
  rcases readPart_shows ranTitle with rfl | shows
  · rcases readPart_shows ranText with rfl | shows
    · exact .inl rfl
    · exact .inr shows
  · exact .inr shows

/-- What is known of a block that was read. -/
def BlockReady (capabilities : Option CardCapabilities) : DisplayBlock → Prop
  | .parts parts => parts = [] ∨ ShowsText capabilities
  | _ => True

theorem readBlock_ready {urls : CardUrls} {block : Json} {read : DisplayBlock}
    (ran : readBlock urls capabilities block = .ok read) : BlockReady capabilities read := by
  cases block with
  | obj members =>
    rw [readBlock] at ran
    split_ifs at ran
    split at ran
    · cases ran
    · split_ifs at ran
      · obtain ⟨text, _, rfl⟩ := ok_of_map ran
        trivial
      · obtain ⟨text, _, rfl⟩ := ok_of_map ran
        trivial
      · obtain ⟨parts, ranParts, rfl⟩ := ok_of_map ran
        exact readParts_shows ranParts
      · obtain ⟨facts, _, rfl⟩ := ok_of_map ran
        trivial
      · obtain ⟨image, _, rfl⟩ := ok_of_map ran
        trivial
      · obtain ⟨links, _, rfl⟩ := ok_of_map ran
        trivial
  | _ => cases ran

/-- A block adds advertised elements, and its lines to the plain text. -/
theorem showBlock_advertised {block : DisplayBlock} {state next : DisplayState}
    (ready : BlockReady capabilities block) (before : StateAdvertised capabilities state)
    (ran : showBlock capabilities block state = .ok next) :
    StateAdvertised capabilities next ∧ next.plainLines = state.plainLines ++ block.lines := by
  have one : ∀ element, Advertised capabilities (.obj element) →
      ∀ shown ∈ [element], Advertised capabilities (.obj shown) := by
    intro element advertised shown member
    rw [List.mem_singleton] at member
    rwa [member]
  cases block with
  | heading text =>
    cases text with
    | none =>
      cases ran
      exact ⟨before, by simp [DisplayBlock.lines]⟩
    | some text =>
      obtain ⟨_, required, rfl⟩ := ok_of_map ran
      have shows := requireElement_ok required
      exact ⟨before.append (one _ (advertised_textElement shows text _)) _ _, rfl⟩
  | text text =>
    cases text with
    | none =>
      cases ran
      exact ⟨before, by simp [DisplayBlock.lines]⟩
    | some text =>
      obtain ⟨_, required, rfl⟩ := ok_of_map ran
      have shows := requireElement_ok required
      exact ⟨before.append (one _ (advertised_textElement shows text _)) _ _, rfl⟩
  | parts parts =>
    cases parts with
    | nil =>
      cases ran
      exact ⟨before, by simp [DisplayBlock.lines, DisplayState.regroup]⟩
    | cons part rest =>
      have shows : ShowsText capabilities := ready.resolve_left (List.cons_ne_nil part rest)
      have elements := advertised_partElements shows (part :: rest)
      cases ran
      refine ⟨before.append ?_ _ _, rfl⟩
      split
      · rename_i container
        refine one _ (advertised_grouped rfl ?_ _)
        refine advertised_typed.mpr ⟨typeAdvertised_of_element container (by decide), ?_⟩
        intro member present
        rw [List.mem_singleton] at present
        subst present
        refine advertised_arr.mpr fun item within => ?_
        obtain ⟨element, listed, rfl⟩ := List.mem_map.mp within
        exact elements element listed
      · exact elements
  | facts facts =>
    cases facts with
    | nil =>
      cases ran
      exact ⟨before, by simp [DisplayBlock.lines, DisplayState.regroup]⟩
    | cons fact rest =>
      exact richOrLines_advertised rfl (fun offered => advertised_factSet offered _) before ran
  | image image =>
    cases image with
    | none =>
      cases ran
      exact ⟨before, by simp [DisplayBlock.lines, DisplayState.regroup]⟩
    | some image =>
      obtain ⟨url, alt, origin⟩ := image
      exact richOrLines_advertised rfl (fun offered => advertised_image offered url alt) before ran
  | links links =>
    cases links with
    | nil =>
      cases ran
      exact ⟨before, by simp [DisplayBlock.lines, DisplayState.regroup]⟩
    | cons link rest =>
      refine richOrLines_advertised rfl (fun offered => ?_) before ran
      rw [Bool.and_eq_true] at offered
      exact advertised_linkSet offered.1 offered.2 _

private theorem showBlocks_advertised {urls : CardUrls} {blocks : List Json}
    {state final : DisplayState}
    (before : StateAdvertised capabilities state)
    (ran : showBlocks urls capabilities blocks state = .ok final) :
    StateAdvertised capabilities final := by
  induction blocks generalizing state with
  | nil =>
    cases ran
    exact before
  | cons block rest ih =>
    cases read : readBlock urls capabilities block with
    | error error => simp [showBlocks, read] at ran
    | ok content =>
      cases shown : showBlock capabilities content state with
      | error error => simp [showBlocks, read, shown] at ran
      | ok next =>
        simp only [showBlocks, read, shown] at ran
        exact ih (showBlock_advertised (readBlock_ready read) before shown).1 ran

theorem showTitle_advertised {title : Json} {start : DisplayState}
    (ran : showTitle capabilities title = .ok start) : StateAdvertised capabilities start := by
  have empty : ∀ previous, StateAdvertised capabilities ⟨[], [], previous⟩ := by
    intro previous item member
    cases member
  cases title with
  | null =>
    cases ran
    exact empty _
  | str title =>
    obtain ⟨clean, _, ran⟩ := ok_of_bind ran
    cases clean with
    | none =>
      cases ran
      exact empty _
    | some clean =>
      obtain ⟨_, required, rfl⟩ := ok_of_map ran
      intro item member
      rw [List.mem_singleton] at member
      rw [member]
      exact advertised_textElement (requireElement_ok required) clean _
  | _ => cases ran

theorem advertised_adaptiveCard {body : List Json}
    (items : ∀ item ∈ body, Advertised capabilities item) :
    Advertised capabilities (.obj (adaptiveCard body)) := by
  have root : NodeAdvertised capabilities (adaptiveCard body) := by
    intro name same
    rw [typeOf, adaptiveCard, field_next (by decide), field_head] at same
    rw [← Json.str.inj same]
    exact typeAdvertised_of_other (by decide)
  refine advertised_obj.mpr ⟨root, ?_⟩
  simp only [adaptiveCard, List.forall_mem_cons, advertised_str, true_and, List.not_mem_nil,
    false_implies, implies_true, and_true]
  exact advertised_arr.mpr items

/-- A card and its text stay within what the server advertises. -/
structure StaysWithin (capabilities : Option CardCapabilities) (result : CardRenderResult) :
    Prop where
  advertised : Advertised capabilities (.obj result.card)
  limits : WithinLimits result.card result.plain capabilities cardProfileV1

end Advertised

section Plain

variable {first second : Option CardCapabilities}

theorem readPart_same {block : List (PyStr × Json)} {field : String} {isLabel : Bool}
    {parts others : List (Bool × PyStr)} (ran : readPart first block field isLabel = .ok parts)
    (again : readPart second block field isLabel = .ok others) : parts = others := by
  rw [readPart] at ran again
  cases value : Json.field (py field) block with
  | null =>
    rw [value] at ran again
    cases ran
    cases again
    rfl
  | str raw =>
    rw [value] at ran again
    obtain ⟨clean, ranClean, ran⟩ := ok_of_bind ran
    obtain ⟨otherClean, otherRan, again⟩ := ok_of_bind again
    cases ranClean.symm.trans otherRan
    cases clean with
    | none =>
      cases ran
      cases again
      rfl
    | some clean =>
      obtain ⟨_, _, ran⟩ := ok_of_bind ran
      obtain ⟨_, _, again⟩ := ok_of_bind again
      cases ran
      cases again
      rfl
  | _ =>
    rw [value] at ran
    cases ran

/-- What a block says does not depend on the capabilities. -/
private theorem readBlock_same {urls : CardUrls} {block : Json} {read other : DisplayBlock}
    (ran : readBlock urls first block = .ok read)
    (again : readBlock urls second block = .ok other) : read = other := by
  cases block with
  | obj members =>
    rw [readBlock] at ran again
    by_cases unhashable : (!isHashable (Json.field (py "type") members)) = true
    · rw [if_pos unhashable] at ran
      cases ran
    rw [if_neg unhashable] at ran again
    cases named : stringOf (Json.field (py "type") members) with
    | none =>
      rw [named] at ran
      cases ran
    | some kind =>
      simp only [named] at ran again
      by_cases isSection : kind = py "section"
      · subst isSection
        rw [if_neg (by decide), if_neg (by decide), if_pos rfl] at ran again
        obtain ⟨parts, ranParts, rfl⟩ := ok_of_map ran
        obtain ⟨others, otherParts, rfl⟩ := ok_of_map again
        rw [readParts] at ranParts otherParts
        obtain ⟨title, ranTitle, ranParts⟩ := ok_of_bind ranParts
        obtain ⟨text, ranText, ranParts⟩ := ok_of_bind ranParts
        obtain ⟨otherTitle, otherRanTitle, otherParts⟩ := ok_of_bind otherParts
        obtain ⟨otherText, otherRanText, otherParts⟩ := ok_of_bind otherParts
        cases ranParts
        cases otherParts
        rw [readPart_same ranTitle otherRanTitle, readPart_same ranText otherRanText]
      · simp only [if_neg isSection] at ran again
        exact Except.ok.inj (ran.symm.trans again)
  | _ => cases ran

private theorem showBlocks_plain {urls : CardUrls} {blocks : List Json}
    {state other final otherFinal : DisplayState} (before : StateAdvertised first state)
    (otherBefore : StateAdvertised second other) (same : state.plainLines = other.plainLines)
    (ran : showBlocks urls first blocks state = .ok final)
    (again : showBlocks urls second blocks other = .ok otherFinal) :
    final.plainLines = otherFinal.plainLines := by
  induction blocks generalizing state other with
  | nil =>
    cases ran
    cases again
    exact same
  | cons block rest ih =>
    cases read : readBlock urls first block with
    | error error => simp [showBlocks, read] at ran
    | ok content =>
      cases otherRead : readBlock urls second block with
      | error error => simp [showBlocks, otherRead] at again
      | ok otherContent =>
        cases shown : showBlock first content state with
        | error error => simp [showBlocks, read, shown] at ran
        | ok next =>
          cases otherShown : showBlock second otherContent other with
          | error error => simp [showBlocks, otherRead, otherShown] at again
          | ok otherNext =>
            simp only [showBlocks, read, shown, otherRead, otherShown] at ran again
            obtain ⟨inside, lines⟩ := showBlock_advertised (readBlock_ready read) before shown
            obtain ⟨otherInside, otherLines⟩ :=
              showBlock_advertised (readBlock_ready otherRead) otherBefore otherShown
            refine ih inside otherInside ?_ ran again
            rw [lines, otherLines, same, readBlock_same read otherRead]

private theorem showTitle_plain {title : Json} {start other : DisplayState}
    (ran : showTitle first title = .ok start) (again : showTitle second title = .ok other) :
    start.plainLines = other.plainLines := by
  cases title with
  | null =>
    cases ran
    cases again
    rfl
  | str title =>
    obtain ⟨clean, ranClean, ran⟩ := ok_of_bind ran
    obtain ⟨otherClean, otherRan, again⟩ := ok_of_bind again
    cases ranClean.symm.trans otherRan
    cases clean with
    | none =>
      cases ran
      cases again
      rfl
    | some clean =>
      obtain ⟨_, _, rfl⟩ := ok_of_map ran
      obtain ⟨_, _, rfl⟩ := ok_of_map again
      rfl
  | _ => cases ran

theorem buildDisplayCard_ok {urls : CardUrls} {blocks : List Json} {title : Json}
    {capabilities : Option CardCapabilities} {result : CardRenderResult}
    (built : buildDisplayCard urls blocks title capabilities = .ok result) :
    ∃ start state, showTitle capabilities title = .ok start ∧
      showBlocks urls capabilities blocks start = .ok state ∧
      result = ⟨adaptiveCard state.body, strip (joined (py "\n") state.plainLines)⟩ ∧
      validateCardLimits result.card result.plain capabilities cardProfileV1 = .ok () := by
  rw [buildDisplayCard] at built
  split_ifs at built
  cases titled : showTitle capabilities title with
  | error error => simp [titled] at built
  | ok start =>
    cases ran : showBlocks urls capabilities blocks start with
    | error error => simp [titled, ran] at built
    | ok state =>
      simp only [titled, ran] at built
      split_ifs at built
      split at built
      · cases built
      · rename_i passed checked
        cases built
        exact ⟨start, state, rfl, ran, rfl, checked⟩

theorem displayCard_stays {urls : CardUrls} {blocks : List Json} {title : Json}
    {capabilities : Option CardCapabilities} {result : CardRenderResult}
    (built : buildDisplayCard urls blocks title capabilities = .ok result) :
    StaysWithin capabilities result := by
  obtain ⟨start, state, titled, ran, rfl, checked⟩ := buildDisplayCard_ok built
  exact ⟨advertised_adaptiveCard (showBlocks_advertised (showTitle_advertised titled) ran),
    validateCardLimits_ok.mp checked⟩

/-- The plain text of a display card does not depend on the capabilities. -/
theorem displayCard_plain {urls : CardUrls} {blocks : List Json} {title : Json}
    {result other : CardRenderResult} (built : buildDisplayCard urls blocks title first = .ok result)
    (again : buildDisplayCard urls blocks title second = .ok other) :
    result.plain = other.plain := by
  obtain ⟨start, state, titled, ran, rfl, _⟩ := buildDisplayCard_ok built
  obtain ⟨otherStart, otherState, otherTitled, otherRan, rfl, _⟩ := buildDisplayCard_ok again
  have lines := showBlocks_plain (showTitle_advertised titled) (showTitle_advertised otherTitled)
    (showTitle_plain titled otherTitled) ran otherRan
  simp only [lines]

end Plain

end OctoChannel.Rendering
