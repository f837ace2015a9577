import OctoChannel.Rendering.Interactive

namespace OctoChannel.Rendering

open Foundation Identity Cards

/-- A key that the renderer reserves for itself. -/
def isReserved (key : PyStr) : Bool := reservedStart.isPrefixOf key

/-- Data as the renderer lets it through: texts that can be encoded, and keys that are
safe and not reserved. -/
inductive SafeData : Json → Prop where
  | null : SafeData .null
  | bool (value : Bool) : SafeData (.bool value)
  | int (value : Int) : SafeData (.int value)
  | float (text : String) : SafeData (.float text)
  | str {text : PyStr} (encodable : Encodable text) : SafeData (.str text)
  | arr {items : List Json} (each : ∀ item ∈ items, SafeData item) : SafeData (.arr items)
  | obj {members : List (PyStr × Json)}
      (keys : ∀ member ∈ members, isReserved member.1 = false ∧ isCardId member.1 = true)
      (each : ∀ member ∈ members, SafeData member.2) : SafeData (.obj members)

private theorem sanitizeItems_safe {items clean : List Json} {depth : Nat}
    (each : ∀ item ∈ items, ∀ depth clean,
      sanitizeActionData depth item = .ok clean → SafeData clean)
    (ran : sanitizeItems depth items = .ok clean) : ∀ item ∈ clean, SafeData item := by
  induction items generalizing clean with
  | nil =>
    cases ran
    simp
  | cons item rest ih =>
    rw [List.forall_mem_cons] at each
    cases first : sanitizeActionData depth item with
    | error error => simp [sanitizeItems, first] at ran
    | ok head =>
      simp only [sanitizeItems, first] at ran
      obtain ⟨tail, others, rfl⟩ := ok_of_map ran
      rw [List.forall_mem_cons]
      exact ⟨each.1 depth head first, ih each.2 others⟩

theorem sanitizeMembers_safe {members clean : List (PyStr × Json)} {depth index : Nat}
    (each : ∀ member ∈ members, ∀ depth clean,
      sanitizeActionData depth member.2 = .ok clean → SafeData clean)
    (ran : sanitizeMembers depth index members = .ok clean) : SafeData (.obj clean) := by
  suffices both : (∀ member ∈ clean, isReserved member.1 = false ∧ isCardId member.1 = true) ∧
      ∀ member ∈ clean, SafeData member.2 from .obj both.1 both.2
  induction members generalizing clean index with
  | nil =>
    cases ran
    simp
  | cons member rest ih =>
    obtain ⟨key, value⟩ := member
    rw [List.forall_mem_cons] at each
    by_cases full : index = 50
    · simp [sanitizeMembers, full] at ran
    by_cases binding : key = bindingKey
    · simp only [sanitizeMembers, full, binding, if_false, if_true] at ran
      exact ih each.2 ran
    by_cases unsafeKey : (reservedStart.isPrefixOf key || !isCardId key) = true
    · simp [sanitizeMembers, full, binding, unsafeKey] at ran
    · simp only [sanitizeMembers, full, binding, unsafeKey, if_false] at ran
      cases first : sanitizeActionData depth value with
      | error error => simp [first] at ran
      | ok head =>
        simp only [first] at ran
        obtain ⟨tail, others, rfl⟩ := ok_of_map ran
        have free : isReserved key = false ∧ isCardId key = true := by
          simp only [Bool.or_eq_true, not_or, Bool.not_eq_true] at unsafeKey
          exact ⟨unsafeKey.1, by simpa using unsafeKey.2⟩
        obtain ⟨keys, values⟩ := ih each.2 others
        exact ⟨List.forall_mem_cons.mpr ⟨free, keys⟩,
          List.forall_mem_cons.mpr ⟨each.1 depth head first, values⟩⟩

private theorem sanitizeActionData_safe {value clean : Json} {depth : Nat}
    (ran : sanitizeActionData depth value = .ok clean) : SafeData clean := by
  induction value using Json.induction generalizing depth clean with
  | null =>
    cases ran
    exact .null
  | bool value =>
    cases ran
    exact .bool value
  | int value =>
    cases ran
    exact .int value
  | float text =>
    rw [sanitizeActionData] at ran
    split at ran
    · cases ran
      exact .float text
    · cases ran
  | str text =>
    rw [sanitizeActionData] at ran
    split at ran
    · cases ran
    · rename_i bytes encoded
      split at ran
      · cases ran
      · cases ran
        exact .str ((utf8Encode_isSome_iff _).mp (by rw [encoded]; rfl))
  | arr items ih =>
    rw [sanitizeActionData] at ran
    split at ran
    · cases ran
    · split at ran
      · cases ran
      · obtain ⟨kept, ranItems, rfl⟩ := ok_of_map ran
        exact .arr (sanitizeItems_safe (fun item member depth clean => ih item member) ranItems)
  | obj members ih =>
    rw [sanitizeActionData] at ran
    split at ran
    · cases ran
    · obtain ⟨kept, ranMembers, rfl⟩ := ok_of_map ran
      exact sanitizeMembers_safe (fun member present depth clean => ih member present) ranMembers

/-- Safe data has no reserved key at any depth. -/
theorem SafeData.unreserved {value : Json} (safe : SafeData value) :
    ∀ key ∈ value.keys, isReserved key = false := by
  induction safe with
  | null => simp [Json.keys, Json.objects]
  | bool value => simp [Json.keys]
  | int value => simp [Json.keys]
  | float text => simp [Json.keys, Json.objects]
  | str encodable => simp [Json.keys]
  | arr each ih =>
    intro key member
    obtain ⟨item, present, within⟩ := Json.mem_keys_arr.mp member
    exact ih item present key within
  | obj keys each ih =>
    intro key found
    rw [Json.keys_obj, List.mem_append, List.mem_map, List.mem_flatMap] at found
    rcases found with ⟨member, present, rfl⟩ | ⟨member, present, within⟩
    · exact (keys member present).1
    · exact ih member present key within

theorem requireCardId_ok {value : Json} {field : String} {id : PyStr}
    (ran : requireCardId value field = .ok id) :
    isCardId id = true ∧ ∃ text, value = .str text ∧ id = strip text := by
  cases value with
  | str text =>
    rw [requireCardId] at ran
    split at ran
    · rename_i safe
      cases ran
      exact ⟨safe, text, rfl, rfl⟩
    · cases ran
  | _ => cases ran

/-- What is known of an input that was read. -/
structure InputRead (capabilities : Option CardCapabilities) (textInputs : Nat)
    (used : List PyStr) (form : InputForm) : Prop where
  safe : isCardId form.id = true
  fresh : form.id ∉ used
  known : ∃ name inputType, (name, form.kind, inputType) ∈ inputTypes ∧
    form.inputType = py inputType
  plain : form.kind ≠ .choice → form.choices = []
  offered : form.kind = .choice → form.choices ≠ [] ∧ (form.choices.map Prod.snd).Nodup
  maxLength : form.maxLength =
    if form.kind = .text then textMaxLength capabilities textInputs else none

private theorem findKind_mem {kind : Json} {found : InputKind × String}
    (named : findKind kind = some found) :
    ∃ name, (name, found.1, found.2) ∈ inputTypes := by
  rw [findKind, Option.map_eq_some_iff] at named
  obtain ⟨⟨name, entry⟩, first, rfl⟩ := named
  exact ⟨name, List.mem_of_find?_eq_some first⟩

private theorem readChoice_fresh {offered : List PyStr} {raw : Json} {choice : PyStr × PyStr}
    (ran : readChoice offered raw = .ok choice) : choice.2 ∉ offered := by
  cases raw with
  | obj members =>
    rw [readChoice] at ran
    split at ran
    · cases ran
    · cases ran
    · split at ran
      · cases ran
      · rename_i absent
        cases ran
        exact absent
  | _ => cases ran

private theorem readChoices_eq (offered : List PyStr) (raw : List Json) :
    readChoices offered raw = readKeyed readChoice Prod.snd offered raw := by
  induction raw generalizing offered with
  | nil => rfl
  | cons first rest ih =>
    cases head : readChoice offered first with
    | error error => simp only [readChoices, readKeyed, head]
    | ok item => simp only [readChoices, readKeyed, head, ih]

private theorem readChoices_ok {offered : List PyStr} {raw : List Json}
    {choices : List (PyStr × PyStr)}
    (ran : readChoices offered raw = .ok choices) :
    choices.length = raw.length ∧ (choices.map Prod.snd).Nodup := by
  rw [readChoices_eq] at ran
  exact ⟨length_readKeyed ran, nodup_readKeyed (fun _ _ _ => readChoice_fresh) ran⟩

private theorem readChoiceSet_ok {id : PyStr} {input : List (PyStr × Json)}
    {choices : List (PyStr × PyStr)} {multiSelect : Bool}
    (ran : readChoiceSet id input = .ok (choices, multiSelect)) :
    choices ≠ [] ∧ (choices.map Prod.snd).Nodup := by
  rw [readChoiceSet] at ran
  split at ran
  · rename_i first rest listed
    cases read : readChoices [] ((first :: rest).take 128) with
    | error error =>
      rw [read] at ran
      cases ran
    | ok known =>
      obtain ⟨count, distinct⟩ := readChoices_ok read
      rw [read] at ran
      dsimp only at ran
      split at ran
      · cases ran
        refine ⟨?_, distinct⟩
        rintro rfl
        simp at count
      · cases ran
  · cases ran

theorem readInput_ok {capabilities : Option CardCapabilities} {textInputs : Nat}
    {used : List PyStr} {raw : Json} {form : InputForm}
    (ran : readInput capabilities textInputs used raw = .ok form) :
    InputRead capabilities textInputs used form := by
  cases raw with
  | obj input =>
    rw [readInput] at ran
    obtain ⟨id, ranId, ran⟩ := ok_of_bind ran
    obtain ⟨safe, _⟩ := requireCardId_ok ranId
    obtain ⟨_, unused, ran⟩ := ok_of_bind ran
    have fresh : id ∉ used := by simpa using refuse_ok unused
    cases named : findKind (kindOf input) with
    | none => simp [named] at ran
    | some entry =>
      obtain ⟨kind, inputType⟩ := entry
      obtain ⟨name, known⟩ := findKind_mem named
      simp only [named] at ran
      obtain ⟨_, _, ran⟩ := ok_of_bind ran
      obtain ⟨label, _, ran⟩ := ok_of_bind ran
      by_cases choice : kind = .choice
      · rw [if_pos choice] at ran
        obtain ⟨⟨choices, multiSelect⟩, ranChoices, ran⟩ := ok_of_bind ran
        cases ran
        subst choice
        exact ⟨safe, fresh, ⟨name, inputType, known, rfl⟩, fun other => absurd rfl other,
          fun _ => readChoiceSet_ok ranChoices, rfl⟩
      · rw [if_neg choice] at ran
        obtain ⟨placeholder, _, ran⟩ := ok_of_bind ran
        cases ran
        exact ⟨safe, fresh, ⟨name, inputType, known, rfl⟩, fun _ => rfl,
          fun other => absurd other choice, rfl⟩
  | _ => cases ran

theorem InputRead.of_subset {capabilities : Option CardCapabilities} {textInputs : Nat}
    {used taken : List PyStr} {form : InputForm} (read : InputRead capabilities textInputs taken form)
    (kept : used ⊆ taken) : InputRead capabilities textInputs used form :=
  { read with fresh := fun old => read.fresh (kept old) }

private theorem readInputs_eq (capabilities : Option CardCapabilities) (textInputs : Nat)
    (used : List PyStr) (raw : List Json) :
    readInputs capabilities textInputs used raw =
      readKeyed (readInput capabilities textInputs) InputForm.id used raw := by
  induction raw generalizing used with
  | nil => rfl
  | cons first rest ih =>
    cases head : readInput capabilities textInputs used first with
    | error error => simp only [readInputs, readKeyed, head]
    | ok item => simp only [readInputs, readKeyed, head, ih]

private theorem readInputs_ok {capabilities : Option CardCapabilities} {textInputs : Nat}
    {used : List PyStr} {raw : List Json} {forms : List InputForm}
    (ran : readInputs capabilities textInputs used raw = .ok forms) :
    forms.length = raw.length ∧ (forms.map InputForm.id).Nodup ∧
      ∀ form ∈ forms, InputRead capabilities textInputs used form := by
  rw [readInputs_eq] at ran
  refine ⟨length_readKeyed ran, nodup_readKeyed (fun _ _ _ read => (readInput_ok read).fresh) ran,
    fun form member => ?_⟩
  obtain ⟨taken, source, kept, read⟩ := read_of_readKeyed ran form member
  exact (readInput_ok read).of_subset kept

/-- What is known of a button that was read. -/
structure ButtonRead (used : List PyStr) (form : ButtonForm) : Prop where
  safe : isCardId form.id = true
  fresh : form.id ∉ used
  data : SafeData (.obj form.data)

private theorem readData_ok {id : PyStr} {raw : Json} {data : List (PyStr × Json)}
    (ran : readData id raw = .ok data) : SafeData (.obj data) := by
  rw [readData] at ran
  obtain ⟨members, _, ran⟩ := ok_of_bind ran
  obtain ⟨clean, sanitized, ran⟩ := ok_of_bind ran
  cases encoded : goJsonBytes (.obj clean) with
  | none => simp [encoded] at ran
  | some bytes =>
    by_cases large : maxActionDataBytes < bytes.length
    · simp [encoded, large] at ran
    · simp only [encoded, large, if_false, Except.ok.injEq] at ran
      subst ran
      exact sanitizeMembers_safe (fun member present depth clean => sanitizeActionData_safe)
        sanitized

theorem readButton_ok {used : List PyStr} {raw : Json} {form : ButtonForm}
    (ran : readButton used raw = .ok form) : ButtonRead used form := by
  cases raw with
  | obj button =>
    rw [readButton] at ran
    obtain ⟨id, ranId, ran⟩ := ok_of_bind ran
    obtain ⟨safe, _⟩ := requireCardId_ok ranId
    obtain ⟨_, unused, ran⟩ := ok_of_bind ran
    obtain ⟨label, _, ran⟩ := ok_of_bind ran
    obtain ⟨data, ranData, ran⟩ := ok_of_bind ran
    obtain ⟨style, _, ran⟩ := ok_of_bind ran
    cases ran
    exact ⟨safe, by simpa using refuse_ok unused, readData_ok ranData⟩
  | _ => cases ran

theorem ButtonRead.of_subset {used taken : List PyStr} {form : ButtonForm}
    (read : ButtonRead taken form) (kept : used ⊆ taken) : ButtonRead used form :=
  { read with fresh := fun old => read.fresh (kept old) }

private theorem readButtons_eq (used : List PyStr) (raw : List Json) :
    readButtons used raw = readKeyed readButton ButtonForm.id used raw := by
  induction raw generalizing used with
  | nil => rfl
  | cons first rest ih =>
    cases head : readButton used first with
    | error error => simp only [readButtons, readKeyed, head]
    | ok item => simp only [readButtons, readKeyed, head, ih]

private theorem readButtons_ok {used : List PyStr} {raw : List Json} {forms : List ButtonForm}
    (ran : readButtons used raw = .ok forms) :
    forms.length = raw.length ∧ (forms.map ButtonForm.id).Nodup ∧
      ∀ form ∈ forms, ButtonRead used form := by
  rw [readButtons_eq] at ran
  refine ⟨length_readKeyed ran, nodup_readKeyed (fun _ _ _ read => (readButton_ok read).fresh) ran,
    fun form member => ?_⟩
  obtain ⟨taken, source, kept, read⟩ := read_of_readKeyed ran form member
  exact (readButton_ok read).of_subset kept

/-- What is known of a form whose arguments were accepted. -/
structure FormRead (args : InteractiveArgs) (capabilities : Option CardCapabilities)
    (form : CardForm) : Prop where
  trusted : ∃ text, args.bindingId = .str text ∧ form.binding = strip text
  inputs : ∃ textInputs, ∀ input ∈ form.inputs, InputRead capabilities textInputs [] input
  buttons : ∀ button ∈ form.buttons, ButtonRead (form.inputs.map InputForm.id) button
  distinct : (form.inputs.map InputForm.id ++ form.buttons.map ButtonForm.id).Nodup
  some : form.buttons ≠ []
  few : form.inputs.length ≤ maxInputs

private theorem sequence_nonempty {value : Json} {items : List Json}
    (full : Mentions.truthy value = true)
    (ran : sequence value = .ok items) : items ≠ [] := by
  cases value with
  | arr given =>
    cases ran
    simpa [Mentions.truthy, List.isEmpty_iff] using full
  | obj members =>
    cases ran
    simpa [Mentions.truthy, List.isEmpty_iff] using full
  | str text =>
    cases ran
    simpa [Mentions.truthy] using full
  | _ => cases ran

theorem readCard_ok {args : InteractiveArgs} {capabilities : Option CardCapabilities}
    {form : CardForm} (ran : readCard args capabilities = .ok form) :
    FormRead args capabilities form := by
  rw [readCard] at ran
  obtain ⟨_, _, ran⟩ := ok_of_bind ran
  obtain ⟨binding, trusted, ran⟩ := ok_of_bind ran
  obtain ⟨title, _, ran⟩ := ok_of_bind ran
  obtain ⟨_, _, ran⟩ := ok_of_bind ran
  obtain ⟨_, _, ran⟩ := ok_of_bind ran
  obtain ⟨_, full, ran⟩ := ok_of_bind ran
  obtain ⟨rawButtons, listed, ran⟩ := ok_of_bind ran
  obtain ⟨_, _, ran⟩ := ok_of_bind ran
  obtain ⟨rawInputs, _, ran⟩ := ok_of_bind ran
  obtain ⟨_, few, ran⟩ := ok_of_bind ran
  obtain ⟨text, _, ran⟩ := ok_of_bind ran
  obtain ⟨inputs, ranInputs, ran⟩ := ok_of_bind ran
  obtain ⟨buttons, ranButtons, ran⟩ := ok_of_bind ran
  cases ran
  obtain ⟨countInputs, distinctInputs, eachInput⟩ := readInputs_ok ranInputs
  obtain ⟨countButtons, distinctButtons, eachButton⟩ := readButtons_ok ranButtons
  refine ⟨(requireCardId_ok trusted).2, ⟨_, eachInput⟩, eachButton, ?_, ?_, ?_⟩
  · rw [List.nodup_append]
    refine ⟨distinctInputs, distinctButtons, ?_⟩
    rintro id known _ member rfl
    obtain ⟨button, present, rfl⟩ := List.mem_map.mp member
    exact (eachButton button present).fresh known
  · have given := sequence_nonempty (by simpa using refuse_ok full) listed
    rintro rfl
    exact given (List.length_eq_zero_iff.mp countButtons.symm)
  · rw [countInputs]
    simpa using refuse_ok few

/-- The items of a list member of a card. -/
def itemsOf (key : String) (card : List (PyStr × Json)) : List Json :=
  match Json.field (py key) card with
  | .arr items => items
  | _ => []

def typeOf (node : List (PyStr × Json)) : Json := Json.field (py "type") node

def isSubmit (node : List (PyStr × Json)) : Bool :=
  stringOf (typeOf node) = some (py "Action.Submit")

def isInput (node : List (PyStr × Json)) : Bool :=
  (stringOf (typeOf node)).any fun name => (py "Input.").isPrefixOf name

/-- The input nodes of a card, at any depth of its body and in order. -/
def inputNodes (card : List (PyStr × Json)) : List (List (PyStr × Json)) :=
  (Json.arr (itemsOf "body" card)).objects.filter isInput

/-- An action that carries this binding and no other reserved key. -/
def CarriesBinding (binding : PyStr) (action : Json) : Prop :=
  ∃ members data, action = .obj members ∧ isSubmit members = true ∧
    Json.field (py "data") members = .obj data ∧ Json.field bindingKey data = .str binding ∧
    (Json.obj data).keys.filter isReserved = [bindingKey]

/-- The card and its tables are bound to the trusted id. -/
structure Sealed (args : InteractiveArgs) (capabilities : Option CardCapabilities)
    (result : InteractiveCard) : Prop where
  trusted : ∃ text, args.bindingId = .str text ∧ result.bindingId = strip text
  bound : ∀ action ∈ itemsOf "actions" result.card, CarriesBinding result.bindingId action
  noHidden : ∀ node ∈ (Json.arr (itemsOf "body" result.card)).objects, isSubmit node = false
  distinct : (result.inputIds ++ result.actionLabels.map Prod.fst).Nodup
  safe : ∀ id ∈ result.inputIds ++ result.actionLabels.map Prod.fst, isCardId id = true
  inputIds : (inputNodes result.card).map (Json.field (py "id")) = result.inputIds.map .str
  actionIds : (itemsOf "actions" result.card).map (fun action =>
      match action with
      | .obj members => Json.field (py "id") members
      | _ => .null) = result.actionLabels.map fun label => .str label.1
  limits : WithinLimits result.card result.plain capabilities cardProfileV2

theorem field_head (key : PyStr) (value : Json) (rest : List (PyStr × Json)) :
    Json.field key ((key, value) :: rest) = value := by
  simp [Json.field, Dict.lookup]

theorem field_next {key other : PyStr} (different : other ≠ key) (value : Json)
    (rest : List (PyStr × Json)) :
    Json.field key ((other, value) :: rest) = Json.field key rest := by
  simp [Json.field, Dict.lookup, different]

/-- A member with a text or a number adds no object. -/
theorem optionalMember_objects {Value : Type} (key : String) (value : Option Value)
    {render : Value → Json} (leaf : ∀ value, (render value).objects = []) :
    ((optionalMember key (value.map render)).flatMap fun member => member.2.objects) = [] := by
  cases value with
  | none => rfl
  | some value => simp [optionalMember, leaf]

theorem choiceNodes_objects (choices : List (PyStr × PyStr)) :
    (Json.arr (choices.map fun choice => .obj (choiceNode choice))).objects =
      choices.map choiceNode := by
  have each : ∀ choice, (Json.obj (choiceNode choice)).objects = [choiceNode choice] := by
    intro choice
    simp [Json.objects_obj, choiceNode]
  rw [Json.objects_arr, List.flatMap_map, List.map_eq_flatMap]
  simp only [each]

private theorem node_objects (form : InputForm) :
    (Json.obj form.node).objects =
      form.node :: if form.kind = .choice then form.choices.map choiceNode else [] := by
  have label := optionalMember_objects "label" form.label Json.objects_str
  have placeholder := optionalMember_objects "placeholder" form.placeholder Json.objects_str
  have maxLength := optionalMember_objects "maxLength" form.maxLength Json.objects_int
  rw [Json.objects_obj]
  congr 1
  rw [InputForm.node, List.flatMap_append, List.flatMap_append, List.flatMap_append,
    List.flatMap_append, label, placeholder, maxLength]
  by_cases choice : form.kind = .choice
  · by_cases multiSelect : form.multiSelect
    · simp [choice, multiSelect, choiceNodes_objects]
    · simp [choice, multiSelect, choiceNodes_objects]
  · simp [choice]

theorem typeOf_node (form : InputForm) : typeOf form.node = .str form.inputType := by
  simp only [typeOf, InputForm.node, List.cons_append]
  exact field_head _ _ _

theorem idOf_node (form : InputForm) : Json.field (py "id") form.node = .str form.id := by
  simp only [InputForm.node, List.cons_append]
  rw [field_next (by decide), field_head]

private theorem typeOf_choice (choice : PyStr × PyStr) : typeOf (choiceNode choice) = .null := by
  rw [typeOf, choiceNode, field_next (by decide), field_next (by decide)]
  rfl

theorem InputRead.isInput {capabilities : Option CardCapabilities} {textInputs : Nat}
    {used : List PyStr} {form : InputForm} (read : InputRead capabilities textInputs used form) :
    isInput form.node = true ∧ isSubmit form.node = false := by
  obtain ⟨name, inputType, known, same⟩ := read.known
  have every : ∀ entry ∈ inputTypes, (py "Input.").isPrefixOf (py entry.2.2) = true ∧
      py entry.2.2 ≠ py "Action.Submit" := by decide
  obtain ⟨input, noSubmit⟩ := every _ known
  simp only [Rendering.isInput, isSubmit, typeOf_node, stringOf, same]
  exact ⟨input, by simpa using noSubmit⟩

theorem not_input_of_text {node : List (PyStr × Json)}
    (block : typeOf node = .str (py "TextBlock")) : isInput node = false ∧ isSubmit node = false := by
  simp only [isInput, isSubmit, block, stringOf]
  decide

theorem not_input_of_choice (choice : PyStr × PyStr) :
    isInput (choiceNode choice) = false ∧ isSubmit (choiceNode choice) = false := by
  simp [isInput, isSubmit, typeOf_choice, stringOf]

/-- The objects of the body are its blocks, its inputs and their choices. -/
theorem body_objects (form : CardForm) :
    (Json.arr form.body).objects =
      (titleBlock form.title).objects ++ (form.text.toList.flatMap fun text =>
        (bodyBlock text).objects) ++
      form.inputs.flatMap fun input =>
        input.node :: if input.kind = .choice then input.choices.map choiceNode else [] := by
  rw [Json.objects_arr, CardForm.body, List.cons_append, List.flatMap_cons, List.flatMap_append,
    List.flatMap_map, List.append_assoc]
  simp only [node_objects]
  cases form.text <;> rfl

theorem titleBlock_type (title : PyStr) :
    ∀ node ∈ (titleBlock title).objects, typeOf node = .str (py "TextBlock") := by
  intro node member
  simp only [titleBlock, Json.objects_obj, List.flatMap_cons, List.flatMap_nil, Json.objects_str,
    Json.objects_bool, List.append_nil, List.mem_singleton] at member
  rw [member]
  exact field_head _ _ _

theorem bodyBlock_type (text : PyStr) :
    ∀ node ∈ (bodyBlock text).objects, typeOf node = .str (py "TextBlock") := by
  intro node member
  simp only [bodyBlock, Json.objects_obj, List.flatMap_cons, List.flatMap_nil, Json.objects_str,
    Json.objects_bool, List.append_nil, List.mem_singleton] at member
  rw [member]
  exact field_head _ _ _

/-- An object of the body is a text block, the node of an input or one of its choices. -/
private theorem mem_body {form : CardForm} {node : List (PyStr × Json)}
    (member : node ∈ (Json.arr form.body).objects) :
    typeOf node = .str (py "TextBlock") ∨ (∃ input ∈ form.inputs, node = input.node) ∨
      ∃ choice, node = choiceNode choice := by
  rw [body_objects, List.mem_append, List.mem_append] at member
  rcases member with (title | text) | input
  · exact .inl (titleBlock_type _ node title)
  · obtain ⟨text, _, within⟩ := List.mem_flatMap.mp text
    exact .inl (bodyBlock_type text node within)
  · obtain ⟨input, present, within⟩ := List.mem_flatMap.mp input
    rcases List.mem_cons.mp within with same | choice
    · exact .inr (.inl ⟨input, present, same⟩)
    · split at choice
      · obtain ⟨offered, _, rfl⟩ := List.mem_map.mp choice
        exact .inr (.inr ⟨offered, rfl⟩)
      · cases choice

theorem FormRead.noHidden {args : InteractiveArgs} {capabilities : Option CardCapabilities}
    {form : CardForm} (read : FormRead args capabilities form) :
    ∀ node ∈ (Json.arr form.body).objects, isSubmit node = false := by
  intro node member
  obtain ⟨textInputs, inputs⟩ := read.inputs
  rcases mem_body member with block | ⟨input, present, rfl⟩ | ⟨choice, rfl⟩
  · exact (not_input_of_text block).2
  · exact (inputs input present).isInput.2
  · exact (not_input_of_choice choice).2

theorem itemsOf_body (form : CardForm) : itemsOf "body" form.card = form.body := by
  rw [itemsOf, CardForm.card, field_next (by decide), field_next (by decide),
    field_next (by decide), field_head]

theorem itemsOf_actions (form : CardForm) : itemsOf "actions" form.card = form.actions := by
  rw [itemsOf, CardForm.card, field_next (by decide), field_next (by decide),
    field_next (by decide), field_next (by decide), field_head]

/-- The input nodes of the card are those of the inputs, in order. -/
theorem FormRead.inputNodes {args : InteractiveArgs} {capabilities : Option CardCapabilities}
    {form : CardForm} (read : FormRead args capabilities form) :
    inputNodes form.card = form.inputs.map InputForm.node := by
  obtain ⟨textInputs, inputs⟩ := read.inputs
  have blocks : ∀ nodes : List (List (PyStr × Json)),
      (∀ node ∈ nodes, typeOf node = .str (py "TextBlock")) → nodes.filter isInput = [] := by
    intro nodes typed
    rw [List.filter_eq_nil_iff]
    intro node member
    simp [(not_input_of_text (typed node member)).1]
  have texts : ∀ node ∈ form.text.toList.flatMap fun text => (bodyBlock text).objects,
      typeOf node = .str (py "TextBlock") := by
    intro node member
    obtain ⟨text, _, within⟩ := List.mem_flatMap.mp member
    exact bodyBlock_type text node within
  rw [Rendering.inputNodes, itemsOf_body, body_objects, List.filter_append, List.filter_append,
    blocks _ (titleBlock_type form.title), blocks _ texts, List.nil_append, List.nil_append]
  generalize form.inputs = forms at inputs
  induction forms with
  | nil => rfl
  | cons first rest ih =>
    rw [List.forall_mem_cons] at inputs
    have choices : (if first.kind = .choice then first.choices.map choiceNode else []).filter
        isInput = [] := by
      rw [List.filter_eq_nil_iff]
      intro node member
      split at member
      · obtain ⟨choice, _, rfl⟩ := List.mem_map.mp member
        simp [(not_input_of_choice choice).1]
      · cases member
    rw [List.flatMap_cons, List.cons_append, List.filter_cons_of_pos inputs.1.isInput.1,
      List.filter_append, choices, ih inputs.2]
    rfl

private theorem field_append_last {key : PyStr} {members : List (PyStr × Json)} (value : Json)
    (absent : ∀ member ∈ members, member.1 ≠ key) :
    Json.field key (members ++ [(key, value)]) = value := by
  induction members with
  | nil => exact field_head key value []
  | cons first rest ih =>
    rw [List.forall_mem_cons] at absent
    rw [List.cons_append, field_next absent.1, ih absent.2]

/-- Every action carries the binding, which is its only reserved key. -/
theorem ButtonRead.carriesBinding {used : List PyStr} {form : ButtonForm}
    (read : ButtonRead used form) (binding : PyStr) :
    CarriesBinding binding (.obj (form.action binding)) := by
  have unreserved := read.data.unreserved
  rw [Json.keys_obj] at unreserved
  refine ⟨form.action binding, form.boundData binding, rfl, ?_, ?_, ?_, ?_⟩
  · simp only [isSubmit, typeOf, ButtonForm.action, List.cons_append, field_head, stringOf]
    decide
  · simp only [ButtonForm.action, List.cons_append]
    rw [field_next (by decide), field_next (by decide), field_next (by decide), field_head]
  · refine field_append_last _ fun member present same => ?_
    have free := unreserved member.1 (List.mem_append_left _ (List.mem_map_of_mem present))
    rw [same] at free
    exact absurd free (by decide)
  · rw [ButtonForm.boundData, Json.keys_obj]
    have names : (form.data.map Prod.fst).filter isReserved = [] := by
      rw [List.filter_eq_nil_iff]
      intro key member
      simp [unreserved key (List.mem_append_left _ member)]
    have below : (form.data.flatMap fun member => member.2.keys).filter isReserved = [] := by
      rw [List.filter_eq_nil_iff]
      intro key member
      simp [unreserved key (List.mem_append_right _ member)]
    have own : isReserved bindingKey = true := by decide
    rw [List.map_append, List.flatMap_append, List.filter_append, List.filter_append,
      List.filter_append, names, below]
    simp [own, Json.keys]

/-- A form that is accepted is sealed: only the renderer chooses the binding, and the tables
of the result are those of its card. -/
theorem builtCard_sealed {args : InteractiveArgs} {capabilities : Option CardCapabilities}
    {result : InteractiveCard} (built : buildInteractiveCard args capabilities = .ok result) :
    Sealed args capabilities result := by
  cases ran : readCard args capabilities with
  | error error => simp [buildInteractiveCard, ran] at built
  | ok form =>
    have read := readCard_ok ran
    cases checked : validateCardLimits form.card form.plain capabilities cardProfileV2 with
    | error error => simp [buildInteractiveCard, ran, checked] at built
    | ok passed =>
      simp only [buildInteractiveCard, ran, checked, Except.ok.injEq] at built
      subst built
      obtain ⟨textInputs, inputs⟩ := read.inputs
      have labels : (form.buttons.map fun button => (button.id, button.label)).map Prod.fst =
          form.buttons.map ButtonForm.id := by simp [Function.comp_def]
      refine ⟨read.trusted, ?_, ?_, ?_, ?_, ?_, ?_, validateCardLimits_ok.mp checked⟩
      · intro action member
        rw [itemsOf_actions] at member
        obtain ⟨button, present, rfl⟩ := List.mem_map.mp member
        exact (read.buttons button present).carriesBinding form.binding
      · rw [itemsOf_body]
        exact read.noHidden
      · rw [labels]
        exact read.distinct
      · rw [labels]
        intro id member
        rcases List.mem_append.mp member with ofInput | ofButton
        · obtain ⟨input, present, rfl⟩ := List.mem_map.mp ofInput
          exact (inputs input present).safe
        · obtain ⟨button, present, rfl⟩ := List.mem_map.mp ofButton
          exact (read.buttons button present).safe
      · rw [read.inputNodes]
        simp [idOf_node, Function.comp_def]
      · rw [itemsOf_actions]
        simp only [CardForm.actions, List.map_map, Function.comp_def, ButtonForm.action,
          List.cons_append]
        apply List.map_congr_left
        intro button _
        rw [field_next (by decide), field_head]

/-- A form with one input and a button whose data tries to bind itself. -/
def sampleArgs : InteractiveArgs where
  title := .str (py "Deploy?")
  buttons := .arr [.obj [(py "id", .str (py "go")), (py "label", .str (py "Go")),
    (py "data", .obj [(bindingKey, .str (py "forged")), (py "env", .str (py "prod"))])]]
  bindingId := .str (py "b1")
  text := .null
  inputs := .arr [.obj [(py "id", .str (py "why"))]]

theorem builtCard_sealed_sample : ∃ result, buildInteractiveCard sampleArgs none = .ok result ∧
    Sealed sampleArgs none result := by
  have built : (buildInteractiveCard sampleArgs none).isOk = true := by decide +kernel
  cases ran : buildInteractiveCard sampleArgs none with
  | error error =>
    rw [ran] at built
    cases built
  | ok result => exact ⟨result, rfl, builtCard_sealed ran⟩

end OctoChannel.Rendering
