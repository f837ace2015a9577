import Mathlib.Algebra.Order.BigOperators.Group.List
import OctoChannel.Rendering.Submission

namespace OctoChannel.Rendering

open Foundation Identity Cards

/-- No character weighs more than the peak, and some scalar value weighs as much. -/
structure Peak (weight : CodePoint → Nat) (peak : Nat) : Prop where
  bound : ∀ point, weight point ≤ peak
  attained : ∃ point, point.toChar?.isSome ∧ weight point = peak

theorem peak_pointBytes : Peak pointBytes 4 :=
  ⟨pointBytes_le, Fin.ofNat 0x110000 0x1f600, by decide, by decide⟩

theorem peak_escapedBytes : Peak Json.escapedBytes 6 :=
  ⟨Json.escapedBytes_le, Fin.ofNat 0x110000 1, by decide, by decide⟩

def heaviest (weights : List Nat) : Nat := weights.foldr max 0

private theorem le_heaviest {weights : List Nat} {weight : Nat} (member : weight ∈ weights) :
    weight ≤ heaviest weights := by
  induction weights with
  | nil => cases member
  | cons first rest ih =>
    rcases List.mem_cons.mp member with rfl | later
    · exact Nat.le_max_left _ _
    · exact (ih later).trans (Nat.le_max_right _ _)

private theorem heaviest_mem {weights : List Nat} (some : weights ≠ []) :
    heaviest weights ∈ weights := by
  induction weights with
  | nil => exact absurd rfl some
  | cons first rest ih =>
    cases rest with
    | nil => simp [heaviest]
    | cons next more =>
      rcases Nat.le_total first (heaviest (next :: more)) with below | above
      · have same : heaviest (first :: next :: more) = heaviest (next :: more) :=
          Nat.max_eq_right below
        rw [same]
        exact List.mem_cons_of_mem _ (ih (by simp))
      · have same : heaviest (first :: next :: more) = first := Nat.max_eq_left above
        rw [same]
        exact List.mem_cons_self

theorem weigh_joined (weight : CodePoint → Nat) (separator : PyStr) {parts : List PyStr}
    (some : parts ≠ []) :
    weigh weight (joined separator parts) + weigh weight separator =
      (parts.map fun part => weigh weight part + weigh weight separator).sum := by
  induction parts with
  | nil => exact absurd rfl some
  | cons first rest ih =>
    cases rest with
    | nil => simp [joined]
    | cons next more =>
      have later := ih (by simp)
      simp only [joined, List.intersperse, List.flatten_cons, weigh_append, List.map_cons,
        List.sum_cons] at later ⊢
      omega

/-- The more values are chosen the heavier is their join. -/
private theorem weigh_joined_le (weight : CodePoint → Nat) {chosen offered : List PyStr}
    (distinct : chosen.Nodup) (among : chosen ⊆ offered) :
    weigh weight (joined (py ",") chosen) ≤ weigh weight (joined (py ",") offered) := by
  by_cases none : chosen = []
  · subst none
    exact Nat.zero_le _
  · have some : offered ≠ [] := by
      rintro rfl
      exact none (List.subset_nil.mp among)
    obtain ⟨picked, same, sub⟩ := List.subperm_of_subset distinct among
    have smaller : (picked.map fun part => weigh weight part + weigh weight (py ",")).sum ≤
        (offered.map fun part => weigh weight part + weigh weight (py ",")).sum :=
      (sub.map _).sum_le_sum fun _ _ => Nat.zero_le _
    have equal := (same.map fun part => weigh weight part + weigh weight (py ",")).sum_eq
    have left := weigh_joined weight (py ",") none
    have right := weigh_joined weight (py ",") some
    omega

/-- The weight of an answer to this input is bounded at all. -/
def InputForm.Bounded (form : InputForm) : Prop :=
  form.kind = .choice ∨ (form.kind = .text ∧ form.maxLength.isSome = true)

/-- The heaviest answer to a bounded input. -/
def InputForm.worst (weight : CodePoint → Nat) (peak : Nat) (form : InputForm) : Nat :=
  if form.kind = .choice then
    if form.multiSelect then weigh weight (joined (py ",") (form.choices.map Prod.snd))
    else heaviest ((form.choices.map Prod.snd).map (weigh weight))
  else (form.maxLength.getD 0).toNat * peak

theorem InputForm.weigh_le_worst {form : InputForm} {weight : CodePoint → Nat} {peak : Nat}
    (peaks : Peak weight peak) (bounded : form.Bounded) {value : PyStr}
    (allowed : form.Allows value) : weigh weight value ≤ form.worst weight peak := by
  rw [InputForm.Allows] at allowed
  rw [InputForm.worst]
  rcases bounded with choice | ⟨text, limited⟩
  · rw [if_pos choice] at allowed ⊢
    by_cases multiSelect : form.multiSelect
    · rw [if_pos multiSelect] at allowed ⊢
      obtain ⟨chosen, distinct, among, rfl⟩ := allowed
      exact weigh_joined_le weight distinct among
    · rw [if_neg multiSelect] at allowed ⊢
      exact le_heaviest (List.mem_map_of_mem allowed)
  · have noChoice : form.kind ≠ .choice := by
      rw [text]
      decide
    rw [if_neg noChoice] at allowed ⊢
    obtain ⟨limit, given⟩ := Option.isSome_iff_exists.mp limited
    have short := allowed.2 text limit given
    have within : value.length ≤ limit.toNat := by omega
    rw [given, Option.getD_some]
    exact (weigh_le weight fun point _ => peaks.bound point).trans (Nat.mul_le_mul_right peak within)

/-- The heaviest answer is an answer. -/
theorem InputRead.worst_attained {capabilities : Option CardCapabilities} {textInputs : Nat}
    {used : List PyStr} {form : InputForm} (read : InputRead capabilities textInputs used form)
    {weight : CodePoint → Nat} {peak : Nat} (peaks : Peak weight peak) (bounded : form.Bounded) :
    ∃ value, form.Allows value ∧ weigh weight value = form.worst weight peak := by
  simp only [InputForm.Allows, InputForm.worst]
  rcases bounded with choice | ⟨text, limited⟩
  · obtain ⟨offered, distinct⟩ := read.offered choice
    simp only [if_pos choice]
    by_cases multiSelect : form.multiSelect
    · simp only [if_pos multiSelect]
      exact ⟨_, ⟨_, distinct, List.Subset.refl _, rfl⟩, rfl⟩
    · simp only [if_neg multiSelect]
      have among := @heaviest_mem ((form.choices.map Prod.snd).map (weigh weight)) (by simpa using offered)
      obtain ⟨value, member, same⟩ := List.mem_map.mp among
      exact ⟨value, member, same⟩
  · have noChoice : form.kind ≠ .choice := by
      rw [text]
      decide
    obtain ⟨limit, given⟩ := Option.isSome_iff_exists.mp limited
    obtain ⟨point, scalar, heavy⟩ := peaks.attained
    have positive : 0 ≤ limit := by
      have known := read.maxLength
      rw [if_pos text, given, textMaxLength] at known
      split at known
      · cases known
      · cases known
      · rw [Option.some.inj known]
        exact (by decide : (0 : Int) ≤ 1).trans (le_max_left _ _)
    simp only [if_neg noChoice, given, Option.getD_some]
    refine ⟨List.replicate limit.toNat point, ⟨?_, ?_⟩, ?_⟩
    · intro other member
      rw [List.eq_of_mem_replicate member]
      exact scalar
    · intro _ other same
      rw [← Option.some.inj same, List.length_replicate]
      omega
    · rw [weigh_replicate, heavy]

/-- An input without a bound allows arbitrarily heavy answers. -/
theorem InputForm.unbounded_allows {form : InputForm} (unbounded : ¬ form.Bounded) (size : Nat) :
    ∃ value, form.Allows value ∧ size ≤ weigh pointBytes value := by
  rw [InputForm.Bounded, not_or, not_and] at unbounded
  refine ⟨List.replicate size (ch 'a'), ?_, ?_⟩
  · rw [InputForm.Allows, if_neg unbounded.1]
    refine ⟨?_, ?_⟩
    · intro point member
      rw [List.eq_of_mem_replicate member]
      decide
    · intro text limit given
      exact absurd (by rw [given]; rfl) (unbounded.2 text)
  · rw [weigh_replicate]
    exact Nat.le_mul_of_pos_right size (by decide)

/-- Every input has an answer. -/
theorem InputRead.exists_allowed {capabilities : Option CardCapabilities} {textInputs : Nat}
    {used : List PyStr} {form : InputForm} (read : InputRead capabilities textInputs used form) :
    ∃ value, form.Allows value := by
  by_cases bounded : form.Bounded
  · obtain ⟨value, allowed, _⟩ := read.worst_attained peak_pointBytes bounded
    exact ⟨value, allowed⟩
  · obtain ⟨value, allowed, _⟩ := InputForm.unbounded_allows bounded 0
    exact ⟨value, allowed⟩

/-- The bytes of one field of the printed inputs. -/
def fieldBytes (key : PyStr) (escaped : Nat) : Nat :=
  weigh pointBytes (Json.printStr key) + 1 + (2 + escaped) + 1

def inputsBytes (inputs : List (PyStr × PyStr)) : Nat :=
  Json.objectBytes (inputs.map fun input => fieldBytes input.1 (weigh Json.escapedBytes input.2))

def inputsJson (inputs : List (PyStr × PyStr)) : Json :=
  .obj (inputs.map fun input => (input.1, .str input.2))

private theorem memberBytes_str (input : PyStr × PyStr) :
    Json.memberBytes (input.1, .str input.2) =
      fieldBytes input.1 (weigh Json.escapedBytes input.2) := by
  rw [Json.memberBytes, Json.print, Json.weigh_printStr input.2]
  rfl

theorem weigh_inputs (inputs : List (PyStr × PyStr)) :
    weigh pointBytes (inputsJson inputs).print = inputsBytes inputs := by
  rw [inputsJson, Json.weigh_print_obj, List.map_map, inputsBytes]
  simp only [Function.comp_def, memberBytes_str]

/-- Sorting the keys does not change the size. -/
private theorem weigh_inputs_sorted (inputs : List (PyStr × PyStr)) :
    weigh pointBytes (inputsJson inputs).sortKeys.print = inputsBytes inputs := by
  rw [← weigh_inputs, inputsJson, Json.sortKeys_obj, Json.weigh_print_obj, Json.weigh_print_obj,
    List.map_map]
  refine Json.objectBytes_perm (((List.perm_insertionSort _ _).trans ?_).map _)
  exact List.Perm.refl _

private theorem weigh_envelope (inputs : List (PyStr × PyStr)) (data : List (PyStr × Json)) :
    weigh pointBytes (envelope inputs data).print =
      19 + inputsBytes inputs + weigh pointBytes (Json.obj data).print := by
  have first : weigh pointBytes (Json.printStr (py "inputs")) = 8 := by decide
  have second : weigh pointBytes (Json.printStr (py "data")) = 6 := by decide
  have inner := weigh_inputs inputs
  rw [inputsJson] at inner
  rw [envelope, Json.weigh_print_obj]
  simp only [List.map_cons, List.map_nil, Json.objectBytes, Json.memberBytes, first, second, inner,
    reduceCtorEq, if_false, List.sum_cons, List.sum_nil]
  omega

/-- The inputs of a click whose keys and texts are in order. -/
structure WellFormed (inputs : List (PyStr × PyStr)) : Prop where
  keys : ∀ input ∈ inputs, isCardId input.1 = true
  values : ∀ input ∈ inputs, Encodable input.2
  few : inputs.length ≤ maxEventInputFields

private theorem encodable_cardId {id : PyStr} (safe : isCardId id = true) : Encodable id := by
  intro point member
  simp only [isCardId, decide_eq_true_eq, List.all_eq_true] at safe
  have values : (ch 'Z').val = 90 ∧ (ch 'z').val = 122 ∧ (ch '9').val = 57 := ⟨rfl, rfl, rfl⟩
  rcases safe.2 point member with ⟨_, upper⟩ | ⟨_, lower⟩ | ⟨_, digit⟩ | mark
  · rw [Fin.le_def] at upper
    exact Json.toChar?_of_lt (by omega)
  · rw [Fin.le_def] at lower
    exact Json.toChar?_of_lt (by omega)
  · rw [Fin.le_def] at digit
    exact Json.toChar?_of_lt (by omega)
  · exact encodable_py "_.:-" point mark

theorem WellFormed.scalar {inputs : List (PyStr × PyStr)} (formed : WellFormed inputs) :
    Json.Scalar (inputsJson inputs) := by
  refine .obj ?_ ?_
  · intro member present
    obtain ⟨input, within, rfl⟩ := List.mem_map.mp present
    exact encodable_cardId (formed.keys input within)
  · intro member present
    obtain ⟨input, within, rfl⟩ := List.mem_map.mp present
    exact .str (formed.values input within)

private theorem inputMatches_iff {session : CardSession} {inputs : List (PyStr × PyStr)}
    (formed : ∀ input ∈ inputs, isCardId input.1 = true ∧ Encodable input.2)
    (known : ∀ input ∈ inputs, input.1 ∈ session.inputIds) :
    inputMatches session inputs = .ok true ↔ ∀ input ∈ inputs,
      (weigh pointBytes input.2 : Int) ≤ limitOr session.maxInputTextBytes 4096 := by
  induction inputs with
  | nil => simp [inputMatches]
  | cons first rest ih =>
    rw [List.forall_mem_cons] at formed known ⊢
    obtain ⟨bytes, encoded, size⟩ := utf8Encode_of_encodable formed.1.2
    rw [inputMatches]
    simp only [formed.1.1, known.1, encoded, size, Bool.not_true, not_true_eq_false,
      decide_false, Bool.or_self, Bool.false_eq_true, if_false]
    by_cases large : limitOr session.maxInputTextBytes 4096 < (weigh pointBytes first.2 : Int)
    · rw [if_pos large]
      exact iff_of_false (by simp) fun all => absurd all.1 (Int.not_le.mpr large)
    · rw [if_neg large, ih formed.2 known.2]
      exact ⟨fun rest => ⟨Int.not_lt.mp large, rest⟩, fun all => all.2⟩

private theorem inputsOf_iff {inputs : List (PyStr × PyStr)}
    (formed : ∀ input ∈ inputs, isCardId input.1 = true ∧ Encodable input.2) :
    inputsOf (inputs.map fun input => (input.1, .str input.2)) = some inputs ↔
      ∀ input ∈ inputs, weigh pointBytes input.2 ≤ maxEventInputValueBytes := by
  induction inputs with
  | nil => simp [inputsOf]
  | cons first rest ih =>
    rw [List.forall_mem_cons] at formed ⊢
    obtain ⟨bytes, encoded, size⟩ := utf8Encode_of_encodable formed.1.2
    rw [List.map_cons, inputsOf]
    simp only [formed.1.1, inputValue, encoded, size, Bool.not_true, Bool.false_eq_true, if_false]
    by_cases large : maxEventInputValueBytes < weigh pointBytes first.2
    · rw [if_pos large]
      exact iff_of_false (by simp) fun all => absurd all.1 (Nat.not_le.mpr large)
    · rw [if_neg large, ← ih formed.2, Option.map_eq_some_iff]
      constructor
      · rintro ⟨others, read, same⟩
        rw [List.cons.injEq] at same
        exact ⟨Nat.not_lt.mp large, same.2 ▸ read⟩
      · rintro ⟨_, read⟩
        exact ⟨rest, read, rfl⟩

/-- The sizes of a submission stay within the budgets of the verifier and the parser. -/
structure Fits (capabilities : CardCapabilities) (inputs : List (PyStr × PyStr))
    (data : List (PyStr × Json)) : Prop where
  values : ∀ input ∈ inputs,
    (weigh pointBytes input.2 : Int) ≤ limitOr capabilities.maxInputTextBytes 4096 ∧
      weigh pointBytes input.2 ≤ maxEventInputValueBytes
  together : (inputsBytes inputs : Int) ≤ limitOr capabilities.maxInputsBytes 16384
  envelope : 19 + inputsBytes inputs + weigh pointBytes (Json.obj data).print ≤
    maxEventEnvelopeBytes

/-- What the verifier checks besides the sizes. -/
structure RightPress (session : CardSession) (action : CardAction) : Prop where
  messageId : action.messageId = session.messageId
  channel : channelMatches action session = true
  channelType : action.channelType = session.channelType
  operator : action.operatorUid = session.requesterUid
  labelled : action.actionId ∈ session.actionLabels.map Prod.fst
  binding : bindingMatches action session = true
  known : ∀ input ∈ action.inputs, input.1 ∈ session.inputIds

private theorem actionMatchesSession_iff {session : CardSession} {action : CardAction}
    (right : RightPress session action) (formed : WellFormed action.inputs) :
    actionMatchesSession action session = .ok true ↔
      (∀ input ∈ action.inputs,
        (weigh pointBytes input.2 : Int) ≤ limitOr session.maxInputTextBytes 4096) ∧
      (inputsBytes action.inputs : Int) ≤ limitOr session.maxInputsBytes 16384 := by
  have matched := inputMatches_iff
    (fun input member => ⟨formed.keys input member, formed.values input member⟩) right.known
  obtain ⟨bytes, encoded, size⟩ := utf8Encode_of_encodable formed.scalar.sortKeys.print
  rw [weigh_inputs_sorted] at size
  rw [inputsJson] at encoded
  rw [← matched, actionMatchesSession, if_neg]
  · cases checked : inputMatches session action.inputs with
    | error error => simp
    | ok passed =>
      cases passed with
      | false => simp
      | true => simp [encoded, size]
  · simp [right.messageId, right.channel, right.channelType, right.operator, right.labelled,
      right.binding]

private theorem withinEvent_iff {action : CardAction} (formed : WellFormed action.inputs)
    (scalar : Json.Scalar (.obj action.data)) :
    WithinEvent action ↔
      (∀ input ∈ action.inputs, weigh pointBytes input.2 ≤ maxEventInputValueBytes) ∧
      19 + inputsBytes action.inputs + weigh pointBytes (Json.obj action.data).print ≤
        maxEventEnvelopeBytes := by
  have read := inputsOf_iff
    (fun input member => ⟨formed.keys input member, formed.values input member⟩)
  have whole : Json.Scalar (envelope action.inputs action.data) := by
    refine .obj ?_ ?_
    · simp [encodable_py]
    · simp only [List.forall_mem_cons, List.not_mem_nil, false_imp_iff, implies_true, and_true]
      exact ⟨formed.scalar, scalar⟩
  obtain ⟨bytes, encoded, size⟩ := utf8Encode_of_encodable whole.print
  have few : ¬ maxEventInputFields <
      (action.inputs.map fun input => (input.1, Json.str input.2)).length := by
    rw [List.length_map]
    exact Nat.not_lt.mpr formed.few
  rw [weigh_envelope] at size
  rw [WithinEvent, actionInputs, if_neg few, read, encoded, ← size]
  simp

/-- A right and well-formed click passes exactly when its sizes fit. -/
theorem passes_iff {capabilities : CardCapabilities} {result : InteractiveCard}
    {session : CardSession} {action : CardAction}
    (registered : Registered capabilities result session) (right : RightPress session action)
    (formed : WellFormed action.inputs) (scalar : Json.Scalar (.obj action.data)) :
    actionMatchesSession action session = .ok true ∧ WithinEvent action ↔
      Fits capabilities action.inputs action.data := by
  rw [actionMatchesSession_iff right formed, withinEvent_iff formed scalar,
    registered.maxInputTextBytes, registered.maxInputsBytes]
  constructor
  · rintro ⟨⟨texts, together⟩, values, whole⟩
    exact ⟨fun input member => ⟨texts input member, values input member⟩, together, whole⟩
  · intro fits
    exact ⟨⟨fun input member => (fits.values input member).1, fits.together⟩,
      fun input member => (fits.values input member).2, fits.envelope⟩

end OctoChannel.Rendering
