import OctoChannel.Cards.Actions
import OctoChannel.Foundation.JsonSpaced

namespace OctoChannel.Cards

open Foundation Identity

/-- The data without the reserved keys. -/
def publicData (data : List (PyStr × Json)) : List (PyStr × Json) :=
  data.filter fun member => !(py "_octo_").isPrefixOf member.1

def inputsOfAction (action : CardAction) : Json :=
  .obj (action.inputs.map fun input => (input.1, .str input.2))

def actionHeader : PyStr := py "[Octo card action]"

/-- `format_card_action_text` -/
def formatCardActionText (action : CardAction) : PyStr :=
  actionHeader ++ ch '\n' :: (py "action_id=" ++ (Json.str action.actionId).print) ++
    ch '\n' :: (py "inputs=" ++ (inputsOfAction action).sortKeys.print) ++
    ch '\n' :: (py "data=" ++ (Json.obj (publicData action.data)).sortKeys.print)

variable {runtime : Json.Runtime}

theorem newline_not_mem_printStr (text : PyStr) : ch '\n' ∉ Json.printStr text := by
  rw [Json.printStr, List.mem_append, List.mem_cons, List.mem_flatMap]
  rintro ((quote | ⟨point, -, inside⟩) | quote)
  · exact absurd quote (by decide)
  · exact Json.newline_not_mem_escape point inside
  · exact absurd quote (by decide)

private theorem newline_not_mem_printItems {items : List Json}
    (plain : ∀ item ∈ items, ch '\n' ∉ item.print) : ch '\n' ∉ Json.printItems items := by
  induction items with
  | nil => decide
  | cons item rest ih =>
    rw [List.forall_mem_cons] at plain
    rw [Json.printItems, List.cons_append, List.mem_cons, List.mem_append]
    rintro (comma | inside | after)
    · exact absurd comma (by decide)
    · exact plain.1 inside
    · exact ih plain.2 after

/-- A member with what is printed behind it. -/
theorem newline_not_mem_member {name rest : PyStr} {value : Json} (plain : ch '\n' ∉ value.print)
    (others : ch '\n' ∉ rest) :
    ch '\n' ∉ Json.printStr name ++ ch ':' :: (value.print ++ rest) := by
  rw [List.mem_append, List.mem_cons, List.mem_append]
  rintro (inside | colon | inside | after)
  · exact newline_not_mem_printStr name inside
  · exact absurd colon (by decide)
  · exact plain inside
  · exact others after

private theorem newline_not_mem_printMembers {members : List (PyStr × Json)}
    (plain : ∀ member ∈ members, ch '\n' ∉ member.2.print) :
    ch '\n' ∉ Json.printMembers members := by
  induction members with
  | nil => decide
  | cons first rest ih =>
    rw [List.forall_mem_cons] at plain
    obtain ⟨name, value⟩ := first
    simp only [Json.printMembers, List.cons_append, List.append_assoc]
    rw [List.mem_cons]
    rintro (comma | inside)
    · exact absurd comma (by decide)
    · exact newline_not_mem_member plain.1 (ih plain.2) inside

/-- A printed value is one line. -/
theorem newline_not_mem_print {value : Json} (good : Json.ReadsBack runtime value) :
    ch '\n' ∉ value.print := by
  induction good with
  | null => decide
  | bool value => cases value <;> decide
  | int short => exact Json.newline_not_mem_of_plain (Json.printInt_plain _)
  | float start plain read => exact Json.newline_not_mem_of_plain plain
  | str text => exact newline_not_mem_printStr text
  | @arr items each ih =>
    cases items with
    | nil => decide
    | cons item rest =>
      rw [List.forall_mem_cons] at ih
      rw [Json.print, List.cons_append, List.mem_cons, List.mem_append]
      rintro (bracket | inside | after)
      · exact absurd bracket (by decide)
      · exact ih.1 inside
      · exact newline_not_mem_printItems ih.2 after
  | @obj members nodup each ih =>
    cases members with
    | nil => decide
    | cons first rest =>
      rw [List.forall_mem_cons] at ih
      obtain ⟨name, value⟩ := first
      simp only [Json.print, List.cons_append, List.append_assoc]
      rw [List.mem_cons]
      rintro (brace | inside)
      · exact absurd brace (by decide)
      · exact newline_not_mem_member ih.1 (newline_not_mem_printMembers ih.2) inside

/-- The text has a line for each part of the action, and each of them reads back. -/
structure Says (runtime : Json.Runtime) (text : PyStr) (action : CardAction) : Prop where
  lines : ∃ actionId inputs data, text.splitOn (ch '\n') =
      [actionHeader, py "action_id=" ++ actionId, py "inputs=" ++ inputs, py "data=" ++ data] ∧
    Json.loads runtime actionId = .ok (.str action.actionId) ∧
    Json.loads runtime inputs = .ok (inputsOfAction action).sortKeys ∧
    Json.loads runtime data = .ok (Json.obj (publicData action.data)).sortKeys

/-- A value that reads back, within the recursion that a reader has. -/
def Legible (runtime : Json.Runtime) (value : Json) : Prop :=
  Json.ReadsBack runtime value ∧ value.depth ≤ runtime.loadsDepth

/-- The keys of the action differ, and its data reads back. -/
structure Readable (runtime : Json.Runtime) (action : CardAction) : Prop where
  inputs : (action.inputs.map Prod.fst).Nodup
  data : Legible runtime (.obj action.data)

/-- Leaving members out keeps a readable object readable. -/
private theorem readsBack_publicData {data : List (PyStr × Json)}
    (good : Json.ReadsBack runtime (.obj data)) :
    Json.ReadsBack runtime (.obj (publicData data)) := by
  cases good with
  | obj nodup each =>
    refine .obj ?_ fun member kept => each member (List.mem_of_mem_filter kept)
    exact nodup.sublist (List.filter_sublist.map Prod.fst)

private theorem depth_publicData_le (data : List (PyStr × Json)) :
    (Json.obj (publicData data)).depth ≤ (Json.obj data).depth := by
  rw [Json.depth, Json.depth]
  apply Nat.succ_le_succ
  rw [Json.membersDepth_le_iff]
  intro member kept
  exact (Json.membersDepth_le_iff data _).mp (Nat.le_refl _) member (List.mem_of_mem_filter kept)

private theorem readsBack_inputs {action : CardAction}
    (nodup : (action.inputs.map Prod.fst).Nodup) :
    Json.ReadsBack runtime (inputsOfAction action) := by
  refine .obj ?_ ?_
  · rw [List.map_map]
    exact nodup
  · rw [List.forall_mem_map]
    exact fun input _ => .str input.2

private theorem depth_inputs (action : CardAction) : (inputsOfAction action).depth ≤ 1 := by
  rw [inputsOfAction, Json.depth]
  apply Nat.succ_le_succ
  rw [Json.membersDepth_le_iff, List.forall_mem_map]
  exact fun input _ => Nat.le_refl 0

theorem Legible.member {members : List (PyStr × Json)} (legible : Legible runtime (.obj members)) :
    ∀ member ∈ members, Legible runtime member.2 := by
  obtain ⟨good, shallow⟩ := legible
  cases good with
  | obj nodup each =>
    intro member inside
    refine ⟨each member inside, ?_⟩
    rw [Json.depth] at shallow
    have inner := (Json.membersDepth_le_iff members _).mp (Nat.le_refl _) member inside
    omega

/-- A field is a member or missing. -/
theorem Legible.field {members : List (PyStr × Json)} (legible : Legible runtime (.obj members))
    (name : PyStr) : Legible runtime (Json.field name members) := by
  have each := legible.member
  clear legible
  rw [Json.field]
  induction members with
  | nil => exact ⟨.null, Nat.zero_le _⟩
  | cons member rest ih =>
    rw [List.forall_mem_cons] at each
    rw [Dict.lookup]
    split
    · exact each.1
    · exact ih each.2

private theorem inputsOf_sublist {raw : List (PyStr × Json)} {inputs : List (PyStr × PyStr)}
    (parsed : inputsOf raw = some inputs) :
    (inputs.map Prod.fst).Sublist (raw.map Prod.fst) := by
  induction raw generalizing inputs with
  | nil =>
    cases parsed
    exact .slnil
  | cons member rest ih =>
    obtain ⟨key, value⟩ := member
    rw [inputsOf] at parsed
    split at parsed
    · cases parsed
    · split at parsed
      · cases parsed
      · exact (ih parsed).cons _
      · split at parsed
        · cases parsed
        · split at parsed
          · cases parsed
          · obtain ⟨others, found, rfl⟩ := Option.map_eq_some_iff.mp parsed
            exact (ih found).cons_cons _

/-- Where the parser takes the inputs and the data of an action from. -/
private theorem parts_parseCardAction {event : Json} {action : CardAction}
    (parsed : parseCardAction runtime event = .ok (some action)) :
    ∃ members raw, event = .obj members ∧ Json.field (py "event_data") members = .obj raw ∧
      actionInputs (Json.field (py "inputs") raw) = some action.inputs ∧
      actionData (Json.field (py "data") raw) = some action.data := by
  unfold parseCardAction at parsed
  split at parsed
  · rename_i members
    split at parsed
    · rename_i eventId eventType raw _ _ found
      dsimp only at parsed
      split at parsed
      · cases parsed
      · split at parsed
        · cases parsed
        · split at parsed
          · rename_i channelType inputs data _ givenInputs givenData
            split at parsed
            · cases parsed
            · split at parsed
              · cases parsed
              · split at parsed
                · cases parsed
                · cases parsed
                  exact ⟨members, raw, rfl, found, givenInputs, givenData⟩
          · cases parsed
    · cases parsed
  · cases parsed

theorem readable_parseCardAction {event : Json} {action : CardAction}
    (legible : Legible runtime event)
    (parsed : parseCardAction runtime event = .ok (some action)) : Readable runtime action := by
  obtain ⟨members, raw, rfl, found, givenInputs, givenData⟩ := parts_parseCardAction parsed
  have inner := legible.field (py "event_data")
  rw [found] at inner
  have inputs := inner.field (py "inputs")
  have data := inner.field (py "data")
  have room : 1 ≤ runtime.loadsDepth := Nat.le_trans (by decide) runtime.loadsRoom
  refine ⟨?_, ?_⟩
  · revert inputs givenInputs
    cases Json.field (py "inputs") raw with
    | null =>
      intro given _
      rw [← Option.some.inj given]
      exact List.nodup_nil
    | obj entries =>
      intro given legible
      unfold actionInputs at given
      dsimp only at given
      split at given
      · cases given
      · cases legible.1 with
        | obj nodup each => exact nodup.sublist (inputsOf_sublist given)
    | bool | int | float | str | arr =>
      intro given
      cases given
  · revert data givenData
    cases Json.field (py "data") raw with
    | null =>
      intro given _
      rw [← Option.some.inj given]
      exact ⟨.obj List.nodup_nil (fun _ none => absurd none List.not_mem_nil), room⟩
    | obj entries =>
      intro given legible
      unfold actionData at given
      dsimp only at given
      split at given
      · rw [← Option.some.inj given]
        exact legible
      · cases given
    | bool | int | float | str | arr =>
      intro given
      cases given

/-- The text of an action says what was pressed: no value can pretend to be another line. -/
theorem says_formatCardActionText {action : CardAction} (readable : Readable runtime action) :
    Says runtime (formatCardActionText action) action := by
  have inputs := (@readsBack_inputs runtime action readable.inputs).sortKeys
  have data := (readsBack_publicData readable.data.1).sortKeys
  have room : 1 ≤ runtime.loadsDepth := Nat.le_trans (by decide) runtime.loadsRoom
  have shape : formatCardActionText action = [ch '\n'].intercalate
      [actionHeader, py "action_id=" ++ (Json.str action.actionId).print,
        py "inputs=" ++ (inputsOfAction action).sortKeys.print,
        py "data=" ++ (Json.obj (publicData action.data)).sortKeys.print] := by
    simp [formatCardActionText, List.intercalate_cons_cons]
  refine ⟨⟨(Json.str action.actionId).print, (inputsOfAction action).sortKeys.print,
    (Json.obj (publicData action.data)).sortKeys.print, ?_, ?_, ?_, ?_⟩⟩
  · rw [shape]
    apply List.splitOn_intercalate
    · simp only [List.forall_mem_cons, List.mem_append, not_or, List.not_mem_nil, false_implies,
        implies_true, and_true]
      refine ⟨by decide, ⟨by decide, newline_not_mem_printStr _⟩, ⟨by decide, ?_⟩,
        ⟨by decide, ?_⟩⟩
      · exact newline_not_mem_print inputs
      · exact newline_not_mem_print data
    · exact List.cons_ne_nil _ _
  · exact Json.loads_print (.str _) (Nat.zero_le _)
  · apply Json.loads_print inputs
    exact Json.depth_sortKeys_le ((depth_inputs action).trans room)
  · apply Json.loads_print data
    exact Json.depth_sortKeys_le ((depth_publicData_le _).trans readable.data.2)

end OctoChannel.Cards
