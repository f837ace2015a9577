import OctoChannel.Identity.Ids
import OctoChannel.Foundation.Json

namespace OctoChannel.Chats

open Foundation Identity

def threadSeparator : PyStr := py "____"

/-- `channel_id.partition("____")`, where the separator occurs. -/
def partitionThread : PyStr → Option (PyStr × PyStr)
  | [] => none
  | point :: rest =>
    if threadSeparator.isPrefixOf (point :: rest) then some ([], rest.drop 3)
    else (partitionThread rest).map fun parts => (point :: parts.1, parts.2)

/-- `channel_id.split("____", 1)[0]` -/
def parentGroupNo (channelId : PyStr) : PyStr :=
  ((partitionThread channelId).map Prod.fst).getD channelId

/-- `_split_thread_channel_id` -/
def splitThreadChannelId (channelId : PyStr) : PyStr × Option PyStr :=
  match partitionThread channelId with
  | none => (channelId, none)
  | some (parent, short) => (parent, if short = [] then none else some short)

/-- `f"{group_no}____{short_id}"` -/
def threadKey (groupNo shortId : PyStr) : PyStr := groupNo ++ threadSeparator ++ shortId

/-- `key == group_no or key.startswith(f"{group_no}____")` -/
def inScope (groupNo key : PyStr) : Bool :=
  key = groupNo || (groupNo ++ threadSeparator).isPrefixOf key

theorem partitionThread_append {channelId front back : PyStr}
    (split : partitionThread channelId = some (front, back)) :
    front ++ threadSeparator ++ back = channelId := by
  induction channelId generalizing front with
  | nil => cases split
  | cons point rest ih =>
    rw [partitionThread] at split
    by_cases here : threadSeparator.isPrefixOf (point :: rest)
    · rw [if_pos here] at split
      cases split
      obtain ⟨back, same⟩ := List.isPrefixOf_iff_prefix.mp here
      have skipped : (point :: rest).drop 4 = back := by
        rw [← same]
        exact List.drop_left' rfl
      rw [List.drop_succ_cons] at skipped
      rw [List.nil_append, skipped, same]
    · rw [if_neg here] at split
      cases found : partitionThread rest with
      | none =>
        rw [found] at split
        cases split
      | some parts =>
        rw [found] at split
        cases split
        have whole := @ih parts.1 (by rw [found])
        rw [List.cons_append, List.cons_append, whole]

/-- The part before the first separator has none. -/
theorem partitionThread_front {channelId front back : PyStr}
    (split : partitionThread channelId = some (front, back)) : partitionThread front = none := by
  induction channelId generalizing front with
  | nil => cases split
  | cons point rest ih =>
    have whole := partitionThread_append split
    rw [partitionThread] at split
    by_cases here : threadSeparator.isPrefixOf (point :: rest)
    · rw [if_pos here] at split
      cases split
      rfl
    · rw [if_neg here] at split
      cases found : partitionThread rest with
      | none =>
        rw [found] at split
        cases split
      | some parts =>
        rw [found] at split
        cases split
        have elsewhere : ¬ threadSeparator.isPrefixOf (point :: parts.1) := by
          intro starts
          have longer := List.isPrefixOf_iff_prefix.mp starts
          apply here
          rw [List.isPrefixOf_iff_prefix, ← whole, List.append_assoc]
          exact longer.trans (List.prefix_append _ _)
        rw [partitionThread, if_neg elsewhere, ih (by rw [found])]
        rfl

theorem parentGroupNo_idem (channelId : PyStr) :
    parentGroupNo (parentGroupNo channelId) = parentGroupNo channelId := by
  unfold parentGroupNo
  cases split : partitionThread channelId with
  | none =>
    rw [Option.map_none, Option.getD_none, split]
    rfl
  | some parts =>
    rw [Option.map_some, Option.getD_some, partitionThread_front split]
    rfl

theorem splitThreadChannelId_fst (channelId : PyStr) :
    (splitThreadChannelId channelId).1 = parentGroupNo channelId := by
  unfold splitThreadChannelId parentGroupNo
  split
  · rename_i whole
    rw [whole]
    rfl
  · rename_i parts
    rw [parts]
    rfl

/-- A thread channel is keyed by its own id. -/
theorem threadKey_of_split {channelId shortId : PyStr}
    (thread : (splitThreadChannelId channelId).2 = some shortId) :
    threadKey (splitThreadChannelId channelId).1 shortId = channelId := by
  unfold splitThreadChannelId at thread ⊢
  split at thread
  · cases thread
  · rename_i parent short split
    by_cases blank : short = []
    · rw [if_pos blank] at thread
      cases thread
    · rw [if_neg blank] at thread
      cases thread
      dsimp only
      exact partitionThread_append split

theorem inScope_parentGroupNo (channelId : PyStr) :
    inScope (parentGroupNo channelId) channelId = true := by
  unfold inScope parentGroupNo
  cases split : partitionThread channelId with
  | none => simp
  | some parts =>
    have whole := partitionThread_append split
    simp only [Option.map_some, Option.getD_some, Bool.or_eq_true]
    right
    rw [List.isPrefixOf_iff_prefix]
    exact ⟨parts.2, whole⟩

private theorem partitionThread_of_starts {front channelId : PyStr}
    (starts : (front ++ threadSeparator).isPrefixOf channelId) :
    (partitionThread channelId).isSome := by
  induction channelId generalizing front with
  | nil => cases front <;> cases starts
  | cons point rest ih =>
    rw [partitionThread]
    by_cases here : threadSeparator.isPrefixOf (point :: rest)
    · rw [if_pos here]
      rfl
    · rw [if_neg here, Option.isSome_map]
      cases front with
      | nil => exact absurd starts here
      | cons first front =>
        rw [List.cons_append, List.isPrefixOf_cons_cons] at starts
        exact ih (Bool.and_eq_true_iff.mp starts).2

/-- A parent group is in the scope of no other group. -/
theorem inScope_parent {groupNo channelId : PyStr}
    (inside : inScope groupNo (parentGroupNo channelId) = true) :
    groupNo = parentGroupNo channelId := by
  unfold inScope at inside
  rcases (Bool.or_eq_true_iff.mp inside) with same | starts
  · exact (of_decide_eq_true same).symm
  · obtain ⟨parts, split⟩ := Option.isSome_iff_exists.mp (partitionThread_of_starts starts)
    have idem := parentGroupNo_idem channelId
    have front := partitionThread_front split
    have same : parts.1 = parentGroupNo channelId := by
      rw [← idem, parentGroupNo, split]
      rfl
    rw [same, split] at front
    cases front

/-- `\d` and `str.isdigit`: beyond ASCII the digits of Unicode are given. -/
structure DigitChars where
  isDecimal : CodePoint → Bool
  isDigit : CodePoint → Bool
  ascii : ∀ point : CodePoint, point.val < 0x80 →
    isDecimal point = (0x30 ≤ point.val && point.val ≤ 0x39) ∧ isDigit point = isDecimal point

variable (digits : DigitChars)

/-- `(.+)$`: one line, with or without a final line feed. -/
def lineBody (text : PyStr) : Option PyStr :=
  let body := if text.getLast? = some (ch '\n') then text.dropLast else text
  if body = [] ∨ ch '\n' ∈ body then none else some body

/-- `_extract_base_uid`: `^s(\d+)_(.+)$` -/
def extractBaseUid (uid : PyStr) : PyStr :=
  match uid with
  | [] => uid
  | point :: rest =>
    if point = ch 's' ∧ rest.takeWhile digits.isDecimal ≠ [] then
      match rest.dropWhile digits.isDecimal with
      | [] => uid
      | mark :: tail => if mark = ch '_' then (lineBody tail).getD uid else uid
    else uid

/-- `text[:text.rfind(mark)]`, where the mark occurs. -/
def beforeLast (mark : CodePoint) (text : PyStr) : Option PyStr :=
  if mark ∈ text then some ((text.reverse.dropWhile (· ≠ mark)).drop 1).reverse else none

/-- `_extract_space_id` -/
def extractSpaceId (channelId : PyStr) : Option PyStr :=
  if ¬ (py "s").isPrefixOf channelId then none
  else
    match beforeLast (ch '_') (channelId.takeWhile (· ≠ ch '@')) with
    | none => none
    | some front =>
      if front.length ≤ 1 then none
      else
        let candidate := front.drop 1
        if candidate ≠ [] ∧ candidate.all digits.isDigit then some candidate else none

/-- `_GROUP_CHANNEL_TYPES`: the type of a group frame; anything else is a direct message. -/
def groupType? (channelType : Nat) : Option ChannelType :=
  if channelType = 2 then some .Group
  else if channelType = 5 then some .CommunityTopic
  else none

/-- `c in "0123456789abcdef"` of a lowered character. -/
def isHex (point : CodePoint) : Bool :=
  (0x30 ≤ point.val && point.val ≤ 0x39) || (0x61 ≤ point.val && point.val ≤ 0x66) ||
    (0x41 ≤ point.val && point.val ≤ 0x46)

/-- The guess of `_resolve_channel_type` for a chat that is not remembered. -/
def guessChannelType (chatId : PyStr) : ChannelType :=
  if hasThreadSeparator chatId then .CommunityTopic
  else if chatId.length = 32 ∧ chatId.all isHex then .DM
  else .Group

end OctoChannel.Chats
