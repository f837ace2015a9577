import Mathlib.Data.List.Sort
import Mathlib.Data.Nat.Digits.Defs
import OctoChannel.Foundation.Dict
import OctoChannel.Foundation.Text

namespace OctoChannel.Foundation

/-- Objects keep their members in dictionary order. A float is carried as the
text the serializer prints for it. -/
inductive Json where
  | null
  | bool (value : Bool)
  | int (value : Int)
  | float (text : String)
  | str (text : PyStr)
  | arr (items : List Json)
  | obj (members : List (PyStr × Json))

abbrev ch (char : Char) : CodePoint := CodePoint.ofChar char

namespace Json

@[elab_as_elim] theorem induction {motive : Json → Prop} (null : motive .null)
    (bool : ∀ value, motive (.bool value)) (int : ∀ value, motive (.int value))
    (float : ∀ text, motive (.float text)) (str : ∀ text, motive (.str text))
    (arr : ∀ items, (∀ item ∈ items, motive item) → motive (.arr items))
    (obj : ∀ members, (∀ member ∈ members, motive member.2) → motive (.obj members)) :
    ∀ value, motive value := by
  have extend {kind : Type} {holds : kind → Prop} {head : kind} {tail : List kind}
      (first : holds head) (others : ∀ item ∈ tail, holds item) :
      ∀ item ∈ head :: tail, holds item := by
    intro item member
    rcases List.mem_cons.mp member with same | later
    · exact same ▸ first
    · exact others item later
  exact @Json.rec motive (fun items => ∀ item ∈ items, motive item)
    (fun members => ∀ member ∈ members, motive member.2) (fun member => motive member.2)
    null bool int float str arr obj (fun _ absent => by cases absent)
    (fun _ _ first others => extend first others) (fun _ absent => by cases absent)
    (fun _ _ first others => extend first others) (fun _ _ holds => holds)

/-- `dict.get(key)`: `None` when the key is missing. -/
def field (key : PyStr) (members : List (PyStr × Json)) : Json :=
  (Dict.lookup key members).getD .null

def digit (value : Nat) : CodePoint := Fin.ofNat 0x110000 (0x30 + value)

def hexDigit (value : Nat) : CodePoint :=
  Fin.ofNat 0x110000 (if value < 10 then 0x30 + value else 0x57 + value)

def printNat (value : Nat) : PyStr :=
  if value = 0 then [ch '0'] else (Nat.digits 10 value).reverse.map digit

def printInt (value : Int) : PyStr :=
  if value < 0 then ch '-' :: printNat value.natAbs else printNat value.natAbs

def escapeChar (point : CodePoint) : PyStr :=
  if point = ch '"' then [ch '\\', ch '"']
  else if point = ch '\\' then [ch '\\', ch '\\']
  else if point.val = 0x0a then [ch '\\', ch 'n']
  else if point.val = 0x0d then [ch '\\', ch 'r']
  else if point.val = 0x09 then [ch '\\', ch 't']
  else if point.val = 0x0c then [ch '\\', ch 'f']
  else if point.val = 0x08 then [ch '\\', ch 'b']
  else if point.val < 0x20 then
    [ch '\\', ch 'u', ch '0', ch '0', hexDigit (point.val / 16), hexDigit (point.val % 16)]
  else [point]

def printStr (text : PyStr) : PyStr := ch '"' :: text.flatMap escapeChar ++ [ch '"']

mutual

def print : Json → PyStr
  | .null => py "null"
  | .bool true => py "true"
  | .bool false => py "false"
  | .int value => printInt value
  | .float text => py text
  | .str text => printStr text
  | .arr [] => py "[]"
  | .arr (item :: rest) => ch '[' :: item.print ++ printItems rest
  | .obj [] => py "{}"
  | .obj ((key, value) :: rest) =>
    ch '{' :: printStr key ++ ch ':' :: value.print ++ printMembers rest

/-- The rest of an array: every further item after a comma, then the bracket. -/
def printItems : List Json → PyStr
  | [] => [ch ']']
  | item :: rest => ch ',' :: item.print ++ printItems rest

def printMembers : List (PyStr × Json) → PyStr
  | [] => [ch '}']
  | (key, value) :: rest => ch ',' :: printStr key ++ ch ':' :: value.print ++ printMembers rest

end

def keyLE (first second : PyStr × Json) : Prop := first.1 ≤ second.1

instance : DecidableRel keyLE := fun first second => inferInstanceAs (Decidable (first.1 ≤ second.1))

instance : IsTrans (PyStr × Json) keyLE := ⟨fun _ _ _ => le_trans⟩

instance : Std.Total keyLE := ⟨fun first second => le_total first.1 second.1⟩

mutual

/-- `sort_keys=True`: every object of the tree in ascending key order. -/
def sortKeys : Json → Json
  | .arr items => .arr (sortItems items)
  | .obj members => .obj ((sortMembers members).insertionSort keyLE)
  | value => value

def sortItems : List Json → List Json
  | [] => []
  | item :: rest => item.sortKeys :: sortItems rest

def sortMembers : List (PyStr × Json) → List (PyStr × Json)
  | [] => []
  | (key, value) :: rest => (key, value.sortKeys) :: sortMembers rest

end

theorem sortItems_eq_map (items : List Json) : sortItems items = items.map sortKeys := by
  induction items with
  | nil => rfl
  | cons item rest ih => simp [sortItems, ih]

theorem sortMembers_eq_map (members : List (PyStr × Json)) :
    sortMembers members = members.map (fun member => (member.1, member.2.sortKeys)) := by
  induction members with
  | nil => rfl
  | cons member rest ih => simp [sortMembers, ih]

mutual

/-- Nesting of arrays and objects: the recursion a reader or a printer needs. -/
def depth : Json → Nat
  | .arr items => itemsDepth items + 1
  | .obj members => membersDepth members + 1
  | _ => 0

def itemsDepth : List Json → Nat
  | [] => 0
  | item :: rest => max item.depth (itemsDepth rest)

def membersDepth : List (PyStr × Json) → Nat
  | [] => 0
  | (_, value) :: rest => max value.depth (membersDepth rest)

end

theorem itemsDepth_le_iff (items : List Json) (bound : Nat) :
    itemsDepth items ≤ bound ↔ ∀ item ∈ items, item.depth ≤ bound := by
  induction items with
  | nil => simp [itemsDepth]
  | cons item rest ih => simp [itemsDepth, ih]

theorem membersDepth_le_iff (members : List (PyStr × Json)) (bound : Nat) :
    membersDepth members ≤ bound ↔ ∀ member ∈ members, member.2.depth ≤ bound := by
  induction members with
  | nil => simp [membersDepth]
  | cons member rest ih => simp [membersDepth, ih]

theorem depth_arr_le_iff (items : List Json) (bound : Nat) :
    (arr items).depth ≤ bound + 1 ↔ ∀ item ∈ items, item.depth ≤ bound := by
  rw [depth, Nat.succ_le_succ_iff, itemsDepth_le_iff]

theorem depth_obj_le_iff (members : List (PyStr × Json)) (bound : Nat) :
    (obj members).depth ≤ bound + 1 ↔ ∀ member ∈ members, member.2.depth ≤ bound := by
  rw [depth, Nat.succ_le_succ_iff, membersDepth_le_iff]

/-- No string and no key of the tree holds a lone surrogate: what is printed for
it can be encoded. -/
def TextEncodable (value : Json) : Prop := Encodable value.sortKeys.print

instance (value : Json) : Decidable value.TextEncodable :=
  inferInstanceAs (Decidable (Encodable value.sortKeys.print))

theorem sortKeys_arr (items : List Json) : (arr items).sortKeys = .arr (items.map sortKeys) := by
  rw [sortKeys, sortItems_eq_map]

theorem sortKeys_obj (members : List (PyStr × Json)) :
    (obj members).sortKeys =
      .obj ((members.map fun member => (member.1, member.2.sortKeys)).insertionSort keyLE) := by
  rw [sortKeys, sortMembers_eq_map]

/-- Sorting a sorted tree changes nothing. -/
theorem sortKeys_idempotent (value : Json) : value.sortKeys.sortKeys = value.sortKeys := by
  induction value using induction with
  | null | bool | int | float | str => rfl
  | arr items ih =>
    simp only [sortKeys_arr, List.map_map, arr.injEq]
    exact List.map_congr_left ih
  | obj members ih =>
    simp only [sortKeys_obj, obj.injEq]
    let sorted := (members.map fun member => (member.1, member.2.sortKeys)).insertionSort keyLE
    have fixed : sorted.map (fun member => (member.1, member.2.sortKeys)) = sorted := by
      refine (List.map_congr_left ?_).trans (List.map_id sorted)
      intro member present
      obtain ⟨origin, original, same⟩ := List.mem_map.mp ((List.mem_insertionSort keyLE).mp present)
      rw [← same, id, ih origin original]
    change (sorted.map fun member => (member.1, member.2.sortKeys)).insertionSort keyLE = sorted
    rw [fixed]
    exact (List.pairwise_insertionSort keyLE _).insertionSort_eq

theorem keys_sorted (members : List (PyStr × Json)) :
    ((members.map fun member => (member.1, member.2.sortKeys)).insertionSort keyLE).map Prod.fst
      |>.Perm (members.map Prod.fst) := by
  have shuffled := (List.perm_insertionSort keyLE
    (members.map fun member => (member.1, member.2.sortKeys))).map Prod.fst
  simpa [Function.comp_def] using shuffled

theorem depth_sortKeys_le {value : Json} {bound : Nat} (shallow : value.depth ≤ bound) :
    value.sortKeys.depth ≤ bound := by
  induction value using induction generalizing bound with
  | null | bool | int | float | str => exact shallow
  | arr items ih =>
    cases bound with
    | zero => simp [depth] at shallow
    | succ bound =>
      rw [depth_arr_le_iff] at shallow
      rw [sortKeys_arr, depth_arr_le_iff]
      intro item present
      obtain ⟨origin, original, same⟩ := List.mem_map.mp present
      exact same ▸ ih origin original (shallow origin original)
  | obj members ih =>
    cases bound with
    | zero => simp [depth] at shallow
    | succ bound =>
      rw [depth_obj_le_iff] at shallow
      rw [sortKeys_obj, depth_obj_le_iff]
      intro member present
      obtain ⟨origin, original, same⟩ :=
        List.mem_map.mp ((List.mem_insertionSort keyLE).mp present)
      exact same ▸ ih origin original (shallow origin original)

private theorem lookup_eq_of_perm {key : PyStr} {first second : List (PyStr × Json)}
    (shuffled : first.Perm second) (nodup : (first.map Prod.fst).Nodup) :
    Dict.lookup key first = Dict.lookup key second := by
  let left : Dict PyStr Json := ⟨first, nodup⟩
  let right : Dict PyStr Json := ⟨second, (shuffled.map Prod.fst).nodup_iff.mp nodup⟩
  apply Option.ext
  intro value
  have here : (key, value) ∈ first ↔ Dict.lookup key first = some value :=
    left.mem_entries_iff key value
  have there : (key, value) ∈ second ↔ Dict.lookup key second = some value :=
    right.mem_entries_iff key value
  exact here.symm.trans (shuffled.mem_iff.trans there)

private theorem lookup_map_sorted (key : PyStr) (members : List (PyStr × Json)) :
    Dict.lookup key (members.map fun member => (member.1, member.2.sortKeys)) =
      (Dict.lookup key members).map sortKeys := by
  induction members with
  | nil => rfl
  | cons member rest ih =>
    by_cases same : member.1 = key <;> simp [Dict.lookup, same, ih]

/-- Looking up a member of a sorted object finds the sorted member. -/
theorem lookup_sorted (key : PyStr) {members : List (PyStr × Json)}
    (nodup : (members.map Prod.fst).Nodup) :
    Dict.lookup key
        ((members.map fun member => (member.1, member.2.sortKeys)).insertionSort keyLE) =
      (Dict.lookup key members).map sortKeys := by
  have unsorted : ((members.map fun member => (member.1, member.2.sortKeys)).map Prod.fst).Nodup := by
    simpa [Function.comp_def] using nodup
  rw [← lookup_eq_of_perm (List.perm_insertionSort keyLE _).symm unsorted, lookup_map_sorted]

theorem field_sorted (key : PyStr) {members : List (PyStr × Json)}
    (nodup : (members.map Prod.fst).Nodup) :
    field key ((members.map fun member => (member.1, member.2.sortKeys)).insertionSort keyLE) =
      (field key members).sortKeys := by
  unfold field
  rw [lookup_sorted key nodup]
  cases Dict.lookup key members <;> rfl

/-- What the interpreter fixes and a JSON text does not: how deep its reader and
printer recurse, and how it prints the float a number literal denotes. -/
structure Runtime where
  loadsDepth : Nat
  dumpsDepth : Nat
  loadsRoom : 16 ≤ loadsDepth
  dumpsRoom : 16 ≤ dumpsDepth
  floatText : PyStr → String

/-- `json.dumps`: the text, or a recursion error on a tree nested too deeply. -/
def dumps (runtime : Runtime) (value : Json) : Except PyError PyStr :=
  if value.depth ≤ runtime.dumpsDepth then .ok value.sortKeys.print else .error .recursionError

end Json

end OctoChannel.Foundation
