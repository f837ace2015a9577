import OctoChannel.Foundation.Json

namespace OctoChannel.Foundation.Json

mutual

/-- The member lists of all objects of the tree, an object before those inside it. -/
def objects : Json → List (List (PyStr × Json))
  | .arr items => itemObjects items
  | .obj members => members :: memberObjects members
  | _ => []

def itemObjects : List Json → List (List (PyStr × Json))
  | [] => []
  | item :: rest => item.objects ++ itemObjects rest

def memberObjects : List (PyStr × Json) → List (List (PyStr × Json))
  | [] => []
  | (_, value) :: rest => value.objects ++ memberObjects rest

end

theorem itemObjects_eq (items : List Json) : itemObjects items = items.flatMap objects := by
  induction items with
  | nil => rfl
  | cons item rest ih => simp [itemObjects, ih]

theorem memberObjects_eq (members : List (PyStr × Json)) :
    memberObjects members = members.flatMap fun member => member.2.objects := by
  induction members with
  | nil => rfl
  | cons member rest ih => simp [memberObjects, ih]

@[simp] theorem objects_str (text : PyStr) : (Json.str text).objects = [] := rfl

@[simp] theorem objects_bool (value : Bool) : (Json.bool value).objects = [] := rfl

@[simp] theorem objects_int (value : Int) : (Json.int value).objects = [] := rfl

theorem objects_arr (items : List Json) : (Json.arr items).objects = items.flatMap objects :=
  itemObjects_eq items

theorem objects_obj (members : List (PyStr × Json)) :
    (Json.obj members).objects = members :: members.flatMap fun member => member.2.objects := by
  rw [objects, memberObjects_eq]

/-- The keys of all objects of the tree. -/
def keys (value : Json) : List PyStr := value.objects.flatMap fun members => members.map Prod.fst

theorem mem_keys_arr {key : PyStr} {items : List Json} :
    key ∈ (Json.arr items).keys ↔ ∃ item ∈ items, key ∈ item.keys := by
  simp only [keys, objects_arr, List.mem_flatMap]
  constructor
  · rintro ⟨members, ⟨item, member, within⟩, found⟩
    exact ⟨item, member, members, within, found⟩
  · rintro ⟨item, member, members, within, found⟩
    exact ⟨members, ⟨item, member, within⟩, found⟩

theorem keys_obj (members : List (PyStr × Json)) :
    (Json.obj members).keys =
      members.map Prod.fst ++ members.flatMap fun member => member.2.keys := by
  simp [keys, objects_obj, List.flatMap_assoc]

end OctoChannel.Foundation.Json
