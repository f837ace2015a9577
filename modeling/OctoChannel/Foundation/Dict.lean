import Mathlib.Data.List.Nodup
import Mathlib.Data.Finset.Basic

/-! Insertion-ordered finite maps. Overwriting a key keeps its place, a new key
goes last, and iteration follows the entry list: the order that decides which
key is the oldest one. -/

namespace OctoChannel.Foundation

universe u v w x
variable {Key : Type u} {Value : Type v} {Other : Type w}

/-- Entries in insertion order; the invariant rules out a key stored twice. -/
structure Dict (Key : Type u) (Value : Type v) where
  entries : List (Key × Value)
  nodup : (entries.map Prod.fst).Nodup

namespace Dict

@[ext] theorem ext {first second : Dict Key Value} (same : first.entries = second.entries) :
    first = second := by
  cases first
  cases second
  cases same
  rfl

instance [DecidableEq Key] [DecidableEq Value] : DecidableEq (Dict Key Value) := fun first second =>
  decidable_of_iff (first.entries = second.entries) ⟨ext, congrArg entries⟩

def empty : Dict Key Value := ⟨[], List.nodup_nil⟩

def keys (dict : Dict Key Value) : List Key := dict.entries.map Prod.fst

def size (dict : Dict Key Value) : Nat := dict.entries.length

@[simp] theorem entries_empty : (empty : Dict Key Value).entries = [] := rfl

@[simp] theorem size_empty : (empty : Dict Key Value).size = 0 := rfl

@[simp] theorem keys_empty : (empty : Dict Key Value).keys = [] := rfl

theorem nodup_keys (dict : Dict Key Value) : dict.keys.Nodup := dict.nodup

theorem length_keys (dict : Dict Key Value) : dict.keys.length = dict.size := by
  simp [keys, size]

variable [DecidableEq Key]

/-- The first value stored under `key` in a plain entry list. -/
def lookup (key : Key) : List (Key × Value) → Option Value
  | [] => none
  | entry :: rest => if entry.1 = key then some entry.2 else lookup key rest

def get? (dict : Dict Key Value) (key : Key) : Option Value := lookup key dict.entries

/-- Assignment: overwrite in place, or append a new entry. -/
def assign (key : Key) (value : Value) : List (Key × Value) → List (Key × Value)
  | [] => [(key, value)]
  | entry :: rest => if entry.1 = key then (key, value) :: rest else entry :: assign key value rest

theorem keys_assign (key : Key) (value : Value) (entries : List (Key × Value)) :
    (assign key value entries).map Prod.fst =
      if key ∈ entries.map Prod.fst then entries.map Prod.fst else entries.map Prod.fst ++ [key] := by
  induction entries with
  | nil => rfl
  | cons entry rest ih =>
    by_cases same : entry.1 = key
    · simp [assign, same]
    · have different : key ≠ entry.1 := fun h => same h.symm
      simp only [assign, same, if_false, List.map_cons, ih, List.mem_cons, different, false_or]
      split <;> rfl

theorem nodup_assign (key : Key) (value : Value) {entries : List (Key × Value)}
    (nodup : (entries.map Prod.fst).Nodup) : ((assign key value entries).map Prod.fst).Nodup := by
  rw [keys_assign]
  split
  · exact nodup
  · rename_i fresh
    exact List.nodup_append.mpr ⟨nodup, List.nodup_singleton key, by
      intro old present new isNew
      rw [List.mem_singleton.mp isNew]
      exact fun same => fresh (same ▸ present)⟩

def set (dict : Dict Key Value) (key : Key) (value : Value) : Dict Key Value :=
  ⟨assign key value dict.entries, nodup_assign key value dict.nodup⟩

omit [DecidableEq Key] in
/-- Keep the entries whose key passes a test. -/
def filterKeys (dict : Dict Key Value) (keep : Key → Bool) : Dict Key Value :=
  ⟨dict.entries.filter (fun entry => keep entry.1),
    dict.nodup.sublist (List.filter_sublist.map Prod.fst)⟩

def erase (dict : Dict Key Value) (key : Key) : Dict Key Value :=
  dict.filterKeys (fun other => other ≠ key)

/-- Change every value and keep every key in its place. -/
def mapValues (change : Value → Other) (dict : Dict Key Value) : Dict Key Other :=
  ⟨dict.entries.map (fun entry => (entry.1, change entry.2)), by
    simpa [Function.comp_def] using dict.nodup⟩

omit [DecidableEq Key] in
private theorem nodup_filterMapValues (change : Key → Value → Option Other)
    {entries : List (Key × Value)} (nodup : (entries.map Prod.fst).Nodup) :
    ((entries.filterMap fun entry => (change entry.1 entry.2).map (entry.1, ·)).map
      Prod.fst).Nodup := by
  refine nodup.sublist ?_
  clear nodup
  induction entries with
  | nil => exact List.Sublist.slnil
  | cons entry rest ih =>
    cases kept : change entry.1 entry.2 with
    | none => simpa [List.filterMap_cons, kept] using ih.cons entry.1
    | some value => simpa [List.filterMap_cons, kept] using ih.cons_cons entry.1

omit [DecidableEq Key] in
/-- Change or drop every value. -/
def filterMapValues (change : Key → Value → Option Other) (dict : Dict Key Value) : Dict Key Other :=
  ⟨dict.entries.filterMap fun entry => (change entry.1 entry.2).map (entry.1, ·),
    nodup_filterMapValues change dict.nodup⟩

@[simp] theorem get?_empty (key : Key) : (empty : Dict Key Value).get? key = none := rfl

private theorem lookup_assign (key other : Key) (value : Value) (entries : List (Key × Value)) :
    lookup other (assign key value entries) =
      if key = other then some value else lookup other entries := by
  induction entries with
  | nil => simp [assign, lookup]
  | cons entry rest ih =>
    by_cases same : entry.1 = key
    · by_cases asked : key = other
      · simp [assign, lookup, same, asked]
      · simp [assign, lookup, same, asked]
    · by_cases asked : entry.1 = other
      · subst asked
        simp [assign, lookup, same, Ne.symm same]
      · simp [assign, lookup, same, asked, ih]

theorem get?_set (dict : Dict Key Value) (key other : Key) (value : Value) :
    (dict.set key value).get? other = if key = other then some value else dict.get? other :=
  lookup_assign key other value dict.entries

@[simp] theorem get?_set_self (dict : Dict Key Value) (key : Key) (value : Value) :
    (dict.set key value).get? key = some value := by
  simp [get?_set]

theorem get?_set_of_ne (dict : Dict Key Value) {key other : Key} (value : Value)
    (different : key ≠ other) : (dict.set key value).get? other = dict.get? other := by
  simp [get?_set, different]

theorem get?_filterKeys (dict : Dict Key Value) (keep : Key → Bool) (key : Key) :
    (dict.filterKeys keep).get? key = if keep key then dict.get? key else none := by
  obtain ⟨entries, nodup⟩ := dict
  simp only [filterKeys, get?]
  clear nodup
  induction entries with
  | nil => simp [lookup]
  | cons entry rest ih =>
    by_cases asked : entry.1 = key
    · subst asked
      cases kept : keep entry.1
      · simpa [kept] using ih
      · simp [kept, lookup]
    · cases kept : keep entry.1 <;> simpa [kept, lookup, asked] using ih

theorem get?_erase (dict : Dict Key Value) (key other : Key) :
    (dict.erase key).get? other = if key = other then none else dict.get? other := by
  rw [erase, get?_filterKeys]
  by_cases same : key = other
  · simp [same]
  · simp [same, Ne.symm same]

@[simp] theorem get?_erase_self (dict : Dict Key Value) (key : Key) :
    (dict.erase key).get? key = none := by
  simp [get?_erase]

theorem get?_mapValues (change : Value → Other) (dict : Dict Key Value) (key : Key) :
    (dict.mapValues change).get? key = (dict.get? key).map change := by
  obtain ⟨entries, nodup⟩ := dict
  simp only [mapValues, get?]
  clear nodup
  induction entries with
  | nil => rfl
  | cons entry rest ih =>
    by_cases same : entry.1 = key
    · simp [lookup, same]
    · simpa [lookup, same] using ih

theorem mem_keys_iff (dict : Dict Key Value) (key : Key) :
    key ∈ dict.keys ↔ (dict.get? key).isSome := by
  obtain ⟨entries, nodup⟩ := dict
  simp only [keys, get?]
  clear nodup
  induction entries with
  | nil => simp [lookup]
  | cons entry rest ih =>
    by_cases same : entry.1 = key
    · simp [lookup, same]
    · have different : ¬ key = entry.1 := fun h => same h.symm
      simp [lookup, same, different, ← ih]

theorem get?_eq_none_iff (dict : Dict Key Value) (key : Key) :
    dict.get? key = none ↔ key ∉ dict.keys := by
  rw [mem_keys_iff]
  cases dict.get? key <;> simp

private theorem lookup_mem {key : Key} {value : Value} {entries : List (Key × Value)}
    (nodup : (entries.map Prod.fst).Nodup) :
    (key, value) ∈ entries ↔ lookup key entries = some value := by
  induction entries with
  | nil => simp [lookup]
  | cons entry rest ih =>
    obtain ⟨absent, restNodup⟩ := List.nodup_cons.mp nodup
    obtain ⟨name, stored⟩ := entry
    by_cases same : name = key
    · subst name
      have missing : (key, value) ∉ rest := fun present =>
        absent (List.mem_map.mpr ⟨_, present, rfl⟩)
      simp [lookup, missing, eq_comm]
    · have different : ¬ key = name := fun h => same h.symm
      simp [lookup, same, different, ← ih restNodup]

theorem get?_filterMapValues (change : Key → Value → Option Other) (dict : Dict Key Value)
    (key : Key) : (dict.filterMapValues change).get? key = (dict.get? key).bind (change key) := by
  obtain ⟨entries, nodup⟩ := dict
  simp only [filterMapValues, get?]
  induction entries with
  | nil => rfl
  | cons entry rest ih =>
    obtain ⟨fresh, nodup⟩ := List.nodup_cons.mp nodup
    have later := ih nodup
    by_cases same : entry.1 = key
    · have absent : lookup key rest = none := by
        cases found : lookup key rest with
        | none => rfl
        | some value =>
          have stored := (lookup_mem nodup).mpr found
          exact absurd (List.mem_map.mpr ⟨_, stored, same.symm⟩) fresh
      subst same
      cases kept : change entry.1 entry.2 with
      | none => simpa [List.filterMap_cons, kept, lookup, absent] using later
      | some value => simp [kept, lookup]
    · cases kept : change entry.1 entry.2 with
      | none => simpa [List.filterMap_cons, kept, lookup, same] using later
      | some value => simpa [List.filterMap_cons, kept, lookup, same] using later

theorem mem_entries_iff (dict : Dict Key Value) (key : Key) (value : Value) :
    (key, value) ∈ dict.entries ↔ dict.get? key = some value :=
  lookup_mem dict.nodup

/-- The order of the entries does not matter to a lookup. -/
theorem get?_of_perm {first second : Dict Key Value} (same : first.entries.Perm second.entries)
    (key : Key) : first.get? key = second.get? key := by
  cases found : second.get? key with
  | none =>
    rw [get?_eq_none_iff] at found ⊢
    intro member
    exact found ((same.map Prod.fst).mem_iff.mp member)
  | some value =>
    rw [← mem_entries_iff] at found ⊢
    exact same.mem_iff.mpr found

/-- Distinct keys that all come from a list are no more than the list. -/
theorem size_le_length {Item : Type w} {dict : Dict Key Value} {items : List Item}
    (name : Item → Key) (covers : ∀ key, (dict.get? key).isSome → ∃ item ∈ items, name item = key) :
    dict.size ≤ items.length := by
  have inside : dict.keys ⊆ items.map name := by
    intro key member
    obtain ⟨item, present, same⟩ := covers key ((mem_keys_iff dict key).mp member)
    exact List.mem_map.mpr ⟨item, present, same⟩
  have fits := (dict.nodup_keys.subperm inside).length_le
  rwa [length_keys, List.length_map] at fits

theorem keys_set (dict : Dict Key Value) (key : Key) (value : Value) :
    (dict.set key value).keys = if key ∈ dict.keys then dict.keys else dict.keys ++ [key] :=
  keys_assign key value dict.entries

theorem size_set (dict : Dict Key Value) (key : Key) (value : Value) :
    (dict.set key value).size = if key ∈ dict.keys then dict.size else dict.size + 1 := by
  rw [← length_keys, keys_set]
  split <;> simp [length_keys]

theorem size_erase_le (dict : Dict Key Value) (key : Key) : (dict.erase key).size ≤ dict.size :=
  List.length_filter_le _ _

/-- Erasing the first entry of a nonempty map drops exactly that entry. -/
theorem erase_head {dict : Dict Key Value} {entry : Key × Value} {rest : List (Key × Value)}
    (shape : dict.entries = entry :: rest) : (dict.erase entry.1).entries = rest := by
  have nodup := dict.nodup
  rw [shape, List.map_cons, List.nodup_cons] at nodup
  simp only [erase, filterKeys, shape]
  rw [List.filter_cons_of_neg (by simp)]
  apply List.filter_eq_self.mpr
  intro item present
  have different : item.1 ≠ entry.1 := fun same =>
    nodup.1 (List.mem_map.mpr ⟨item, present, same⟩)
  simpa using different

theorem keys_erase_head {dict : Dict Key Value} {key : Key} {rest : List Key}
    (shape : dict.keys = key :: rest) : (dict.erase key).keys = rest := by
  cases inner : dict.entries with
  | nil => simp [keys, inner] at shape
  | cons entry tail =>
    simp only [keys, inner, List.map_cons, List.cons.injEq] at shape
    rw [← shape.1, keys, erase_head inner]
    exact shape.2

theorem assign_of_not_mem {key : Key} {value : Value} {entries : List (Key × Value)}
    (fresh : key ∉ entries.map Prod.fst) : assign key value entries = entries ++ [(key, value)] := by
  induction entries with
  | nil => rfl
  | cons entry rest ih =>
    simp only [List.map_cons, List.mem_cons, not_or] at fresh
    have different : ¬ entry.1 = key := fun h => fresh.1 h.symm
    simp [assign, different, ih fresh.2]

theorem entries_set_of_not_mem {dict : Dict Key Value} {key : Key} (value : Value)
    (fresh : key ∉ dict.keys) : (dict.set key value).entries = dict.entries ++ [(key, value)] :=
  assign_of_not_mem fresh

/-- `dict.setdefault(key, value)` -/
def setDefault (dict : Dict Key Value) (key : Key) (value : Value) : Dict Key Value :=
  if (dict.get? key).isSome then dict else dict.set key value

theorem get?_setDefault_of_absent {dict : Dict Key Value} {key : Key}
    (absent : dict.get? key = none) (value : Value) :
    (dict.setDefault key value).get? key = some value := by
  rw [setDefault, absent]
  exact dict.get?_set_self key value

/-- Assign a list of entries one after another. -/
def setAll (dict : Dict Key Value) (entries : List (Key × Value)) : Dict Key Value :=
  entries.foldl (fun current entry => current.set entry.1 entry.2) dict

@[simp] theorem setAll_nil (dict : Dict Key Value) : dict.setAll [] = dict := rfl

@[simp] theorem setAll_cons (dict : Dict Key Value) (entry : Key × Value)
    (rest : List (Key × Value)) :
    dict.setAll (entry :: rest) = (dict.set entry.1 entry.2).setAll rest := rfl

theorem entries_setAll (dict : Dict Key Value) (entries : List (Key × Value))
    (fresh : ((dict.entries ++ entries).map Prod.fst).Nodup) :
    (dict.setAll entries).entries = dict.entries ++ entries := by
  induction entries generalizing dict with
  | nil => simp
  | cons entry rest ih =>
    have absent : entry.1 ∉ dict.keys := by
      rw [List.map_append, List.nodup_append] at fresh
      exact fun present => fresh.2.2 _ present entry.1 (by simp) rfl
    have placed := entries_set_of_not_mem entry.2 absent
    rw [setAll_cons, ih]
    · simp [placed]
    · simpa [placed] using fresh

/-- Replaying the entries of a map into an empty one rebuilds it. -/
theorem setAll_entries (dict : Dict Key Value) : empty.setAll dict.entries = dict := by
  apply ext
  simpa using entries_setAll empty dict.entries (by simpa using dict.nodup)

/-- Every entry of the one is an entry of the other. -/
def Sub (first second : Dict Key Value) : Prop :=
  ∀ key value, first.get? key = some value → second.get? key = some value

variable {first second third : Dict Key Value}

theorem Sub.refl (dict : Dict Key Value) : dict.Sub dict := fun _ _ found => found

theorem Sub.of_eq (same : first = second) : first.Sub second := same ▸ .refl first

theorem Sub.trans (lower : first.Sub second) (upper : second.Sub third) : first.Sub third :=
  fun key value found => upper key value (lower key value found)

theorem filterKeys_sub (dict : Dict Key Value) (keep : Key → Bool) :
    (dict.filterKeys keep).Sub dict := by
  intro key value found
  rw [get?_filterKeys] at found
  split at found
  · exact found
  · cases found

theorem erase_sub (dict : Dict Key Value) (key : Key) : (dict.erase key).Sub dict :=
  filterKeys_sub dict _

/-- What is looked up in the smaller map is as it was, or gone. -/
theorem Sub.same_or_none (sub : first.Sub second) (key : Key) :
    first.get? key = second.get? key ∨ first.get? key = none := by
  cases found : first.get? key with
  | none => exact .inr rfl
  | some value => exact .inl (sub key value found).symm

/-- A part of a state that every change shrinks is shrunk by all of them. -/
theorem Sub.foldl {State : Type w} {Item : Type x} (view : State → Dict Key Value)
    {change : State → Item → State}
    (shrinks : ∀ state item, (view (change state item)).Sub (view state)) (items : List Item)
    (state : State) : (view (items.foldl change state)).Sub (view state) := by
  induction items generalizing state with
  | nil => exact .refl _
  | cons item rest ih => exact (ih (change state item)).trans (shrinks state item)

end Dict

end OctoChannel.Foundation
