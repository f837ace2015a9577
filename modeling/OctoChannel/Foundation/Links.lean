import OctoChannel.Foundation.Dict
import Mathlib.Data.Finset.Union
import Mathlib.Data.Finset.Card
import Mathlib.Algebra.GroupWithZero.Nat
import Mathlib.Algebra.Order.BigOperators.Group.List
import Mathlib.Algebra.Order.Group.Nat

/-! Maps from keys to finite sets: a relation stored key by key, read back from
the side of its values as the ordered list of the keys that hold a value. -/

namespace OctoChannel.Foundation

universe u v

abbrev Links (Key : Type u) (Value : Type v) := Dict Key (Finset Value)

namespace Links

variable {Key : Type u} {Value : Type v} [DecidableEq Key] [DecidableEq Value]
variable (links : Links Key Value)

omit [DecidableEq Value] in
/-- The values held by a key; a key without an entry holds none. -/
def members (key : Key) : Finset Value := (links.get? key).getD ∅

/-- Add a value to the set of a key, opening the set when the key has none. -/
def link (key : Key) (value : Value) : Links Key Value :=
  links.set key (insert value (links.members key))

/-- Take a value out of every set; an emptied set keeps its entry. -/
def unlink (value : Value) : Links Key Value := links.mapValues (·.erase value)

omit [DecidableEq Key] in
/-- The keys that hold a value, oldest entry first. -/
def listings (value : Value) : List Key :=
  (links.entries.filter (fun entry => value ∈ entry.2)).map Prod.fst

variable {links}

omit [DecidableEq Value] in
theorem mem_members_iff {key : Key} {value : Value} :
    value ∈ links.members key ↔ ∃ values, links.get? key = some values ∧ value ∈ values := by
  unfold members
  cases links.get? key <;> simp

omit [DecidableEq Value] in
@[simp] theorem members_empty (key : Key) : members (Dict.empty : Links Key Value) key = ∅ := rfl

omit [DecidableEq Key] in
@[simp] theorem listings_empty (value : Value) :
    listings (Dict.empty : Links Key Value) value = [] := rfl

theorem get?_link (key other : Key) (value : Value) :
    (links.link key value).get? other =
      if key = other then some (insert value (links.members key)) else links.get? other :=
  Dict.get?_set _ _ _ _

theorem get?_unlink (gone : Value) (key : Key) :
    (links.unlink gone).get? key = (links.get? key).map (·.erase gone) :=
  Dict.get?_mapValues _ _ _

theorem members_link (key other : Key) (value : Value) :
    (links.link key value).members other =
      if key = other then insert value (links.members key) else links.members other := by
  simp only [members, get?_link]
  split <;> rfl

theorem members_unlink (gone : Value) (key : Key) :
    (links.unlink gone).members key = (links.members key).erase gone := by
  simp only [members, get?_unlink]
  cases links.get? key <;> simp

omit [DecidableEq Value] in
theorem members_erase (key other : Key) :
    members (links.erase key) other = if key = other then ∅ else links.members other := by
  simp only [members, Dict.get?_erase]
  split <;> rfl

omit [DecidableEq Value] in
/-- No key is kept with an empty set. -/
def Occupied (links : Links Key Value) : Prop :=
  ∀ key values, links.get? key = some values → values.Nonempty

omit [DecidableEq Value] in
theorem occupied_empty : Occupied (Dict.empty : Links Key Value) := by
  intro key values found
  cases found

theorem Occupied.link (occupied : links.Occupied) (key : Key) (value : Value) :
    (links.link key value).Occupied := by
  intro other values found
  rw [get?_link] at found
  split at found
  · cases found
    exact Finset.insert_nonempty value _
  · exact occupied other values found

omit [DecidableEq Value] in
/-- A pass over all sets that drops what it empties. -/
theorem occupied_filterMapValues {change : Key → Finset Value → Option (Finset Value)}
    (occupied : links.Occupied)
    (leaves : ∀ key values left, values.Nonempty → change key values = some left → left.Nonempty) :
    Occupied (links.filterMapValues change) := by
  intro key left found
  rw [Dict.get?_filterMapValues] at found
  obtain ⟨values, stored, changed⟩ := Option.bind_eq_some_iff.mp found
  exact leaves key values left (occupied key values stored) changed

omit [DecidableEq Value] in
/-- What a pass over all sets leaves of each. -/
theorem mem_members_filterMapValues {change : Key → Finset Value → Option (Finset Value)}
    {key : Key} {value : Value} :
    value ∈ members (links.filterMapValues change) key ↔
      ∃ values left, links.get? key = some values ∧ change key values = some left ∧ value ∈ left := by
  rw [mem_members_iff, Dict.get?_filterMapValues]
  constructor
  · rintro ⟨left, found, member⟩
    obtain ⟨values, stored, changed⟩ := Option.bind_eq_some_iff.mp found
    exact ⟨values, left, stored, changed, member⟩
  · rintro ⟨values, left, stored, changed, member⟩
    exact ⟨left, by rw [stored, Option.bind_some, changed], member⟩

/-- One value for each of several keys. -/
theorem mem_members_links {keys : List Key} {key : Key} {value other : Value} :
    other ∈ members (keys.foldl (fun index key => Links.link index key value) links) key ↔
      other = value ∧ key ∈ keys ∨ other ∈ links.members key := by
  induction keys generalizing links with
  | nil => simp
  | cons first rest ih =>
    rw [List.foldl_cons, ih, members_link, List.mem_cons]
    by_cases same : first = key
    · subst same
      rw [if_pos rfl, Finset.mem_insert]
      tauto
    · rw [if_neg same]
      have different : key ≠ first := Ne.symm same
      tauto

theorem occupied_links (occupied : links.Occupied) (keys : List Key) (value : Value) :
    Occupied (keys.foldl (fun index key => Links.link index key value) links) := by
  induction keys generalizing links with
  | nil => exact occupied
  | cons first rest ih => exact ih (occupied.link first value)

/-- Take a value out of every set, and drop the sets that this empties. -/
def discard (links : Links Key Value) (value : Value) : Links Key Value :=
  links.filterMapValues fun _ values =>
    if values.erase value = ∅ then none else some (values.erase value)

theorem mem_members_discard {key : Key} {gone value : Value} :
    value ∈ (links.discard gone).members key ↔ value ≠ gone ∧ value ∈ links.members key := by
  rw [discard, mem_members_filterMapValues, mem_members_iff]
  constructor
  · rintro ⟨values, left, stored, changed, member⟩
    split at changed
    · cases changed
    · cases changed
      obtain ⟨different, present⟩ := Finset.mem_erase.mp member
      exact ⟨different, values, stored, present⟩
  · rintro ⟨different, values, stored, present⟩
    have member : value ∈ values.erase gone := Finset.mem_erase.mpr ⟨different, present⟩
    exact ⟨values, values.erase gone, stored, if_neg (Finset.ne_empty_of_mem member), member⟩

theorem Occupied.discard (occupied : links.Occupied) (gone : Value) :
    (links.discard gone).Occupied := by
  apply occupied_filterMapValues occupied
  intro key values left filled changed
  split at changed
  · cases changed
  · rename_i remains
    cases changed
    exact Finset.nonempty_iff_ne_empty.mpr remains

omit [DecidableEq Key] [DecidableEq Value] in
/-- All links of a store. -/
def count (links : Links Key Value) : Nat := (links.entries.map fun entry => entry.2.card).sum

omit [DecidableEq Value] in
theorem count_le {keys values : Nat} (size : links.size ≤ keys)
    (each : ∀ key, (links.members key).card ≤ values) : links.count ≤ keys * values := by
  have bounded : ∀ card ∈ links.entries.map fun entry => entry.2.card, card ≤ values := by
    intro card member
    obtain ⟨⟨key, set⟩, stored, rfl⟩ := List.mem_map.mp member
    have found := (Dict.mem_entries_iff _ _ _).mp stored
    have within := each key
    rwa [members, found] at within
  calc links.count ≤ (links.entries.map fun entry => entry.2.card).length * values :=
        List.sum_le_card_nsmul _ _ bounded
    _ = links.size * values := by rw [List.length_map]; rfl
    _ ≤ keys * values := Nat.mul_le_mul_right values size

theorem mem_listings_iff {key : Key} {value : Value} :
    key ∈ links.listings value ↔ value ∈ links.members key := by
  rw [mem_members_iff]
  simp only [listings, List.mem_map, List.mem_filter, decide_eq_true_eq]
  constructor
  · rintro ⟨⟨name, values⟩, ⟨stored, member⟩, rfl⟩
    exact ⟨values, (Dict.mem_entries_iff _ _ _).mp stored, member⟩
  · rintro ⟨values, stored, member⟩
    exact ⟨(key, values), ⟨(Dict.mem_entries_iff _ _ _).mpr stored, member⟩, rfl⟩

omit [DecidableEq Key] in
theorem nodup_listings (value : Value) : (links.listings value).Nodup :=
  links.nodup.sublist (List.filter_sublist.map Prod.fst)

private theorem listings_assign_eq {key : Key} {value other : Value} (different : value ≠ other)
    (entries : List (Key × Finset Value)) :
    ((Dict.assign key (insert value ((Dict.lookup key entries).getD ∅)) entries).filter
        (fun entry => other ∈ entry.2)).map Prod.fst =
      (entries.filter (fun entry => other ∈ entry.2)).map Prod.fst := by
  induction entries with
  | nil => simp [Dict.assign, Dict.lookup, Ne.symm different]
  | cons entry rest ih =>
    by_cases same : entry.1 = key
    · by_cases member : other ∈ entry.2
      · simp [Dict.assign, Dict.lookup, same, member]
      · simp [Dict.assign, Dict.lookup, same, member, Ne.symm different]
    · by_cases member : other ∈ entry.2
      · simpa [Dict.assign, Dict.lookup, same, member] using ih
      · simpa [Dict.assign, Dict.lookup, same, member] using ih

/-- A new link of one value leaves the listings of every other value in place. -/
theorem listings_link_of_ne (key : Key) {value other : Value} (different : value ≠ other) :
    (links.link key value).listings other = links.listings other :=
  listings_assign_eq different links.entries

/-- A key that enters with its first value becomes the latest listing. -/
theorem listings_link_of_absent {key : Key} (absent : links.get? key = none) (value : Value) :
    (links.link key value).listings value = links.listings value ++ [key] := by
  have fresh : key ∉ links.keys := (Dict.get?_eq_none_iff _ _).mp absent
  have empty : links.members key = ∅ := by simp [members, absent]
  simp only [link, listings, empty, Dict.entries_set_of_not_mem _ fresh]
  simp

/-- The first link of a value is its only listing, wherever its key stands. -/
theorem listings_link_of_unlisted {value : Value} (unlisted : links.listings value = [])
    (key : Key) : (links.link key value).listings value = [key] := by
  have only (other : Key) : other ∈ (links.link key value).listings value ↔ other = key := by
    rw [mem_listings_iff, members_link]
    split
    · rename_i same
      simp [same]
    · rename_i different
      rw [← mem_listings_iff, unlisted]
      simp [Ne.symm different]
  exact List.perm_singleton.mp
    ((List.perm_ext_iff_of_nodup (nodup_listings value) (List.nodup_singleton key)).mpr
      (by simpa using only))

omit [DecidableEq Key] in
theorem listings_unlink (gone value : Value) :
    (links.unlink gone).listings value = if gone = value then [] else links.listings value := by
  simp only [listings, unlink, Dict.mapValues, List.filter_map, List.map_map]
  split
  · rename_i same
    simp [same, Function.comp_def]
  · rename_i different
    simp [Function.comp_def, Ne.symm different]

theorem listings_erase (key : Key) (value : Value) :
    listings (links.erase key) value = (links.listings value).filter (· ≠ key) := by
  simp only [listings, Dict.erase, Dict.filterKeys, List.filter_map, List.filter_filter]
  congr 1
  apply List.filter_congr
  intro entry _
  simpa using Bool.and_comm _ _

omit [DecidableEq Value] in
/-- Stores without empty entries are determined by their members. -/
theorem get?_eq_of_members {first second : Links Key Value}
    (inhabited : ∀ key values, first.get? key = some values → values.Nonempty)
    (inhabited' : ∀ key values, second.get? key = some values → values.Nonempty)
    (same : ∀ key, first.members key = second.members key) (key : Key) :
    first.get? key = second.get? key := by
  have agree := same key
  unfold members at agree
  cases one : first.get? key with
  | none =>
    cases two : second.get? key with
    | none => rfl
    | some values =>
      rw [one, two] at agree
      exact absurd agree.symm (inhabited' key values two).ne_empty
  | some values =>
    cases two : second.get? key with
    | none =>
      rw [one, two] at agree
      exact absurd agree (inhabited key values one).ne_empty
    | some others =>
      rw [one, two] at agree
      exact congrArg some agree

end Links

end OctoChannel.Foundation
