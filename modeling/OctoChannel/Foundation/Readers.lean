import Mathlib.Data.List.Nodup

namespace OctoChannel.Foundation

section Steps

variable {Error Value Result : Type} {first : Except Error Value}

/-- A computation of two steps that succeeds has succeeded in both. -/
theorem ok_of_bind {next : Value → Except Error Result} {result : Result}
    (ran : first >>= next = .ok result) :
    ∃ value, first = .ok value ∧ next value = .ok result := by
  cases first with
  | error error => cases ran
  | ok value => exact ⟨value, rfl, ran⟩

theorem ok_of_map {next : Value → Result} {result : Result} (ran : first.map next = .ok result) :
    ∃ value, first = .ok value ∧ next value = result := by
  cases first with
  | error error => cases ran
  | ok value => exact ⟨value, rfl, Except.ok.inj ran⟩

end Steps

section Keyed

variable {Raw Item Key Error : Type}

/-- Reads the items in order, each of them under the keys of those before it. -/
def readKeyed (read : List Key → Raw → Except Error Item) (key : Item → Key) :
    List Key → List Raw → Except Error (List Item)
  | _, [] => .ok []
  | used, raw :: rest =>
    match read used raw with
    | .error error => .error error
    | .ok item => (readKeyed read key (key item :: used) rest).map (item :: ·)

variable {read : List Key → Raw → Except Error Item} {key : Item → Key} {used : List Key}
  {raw : List Raw} {items : List Item}

theorem readKeyed_cons {first : Raw} {rest : List Raw}
    (ran : readKeyed read key used (first :: rest) = .ok items) :
    ∃ item later, read used first = .ok item ∧
      readKeyed read key (key item :: used) rest = .ok later ∧ item :: later = items := by
  cases head : read used first with
  | error error => simp [readKeyed, head] at ran
  | ok item =>
    simp only [readKeyed, head] at ran
    obtain ⟨later, others, same⟩ := ok_of_map ran
    exact ⟨item, later, rfl, others, same⟩

theorem length_readKeyed (ran : readKeyed read key used raw = .ok items) :
    items.length = raw.length := by
  induction raw generalizing used items with
  | nil =>
    cases ran
    rfl
  | cons first rest ih =>
    obtain ⟨item, later, _, others, rfl⟩ := readKeyed_cons ran
    simp [ih others]

/-- Every item is read under the given keys and those of some items before it. -/
theorem read_of_readKeyed (ran : readKeyed read key used raw = .ok items) :
    ∀ item ∈ items, ∃ taken source, used ⊆ taken ∧ read taken source = .ok item := by
  induction raw generalizing used items with
  | nil =>
    cases ran
    simp
  | cons first rest ih =>
    obtain ⟨item, later, head, others, rfl⟩ := readKeyed_cons ran
    rw [List.forall_mem_cons]
    refine ⟨⟨used, first, List.Subset.refl used, head⟩, fun other member => ?_⟩
    obtain ⟨taken, source, kept, answer⟩ := ih others other member
    exact ⟨taken, source, fun old known => kept (List.mem_cons_of_mem _ known), answer⟩

/-- A reader that refuses used keys reads items with keys of their own. -/
theorem nodup_readKeyed
    (fresh : ∀ taken source item, read taken source = .ok item → key item ∉ taken)
    (ran : readKeyed read key used raw = .ok items) : (items.map key).Nodup := by
  induction raw generalizing used items with
  | nil =>
    cases ran
    simp
  | cons first rest ih =>
    obtain ⟨item, later, _, others, rfl⟩ := readKeyed_cons ran
    rw [List.map_cons, List.nodup_cons]
    refine ⟨fun again => ?_, ih others⟩
    obtain ⟨other, member, same⟩ := List.mem_map.mp again
    obtain ⟨taken, source, kept, answer⟩ := read_of_readKeyed others other member
    refine fresh taken source other answer (kept ?_)
    rw [same]
    exact List.mem_cons_self

end Keyed

end OctoChannel.Foundation
