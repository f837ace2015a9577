import Mathlib.Data.Finset.Card
import Mathlib.Data.Finset.Dedup
import Mathlib.Data.List.Infix

namespace OctoChannel.Foundation

structure Section (Heading Item : Type) where
  heading : Heading
  items : List Item

variable {Heading Item : Type}

/-- The items before the first heading. -/
def leadItems : List (Heading ⊕ Item) → List Item
  | .inr item :: rest => item :: leadItems rest
  | _ => []

/-- The sections of the headings. -/
def headed : List (Heading ⊕ Item) → List (Section Heading Item)
  | [] => []
  | .inl heading :: rest => ⟨heading, leadItems rest⟩ :: headed rest
  | .inr _ :: rest => headed rest

/-- All sections; items before the first heading stand below the fallback. -/
def outline (fallback : Heading) (entries : List (Heading ⊕ Item)) :
    List (Section Heading Item) :=
  if (leadItems entries).isEmpty then headed entries
  else ⟨fallback, leadItems entries⟩ :: headed entries

theorem leadItems_append_heading (before : List (Heading ⊕ Item)) (heading : Heading)
    (after : List (Heading ⊕ Item)) :
    leadItems (before ++ .inl heading :: after) = leadItems before := by
  induction before with
  | nil => rfl
  | cons entry rest ih =>
    cases entry with
    | inl other => rfl
    | inr item => simp [leadItems, ih]

theorem headed_append_heading (before : List (Heading ⊕ Item)) (heading : Heading)
    (after : List (Heading ⊕ Item)) :
    headed (before ++ .inl heading :: after) =
      headed before ++ ⟨heading, leadItems after⟩ :: headed after := by
  induction before with
  | nil => rfl
  | cons entry rest ih =>
    cases entry with
    | inl other => simp [headed, ih, leadItems_append_heading]
    | inr item => simpa [headed] using ih

/-- A heading opens its section behind those of the entries before it. -/
theorem outline_append_heading (fallback : Heading) (before : List (Heading ⊕ Item))
    (heading : Heading) (after : List (Heading ⊕ Item)) :
    outline fallback (before ++ .inl heading :: after) =
      outline fallback before ++ ⟨heading, leadItems after⟩ :: headed after := by
  simp only [outline, leadItems_append_heading, headed_append_heading]
  split <;> rfl

/-- An item goes to the last section. -/
def addItem (fallback : Heading) (item : Item) :
    List (Section Heading Item) → List (Section Heading Item)
  | [] => [⟨fallback, [item]⟩]
  | [last] => [{ last with items := last.items ++ [item] }]
  | first :: next :: rest => first :: addItem fallback item (next :: rest)

def addEntry (fallback : Heading) (sections : List (Section Heading Item)) :
    Heading ⊕ Item → List (Section Heading Item)
  | .inl heading => sections ++ [⟨heading, []⟩]
  | .inr item => addItem fallback item sections

theorem addItem_append (fallback : Heading) (item : Item)
    (sections : List (Section Heading Item)) (last : Section Heading Item) :
    addItem fallback item (sections ++ [last]) =
      sections ++ [{ last with items := last.items ++ [item] }] := by
  induction sections with
  | nil => rfl
  | cons first rest ih =>
    cases rest with
    | nil => rfl
    | cons next more => simpa [addItem] using ih

/-- Only the last section still grows. -/
theorem foldl_addEntry_append (fallback heading : Heading) (entries : List (Heading ⊕ Item))
    (sections : List (Section Heading Item)) (items : List Item) :
    entries.foldl (addEntry fallback) (sections ++ [⟨heading, items⟩]) =
      sections ++ ⟨heading, items ++ leadItems entries⟩ :: headed entries := by
  induction entries generalizing sections heading items with
  | nil => simp [leadItems, headed]
  | cons entry rest ih =>
    cases entry with
    | inl next =>
      have opened := ih next (sections ++ [⟨heading, items⟩]) []
      simpa [addEntry, leadItems, headed] using opened
    | inr item =>
      have grown := ih heading sections (items ++ [item])
      simpa [addEntry, addItem_append, leadItems, headed] using grown

theorem foldl_addEntry (fallback : Heading) (entries : List (Heading ⊕ Item)) :
    entries.foldl (addEntry fallback) [] = outline fallback entries := by
  cases entries with
  | nil => rfl
  | cons entry rest =>
    cases entry with
    | inl heading =>
      simpa [addEntry, outline, leadItems, headed] using
        foldl_addEntry_append fallback heading rest [] []
    | inr item =>
      simpa [addEntry, addItem, outline, leadItems, headed] using
        foldl_addEntry_append fallback fallback rest [] [item]

/-- The items of sections, each with its heading. -/
def underHeadings (sections : List (Section Heading Item)) : List (Heading × Item) :=
  sections.flatMap fun part => part.items.map (part.heading, ·)

/-- The items of a list, each with the nearest heading before it. -/
def labelled (current : Heading) : List (Heading ⊕ Item) → List (Heading × Item)
  | [] => []
  | .inl heading :: rest => labelled heading rest
  | .inr item :: rest => (current, item) :: labelled current rest

@[simp] theorem underHeadings_nil : underHeadings ([] : List (Section Heading Item)) = [] := rfl

@[simp] theorem underHeadings_cons (first : Section Heading Item)
    (rest : List (Section Heading Item)) :
    underHeadings (first :: rest) = first.items.map (first.heading, ·) ++ underHeadings rest := rfl

theorem underHeadings_append (before after : List (Section Heading Item)) :
    underHeadings (before ++ after) = underHeadings before ++ underHeadings after := by
  simp [underHeadings]

theorem labelled_eq (current : Heading) (entries : List (Heading ⊕ Item)) :
    labelled current entries =
      (leadItems entries).map (current, ·) ++ underHeadings (headed entries) := by
  induction entries generalizing current with
  | nil => rfl
  | cons entry rest ih =>
    cases entry with
    | inl heading => simp [labelled, leadItems, headed, ih]
    | inr item => simp [labelled, leadItems, headed, ih]

/-- The outline keeps every item, in order, below the nearest heading before it. -/
theorem underHeadings_outline (fallback : Heading) (entries : List (Heading ⊕ Item)) :
    underHeadings (outline fallback entries) = labelled fallback entries := by
  rw [labelled_eq, outline]
  split
  · rename_i noLead
    simp [List.isEmpty_iff.mp noLead]
  · rfl

theorem underHeadings_nonempty (sections : List (Section Heading Item)) :
    underHeadings (sections.filter fun part => !part.items.isEmpty) = underHeadings sections := by
  induction sections with
  | nil => rfl
  | cons first rest ih =>
    by_cases empty : first.items.isEmpty
    · simp [ih, List.isEmpty_iff.mp empty]
    · simp [empty, ih]

/-- `items[-count:]` of a positive count. -/
def lastItems {Entry : Type} (count : Nat) (items : List Entry) : List Entry :=
  items.drop (items.length - count)

/-- From the last section backwards, as many items as the budget still allows. -/
def trimFrom : Nat → List (Section Heading Item) → List (Section Heading Item)
  | _, [] => []
  | remaining, part :: rest =>
    if remaining = 0 then []
    else
      ⟨part.heading, lastItems remaining part.items⟩ ::
        trimFrom (remaining - (lastItems remaining part.items).length) rest

def recentSections (maxSections maxItems : Nat) (sections : List (Section Heading Item)) :
    List (Section Heading Item) :=
  (trimFrom maxItems (lastItems maxSections sections).reverse).reverse

theorem lastItems_suffix {Entry : Type} (count : Nat) (items : List Entry) :
    lastItems count items <:+ items := List.drop_suffix _ _

theorem lastItems_length {Entry : Type} (count : Nat) (items : List Entry) :
    (lastItems count items).length = min count items.length := by
  simp only [lastItems, List.length_drop]
  omega

theorem lastItems_append {Entry : Type} (count : Nat) (before after : List Entry) :
    lastItems count (before ++ after) =
      lastItems (count - after.length) before ++ lastItems count after := by
  simp only [lastItems, List.length_append, List.drop_append]
  by_cases enough : count ≤ after.length
  · have skipped : before.length ≤ before.length + after.length - count := by omega
    have inside : before.length + after.length - count - before.length = after.length - count := by
      omega
    rw [List.drop_of_length_le skipped, inside, Nat.sub_eq_zero_of_le enough, Nat.sub_zero,
      List.drop_length]
  · have reached : before.length + after.length - count =
        before.length - (count - after.length) := by omega
    have whole : after.length - count = 0 := by omega
    have none : before.length + after.length - count - before.length = 0 := by omega
    rw [none, whole, reached]

theorem lastItems_map {Entry Other : Type} (count : Nat) (render : Entry → Other)
    (items : List Entry) : lastItems count (items.map render) = (lastItems count items).map render := by
  simp [lastItems, List.map_drop]

/-- Trimming backwards keeps the last items of the whole. -/
theorem underHeadings_trimFrom (remaining : Nat) (backwards : List (Section Heading Item)) :
    underHeadings (trimFrom remaining backwards).reverse =
      lastItems remaining (underHeadings backwards.reverse) := by
  induction backwards generalizing remaining with
  | nil => simp [trimFrom, lastItems]
  | cons part rest ih =>
    by_cases spent : remaining = 0
    · simp [trimFrom, spent, lastItems]
    · have left : remaining - (lastItems remaining part.items).length =
          remaining - part.items.length := by
        rw [lastItems_length]
        omega
      simp [trimFrom, spent, underHeadings_append, lastItems_append, lastItems_map, ih, left]

theorem underHeadings_recent (maxSections maxItems : Nat)
    (sections : List (Section Heading Item)) :
    underHeadings (recentSections maxSections maxItems sections) =
      lastItems maxItems (underHeadings (lastItems maxSections sections)) := by
  rw [recentSections, underHeadings_trimFrom, List.reverse_reverse]

theorem trimFrom_nonempty (remaining : Nat) (backwards : List (Section Heading Item))
    (nonempty : ∀ part ∈ backwards, part.items ≠ []) :
    ∀ part ∈ trimFrom remaining backwards, part.items ≠ [] := by
  induction backwards generalizing remaining with
  | nil => simp [trimFrom]
  | cons first rest ih =>
    intro part member
    by_cases spent : remaining = 0
    · simp [trimFrom, spent] at member
    · simp only [trimFrom, spent, if_false, List.mem_cons] at member
      rcases member with rfl | later
      · have some := nonempty first (by simp)
        have length := lastItems_length remaining first.items
        have positive := List.length_pos_iff.mpr some
        intro none
        rw [show lastItems remaining first.items = [] from none, List.length_nil] at length
        omega
      · exact ih _ (fun part member => nonempty part (by simp [member])) part later

theorem recentSections_nonempty {maxSections maxItems : Nat}
    {sections : List (Section Heading Item)} (nonempty : ∀ part ∈ sections, part.items ≠ []) :
    ∀ part ∈ recentSections maxSections maxItems sections, part.items ≠ [] := by
  intro part member
  refine trimFrom_nonempty maxItems _ ?_ part (List.mem_reverse.mp member)
  intro part member
  exact nonempty part ((lastItems_suffix maxSections sections).subset (List.mem_reverse.mp member))

/-- At most so many items, below at most so many different headings. -/
def Fits [DecidableEq Heading] (maxSections maxItems : Nat) (kept : List (Heading × Item)) : Prop :=
  kept.length ≤ maxItems ∧ (kept.map Prod.fst).toFinset.card ≤ maxSections

structure LongestSuffix {Entry : Type} (allowed : List Entry → Prop) (kept all : List Entry) :
    Prop where
  isSuffix : kept <:+ all
  isAllowed : allowed kept
  longest : ∀ longer, longer <:+ all → allowed longer → longer.length ≤ kept.length

/-- When a single entry is allowed, the longest suffix ends as the whole does. -/
theorem LongestSuffix.getLast? {Entry : Type} {allowed : List Entry → Prop}
    {kept all : List Entry} (longest : LongestSuffix allowed kept all)
    (single : ∀ entry, allowed [entry]) : kept.getLast? = all.getLast? := by
  rcases List.eq_nil_or_concat all with rfl | ⟨front, last, rfl⟩
  · rw [List.eq_nil_of_suffix_nil longest.isSuffix]
  · have one := longest.longest [last] (by simp) (single last)
    have some : kept ≠ [] := List.ne_nil_of_length_pos one
    obtain ⟨dropped, same⟩ := longest.isSuffix
    rw [← same, List.getLast?_append_of_ne_nil _ some]

section Budgets

variable [DecidableEq Heading]

/-- The headings of the items are among those of the sections. -/
theorem headings_subset (sections : List (Section Heading Item)) :
    ((underHeadings sections).map Prod.fst).toFinset ⊆
      (sections.map Section.heading).toFinset := by
  intro heading member
  simp only [List.mem_toFinset, List.mem_map, underHeadings, List.mem_flatMap] at member ⊢
  obtain ⟨labelled, ⟨part, within, item, _, rfl⟩, rfl⟩ := member
  exact ⟨part, within, rfl⟩

/-- Sections that all have items show all their headings. -/
theorem headings_eq {sections : List (Section Heading Item)}
    (nonempty : ∀ part ∈ sections, part.items ≠ []) :
    ((underHeadings sections).map Prod.fst).toFinset =
      (sections.map Section.heading).toFinset := by
  refine (headings_subset sections).antisymm ?_
  intro heading member
  simp only [List.mem_toFinset, List.mem_map] at member ⊢
  obtain ⟨part, within, rfl⟩ := member
  obtain ⟨item, rest, items⟩ := List.exists_cons_of_ne_nil (nonempty part within)
  refine ⟨(part.heading, item), ?_, rfl⟩
  simp only [underHeadings, List.mem_flatMap]
  exact ⟨part, within, by simp [items]⟩

/-- A suffix that reaches into an earlier section shows one heading more. -/
theorem length_le_of_fits {earlier last : List (Section Heading Item)}
    (distinct : ((earlier ++ last).map Section.heading).Nodup)
    (nonempty : ∀ part ∈ earlier ++ last, part.items ≠ [])
    {longer : List (Heading × Item)} (suffix : longer <:+ underHeadings (earlier ++ last))
    (few : (longer.map Prod.fst).toFinset.card ≤ last.length) :
    longer.length ≤ (underHeadings last).length := by
  by_contra long
  rw [underHeadings_append] at suffix
  obtain ⟨front, cut⟩ : ∃ front, front ++ underHeadings last = longer := by
    refine (List.suffix_of_suffix_length_le (List.suffix_append _ _) suffix ?_)
    omega
  subst cut
  have front_suffix : front <:+ underHeadings earlier := by
    obtain ⟨skipped, same⟩ := suffix
    exact ⟨skipped, by simpa [← List.append_assoc] using same⟩
  have front_some : front ≠ [] := by
    rintro rfl
    simp at long
  obtain ⟨label, member⟩ := List.exists_mem_of_ne_nil front front_some
  have shown : label.1 ∈ (earlier.map Section.heading).toFinset :=
    headings_subset earlier
      (List.mem_toFinset.mpr (List.mem_map_of_mem (front_suffix.subset member)))
  have fresh : label.1 ∉ (last.map Section.heading).toFinset := by
    rw [List.map_append, List.nodup_append] at distinct
    intro again
    exact distinct.2.2 _ (List.mem_toFinset.mp shown) _ (List.mem_toFinset.mp again) rfl
  have counted : (insert label.1 (last.map Section.heading).toFinset).card = last.length + 1 := by
    rw [List.map_append, List.nodup_append] at distinct
    rw [Finset.card_insert_of_notMem fresh, List.toFinset_card_of_nodup distinct.2.1,
      List.length_map]
  have within : insert label.1 (last.map Section.heading).toFinset ⊆
      ((front ++ underHeadings last).map Prod.fst).toFinset := by
    rw [← headings_eq fun part member => nonempty part (List.mem_append_right _ member)]
    intro heading among
    rcases Finset.mem_insert.mp among with rfl | among
    · exact List.mem_toFinset.mpr (List.mem_map_of_mem (List.mem_append_left _ member))
    · rw [List.map_append, List.toFinset_append]
      exact Finset.mem_union_right _ among
  have more := Finset.card_le_card within
  omega

/-- What is kept is the longest suffix of the items that both budgets allow. -/
theorem recentSections_longest {maxSections maxItems : Nat}
    {sections : List (Section Heading Item)} (distinct : (sections.map Section.heading).Nodup)
    (nonempty : ∀ part ∈ sections, part.items ≠ []) :
    LongestSuffix (Fits maxSections maxItems)
      (underHeadings (recentSections maxSections maxItems sections)) (underHeadings sections) := by
  rw [underHeadings_recent]
  obtain ⟨earlier, cut⟩ := lastItems_suffix maxSections sections
  have count := lastItems_length maxSections sections
  generalize lastItems maxSections sections = last at cut count
  subst cut
  have short : last.length ≤ maxSections := by omega
  refine ⟨?_, ⟨?_, ?_⟩, ?_⟩
  · rw [underHeadings_append]
    exact (lastItems_suffix _ _).trans (List.suffix_append _ _)
  · rw [lastItems_length]
    omega
  · have fewer : ((lastItems maxItems (underHeadings last)).map Prod.fst).toFinset ⊆
        (last.map Section.heading).toFinset := by
      intro heading member
      simp only [List.mem_toFinset, List.mem_map] at member
      obtain ⟨label, member, rfl⟩ := member
      exact headings_subset last
        (List.mem_toFinset.mpr (List.mem_map_of_mem ((lastItems_suffix _ _).subset member)))
    calc _ ≤ (last.map Section.heading).toFinset.card := Finset.card_le_card fewer
      _ ≤ (last.map Section.heading).length := List.toFinset_card_le _
      _ ≤ maxSections := by simpa using short
  · intro longer suffix allowed
    rw [lastItems_length]
    refine le_min allowed.1 ?_
    by_cases whole : earlier = []
    · subst whole
      exact suffix.length_le
    · refine length_le_of_fits distinct nonempty suffix (allowed.2.trans ?_)
      have some := List.length_pos_iff.mpr whole
      simp only [List.length_append] at count
      omega

end Budgets

/-- Each heading gets its number in the list. -/
def numberEntries : Nat → List (Heading ⊕ Item) → List ((Nat × Heading) ⊕ Item)
  | _, [] => []
  | number, .inl heading :: rest => .inl (number, heading) :: numberEntries (number + 1) rest
  | number, .inr item :: rest => .inr item :: numberEntries number rest

/-- Numbers do not change the sections. -/
def Section.unnumbered (part : Section (Nat × Heading) Item) : Section Heading Item :=
  ⟨part.heading.2, part.items⟩

theorem leadItems_numbered (number : Nat) (entries : List (Heading ⊕ Item)) :
    leadItems (numberEntries number entries) = leadItems entries := by
  induction entries generalizing number with
  | nil => rfl
  | cons entry rest ih =>
    cases entry with
    | inl heading => rfl
    | inr item => simp [numberEntries, leadItems, ih]

theorem headed_numbered (number : Nat) (entries : List (Heading ⊕ Item)) :
    (headed (numberEntries number entries)).map Section.unnumbered = headed entries := by
  induction entries generalizing number with
  | nil => rfl
  | cons entry rest ih =>
    cases entry with
    | inl heading => simp [numberEntries, headed, ih, leadItems_numbered, Section.unnumbered]
    | inr item => simp [numberEntries, headed, ih]

theorem outline_numbered (fallback : Heading) (entries : List (Heading ⊕ Item)) :
    (outline (0, fallback) (numberEntries 1 entries)).map Section.unnumbered =
      outline fallback entries := by
  simp only [outline, leadItems_numbered]
  split
  · exact headed_numbered 1 entries
  · simp [headed_numbered, Section.unnumbered]

theorem headed_numbers_le (number : Nat) (entries : List (Heading ⊕ Item)) :
    ∀ part ∈ headed (numberEntries number entries), number ≤ part.heading.1 := by
  induction entries generalizing number with
  | nil => simp [numberEntries, headed]
  | cons entry rest ih =>
    cases entry with
    | inl heading =>
      intro part member
      simp only [numberEntries, headed, List.mem_cons] at member
      rcases member with rfl | later
      · exact Nat.le_refl _
      · exact (Nat.le_succ _).trans (ih (number + 1) part later)
    | inr item => simpa [numberEntries, headed] using ih number

theorem headed_numbered_nodup (number : Nat) (entries : List (Heading ⊕ Item)) :
    ((headed (numberEntries number entries)).map Section.heading).Nodup := by
  induction entries generalizing number with
  | nil => simp [numberEntries, headed]
  | cons entry rest ih =>
    cases entry with
    | inr item => simpa [numberEntries, headed] using ih number
    | inl heading =>
      simp only [numberEntries, headed, List.map_cons, List.nodup_cons, List.mem_map]
      refine ⟨?_, ih (number + 1)⟩
      rintro ⟨part, member, same⟩
      have later := headed_numbers_le (number + 1) rest part member
      rw [same] at later
      exact absurd later (Nat.not_succ_le_self number)

theorem outline_numbered_nodup (fallback : Heading) (entries : List (Heading ⊕ Item)) :
    ((outline (0, fallback) (numberEntries 1 entries)).map Section.heading).Nodup := by
  rw [outline]
  split
  · exact headed_numbered_nodup 1 entries
  · simp only [List.map_cons, List.nodup_cons, List.mem_map]
    refine ⟨?_, headed_numbered_nodup 1 entries⟩
    rintro ⟨part, member, same⟩
    have later := headed_numbers_le 1 entries part member
    rw [same] at later
    simp at later

end OctoChannel.Foundation
