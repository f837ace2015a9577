/-! Wire layouts: fields in order, each of which may depend on those before it. A
layout says at once what its data look like and how a reader takes them apart; the
main result compares the two on damaged data. -/

namespace OctoChannel.Foundation

variable {σ ε : Type} {proper : ε → Prop} {α β : Type}

/-- How reading one field off the data can end. -/
inductive Reading {Value : Type} (proper : ε → Prop) (spells : Value → List σ → Prop)
    (whole : List σ → Prop) (read : List σ → Except ε (Value × List σ)) (data : List σ) : Prop where
  | spelled {value : Value} {bytes rest : List σ} (there : whole data)
      (split : data = bytes ++ rest) (spelling : spells value bytes)
  | refused {error : ε} (there : whole data) (failed : read data = .error error)
      (right : proper error)
  | cut {value : Value} (damaged : ¬ whole data) (taken : read data = .ok (value, []))
  | broken {error : ε} (damaged : ¬ whole data) (failed : read data = .error error)
      (wrong : ¬ proper error)

/-- A field over symbols `σ`: how its values are spelled, how a reader takes it off
the data, and when it is whole, that is either spelled in full or refused with one of
the `proper` errors. A damaged field breaks the reader, or is cut off at the end of
the data without notice. -/
structure Field (σ ε : Type) (proper : ε → Prop) where
  Value : Type
  spells : Value → List σ → Prop
  whole : List σ → Prop
  read : List σ → Except ε (Value × List σ)
  reads : ∀ value bytes rest, spells value bytes → read (bytes ++ rest) = .ok (value, rest)
  present : ∀ value bytes rest, spells value bytes → whole (bytes ++ rest)
  reading : ∀ data, Reading proper spells whole read data
  hollow : ¬ whole []

namespace Field

variable (field : Field σ ε proper) {data rest : List σ} {value : field.Value} {error : ε}

theorem spelled (taken : field.read data = .ok (value, rest)) (there : field.whole data) :
    ∃ bytes, data = bytes ++ rest ∧ field.spells value bytes := by
  cases field.reading data with
  | @spelled other bytes left _ split spelling =>
    subst split
    rw [field.reads other bytes left spelling] at taken
    cases taken
    exact ⟨bytes, rfl, spelling⟩
  | refused _ failed _ =>
    rw [taken] at failed
    cases failed
  | cut damaged _ => exact absurd there damaged
  | broken damaged _ _ => exact absurd there damaged

theorem refused (failed : field.read data = .error error) : field.whole data ↔ proper error := by
  cases field.reading data with
  | @spelled other bytes left there split spelling =>
    subst split
    rw [field.reads other bytes left spelling] at failed
    cases failed
  | refused there again right =>
    rw [failed] at again
    cases again
    exact ⟨fun _ => right, fun _ => there⟩
  | cut _ taken =>
    rw [failed] at taken
    cases taken
  | broken damaged again wrong =>
    rw [failed] at again
    cases again
    exact ⟨fun there => absurd there damaged, fun right => absurd right wrong⟩

/-- A field that is read although it is not whole runs to the end of the data. -/
theorem spent (taken : field.read data = .ok (value, rest)) (damaged : ¬ field.whole data) :
    rest = [] := by
  cases field.reading data with
  | spelled there _ _ => exact absurd there damaged
  | refused there _ _ => exact absurd there damaged
  | cut _ again =>
    rw [taken] at again
    cases again
    rfl
  | broken _ failed _ =>
    rw [taken] at failed
    cases failed

end Field

inductive Layout (σ ε : Type) (proper : ε → Prop) (α : Type) : Type 1 where
  | done (value : α)
  /-- All that is left, as the last field. -/
  | remaining (value : List σ → α)
  | field (first : Field σ ε proper) (next : first.Value → Layout σ ε proper α)

namespace Layout

/-- The reader of a layout. -/
def read : Layout σ ε proper α → StateT (List σ) (Except ε) α
  | .done value => pure value
  | .remaining value => fun data => .ok (value data, [])
  | .field first next => StateT.bind first.read fun value => (next value).read

/-- The data spell a value field by field, with a rest behind the last one. -/
def Spells : Layout σ ε proper α → α → List σ → List σ → Prop
  | .done value, result, data, rest => result = value ∧ rest = data
  | .remaining value, result, data, rest => result = value data ∧ rest = []
  | .field first next, result, data, rest =>
    ∃ value bytes tail, data = bytes ++ tail ∧ first.spells value bytes ∧
      (next value).Spells result tail rest

/-- Every field is whole, up to the first one that is refused. -/
def Whole : Layout σ ε proper α → List σ → Prop
  | .done _, _ => True
  | .remaining _, _ => True
  | .field first next, data =>
    first.whole data ∧
      ∀ value bytes tail, data = bytes ++ tail → first.spells value bytes → (next value).Whole tail

/-- The reader does as it should: it returns what the data spell, or refuses them
with a proper error. -/
def Meets (layout : Layout σ ε proper α) (data : List σ) : Prop :=
  match layout.read data with
  | .error error => proper error
  | .ok (value, rest) => layout.Spells value data rest

/-- The value can come out behind a field that ran to the end of the data. -/
def Cut : Layout σ ε proper α → α → Prop
  | .done _, _ => False
  | .remaining _, _ => False
  | .field _ next, result =>
    ∃ value, (∃ rest, (next value).read [] = .ok (result, rest)) ∨ (next value).Cut result

/-- The last field takes all that is left. -/
def Exhausts : Layout σ ε proper α → Prop
  | .done _ => False
  | .remaining _ => True
  | .field _ next => ∀ value, (next value).Exhausts

def map (change : α → β) : Layout σ ε proper α → Layout σ ε proper β
  | .done value => .done (change value)
  | .remaining value => .remaining fun data => change (value data)
  | .field first next => .field first fun value => (next value).map change

theorem read_field (first : Field σ ε proper) (next : first.Value → Layout σ ε proper α) :
    (field first next).read =
      (first.read : StateT (List σ) (Except ε) first.Value) >>= fun value => (next value).read :=
  rfl

theorem read_field_ok {first : Field σ ε proper} {next : first.Value → Layout σ ε proper α}
    {data rest : List σ} {value : first.Value} (taken : first.read data = .ok (value, rest)) :
    (field first next).read data = (next value).read rest := by
  simp only [read, StateT.bind, bind, taken, Except.bind]

theorem read_field_error {first : Field σ ε proper} {next : first.Value → Layout σ ε proper α}
    {data : List σ} {error : ε} (failed : first.read data = .error error) :
    (field first next).read data = .error error := by
  simp only [read, StateT.bind, bind, failed, Except.bind]

theorem read_map (change : α → β) (layout : Layout σ ε proper α) :
    (layout.map change).read = change <$> layout.read := by
  funext data
  induction layout generalizing data with
  | done value => rfl
  | remaining value => rfl
  | field first next ih =>
    change _ = (fun result => (change result.1, result.2)) <$> (field first next).read data
    rw [map]
    cases taken : first.read data with
    | error error =>
      rw [read_field_error taken, read_field_error taken]
      rfl
    | ok result => rw [read_field_ok taken, read_field_ok taken, ih result.1 result.2]; rfl

/-- What a layout spells is read back. -/
theorem read_of_spells {layout : Layout σ ε proper α} {result : α} {data rest : List σ}
    (spelled : layout.Spells result data rest) : layout.read data = .ok (result, rest) := by
  induction layout generalizing data with
  | done value =>
    obtain ⟨rfl, rfl⟩ := spelled
    rfl
  | remaining value =>
    obtain ⟨rfl, rfl⟩ := spelled
    rfl
  | field first next ih =>
    obtain ⟨value, bytes, tail, rfl, head, later⟩ := spelled
    rw [read_field_ok (first.reads value bytes tail head)]
    exact ih value later

/-- An empty rest is never refused properly, whatever fields are left. -/
theorem read_nil_error {layout : Layout σ ε proper α} {error : ε}
    (failed : layout.read [] = .error error) : ¬ proper error := by
  induction layout with
  | done value => cases failed
  | remaining value => cases failed
  | field first next ih =>
    cases taken : first.read [] with
    | error early =>
      rw [read_field_error taken] at failed
      cases failed
      exact mt (first.refused taken).mpr first.hollow
    | ok result =>
      obtain ⟨value, rest⟩ := result
      obtain rfl := first.spent taken first.hollow
      rw [read_field_ok taken] at failed
      exact ih value failed

/-- A whole field that is read is spelled in front of what it leaves, and in no
other way. -/
theorem whole_field_iff {first : Field σ ε proper} {next : first.Value → Layout σ ε proper α}
    {data rest : List σ} {value : first.Value} (taken : first.read data = .ok (value, rest)) :
    (field first next).Whole data ↔ first.whole data ∧ (next value).Whole rest := by
  constructor
  · rintro ⟨whole, later⟩
    obtain ⟨bytes, rfl, spelled⟩ := first.spelled taken whole
    exact ⟨whole, later value bytes rest rfl spelled⟩
  · rintro ⟨whole, later⟩
    refine ⟨whole, ?_⟩
    rintro other bytes tail rfl spelled
    have again := first.reads other bytes tail spelled
    rw [taken] at again
    cases again
    exact later

theorem spells_field_iff {first : Field σ ε proper} {next : first.Value → Layout σ ε proper α}
    {data rest left : List σ} {value : first.Value} {result : α}
    (taken : first.read data = .ok (value, rest)) :
    (field first next).Spells result data left ↔
      first.whole data ∧ (next value).Spells result rest left := by
  constructor
  · rintro ⟨other, bytes, tail, rfl, spelled, later⟩
    have again := first.reads other bytes tail spelled
    rw [taken] at again
    cases again
    exact ⟨first.present value bytes rest spelled, later⟩
  · rintro ⟨whole, later⟩
    obtain ⟨bytes, rfl, spelled⟩ := first.spelled taken whole
    exact ⟨value, bytes, rest, rfl, spelled, later⟩

/-- The reader does as it should exactly on whole data. -/
theorem meets_iff (layout : Layout σ ε proper α) (data : List σ) :
    layout.Meets data ↔ layout.Whole data := by
  induction layout generalizing data with
  | done value => exact ⟨fun _ => trivial, fun _ => ⟨rfl, rfl⟩⟩
  | remaining value => exact ⟨fun _ => trivial, fun _ => ⟨rfl, rfl⟩⟩
  | field first next ih =>
    cases taken : first.read data with
    | error error =>
      rw [Meets, read_field_error taken]
      constructor
      · intro refused
        refine ⟨(first.refused taken).mpr refused, ?_⟩
        rintro value bytes tail rfl spelled
        rw [first.reads value bytes tail spelled] at taken
        cases taken
      · rintro ⟨whole, -⟩
        exact (first.refused taken).mp whole
    | ok result =>
      obtain ⟨value, rest⟩ := result
      rw [whole_field_iff taken, ← ih value rest, Meets, Meets, read_field_ok taken]
      by_cases whole : first.whole data
      · cases read : (next value).read rest with
        | error error => exact ⟨fun refused => ⟨whole, refused⟩, And.right⟩
        | ok answer => exact spells_field_iff taken
      · obtain rfl := first.spent taken whole
        cases read : (next value).read [] with
        | error error =>
          have improper := read_nil_error read
          exact ⟨fun refused => absurd refused improper, fun both => absurd both.1 whole⟩
        | ok answer => exact spells_field_iff taken

/-- A result of the reader is spelled by the data, or comes out behind a cut field. -/
theorem spells_or_cut {layout : Layout σ ε proper α} {data rest : List σ} {result : α}
    (read : layout.read data = .ok (result, rest)) :
    layout.Spells result data rest ∨ layout.Cut result := by
  induction layout generalizing data with
  | done value =>
    cases read
    exact .inl ⟨rfl, rfl⟩
  | remaining value =>
    cases read
    exact .inl ⟨rfl, rfl⟩
  | field first next ih =>
    cases taken : first.read data with
    | error error =>
      rw [read_field_error taken] at read
      cases read
    | ok found =>
      obtain ⟨value, left⟩ := found
      rw [read_field_ok taken] at read
      rw [spells_field_iff taken]
      rcases ih value read with later | later
      · by_cases whole : first.whole data
        · exact .inl ⟨whole, later⟩
        · obtain rfl := first.spent taken whole
          exact .inr ⟨value, .inl ⟨rest, read⟩⟩
      · exact .inr ⟨value, .inr later⟩

/-- A field that cannot be read off an empty rest is not what a cut field leaves. -/
theorem cut_field {first second : Field σ ε proper} {error : ε} {result : α}
    {next : first.Value → second.Value → Layout σ ε proper α}
    (broken : second.read [] = .error error)
    (cut : (field first fun value => field second (next value)).Cut result) :
    ∃ value, (field second (next value)).Cut result := by
  obtain ⟨value, ⟨rest, read⟩ | later⟩ := cut
  · rw [read_field_error broken] at read
    cases read
  · exact ⟨value, later⟩

theorem rest_of_exhausts {layout : Layout σ ε proper α} (exhausts : layout.Exhausts)
    {data rest : List σ} {result : α} (spelled : layout.Spells result data rest) : rest = [] := by
  induction layout generalizing data with
  | done value => exact exhausts.elim
  | remaining value => exact spelled.2
  | field first next ih =>
    obtain ⟨value, bytes, tail, -, -, later⟩ := spelled
    exact ih value (exhausts value) later

end Layout

end OctoChannel.Foundation
