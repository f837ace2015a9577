import Mathlib.Init

/-! How a computation over a state ends, whatever the state: in a value or in a fault. The
state outlives the fault, as the attributes of a Python object do. -/

namespace OctoChannel.Foundation

variable {State Fault Value Result Item : Type}

/-- Changes the state, and ends in a value or in a fault. -/
abbrev Attempt (State Fault : Type) := ExceptT Fault (StateM State)

namespace Attempt

/-- From every state the end is one that is allowed. -/
def Ends (allowed : Except Fault Value → Prop) (attempt : Attempt State Fault Value) : Prop :=
  ∀ state, allowed (attempt.run.run state).1

def Returns (attempt : Attempt State Fault Value) : Prop :=
  attempt.Ends fun ended => ∃ value, ended = .ok value

def Raises (kind : Fault → Prop) (attempt : Attempt State Fault Value) : Prop :=
  attempt.Ends fun ended => ∃ fault, kind fault ∧ ended = .error fault

def Avoids (fault : Fault) (attempt : Attempt State Fault Value) : Prop :=
  attempt.Ends fun ended => ended ≠ .error fault

variable {kind : Fault → Prop} {fault : Fault}

theorem Returns.run {attempt : Attempt State Fault Value} (returns : attempt.Returns)
    (state : State) : ∃ value later, attempt.run.run state = (.ok value, later) := by
  obtain ⟨value, ended⟩ := returns state
  exact ⟨value, _, Prod.ext ended rfl⟩

theorem Raises.run_ne {attempt : Attempt State Fault Value} (raises : attempt.Raises kind)
    (state : State) : ¬ ∃ value later, attempt.run.run state = (.ok value, later) := by
  rintro ⟨value, later, ran⟩
  obtain ⟨fault, _, ended⟩ := raises state
  rw [ran] at ended
  cases ended

/-- The rule of composition: what the first part allows leads to what the whole allows. -/
theorem Ends.bind {between : Except Fault Value → Prop} {allowed : Except Fault Result → Prop}
    {first : Attempt State Fault Value} {next : Value → Attempt State Fault Result}
    (begins : first.Ends between) (goes : ∀ value, between (.ok value) → (next value).Ends allowed)
    (stops : ∀ fault, between (.error fault) → allowed (.error fault)) :
    (first >>= next).Ends allowed := by
  intro state
  have begun := begins state
  rw [ExceptT.run_bind, StateT.run_bind]
  rcases ended : first.run.run state with ⟨_ | value, later⟩
  · rw [ended] at begun
    exact stops _ begun
  · rw [ended] at begun
    exact goes value begun later

theorem returns_pure (value : Value) : (pure value : Attempt State Fault Value).Returns :=
  fun _ => ⟨value, rfl⟩

theorem Returns.bind {first : Attempt State Fault Value}
    {next : Value → Attempt State Fault Result} (begins : first.Returns)
    (goes : ∀ value, (next value).Returns) : (first >>= next).Returns := by
  refine Ends.bind begins (fun value _ => goes value) ?_
  rintro fault ⟨value, ended⟩
  cases ended

theorem returns_mapM {step : Item → Attempt State Fault Value} {items : List Item}
    (each : ∀ item ∈ items, (step item).Returns) : (items.mapM step).Returns := by
  induction items with
  | nil => exact returns_pure []
  | cons item rest ih =>
    rw [List.forall_mem_cons] at each
    rw [List.mapM_cons]
    refine each.1.bind fun value => ?_
    refine (ih each.2).bind fun others => ?_
    exact returns_pure (value :: others)

theorem raises_throw (fits : kind fault) :
    (throw fault : Attempt State Fault Value).Raises kind :=
  fun _ => ⟨fault, fits, rfl⟩

theorem Raises.bind {first : Attempt State Fault Value} (raises : first.Raises kind)
    (next : Value → Attempt State Fault Result) : (first >>= next).Raises kind := by
  refine Ends.bind raises ?_ ?_
  · rintro value ⟨fault, _, ended⟩
    cases ended
  · rintro fault ⟨same, fits, ended⟩
    cases ended
    exact ⟨fault, fits, rfl⟩

theorem Returns.bind_raises {first : Attempt State Fault Value}
    {next : Value → Attempt State Fault Result} (begins : first.Returns)
    (goes : ∀ value, (next value).Raises kind) : (first >>= next).Raises kind := by
  refine Ends.bind begins (fun value _ => goes value) ?_
  rintro fault ⟨value, ended⟩
  cases ended

/-- A list holds only items with a property, or has a first one without it. -/
theorem all_or_first (holds : Item → Prop) (items : List Item) :
    (∀ item ∈ items, holds item) ∨ ∃ before item after, items = before ++ item :: after ∧
      (∀ other ∈ before, holds other) ∧ ¬ holds item := by
  induction items with
  | nil => exact .inl (by simp)
  | cons item rest ih =>
    by_cases first : holds item
    · rcases ih with all | ⟨before, other, after, rfl, fits, unfit⟩
      · exact .inl (List.forall_mem_cons.mpr ⟨first, all⟩)
      · exact .inr ⟨item :: before, other, after, rfl, List.forall_mem_cons.mpr ⟨first, fits⟩, unfit⟩
    · exact .inr ⟨[], item, rest, rfl, by simp, first⟩

/-- A loop ends with the first item that raises. -/
theorem raises_mapM {step : Item → Attempt State Fault Value} {before : List Item} {item : Item}
    (earlier : ∀ other ∈ before, (step other).Returns) (raises : (step item).Raises kind)
    (after : List Item) : ((before ++ item :: after).mapM step).Raises kind := by
  induction before with
  | nil =>
    rw [List.nil_append, List.mapM_cons]
    exact raises.bind _
  | cons other rest ih =>
    rw [List.forall_mem_cons] at earlier
    rw [List.cons_append, List.mapM_cons]
    exact earlier.1.bind_raises fun value => (ih earlier.2).bind _

theorem Returns.avoids {attempt : Attempt State Fault Value} (returns : attempt.Returns)
    (fault : Fault) : attempt.Avoids fault := by
  intro state failed
  obtain ⟨value, ended⟩ := returns state
  cases ended.symm.trans failed

theorem Raises.avoids {attempt : Attempt State Fault Value} (raises : attempt.Raises kind)
    (different : ¬ kind fault) : attempt.Avoids fault := by
  intro state failed
  obtain ⟨other, fits, ended⟩ := raises state
  cases ended.symm.trans failed
  exact different fits

theorem Avoids.bind {first : Attempt State Fault Value}
    {next : Value → Attempt State Fault Result} (begins : first.Avoids fault)
    (goes : ∀ value, (next value).Avoids fault) : (first >>= next).Avoids fault := by
  refine Ends.bind begins (fun value _ => goes value) ?_
  intro other different failed
  exact different (by cases failed; rfl)

theorem avoids_mapM {step : Item → Attempt State Fault Value} {items : List Item}
    (each : ∀ item ∈ items, (step item).Avoids fault) : (items.mapM step).Avoids fault := by
  induction items with
  | nil => exact (returns_pure []).avoids fault
  | cons item rest ih =>
    rw [List.forall_mem_cons] at each
    rw [List.mapM_cons]
    refine each.1.bind fun value => ?_
    refine (ih each.2).bind fun others => ?_
    exact (returns_pure (value :: others)).avoids fault

theorem Returns.tryCatch {attempt : Attempt State Fault Value} (returns : attempt.Returns)
    (handler : Fault → Attempt State Fault Value) : (tryCatch attempt handler).Returns := by
  intro state
  obtain ⟨value, ended⟩ := returns state
  refine ⟨value, ?_⟩
  rw [ExceptT.run_tryCatch, StateT.run_bind]
  rcases ran : attempt.run.run state with ⟨result, later⟩
  rw [ran] at ended
  cases ended
  rfl

theorem Raises.tryCatch {allowed : Except Fault Value → Prop}
    {attempt : Attempt State Fault Value} {handler : Fault → Attempt State Fault Value}
    (raises : attempt.Raises kind) (handles : ∀ fault, kind fault → (handler fault).Ends allowed) :
    (tryCatch attempt handler).Ends allowed := by
  intro state
  obtain ⟨fault, fits, ended⟩ := raises state
  have handled := handles fault fits (attempt.run.run state).2
  rw [ExceptT.run_tryCatch, StateT.run_bind]
  rcases ran : attempt.run.run state with ⟨result, later⟩
  rw [ran] at ended handled
  cases ended
  exact handled

end Attempt

end OctoChannel.Foundation
