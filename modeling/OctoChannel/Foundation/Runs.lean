import Mathlib.Data.List.Induction

/-! Runs of a system of atomic steps: whatever order the steps of several parties
come in is one list of events. Invariants carry over from one step to a run, also
when only the steps that meet a condition preserve them. -/

namespace OctoChannel.Foundation

universe u v

variable {State : Type u} {Event : Type v}

/-- A system and its start; events that are not enabled leave the state alone. -/
structure Machine (State : Type u) (Event : Type v) where
  start : State
  step : State → Event → State

namespace Machine

variable (machine : Machine State Event)

def run (events : List Event) : State := events.foldl machine.step machine.start

/-- Every step of the run meets the condition in the state it is taken in. -/
def Along (condition : State → Event → Prop) (events : List Event) : Prop :=
  ∀ done event later, events = done ++ event :: later → condition (machine.run done) event

variable {machine} {condition : State → Event → Prop} {events done later : List Event}

@[simp] theorem run_nil : machine.run [] = machine.start := rfl

theorem run_append (done : List Event) (event : Event) :
    machine.run (done ++ [event]) = machine.step (machine.run done) event := by
  rw [run, List.foldl_append]
  rfl

theorem Along.front (along : machine.Along condition (done ++ later)) :
    machine.Along condition done := by
  intro earlier event between split
  exact along earlier event (between ++ later) (by rw [split, List.append_assoc, List.cons_append])

theorem Along.last {event : Event} (along : machine.Along condition (done ++ [event])) :
    condition (machine.run done) event :=
  along done event [] rfl

/-- What every event of the run has besides joins the condition. -/
theorem Along.and_forall {kind : Event → Prop} (along : machine.Along condition events)
    (every : ∀ event ∈ events, kind event) :
    machine.Along (fun state event => condition state event ∧ kind event) events := by
  rintro earlier event later split
  exact ⟨along earlier event later split, every event (by simp [split])⟩

/-- What the start has and every step that meets the condition preserves holds in
the last state of every run along the condition. -/
theorem invariant_of_along {Invariant : State → Prop} (start : Invariant machine.start)
    (step : ∀ state event, Invariant state → condition state event →
      Invariant (machine.step state event))
    (along : machine.Along condition events) : Invariant (machine.run events) := by
  induction events using List.reverseRecOn with
  | nil => exact start
  | append_singleton done event ih =>
    rw [run_append]
    exact step _ _ (ih along.front) along.last

theorem along_of_forall (every : ∀ state event, condition state event) (events : List Event) :
    machine.Along condition events := fun done event _ _ => every (machine.run done) event

/-- What every step preserves holds in every state that is reached. -/
theorem invariant_of_steps {Invariant : State → Prop} (start : Invariant machine.start)
    (step : ∀ state event, Invariant state → Invariant (machine.step state event))
    (events : List Event) : Invariant (machine.run events) :=
  @invariant_of_along _ _ machine (fun _ _ => True) events Invariant start
    (fun state event holds _ => step state event holds) (along_of_forall (fun _ _ => trivial) events)

/-- The same condition, checked from the front. -/
def Follows (machine : Machine State Event) (condition : State → Event → Prop) :
    State → List Event → Prop
  | _, [] => True
  | state, event :: rest =>
    condition state event ∧ machine.Follows condition (machine.step state event) rest

instance [∀ state event, Decidable (condition state event)] :
    ∀ (state : State) (events : List Event), Decidable (machine.Follows condition state events)
  | _, [] => .isTrue trivial
  | state, event :: rest =>
    have := instDecidableFollows (machine.step state event) rest
    inferInstanceAs (Decidable (condition state event ∧
      machine.Follows condition (machine.step state event) rest))

theorem Follows.at {state : State} {event : Event}
    (follows : machine.Follows condition state (done ++ event :: later)) :
    condition (done.foldl machine.step state) event := by
  induction done generalizing state with
  | nil => exact follows.1
  | cons first rest ih => exact ih follows.2

theorem along_of_follows (follows : machine.Follows condition machine.start events) :
    machine.Along condition events := by
  intro done event later split
  subst split
  exact follows.at

/-- The last event of a run that met the condition in the state it was taken in. -/
def Latest (machine : Machine State Event) (condition : State → Event → Prop)
    (events : List Event) (event : Event) : Prop :=
  ∃ before after, events = before ++ event :: after ∧ condition (machine.run before) event ∧
    ∀ done next later, after = done ++ next :: later →
      ¬ condition (machine.run (before ++ event :: done)) next

theorem not_latest_nil (event : Event) : ¬ machine.Latest condition [] event := by
  rintro ⟨before, after, split, -⟩
  exact List.append_ne_nil_of_right_ne_nil before (List.cons_ne_nil event after) split.symm

/-- An event that meets the condition is the latest one at once. -/
theorem latest_append_of_pos {last event : Event} (meets : condition (machine.run events) last) :
    machine.Latest condition (events ++ [last]) event ↔ event = last := by
  constructor
  · rintro ⟨before, after, split, -, untouched⟩
    rcases List.eq_nil_or_concat after with rfl | ⟨done, next, rfl⟩
    · exact ((List.append_inj' split rfl).2 |> List.cons.inj |>.1).symm
    · rw [List.concat_eq_append, ← List.cons_append, ← List.append_assoc] at split
      obtain ⟨same, ends⟩ := List.append_inj' split rfl
      cases ends
      exact absurd (same ▸ meets) (untouched done last [] (List.concat_eq_append ..))
  · rintro rfl
    refine ⟨events, [], rfl, meets, ?_⟩
    intro done next later split
    exact absurd split.symm (List.append_ne_nil_of_right_ne_nil done (List.cons_ne_nil next later))

/-- Any other event leaves the latest one as it was. -/
theorem latest_append_of_neg {last event : Event}
    (misses : ¬ condition (machine.run events) last) :
    machine.Latest condition (events ++ [last]) event ↔ machine.Latest condition events event := by
  constructor
  · rintro ⟨before, after, split, meets, untouched⟩
    rcases List.eq_nil_or_concat after with rfl | ⟨done, next, rfl⟩
    · obtain ⟨same, ends⟩ := List.append_inj' split rfl
      cases ends
      exact absurd (same ▸ meets) misses
    · rw [List.concat_eq_append, ← List.cons_append, ← List.append_assoc] at split
      obtain ⟨same, -⟩ := List.append_inj' split rfl
      refine ⟨before, done, same, meets, ?_⟩
      intro earlier between later rest
      apply untouched earlier between (later ++ [next])
      rw [rest, List.concat_eq_append, List.append_assoc, List.cons_append]
  · rintro ⟨before, after, rfl, meets, untouched⟩
    refine ⟨before, after ++ [last], List.append_assoc _ _ _, meets, ?_⟩
    intro done next later split
    rcases List.eq_nil_or_concat later with rfl | ⟨between, final, rfl⟩
    · obtain ⟨same, ends⟩ := List.append_inj' split rfl
      cases ends
      exact same ▸ misses
    · rw [List.concat_eq_append, ← List.cons_append, ← List.append_assoc] at split
      exact untouched done next between (List.append_inj' split rfl).1

/-- What only the events of a kind change, each to what it writes itself, is at the end
what the latest of them wrote. -/
theorem holds_iff_latest {holds : State → Prop} {writes : Event → Prop}
    (start : ¬ holds machine.start)
    (sets : ∀ state event, condition state event → (holds (machine.step state event) ↔ writes event))
    (keeps : ∀ state event, ¬ condition state event →
      (holds (machine.step state event) ↔ holds state))
    (events : List Event) :
    holds (machine.run events) ↔ ∃ event, machine.Latest condition events event ∧ writes event := by
  induction events using List.reverseRecOn with
  | nil =>
    refine ⟨fun present => absurd present start, ?_⟩
    rintro ⟨event, latest, -⟩
    exact absurd latest (not_latest_nil event)
  | append_singleton done last ih =>
    rw [run_append]
    by_cases meets : condition (machine.run done) last
    · simp only [sets _ _ meets, latest_append_of_pos meets, exists_eq_left]
    · simp only [keeps _ _ meets, latest_append_of_neg meets, ih]

end Machine

end OctoChannel.Foundation
