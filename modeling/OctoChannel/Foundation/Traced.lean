/-! Computations that fail or return a value, with the events they emitted on the way; and
guards on such events, each of which may depend on what was emitted before it. -/

namespace OctoChannel.Foundation

/-- The events emitted so far, and how the computation ended. -/
structure Traced (Event Error Value : Type) where
  events : List Event
  result : Except Error Value

namespace Traced

variable {Event Error Value Other : Type}

/-- The second computation runs only when the first one returned. -/
def andThen (first : Traced Event Error Value) (next : Value → Traced Event Error Other) :
    Traced Event Error Other :=
  match first.result with
  | .error error => ⟨first.events, .error error⟩
  | .ok value => ⟨first.events ++ (next value).events, (next value).result⟩

instance : Monad (Traced Event Error) where
  pure value := ⟨[], .ok value⟩
  bind := andThen

def fail (error : Error) : Traced Event Error Value := ⟨[], .error error⟩

def emit (event : Event) : Traced Event Error Unit := ⟨[event], .ok ()⟩

/-- A step that emits nothing. -/
def ofExcept (result : Except Error Value) : Traced Event Error Value := ⟨[], result⟩

/-- Every event is permitted behind those before it. -/
def Guarded (permits : List Event → Event → Prop) : List Event → List Event → Prop
  | _, [] => True
  | done, event :: rest => permits done event ∧ Guarded permits (done ++ [event]) rest

variable {permits : List Event → Event → Prop} {done : List Event}

@[simp] theorem guarded_nil : Guarded permits done [] := trivial

theorem guarded_append (first second : List Event) :
    Guarded permits done (first ++ second) ↔
      Guarded permits done first ∧ Guarded permits (done ++ first) second := by
  induction first generalizing done with
  | nil => simp
  | cons event rest ih =>
    rw [List.cons_append, Guarded, Guarded, ih, and_assoc, List.append_assoc, List.cons_append,
      List.nil_append]

@[simp] theorem guarded_pure (value : Value) :
    Guarded permits done (pure value : Traced Event Error Value).events := trivial

@[simp] theorem guarded_fail (error : Error) :
    Guarded permits done (fail error : Traced Event Error Value).events := trivial

@[simp] theorem guarded_ofExcept (result : Except Error Value) :
    Guarded permits done (ofExcept result : Traced Event Error Value).events := trivial

@[simp] theorem guarded_emit (event : Event) :
    Guarded permits done (emit event : Traced Event Error Unit).events ↔ permits done event :=
  ⟨And.left, fun permitted => ⟨permitted, trivial⟩⟩

/-- A sequence is guarded when its first part is, and its second part behind it. -/
theorem guarded_bind (first : Traced Event Error Value)
    (next : Value → Traced Event Error Other) :
    Guarded permits done (first >>= next).events ↔
      Guarded permits done first.events ∧ ∀ value, first.result = .ok value →
        Guarded permits (done ++ first.events) (next value).events := by
  obtain ⟨events, result⟩ := first
  cases result with
  | error error =>
    exact ⟨fun guarded => ⟨guarded, fun _ ended => by cases ended⟩, fun both => both.1⟩
  | ok value =>
    have whole : ((⟨events, .ok value⟩ : Traced Event Error Value) >>= next).events =
        events ++ (next value).events := rfl
    rw [whole, guarded_append]
    constructor
    · intro both
      refine ⟨both.1, ?_⟩
      intro other ended
      cases ended
      exact both.2
    · exact fun both => ⟨both.1, both.2 value rfl⟩

/-- A silent step decides whether the rest runs. -/
theorem guarded_bind_ofExcept (result : Except Error Value)
    (next : Value → Traced Event Error Other) :
    Guarded permits done (ofExcept result >>= next).events ↔
      ∀ value, result = .ok value → Guarded permits done (next value).events := by
  rw [guarded_bind]
  simp only [guarded_ofExcept, true_and]
  simp only [ofExcept, List.append_nil]

theorem guarded_bind_emit (event : Event) (next : Unit → Traced Event Error Other) :
    Guarded permits done (emit event >>= next).events ↔
      permits done event ∧ Guarded permits (done ++ [event]) (next ()).events := by
  rw [guarded_bind, guarded_emit]
  refine and_congr_right fun _ => ⟨fun later => later () rfl, fun later _ _ => later⟩

theorem bind_error (events : List Event) (error : Error)
    (next : Value → Traced Event Error Other) :
    ((⟨events, .error error⟩ : Traced Event Error Value) >>= next) = ⟨events, .error error⟩ :=
  rfl

theorem bind_ok (events : List Event) (value : Value) (next : Value → Traced Event Error Other) :
    ((⟨events, .ok value⟩ : Traced Event Error Value) >>= next) =
      ⟨events ++ (next value).events, (next value).result⟩ :=
  rfl

/-- A silent step only decides how what was emitted ends. -/
theorem bind_silent (events : List Event) (value : Value)
    {next : Value → Traced Event Error Other} (silent : (next value).events = []) :
    ((⟨events, .ok value⟩ : Traced Event Error Value) >>= next) =
      ⟨events, (next value).result⟩ := by
  show Traced.andThen _ _ = _
  simp only [andThen, silent, List.append_nil]

end Traced

end OctoChannel.Foundation
