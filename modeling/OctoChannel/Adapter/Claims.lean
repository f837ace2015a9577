import OctoChannel.Foundation.Runs
import OctoChannel.Foundation.Dict
import OctoChannel.Identity.Ids

namespace OctoChannel.Adapter

open Foundation Identity

/-- What ends a registration before the runtime has its identity. -/
inductive ClaimError where
  | malformedRobotId
  | identityConflict (robotId : RobotId)

def ClaimError.message : ClaimError → PyStr
  | .malformedRobotId => py "Octo registration returned a malformed robot_id"
  | .identityConflict robotId =>
    py "two configured Octo tokens registered as the same identity (" ++ robotId.val ++
      py "); remove the duplicate token"

/-- The map of the adapter, and `_robot_id` of each runtime, `none` until it has
registered. -/
structure Claims (Runtime : Type) where
  runtimesByRobotId : Dict RobotId Runtime
  robotId : Runtime → Option RobotId

namespace Claims

variable {Runtime : Type} [DecidableEq Runtime]

def fresh : Claims Runtime := ⟨.empty, fun _ => none⟩

/-- The clean-up of `_claim_identity` for a token that comes back as another bot. -/
def dropPrevious (claims : Claims Runtime) (runtime : Runtime) (robotId : RobotId) :
    Dict RobotId Runtime :=
  match claims.robotId runtime with
  | none => claims.runtimesByRobotId
  | some previous =>
    if previous ≠ robotId then claims.runtimesByRobotId.erase previous
    else claims.runtimesByRobotId

def claimIdentity (claims : Claims Runtime) (runtime : Runtime) (robotId : RobotId) :
    Except ClaimError (Dict RobotId Runtime) :=
  match claims.runtimesByRobotId.get? robotId with
  | some owner =>
    if owner ≠ runtime then .error (.identityConflict robotId)
    else .ok ((claims.dropPrevious runtime robotId).set robotId runtime)
  | none => .ok ((claims.dropPrevious runtime robotId).set robotId runtime)

/-- `_do_connect` from the answer of the registration on: the runtime takes the id it
has claimed. -/
def register (claims : Claims Runtime) (runtime : Runtime) (answer : PyStr) :
    Except ClaimError (RobotId × Claims Runtime) :=
  match RobotId.ofStr? answer with
  | none => .error .malformedRobotId
  | some robotId =>
    match claims.claimIdentity runtime robotId with
    | .error error => .error error
    | .ok runtimesByRobotId =>
      .ok (robotId, ⟨runtimesByRobotId, Function.update claims.robotId runtime (some robotId)⟩)

/-- The end of `disconnect`; the runtimes keep their ids. -/
def disconnect (claims : Claims Runtime) : Claims Runtime :=
  { claims with runtimesByRobotId := .empty }

/-- Another runtime is mapped under the id. -/
def HeldByOther (claims : Claims Runtime) (runtime : Runtime) (robotId : RobotId) : Prop :=
  ∃ owner, claims.runtimesByRobotId.get? robotId = some owner ∧ owner ≠ runtime

variable {claims : Claims Runtime} {runtime : Runtime} {robotId : RobotId} {answer : PyStr}

omit [DecidableEq Runtime] in
theorem get?_dropPrevious (claims : Claims Runtime) (runtime : Runtime) (robotId other : RobotId) :
    (claims.dropPrevious runtime robotId).get? other =
      if claims.robotId runtime = some other ∧ other ≠ robotId then none
      else claims.runtimesByRobotId.get? other := by
  unfold dropPrevious
  cases remembered : claims.robotId runtime with
  | none => simp
  | some previous =>
    simp only [Option.some.injEq]
    by_cases changed : previous = robotId
    · have kept : ¬ (previous = other ∧ other ≠ robotId) := by
        rintro ⟨same, different⟩
        exact different (same.symm.trans changed)
      rw [if_neg kept, if_neg (not_not.mpr changed)]
    · rw [if_pos changed, Dict.get?_erase]
      by_cases same : previous = other
      · rw [if_pos same, if_pos ⟨same, same ▸ changed⟩]
      · rw [if_neg same, if_neg fun both => same both.1]

private theorem claimIdentity_refused_iff :
    (∃ error, claims.claimIdentity runtime robotId = .error error) ↔
      claims.HeldByOther runtime robotId := by
  unfold claimIdentity HeldByOther
  cases mapped : claims.runtimesByRobotId.get? robotId with
  | none => simp
  | some owner =>
    by_cases foreign : owner = runtime
    · simp [foreign]
    · simp [foreign]

private theorem claimIdentity_of_free (free : ¬ claims.HeldByOther runtime robotId) :
    claims.claimIdentity runtime robotId =
      .ok ((claims.dropPrevious runtime robotId).set robotId runtime) := by
  unfold claimIdentity
  cases mapped : claims.runtimesByRobotId.get? robotId with
  | none => rfl
  | some owner =>
    have own : owner = runtime := Classical.byContradiction fun foreign =>
      free ⟨owner, mapped, foreign⟩
    simp [own]

theorem register_of_ofStr? (valid : RobotId.ofStr? answer = some robotId)
    (free : ¬ claims.HeldByOther runtime robotId) :
    claims.register runtime answer =
      .ok (robotId, ⟨(claims.dropPrevious runtime robotId).set robotId runtime,
        Function.update claims.robotId runtime (some robotId)⟩) := by
  unfold register
  rw [valid]
  dsimp only
  rw [claimIdentity_of_free free]

/-- A registration is refused for its id, refused as a duplicate, or takes its id. -/
private theorem register_cases (claims : Claims Runtime) (runtime : Runtime) (answer : PyStr) :
    (RobotId.ofStr? answer = none ∧
      claims.register runtime answer = .error .malformedRobotId) ∨
    ∃ robotId, RobotId.ofStr? answer = some robotId ∧
      ((claims.HeldByOther runtime robotId ∧
        claims.register runtime answer = .error (.identityConflict robotId)) ∨
      (¬ claims.HeldByOther runtime robotId ∧
        claims.register runtime answer =
          .ok (robotId, ⟨(claims.dropPrevious runtime robotId).set robotId runtime,
            Function.update claims.robotId runtime (some robotId)⟩))) := by
  cases valid : RobotId.ofStr? answer with
  | none =>
    left
    refine ⟨rfl, ?_⟩
    unfold register
    rw [valid]
  | some robotId =>
    right
    refine ⟨robotId, rfl, ?_⟩
    by_cases held : claims.HeldByOther runtime robotId
    · left
      refine ⟨held, ?_⟩
      obtain ⟨owner, mapped, foreign⟩ := held
      unfold register claimIdentity
      rw [valid]
      dsimp only
      rw [mapped]
      dsimp only
      rw [if_pos foreign]
    · exact .inr ⟨held, register_of_ofStr? valid held⟩

/-- A mapped runtime goes by the id it is mapped under. -/
def Remembered (claims : Claims Runtime) : Prop :=
  ∀ robotId runtime, claims.runtimesByRobotId.get? robotId = some runtime →
    claims.robotId runtime = some robotId

/-- An id is mapped to one runtime, the one that goes by this id; and only such a
runtime has a claim refused. -/
structure Exclusive (claims : Claims Runtime) : Prop where
  single : ∀ robotId first second, (robotId, first) ∈ claims.runtimesByRobotId.entries →
    (robotId, second) ∈ claims.runtimesByRobotId.entries → first = second
  remembered : claims.Remembered
  refused : ∀ runtime robotId error, claims.claimIdentity runtime robotId = .error error →
    ∃ owner, owner ≠ runtime ∧ claims.runtimesByRobotId.get? robotId = some owner ∧
      claims.robotId owner = some robotId

theorem Remembered.exclusive (remembered : claims.Remembered) : claims.Exclusive where
  single := by
    intro robotId first second here there
    have mapped := (Dict.mem_entries_iff _ robotId first).mp here
    have again := (Dict.mem_entries_iff _ robotId second).mp there
    exact Option.some.inj (mapped.symm.trans again)
  remembered := remembered
  refused := by
    intro runtime robotId error refused
    obtain ⟨owner, mapped, foreign⟩ := claimIdentity_refused_iff.mp ⟨error, refused⟩
    exact ⟨owner, foreign, mapped, remembered robotId owner mapped⟩

end Claims

inductive ClaimEvent (Runtime : Type) where
  | register (runtime : Runtime) (answer : PyStr)
  | disconnect

/-- The claims, and the id of each runtime's most recent claim since the map was last
cleared, if that claim succeeded. -/
structure ClaimTrace (Runtime : Type) where
  claims : Claims Runtime
  latest : Runtime → Option RobotId

namespace ClaimTrace

variable {Runtime : Type} [DecidableEq Runtime]

def step (trace : ClaimTrace Runtime) : ClaimEvent Runtime → ClaimTrace Runtime
  | .register runtime answer =>
    match trace.claims.register runtime answer with
    | .error .malformedRobotId => trace
    | .error (.identityConflict _) =>
      { trace with latest := Function.update trace.latest runtime none }
    | .ok (robotId, claims) => ⟨claims, Function.update trace.latest runtime (some robotId)⟩
  | .disconnect => ⟨trace.claims.disconnect, fun _ => none⟩

def machine (Runtime : Type) [DecidableEq Runtime] :
    Machine (ClaimTrace Runtime) (ClaimEvent Runtime) :=
  ⟨⟨Claims.fresh, fun _ => none⟩, step⟩

/-- Every runtime whose latest claim succeeded is the one its id leads to. -/
def Routable (trace : ClaimTrace Runtime) : Prop :=
  ∀ runtime robotId, trace.latest runtime = some robotId →
    trace.claims.runtimesByRobotId.get? robotId = some runtime

/-- A claim that is not refused and changes the id of its runtime finds, under the
id from before, no entry of another runtime whose latest claim succeeded. -/
def SparesOthers (trace : ClaimTrace Runtime) : ClaimEvent Runtime → Prop
  | .disconnect => True
  | .register runtime answer => ∀ robotId previous other,
    RobotId.ofStr? answer = some robotId → ¬ trace.claims.HeldByOther runtime robotId →
    trace.claims.robotId runtime = some previous → previous ≠ robotId →
    trace.claims.runtimesByRobotId.get? previous = some other →
    trace.latest other = some previous → other = runtime

variable {trace : ClaimTrace Runtime} {runtime : Runtime} {answer : PyStr} {robotId : RobotId}

/-- What a registration does to the claims and to the record of them. -/
theorem step_register_cases (trace : ClaimTrace Runtime) (runtime : Runtime) (answer : PyStr) :
    trace.step (.register runtime answer) = trace ∨
    (∃ robotId, trace.claims.HeldByOther runtime robotId ∧
      trace.step (.register runtime answer) =
        { trace with latest := Function.update trace.latest runtime none }) ∨
    ∃ robotId, RobotId.ofStr? answer = some robotId ∧
      ¬ trace.claims.HeldByOther runtime robotId ∧
      trace.step (.register runtime answer) =
        ⟨⟨(trace.claims.dropPrevious runtime robotId).set robotId runtime,
          Function.update trace.claims.robotId runtime (some robotId)⟩,
          Function.update trace.latest runtime (some robotId)⟩ := by
  rcases trace.claims.register_cases runtime answer with
    ⟨-, malformed⟩ | ⟨robotId, valid, ⟨held, refused⟩ | ⟨free, taken⟩⟩
  · left
    rw [step, malformed]
  · right; left
    exact ⟨robotId, held, by rw [step, refused]⟩
  · right; right
    exact ⟨robotId, valid, free, by rw [step, taken]⟩

/-- The runtime that takes an id loses the entry of the id it had. -/
private theorem remembered_step (trace : ClaimTrace Runtime) (event : ClaimEvent Runtime)
    (remembered : trace.claims.Remembered) : (trace.step event).claims.Remembered := by
  cases event with
  | disconnect =>
    intro robotId runtime mapped
    cases mapped
  | register runtime answer =>
    rcases trace.step_register_cases runtime answer with
      same | ⟨_, _, same⟩ | ⟨robotId, _, _, same⟩
    · rw [same]
      exact remembered
    · rw [same]
      exact remembered
    · rw [same]
      intro other mappedTo mapped
      dsimp only at mapped ⊢
      rw [Dict.get?_set] at mapped
      by_cases here : robotId = other
      · rw [if_pos here, Option.some.injEq] at mapped
        rw [← mapped, Function.update_self, here]
      · rw [if_neg here, Claims.get?_dropPrevious] at mapped
        by_cases dropped : trace.claims.robotId runtime = some other ∧ other ≠ robotId
        · rw [if_pos dropped] at mapped
          cases mapped
        · rw [if_neg dropped] at mapped
          have before := remembered other mappedTo mapped
          have apart : mappedTo ≠ runtime := by
            intro same'
            exact dropped ⟨same' ▸ before, Ne.symm here⟩
          rw [Function.update_of_ne apart]
          exact before

/-- A registration that spares the others leaves every runtime routable. -/
theorem Routable.after {event : ClaimEvent Runtime} (routable : trace.Routable)
    (spares : trace.SparesOthers event) : (trace.step event).Routable := by
  cases event with
  | disconnect =>
    intro runtime robotId claimed
    cases claimed
  | register runtime answer =>
    rcases trace.step_register_cases runtime answer with
      same | ⟨_, _, same⟩ | ⟨robotId, valid, free, same⟩
    · rw [same]
      exact routable
    · rw [same]
      intro other otherId claimed
      dsimp only at claimed ⊢
      by_cases acting : other = runtime
      · rw [acting, Function.update_self] at claimed
        cases claimed
      · rw [Function.update_of_ne acting] at claimed
        exact routable other otherId claimed
    · rw [same]
      intro other otherId claimed
      dsimp only at claimed ⊢
      by_cases acting : other = runtime
      · rw [acting, Function.update_self, Option.some.injEq] at claimed
        rw [acting, claimed, Dict.get?_set_self]
      · rw [Function.update_of_ne acting] at claimed
        have mapped := routable other otherId claimed
        -- the id that is taken is not theirs, else the claim would have been refused
        have apart : robotId ≠ otherId := by
          rintro rfl
          exact free ⟨other, mapped, acting⟩
        have spared : ¬ (trace.claims.robotId runtime = some otherId ∧ otherId ≠ robotId) := by
          rintro ⟨previous, changed⟩
          exact acting (spares robotId otherId other valid free previous changed mapped claimed)
        rw [Dict.get?_set_of_ne _ _ apart, Claims.get?_dropPrevious, if_neg spared]
        exact mapped

/-- A registration behind which every runtime is routable has spared the others. -/
theorem Routable.spares {event : ClaimEvent Runtime} (routable : (trace.step event).Routable) :
    trace.SparesOthers event := by
  cases event with
  | disconnect => trivial
  | register runtime answer =>
    intro robotId previous other valid free previously changed mapped claimed
    by_contra foreign
    have taken : trace.step (.register runtime answer) =
        ⟨⟨(trace.claims.dropPrevious runtime robotId).set robotId runtime,
          Function.update trace.claims.robotId runtime (some robotId)⟩,
          Function.update trace.latest runtime (some robotId)⟩ := by
      rw [ClaimTrace.step, Claims.register_of_ofStr? valid free]
    rw [taken] at routable
    have kept := routable other previous (by
      dsimp only
      rw [Function.update_of_ne foreign]
      exact claimed)
    dsimp only at kept
    rw [Dict.get?_set_of_ne _ _ (Ne.symm changed), Claims.get?_dropPrevious,
      if_pos ⟨previously, changed⟩] at kept
    cases kept

private theorem remembered_run (events : List (ClaimEvent Runtime)) :
    ((machine Runtime).run events).claims.Remembered := by
  induction events using List.reverseRecOn with
  | nil =>
    intro robotId runtime mapped
    cases mapped
  | append_singleton done event ih =>
    rw [Machine.run_append]
    exact remembered_step _ event ih

/-- In every state of every run an id leads to one runtime, which goes by that id, and
only such a runtime has another's claim refused; and every runtime stays routable
exactly along the runs in which each claim spares the entries of the others. -/
theorem claimRun_exclusive_routable_iff (events : List (ClaimEvent Runtime)) :
    (∀ done later, events = done ++ later → ((machine Runtime).run done).claims.Exclusive) ∧
    ((∀ done later, events = done ++ later → ((machine Runtime).run done).Routable) ↔
      (machine Runtime).Along SparesOthers events) := by
  refine ⟨?_, ?_, ?_⟩
  · intro done later split
    exact (remembered_run done).exclusive
  · intro routable done event later split
    have next := routable (done ++ [event]) later (by rw [split, List.append_assoc]; rfl)
    rw [Machine.run_append] at next
    exact next.spares
  · intro along done later split
    subst split
    apply Machine.invariant_of_along _ _ along.front
    · intro runtime robotId claimed
      cases claimed
    · exact fun trace event routable spares => routable.after spares

/-- Two tokens come back with each other's ids: the first runtime drops, as the id it
had before, the entry that the second one has just claimed. -/
theorem swappedRun_not_routable :
    ¬ ((machine Bool).run [.register false (py "alpha"), .register true (py "bravo"), .disconnect,
      .register true (py "alpha"), .register false (py "bravo")]).Routable := by
  intro routable
  have mapped := routable true ⟨py "alpha", by decide⟩ (by decide)
  revert mapped
  decide

end ClaimTrace

end OctoChannel.Adapter
