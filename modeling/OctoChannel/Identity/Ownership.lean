import OctoChannel.Foundation.Runs
import OctoChannel.Identity.Plan

namespace OctoChannel.Identity

open Foundation

namespace Registry

variable {registry : Registry}

/-- A flush is given how its write ends, and whether the new file is in place by then. -/
inductive Operation where
  | bind (args : BindArgs)
  | bindPlan (robotId : PyStr) (plan : List PlannedRoute)
  | flush (force : Bool) (write : WriteEnd) (placed : Bool)
  | reload
  | restart

/-- A registry, the one whose body the last write put in place, and the session-target
pairs that `bind` accepted, less the pairs of sessions evicted since and of plans rolled
back. -/
structure Audit where
  registry : Registry
  stored : Option Registry
  held : Finset (SessionKey × TargetKey)

/-- The record after one request. -/
def heldAfter (registry : Registry) (held : Finset (SessionKey × TargetKey)) (request : Request) :
    Finset (SessionKey × TargetKey) :=
  if (registry.bindLocked request).1.accepted then
    held.filter (fun pair =>
        request.sessionKey.bind (registry.evictedBy request.target) ≠ some pair.1) ∪
      request.sessionKey.toFinset.image (·, request.target)
  else held

def heldPlan (robotId : PyStr) : Audit → List PlannedRoute → Finset (SessionKey × TargetKey)
  | audit, [] => audit.held
  | audit, route :: rest =>
    match (planArgs robotId route).validate with
    | .error _ => audit.held
    | .ok request =>
      heldPlan robotId { audit with
        registry := (audit.registry.bindLocked request).2
        held := audit.registry.heldAfter audit.held request } rest

/-- The registry whose body the route file holds after a flush. -/
def Audit.storedAfter (audit : Audit) (force : Bool) (write : WriteEnd) (placed : Bool) :
    Option Registry :=
  if (audit.registry.dirty || force) && (write = .durable || placed) then some audit.registry
  else audit.stored

/-- What `read_state_document` makes of the route file. -/
def Audit.reading (audit : Audit) : Reading :=
  audit.stored.elim .missing fun source => .ok source.bodyLocked.sortKeys

def Audit.step (audit : Audit) : Operation → Audit
  | .bind args =>
    match args.validate with
    | .error _ => audit
    | .ok request =>
      { audit with
        registry := (audit.registry.bindLocked request).2
        held := audit.registry.heldAfter audit.held request }
  | .bindPlan robotId plan =>
    { audit with
      registry := (audit.registry.bindPlan robotId plan).2
      held :=
        if (audit.registry.bindPlan robotId plan).1 = .ok false then audit.held
        else heldPlan robotId audit plan }
  | .flush force write placed =>
    { audit with
      registry := (audit.registry.flush force write).2
      stored := audit.storedAfter force write placed }
  | .reload => { audit with registry := (audit.registry.load (.ok audit.reading) (.ok .missing)).1 }
  | .restart => { audit with registry := (fresh.load (.ok audit.reading) (.ok .missing)).1 }

def Audit.machine : Machine Audit Operation where
  start := ⟨fresh, none, ∅⟩
  step := Audit.step

def Audit.run (operations : List Operation) : Audit := Audit.machine.run operations

/-- Owners of targets stay, conflict marks only grow. -/
structure Keeps (before after : Registry) : Prop where
  owners : ∀ target robotId, before.targetRoutes.get? target = some robotId →
    after.targetRoutes.get? target = some robotId
  sessionConflicts : before.sessionConflicts ⊆ after.sessionConflicts
  targetConflicts : before.targetConflicts ⊆ after.targetConflicts

theorem Keeps.refl (registry : Registry) : registry.Keeps registry where
  owners _ _ := id
  sessionConflicts := Finset.Subset.refl _
  targetConflicts := Finset.Subset.refl _

theorem Keeps.trans {before middle after : Registry} (first : before.Keeps middle)
    (second : middle.Keeps after) : before.Keeps after where
  owners target robotId own := second.owners target robotId (first.owners target robotId own)
  sessionConflicts := first.sessionConflicts.trans second.sessionConflicts
  targetConflicts := first.targetConflicts.trans second.targetConflicts

theorem Keeps.of_agree {before after : Registry} (agree : after.Agree before) :
    before.Keeps after where
  owners target robotId own := by rw [agree.targets, own]
  sessionConflicts := agree.sessionConflicts ▸ Finset.Subset.refl _
  targetConflicts := agree.targetConflicts ▸ Finset.Subset.refl _

theorem keeps_contestTarget (target : TargetKey) : registry.Keeps (registry.contestTarget target) where
  owners _ _ := id
  sessionConflicts := Finset.subset_union_left
  targetConflicts := Finset.subset_insert _ _

theorem keeps_contestSession (key : Option SessionKey) :
    registry.Keeps (registry.contestSession key) where
  owners _ _ := id
  sessionConflicts := Finset.subset_union_left
  targetConflicts := Finset.Subset.refl _

theorem BindCase.keeps {request : Request} {result : BindResult} {after : Registry}
    (exit : BindCase registry request result after) : registry.Keeps after := by
  cases exit with
  | refused => exact .refl registry
  | contestedSession =>
    split
    · exact (keeps_contestTarget _).trans (keeps_contestSession _)
    · exact keeps_contestSession _
  | contestedTarget => exact keeps_contestTarget _
  | filled =>
    exact { owners := fun _ _ => id, sessionConflicts := Finset.Subset.refl _,
            targetConflicts := Finset.Subset.refl _ }
  | idempotent => exact .refl registry
  | full => exact .refl registry
  | claimed open' calm free target =>
    have claimable : registry.Claimable request := target.imp id And.left
    refine { owners := ?_, sessionConflicts := ?_, targetConflicts := ?_ }
    · intro other robotId own
      rw [targetRoutes_claim, get?_targetRoutes_recordTarget claimable]
      split
      · rename_i same
        subst same
        rcases claimable with ⟨unrouted, -⟩ | routed
        · rw [unrouted] at own
          cases own
        · exact routed.symm.trans own
      · exact own
    · rw [sessionConflicts_claim]
    · rw [targetConflicts_claim]

private theorem keeps_bind (args : BindArgs) : registry.Keeps (registry.bind args).2 := by
  unfold bind
  split
  · exact .refl registry
  · exact (bindLocked_case registry _).keeps

private theorem keeps_bindRoutes (robotId : PyStr) (plan : List PlannedRoute)
    (registry : Registry) :
    registry.Keeps (registry.bindRoutes robotId plan).2 := by
  induction plan generalizing registry with
  | nil => exact .refl registry
  | cons route rest ih =>
    have next := @keeps_bind registry (planArgs robotId route)
    unfold bindRoutes
    split
    all_goals
      rename_i taken
      rw [taken] at next
      first
        | exact next
        | exact next.trans (ih _)

private theorem Invariant.keeps_bindPlan (inv : registry.Invariant) (robotId : PyStr)
    (plan : List PlannedRoute) : registry.Keeps (registry.bindPlan robotId plan).2 := by
  have partly := keeps_bindRoutes robotId plan registry
  rcases ended : registry.bindRoutes robotId plan with ⟨_ | _ | error, bound⟩
  · rw [bindPlan_accepted ended]
    rwa [ended] at partly
  · rw [bindPlan_refused inv ended]
    exact .of_agree { agree_restored inv bound with }
  · rw [bindPlan_raised ended]
    rwa [ended] at partly

/-- The registry of an audit and the stored one are reachable in the sense of `Invariant`. -/
structure Audit.Sound (audit : Audit) : Prop where
  registry : audit.registry.Invariant
  stored : ∀ source ∈ audit.stored, source.Invariant

theorem Audit.Sound.load {audit : Audit} (sound : audit.Sound) (base : Registry) :
    (base.load (.ok audit.reading) (.ok .missing)).1 = audit.stored.elim base base.restored := by
  unfold Audit.reading
  cases found : audit.stored with
  | none => rfl
  | some source =>
    change (base.applyBody source.bodyLocked.sortKeys).1 = _
    rw [applyBody_sorted_ok (sound.stored source found)]
    rfl

theorem Audit.Sound.invariant_load {audit : Audit} (sound : audit.Sound) {base : Registry}
    (inv : base.Invariant) : (base.load (.ok audit.reading) (.ok .missing)).1.Invariant := by
  rw [sound.load]
  cases found : audit.stored with
  | none => exact inv
  | some source => exact (sound.stored source found).restored base

theorem Audit.Sound.step {audit : Audit} (sound : audit.Sound) (operation : Operation) :
    (audit.step operation).Sound := by
  cases operation with
  | bind args =>
    unfold Audit.step
    dsimp only
    split
    · exact sound
    · exact ⟨sound.registry.bindLocked _, sound.stored⟩
  | bindPlan robotId plan => exact ⟨sound.registry.bindPlan robotId plan, sound.stored⟩
  | flush force write placed =>
    refine ⟨sound.registry.flush force write, ?_⟩
    intro source found
    change audit.storedAfter force write placed = some source at found
    unfold Audit.storedAfter at found
    split at found
    · cases found
      exact sound.registry
    · exact sound.stored source found
  | reload => exact ⟨sound.invariant_load sound.registry, sound.stored⟩
  | restart => exact ⟨sound.invariant_load invariant_fresh, sound.stored⟩

/-- A load finds every owner and every conflict mark of the registry in its snapshot. -/
def Audit.Saved (audit : Audit) : Operation → Prop
  | .reload => ∀ source ∈ audit.stored, audit.registry.Keeps source
  | .restart => audit.registry.Keeps (audit.stored.getD fresh)
  | _ => True

private theorem Audit.Sound.keeps_step {audit : Audit} (sound : audit.Sound) {operation : Operation}
    (saved : audit.Saved operation) :
    audit.registry.Keeps (audit.step operation).registry := by
  cases operation with
  | bind args =>
    unfold Audit.step
    dsimp only
    split
    · exact .refl _
    · exact (bindLocked_case _ _).keeps
  | bindPlan robotId plan => exact sound.registry.keeps_bindPlan robotId plan
  | flush force write placed =>
    unfold Audit.step Registry.flush
    dsimp only
    split
    · exact .refl _
    · cases write <;> exact .of_agree { Agree.refl audit.registry with }
  | reload =>
    change audit.registry.Keeps (audit.registry.load (.ok audit.reading) (.ok .missing)).1
    rw [sound.load]
    cases found : audit.stored with
    | none => exact .refl _
    | some source =>
      exact (saved source found).trans (.of_agree (agree_restored (sound.stored source found) _))
  | restart =>
    have kept : audit.registry.Keeps (audit.stored.getD fresh) := saved
    change audit.registry.Keeps (fresh.load (.ok audit.reading) (.ok .missing)).1
    rw [sound.load]
    cases found : audit.stored with
    | none =>
      rw [found] at kept
      exact kept
    | some source =>
      rw [found] at kept
      exact kept.trans (.of_agree (agree_restored (sound.stored source found) _))

/-- Every session has one target at most: what a session record can store. -/
def SinglyLinked (registry : Registry) : Prop :=
  ∀ key first second, key ∈ registry.linked first → key ∈ registry.linked second → first = second

theorem entry_of_linked {key : SessionKey} {target : TargetKey}
    (link : key ∈ registry.linked target) :
    ∃ keys, (target, keys) ∈ registry.targetSessions.entries ∧ key ∈ keys := by
  unfold linked Links.members at link
  cases found : registry.targetSessions.get? target with
  | none =>
    rw [found] at link
    cases link
  | some keys =>
    rw [found] at link
    exact ⟨keys, (Dict.mem_entries_iff _ _ _).mpr found, link⟩

theorem singlyLinked_of_disjoint
    (apart : ∀ first ∈ registry.targetSessions.entries,
      ∀ second ∈ registry.targetSessions.entries, first.1 ≠ second.1 →
        Disjoint first.2 second.2) : registry.SinglyLinked := by
  intro key first second one two
  obtain ⟨keys, entry, inside⟩ := entry_of_linked one
  obtain ⟨others, other, also⟩ := entry_of_linked two
  by_contra different
  exact Finset.disjoint_left.mp (apart _ entry _ other different) inside also

/-- A request that finds its session and its target routed finds them linked: the
early exits of `bind` add no link. -/
def Tracked (registry : Registry) (request : Request) : Prop :=
  registry.refuses request = false → ∀ key ∈ request.sessionKey,
    (registry.sessionRoutes.get? key).isSome → (registry.targetRoutes.get? request.target).isSome →
      key ∈ registry.linked request.target

/-- Some route of the plan is refused, the routes ahead of it being bound. -/
def PlanRefused (registry : Registry) (robotId : PyStr) (plan : List PlannedRoute) : Prop :=
  ∃ ahead route rest before request, plan = ahead ++ route :: rest ∧
    Bound robotId registry ahead before ∧ (planArgs robotId route).validate = .ok request ∧
      before.refuses request = true

/-- A plan that is refused restores a snapshot of sessions with one target each; the
routes of any other plan are tracked where they are bound. -/
structure PlanTracked (registry : Registry) (robotId : PyStr) (plan : List PlannedRoute) : Prop where
  refused : registry.PlanRefused robotId plan → registry.SinglyLinked
  bound : ¬ registry.PlanRefused robotId plan → ∀ ahead route rest before request,
    plan = ahead ++ route :: rest → Bound robotId registry ahead before →
      (planArgs robotId route).validate = .ok request → before.Tracked request

/-- Restoring the snapshot of `source` brings the links of the registry back. -/
structure Relinks (registry source : Registry) : Prop where
  single : source.SinglyLinked
  links : ∀ target, registry.linked target ⊆ source.linked target

/-- A step that loses no link. -/
def Audit.Meets (audit : Audit) : Operation → Prop
  | .bind args => ∀ request, args.validate = .ok request → audit.registry.Tracked request
  | .bindPlan robotId plan => audit.registry.PlanTracked robotId plan
  | .flush _ _ _ => True
  | .reload => ∀ source ∈ audit.stored, audit.registry.Relinks source
  | .restart => audit.registry.Relinks (audit.stored.getD fresh)

/-- Every recorded pair is linked. -/
def Audit.Covered (audit : Audit) : Prop :=
  ∀ pair ∈ audit.held, pair.1 ∈ audit.registry.linked pair.2

theorem mem_linked_without {gone : Option SessionKey} {key : SessionKey} {target : TargetKey} :
    key ∈ (registry.without gone).linked target ↔
      key ∈ registry.linked target ∧ gone ≠ some key := by
  cases gone with
  | none => simp [without]
  | some other =>
    rw [without, linked_dropSession, Finset.mem_erase]
    constructor
    · rintro ⟨different, link⟩
      exact ⟨link, fun same => different (Option.some.inj same).symm⟩
    · rintro ⟨link, different⟩
      exact ⟨fun same => different (congrArg some same.symm), link⟩

theorem mem_linked_claim (inv : registry.Invariant) {request : Request}
    {key other : SessionKey} {target : TargetKey} (named : request.sessionKey = some key) :
    other ∈ (registry.claim request).linked target ↔
      request.target = target ∧ key = other ∨
        other ∈ registry.linked target ∧ registry.victim ≠ some other := by
  unfold linked
  rw [targetSessions_claim inv.bounded named, Links.members_link]
  split
  · rename_i same
    subst same
    rw [Finset.mem_insert]
    exact or_congr ⟨fun here => ⟨rfl, here.symm⟩, fun here => here.2.symm⟩ mem_linked_without
  · rename_i different
    simp only [different, false_and, false_or]
    exact mem_linked_without

/-- A claim links its own pair, and unlinks the pairs of the session that it evicts. -/
private theorem covered_claim (inv : registry.Invariant) {stored : Option Registry}
    {held : Finset (SessionKey × TargetKey)} (covered : Audit.Covered ⟨registry, stored, held⟩)
    {request : Request} {key : SessionKey} (named : request.sessionKey = some key)
    (unsettled : ¬ ((registry.targetRoutes.get? request.target).isSome ∧
      (registry.sessionRoutes.get? key).isSome)) :
    Audit.Covered ⟨registry.claim request, stored,
      held.filter (fun pair =>
        (some key).bind (registry.evictedBy request.target) ≠ some pair.1) ∪
        (some key).toFinset.image (·, request.target)⟩ := by
  have evicted : registry.evictedBy request.target key = registry.victim := if_neg unsettled
  intro pair member
  rw [mem_linked_claim inv named]
  rcases Finset.mem_union.mp member with old | new
  · obtain ⟨before, kept⟩ := Finset.mem_filter.mp old
    rw [Option.bind_some, evicted] at kept
    exact .inr ⟨covered pair before, kept⟩
  · obtain ⟨other, same, rfl⟩ := Finset.mem_image.mp new
    rw [Option.mem_toFinset] at same
    exact .inl ⟨rfl, Option.some.inj same⟩

/-- One tracked request keeps every recorded pair linked. -/
theorem covered_heldAfter (inv : registry.Invariant) {stored : Option Registry}
    {held : Finset (SessionKey × TargetKey)} (covered : Audit.Covered ⟨registry, stored, held⟩)
    {request : Request} (tracked : registry.Tracked request) :
    Audit.Covered ⟨(registry.bindLocked request).2, stored, registry.heldAfter held request⟩ := by
  have free := accepted_bindLocked registry request
  have exit := bindLocked_case registry request
  unfold heldAfter
  revert free exit
  generalize (registry.bindLocked request).1 = result
  generalize (registry.bindLocked request).2 = after
  intro free exit
  have settled (accepted : result.accepted = true)
      (known : ∀ key ∈ request.sessionKey, registry.sessionRoutes.get? key = some request.robotId)
      (routed : registry.targetRoutes.get? request.target = some request.robotId) :
      ∀ pair ∈ request.sessionKey.toFinset.image (·, request.target),
        pair.1 ∈ registry.linked pair.2 := by
    rw [accepted] at free
    intro pair member
    obtain ⟨key, named, rfl⟩ := Finset.mem_image.mp member
    rw [Option.mem_toFinset] at named
    exact tracked (by simpa using free.symm) key named (by rw [known key named]; rfl)
      (by rw [routed]; rfl)
  cases exit with
  | refused => exact covered
  | contestedSession =>
    intro pair member
    split
    · exact covered pair member
    · exact covered pair member
  | contestedTarget => exact covered
  | full => exact covered
  | filled routed known =>
    intro pair member
    rcases Finset.mem_union.mp member with old | new
    · exact covered pair (Finset.mem_filter.mp old).1
    · exact settled rfl known routed pair new
  | idempotent routed known =>
    intro pair member
    rcases Finset.mem_union.mp member with old | new
    · exact covered pair (Finset.mem_filter.mp old).1
    · exact settled rfl known routed pair new
  | claimed open' calm freeSession target =>
    cases named : request.sessionKey with
    | none =>
      intro pair member
      have links := (@sessionless_claim registry _ named).2
      have old : pair ∈ held := by simpa [BindResult.accepted] using member
      change pair.1 ∈ (registry.claim request).linked pair.2
      unfold linked
      rw [links]
      exact covered pair old
    | some key =>
      have unsettled : ¬ ((registry.targetRoutes.get? request.target).isSome ∧
          (registry.sessionRoutes.get? key).isSome) := by
        rintro ⟨targetRouted, sessionRouted⟩
        rcases target with ⟨unrouted, -⟩ | ⟨-, other, same, new⟩
        · simp [unrouted] at targetRouted
        · cases named.symm.trans same
          simp [new] at sessionRouted
      exact covered_claim inv covered named unsettled

theorem linked_restored (inv : registry.Invariant) (single : registry.SinglyLinked)
    (before : Registry) (target : TargetKey) :
    (before.restored registry).linked target = registry.linked target :=
  ((sameObservables_restored_iff inv before).mpr single).links target

theorem bind_of_valid {args : BindArgs} {request : Request} (valid : args.validate = .ok request) :
    registry.bind args =
      (.ok (registry.bindLocked request).1, (registry.bindLocked request).2) := by
  simp only [bind, valid]

/-- The first route of a plan either ends it or is accepted and hands over. -/
theorem bindRoutes_cons_valid {robotId : PyStr} {route : PlannedRoute} {request : Request}
    (valid : (planArgs robotId route).validate = .ok request) (rest : List PlannedRoute) :
    registry.bindRoutes robotId (route :: rest) =
      if registry.refuses request then (.refused, (registry.bindLocked request).2)
      else (registry.bindLocked request).2.bindRoutes robotId rest := by
  have accepted := accepted_bindLocked registry request
  conv_lhs => unfold bindRoutes
  rw [bind_of_valid valid]
  cases result : (registry.bindLocked request).1 with
  | conflict => simp [result, BindResult.accepted] at accepted; simp [accepted]
  | capacity => simp [result, BindResult.accepted] at accepted; simp [accepted]
  | bound => simp [result, BindResult.accepted] at accepted; simp [accepted]
  | idempotent => simp [result, BindResult.accepted] at accepted; simp [accepted]

theorem planRefused_iff {robotId : PyStr} {plan : List PlannedRoute} :
    registry.PlanRefused robotId plan ↔ (registry.bindRoutes robotId plan).1 = .refused := by
  constructor
  · rintro ⟨ahead, route, rest, before, request, rfl, bound, valid, refused⟩
    rw [bindRoutes_append (bound_iff.mp bound), bindRoutes_cons_valid valid, if_pos refused]
  · induction plan generalizing registry with
    | nil => intro ended; cases ended
    | cons route rest ih =>
      intro ended
      cases valid : (planArgs robotId route).validate with
      | error error => simp [bindRoutes, bind, valid] at ended
      | ok request =>
        rw [bindRoutes_cons_valid valid] at ended
        split at ended
        · rename_i refused
          exact ⟨[], route, rest, registry, request, rfl, .nil, valid, refused⟩
        · rename_i free
          obtain ⟨ahead, last, others, before, later, split, bound, valid', refused⟩ := ih ended
          have accepted : (registry.bindLocked request).1.accepted = true := by
            rw [accepted_bindLocked]
            simpa using free
          exact ⟨route :: ahead, last, others, before, later, by rw [split]; rfl,
            .cons (bind_of_valid valid) accepted bound, valid', refused⟩

private theorem covered_heldPlan {robotId : PyStr} {plan : List PlannedRoute} {audit : Audit}
    (inv : audit.registry.Invariant) (covered : audit.Covered)
    (open' : (audit.registry.bindRoutes robotId plan).1 ≠ .refused)
    (tracked : ∀ ahead route rest before request, plan = ahead ++ route :: rest →
      Bound robotId audit.registry ahead before →
        (planArgs robotId route).validate = .ok request → before.Tracked request) :
    Audit.Covered ⟨(audit.registry.bindRoutes robotId plan).2, audit.stored,
      heldPlan robotId audit plan⟩ := by
  induction plan generalizing audit with
  | nil => exact covered
  | cons route rest ih =>
    cases valid : (planArgs robotId route).validate with
    | error error =>
      have raised : audit.registry.bind (planArgs robotId route) =
          (.error error, audit.registry) := by
        simp only [bind, valid]
      simp only [heldPlan, valid, bindRoutes, raised]
      exact covered
    | ok request =>
      rw [bindRoutes_cons_valid valid] at open' ⊢
      split at open'
      · exact absurd rfl open'
      · rename_i free
        rw [if_neg free]
        simp only [heldPlan, valid]
        have accepted : (audit.registry.bindLocked request).1.accepted = true := by
          rw [accepted_bindLocked]
          simpa using free
        have covered' := covered_heldAfter inv covered
          (tracked [] route rest audit.registry request rfl .nil valid)
        refine ih (inv.bindLocked request) covered' open' ?_
        intro ahead last others before later split bound
        exact tracked (route :: ahead) last others before later (by rw [split]; rfl)
          (.cons (bind_of_valid valid) accepted bound)

theorem Audit.Sound.covered_load {audit : Audit} (sound : audit.Sound) (covered : audit.Covered)
    {source : Registry} (found : audit.stored = some source)
    (relinks : audit.registry.Relinks source) (base : Registry) :
    Audit.Covered { audit with
      registry := (base.load (.ok audit.reading) (.ok .missing)).1 } := by
  intro pair member
  rw [sound.load, found]
  have same := linked_restored (sound.stored source found) relinks.single base pair.2
  exact (congrArg (pair.1 ∈ ·) same).mpr (relinks.links pair.2 (covered pair member))

private theorem Audit.Sound.covered_step {audit : Audit} (sound : audit.Sound)
    (covered : audit.Covered)
    {operation : Operation} (meets : audit.Meets operation) : (audit.step operation).Covered := by
  have inv := sound.registry
  cases operation with
  | bind args =>
    unfold Audit.step
    dsimp only
    split
    · exact covered
    · rename_i request valid
      exact covered_heldAfter inv covered (meets request valid)
  | bindPlan robotId plan =>
    have condition : audit.registry.PlanTracked robotId plan := meets
    unfold Audit.step
    dsimp only
    rcases ended : audit.registry.bindRoutes robotId plan with ⟨_ | _ | error, partly⟩
    · have whole := covered_heldPlan inv covered (by rw [ended]; simp)
        (condition.bound (by rw [planRefused_iff, ended]; simp))
      rw [ended] at whole
      simpa [bindPlan_accepted ended] using whole
    · have single := condition.refused (by rw [planRefused_iff, ended])
      simp only [bindPlan_refused inv ended, if_true]
      intro pair member
      have same := linked_restored inv single partly pair.2
      exact (congrArg (pair.1 ∈ ·) same).mpr (covered pair member)
    · have whole := covered_heldPlan inv covered (by rw [ended]; simp)
        (condition.bound (by rw [planRefused_iff, ended]; simp))
      rw [ended] at whole
      simpa [bindPlan_raised ended] using whole
  | flush force write placed =>
    intro pair member
    have links : (audit.registry.flush force write).2.linked pair.2 =
        audit.registry.linked pair.2 := by
      unfold Registry.flush
      split
      · rfl
      · cases write <;> rfl
    exact (congrArg (pair.1 ∈ ·) links).mpr (covered pair member)
  | reload =>
    cases found : audit.stored with
    | none =>
      have same : (audit.step .reload).registry = audit.registry := by
        change (audit.registry.load (.ok audit.reading) (.ok .missing)).1 = _
        rw [sound.load, found]
        rfl
      intro pair member
      rw [same]
      exact covered pair member
    | some source => exact sound.covered_load covered found (meets source found) audit.registry
  | restart =>
    have relinks : audit.registry.Relinks (audit.stored.getD fresh) := meets
    cases found : audit.stored with
    | none =>
      rw [found] at relinks
      intro pair member
      exact absurd (relinks.links pair.2 (covered pair member)) (Finset.notMem_empty _)
    | some source =>
      rw [found] at relinks
      exact sound.covered_load covered found relinks fresh

theorem run_sound (operations : List Operation) : (Audit.run operations).Sound :=
  Machine.invariant_of_steps ⟨invariant_fresh, fun _ found => by cases found⟩
    (fun _ operation sound => sound.step operation) operations

private theorem run_keeps {done later : List Operation}
    (saved : Audit.machine.Along Audit.Saved (done ++ later)) :
    (Audit.run done).registry.Keeps (Audit.run (done ++ later)).registry := by
  induction later using List.reverseRecOn with
  | nil =>
    rw [List.append_nil]
    exact .refl _
  | append_singleton between last ih =>
    rw [← List.append_assoc] at saved ⊢
    rw [Audit.run, Audit.run, Machine.run_append]
    exact (ih saved.front).trans ((run_sound (done ++ between)).keeps_step saved.last)

private theorem run_covered {operations : List Operation}
    (meets : Audit.machine.Along Audit.Meets operations) :
    (Audit.run operations).Covered := by
  induction operations using List.reverseRecOn with
  | nil => intro pair member; cases member
  | append_singleton done last ih =>
    rw [Audit.run, Machine.run_append]
    exact (run_sound done).covered_step (ih meets.front) meets.last

/-- Unless a load misses what was claimed since its snapshot, owners never change and
conflicts never clear; and a conflicted target silences every session that holds it, when
no step loses a link. -/
theorem ownership_failClosed (operations : List Operation)
    (saved : Audit.machine.Along Audit.Saved operations) :
    (∀ done later, operations = done ++ later →
      (∀ target robotId, (Audit.run done).registry.targetRoutes.get? target = some robotId →
        (Audit.run operations).registry.robotIdForTarget target = some robotId ∨
          (Audit.run operations).registry.robotIdForTarget target = none) ∧
      (∀ target, (Audit.run done).registry.targetConflict target = true →
        (Audit.run operations).registry.targetConflict target = true ∧
          (Audit.run operations).registry.robotIdForTarget target = none) ∧
      (∀ key, (Audit.run done).registry.sessionConflict key = true →
        (Audit.run operations).registry.sessionConflict key = true ∧
          (Audit.run operations).registry.robotIdForSession key = none)) ∧
    (Audit.machine.Along Audit.Meets operations →
      ∀ target, (Audit.run operations).registry.targetConflict target = true →
        ∀ key, (key, target) ∈ (Audit.run operations).held →
          (Audit.run operations).registry.robotIdForSession key.val = none) := by
  refine ⟨?_, ?_⟩
  · intro done later split
    subst split
    have keeps := run_keeps saved
    refine ⟨?_, ?_, ?_⟩
    · intro target robotId own
      unfold robotIdForTarget
      split
      · exact .inr rfl
      · exact .inl (keeps.owners target robotId own)
    · intro target marked
      have still := keeps.targetConflicts (of_decide_eq_true marked)
      exact ⟨decide_eq_true still, if_pos still⟩
    · intro key marked
      unfold sessionConflict at marked ⊢
      unfold robotIdForSession
      cases named : nonempty? key with
      | none => simp [named] at marked
      | some key =>
        rw [named] at marked
        have still := keeps.sessionConflicts (of_decide_eq_true marked)
        exact ⟨decide_eq_true still, if_pos still⟩
  · intro meets target marked key held
    have link := run_covered meets _ held
    have silent := (run_sound operations).registry.silenced target (of_decide_eq_true marked) key link
    unfold robotIdForSession
    rw [nonempty?_val]
    exact if_pos silent

/-- A conversation, and after a restart from its snapshot a claim of another robot. -/
def contestedRun : List Operation :=
  [.bind (groupBind "x" (some "s1") "t1"), .flush false .durable true, .restart,
    .bind (groupBind "y" none "t1")]

/-- The conversation before the restart. -/
def claimedOnce : Registry := (fresh.bind (groupBind "x" (some "s1") "t1")).2

theorem ownership_failClosed_contested :
    (Audit.run contestedRun).registry.robotIdForTarget (.group, ⟨py "t1", by decide⟩) = none ∧
      (Audit.run contestedRun).registry.robotIdForSession (py "s1") = none := by
  have single : claimedOnce.SinglyLinked := singlyLinked_of_disjoint (by decide)
  have saved : Audit.machine.Follows Audit.Saved Audit.machine.start contestedRun := by
    refine ⟨trivial, trivial, ?_, trivial, trivial⟩
    change claimedOnce.written.Keeps claimedOnce
    exact .of_agree { Agree.refl _ with }
  have meets : Audit.machine.Follows Audit.Meets Audit.machine.start contestedRun := by
    refine ⟨?_, trivial, ?_, ?_, trivial⟩
    · intro request valid _ key named routed
      cases valid
      cases routed
    · change claimedOnce.written.Relinks claimedOnce
      exact ⟨single, fun _ => Finset.Subset.refl _⟩
    · intro request valid _ key named
      cases valid
      cases named
  have inv : claimedOnce.Invariant := invariant_fresh.bind _
  have restarted : Audit.run (contestedRun.take 3) =
      ⟨fresh.restored claimedOnce, some claimedOnce, (Audit.run (contestedRun.take 2)).held⟩ := by
    have loaded := (run_sound (contestedRun.take 2)).load fresh
    exact congrArg (fun registry => (⟨registry, some claimedOnce, _⟩ : Audit)) loaded
  have reached : Audit.run contestedRun =
      (Audit.run (contestedRun.take 3)).step (.bind (groupBind "y" none "t1")) := rfl
  rw [restored, applyBody_bodyLocked inv] at restarted
  rw [restarted] at reached
  obtain ⟨kept, silenced⟩ := ownership_failClosed contestedRun (Machine.along_of_follows saved)
  have conflict : (Audit.run contestedRun).registry.targetConflict
      (.group, ⟨py "t1", by decide⟩) = true := by
    rw [reached]
    decide
  refine ⟨((kept contestedRun [] rfl).2.1 _ conflict).2, ?_⟩
  refine silenced (Machine.along_of_follows meets) _ conflict ⟨py "s1", by decide⟩ ?_
  rw [reached]
  decide

/-- A session of a second target: the third bind answers `idempotent` and adds no
link, so the conflict of the last bind does not reach the session. -/
def unlinkedRun : List Operation :=
  [.bind (groupBind "x" (some "s1") "t1"), .bind (groupBind "x" (some "s2") "t2"),
    .bind (groupBind "x" (some "s1") "t2"), .bind (groupBind "y" none "t2")]

/-- A claim that no write has stored by the time of a restart. -/
def unsavedRun : List Operation := [.bind (groupBind "x" none "t1"), .restart,
  .bind (groupBind "y" none "t1")]

/-- Neither do conflicted targets silence every session that holds them, nor do targets
keep their owners. -/
theorem runs_not_failClosed :
    (¬ ∀ operations target, (Audit.run operations).registry.targetConflict target = true →
      ∀ key, (key, target) ∈ (Audit.run operations).held →
        (Audit.run operations).registry.robotIdForSession key.val = none) ∧
    ¬ ∀ done later target robotId,
      (Audit.run done).registry.targetRoutes.get? target = some robotId →
        (Audit.run (done ++ later)).registry.robotIdForTarget target = some robotId ∨
          (Audit.run (done ++ later)).registry.robotIdForTarget target = none := by
  refine ⟨?_, ?_⟩
  · intro silenced
    have silent := silenced unlinkedRun (.group, ⟨py "t2", by decide⟩) (by decide)
      ⟨py "s1", by decide⟩ (by decide)
    exact absurd silent (by decide)
  · intro keeps
    have kept := keeps (unsavedRun.take 1) (unsavedRun.drop 1) (.group, ⟨py "t1", by decide⟩)
      ⟨py "x", by decide⟩ (by decide)
    revert kept
    decide

end Registry

end OctoChannel.Identity
