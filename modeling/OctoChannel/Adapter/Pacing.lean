import OctoChannel.Adapter.Reconnect

namespace OctoChannel.Adapter.Reconnect

open Foundation

variable (doubles : Doubles)

namespace Lifecycle

variable (state : Lifecycle)

/-- The task is between its dedup check and its end. -/
def Attempting (task : Nat) : Prop :=
  ∃ phase, state.retries task = some phase ∧ phase.attempting = true

/-- The lock is owned by the task. -/
def OwnedBy (task : Nat) : Prop :=
  ∃ stage cancelled, state.lifecycleLock = some (.retry task stage cancelled)

/-- A reconnect task is not done. -/
def Retrying : Prop := ∃ task < state.nextTask, (state.retries task).isSome = true

def ConnectUnderWay : Prop := ∃ stage cancelled, state.lifecycleLock = some (.connect stage cancelled)

end Lifecycle

/-- The owner has seen to it, or waits for it, that no connection is wanted. -/
def Holder.restrained : Holder → Bool
  | .connect (.closing _) _ | .connect (.refused _) _ | .disconnect _ | .retry _ _ true => true
  | _ => false

/-- The tasks, the dedup flag and the lock agree, and who sleeps does so for a delay in
the bounds. -/
structure Paced (state : Lifecycle) : Prop where
  single : ∃ current : Option Nat, state.reconnectInProgress = current.isSome ∧
    ∀ task, state.Attempting task ↔ current = some task
  holding : ∀ task, state.retries task = some .holdingLock ↔ state.OwnedBy task
  unborn : ∀ task, state.nextTask ≤ task → state.retries task = none
  delays : ∀ task delay, state.retries task = some (.sleeping delay) → 9 / 4 ≤ delay ∧ delay ≤ 80

/-- Whoever winds the connection down does so while none is wanted. -/
structure Willing (state : Lifecycle) : Prop where
  restrained : ∀ holder, state.lifecycleLock = some holder → holder.restrained = true →
    state.needReconnect = false
  unclosed : state.needReconnect = true → state.disconnecting = false
  punctual : state.overflowed = false

namespace Lifecycle

variable {state next : Lifecycle} {task : Nat}

theorem spawn_eq (state : Lifecycle) :
    state.spawnReconnectTask = state ∨ state.spawnReconnectTask = state.launch := by
  unfold spawnReconnectTask
  split
  · split
    · split
      · exact .inl rfl
      · exact .inr rfl
    · exact .inr rfl
  · exact .inl rfl

end Lifecycle

open Lifecycle

theorem reconnectDelay_eq_none_iff {doubles : Doubles} {reconnectAttempts : Nat}
    {jitter stagger : Draw} :
    reconnectDelay doubles reconnectAttempts jitter stagger = none ↔ 1024 ≤ reconnectAttempts := by
  unfold reconnectDelay
  rw [Doubles.ofNat?_two_pow]
  by_cases small : reconnectAttempts < 1023 + 1
  · rw [if_pos small]
    simp only [reduceCtorEq, false_iff]
    omega
  · rw [if_neg small]
    simp only [true_iff]
    omega

/-- An attempt waits for at least 0.75 times the base delay, and at most 1.25 times the
longest one and the stagger. -/
private theorem reconnectDelay_bounds {doubles : Doubles} {reconnectAttempts : Nat}
    {jitter stagger : Draw} {delay : ℚ}
    (drawn : reconnectDelay doubles reconnectAttempts jitter stagger = some delay) :
    9 / 4 ≤ delay ∧ delay ≤ 80 := by
  unfold reconnectDelay at drawn
  rw [Doubles.ofNat?_two_pow] at drawn
  by_cases small : reconnectAttempts < 1023 + 1
  · rw [if_pos small] at drawn
    obtain ⟨jitter, jitterNonneg, jitterBelow⟩ := jitter
    obtain ⟨stagger, staggerNonneg, staggerBelow⟩ := stagger
    dsimp only at drawn
    have whole (value : ℤ) (short : |value| < 2 ^ 53) := Doubles.isDouble_intCast short
    have quarters (value : ℤ) (short : |value| < 2 ^ 53) := Doubles.isDouble_quarters short
    have powerLow : (1 : ℚ) ≤ ((2 ^ reconnectAttempts : Nat) : ℚ) := by
      exact_mod_cast Nat.one_le_two_pow
    -- the backoff stays between the base delay and the longest one
    have low : (3 : ℚ) ≤ min (doubles.mul reconnectBaseDelay ((2 ^ reconnectAttempts : Nat) : ℚ))
        reconnectMaxDelay := by
      apply le_min
      · apply Doubles.le_round (by simpa using whole 3 (by norm_num))
        unfold reconnectBaseDelay
        linarith
      · norm_num [reconnectMaxDelay]
    have high : min (doubles.mul reconnectBaseDelay ((2 ^ reconnectAttempts : Nat) : ℚ))
        reconnectMaxDelay ≤ 60 := min_le_right _ _
    generalize min (doubles.mul reconnectBaseDelay ((2 ^ reconnectAttempts : Nat) : ℚ))
      reconnectMaxDelay = exponential at low high drawn
    -- the factor of the jitter stays between 0.75 and 1.25
    have jitterLow : 0 ≤ doubles.mul jitter (1 / 2) := by
      apply Doubles.le_round (by simpa using whole 0 (by norm_num))
      linarith
    have jitterHigh : doubles.mul jitter (1 / 2) ≤ 1 / 2 := by
      apply Doubles.round_le
      · have half := quarters 2 (by norm_num)
        norm_num at half
        norm_num [half]
      · linarith
    have factorLow : 3 / 4 ≤ doubles.add (3 / 4) (doubles.mul jitter (1 / 2)) := by
      apply Doubles.le_round (by simpa using quarters 3 (by norm_num))
      linarith
    have factorHigh : doubles.add (3 / 4) (doubles.mul jitter (1 / 2)) ≤ 5 / 4 := by
      apply Doubles.round_le (by simpa using quarters 5 (by norm_num))
      linarith
    have delayLow : 9 / 4 ≤
        doubles.mul exponential (doubles.add (3 / 4) (doubles.mul jitter (1 / 2))) := by
      apply Doubles.le_round (by simpa using quarters 9 (by norm_num))
      nlinarith
    have delayHigh :
        doubles.mul exponential (doubles.add (3 / 4) (doubles.mul jitter (1 / 2))) ≤ 75 := by
      apply Doubles.round_le (by simpa using whole 75 (by norm_num))
      nlinarith
    have staggerLow : 0 ≤ doubles.mul stagger reconnectStaggerMaxS := by
      apply Doubles.le_round (by simpa using whole 0 (by norm_num))
      unfold reconnectStaggerMaxS
      linarith
    have staggerHigh : doubles.mul stagger reconnectStaggerMaxS ≤ 5 := by
      apply Doubles.round_le (by simpa using whole 5 (by norm_num))
      unfold reconnectStaggerMaxS
      linarith
    rw [Option.some.injEq] at drawn
    rw [← drawn]
    constructor
    · apply Doubles.le_round (by simpa using quarters 9 (by norm_num))
      linarith
    · apply Doubles.round_le (by simpa using whole 80 (by norm_num))
      linarith
  · rw [if_neg small] at drawn
    cases drawn

namespace Paced

variable {doubles} {state next : Lifecycle} {task : Nat} {phase : RetryPhase}

/-- Only the tasks, the flag and the task that owns the lock matter. -/
theorem of_same (paced : Paced state) (retries : next.retries = state.retries)
    (flag : next.reconnectInProgress = state.reconnectInProgress)
    (count : next.nextTask = state.nextTask)
    (owned : ∀ task, next.OwnedBy task ↔ state.OwnedBy task) : Paced next := by
  obtain ⟨current, flagged, attempting⟩ := paced.single
  constructor
  · refine ⟨current, flag.trans flagged, fun task => ?_⟩
    unfold Attempting
    rw [retries]
    exact attempting task
  · intro task
    rw [retries, owned]
    exact paced.holding task
  · intro task later
    rw [retries]
    exact paced.unborn task (count ▸ later)
  · intro task delay sleeping
    rw [retries] at sleeping
    exact paced.delays task delay sleeping

theorem launch (paced : Paced state) : Paced state.launch := by
  obtain ⟨current, flag, attempting⟩ := paced.single
  have absent := paced.unborn state.nextTask (Nat.le_refl _)
  have moving : ∀ task phase, phase ≠ .created →
      (state.launch.retries task = some phase ↔ state.retries task = some phase) := by
    intro task phase moved
    unfold Lifecycle.launch
    by_cases here : task = state.nextTask
    · simp [here, absent, Ne.symm moved]
    · simp [here]
  constructor
  · refine ⟨current, flag, fun task => ?_⟩
    rw [← attempting task]
    constructor
    · rintro ⟨phase, found, active⟩
      exact ⟨phase, (moving task phase (by rintro rfl; cases active)).mp found, active⟩
    · rintro ⟨phase, found, active⟩
      exact ⟨phase, (moving task phase (by rintro rfl; cases active)).mpr found, active⟩
  · intro task
    rw [moving task _ (by decide)]
    exact paced.holding task
  · intro task later
    have apart : task ≠ state.nextTask := by
      rintro rfl
      exact absurd later (Nat.not_succ_le_self _)
    unfold Lifecycle.launch
    simp [apart, paced.unborn task (Nat.le_of_succ_le later)]
  · intro task delay sleeping
    exact paced.delays task delay ((moving task _ (by simp)).mp sleeping)

theorem spawn (paced : Paced state) : Paced state.spawnReconnectTask := by
  rcases spawn_eq state with same | launched
  · rw [same]
    exact paced
  · rw [launched]
    exact paced.launch

theorem dropRetry (paced : Paced state) (idle : state.retries task = some .created) :
    Paced (state.dropRetry task) := by
  obtain ⟨current, flag, attempting⟩ := paced.single
  have dropped : ∀ other phase, phase ≠ .created →
      ((state.dropRetry task).retries other = some phase ↔ state.retries other = some phase) := by
    intro other phase moved
    unfold Lifecycle.dropRetry
    by_cases here : other = task
    · simp [here, idle, Ne.symm moved]
    · simp [here]
  constructor
  · refine ⟨current, flag, fun other => ?_⟩
    rw [← attempting other]
    constructor
    · rintro ⟨phase, found, active⟩
      exact ⟨phase, (dropped other phase (by rintro rfl; cases active)).mp found, active⟩
    · rintro ⟨phase, found, active⟩
      exact ⟨phase, (dropped other phase (by rintro rfl; cases active)).mpr found, active⟩
  · intro other
    rw [dropped other _ (by decide)]
    exact paced.holding other
  · intro other later
    unfold Lifecycle.dropRetry
    by_cases here : other = task
    · simp [here]
    · simp [here, paced.unborn other later]
  · intro other delay sleeping
    exact paced.delays other delay ((dropped other _ (by simp)).mp sleeping)

/-- The task in progress ends and leaves the lock to an owner that is no task. -/
theorem endRetry (paced : Paced state) (active : state.Attempting task)
    (retries : next.retries = Function.update state.retries task none)
    (flag : next.reconnectInProgress = false) (count : next.nextTask = state.nextTask)
    (free : ∀ other, ¬ next.OwnedBy other) : Paced next := by
  obtain ⟨current, flagged, attempting⟩ := paced.single
  have idle : ∀ other phase, phase.attempting = true → next.retries other ≠ some phase := by
    intro other phase moving found
    rw [retries] at found
    by_cases here : other = task
    · simp [here] at found
    · rw [Function.update_of_ne here] at found
      have first := (attempting other).mp ⟨phase, found, moving⟩
      have second := (attempting task).mp active
      exact here (Option.some.inj (first.symm.trans second))
  constructor
  · refine ⟨none, flag, fun other => ?_⟩
    constructor
    · rintro ⟨phase, found, moving⟩
      exact absurd found (idle other phase moving)
    · intro never
      cases never
  · intro other
    constructor
    · intro found
      exact absurd found (idle other _ rfl)
    · intro owned
      exact absurd owned (free other)
  · intro other later
    rw [retries]
    by_cases here : other = task
    · simp [here]
    · simp [here, paced.unborn other (count ▸ later)]
  · intro other delay found
    exact absurd found (idle other _ rfl)

/-- The one task that may be in progress gets to its next phase. -/
theorem setPhase (paced : Paced state) (lone : ∀ other, state.Attempting other → other = task)
    (born : (state.retries task).isSome = true) (moving : phase.attempting = true)
    (retries : next.retries = Function.update state.retries task (some phase))
    (flag : next.reconnectInProgress = true) (count : next.nextTask = state.nextTask)
    (owned : ∀ other, next.OwnedBy other ↔ other = task ∧ phase = .holdingLock)
    (delays : ∀ delay, phase = .sleeping delay → 9 / 4 ≤ delay ∧ delay ≤ 80) : Paced next := by
  have others : ∀ other other', other ≠ task → other'.attempting = true →
      next.retries other ≠ some other' := by
    intro other other' apart active found
    rw [retries, Function.update_of_ne apart] at found
    exact apart (lone other ⟨other', found, active⟩)
  have here : next.retries task = some phase := by rw [retries, Function.update_self]
  constructor
  · refine ⟨some task, flag, fun other => ?_⟩
    constructor
    · rintro ⟨other', found, active⟩
      by_cases same : other = task
      · rw [same]
      · exact absurd found (others other other' same active)
    · intro same
      cases same
      exact ⟨phase, here, moving⟩
  · intro other
    rw [owned]
    by_cases same : other = task
    · subst same
      simp [here]
    · simp [same, others other .holdingLock same rfl]
  · intro other later
    have apart : other ≠ task := by
      rintro rfl
      rw [paced.unborn other (count ▸ later)] at born
      cases born
    rw [retries, Function.update_of_ne apart]
    exact paced.unborn other (count ▸ later)
  · intro other delay found
    by_cases same : other = task
    · subst same
      exact delays delay (Option.some.inj (here.symm.trans found))
    · exact absurd found (others other _ same rfl)

/-- With the flag unset no task is in progress. -/
theorem idle (paced : Paced state) (unset : state.reconnectInProgress = false) (task : Nat) :
    ¬ state.Attempting task := by
  obtain ⟨current, flag, attempting⟩ := paced.single
  rw [attempting]
  cases current with
  | none => simp
  | some other =>
    rw [unset] at flag
    cases flag

theorem lone (paced : Paced state) (active : state.Attempting task) :
    ∀ other, state.Attempting other → other = task := by
  obtain ⟨current, -, attempting⟩ := paced.single
  intro other also
  exact Option.some.inj (((attempting other).mp also).symm.trans ((attempting task).mp active))

theorem flagged (paced : Paced state) (active : state.Attempting task) :
    state.reconnectInProgress = true := by
  obtain ⟨current, flag, attempting⟩ := paced.single
  rw [flag, (attempting task).mp active]
  rfl

theorem attempting_of_owned (paced : Paced state) (owned : state.OwnedBy task) :
    state.Attempting task :=
  ⟨.holdingLock, (paced.holding task).mpr owned, rfl⟩

/-- A task that is in progress outside the lock leaves the lock to no task. -/
theorem unowned (paced : Paced state) (active : state.Attempting task)
    (outside : state.retries task ≠ some .holdingLock) (other : Nat) : ¬ state.OwnedBy other := by
  intro owned
  have same := paced.lone active other (paced.attempting_of_owned owned)
  rw [same] at owned
  exact outside ((paced.holding task).mpr owned)

theorem scheduleReconnect (paced : Paced state) (created : state.retries task = some .created)
    (jitter stagger : Draw) : Paced (state.scheduleReconnect doubles task jitter stagger) := by
  unfold Lifecycle.scheduleReconnect
  by_cases flag : state.reconnectInProgress = true
  · rw [if_pos flag]
    exact paced.dropRetry created
  rw [if_neg flag]
  by_cases wanted : state.needReconnect = true
  · rw [if_pos wanted]
    have unset : state.reconnectInProgress = false := by simpa using flag
    cases drawn : reconnectDelay doubles state.reconnectAttempts jitter stagger with
    | none =>
      have dropped := paced.dropRetry created
      exact dropped.of_same rfl unset.symm rfl (fun other => Iff.rfl)
    | some delay =>
      have free : ∀ other, ¬ state.OwnedBy other := fun other owned =>
        paced.idle unset other (paced.attempting_of_owned owned)
      apply @setPhase _ _ task (.sleeping delay) paced
      · intro other active
        exact absurd active (paced.idle unset other)
      · rw [created]
        rfl
      · rfl
      · rfl
      · rfl
      · rfl
      · intro other
        simp only [reduceCtorEq, and_false, iff_false]
        exact free other
      · intro delay' same
        cases same
        exact reconnectDelay_bounds drawn
  · rw [if_neg wanted]
    exact paced.dropRetry created

theorem wakeRetry {delay : ℚ} (paced : Paced state)
    (sleeping : state.retries task = some (.sleeping delay)) : Paced (state.wakeRetry task) := by
  have active : state.Attempting task := ⟨_, sleeping, rfl⟩
  have free := paced.unowned active (by rw [sleeping]; simp)
  unfold Lifecycle.wakeRetry
  by_cases wanted : state.needReconnect = true
  · rw [if_pos wanted]
    apply @setPhase _ _ task .awaitingLock paced (paced.lone active)
    · rw [sleeping]
      rfl
    · rfl
    · rfl
    · exact paced.flagged active
    · rfl
    · intro other
      simp only [reduceCtorEq, and_false, iff_false]
      exact free other
    · intro delay same
      cases same
  · rw [if_neg wanted]
    exact paced.endRetry active rfl rfl rfl free

theorem lockRetry (paced : Paced state) (awaiting : state.retries task = some .awaitingLock) :
    Paced (state.lockRetry task) := by
  have active : state.Attempting task := ⟨_, awaiting, rfl⟩
  have free := paced.unowned active (by rw [awaiting]; simp)
  have locked : ∀ next : Lifecycle, ∀ stage,
      next.retries = Function.update state.retries task (some .holdingLock) →
      next.reconnectInProgress = state.reconnectInProgress →
      next.nextTask = state.nextTask → next.lifecycleLock = some (.retry task stage false) →
      Paced next := by
    intro next stage retries flag count owner
    apply @setPhase _ _ task .holdingLock paced (paced.lone active)
    · rw [awaiting]
      rfl
    · rfl
    · exact retries
    · exact flag.trans (paced.flagged active)
    · exact count
    · intro other
      unfold OwnedBy
      rw [owner]
      simp [eq_comm]
    · intro delay same
      cases same
  unfold Lifecycle.lockRetry
  by_cases wanted : state.needReconnect = true
  · rw [if_pos wanted]
    by_cases open' : state.ws = true
    · rw [if_pos open']
      exact locked _ .closingSocket rfl rfl rfl rfl
    · rw [if_neg open']
      exact locked _ (.attempt .handshake) rfl rfl rfl rfl
  · rw [if_neg wanted]
    exact paced.endRetry active rfl rfl rfl free

theorem failRetry (paced : Paced state) (owned : state.OwnedBy task) :
    Paced (state.failRetry task) := by
  have active := paced.attempting_of_owned owned
  have holding := (paced.holding task).mpr owned
  have older : task ≠ state.nextTask := by
    rintro rfl
    rw [paced.unborn _ (Nat.le_refl _)] at holding
    cases holding
  have free : ∀ other, ¬ ({ state with lifecycleLock := none } : Lifecycle).OwnedBy other := by
    rintro other ⟨stage, cancelled, never⟩
    cases never
  unfold Lifecycle.failRetry
  by_cases wanted : state.needReconnect = true
  · rw [if_pos wanted]
    generalize (if state.reconnectTask = some task then none else state.reconnectTask) = handle
    let freed : Lifecycle := { state with
      lifecycleLock := none, reconnectInProgress := false, reconnectTask := handle }
    have ended : Paced (freed.endRetry task) := paced.endRetry active rfl rfl rfl free
    rcases spawn_eq freed with same | launched
    · exact same ▸ ended
    · -- the next task is created before this one ends
      apply ended.launch.of_same
      · dsimp only
        change (freed.spawnReconnectTask.endRetry task).retries = _
        rw [launched]
        exact Function.update_comm older.symm _ _ _
      · rfl
      · dsimp only
        change (freed.spawnReconnectTask.endRetry task).nextTask = _
        rw [launched]
        rfl
      · intro other
        unfold OwnedBy
        change (∃ stage cancelled, (freed.spawnReconnectTask.endRetry task).lifecycleLock = _) ↔ _
        rw [launched]
        rfl
  · rw [if_neg wanted]
    exact paced.endRetry active rfl rfl rfl free

theorem unowned_of {owner : Option Holder} (held : state.lifecycleLock = owner)
    (other : ∀ task stage cancelled, owner ≠ some (.retry task stage cancelled)) (task : Nat) :
    ¬ state.OwnedBy task := by
  rintro ⟨stage, cancelled, owned⟩
  exact other task stage cancelled (held.symm.trans owned)

/-- The lock passes between owners that are no tasks. -/
theorem of_unowned (paced : Paced state) (free : ∀ task, ¬ state.OwnedBy task)
    (freed : ∀ task, ¬ next.OwnedBy task) (retries : next.retries = state.retries)
    (flag : next.reconnectInProgress = state.reconnectInProgress)
    (count : next.nextTask = state.nextTask) : Paced next :=
  paced.of_same retries flag count (fun task => iff_of_false (freed task) (free task))

theorem cancelOwner (paced : Paced state) : Paced state.cancelOwner := by
  unfold Lifecycle.cancelOwner
  split
  · exact paced
  · rename_i owner stage _ _ held
    refine paced.of_same rfl rfl rfl ?_
    intro other
    unfold OwnedBy
    rw [held]
    simp
  · exact paced

theorem cancelRetry (paced : Paced state) : Paced state.cancelRetry := by
  unfold Lifecycle.cancelRetry
  cases handle : state.reconnectTask with
  | none => exact paced
  | some task =>
    dsimp only
    cases found : state.retries task with
    | none => exact paced
    | some phase =>
      cases phase with
      | created => exact paced.dropRetry found
      | sleeping delay =>
        have active : state.Attempting task := ⟨_, found, rfl⟩
        exact paced.endRetry active rfl rfl rfl (paced.unowned active (by rw [found]; simp))
      | awaitingLock =>
        have active : state.Attempting task := ⟨_, found, rfl⟩
        exact paced.endRetry active rfl rfl rfl (paced.unowned active (by rw [found]; simp))
      | holdingLock => exact paced.cancelOwner

theorem succeed (paced : Paced state) : Paced state.succeed := by
  unfold Lifecycle.succeed
  cases owner : state.lifecycleLock with
  | none => exact paced
  | some holder =>
    cases holder with
    | retry task stage cancelled =>
      have active := paced.attempting_of_owned ⟨stage, cancelled, owner⟩
      exact paced.endRetry active rfl rfl rfl (unowned_of rfl (by simp))
    | connect stage cancelled =>
      exact paced.of_unowned (unowned_of owner (by simp)) (unowned_of rfl (by simp)) rfl rfl rfl
    | disconnect cleanup => exact paced

theorem fail (paced : Paced state) : Paced state.fail := by
  unfold Lifecycle.fail
  cases owner : state.lifecycleLock with
  | none => exact paced
  | some holder =>
    cases holder with
    | retry task stage cancelled => exact paced.failRetry ⟨stage, cancelled, owner⟩
    | connect stage cancelled =>
      exact paced.of_unowned (unowned_of owner (by simp)) (unowned_of rfl (by simp)) rfl rfl rfl
    | disconnect cleanup => exact paced

theorem refuse (paced : Paced state) : Paced state.refuse := by
  unfold Lifecycle.refuse
  cases owner : state.lifecycleLock with
  | none => exact paced
  | some holder =>
    cases holder with
    | retry task stage cancelled =>
      have active := paced.attempting_of_owned ⟨stage, cancelled, owner⟩
      exact paced.endRetry active rfl rfl rfl (unowned_of rfl (by simp))
    | connect stage cancelled =>
      exact paced.of_unowned (unowned_of owner (by simp)) (unowned_of rfl (by simp)) rfl rfl rfl
    | disconnect cleanup => exact paced

/-- The counter of the tasks moves on past a receive loop. -/
theorem startLoop (paced : Paced state) : Paced state.startLoop where
  single := paced.single
  holding := paced.holding
  unborn := fun task later => paced.unborn task (Nat.le_of_succ_le later)
  delays := paced.delays

theorem settle (paced : Paced state) (raised : Bool) : Paced (state.settle raised) := by
  unfold Lifecycle.settle
  cases raised with
  | false => exact paced.startLoop.succeed
  | true => exact paced.startLoop.fail

theorem setAttempt (paced : Paced state) (attempt : Attempt) : Paced (state.setAttempt attempt) := by
  unfold Lifecycle.setAttempt
  cases owner : state.lifecycleLock with
  | none => exact paced
  | some holder =>
    cases holder with
    | retry task stage cancelled =>
      refine paced.of_same rfl rfl rfl ?_
      intro other
      unfold OwnedBy
      rw [owner]
      simp
    | connect stage cancelled =>
      exact paced.of_unowned (unowned_of owner (by simp)) (unowned_of rfl (by simp)) rfl rfl rfl
    | disconnect cleanup => exact paced

theorem startReceiveTask (paced : Paced state) (raised : Bool) :
    Paced (state.startReceiveTask raised) := by
  unfold Lifecycle.startReceiveTask
  split
  · split
    · exact (paced.setAttempt _).of_same rfl rfl rfl (fun task => Iff.rfl)
    · exact paced.settle raised
  · exact paced.settle raised

theorem setDraining (paced : Paced state) : Paced state.setDraining := by
  unfold Lifecycle.setDraining
  cases owner : state.lifecycleLock with
  | none => exact paced
  | some holder =>
    have rest : ∀ lock : Option Holder, (∀ task stage cancelled, holder ≠ .retry task stage cancelled) →
        (∀ task stage cancelled, lock ≠ some (.retry task stage cancelled)) →
        Paced { state with lifecycleLock := lock } := by
      intro lock before behind
      exact paced.of_unowned (unowned_of owner (by simpa using before)) (unowned_of rfl behind)
        rfl rfl rfl
    cases holder with
    | retry task stage cancelled => exact paced
    | disconnect cleanup => exact rest _ (by simp) (by simp)
    | connect stage cancelled =>
      cases stage with
      | attempt attempt => exact paced
      | closing cleanup => exact rest _ (by simp) (by simp)
      | failed cleanup => exact rest _ (by simp) (by simp)
      | refused cleanup => exact rest _ (by simp) (by simp)
      | cancelled cleanup => exact rest _ (by simp) (by simp)

theorem beginConnect (paced : Paced state) (free : ∀ task, ¬ state.OwnedBy task) :
    Paced state.beginConnect := by
  have owner : state.beginConnect.lifecycleLock = some (.connect (.attempt .handshake) false) := rfl
  exact paced.of_unowned free (unowned_of owner (by simp)) rfl rfl rfl

theorem disconnectLocked (paced : Paced state) {owner : Holder}
    (free : ∀ task, ¬ state.OwnedBy task)
    (other : ∀ task stage cancelled, owner ≠ .retry task stage cancelled) :
    Paced (state.disconnectLocked owner) := by
  have held : (state.disconnectLocked owner).lifecycleLock = some owner := rfl
  exact paced.of_unowned free (unowned_of held (by simpa using other)) rfl rfl rfl

theorem afterCleanup (paced : Paced state) {cleanup : Cleanup}
    (cleaning : state.cleanup? = some cleanup) (raised : Bool) :
    Paced (state.afterCleanup raised) := by
  have unowned : ∀ task, ¬ state.OwnedBy task := by
    apply unowned_of rfl
    intro task stage cancelled owner
    unfold Lifecycle.cleanup? at cleaning
    rw [owner] at cleaning
    cases cleaning
  have freed : Paced { state with lifecycleLock := none } :=
    paced.of_unowned unowned (unowned_of rfl (by simp)) rfl rfl rfl
  unfold Lifecycle.afterCleanup
  dsimp only
  split
  · split
    · exact freed
    · exact paced.beginConnect unowned
  · split
    · exact freed
    · split
      · exact freed.spawn
      · exact freed
  · exact freed

theorem connectLocked (paced : Paced state) (free : state.lifecycleLock = none) :
    Paced state.connectLocked := by
  have unowned := unowned_of free (by simp)
  unfold Lifecycle.connectLocked
  split
  · exact paced.disconnectLocked unowned (by simp)
  · exact paced.beginConnect unowned

theorem cancelConnect (paced : Paced state) : Paced state.cancelConnect := by
  unfold Lifecycle.cancelConnect
  split
  · rename_i owner
    exact paced.of_unowned (unowned_of owner (by simp)) (unowned_of rfl (by simp)) rfl rfl rfl
  · exact paced
  · rename_i owner
    exact paced.of_unowned (unowned_of owner (by simp)) (unowned_of rfl (by simp)) rfl rfl rfl
  · exact paced

theorem exitLoop (paced : Paced state) (loop : Nat) : Paced (state.exitLoop loop) := by
  unfold Lifecycle.exitLoop
  dsimp only
  split
  · apply spawn
    exact paced.of_same rfl rfl rfl (fun task => Iff.rfl)
  · exact paced.of_same rfl rfl rfl (fun task => Iff.rfl)

theorem step (paced : Paced state) (event : Event) : Paced (step doubles state event) := by
  have same : ∀ task, state.OwnedBy task ↔ state.OwnedBy task := fun task => Iff.rfl
  rcases @step_moves doubles state event with stays | moves
  · rw [stays]
    exact paced
  generalize Reconnect.step doubles state event = next at moves
  cases moves with
  | connect free => exact paced.connectLocked free
  | cancelConnect => exact paced.cancelConnect
  | disconnect =>
    apply cancelRetry
    exact paced.of_same rfl rfl rfl same
  | disconnectLocked free => exact paced.disconnectLocked (unowned_of free (by simp)) (by simp)
  | cleanupCancels _ => exact paced.cancelRetry.setDraining
  | cleanupCloses cleaning _ =>
    have closed : Paced state.closeTransports := paced.of_same rfl rfl rfl same
    exact closed.afterCleanup cleaning _
  | retryStarts created => exact paced.scheduleReconnect created _ _
  | retryWakes sleeping => exact paced.wakeRetry sleeping
  | retryLocks awaiting _ => exact paced.lockRetry awaiting
  | retryClosedSocket owner =>
    refine paced.of_same rfl rfl rfl ?_
    intro other
    unfold OwnedBy Lifecycle.beginRetry
    rw [owner]
    simp
  | retryCancelled owner =>
    have active := paced.attempting_of_owned ⟨_, _, owner⟩
    exact paced.endRetry active rfl rfl rfl (unowned_of rfl (by simp))
  | retryCleared => exact paced.of_same rfl rfl rfl same
  | opened => exact paced.of_same rfl rfl rfl same
  | welcomed _ => exact (paced.setAttempt _).of_same rfl rfl rfl (fun task => Iff.rfl)
  | conflicted _ => exact paced.refuse
  | failed _ => exact paced.fail
  | heartbeatsStopped _ => exact paced.startReceiveTask _
  | loopStopped _ => exact paced.settle _
  | loopExits => exact paced.exitLoop _
  | serverDisconnects => exact paced.of_same rfl rfl rfl same
  | pingTimesOut => exact paced.of_same rfl rfl rfl same

end Paced

namespace Willing

variable {doubles} {state next : Lifecycle} {task : Nat}

theorem unwanted (need : next.needReconnect = false) (punctual : next.overflowed = false) :
    Willing next where
  restrained := fun _ _ _ => need
  unclosed := by
    intro wanted
    rw [need] at wanted
    cases wanted
  punctual := punctual

/-- The lock passes to an owner that is restrained only if the one before was. -/
theorem of_same (willing : Willing state) (need : next.needReconnect = state.needReconnect)
    (closing : next.disconnecting = state.disconnecting)
    (punctual : next.overflowed = state.overflowed)
    (lock : ∀ holder, next.lifecycleLock = some holder → holder.restrained = true →
      ∃ before, state.lifecycleLock = some before ∧ before.restrained = true) : Willing next where
  restrained := by
    intro holder held restrained
    obtain ⟨before, owned, also⟩ := lock holder held restrained
    rw [need]
    exact willing.restrained before owned also
  unclosed := by
    rw [need, closing]
    exact willing.unclosed
  punctual := punctual.trans willing.punctual

theorem spawn (willing : Willing state) : Willing state.spawnReconnectTask := by
  rcases spawn_eq state with same | launched
  · rw [same]
    exact willing
  · rw [launched]
    exact ⟨willing.restrained, willing.unclosed, willing.punctual⟩

theorem release (willing : Willing state) : Willing { state with lifecycleLock := none } :=
  willing.of_same rfl rfl rfl (by simp)

theorem endRetry (willing : Willing state) (task : Nat) : Willing (state.endRetry task) :=
  ⟨willing.restrained, willing.unclosed, willing.punctual⟩

theorem dropRetry (willing : Willing state) (task : Nat) : Willing (state.dropRetry task) :=
  ⟨willing.restrained, willing.unclosed, willing.punctual⟩

theorem cancelRetry (willing : Willing state)
    (put : state.needReconnect = false ∨ ∀ task, ¬ state.OwnedBy task) :
    Willing state.cancelRetry := by
  have owner : Willing state.cancelOwner := by
    unfold Lifecycle.cancelOwner
    split
    · exact willing
    · rename_i held
      rcases put with unwanted | unowned
      · exact Willing.unwanted unwanted willing.punctual
      · exact absurd ⟨_, _, held⟩ (unowned _)
    · exact willing
  unfold Lifecycle.cancelRetry
  split
  · exact willing
  · split
    · exact willing
    · exact willing.dropRetry _
    · exact willing.endRetry _
    · exact willing.endRetry _
    · exact owner

theorem scheduleReconnect (willing : Willing state) (jitter stagger : Draw)
    (soon : state.reconnectInProgress = false → state.needReconnect = true →
      state.reconnectAttempts < 1024) :
    Willing (state.scheduleReconnect doubles task jitter stagger) := by
  unfold Lifecycle.scheduleReconnect
  by_cases flag : state.reconnectInProgress = true
  · rw [if_pos flag]
    exact willing.dropRetry task
  rw [if_neg flag]
  by_cases wanted : state.needReconnect = true
  · rw [if_pos wanted]
    cases drawn : reconnectDelay doubles state.reconnectAttempts jitter stagger with
    | none =>
      have late := reconnectDelay_eq_none_iff.mp drawn
      have early := soon (by simpa using flag) wanted
      omega
    | some delay => exact ⟨willing.restrained, willing.unclosed, willing.punctual⟩
  · rw [if_neg wanted]
    exact willing.dropRetry task

theorem failRetry (willing : Willing state) (task : Nat) : Willing (state.failRetry task) := by
  unfold Lifecycle.failRetry
  dsimp only
  split
  · apply endRetry
    apply spawn
    exact willing.of_same rfl rfl rfl (by simp)
  · exact willing.release.endRetry task

theorem succeed (willing : Willing state) : Willing state.succeed := by
  unfold Lifecycle.succeed
  split
  · exact (willing.endRetry _).release
  · exact willing.release
  · exact willing

theorem fail (willing : Willing state) : Willing state.fail := by
  unfold Lifecycle.fail
  split
  · exact willing.failRetry _
  · exact willing.of_same rfl rfl rfl (by simp [Holder.restrained])
  · exact willing

theorem settle (willing : Willing state) (raised : Bool) : Willing (state.settle raised) := by
  have started : Willing state.startLoop :=
    ⟨willing.restrained, willing.unclosed, willing.punctual⟩
  unfold Lifecycle.settle
  cases raised with
  | false => exact started.succeed
  | true => exact started.fail

theorem refuse (willing : Willing state) : Willing state.refuse := by
  unfold Lifecycle.refuse
  dsimp only
  split
  · exact unwanted rfl willing.punctual
  · exact unwanted rfl willing.punctual
  · exact willing

theorem setAttempt (willing : Willing state) (attempt : Attempt) :
    Willing (state.setAttempt attempt) := by
  unfold Lifecycle.setAttempt
  split
  · rename_i cancelled owner
    refine willing.of_same rfl rfl rfl ?_
    intro holder held restrained
    cases held
    cases cancelled with
    | false => cases restrained
    | true => exact ⟨_, owner, rfl⟩
  · exact willing.of_same rfl rfl rfl (by simp [Holder.restrained])
  · exact willing

theorem startReceiveTask (willing : Willing state) (raised : Bool) :
    Willing (state.startReceiveTask raised) := by
  unfold Lifecycle.startReceiveTask
  split
  · rename_i previous _
    split
    · have set := willing.setAttempt (.stoppingLoop previous)
      exact ⟨set.restrained, set.unclosed, set.punctual⟩
    · exact willing.settle raised
  · exact willing.settle raised

theorem beginConnect (willing : Willing state) : Willing state.beginConnect where
  restrained := by
    intro holder held restrained
    cases held
    cases restrained
  unclosed := fun _ => rfl
  punctual := willing.punctual

theorem setDraining (willing : Willing state) : Willing state.setDraining := by
  unfold Lifecycle.setDraining
  split
  · rename_i owner
    exact willing.of_same rfl rfl rfl (fun _ _ _ => ⟨_, owner, rfl⟩)
  · exact willing.of_same rfl rfl rfl (by simp [Holder.restrained])
  · rename_i owner
    exact willing.of_same rfl rfl rfl (fun _ _ _ => ⟨_, owner, rfl⟩)
  · exact willing.of_same rfl rfl rfl (by simp [Holder.restrained])
  · rename_i owner
    exact willing.of_same rfl rfl rfl (fun _ _ _ => ⟨_, owner, rfl⟩)
  · exact willing

theorem afterCleanup (willing : Willing state) (raised : Bool) :
    Willing (state.afterCleanup raised) := by
  unfold Lifecycle.afterCleanup
  dsimp only
  split
  · split
    · exact willing.release
    · exact willing.beginConnect
  · split
    · exact willing.release
    · split
      · exact willing.release.spawn
      · exact willing.release
  · exact willing.release

theorem cancelConnect (willing : Willing state) : Willing state.cancelConnect := by
  unfold Lifecycle.cancelConnect
  split
  · exact willing.of_same rfl rfl rfl (by simp [Holder.restrained])
  · exact willing
  · rename_i stage _ _ _ owner
    refine willing.of_same rfl rfl rfl ?_
    intro holder held restrained
    cases held
    exact ⟨_, owner, by cases stage <;> exact restrained⟩
  · exact willing

theorem exitLoop (willing : Willing state) (loop : Nat) : Willing (state.exitLoop loop) := by
  unfold Lifecycle.exitLoop
  dsimp only
  split
  · apply spawn
    exact ⟨willing.restrained, willing.unclosed, willing.punctual⟩
  · exact ⟨willing.restrained, willing.unclosed, willing.punctual⟩

end Willing

end OctoChannel.Adapter.Reconnect
