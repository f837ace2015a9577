import OctoChannel.Foundation.JsonLoads
import OctoChannel.Foundation.Runs
import OctoChannel.Menu.Publishing

/-! Keeping the command menu of the server up to date: the one sync loop of a runtime, its
forced wakeups, and the digest of what was published last. -/

namespace OctoChannel.Menu

open Foundation

def maxCharsError : PyError :=
  .valueError "command_menu_max_chars must be 0 or an integer of at least 2"

/-- `_parse_command_menu_max_chars` -/
def parseCommandMenuMaxChars (value : Json) : Except PyError Int :=
  let parsed? : Except PyError Int :=
    match value with
    | .int parsed => .ok parsed
    | .str text =>
      let digits := strip text
      if digits ≠ [] ∧ digits.all Json.isDigit then
        if digits.length ≤ Json.maxIntDigits then .ok (Json.readNat digits)
        else .error (.valueError "Exceeds the limit (4300 digits) for integer string conversion")
      else .error maxCharsError
    | _ => .error maxCharsError
  match parsed? with
  | .error error => .error error
  | .ok parsed => if parsed < 0 ∨ parsed = 1 then .error maxCharsError else .ok parsed

variable (letters : Letters) (sha256 : Bytes → PyStr)

/-- `collect_runtime_command_menu`, over what the registries of Hermes hold. -/
def collectRuntimeCommandMenu (registries : MenuInputs) (maxChars : Int) :
    Except PyError CommandMenuManifest :=
  match buildCommandMenu letters sha256
      { registries with
        skillUsageCounts := if maxChars ≠ 0 then registries.skillUsageCounts else .empty
        maxChars := maxChars } with
  | .error error => .error error
  | .ok manifest =>
    if manifest.collectedSourceCounts .core = 0 then
      .error (.runtimeError "Hermes exposed no gateway command registry entries")
    else .ok manifest

/-- Where `_command_menu_sync_loop` is. -/
inductive MenuLoop where
  | waiting
  | publishing (manifest : CommandMenuManifest)

/-- What statements about runs refer to; no modelled function reads it. -/
structure MenuHistory where
  /-- How many forced wakeups there were, and how many of them had come when the last
  publication that succeeded began. -/
  wakes : Nat
  answered : Nat
  /-- The wakeups before the publication under way, and whether the identity changed since. -/
  since : Nat
  stray : Bool
  /-- The server shows another menu than the one the runtime published last. -/
  tainted : Bool

structure MenuSync where
  httpSession : Bool
  forceEvent : Bool
  forcePending : Bool
  publishedDigest : Option PyStr
  task : Option MenuLoop
  maxCharsConfig : Json
  registries : Except PyError MenuInputs
  /-- The menu that the server shows for the bot. -/
  shown : List MenuItem
  history : MenuHistory

namespace MenuSync

variable (sync : MenuSync)

def start (maxCharsConfig : Json) (registries : Except PyError MenuInputs)
    (shown : List MenuItem) : MenuSync where
  httpSession := false
  forceEvent := false
  forcePending := false
  publishedDigest := none
  task := none
  maxCharsConfig := maxCharsConfig
  registries := registries
  shown := shown
  history := ⟨0, 0, 0, false, false⟩

/-- `_wake_command_menu_sync` -/
def wake : MenuSync :=
  { sync with
    forceEvent := true
    task := some (sync.task.getD .waiting)
    history.wakes := sync.history.wakes + 1 }

/-- The manifest of a reconciliation that gets that far. -/
def manifest? : Except PyError CommandMenuManifest :=
  match parseCommandMenuMaxChars sync.maxCharsConfig with
  | .error error => .error error
  | .ok maxChars =>
    match sync.registries with
    | .error error => .error error
    | .ok registries => collectRuntimeCommandMenu letters sha256 registries maxChars

/-- `_reconcile_command_menu` up to `set_commands`; a failure before it is logged. -/
def reconcile (force : Bool) : MenuSync :=
  let sync := if force then { sync with forcePending := true } else sync
  if sync.httpSession then
    match sync.manifest? letters sha256 with
    | .error _ => sync
    | .ok manifest =>
      if ¬ sync.forcePending ∧ sync.publishedDigest = some manifest.digest then sync
      else
        { sync with
          task := some (.publishing manifest)
          history.since := sync.history.wakes
          history.stray := false }
  else sync

/-- `set_commands` returns. Of a runtime that has changed its identity meanwhile, the server
may have set the menu of the other one. -/
def succeed (manifest : CommandMenuManifest) (elsewhere : Bool) : MenuSync :=
  let reached := !(sync.history.stray && elsewhere)
  { sync with
    publishedDigest := some manifest.digest
    forcePending := false
    task := some .waiting
    shown := if reached then manifest.commands else sync.shown
    history.answered := max sync.history.answered sync.history.since
    history.tainted := !reached }

/-- A publication that fails, though the server may have carried it out. -/
def fail (manifest : CommandMenuManifest) (delivered : Bool) (task : Option MenuLoop) : MenuSync :=
  { sync with
    task := task
    shown := if delivered then manifest.commands else sync.shown
    history.tainted := sync.history.tainted || delivered }

/-- The lines of `_reset_identity_scoped_state`; the server has another menu for the other bot. -/
def resetIdentityScopedState (shown : List MenuItem) : MenuSync :=
  { sync with
    publishedDigest := none
    forcePending := false
    forceEvent := false
    shown := shown
    history.answered := sync.history.wakes
    history.stray := true
    history.tainted := false }

/-- The lines of `_finalize_disconnect_resources`, which cancels the loop. -/
def finalizeDisconnect (delivered : Bool) : MenuSync :=
  let cancelled :=
    match sync.task with
    | some (.publishing manifest) => sync.fail manifest delivered none
    | _ => { sync with task := none }
  { cancelled with
    httpSession := false
    forceEvent := false
    forcePending := false
    history.answered := sync.history.wakes }

end MenuSync

/-- The steps of the loop, of the connection, of the configuration and of the server. -/
inductive MenuEvent where
  | openSession
  | wake
  | takeForced
  | takePeriodic
  | succeed (elsewhere : Bool)
  | fail (delivered : Bool)
  | change (maxCharsConfig : Json) (registries : Except PyError MenuInputs)
  | setElsewhere (shown : List MenuItem)
  | resetIdentity (shown : List MenuItem)
  | disconnect (delivered : Bool)

/-- One step; a step whose party is somewhere else changes nothing. -/
def menuStep (sync : MenuSync) : MenuEvent → MenuSync
  | .openSession => { sync with httpSession := true }
  | .wake => sync.wake
  | .takeForced =>
    match sync.task with
    | some .waiting =>
      if sync.forceEvent then
        { sync with forceEvent := false }.reconcile letters sha256 true
      else sync
    | _ => sync
  | .takePeriodic =>
    match sync.task with
    | some .waiting => sync.reconcile letters sha256 false
    | _ => sync
  | .succeed elsewhere =>
    match sync.task with
    | some (.publishing manifest) => sync.succeed manifest elsewhere
    | _ => sync
  | .fail delivered =>
    match sync.task with
    | some (.publishing manifest) => sync.fail manifest delivered (some .waiting)
    | _ => sync
  | .change maxCharsConfig registries => { sync with maxCharsConfig, registries }
  | .setElsewhere shown => { sync with shown, history.tainted := true }
  | .resetIdentity shown => sync.resetIdentityScopedState shown
  | .disconnect delivered => sync.finalizeDisconnect delivered

def menuMachine (maxCharsConfig : Json) (registries : Except PyError MenuInputs)
    (shown : List MenuItem) : Machine MenuSync MenuEvent where
  start := .start maxCharsConfig registries shown
  step := menuStep letters sha256

/-- The digest that a manifest of these commands has. -/
def menuDigest (commands : List MenuItem) : Option PyStr :=
  (utf8Encode (menuJson commands).print).map sha256

/-- What is published last is shown, unless the server was changed behind it; a wakeup that no
later publication has answered is remembered. -/
structure MenuSync.Sound (sync : MenuSync) : Prop where
  shows : sync.history.tainted = false → ∀ digest, sync.publishedDigest = some digest →
    menuDigest sha256 sync.shown = some digest
  built : ∀ manifest, sync.task = some (.publishing manifest) →
    menuDigest sha256 manifest.commands = some manifest.digest
  remembers : sync.history.answered < sync.history.wakes →
    sync.forceEvent = true ∨ sync.forcePending = true
  late : ∀ manifest, sync.task = some (.publishing manifest) →
    sync.history.answered < sync.history.wakes → sync.history.since < sync.history.wakes →
      sync.forceEvent = true
  loops : sync.history.answered < sync.history.wakes → sync.task.isSome
  counts : sync.history.answered ≤ sync.history.wakes ∧ sync.history.since ≤ sync.history.wakes

namespace MenuSync

variable {letters sha256} {sync : MenuSync}

private theorem digest_buildCommandMenu {inputs : MenuInputs} {manifest : CommandMenuManifest}
    (built : buildCommandMenu letters sha256 inputs = .ok manifest) :
    menuDigest sha256 manifest.commands = some manifest.digest := by
  rw [buildCommandMenu] at built
  split at built
  · cases built
  · cases collected : inputs.collect letters with
    | error error =>
      rw [collected] at built
      cases built
    | ok entries =>
      rw [collected] at built
      dsimp only at built
      split at built
      · cases built
      · rename_i payload encoded
        cases built
        rw [menuDigest, encoded, Option.map_some]

theorem digest_manifest? {manifest : CommandMenuManifest}
    (collected : sync.manifest? letters sha256 = .ok manifest) :
    menuDigest sha256 manifest.commands = some manifest.digest := by
  rw [manifest?] at collected
  split at collected
  · cases collected
  · split at collected
    · cases collected
    · rename_i maxChars _ _ registries _
      rw [collectRuntimeCommandMenu] at collected
      cases built : buildCommandMenu letters sha256
          { registries with
            skillUsageCounts := if maxChars ≠ 0 then registries.skillUsageCounts else .empty
            maxChars := maxChars } with
      | error error =>
        rw [built] at collected
        cases collected
      | ok found =>
        rw [built] at collected
        dsimp only at collected
        split at collected
        · cases collected
        · cases collected
          exact digest_buildCommandMenu built

/-- What a reconciliation does before anything is awaited: it publishes the manifest, unless it
fails or the manifest is the one that was published last. -/
inductive Reconciled (letters : Letters) (sha256 : Bytes → PyStr) (sync : MenuSync) (force : Bool) :
    MenuSync → Prop where
  | closed (closed : sync.httpSession = false) : Reconciled letters sha256 sync force
      { sync with forcePending := sync.forcePending || force }
  | failed (error : PyError) (collected : sync.manifest? letters sha256 = .error error) :
      Reconciled letters sha256 sync force { sync with forcePending := sync.forcePending || force }
  | skipped (manifest : CommandMenuManifest)
      (collected : sync.manifest? letters sha256 = .ok manifest)
      (unforced : (sync.forcePending || force) = false)
      (same : sync.publishedDigest = some manifest.digest) : Reconciled letters sha256 sync force
        { sync with forcePending := sync.forcePending || force }
  | published (manifest : CommandMenuManifest)
      (collected : sync.manifest? letters sha256 = .ok manifest) :
      Reconciled letters sha256 sync force
        { sync with
          forcePending := sync.forcePending || force
          task := some (.publishing manifest)
          history.since := sync.history.wakes
          history.stray := false }

theorem reconcile_case (letters : Letters) (sha256 : Bytes → PyStr) (sync : MenuSync)
    (force : Bool) :
    Reconciled letters sha256 sync force (sync.reconcile letters sha256 force) := by
  have marked : (if force then { sync with forcePending := true } else sync) =
      { sync with forcePending := sync.forcePending || force } := by
    cases force with
    | true => simp
    | false => simp
  unfold reconcile
  rw [marked]
  have collects :
      manifest? letters sha256 { sync with forcePending := sync.forcePending || force } =
      sync.manifest? letters sha256 := rfl
  dsimp only
  rw [collects]
  split
  · cases collected : sync.manifest? letters sha256 with
    | error error => exact .failed error collected
    | ok manifest =>
      dsimp only
      split
      · rename_i skip
        exact .skipped manifest collected (by simpa using skip.1) skip.2
      · exact .published manifest collected
  · rename_i closed
    exact .closed (by simpa using closed)

theorem Sound.reconcile (sound : sync.Sound sha256) (force : Bool) :
    (sync.reconcile letters sha256 force).Sound sha256 := by
  have marked : MenuSync.Sound sha256 { sync with forcePending := sync.forcePending || force } := {
    shows := sound.shows
    built := sound.built
    remembers := fun owed => (sound.remembers owed).imp_right fun pending => by simp [pending]
    late := sound.late
    loops := sound.loops
    counts := sound.counts }
  have exit := reconcile_case letters sha256 sync force
  generalize sync.reconcile letters sha256 force = after at exit ⊢
  cases exit with
  | closed => exact marked
  | failed => exact marked
  | skipped => exact marked
  | published manifest collected => exact {
      shows := sound.shows
      built := fun other under => by
        cases under
        exact digest_manifest? collected
      remembers := marked.remembers
      late := fun _ _ _ later => absurd later (Nat.lt_irrefl _)
      loops := fun _ => rfl
      counts := ⟨sound.counts.1, Nat.le_refl _⟩ }

/-- What is waiting has no publication under way. -/
theorem Sound.takeForced (sound : sync.Sound sha256) (waiting : sync.task = some .waiting) :
    (MenuSync.reconcile letters sha256 { sync with forceEvent := false } true).Sound
      sha256 := by
  have pending : MenuSync.Sound sha256 { sync with forceEvent := false, forcePending := true } := {
    shows := sound.shows
    built := sound.built
    remembers := fun _ => .inr rfl
    late := fun manifest under => by
      rw [waiting] at under
      cases under
    loops := sound.loops
    counts := sound.counts }
  have same : ({ sync with forceEvent := false } : MenuSync).reconcile letters sha256 true =
      ({ sync with forceEvent := false, forcePending := true } : MenuSync).reconcile letters sha256
        true := rfl
  rw [same]
  exact pending.reconcile true

theorem Sound.succeed (sound : sync.Sound sha256) {manifest : CommandMenuManifest}
    (under : sync.task = some (.publishing manifest)) (elsewhere : Bool) :
    (sync.succeed manifest elsewhere).Sound sha256 where
  shows untainted digest published := by
    have reached : (sync.history.stray && elsewhere) = false := by
      simpa [MenuSync.succeed] using untainted
    have digests := sound.built manifest under
    simp only [MenuSync.succeed, Option.some.injEq] at published
    simp [MenuSync.succeed, reached, digests, published]
  built other again := by cases again
  remembers owed := by
    have before := Nat.lt_of_le_of_lt (Nat.le_max_left _ _) owed
    have began := Nat.lt_of_le_of_lt (Nat.le_max_right _ _) owed
    exact .inl (sound.late manifest under before began)
  late _ again := by cases again
  loops _ := rfl
  counts := ⟨Nat.max_le.mpr sound.counts, sound.counts.2⟩

theorem Sound.fail (sound : sync.Sound sha256) {manifest : CommandMenuManifest}
    (delivered : Bool) {task : Option MenuLoop}
    (idle : ∀ manifest, task ≠ some (.publishing manifest))
    (runs : task.isSome) : (sync.fail manifest delivered task).Sound sha256 where
  shows untainted digest published := by
    have clean : sync.history.tainted = false ∧ delivered = false := by
      simpa [MenuSync.fail] using untainted
    obtain ⟨clean, rfl⟩ := clean
    exact sound.shows clean digest published
  built other again := absurd again (idle other)
  remembers := sound.remembers
  late other again := absurd again (idle other)
  loops _ := runs
  counts := sound.counts

theorem Sound.disconnect (sound : sync.Sound sha256) (delivered : Bool) :
    (sync.finalizeDisconnect delivered).Sound sha256 := by
  unfold finalizeDisconnect
  split
  · rename_i manifest _
    exact {
      shows := fun untainted digest published => by
        have clean : sync.history.tainted = false ∧ delivered = false := by
          simpa [MenuSync.fail] using untainted
        obtain ⟨clean, rfl⟩ := clean
        exact sound.shows clean digest published
      built := fun _ again => by cases again
      remembers := fun owed => absurd owed (Nat.lt_irrefl _)
      late := fun _ again => by cases again
      loops := fun owed => absurd owed (Nat.lt_irrefl _)
      counts := ⟨Nat.le_refl _, sound.counts.2⟩ }
  · exact {
      shows := sound.shows
      built := fun _ again => by cases again
      remembers := fun owed => absurd owed (Nat.lt_irrefl _)
      late := fun _ again => by cases again
      loops := fun owed => absurd owed (Nat.lt_irrefl _)
      counts := ⟨Nat.le_refl _, sound.counts.2⟩ }

theorem Sound.wake (sound : sync.Sound sha256) : sync.wake.Sound sha256 where
  shows := sound.shows
  built manifest under := by
    cases task : sync.task with
    | none =>
      rw [MenuSync.wake, task] at under
      cases under
    | some stage =>
      rw [MenuSync.wake, task] at under
      cases under
      exact sound.built manifest task
  remembers _ := .inl rfl
  late _ _ _ _ := rfl
  loops _ := rfl
  counts := ⟨Nat.le_succ_of_le sound.counts.1, Nat.le_succ_of_le sound.counts.2⟩

theorem Sound.step (sound : sync.Sound sha256) (event : MenuEvent) :
    (menuStep letters sha256 sync event).Sound sha256 := by
  cases event with
  | openSession => exact { sound with }
  | wake => exact sound.wake
  | takeForced =>
    unfold menuStep
    dsimp only
    split
    · rename_i waiting
      split
      · exact sound.takeForced waiting
      · exact sound
    · exact sound
  | takePeriodic =>
    unfold menuStep
    dsimp only
    split
    · exact sound.reconcile false
    · exact sound
  | succeed elsewhere =>
    unfold menuStep
    dsimp only
    split
    · rename_i manifest under
      exact sound.succeed under elsewhere
    · exact sound
  | fail delivered =>
    unfold menuStep
    dsimp only
    split
    · exact sound.fail delivered (fun _ never => by cases never) rfl
    · exact sound
  | change maxCharsConfig registries => exact { sound with }
  | setElsewhere shown => exact { sound with shows := fun never => by cases never }
  | resetIdentity shown => exact {
      shows := fun _ _ never => by cases never
      built := sound.built
      remembers := fun owed => absurd owed (Nat.lt_irrefl _)
      late := fun _ _ owed => absurd owed (Nat.lt_irrefl _)
      loops := fun owed => absurd owed (Nat.lt_irrefl _)
      counts := ⟨Nat.le_refl _, sound.counts.2⟩ }
  | disconnect delivered => exact sound.disconnect delivered

theorem sound_start (maxCharsConfig : Json) (registries : Except PyError MenuInputs)
    (shown : List MenuItem) : (start maxCharsConfig registries shown).Sound sha256 where
  shows _ _ never := by cases never
  built _ never := by cases never
  remembers owed := absurd owed (Nat.lt_irrefl _)
  late _ never := by cases never
  loops owed := absurd owed (Nat.lt_irrefl _)
  counts := ⟨Nat.le_refl _, Nat.le_refl _⟩

/-- What is published last is shown unless the server was changed behind it; a wakeup without a
later publication is remembered by a live loop; and the next reconciliation that goes through
leaves the server with the menu it collected, a forced one whatever happened before. -/
structure Reconciles (letters : Letters) (sha256 : Bytes → PyStr) (sync : MenuSync) : Prop where
  shows : sync.history.tainted = false → ∀ digest, sync.publishedDigest = some digest →
    menuDigest sha256 sync.shown = some digest
  remembers : sync.history.answered < sync.history.wakes →
    sync.task.isSome ∧ (sync.forceEvent = true ∨ sync.forcePending = true)
  periodic : ∀ manifest elsewhere, sync.task = some .waiting → sync.httpSession = true →
    sync.manifest? letters sha256 = .ok manifest →
      sync.history.tainted = false ∨ sync.forcePending = true →
        let done := menuStep letters sha256 (menuStep letters sha256 sync .takePeriodic)
          (.succeed elsewhere)
        menuDigest sha256 done.shown = some manifest.digest ∧ done.history.tainted = false
  forced : ∀ manifest elsewhere, sync.task = some .waiting → sync.httpSession = true →
    sync.manifest? letters sha256 = .ok manifest → sync.forceEvent = true →
      let done := menuStep letters sha256 (menuStep letters sha256 sync .takeForced)
        (.succeed elsewhere)
      done.shown = manifest.commands ∧ done.history.tainted = false ∧
        done.history.answered = done.history.wakes

/-- A publication that succeeds shows its menu, whatever the server showed before. -/
theorem succeed_published (sync : MenuSync) (manifest : CommandMenuManifest)
    (forced elsewhere : Bool)
    (counts : sync.history.answered ≤ sync.history.wakes) :
    let done := menuStep letters sha256
      { sync with
        forcePending := forced
        task := some (.publishing manifest)
        history.since := sync.history.wakes
        history.stray := false } (.succeed elsewhere)
    done.shown = manifest.commands ∧ done.history.tainted = false ∧
      done.history.answered = done.history.wakes := by
  refine ⟨?_, ?_, ?_⟩
  · simp [menuStep, MenuSync.succeed]
  · simp [menuStep, MenuSync.succeed]
  · exact Nat.max_eq_right counts

private theorem Sound.reconciles (sound : sync.Sound sha256) : sync.Reconciles letters sha256 where
  shows := sound.shows
  remembers owed := ⟨sound.loops owed, sound.remembers owed⟩
  periodic manifest elsewhere waiting opened collected fresh := by
    have taken : menuStep letters sha256 sync .takePeriodic =
        sync.reconcile letters sha256 false := by
      unfold menuStep
      rw [waiting]
    have exit := reconcile_case letters sha256 sync false
    rw [taken]
    generalize sync.reconcile letters sha256 false = after at exit ⊢
    cases exit with
    | closed closed =>
      rw [opened] at closed
      cases closed
    | failed error failed =>
      rw [collected] at failed
      cases failed
    | skipped found found? unforced same =>
      rw [collected] at found?
      cases found?
      have untainted : sync.history.tainted = false := by
        rcases fresh with untainted | pending
        · exact untainted
        · simp [pending] at unforced
      have idle : menuStep letters sha256
          { sync with forcePending := sync.forcePending || false } (.succeed elsewhere) =
            { sync with forcePending := sync.forcePending || false } := by
        unfold menuStep
        dsimp only
        rw [waiting]
      rw [idle]
      exact ⟨sound.shows untainted _ same, untainted⟩
    | published found found? =>
      rw [collected] at found?
      cases found?
      obtain ⟨shown, untainted, -⟩ := @succeed_published letters sha256 sync manifest
        (sync.forcePending || false) elsewhere sound.counts.1
      dsimp only
      rw [shown]
      exact ⟨digest_manifest? collected, untainted⟩
  forced manifest elsewhere waiting opened collected set := by
    have taken : menuStep letters sha256 sync .takeForced =
        ({ sync with forceEvent := false } : MenuSync).reconcile letters sha256 true := by
      unfold menuStep
      dsimp only
      rw [waiting]
      exact if_pos set
    have exit := reconcile_case letters sha256 { sync with forceEvent := false } true
    rw [taken]
    generalize ({ sync with forceEvent := false } : MenuSync).reconcile letters sha256 true = after
      at exit ⊢
    cases exit with
    | closed closed =>
      change sync.httpSession = false at closed
      rw [opened] at closed
      cases closed
    | failed error failed =>
      change sync.manifest? letters sha256 = _ at failed
      rw [collected] at failed
      cases failed
    | skipped found found? unforced same => simp at unforced
    | published found found? =>
      change sync.manifest? letters sha256 = _ at found?
      rw [collected] at found?
      cases found?
      exact succeed_published { sync with forceEvent := false } manifest _ elsewhere sound.counts.1

theorem menuRun_reconciles (letters : Letters) (sha256 : Bytes → PyStr) (maxCharsConfig : Json)
    (registries : Except PyError MenuInputs) (shown : List MenuItem) (events : List MenuEvent) :
    ((menuMachine letters sha256 maxCharsConfig registries shown).run events).Reconciles
      letters sha256 := by
  have sound :
      ((menuMachine letters sha256 maxCharsConfig registries shown).run events).Sound sha256 :=
    Machine.invariant_of_steps (sound_start maxCharsConfig registries shown)
      (fun _ event before => before.step event) events
  exact sound.reconciles

end MenuSync

end OctoChannel.Menu
