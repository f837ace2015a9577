import OctoChannel.Identity.Recovery

/-! Crash consistency of the route snapshot files. Every write may fail at any of
its file operations, or be cut off after one of them by a crash. -/

namespace OctoChannel.Identity

open Foundation

namespace Registry

variable (runtime : Json.Runtime) (sha256 : Bytes → Bytes)

/-- The file operation that raises `OSError`: the rename to the backup, the
temporary file before or after it is filled, or closing the directory after the
new file is in place. -/
inductive Fault where
  | none
  | rename
  | create
  | replace
  | close
  deriving DecidableEq

abbrev Files := Generations FileContent

/-- The current file is kept as the backup unless it was found unusable. -/
def rotates (registry : Registry) (files : Files) : Bool :=
  files.current.isSome && !registry.restoredFromBackup && !registry.snapshotCorrupt

def rotated (registry : Registry) (files : Files) : Files :=
  if registry.rotates files then files.rotate else files

/-- `write_state_document` for the current file. -/
def writeStateDocument (body : Json) (fault : Fault) (files : Files) : WriteEnd × Files :=
  match checksum runtime sha256 body with
  | .error error => (.raised error, files)
  | .ok _ =>
    if fault = .create then (.failed, files)
    else
      match documentBytes runtime sha256 body with
      | .error error => (.raised error, files)
      | .ok content =>
        match fault with
        | .replace => (.failed, files)
        | .close => (.failed, files.replace (.bytes content))
        | _ => (.durable, files.replace (.bytes content))

def writeSnapshot (registry : Registry) (body : Json) (fault : Fault) (files : Files) :
    WriteEnd × Files :=
  if registry.rotates files && fault = .rename then (.failed, files)
  else writeStateDocument runtime sha256 body fault (registry.rotated files)

/-- The last file operation before a crash. -/
inductive Cut where
  | started
  | renamed
  | replaced

/-- What a crash in `_write_snapshot` leaves behind. -/
def cutOff (registry : Registry) (body : Json) (files : Files) : Cut → Files
  | .started => files
  | .renamed => registry.rotated files
  | .replaced => (writeStateDocument runtime sha256 body .none (registry.rotated files)).2

/-- The operations that write the snapshot. -/
inductive Save where
  | flush (force : Bool)
  | forgetTarget (args : ForgetArgs)

/-- The body the operation writes, when it gets that far. -/
def Save.body? (registry : Registry) : Save → Option Json
  | .flush force => if !registry.dirty && !force then none else some registry.bodyLocked
  | .forgetTarget args =>
    match args.validate with
    | .error _ => none
    | .ok (robotId, target) =>
      if registry.forgettable robotId target then
        some (registry.forgotten robotId target).bodyLocked
      else none

def Save.finish (registry : Registry) (write : WriteEnd) : Save → Registry
  | .flush force => (registry.flush force write).2
  | .forgetTarget args => (registry.forgetTarget args write).2

/-- One gateway profile: the process, its files, and two records of its writes.
`ledger` counts from the last write that returned `True`; `baseline` also starts
over from what each restart found. -/
structure World where
  registry : Registry
  files : Files
  ledger : Generations.Ledger Json
  baseline : Generations.Ledger Json

def World.blank : World := ⟨fresh, .absent, .blank, .blank⟩

inductive Event where
  | bind (args : BindArgs)
  | bindPlan (robotId : PyStr) (plan : List PlannedRoute)
  | save (save : Save) (fault : Fault)
  | crash
  | crashIn (save : Save) (cut : Cut)

/-- The process starts: a fresh registry calls `load`. -/
def start (files : Files) : Applied :=
  fresh.load (readStateDocument runtime sha256 files.current)
    (readStateDocument runtime sha256 files.backup)

namespace World

def restart (world : World) : World :=
  let started := (start runtime sha256 world.files).1
  { world with
    registry := started
    baseline := if world.files.newest.isSome then .commit started.bodyLocked else world.baseline }

def save (world : World) (operation : Save) (fault : Fault) : World :=
  match operation.body? world.registry with
  | none => world
  | some body =>
    let (write, files) := writeSnapshot runtime sha256 world.registry body fault world.files
    { registry := operation.finish world.registry write
      files := files
      ledger := if write = .durable then .commit body else world.ledger.attempt body
      baseline := if write = .durable then .commit body else world.baseline.attempt body }

/-- A crash in the middle of a write, before anything could be reported. -/
def breakOff (world : World) (operation : Save) (cut : Cut) : World :=
  match operation.body? world.registry with
  | none => world
  | some body =>
    { world with
      files := cutOff runtime sha256 world.registry body world.files cut
      ledger := world.ledger.attempt body
      baseline := world.baseline.attempt body }

def step (world : World) : Event → World
  | .bind args => { world with registry := (world.registry.bind args).2 }
  | .bindPlan robotId plan => { world with registry := (world.registry.bindPlan robotId plan).2 }
  | .save operation fault => world.save runtime sha256 operation fault
  | .crash => world.restart runtime sha256
  | .crashIn operation cut => (world.breakOff runtime sha256 operation cut).restart runtime sha256

def run (events : List Event) : World := events.foldl (step runtime sha256) blank

end World

/-- The file is the snapshot document of a registry with this body. -/
def Holds (body : Json) (file : FileContent) : Prop :=
  ∃ source : Registry, source.Invariant ∧ body = source.bodyLocked ∧
    ∃ content, documentBytes runtime sha256 body = .ok content ∧ file = .bytes content

variable {runtime sha256} {registry : Registry} {files : Files} {body : Json}
  {file : FileContent} {world : World}

theorem holds_snapshot {source : Registry} (inv : source.Invariant) {content : Bytes}
    (written : documentBytes runtime sha256 source.bodyLocked = .ok content) :
    Holds runtime sha256 source.bodyLocked (.bytes content) :=
  ⟨source, inv, rfl, content, written, rfl⟩

theorem Holds.read (holds : Holds runtime sha256 body file) :
    readStateDocument runtime sha256 (some file) = .ok (.ok body.sortKeys) := by
  obtain ⟨source, -, rfl, content, written, rfl⟩ := holds
  exact readStateDocument_snapshot written

/-- Whichever generation is the newest, its body is the one a start chooses. -/
theorem chosen_of_holds (found : files.newest = some file) (holds : Holds runtime sha256 body file) :
    Reading.chosen? (readStateDocument runtime sha256 files.current)
      (readStateDocument runtime sha256 files.backup) = some body.sortKeys := by
  cases present : files.current with
  | some current =>
    obtain rfl : current = file := by simpa [Generations.newest, present] using found
    rw [holds.read]
    rfl
  | none =>
    have backup : files.backup = some file := by simpa [Generations.newest, present] using found
    rw [backup, holds.read]
    rfl

/-- Whichever generation is the newest, a start applies its body. -/
theorem start_of_holds (found : files.newest = some file) (holds : Holds runtime sha256 body file) :
    ∃ fallback loaded, start runtime sha256 files = (loaded, none) ∧
      { fresh with restoredFromBackup := fallback }.applyBody body = (loaded, none) ∧
      loaded.Invariant ∧ loaded.bodyLocked = body := by
  obtain ⟨fallback, loaded⟩ := load_of_chosen (chosen_of_holds found holds) fresh
  obtain ⟨source, inv, rfl, -⟩ := holds
  rw [applyBody_sortKeys, applyBody_bodyLocked_ok inv] at loaded
  exact ⟨fallback, _, loaded, applyBody_bodyLocked_ok inv _, inv.restored _,
    bodyLocked_restored inv _⟩

theorem start_of_absent (absent : files.newest = none) :
    start runtime sha256 files = (fresh, none) := by
  rw [Generations.newest, Option.or_eq_none_iff] at absent
  rw [start, absent.1, absent.2]
  rfl

theorem newest_rotated (registry : Registry) (files : Files) :
    (registry.rotated files).newest = files.newest := by
  unfold rotated
  split
  · exact files.newest_rotate
  · rfl

theorem writeStateDocument_newest (body : Json) (fault : Fault) (files : Files) :
    ((writeStateDocument runtime sha256 body fault files).1 ≠ .durable ∧
      (writeStateDocument runtime sha256 body fault files).2.newest = files.newest) ∨
    ∃ content, documentBytes runtime sha256 body = .ok content ∧
      (writeStateDocument runtime sha256 body fault files).2.newest = some (.bytes content) := by
  unfold writeStateDocument
  cases checksum runtime sha256 body with
  | error error => exact .inl ⟨by simp, rfl⟩
  | ok sum =>
    dsimp only
    split
    · exact .inl ⟨by simp, rfl⟩
    · cases documentBytes runtime sha256 body with
      | error error => exact .inl ⟨by simp, rfl⟩
      | ok content =>
        cases fault with
        | replace => exact .inl ⟨by simp, rfl⟩
        | none | rename | create | close => exact .inr ⟨content, rfl, rfl⟩

/-- A write leaves the newest snapshot alone or becomes it; it is reported as
durable only in the second case. -/
theorem writeSnapshot_newest (registry : Registry) (body : Json) (fault : Fault) (files : Files) :
    ((writeSnapshot runtime sha256 registry body fault files).1 ≠ .durable ∧
      (writeSnapshot runtime sha256 registry body fault files).2.newest = files.newest) ∨
    ∃ content, documentBytes runtime sha256 body = .ok content ∧
      (writeSnapshot runtime sha256 registry body fault files).2.newest =
        some (.bytes content) := by
  unfold writeSnapshot
  split
  · exact .inl ⟨by simp, rfl⟩
  · rw [← newest_rotated registry files]
    exact writeStateDocument_newest body fault _

theorem cutOff_newest (registry : Registry) (body : Json) (files : Files) (cut : Cut) :
    (cutOff runtime sha256 registry body files cut).newest = files.newest ∨
    ∃ content, documentBytes runtime sha256 body = .ok content ∧
      (cutOff runtime sha256 registry body files cut).newest = some (.bytes content) := by
  cases cut with
  | started => exact .inl rfl
  | renamed => exact .inl (newest_rotated registry files)
  | replaced =>
    rw [← newest_rotated registry files]
    exact (writeStateDocument_newest body .none _).imp And.right id

theorem accounts_writeSnapshot {ledger : Generations.Ledger Json} {source : Registry}
    (accounts : ledger.Accounts (Holds runtime sha256) files.newest) (inv : source.Invariant)
    (fault : Fault) :
    (if (writeSnapshot runtime sha256 registry source.bodyLocked fault files).1 = .durable then
        .commit source.bodyLocked
      else ledger.attempt source.bodyLocked).Accounts (Holds runtime sha256)
        (writeSnapshot runtime sha256 registry source.bodyLocked fault files).2.newest := by
  rcases @writeSnapshot_newest runtime sha256 registry source.bodyLocked fault files with
    ⟨unreported, kept⟩ | ⟨content, written, replaced⟩
  · rw [if_neg unreported, kept]
    exact accounts.attempt _
  · rw [replaced]
    split
    · exact Generations.Ledger.accounts_commit (holds_snapshot inv written)
    · exact Generations.Ledger.accounts_attempt (holds_snapshot inv written)

theorem accounts_cutOff {ledger : Generations.Ledger Json} {source : Registry}
    (accounts : ledger.Accounts (Holds runtime sha256) files.newest) (inv : source.Invariant)
    (cut : Cut) :
    (ledger.attempt source.bodyLocked).Accounts (Holds runtime sha256)
      (cutOff runtime sha256 registry source.bodyLocked files cut).newest := by
  rcases @cutOff_newest runtime sha256 registry source.bodyLocked files cut with
    kept | ⟨content, written, replaced⟩
  · rw [kept]
    exact accounts.attempt _
  · rw [replaced]
    exact Generations.Ledger.accounts_attempt (holds_snapshot inv written)

theorem Save.body?_source (inv : registry.Invariant) {operation : Save}
    (named : operation.body? registry = some body) :
    ∃ source : Registry, source.Invariant ∧ body = source.bodyLocked := by
  cases operation with
  | flush force =>
    rw [Save.body?] at named
    split at named
    · cases named
    · cases named
      exact ⟨registry, inv, rfl⟩
  | forgetTarget args =>
    rw [Save.body?] at named
    split at named
    · cases named
    · split at named
      · rename_i guard
        cases named
        obtain ⟨open', routed, -⟩ := forgettable_iff.mp guard
        exact ⟨_, inv.forgotten routed open', rfl⟩
      · cases named

theorem Invariant.finish (inv : registry.Invariant) (operation : Save) (write : WriteEnd) :
    (operation.finish registry write).Invariant := by
  cases operation with
  | flush force => exact inv.flush force write
  | forgetTarget args => exact inv.forgetTarget args write

/-- The registry is sound, and the newest snapshot is one that both records allow. -/
structure World.Consistent (runtime : Json.Runtime) (sha256 : Bytes → Bytes) (world : World) :
    Prop where
  invariant : world.registry.Invariant
  ledger : world.ledger.Accounts (Holds runtime sha256) world.files.newest
  baseline : world.baseline.Accounts (Holds runtime sha256) world.files.newest

namespace World

private theorem consistent_blank : blank.Consistent runtime sha256 where
  invariant := invariant_fresh
  ledger := rfl
  baseline := rfl

theorem Consistent.restart (consistent : world.Consistent runtime sha256) :
    (world.restart runtime sha256).Consistent runtime sha256 := by
  cases found : world.files.newest with
  | none =>
    have started : (start runtime sha256 world.files).1 = fresh := by
      rw [start_of_absent found]
    refine { invariant := ?_, ledger := consistent.ledger, baseline := ?_ }
    · rw [World.restart, started]
      exact invariant_fresh
    · simpa [World.restart, found] using consistent.baseline
  | some file =>
    have stored := consistent.ledger
    rw [found] at stored
    obtain ⟨body, -, holds⟩ := stored
    obtain ⟨fallback, loaded, started, -, inv, same⟩ := start_of_holds found holds
    refine { invariant := ?_, ledger := consistent.ledger, baseline := ?_ }
    · rw [World.restart, started]
      exact inv
    · simp only [World.restart, found, started, same, Option.isSome_some, if_true]
      exact Generations.Ledger.accounts_commit holds

theorem Consistent.save (consistent : world.Consistent runtime sha256) (operation : Save)
    (fault : Fault) : (world.save runtime sha256 operation fault).Consistent runtime sha256 := by
  unfold World.save
  cases named : operation.body? world.registry with
  | none => exact consistent
  | some body =>
    obtain ⟨source, inv, rfl⟩ := Save.body?_source consistent.invariant named
    exact {
      invariant := consistent.invariant.finish operation _
      ledger := accounts_writeSnapshot consistent.ledger inv fault
      baseline := accounts_writeSnapshot consistent.baseline inv fault }

theorem Consistent.breakOff (consistent : world.Consistent runtime sha256) (operation : Save)
    (cut : Cut) : (world.breakOff runtime sha256 operation cut).Consistent runtime sha256 := by
  unfold World.breakOff
  cases named : operation.body? world.registry with
  | none => exact consistent
  | some body =>
    obtain ⟨source, inv, rfl⟩ := Save.body?_source consistent.invariant named
    exact {
      invariant := consistent.invariant
      ledger := accounts_cutOff consistent.ledger inv cut
      baseline := accounts_cutOff consistent.baseline inv cut }

theorem Consistent.step (consistent : world.Consistent runtime sha256) (event : Event) :
    (world.step runtime sha256 event).Consistent runtime sha256 := by
  cases event with
  | bind args => exact { consistent with invariant := consistent.invariant.bind args }
  | bindPlan robotId plan =>
    exact { consistent with invariant := consistent.invariant.bindPlan robotId plan }
  | save operation fault => exact consistent.save operation fault
  | crash => exact consistent.restart
  | crashIn operation cut => exact (consistent.breakOff operation cut).restart

theorem run_consistent (runtime : Json.Runtime) (sha256 : Bytes → Bytes) (events : List Event) :
    (run runtime sha256 events).Consistent runtime sha256 :=
  List.foldlRecOn events _ consistent_blank fun _ consistent event _ => consistent.step event

/-- After every run a start raises nothing. It comes up empty only while no write
has ever been reported, and otherwise restores a body that is the last reported
one or younger, and no older than what the last start found. -/
theorem run_restores (runtime : Json.Runtime) (sha256 : Bytes → Bytes) (events : List Event) :
    ∃ loaded, start runtime sha256 (run runtime sha256 events).files = (loaded, none) ∧
      (loaded = fresh ∧ (run runtime sha256 events).ledger.durable = none ∨
        ∃ body fallback,
          { fresh with restoredFromBackup := fallback }.applyBody body = (loaded, none) ∧
          loaded.bodyLocked = body ∧
          (run runtime sha256 events).ledger.Allows body ∧
          (run runtime sha256 events).baseline.Allows body) := by
  have consistent := run_consistent runtime sha256 events
  have counted := consistent.ledger
  have rebased := consistent.baseline
  cases found : (run runtime sha256 events).files.newest with
  | none =>
    rw [found] at counted
    exact ⟨fresh, start_of_absent found, .inl ⟨rfl, counted⟩⟩
  | some file =>
    rw [found] at counted rebased
    obtain ⟨body, allowed, holds⟩ := counted
    obtain ⟨other, allowed', holds'⟩ := rebased
    obtain ⟨fallback, loaded, started, applied, -, same⟩ := start_of_holds found holds
    obtain ⟨fallback', loaded', started', -, -, same'⟩ := start_of_holds found holds'
    -- both records name the body that the loaded registry would write again
    obtain rfl : loaded' = loaded := congrArg Prod.fst (started'.symm.trans started)
    obtain rfl : body = other := same.symm.trans same'
    exact ⟨_, started, .inr ⟨body, fallback, applied, same, allowed, allowed'⟩⟩

end World

end Registry

end OctoChannel.Identity
