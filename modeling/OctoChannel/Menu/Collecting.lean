import OctoChannel.Menu.Names

/-! The commands of all sources, collected by dispatch precedence: a name belongs to the first
source that offers it, and the names of the gateway core are reserved. -/

namespace OctoChannel.Menu

open Foundation

/-- `_MENU_SOURCES` -/
inductive MenuSource where
  | core
  | quick
  | plugin
  | bundle
  | skill
  deriving DecidableEq

/-- The place of a source in the dispatch order. -/
def MenuSource.rank : MenuSource → Nat
  | .core => 0
  | .quick => 1
  | .plugin => 2
  | .bundle => 3
  | .skill => 4

structure CoreCommand where
  name : Field
  aliases : List Field
  description : Field
  argsHint : Field
  cliOnly : Field
  gatewayConfigGate : Field

inductive RegistryKey where
  | name (text : PyStr)
  | other (id : Nat)
  deriving DecidableEq

/-- The members of a registry entry that the menu reads. -/
structure Metadata where
  type : Field
  name : Field
  description : Field
  argsHint : Field

/-- An entry without metadata holds something else than a mapping. -/
abbrev Registry := Dict RegistryKey (Option Metadata)

/-- The arguments of `build_command_menu`, with the availability of a core command under the
config overrides as a function. -/
structure MenuInputs where
  coreCommands : List CoreCommand
  isGatewayAvailable : CoreCommand → Bool
  quickCommands : Registry
  pluginCommands : Registry
  bundleCommands : Registry
  skillCommands : Registry
  disabledSkillNames : List PyStr
  skillUsageCounts : Dict PyStr Int
  maxChars : Int

/-- `_CommandMenuEntry` -/
structure CommandMenuEntry where
  source : MenuSource
  command : PyStr
  description : PyStr
  usageCount : Int

structure Collected where
  entries : List CommandMenuEntry
  occupied : List PyStr
  sourceCounts : MenuSource → Nat

def noCounts : MenuSource → Nat := fun _ => 0

def countOne (source : MenuSource) (counts : MenuSource → Nat) : MenuSource → Nat :=
  fun other => if other = source then counts other + 1 else counts other

/-- What a source offers; the name is missing when it is no valid one. -/
structure Offer where
  name : Option PyStr
  description : PyStr
  usageCount : Int

/-- `add` -/
def Collected.add (source : MenuSource) (offer : Offer) (state : Collected) : Collected :=
  match offer.name with
  | none => state
  | some name =>
    if name ∈ state.occupied then state
    else
      { entries :=
          state.entries ++ [⟨source, ch '/' :: name, offer.description, offer.usageCount⟩]
        occupied := name :: state.occupied
        sourceCounts := countOne source state.sourceCounts }

/-- `occupied.update(names)` -/
def Collected.occupy (names : List PyStr) (state : Collected) : Collected :=
  { state with occupied := names ++ state.occupied }

variable (letters : Letters)

/-- `_VISIBLE_GATEWAY_COMMANDS` -/
def visibleGatewayCommands : List PyStr := [py "new", py "stop", py "commands"]

def CoreCommand.gatewayRecognizes (command : CoreCommand) : Bool :=
  !command.cliOnly.truthy || command.gatewayConfigGate.truthy

def CoreCommand.reservedNames (command : CoreCommand) : List PyStr :=
  if command.gatewayRecognizes then
    (command.name :: command.aliases).filterMap (exactDispatchName letters)
  else []

def CoreCommand.aliasNames (command : CoreCommand) : List PyStr :=
  command.aliases.filterMap (exactDispatchName letters)

def CoreCommand.offer (command : CoreCommand) : Offer where
  name := exactDispatchName letters command.name
  description :=
    normalizeDescription letters command.description (py "Hermes command") command.argsHint
  usageCount := 0

/-- The loop over the core commands. -/
def collectCore (isGatewayAvailable : CoreCommand → Bool) :
    List CoreCommand → Collected → Except PyError Collected
  | [], state => .ok state
  | command :: rest, state =>
    match command.name.isAmong visibleGatewayCommands with
    | .error error => .error error
    | .ok visible =>
      if visible && isGatewayAvailable command then
        collectCore isGatewayAvailable rest
          ((state.add .core (command.offer letters)).occupy (command.aliasNames letters))
      else collectCore isGatewayAvailable rest state

def MenuInputs.reservedCoreNames (inputs : MenuInputs) : List PyStr :=
  inputs.coreCommands.flatMap (CoreCommand.reservedNames letters)

def withoutSlashes (text : PyStr) : PyStr := text.dropWhile fun point => point = ch '/'

/-- `value or text` inside an f-string. -/
def shownOr (value : Field) (text : PyStr) : PyStr := if value.truthy then value.shown else text

def quickOffer (name : PyStr) (metadata : Metadata) : Except PyError (Option Offer) :=
  (metadata.type.isAmong [py "exec", py "alias"]).map fun known =>
    if known then
      let fallback := if metadata.type.shown = py "alias" then py "Configured quick command alias"
        else py "Configured quick command"
      some
        { name := exactDispatchName letters (.text name)
          description :=
            normalizeDescription letters metadata.description fallback (.text [])
          usageCount := 0 }
    else none

def pluginOffer (name : PyStr) (metadata : Metadata) : Except PyError (Option Offer) :=
  if normalizedDispatchName letters (.text name) ≠ some name then .ok none
  else
    .ok (some
      { name := exactDispatchName letters (.text name)
        description := normalizeDescription letters metadata.description (py "Plugin command")
          metadata.argsHint
        usageCount := 0 })

def bundleOffer (slashName : PyStr) (metadata : Metadata) : Except PyError (Option Offer) :=
  .ok (some
    { name := normalizedDispatchName letters (.text slashName)
      description := normalizeDescription letters metadata.description
        (py "Load the " ++ shownOr metadata.name (withoutSlashes slashName) ++ py " skill bundle")
        (.text [])
      usageCount := 0 })

def isDisabled (disabled : List PyStr) : Field → Bool
  | .text name => name ∈ disabled
  | .other .. => false

def skillOffer (disabledSkillNames : List PyStr) (skillUsageCounts : Dict PyStr Int)
    (slashName : PyStr) (metadata : Metadata) : Except PyError (Option Offer) :=
  if isDisabled disabledSkillNames metadata.name then .ok none
  else
    let usageName := match metadata.name with
      | .text name => name
      | .other .. => withoutSlashes slashName
    .ok (some
      { name := normalizedDispatchName letters (.text slashName)
        description := normalizeDescription letters metadata.description
          (py "Invoke the " ++ shownOr metadata.name (withoutSlashes slashName) ++ py " skill")
          (.text [])
        usageCount := max 0 ((skillUsageCounts.get? usageName).getD 0) })

def MenuInputs.registry (inputs : MenuInputs) : MenuSource → Registry
  | .core => .empty
  | .quick => inputs.quickCommands
  | .plugin => inputs.pluginCommands
  | .bundle => inputs.bundleCommands
  | .skill => inputs.skillCommands

def MenuInputs.offer (inputs : MenuInputs) : MenuSource → PyStr → Metadata →
    Except PyError (Option Offer)
  | .core => fun _ _ => .ok none
  | .quick => quickOffer letters
  | .plugin => pluginOffer letters
  | .bundle => bundleOffer letters
  | .skill => skillOffer letters inputs.disabledSkillNames inputs.skillUsageCounts

def RegistryKey.text? : RegistryKey → Option PyStr
  | .name text => some text
  | .other _ => none

/-- `sorted(key for key in registry if isinstance(key, str))` -/
def sortedNames (registry : Registry) : List PyStr :=
  (registry.keys.filterMap RegistryKey.text?).insertionSort (· ≤ ·)

/-- One pass of a loop over a registry. -/
def collectName (source : MenuSource)
    (offer : PyStr → Metadata → Except PyError (Option Offer)) (registry : Registry)
    (name : PyStr) (state : Collected) : Except PyError Collected :=
  match registry.get? (.name name) with
  | some (some metadata) =>
    (offer name metadata).map fun offered => offered.elim state fun offer => state.add source offer
  | _ => .ok state

def collectNames (source : MenuSource)
    (offer : PyStr → Metadata → Except PyError (Option Offer)) (registry : Registry) :
    List PyStr → Collected → Except PyError Collected
  | [], state => .ok state
  | name :: rest, state =>
    match collectName source offer registry name state with
    | .error error => .error error
    | .ok next => collectNames source offer registry rest next

def MenuInputs.collectSource (inputs : MenuInputs) (source : MenuSource) (state : Collected) :
    Except PyError Collected :=
  collectNames source (inputs.offer letters source) (inputs.registry source)
    (sortedNames (inputs.registry source)) state

/-- The collecting half of `build_command_menu`. -/
def MenuInputs.collect (inputs : MenuInputs) : Except PyError Collected := do
  let core ← collectCore letters inputs.isGatewayAvailable inputs.coreCommands
    ⟨[], [], noCounts⟩
  let quick ← inputs.collectSource letters .quick
    (core.occupy (inputs.reservedCoreNames letters))
  let plugin ← inputs.collectSource letters .plugin quick
  let bundle ← inputs.collectSource letters .bundle plugin
  inputs.collectSource letters .skill bundle

end OctoChannel.Menu
