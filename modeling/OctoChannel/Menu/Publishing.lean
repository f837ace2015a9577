import Mathlib
import OctoChannel.Foundation.Fitting
import OctoChannel.Menu.Precedence

namespace OctoChannel.Menu

open Foundation

def unicodeEscape (unit : Nat) : PyStr :=
  [ch '\\', ch 'u', Json.hexDigit (unit / 4096 % 16), Json.hexDigit (unit / 256 % 16),
    Json.hexDigit (unit / 16 % 16), Json.hexDigit (unit % 16)]

/-- What `ensure_ascii` does to a character that is printed as it is otherwise. -/
def asciiEscape (point : CodePoint) : PyStr :=
  if point.val < 0x7f then [point]
  else if point.val < 0x10000 then unicodeEscape point.val
  else unicodeEscape (0xd800 + (point.val - 0x10000) / 0x400) ++
    unicodeEscape (0xdc00 + (point.val - 0x10000) % 0x400)

def htmlEscape (point : CodePoint) : PyStr :=
  if point = ch '&' then py "\\u0026"
  else if point = ch '<' then py "\\u003c"
  else if point = ch '>' then py "\\u003e"
  else [point]

def storageText (text : PyStr) : PyStr := (text.flatMap asciiEscape).flatMap htmlEscape

/-- `_server_storage_json` -/
def serverStorageJson (value : Json) : PyStr := storageText value.print

structure MenuItem where
  command : PyStr
  description : PyStr

def MenuItem.json (item : MenuItem) : Json :=
  .obj [(py "command", .str item.command), (py "description", .str item.description)]

def menuJson (items : List MenuItem) : Json := .arr (items.map MenuItem.json)

structure CommandMenuManifest where
  commands : List MenuItem
  digest : PyStr
  sourceCounts : MenuSource → Nat
  collectedSourceCounts : MenuSource → Nat
  collectedCount : Nat
  omittedCount : Nat
  payloadChars : Nat
  maxChars : Int

def priority : MenuSource → Nat
  | .core => 1
  | .skill => 2
  | .quick => 3
  | .plugin => 4
  | .bundle => 5

/-- The sort key of a bounded menu. -/
def priorityKey (entry : CommandMenuEntry) : Nat ×ₗ Int ×ₗ PyStr :=
  toLex (if entry.source = .plugin ∧ (py "/octo-").isPrefixOf entry.command then 0
      else priority entry.source,
    toLex (if entry.source = .skill then -entry.usageCount else 0,
      if entry.source = .skill then entry.command else []))

def byPriority (first second : CommandMenuEntry) : Prop := priorityKey first ≤ priorityKey second

instance : DecidableRel byPriority :=
  fun first second => inferInstanceAs (Decidable (priorityKey first ≤ priorityKey second))

instance : IsTrans CommandMenuEntry byPriority := ⟨fun _ _ _ => le_trans⟩

instance : Std.Total byPriority := ⟨fun first _ => le_total (priorityKey first) _⟩

def orderedEntries (maxChars : Int) (entries : List CommandMenuEntry) : List CommandMenuEntry :=
  if maxChars ≠ 0 then entries.insertionSort byPriority else entries

/-- A bounded menu goes without descriptions. -/
def CommandMenuEntry.item (maxChars : Int) (entry : CommandMenuEntry) : MenuItem :=
  ⟨entry.command, if maxChars ≠ 0 then [] else entry.description⟩

structure Published where
  commands : List MenuItem
  sourceCounts : MenuSource → Nat
  payloadChars : Nat

/-- `separator_chars + item_chars` -/
def addedChars (published : List MenuItem) (item : MenuItem) : Nat :=
  (if published = [] then 0 else 1) + (serverStorageJson item.json).length

def publishFrom (maxChars : Int) : List CommandMenuEntry → Published → Published
  | [], published => published
  | entry :: rest, published =>
    let item := entry.item maxChars
    let added := addedChars published.commands item
    if maxChars ≠ 0 ∧ maxChars < (published.payloadChars + added : Nat) then published
    else
      publishFrom maxChars rest
        { commands := published.commands ++ [item]
          sourceCounts := countOne entry.source published.sourceCounts
          payloadChars := published.payloadChars + added }

/-- `build_command_menu`, over the digest function. -/
def buildCommandMenu (letters : Letters) (sha256 : Bytes → PyStr) (inputs : MenuInputs) :
    Except PyError CommandMenuManifest :=
  if inputs.maxChars < 0 ∨ inputs.maxChars = 1 then
    .error (.valueError "command menu max_chars must be 0 or an integer of at least 2")
  else
    match inputs.collect letters with
    | .error error => .error error
    | .ok collected =>
      let published := publishFrom inputs.maxChars
        (orderedEntries inputs.maxChars collected.entries) ⟨[], noCounts, 2⟩
      match utf8Encode (menuJson published.commands).print with
      | none => .error .unicodeError
      | some payload =>
        .ok
          { commands := published.commands
            digest := sha256 payload
            sourceCounts := published.sourceCounts
            collectedSourceCounts := collected.sourceCounts
            collectedCount := collected.entries.length
            omittedCount := collected.entries.length - published.commands.length
            payloadChars := published.payloadChars
            maxChars := inputs.maxChars }

def payloadSize (items : List MenuItem) : Nat := (serverStorageJson (menuJson items)).length

theorem length_storageText_append (first second : PyStr) :
    (storageText (first ++ second)).length =
      (storageText first).length + (storageText second).length := by
  rw [storageText, List.flatMap_append, List.flatMap_append, List.length_append]
  rfl

theorem length_storageText_cons {point : CodePoint} (plain : (storageText [point]).length = 1)
    (text : PyStr) : (storageText (point :: text)).length = 1 + (storageText text).length := by
  rw [← List.singleton_append, length_storageText_append, plain]

private theorem length_printItems_append (items : List Json) (item : Json) :
    (storageText (Json.printItems (items ++ [item]))).length =
      (storageText (Json.printItems items)).length + 1 + (storageText item.print).length := by
  have comma : (storageText [ch ',']).length = 1 := rfl
  have closing : (storageText [ch ']']).length = 1 := rfl
  induction items with
  | nil =>
    simp only [List.nil_append, Json.printItems]
    rw [length_storageText_append, length_storageText_cons comma, closing]
    omega
  | cons first rest ih =>
    rw [List.cons_append, Json.printItems, Json.printItems, length_storageText_append,
      length_storageText_append, length_storageText_cons comma, ih]
    omega

/-- The payload grows by an item and by the comma before it. -/
theorem payloadSize_append (items : List MenuItem) (item : MenuItem) :
    payloadSize (items ++ [item]) = payloadSize items + addedChars items item := by
  rw [addedChars]
  have opening : (storageText [ch '[']).length = 1 := rfl
  have closing : (storageText [ch ']']).length = 1 := rfl
  cases items with
  | nil =>
    have empty : payloadSize [] = 2 := rfl
    rw [empty, if_pos rfl, List.nil_append, payloadSize, menuJson, List.map_singleton,
      serverStorageJson, serverStorageJson, Json.print, length_storageText_append,
      length_storageText_cons opening]
    simp only [Json.printItems, closing]
    omega
  | cons first rest =>
    rw [if_neg (List.cons_ne_nil first rest), payloadSize, payloadSize, menuJson, menuJson,
      List.cons_append, List.map_cons, List.map_cons, List.map_append, List.map_singleton,
      serverStorageJson, serverStorageJson, serverStorageJson, Json.print, Json.print,
      length_storageText_append, length_storageText_append, length_printItems_append]
    omega

private theorem payloadSize_grows (maxChars : Int) (front : List CommandMenuEntry)
    (entry : CommandMenuEntry) :
    (payloadSize (front.map (CommandMenuEntry.item maxChars)) : Int) ≤
      payloadSize ((front ++ [entry]).map (CommandMenuEntry.item maxChars)) := by
  rw [List.map_append, List.map_singleton, payloadSize_append]
  omega

/-- The size of the first commands of a menu. -/
def menuSize (maxChars : Int) (entries : List CommandMenuEntry) : Int :=
  payloadSize (entries.map (CommandMenuEntry.item maxChars))

/-- The commands so far are the first of the order, and their payload was counted. -/
structure Shows (maxChars : Int) (front : List CommandMenuEntry) (published : Published) : Prop where
  commands : published.commands = front.map (CommandMenuEntry.item maxChars)
  payloadChars : published.payloadChars = payloadSize published.commands

private theorem publishFrom_shows {maxChars : Int} {rest front : List CommandMenuEntry}
    {published : Published} (shows : Shows maxChars front published)
    (fits : maxChars ≠ 0 → menuSize maxChars front ≤ maxChars) :
    ∃ final, Shows maxChars final (publishFrom maxChars rest published) ∧
      (maxChars = 0 → final = front ++ rest) ∧
      (maxChars ≠ 0 → LongestFitting (menuSize maxChars) maxChars (front ++ rest) final) := by
  induction rest generalizing front published with
  | nil =>
    refine ⟨front, shows, fun _ => (List.append_nil front).symm, fun bounded => ?_⟩
    rw [List.append_nil]
    exact .whole (fits bounded)
  | cons entry rest ih =>
    have size : payloadSize ((front ++ [entry]).map (CommandMenuEntry.item maxChars)) =
        published.payloadChars + addedChars published.commands (entry.item maxChars) := by
      rw [List.map_append, List.map_singleton, payloadSize_append, shows.payloadChars,
        shows.commands]
    by_cases exceeds : maxChars ≠ 0 ∧ maxChars <
        (published.payloadChars + addedChars published.commands (entry.item maxChars) : Nat)
    · rw [publishFrom, if_pos exceeds]
      refine ⟨front, shows, fun unbounded => absurd unbounded exceeds.1, fun bounded => ?_⟩
      refine .stop (payloadSize_grows maxChars) (fits bounded) ?_
      rw [menuSize, size]
      exact Int.not_le.mpr exceeds.2
    · rw [publishFrom, if_neg exceeds]
      have next : Shows maxChars (front ++ [entry])
          { commands := published.commands ++ [entry.item maxChars]
            sourceCounts := countOne entry.source published.sourceCounts
            payloadChars :=
              published.payloadChars + addedChars published.commands (entry.item maxChars) } :=
        ⟨by rw [shows.commands, List.map_append, List.map_singleton],
          by rw [payloadSize_append, shows.payloadChars]⟩
      have enough : maxChars ≠ 0 → menuSize maxChars (front ++ [entry]) ≤ maxChars := by
        intro bounded
        rw [menuSize, size]
        exact Int.not_lt.mp fun more => exceeds ⟨bounded, more⟩
      obtain ⟨final, shown, whole, longest⟩ := ih next enough
      rw [List.append_assoc, List.singleton_append] at whole longest
      exact ⟨final, shown, whole, longest⟩

/-- The same commands, with their mappings and sets in any order. -/
structure SameMenu (first second : MenuInputs) : Prop where
  coreCommands : first.coreCommands = second.coreCommands
  isGatewayAvailable : first.isGatewayAvailable = second.isGatewayAvailable
  registry : ∀ source, (first.registry source).entries.Perm (second.registry source).entries
  disabledSkillNames : ∀ name, name ∈ first.disabledSkillNames ↔ name ∈ second.disabledSkillNames
  skillUsageCounts : first.skillUsageCounts.entries.Perm second.skillUsageCounts.entries
  maxChars : first.maxChars = second.maxChars

private theorem sortedNames_of_perm {first second : Registry}
    (same : first.entries.Perm second.entries) :
    sortedNames first = sortedNames second := by
  refine List.Perm.eq_of_pairwise' (List.pairwise_insertionSort _ _)
    (List.pairwise_insertionSort _ _) ?_
  refine (List.perm_insertionSort _ _).trans (.trans ?_ (List.perm_insertionSort _ _).symm)
  exact (same.map Prod.fst).filterMap _

theorem SameMenu.offer {first second : MenuInputs} (same : SameMenu first second)
    (letters : Letters) (source : MenuSource) :
    first.offer letters source = second.offer letters source := by
  cases source with
  | core => rfl
  | quick => rfl
  | plugin => rfl
  | bundle => rfl
  | skill =>
    funext slashName metadata
    have disabled : isDisabled first.disabledSkillNames metadata.name =
        isDisabled second.disabledSkillNames metadata.name := by
      cases metadata.name with
      | text name => simp [isDisabled, same.disabledSkillNames]
      | other truthy hashable shown => rfl
    have counts := fun name => Dict.get?_of_perm same.skillUsageCounts name
    simp only [MenuInputs.offer, skillOffer, disabled, counts]

private theorem collectNames_of_perm {source : MenuSource}
    {offer : PyStr → Metadata → Except PyError (Option Offer)} {first second : Registry}
    (same : first.entries.Perm second.entries) (names : List PyStr) (state : Collected) :
    collectNames source offer first names state = collectNames source offer second names state := by
  induction names generalizing state with
  | nil => rfl
  | cons name rest ih =>
    have head : collectName source offer first name state =
        collectName source offer second name state := by
      rw [collectName, collectName, Dict.get?_of_perm same]
    rw [collectNames, collectNames, head]
    simp only [ih]

theorem SameMenu.collect {first second : MenuInputs} (same : SameMenu first second)
    (letters : Letters) : first.collect letters = second.collect letters := by
  have sources : first.collectSource letters = second.collectSource letters := by
    funext source state
    rw [MenuInputs.collectSource, MenuInputs.collectSource, same.offer letters,
      sortedNames_of_perm (same.registry source), collectNames_of_perm (same.registry source)]
  have reserved : first.reservedCoreNames letters = second.reservedCoreNames letters := by
    rw [MenuInputs.reservedCoreNames, MenuInputs.reservedCoreNames, same.coreCommands]
  rw [MenuInputs.collect, MenuInputs.collect, same.coreCommands, same.isGatewayAvailable, sources,
    reserved]

/-- The manifest does not depend on the order of the mappings. -/
theorem SameMenu.buildCommandMenu {first second : MenuInputs} (same : SameMenu first second)
    (letters : Letters) (sha256 : Bytes → PyStr) :
    buildCommandMenu letters sha256 first = buildCommandMenu letters sha256 second := by
  rw [Menu.buildCommandMenu, Menu.buildCommandMenu, same.collect letters, same.maxChars]

/-- The commands of a manifest are the first of the collected ones in their order, each with a
name of its own that no earlier source offers and the core does not recognize. -/
structure Projected (letters : Letters) (inputs : MenuInputs) (entries : List CommandMenuEntry)
    (manifest : CommandMenuManifest) (published : List CommandMenuEntry) : Prop where
  commands : manifest.commands = published.map (CommandMenuEntry.item inputs.maxChars)
  distinct : (manifest.commands.map MenuItem.command).Nodup
  precedence : ∀ entry ∈ published, ∃ name, entry.command = ch '/' :: name ∧
    Offers letters inputs entry.source name ∧
    (∀ source, source.rank < entry.source.rank → ¬ Offers letters inputs source name) ∧
    (entry.source ≠ .core → ¬ Recognized inputs name)
  payload : manifest.payloadChars = (serverStorageJson (menuJson manifest.commands)).length
  unbounded : inputs.maxChars = 0 → published = entries
  bounded : inputs.maxChars ≠ 0 → (manifest.payloadChars : Int) ≤ inputs.maxChars ∧
    LongestFitting (menuSize inputs.maxChars) inputs.maxChars (entries.insertionSort byPriority)
      published

theorem Deserved.precedence {letters : Letters} {inputs : MenuInputs} {entry : CommandMenuEntry}
    (deserved : Deserved letters inputs entry) :
    ∃ name, entry.command = ch '/' :: name ∧ Offers letters inputs entry.source name ∧
      (∀ source, source.rank < entry.source.rank → ¬ Offers letters inputs source name) ∧
      (entry.source ≠ .core → ¬ Recognized inputs name) := by
  obtain ⟨name, command, offered, first, unreserved⟩ := deserved
  refine ⟨name, command, offered, first, fun registered recognized => ?_⟩
  exact unreserved registered (mem_reservedCoreNames recognized (exact_of_offers offered))

theorem perm_orderedEntries (maxChars : Int) (entries : List CommandMenuEntry) :
    (orderedEntries maxChars entries).Perm entries := by
  rw [orderedEntries]
  split
  · exact List.perm_insertionSort _ _
  · exact .refl entries

/-- A command menu that is built is a projection of what the sources offer, by precedence and
within its budget, whatever the order of the registries. -/
theorem commandMenu_projected {letters : Letters} {sha256 : Bytes → PyStr} {inputs : MenuInputs}
    {manifest : CommandMenuManifest}
    (built : buildCommandMenu letters sha256 inputs = .ok manifest) :
    (∃ collected published, inputs.collect letters = .ok collected ∧
      Projected letters inputs collected.entries manifest published) ∧
    ∀ other, SameMenu inputs other → buildCommandMenu letters sha256 other = .ok manifest := by
  refine ⟨?_, fun other same => (same.buildCommandMenu letters sha256).symm.trans built⟩
  rw [buildCommandMenu] at built
  split at built
  · cases built
  · rename_i accepted
    cases ran : inputs.collect letters with
    | error error => simp [ran] at built
    | ok collected =>
      simp only [ran] at built
      split at built
      · cases built
      · cases built
        have ranked := collect_ranked ran
        have two : inputs.maxChars ≠ 0 → menuSize inputs.maxChars [] ≤ inputs.maxChars := by
          intro bounded
          have empty : menuSize inputs.maxChars [] = 2 := rfl
          rw [empty]
          omega
        have start : Shows inputs.maxChars [] ⟨[], noCounts, 2⟩ := ⟨rfl, rfl⟩
        obtain ⟨published, shows, whole, longest⟩ :=
          @publishFrom_shows _ (orderedEntries inputs.maxChars collected.entries) _ _ start two
        rw [List.nil_append] at whole longest
        have front : published <+: orderedEntries inputs.maxChars collected.entries := by
          by_cases bounded : inputs.maxChars = 0
          · rw [whole bounded]
          · exact (longest bounded).isFront
        have within : ∀ entry ∈ published, entry ∈ collected.entries := fun entry member =>
          (perm_orderedEntries _ _).subset (front.subset member)
        refine ⟨collected, published, rfl, shows.commands, ?_, ?_, shows.payloadChars, ?_, ?_⟩
        · have names : ((published.map (CommandMenuEntry.item inputs.maxChars)).map
              MenuItem.command) = published.map CommandMenuEntry.command := by
            rw [List.map_map]
            rfl
          dsimp only
          rw [shows.commands, names]
          refine List.Nodup.sublist (front.sublist.map _) ?_
          exact ((perm_orderedEntries _ _).map _).nodup_iff.mpr ranked.distinct
        · exact fun entry member => (ranked.deserved entry (within entry member)).precedence
        · intro unbounded
          rw [whole unbounded, orderedEntries, if_neg (not_not.mpr unbounded)]
        · intro bounded
          have best := longest bounded
          rw [orderedEntries, if_pos bounded] at best
          refine ⟨?_, best⟩
          have small := best.fits
          rw [menuSize, ← shows.commands, ← shows.payloadChars] at small
          exact small

def asciiLower (point : CodePoint) : CodePoint :=
  if 0x41 ≤ point.val ∧ point.val ≤ 0x5a then Fin.ofNat 0x110000 (point.val + 0x20) else point

private theorem asciiLower_asciiLower (point : CodePoint) :
    asciiLower (asciiLower point) = asciiLower point := by
  by_cases upper : 0x41 ≤ point.val ∧ point.val ≤ 0x5a
  · have lowered : (asciiLower point).val = point.val + 0x20 := by
      rw [asciiLower, if_pos upper]
      exact Nat.mod_eq_of_lt (by omega)
    rw [asciiLower, if_neg (by omega)]
  · have same : asciiLower point = point := if_neg upper
    rw [same, same]

/-- The letters of names in ASCII. -/
def asciiLetters : Letters where
  lower text := text.map asciiLower
  isControl point := point.val < 0x20 || (0x7f ≤ point.val && point.val < 0xa0)
  lower_dashed text := by
    simp only [dashed, List.map_map]
    apply List.map_congr_left
    intro point _
    simp only [Function.comp_apply]
    split
    · rfl
    · exact asciiLower_asciiLower point

def noFields : Metadata := ⟨.missing, .missing, .missing, .missing⟩

/-- A gateway command, and a skill and a bundle of which one is shadowed. -/
def sampleMenu : MenuInputs where
  coreCommands := [⟨.text (py "new"), [.text (py "reset")], .text (py "Start over"), .missing,
    .other false true (py "False"), .missing⟩]
  isGatewayAvailable _ := true
  quickCommands := .empty
  pluginCommands := .empty
  bundleCommands := .set .empty (.name (py "/Reset")) (some noFields)
  skillCommands := .set .empty (.name (py "/deploy_app")) (some noFields)
  disabledSkillNames := []
  skillUsageCounts := .empty
  maxChars := 80

theorem commandMenu_projected_sample : ∃ manifest,
    buildCommandMenu asciiLetters (fun _ => []) sampleMenu = .ok manifest ∧
      (∃ collected published, sampleMenu.collect asciiLetters = .ok collected ∧
        Projected asciiLetters sampleMenu collected.entries manifest published) ∧
      ∀ other, SameMenu sampleMenu other →
        buildCommandMenu asciiLetters (fun _ => []) other = .ok manifest := by
  have built : (buildCommandMenu asciiLetters (fun _ => []) sampleMenu).isOk = true := by
    decide +kernel
  cases ran : buildCommandMenu asciiLetters (fun _ => []) sampleMenu with
  | error error =>
    rw [ran] at built
    cases built
  | ok manifest => exact ⟨manifest, rfl, commandMenu_projected ran⟩

end OctoChannel.Menu
