import OctoChannel.Menu.Collecting

namespace OctoChannel.Menu

open Foundation

variable {letters : Letters}

/-- The source passes the name to `add`. -/
def Offers (letters : Letters) (inputs : MenuInputs) : MenuSource → PyStr → Prop
  | .core, name => ∃ command ∈ inputs.coreCommands,
      command.name.isAmong visibleGatewayCommands = .ok true ∧
        inputs.isGatewayAvailable command = true ∧
        exactDispatchName letters command.name = some name
  | source, name => ∃ key metadata offer,
      (inputs.registry source).get? (.name key) = some (some metadata) ∧
        inputs.offer letters source key metadata = .ok (some offer) ∧ offer.name = some name

/-- A name or alias of a command that the gateway core recognizes. -/
def Recognized (inputs : MenuInputs) (name : PyStr) : Prop :=
  ∃ command ∈ inputs.coreCommands, command.gatewayRecognizes = true ∧
    Field.text name ∈ command.name :: command.aliases

private theorem MenuSource.rank_injective {first second : MenuSource}
    (same : first.rank = second.rank) :
    first = second := by
  cases first with
  | core => cases second <;> first | rfl | cases same
  | quick => cases second <;> first | rfl | cases same
  | plugin => cases second <;> first | rfl | cases same
  | bundle => cases second <;> first | rfl | cases same
  | skill => cases second <;> first | rfl | cases same

theorem MenuSource.rank_pos {source : MenuSource} (registered : source ≠ .core) :
    0 < source.rank := by
  cases source with
  | core => exact absurd rfl registered
  | quick => decide
  | plugin => decide
  | bundle => decide
  | skill => decide

/-- A source has only added entries, each with a name that it offers and that was free. -/
structure Extends (source : MenuSource) (offered : PyStr → Prop) (before after : Collected) :
    Prop where
  grows : ∀ name ∈ before.occupied, name ∈ after.occupied
  added : ∃ added, after.entries = before.entries ++ added ∧
    (added.map CommandMenuEntry.command).Nodup ∧
    ∀ entry ∈ added, entry.source = source ∧ ∃ name, entry.command = ch '/' :: name ∧
      offered name ∧ name ∈ after.occupied ∧ name ∉ before.occupied

section Extends

variable {source : MenuSource} {offered : PyStr → Prop} {before middle after : Collected}

theorem Extends.refl (state : Collected) : Extends source offered state state :=
  ⟨fun _ member => member, [], by simp, by simp, by simp⟩

theorem Extends.trans (first : Extends source offered before middle)
    (second : Extends source offered middle after) : Extends source offered before after := by
  obtain ⟨early, earlyEntries, earlyDistinct, earlyFacts⟩ := first.added
  obtain ⟨late, lateEntries, lateDistinct, lateFacts⟩ := second.added
  refine ⟨fun name member => second.grows name (first.grows name member), early ++ late, ?_, ?_, ?_⟩
  · rw [lateEntries, earlyEntries, List.append_assoc]
  · rw [List.map_append, List.nodup_append]
    refine ⟨earlyDistinct, lateDistinct, ?_⟩
    rintro command member _ again rfl
    obtain ⟨entry, present, rfl⟩ := List.mem_map.mp member
    obtain ⟨other, later, same⟩ := List.mem_map.mp again
    obtain ⟨_, name, command, _, occupied, _⟩ := earlyFacts entry present
    obtain ⟨_, otherName, otherCommand, _, _, free⟩ := lateFacts other later
    rw [command, otherCommand, List.cons.injEq] at same
    rw [← same.2] at occupied
    exact free occupied
  · intro entry member
    rcases List.mem_append.mp member with present | later
    · obtain ⟨origin, name, command, given, occupied, free⟩ := earlyFacts entry present
      exact ⟨origin, name, command, given, second.grows name occupied, free⟩
    · obtain ⟨origin, name, command, given, occupied, free⟩ := lateFacts entry later
      exact ⟨origin, name, command, given, occupied, fun old => free (first.grows name old)⟩

theorem Extends.occupy (names : List PyStr) (state : Collected) :
    Extends source offered state (state.occupy names) :=
  ⟨fun _ member => List.mem_append_right _ member, [], by simp [Collected.occupy], by simp,
    by simp⟩

/-- A valid name is taken after it was offered. -/
theorem mem_occupied_add {offer : Offer} {name : PyStr} (named : offer.name = some name)
    (state : Collected) : name ∈ (state.add source offer).occupied := by
  simp only [Collected.add, named]
  split
  · assumption
  · exact List.mem_cons_self

theorem extends_add {offer : Offer} (given : ∀ name, offer.name = some name → offered name)
    (state : Collected) : Extends source offered state (state.add source offer) := by
  cases named : offer.name with
  | none =>
    simp only [Collected.add, named]
    exact .refl state
  | some name =>
    by_cases taken : name ∈ state.occupied
    · simp only [Collected.add, named, taken, if_true]
      exact .refl state
    · simp only [Collected.add, named, taken, if_false]
      refine ⟨fun other member => List.mem_cons_of_mem _ member, _, rfl, by simp, ?_⟩
      intro entry member
      rw [List.mem_singleton] at member
      subst member
      exact ⟨rfl, name, rfl, given name named, List.mem_cons_self, taken⟩

end Extends

private theorem collectCore_extends {available : CoreCommand → Bool} {offered : PyStr → Prop}
    {commands : List CoreCommand} {state final : Collected}
    (given : ∀ command ∈ commands, command.name.isAmong visibleGatewayCommands = .ok true →
      available command = true → ∀ name, exactDispatchName letters command.name = some name →
        offered name)
    (ran : collectCore letters available commands state = .ok final) :
    Extends .core offered state final ∧
      ∀ command ∈ commands, command.name.isAmong visibleGatewayCommands = .ok true →
        available command = true → ∀ name, exactDispatchName letters command.name = some name →
          name ∈ final.occupied := by
  induction commands generalizing state with
  | nil =>
    cases ran
    exact ⟨.refl _, by simp⟩
  | cons command rest ih =>
    rw [List.forall_mem_cons] at given
    cases among : command.name.isAmong visibleGatewayCommands with
    | error error => simp [collectCore, among] at ran
    | ok visible =>
      simp only [collectCore, among] at ran
      by_cases published : (visible && available command) = true
      · rw [if_pos published] at ran
        rw [Bool.and_eq_true] at published
        rw [published.1] at among
        have added : Extends .core offered state ((state.add .core (command.offer letters)).occupy
            (command.aliasNames letters)) :=
          (extends_add (given.1 among published.2) state).trans (.occupy _ _)
        obtain ⟨others, taken⟩ := ih given.2 ran
        refine ⟨added.trans others, List.forall_mem_cons.mpr ⟨?_, taken⟩⟩
        intro _ _ name named
        refine others.grows name (List.mem_append_right _ ?_)
        exact mem_occupied_add named state
      · rw [if_neg published] at ran
        obtain ⟨others, taken⟩ := ih given.2 ran
        refine ⟨others, List.forall_mem_cons.mpr ⟨?_, taken⟩⟩
        intro visibleName isAvailable
        rw [among, Except.ok.injEq] at visibleName
        exact absurd (by simp [visibleName, isAvailable]) published

private theorem collectName_extends {source : MenuSource}
    {read : PyStr → Metadata → Except PyError (Option Offer)} {registry : Registry} {key : PyStr}
    {offered : PyStr → Prop} {state next : Collected}
    (given : ∀ metadata offer, registry.get? (.name key) = some (some metadata) →
      read key metadata = .ok (some offer) → ∀ name, offer.name = some name → offered name)
    (ran : collectName source read registry key state = .ok next) :
    Extends source offered state next ∧
      ∀ metadata offer, registry.get? (.name key) = some (some metadata) →
        read key metadata = .ok (some offer) → ∀ name, offer.name = some name →
          name ∈ next.occupied := by
  cases found : registry.get? (.name key) with
  | none =>
    simp only [collectName, found, Except.ok.injEq] at ran
    subst ran
    exact ⟨.refl state, by simp⟩
  | some value =>
    cases value with
    | none =>
      simp only [collectName, found, Except.ok.injEq] at ran
      subst ran
      exact ⟨.refl state, by simp⟩
    | some metadata =>
      simp only [collectName, found] at ran
      obtain ⟨offer, answered, rfl⟩ := ok_of_map ran
      cases offer with
      | none =>
        refine ⟨.refl state, ?_⟩
        intro other offer same answer
        cases same
        rw [answered] at answer
        cases answer
      | some offer =>
        refine ⟨extends_add (given metadata offer found answered) state, ?_⟩
        intro other again same answer name named
        cases same
        rw [answered] at answer
        cases answer
        exact mem_occupied_add named state

private theorem collectNames_extends {source : MenuSource}
    {read : PyStr → Metadata → Except PyError (Option Offer)} {registry : Registry}
    {offered : PyStr → Prop} {keys : List PyStr} {state final : Collected}
    (given : ∀ key ∈ keys, ∀ metadata offer, registry.get? (.name key) = some (some metadata) →
      read key metadata = .ok (some offer) → ∀ name, offer.name = some name → offered name)
    (ran : collectNames source read registry keys state = .ok final) :
    Extends source offered state final ∧
      ∀ key ∈ keys, ∀ metadata offer, registry.get? (.name key) = some (some metadata) →
        read key metadata = .ok (some offer) → ∀ name, offer.name = some name →
          name ∈ final.occupied := by
  induction keys generalizing state with
  | nil =>
    cases ran
    exact ⟨.refl _, by simp⟩
  | cons key rest ih =>
    rw [List.forall_mem_cons] at given
    cases head : collectName source read registry key state with
    | error error => simp [collectNames, head] at ran
    | ok next =>
      simp only [collectNames, head] at ran
      obtain ⟨first, taken⟩ := collectName_extends given.1 head
      obtain ⟨others, later⟩ := ih given.2 ran
      refine ⟨first.trans others, List.forall_mem_cons.mpr ⟨?_, later⟩⟩
      intro metadata offer found answered name named
      exact others.grows name (taken metadata offer found answered name named)

private theorem mem_sortedNames {registry : Registry} {name : PyStr} {value : Option Metadata}
    (found : registry.get? (.name name) = some value) : name ∈ sortedNames registry := by
  rw [sortedNames, List.mem_insertionSort, List.mem_filterMap]
  exact ⟨.name name, (registry.mem_keys_iff _).mpr (by rw [found]; rfl), rfl⟩

private theorem collectSource_extends {inputs : MenuInputs} {source : MenuSource}
    (registered : source ≠ .core) {state final : Collected}
    (ran : inputs.collectSource letters source state = .ok final) :
    Extends source (Offers letters inputs source) state final ∧
      ∀ name, Offers letters inputs source name → name ∈ final.occupied := by
  have unfolded : ∀ name, Offers letters inputs source name ↔ ∃ key metadata offer,
      (inputs.registry source).get? (.name key) = some (some metadata) ∧
        inputs.offer letters source key metadata = .ok (some offer) ∧ offer.name = some name := by
    intro name
    cases source with
    | core => exact absurd rfl registered
    | quick => exact Iff.rfl
    | plugin => exact Iff.rfl
    | bundle => exact Iff.rfl
    | skill => exact Iff.rfl
  have given : ∀ key ∈ sortedNames (inputs.registry source), ∀ metadata offer,
      (inputs.registry source).get? (.name key) = some (some metadata) →
      inputs.offer letters source key metadata = .ok (some offer) →
      ∀ name, offer.name = some name → Offers letters inputs source name := by
    intro key _ metadata offer found answered name named
    exact (unfolded name).mpr ⟨key, metadata, offer, found, answered, named⟩
  obtain ⟨run, taken⟩ := collectNames_extends given ran
  refine ⟨run, fun name offered => ?_⟩
  obtain ⟨key, metadata, offer, found, answered, named⟩ := (unfolded name).mp offered
  exact taken key (mem_sortedNames found) metadata offer found answered name named

/-- The entry has a name that its own source offers, no earlier source offers and, unless it is
from the core, the core does not reserve. -/
def Deserved (letters : Letters) (inputs : MenuInputs) (entry : CommandMenuEntry) : Prop :=
  ∃ name, entry.command = ch '/' :: name ∧ Offers letters inputs entry.source name ∧
    (∀ source, source.rank < entry.source.rank → ¬ Offers letters inputs source name) ∧
    (entry.source ≠ .core → name ∉ inputs.reservedCoreNames letters)

/-- The state after the sources below a rank. -/
structure Ranked (letters : Letters) (inputs : MenuInputs) (rank : Nat) (state : Collected) :
    Prop where
  distinct : (state.entries.map CommandMenuEntry.command).Nodup
  deserved : ∀ entry ∈ state.entries, Deserved letters inputs entry
  recorded : ∀ entry ∈ state.entries, ∃ name ∈ state.occupied, entry.command = ch '/' :: name
  closed : ∀ source, source.rank < rank → ∀ name, Offers letters inputs source name →
    name ∈ state.occupied
  reserved : 0 < rank → ∀ name ∈ inputs.reservedCoreNames letters, name ∈ state.occupied

theorem Ranked.extends {inputs : MenuInputs} {source : MenuSource} {before after : Collected}
    (ranked : Ranked letters inputs source.rank before)
    (run : Extends source (Offers letters inputs source) before after)
    (taken : ∀ name, Offers letters inputs source name → name ∈ after.occupied)
    (reserved : ∀ name ∈ inputs.reservedCoreNames letters, name ∈ after.occupied) :
    Ranked letters inputs (source.rank + 1) after := by
  obtain ⟨added, entries, distinct, facts⟩ := run.added
  refine ⟨?_, ?_, ?_, ?_, fun _ => reserved⟩
  · rw [entries, List.map_append, List.nodup_append]
    refine ⟨ranked.distinct, distinct, ?_⟩
    rintro command member _ again rfl
    obtain ⟨entry, present, rfl⟩ := List.mem_map.mp member
    obtain ⟨other, later, same⟩ := List.mem_map.mp again
    obtain ⟨name, occupied, command⟩ := ranked.recorded entry present
    obtain ⟨_, otherName, otherCommand, _, _, free⟩ := facts other later
    rw [command, otherCommand, List.cons.injEq] at same
    rw [← same.2] at occupied
    exact free occupied
  · intro entry member
    rw [entries, List.mem_append] at member
    rcases member with old | new
    · exact ranked.deserved entry old
    · obtain ⟨rfl, name, command, offered, _, free⟩ := facts entry new
      refine ⟨name, command, offered, ?_, ?_⟩
      · intro source earlier other
        exact free (ranked.closed source earlier name other)
      · intro registered known
        exact free (ranked.reserved (MenuSource.rank_pos registered) name known)
  · intro entry member
    rw [entries, List.mem_append] at member
    rcases member with old | new
    · obtain ⟨name, occupied, command⟩ := ranked.recorded entry old
      exact ⟨name, run.grows name occupied, command⟩
    · obtain ⟨_, name, command, _, occupied, _⟩ := facts entry new
      exact ⟨name, occupied, command⟩
  · intro other below name offered
    rcases Nat.lt_succ_iff_lt_or_eq.mp below with earlier | same
    · exact run.grows name (ranked.closed other earlier name offered)
    · rw [MenuSource.rank_injective same] at offered
      exact taken name offered

theorem Ranked.collectSource {inputs : MenuInputs} {source : MenuSource}
    {before after : Collected} (ranked : Ranked letters inputs source.rank before)
    (registered : source ≠ .core)
    (ran : inputs.collectSource letters source before = .ok after) :
    Ranked letters inputs (source.rank + 1) after := by
  obtain ⟨run, taken⟩ := collectSource_extends registered ran
  have later := MenuSource.rank_pos registered
  exact ranked.extends run taken fun name known => run.grows name (ranked.reserved later name known)

/-- Everything that is collected is deserved. -/
theorem collect_ranked {inputs : MenuInputs} {state : Collected}
    (ran : inputs.collect letters = .ok state) : Ranked letters inputs 5 state := by
  rw [MenuInputs.collect] at ran
  obtain ⟨core, ranCore, ran⟩ := ok_of_bind ran
  obtain ⟨quick, ranQuick, ran⟩ := ok_of_bind ran
  obtain ⟨plugin, ranPlugin, ran⟩ := ok_of_bind ran
  obtain ⟨bundle, ranBundle, ran⟩ := ok_of_bind ran
  have start : Ranked letters inputs MenuSource.core.rank ⟨[], [], noCounts⟩ := by
    refine ⟨List.nodup_nil, by simp, by simp, ?_, ?_⟩
    · intro source earlier
      exact absurd earlier (Nat.not_lt_zero _)
    · intro later
      exact absurd later (Nat.lt_irrefl 0)
  have given : ∀ command ∈ inputs.coreCommands,
      command.name.isAmong visibleGatewayCommands = .ok true →
      inputs.isGatewayAvailable command = true →
      ∀ name, exactDispatchName letters command.name = some name →
        Offers letters inputs .core name :=
    fun command member visible available name named =>
      ⟨command, member, visible, available, named⟩
  obtain ⟨run, taken⟩ := collectCore_extends given ranCore
  have afterCore : Ranked letters inputs MenuSource.quick.rank
      (core.occupy (inputs.reservedCoreNames letters)) := by
    refine start.extends (run.trans (.occupy _ core)) ?_ ?_
    · rintro name ⟨command, member, visible, available, named⟩
      exact List.mem_append_right _ (taken command member visible available name named)
    · exact fun name known => List.mem_append_left _ known
  have afterQuick : Ranked letters inputs MenuSource.plugin.rank quick :=
    afterCore.collectSource (by decide) ranQuick
  have afterPlugin : Ranked letters inputs MenuSource.bundle.rank plugin :=
    afterQuick.collectSource (by decide) ranPlugin
  have afterBundle : Ranked letters inputs MenuSource.skill.rank bundle :=
    afterPlugin.collectSource (by decide) ranBundle
  exact afterBundle.collectSource (by decide) ran

/-- What another source than the core offers is an exact name. -/
theorem exact_of_offers {inputs : MenuInputs} {source : MenuSource} {name : PyStr}
    (offered : Offers letters inputs source name) :
    exactDispatchName letters (.text name) = some name := by
  cases source with
  | core =>
    obtain ⟨command, _, _, _, named⟩ := offered
    exact exact_of_exact named
  | quick =>
    obtain ⟨key, metadata, offer, _, answered, named⟩ := offered
    obtain ⟨known, _, made⟩ := ok_of_map answered
    split at made
    · cases made
      exact @exact_of_exact letters (.text key) name named
    · cases made
  | plugin =>
    obtain ⟨key, metadata, offer, _, answered, named⟩ := offered
    simp only [MenuInputs.offer, pluginOffer] at answered
    split at answered
    · cases answered
    · cases answered
      exact @exact_of_exact letters (.text key) name named
  | bundle =>
    obtain ⟨key, metadata, offer, _, answered, named⟩ := offered
    cases answered
    exact @exact_of_normalized letters (.text key) name named
  | skill =>
    obtain ⟨key, metadata, offer, _, answered, named⟩ := offered
    simp only [MenuInputs.offer, skillOffer] at answered
    split at answered
    · cases answered
    · cases answered
      exact @exact_of_normalized letters (.text key) name named

/-- The core reserves every name that it recognizes, if it can be a command at all. -/
theorem mem_reservedCoreNames {inputs : MenuInputs} {name : PyStr}
    (recognized : Recognized inputs name)
    (valid : exactDispatchName letters (.text name) = some name) :
    name ∈ inputs.reservedCoreNames letters := by
  obtain ⟨command, member, known, named⟩ := recognized
  rw [MenuInputs.reservedCoreNames, List.mem_flatMap]
  refine ⟨command, member, ?_⟩
  rw [CoreCommand.reservedNames, if_pos known, List.mem_filterMap]
  exact ⟨.text name, named, valid⟩

end OctoChannel.Menu
