import OctoChannel.Cards.Tallies

namespace OctoChannel.Cards

open Foundation

variable {tally : PyStr → Option Tally} {limit : Nat} {registry after : CardRegistry}
  {messageId : PyStr} {entry : CardEntry} {eventId now : Int}

/-- A press that has claimed its card and not yet been dispatched. -/
structure Tally.Waits (count : Tally) (limit : Nat) (action : CardAction) (attempts : Int) :
    Prop where
  mine : count.eventId = action.eventId
  owed : count.dispatches < count.claims
  attempts : (count.claims : Int) ≤ attempts
  below : count.dispatches < limit

structure Counted (limit : Nat) (state : AttemptDesk) : Prop where
  exclusive : state.desk.Exclusive
  limited : state.desk.registry.maxDispatchAttempts = limit
  fits : RegistryFits state.tally limit state.desk.registry
  waiting : ∀ run action session attempts,
    state.desk.runs.get? run = some (.press action (.updating session attempts)) →
      ∃ count, state.tally action.messageId = some count ∧ count.Waits limit action attempts
  dispatched : ∀ run action session attempts,
    state.desk.runs.get? run = some (.press action (.dispatching session attempts)) →
      ∃ count, state.tally action.messageId = some count ∧ (count.claims : Int) ≤ attempts
  bounded : ∀ messageId count, state.tally messageId = some count →
    count.dispatches ≤ count.claims ∧ count.dispatches ≤ limit

variable {state : AttemptDesk} {desk : CardDesk} {run : Nat} {action : CardAction}
  {session : CardSession} {moment : Moment}

theorem claiming_of_found {current : CardRun} (found : desk.runs.get? run = some current)
    (claim : current.claim? = some (action, session)) : Claiming desk run action session := by
  rw [Claiming, found]
  exact claim

namespace Counted

/-- A step that counts nothing, and after which no run has a claim that it did not have. -/
theorem uncounted (counted : Counted limit state) (exclusive : desk.Exclusive)
    (settings : state.desk.registry.SameSettings desk.registry)
    (fits : RegistryFits state.tally limit desk.registry)
    (runs : ∀ run current, desk.runs.get? run = some current → current.claim?.isSome →
      state.desk.runs.get? run = some current) : Counted limit ⟨desk, state.tally⟩ where
  exclusive := exclusive
  limited := settings.maxDispatchAttempts.trans counted.limited
  fits := fits
  waiting run action session attempts found :=
    counted.waiting run action session attempts (runs run _ found rfl)
  dispatched run action session attempts found :=
    counted.dispatched run action session attempts (runs run _ found rfl)
  bounded := counted.bounded

theorem runs_setRun (desk : CardDesk) {state : CardRun} (free : state.claim? = none) (run other : Nat)
    (current : CardRun) (found : (desk.setRun run state).runs.get? other = some current)
    (claims : current.claim?.isSome) : desk.runs.get? other = some current := by
  rw [CardDesk.setRun, Dict.get?_set] at found
  split at found
  · cases found
    rw [free] at claims
    cases claims
  · exact found

theorem runs_endRun (desk : CardDesk) (run other : Nat) (current : CardRun)
    (found : (desk.endRun run).runs.get? other = some current) (_ : current.claim?.isSome) :
    desk.runs.get? other = some current := by
  rw [CardDesk.endRun, Dict.get?_erase] at found
  split at found
  · cases found
  · exact found

/-- The entry that a claiming press finds is held by it. -/
theorem held (counted : Counted limit state) (claiming : Claiming state.desk run action session)
    (found : state.desk.registry.entries.get? action.messageId = some entry) :
    ¬ entry.Unclaimed := by
  have held := counted.exclusive.held run action session claiming entry found
  rintro (pending | ⟨eventId, edited, negative⟩)
  · cases held.state.symm.trans pending
  · have same := Option.some.inj (held.claimed.symm.trans edited)
    omega

/-- A step that counts for one message: the runs of the others are as before. -/
theorem retally (counted : Counted limit state) {messageId : PyStr} {count : Tally}
    (here : tally messageId = some count)
    (elsewhere : ∀ other, other ≠ messageId → tally other = state.tally other)
    (exclusive : desk.Exclusive) (settings : state.desk.registry.SameSettings desk.registry)
    (fits : RegistryFits tally limit desk.registry)
    (runs : ∀ run action phase, desk.runs.get? run = some (.press action phase) →
      (CardRun.press action phase).claim?.isSome →
        (action.messageId ≠ messageId ∧ state.desk.runs.get? run = some (.press action phase)) ∨
        (action.messageId = messageId ∧
          (∃ session attempts, phase = .updating session attempts ∧
              count.Waits limit action attempts ∨
            phase = .dispatching session attempts ∧ (count.claims : Int) ≤ attempts)))
    (bound : count.dispatches ≤ count.claims ∧ count.dispatches ≤ limit) :
    Counted limit ⟨desk, tally⟩ := by
  refine ⟨exclusive, settings.maxDispatchAttempts.trans counted.limited, fits, ?_, ?_, ?_⟩
  · intro run action session attempts found
    rcases runs run action _ found rfl with ⟨different, before⟩ | ⟨same, other, number, now⟩
    · obtain ⟨next, counts, waits⟩ := counted.waiting run action session attempts before
      exact ⟨next, (elsewhere _ different).trans counts, waits⟩
    · rcases now with ⟨phase, waits⟩ | ⟨phase, -⟩
      · cases phase
        exact ⟨count, same ▸ here, waits⟩
      · cases phase
  · intro run action session attempts found
    rcases runs run action _ found rfl with ⟨different, before⟩ | ⟨same, other, number, now⟩
    · obtain ⟨next, counts, claims⟩ := counted.dispatched run action session attempts before
      exact ⟨next, (elsewhere _ different).trans counts, claims⟩
    · rcases now with ⟨phase, -⟩ | ⟨phase, claims⟩
      · cases phase
      · cases phase
        exact ⟨count, same ▸ here, claims⟩
  · intro other next counts
    by_cases same : other = messageId
    · rw [same] at counts
      cases here.symm.trans counts
      exact bound
    · exact counted.bounded other next ((elsewhere other same).symm.trans counts)

/-- The claim of a press, if its phase has one. -/
theorem claim_press {phase : PressPhase} (claims : (CardRun.press action phase).claim?.isSome) :
    ∃ session, (CardRun.press action phase).claim? = some (action, session) := by
  cases phase with
  | updating session attempts => exact ⟨session, rfl⟩
  | dispatching session attempts => exact ⟨session, rfl⟩
  | storing after => cases claims
  | reporting result => cases claims

/-- A press begins its dispatch. -/
theorem dispatch {attempts : Int} (counted : Counted limit state)
    (found : state.desk.runs.get? run = some (.press action (.updating session attempts))) :
    Counted limit (attemptStep state (.card (.statusUpdated run))) := by
  obtain ⟨count, tallied, waits⟩ := counted.waiting run action session attempts found
  have claiming := claiming_of_found found rfl
  have exclusive := counted.exclusive.step (.statusUpdated run)
  simp only [attemptStep, hostStep, AttemptDesk.tallyAfter, cardStep, found, tallied,
    Option.map_some] at exclusive ⊢
  have dispatched : count.dispatch action.eventId = { count with dispatches := count.dispatches + 1 } :=
    if_pos waits.mine
  rw [dispatched]
  refine counted.retally (if_pos rfl) (fun _ different => if_neg different) exclusive (.refl _) ?_
    ?_ ⟨waits.owed, waits.below⟩
  · constructor
    · intro other entry stored
      have old := counted.fits.entries other entry stored
      by_cases same : other = action.messageId
      · subst same
        refine ⟨old.named, old.natural, ?_, fun free => absurd free (counted.held claiming stored)⟩
        intro next counts
        cases (if_pos rfl).symm.trans counts
        exact old.counted count tallied
      · exact old.elsewhere (if_neg same)
    · intro saved stored record member
      have old := counted.fits.records saved stored record member
      refine ⟨old.natural, fun next counts => ?_⟩
      by_cases same : record.session.messageId = action.messageId
      · cases (if_pos same).symm.trans counts
        exact old.counted count (same ▸ tallied)
      · exact old.counted next ((if_neg same).symm.trans counts)
  · intro other another phase stored claims
    rw [CardDesk.setRun, Dict.get?_set] at stored
    split at stored
    · cases stored
      exact .inr ⟨rfl, session, attempts, .inr ⟨rfl, waits.attempts⟩⟩
    · rename_i different
      refine .inl ⟨fun same => ?_, stored⟩
      -- Of the claiming runs only this one is of the message.
      obtain ⟨second, claim⟩ := claim_press claims
      have rival := claiming_of_found stored claim
      exact different (counted.exclusive.unique run other action another session second claiming
        rival same.symm)

/-- What a claim counts is owed one dispatch, and within the attempts of the entry. -/
theorem claim_waits (counted : Counted limit state) (positive : 0 < limit)
    (present : state.desk.registry.entries.get? action.messageId = some entry)
    (pending : entry.state = .pending) :
    (Tally.claim (state.tally action.messageId) action.eventId).Waits limit action
      (CardRegistry.claimedBy entry action.eventId).dispatchAttempts := by
  have fits := counted.fits.entries _ entry present
  have natural := fits.natural
  have fresh : Tally.Waits ⟨action.eventId, 1, 0⟩ limit action
      (CardRegistry.claimedBy entry action.eventId).dispatchAttempts := by
    refine ⟨rfl, Nat.one_pos, ?_, positive⟩
    dsimp only [CardRegistry.claimedBy]
    split
    · omega
    · omega
  cases tallied : state.tally action.messageId with
  | none => exact fresh
  | some count =>
    obtain ⟨event, claims⟩ := fits.counted count tallied
    have bounded := (counted.bounded _ count tallied).1
    have below := fits.below (.inl pending) count tallied
    dsimp only [Tally.claim]
    split
    · rename_i same
      refine ⟨same, Nat.lt_succ_of_le bounded, ?_, below⟩
      dsimp only [CardRegistry.claimedBy]
      rw [if_pos (same ▸ event)]
      push_cast
      omega
    · exact fresh

/-- The registry after a claim fits the tally with the claim. -/
private theorem fits_claimed {claims : state.desk.Claims action moment entry registry}
    (counted : Counted limit state) (positive : 0 < limit) :
    RegistryFits (state.setTally action.messageId
      (some (Tally.claim (state.tally action.messageId) action.eventId))) limit registry := by
  have waits := counted.claim_waits positive claims.present claims.pending
  have old := counted.fits.entries _ entry claims.present
  have entries : ∀ other found, registry.entries.get? other = some found →
      EntryFits (state.setTally action.messageId
        (some (Tally.claim (state.tally action.messageId) action.eventId))) limit other found := by
    intro other found stored
    rcases claims.changes other found stored with ⟨same, new⟩ | ⟨different, earlier⟩
    · subst same new
      refine ⟨old.named, ?_, ?_, ?_⟩
      · exact (Int.natCast_nonneg _).trans waits.attempts
      · intro count counts
        cases (if_pos rfl).symm.trans counts
        exact ⟨congrArg some waits.mine.symm, waits.attempts⟩
      · rintro (free | ⟨eventId, edited, negative⟩)
        · cases free
        · cases edited
          omega
    · exact (counted.fits.entries other found earlier).elsewhere (if_neg different)
  have current := (CardRegistry.synced_claim state.desk.registry state.desk.now moment
    action.messageId action.eventId).2 _ (congrArg Prod.fst claims.claimed) rfl
  rw [claims.claimed] at current
  refine ⟨entries, ?_⟩
  intro saved stored record member
  rcases current with none | current
  · cases none.symm.trans stored
  · cases current.symm.trans stored
    exact records_fit entries member

theorem press (counted : Counted limit state) (positive : 0 < limit) (run : Nat)
    (action : CardAction) (moment : Moment) :
    Counted limit (attemptStep state (.card (.press run action moment))) := by
  have exclusive := counted.exclusive.step (.press run action moment)
  have settings := (CardRegistry.inclusive_settings state.desk.registry).cardStep (.refl _)
    (.press run action moment)
  by_cases busy : (state.desk.runs.get? run).isSome = true
  · have same : attemptStep state (.card (.press run action moment)) = state := by
      have taken : (state.desk.runs.get? run).isNone = false := by simpa using busy
      simp only [attemptStep, hostStep, cardStep, busy, if_true, AttemptDesk.tallyAfter,
        AttemptDesk.pressClaims, taken, Bool.false_and, Bool.false_eq_true, if_false]
    rw [same]
    exact counted
  have free : (state.desk.runs.get? run).isNone = true := by simpa using busy
  have step : cardStep state.desk (.press run action moment) = state.desk.press run action moment :=
    if_neg busy
  rw [step] at exclusive settings
  show Counted limit ⟨cardStep state.desk (.press run action moment),
    if state.pressClaims run action moment then
      state.setTally action.messageId
        (some (Tally.claim (state.tally action.messageId) action.eventId))
    else state.tally⟩
  rw [step]
  rcases state.desk.press_cases run action moment with
    ⟨shrinks, unclaimed, same⟩ | ⟨entry, registry, claims, outcome⟩
  · have uncounted : ¬ state.pressClaims run action moment = true := by
      rw [AttemptDesk.pressClaims, free, Bool.true_and]
      split
      · rename_i claim answered
        simpa using unclaimed claim answered
      · simp
    rw [if_neg uncounted]
    rw [same] at exclusive settings ⊢
    exact counted.uncounted exclusive settings
      (counted.fits.shrinks shrinks (CardRegistry.synced_claim _ _ _ _ _).1)
      fun _ _ found _ => found
  · have counts : state.pressClaims run action moment = true := by
      rw [AttemptDesk.pressClaims, free, claims.claimed]
      rfl
    have fits := @fits_claimed _ _ _ _ _ _ claims counted positive
    have waits := counted.claim_waits positive claims.present claims.pending
    -- The entry was pending, so no other run has a claim on the message.
    have others : ∀ other another phase,
        state.desk.runs.get? other = some (.press another phase) →
          (CardRun.press another phase).claim?.isSome → another.messageId ≠ action.messageId := by
      intro other another phase found claim same
      obtain ⟨second, mine⟩ := claim_press claim
      have held := counted.exclusive.held other another second (claiming_of_found found mine) entry
        (same ▸ claims.present)
      cases claims.pending.symm.trans held.state
    rw [if_pos counts]
    rcases outcome with ⟨-, same⟩ | ⟨after, same⟩
    · rw [same] at exclusive settings ⊢
      refine counted.retally (if_pos rfl) (fun _ different => if_neg different) exclusive settings fits
        ?_ ⟨waits.owed.le, waits.below.le⟩
      intro other another phase found claim
      rw [CardDesk.setRun, Dict.get?_set] at found
      split at found
      · cases found
        exact .inr ⟨rfl, _, _, .inl ⟨rfl, waits⟩⟩
      · exact .inl ⟨others other another phase found claim, found⟩
    · rw [same] at exclusive settings ⊢
      refine counted.retally (if_pos rfl) (fun _ different => if_neg different) exclusive settings
        (fits.release ?_) ?_ ⟨waits.owed.le, waits.below.le⟩
      · intro _ _ _ count tallied
        cases (if_pos rfl).symm.trans tallied
        exact waits.below
      · intro other another phase found claim
        have before := runs_setRun _ rfl run other _ found claim
        exact .inl ⟨others other another phase before claim, before⟩

theorem restart (counted : Counted limit state) (now wall : Int) (readable : Bool)
    (ends : EndsInOutcome state (.restart now wall readable)) :
    Counted limit (attemptStep state (.restart now wall readable)) := by
  have restored : state.desk.registry.SameSettings (state.desk.registry.restart wall now readable) ∧
      (state.desk.registry.restart wall now readable).persistence = state.desk.registry.persistence ∧
      ∀ messageId entry,
        (state.desk.registry.restart wall now readable).entries.get? messageId = some entry →
          EntryFits state.tally limit messageId entry := by
    apply @CardRegistry.restart_preserves state.desk.registry fun registry =>
      state.desk.registry.SameSettings registry ∧
        registry.persistence = state.desk.registry.persistence ∧
        ∀ messageId entry, registry.entries.get? messageId = some entry →
          EntryFits state.tally limit messageId entry
    · exact ⟨⟨rfl, rfl, rfl, rfl⟩, rfl, fun _ _ none => by cases none⟩
    · rintro loaded other ⟨settings, store, entries⟩ records stored record member entry read
      subst loaded
      refine ⟨settings.trans ⟨rfl, rfl, rfl, rfl⟩, store, ?_⟩
      intro messageId found present
      rw [CardRegistry.put, Dict.get?_set] at present
      split at present
      · rename_i same
        cases present
        subst same
        have fits := counted.fits.records records stored record member
        have below := ends records stored record member entry read
        obtain ⟨-, -, -, same⟩ := toEntry_some read
        rw [counted.limited] at below
        subst same
        refine ⟨rfl, fits.natural, fits.counted, ?_⟩
        rintro (pending | ⟨eventId, none, -⟩)
        · exact below pending
        · cases none
      · exact entries messageId found present
  obtain ⟨settings, store, entries⟩ := restored
  refine ⟨exclusive_fresh _ now, settings.maxDispatchAttempts.trans counted.limited, ⟨entries, ?_⟩,
    fun _ _ _ _ none => (by cases none), fun _ _ _ _ none => (by cases none), counted.bounded⟩
  intro records stored
  exact counted.fits.records records (store.symm.trans stored)

/-- Only the beginning of a press or of its dispatch gives a run a claim. -/
private theorem runs_cardStep (desk : CardDesk) {event : CardEvent} (quiet : event.counts = false)
    (run : Nat)
    (current : CardRun) (found : (Cards.cardStep desk event).runs.get? run = some current)
    (claims : current.claim?.isSome) : desk.runs.get? run = some current := by
  have move := cardStep_move desk event
  generalize Cards.cardStep desk event = after at move found
  cases move with
  | idle => exact found
  | missed | claimed | gaveBack | statusUpdated => cases quiet
  | accepted busy terminal => exact runs_setRun _ rfl _ run current found claims
  | refused busy open' => exact runs_setRun _ rfl _ run current found claims
  | deadLetter busy last => exact runs_setRun _ rfl _ run current found claims
  | raised busy early => exact runs_setRun _ rfl _ run current found claims
  | updateCancelled busy => exact runs_setRun _ rfl _ run current found claims
  | dispatchCancelled busy => exact runs_setRun _ rfl _ run current found claims
  | reportCancelled busy => exact runs_endRun _ _ run current found claims
  | stored busy => exact runs_setRun _ rfl _ run current found claims
  | unreported busy => exact runs_endRun _ _ run current found claims
  | reported busy => exact runs_endRun _ _ run current found claims
  | editMissed free shrinks => exact found
  | editClaimed free present pending changes => exact runs_setRun _ rfl _ run current found claims
  | editCompleted busy => exact runs_setRun _ rfl _ run current found claims
  | editReleased busy => exact runs_setRun _ rfl _ run current found claims
  | editStored busy => exact runs_setRun _ rfl _ run current found claims
  | editLeft busy => exact runs_endRun _ _ run current found claims
  | editClosed busy => exact runs_endRun _ _ run current found claims
  | editCancelled busy => exact runs_endRun _ _ run current found claims
  | persist moment => exact found
  | tick lapse => exact found

/-- The event of the dispatch may be dispatched again. -/
theorem below_of_open (counted : Counted limit state) (free : ¬ state.Spent action) (count : Tally)
    (tallied : state.tally action.messageId = some count) : count.dispatches < limit := by
  rw [AttemptDesk.Spent, counted.limited] at free
  exact Nat.lt_of_not_le fun spent => free ⟨count, tallied, spent⟩

/-- A step that counts nothing leaves a registry that fits. -/
private theorem fits_cardStep (counted : Counted limit state) {event : CardEvent}
    (quiet : event.counts = false) (ends : EndsInOutcome state (.card event)) :
    RegistryFits state.tally limit (Cards.cardStep state.desk event).registry := by
  have fits := counted.fits
  have written : ∀ moment : Moment, RegistryFits state.tally limit
      (state.desk.registry.persist state.desk.now moment).2 := fun moment =>
    fits.shrinks (state.desk.registry.shrinks_persist _ _) (CardRegistry.synced_persist _ _ _)
  have move := cardStep_move state.desk event
  generalize Cards.cardStep state.desk event = after at move ⊢
  cases move with
  | idle => exact fits
  | missed | claimed | gaveBack | statusUpdated => cases quiet
  | accepted found terminal => exact fits.complete
  | @refused run action session attempts accepted found open' =>
    exact fits.release fun _ _ _ =>
      counted.below_of_open (ends action session attempts found open')
  | deadLetter found last => exact fits.complete
  | @raised run action session attempts found early =>
    apply fits.release
    intro _ _ _ count tallied
    -- The attempts count the claims, so fewer of them are fewer dispatches.
    obtain ⟨known, same, claims⟩ := counted.dispatched run action session attempts found
    cases same.symm.trans tallied
    have few := (counted.bounded _ count tallied).1
    rw [counted.limited] at early
    omega
  | @updateCancelled run action session attempts found =>
    apply fits.release
    intro _ _ _ count tallied
    obtain ⟨known, same, waits⟩ := counted.waiting run action session attempts found
    cases same.symm.trans tallied
    exact waits.below
  | @dispatchCancelled run action session attempts found =>
    exact fits.release fun _ _ _ => counted.below_of_open (ends action session attempts found)
  | reportCancelled found => exact fits
  | stored found => exact written _
  | unreported found => exact written _
  | reported found => exact fits
  | editMissed free shrinks => exact fits.shrinks shrinks (CardRegistry.synced_claimEdit _ _ _ _)
  | @editClaimed run args final moment entry free present pending changes =>
    have old := fits.entries args.messageId entry present
    exact fits.changes changes
      ⟨old.named, old.natural, old.counted, fun _ => old.below (.inl pending)⟩
      (CardRegistry.synced_claimEdit _ _ _ _)
  | editCompleted found => exact fits.complete
  | @editReleased run messageId cardSeq phase closes event found =>
    have positive := counted.exclusive.edits run messageId cardSeq phase found
    apply fits.release
    intro entry present held
    -- What an edit holds is unclaimed as far as events go.
    simp only [CardRegistry.holds, Bool.and_eq_true, decide_eq_true_eq] at held
    exact (fits.entries messageId entry present).below (.inr ⟨_, held.2, by omega⟩)
  | editStored found => exact written _
  | editLeft found => exact written _
  | editClosed found => exact fits
  | editCancelled found => exact fits
  | persist moment => exact written moment
  | tick lapse => exact fits

private theorem tallyAfter_quiet (state : AttemptDesk) {event : CardEvent}
    (quiet : event.counts = false) :
    state.tallyAfter (.card event) = state.tally := by
  cases event with
  | press run action moment => cases quiet
  | statusUpdated run => cases quiet
  | _ => rfl

theorem step (counted : Counted limit state) (positive : 0 < limit) (event : HostEvent)
    (ends : EndsInOutcome state event) : Counted limit (attemptStep state event) := by
  cases event with
  | restart now wall readable => exact counted.restart now wall readable ends
  | abort run =>
    simp only [attemptStep, hostStep, AttemptDesk.tallyAfter]
    split
    · exact counted.uncounted counted.exclusive.endRun (.refl _) counted.fits
        (runs_endRun state.desk run)
    · exact counted
  | card event =>
    by_cases quiet : event.counts = false
    · have stepped := counted.uncounted (counted.exclusive.step event)
        ((CardRegistry.inclusive_settings state.desk.registry).cardStep (.refl _) event)
        (counted.fits_cardStep quiet ends) (runs_cardStep state.desk quiet)
      rw [attemptStep, tallyAfter_quiet state quiet]
      exact stepped
    · cases event with
      | press run action moment => exact counted.press positive run action moment
      | statusUpdated run =>
        rcases found : state.desk.runs.get? run with
          _ | (⟨action, phase⟩ | ⟨messageId, cardSeq, phase⟩)
        · simp only [attemptStep, hostStep, Cards.cardStep, AttemptDesk.tallyAfter, found]
          exact counted
        · cases phase with
          | updating session attempts => exact counted.dispatch found
          | dispatching session attempts | storing after | reporting result =>
            simp only [attemptStep, hostStep, Cards.cardStep, AttemptDesk.tallyAfter, found]
            exact counted
        · simp only [attemptStep, hostStep, Cards.cardStep, AttemptDesk.tallyAfter, found]
          exact counted
      | _ => exact absurd rfl quiet

end Counted

theorem CardRegistry.Inclusive.keepStep {Property : CardRegistry → Prop}
    {Entry : PyStr → CardEntry → Prop} (inclusive : Inclusive Property Entry)
    (restart : ∀ (registry : CardRegistry) (wall now : Int) (readable : Bool), Property registry →
      Property (registry.restart wall now readable))
    (holds : Property desk.registry) (event : KeepEvent) :
    Property (Cards.keepStep desk event).registry := by
  cases event with
  | host event =>
    cases event with
    | card event => exact inclusive.cardStep holds event
    | abort run =>
      simp only [Cards.keepStep, hostStep]
      split
      · exact holds
      · exact holds
    | restart now wall readable => exact restart desk.registry wall now readable holds
  | register session wall moment => exact inclusive.register holds _ _ _ _
  | discard messageId moment => exact inclusive.persist (inclusive.drop holds messageId) _ moment
  | nextCardSeq messageId moment => exact inclusive.nextCardSeq holds _ _ _

/-- Without a tally, the entries are under their own names and have natural attempts. -/
theorem inclusive_fits (limit : Nat) :
    CardRegistry.Inclusive (RegistryFits (fun _ => none) limit)
      (EntryFits (fun _ => none) limit) where
  known registry messageId entry fits found := fits.entries messageId entry found
  put registry messageId entry fits new :=
    fits.changes (CardRegistry.changes_put registry messageId entry) new (.inl rfl)
  filter registry keep fits := by
    have shrinks : registry.Shrinks { registry with entries := registry.entries.filterKeys keep } := by
      intro messageId entry found
      rw [Dict.get?_filterKeys] at found
      split at found
      · exact found
      · cases found
    exact fits.shrinks shrinks (.inl rfl)
  write registry fits _ := fits.shrinks (.refl registry) (.inr rfl)
  claimed messageId entry eventId fits := by
    refine ⟨fits.named, ?_, fun _ none => (by cases none), fun _ _ none => (by cases none)⟩
    have natural := fits.natural
    dsimp only [CardRegistry.claimedBy]
    split
    · omega
    · omega
  edited messageId entry fits :=
    ⟨fits.named, fits.natural, fun _ none => (by cases none), fun _ _ none => (by cases none)⟩
  released messageId entry fits :=
    ⟨fits.named, fits.natural, fun _ none => (by cases none), fun _ _ none => (by cases none)⟩
  completed messageId entry fits :=
    ⟨fits.named, fits.natural, fun _ none => (by cases none), fun _ _ none => (by cases none)⟩
  numbered messageId entry fits :=
    ⟨fits.named, fits.natural, fun _ none => (by cases none), fun _ _ none => (by cases none)⟩
  registered registry now wall session _ :=
    ⟨rfl, Int.le_refl 0, fun _ none => (by cases none), fun _ _ none => (by cases none)⟩

private theorem fits_restart (limit : Nat) (registry : CardRegistry) (wall now : Int)
    (readable : Bool)
    (fits : RegistryFits (fun _ => none) limit registry) :
    RegistryFits (fun _ => none) limit (registry.restart wall now readable) := by
  apply @CardRegistry.restart_preserves registry (RegistryFits (fun _ => none) limit)
  · exact ⟨fun _ _ none => (by cases none), fits.records⟩
  · intro _ other holds records stored record member entry read
    have natural := (fits.records records stored record member).natural
    obtain ⟨-, -, -, same⟩ := toEntry_some read
    subst same
    apply (inclusive_fits limit).put other _ _ holds
    exact ⟨rfl, natural, fun _ none => (by cases none), fun _ _ none => (by cases none)⟩

/-- A registry that was filled through its calls, with a store that was empty, or without one. -/
def filledRegistry (maxSessions : Nat) (ttlSeconds : Int) (maxDispatchAttempts : Nat)
    (attached : Bool) (start : Int) (setup : List KeepEvent) : CardRegistry :=
  ((keepMachine (.new maxSessions ttlSeconds maxDispatchAttempts
    (if attached then some [] else none)) start).run setup).registry

private theorem filled_fits (maxSessions : Nat) (ttlSeconds : Int) (maxDispatchAttempts : Nat)
    (attached : Bool) (start : Int) (setup : List KeepEvent) (limit : Nat) :
    RegistryFits (fun _ => none) limit
      (filledRegistry maxSessions ttlSeconds maxDispatchAttempts attached start setup) := by
  apply @Machine.invariant_of_steps _ _ (keepMachine _ start) fun desk : CardDesk =>
    RegistryFits (fun _ => none) limit desk.registry
  · refine ⟨fun _ _ none => (by cases none), ?_⟩
    intro records stored record member
    cases attached with
    | false => cases stored
    | true => cases stored; cases member
  · exact fun desk event fits => (inclusive_fits limit).keepStep (fits_restart limit) fits event

private theorem filled_limit (maxSessions : Nat) (ttlSeconds : Int) (maxDispatchAttempts : Nat)
    (attached : Bool) (start : Int) (setup : List KeepEvent) :
    (filledRegistry maxSessions ttlSeconds maxDispatchAttempts attached start
      setup).maxDispatchAttempts = max 1 maxDispatchAttempts := by
  have settings := @Machine.invariant_of_steps _ _
    (keepMachine (.new maxSessions ttlSeconds maxDispatchAttempts
      (if attached then some [] else none)) start)
    (fun desk => (CardRegistry.new maxSessions ttlSeconds maxDispatchAttempts
      (if attached then some [] else none)).SameSettings desk.registry) (.refl _)
    (fun desk event same => (CardRegistry.inclusive_settings _).keepStep
      (fun registry wall now readable same => same.trans
        (CardRegistry.settings_restart registry wall now readable)) same event) setup
  exact settings.maxDispatchAttempts

private theorem counted_start {registry : CardRegistry} (now : Int)
    (fits : RegistryFits (fun _ => none) limit registry)
    (limited : registry.maxDispatchAttempts = limit) :
    Counted limit (attemptMachine registry now).start where
  exclusive := exclusive_fresh registry now
  limited := limited
  fits := fits
  waiting _ _ _ _ none := by cases none
  dispatched _ _ _ _ none := by cases none
  bounded _ _ none := by cases none

/-- Dispatches are bounded, and after the last one the card takes no further claim: its
failure is the dead letter. -/
structure DispatchesBounded (limit : Nat) (state : AttemptDesk) : Prop where
  bounded : ∀ messageId count, state.tally messageId = some count → count.dispatches ≤ limit
  spent : ∀ messageId count entry, state.tally messageId = some count →
    count.dispatches = limit → state.desk.registry.entries.get? messageId = some entry →
      entry.state ≠ .pending
  deadLetter : ∀ run action session attempts,
    state.desk.runs.get? run = some (.press action (.dispatching session attempts)) →
      state.Spent action → (cardStep state.desk (.dispatchRaises run)).runs.get? run =
        some (.press action (.storing (.reports (py "dead_letter"))))

private theorem Counted.dispatchesBounded (counted : Counted limit state) :
    DispatchesBounded limit state where
  bounded messageId count tallied := (counted.bounded messageId count tallied).2
  spent messageId count entry tallied spent found pending := by
    have below := (counted.fits.entries messageId entry found).below (.inl pending) count tallied
    omega
  deadLetter run action session attempts found spent := by
    obtain ⟨count, tallied, claims⟩ := counted.dispatched run action session attempts found
    obtain ⟨known, same, enough⟩ := spent
    cases same.symm.trans tallied
    have few := (counted.bounded _ count tallied).1
    have last : (state.desk.registry.maxDispatchAttempts : Int) ≤ attempts := by omega
    simp only [cardStep, found]
    rw [CardDesk.dispatchRaised, if_pos last, CardDesk.setRun, Dict.get?_set_self]

/-- In every run in which the last allowed dispatch of an event ends in an outcome or a dead
letter, no event is dispatched more often than allowed while no other event claims its card.
A claim that raises leaves every entry as it was that has not expired meanwhile. -/
theorem dispatches_bounded (maxSessions : Nat) (ttlSeconds : Int) (maxDispatchAttempts : Nat)
    (attached : Bool) (start now : Int) (setup : List KeepEvent) (events : List HostEvent)
    (along : (attemptMachine (filledRegistry maxSessions ttlSeconds maxDispatchAttempts attached
      start setup) now).Along EndsInOutcome events) :
    DispatchesBounded (max 1 maxDispatchAttempts) ((attemptMachine (filledRegistry maxSessions
      ttlSeconds maxDispatchAttempts attached start setup) now).run events) ∧
    (∀ (registry : CardRegistry) now moment messageId eventId error,
      (registry.claim now moment messageId eventId).1 = .error error →
        registry.Untouched (now + moment.lapse)
          (registry.claim now moment messageId eventId).2) ∧
    ∀ (registry : CardRegistry) now moment args error,
      (registry.claimEdit now moment args).1 = .error error →
        registry.Untouched (now + moment.lapse) (registry.claimEdit now moment args).2 := by
  refine ⟨?_, fun _ _ _ _ _ _ raised => CardRegistry.claim_raises raised,
    fun _ _ _ _ _ raised => CardRegistry.claimEdit_raises raised⟩
  apply Counted.dispatchesBounded
  apply Machine.invariant_of_along _ _ along
  · exact counted_start now (filled_fits _ _ _ _ _ _ _) (filled_limit _ _ _ _ _ _)
  · exact fun state event counted ends =>
      counted.step (Nat.lt_of_lt_of_le Nat.one_pos (Nat.le_max_left _ _)) event ends

/-- The card with a button, and one dispatch allowed. -/
def buttonSetup : List KeepEvent := [.register (buttonCard 5).session 0 ⟨0, none⟩]

/-- A dispatch that raises. -/
def raisedRun : List HostEvent :=
  [.card (.press 0 (buttonPress 7) ⟨0, none⟩), .card (.statusUpdated 0),
    .card (.dispatchRaises 0), .card (.stored 0 ⟨0, none⟩)]

theorem dispatches_bounded_raisedRun :
    DispatchesBounded 1 ((attemptMachine (filledRegistry 4 100 1 true 0 buttonSetup) 0).run
      raisedRun) :=
  (dispatches_bounded 4 100 1 true 0 0 buttonSetup raisedRun
    (Machine.along_of_follows ⟨trivial, trivial, trivial, trivial, trivial⟩)).1

/-- A dispatch that is cancelled, and the same event again. -/
def cancelledRun : List HostEvent :=
  [.card (.press 0 (buttonPress 7) ⟨0, none⟩), .card (.statusUpdated 0), .card (.cancel 0),
    .card (.stored 0 ⟨0, none⟩), .card (.press 1 (buttonPress 7) ⟨0, none⟩),
    .card (.statusUpdated 1)]

theorem cancelledRun_dispatches_twice :
    ¬ DispatchesBounded 1 ((attemptMachine (filledRegistry 4 100 1 true 0 buttonSetup) 0).run
      cancelledRun) := by
  intro within
  have twice : ((attemptMachine (filledRegistry 4 100 1 true 0 buttonSetup) 0).run
      cancelledRun).tally (py "m") = some ⟨7, 2, 2⟩ := by rfl
  have few : 2 ≤ 1 := within.bounded _ _ twice
  omega

end OctoChannel.Cards
