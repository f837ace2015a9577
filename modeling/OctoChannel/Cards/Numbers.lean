import OctoChannel.Cards.Registering
import OctoChannel.Foundation.Runs

/-! The edit numbers of a card: calls from several threads, store writes that fail or land
all the same, and restarts from what the store holds. -/

namespace OctoChannel.Cards

open Foundation

/-- A number that a call took: under which registration of its message, and as the how
manieth number of all. -/
structure Allotment where
  messageId : PyStr
  epoch : Nat
  ticket : Nat
  cardSeq : Nat
  deriving DecidableEq

/-- `epochs` counts the registrations and discards of each message and `tickets` the numbers
taken; like `returned`, latest first, no modelled function reads them. -/
structure NumberDesk where
  registry : CardRegistry
  now : Int
  /-- The calls of `next_card_seq` that have left the lock and not yet written the store. -/
  writing : Dict Nat Allotment
  epochs : PyStr → Nat
  tickets : Nat
  returned : List Allotment

/-- `register`, `release`, `complete` and `discard` stand for their locked parts, and their
store writes come later. A write that fails may have landed all the same. -/
inductive NumberEvent where
  | register (session : CardSession) (wall : Int)
  | discard (messageId : PyStr)
  | release (messageId : PyStr) (eventId : Int)
  | complete (messageId : PyStr) (eventId : Int)
  | persist (moment : Moment) (landed : Bool)
  | claim (messageId : PyStr) (eventId : Int) (moment : Moment) (landed : Bool)
  | claimEdit (args : EditArgs) (moment : Moment) (landed : Bool)
  | nextCardSeq (call : Nat) (messageId : PyStr)
  | written (call : Nat) (moment : Moment) (landed : Bool)
  | restart (now wall : Int) (readable : Bool)
  | tick (lapse : Nat)

/-- What a call leaves whose failing write has landed: the store of a call that succeeds. -/
def landing (landed : Bool) (moment : Moment) (call : Moment → CardRegistry) : CardRegistry :=
  if landed then
    { call moment with persistence := (call { moment with failure := none }).persistence }
  else call moment

namespace NumberDesk

variable (desk : NumberDesk)

def put (moment : Moment) (registry : CardRegistry) : NumberDesk :=
  { desk with registry, now := desk.now + moment.lapse }

/-- A registration or discard of the message. -/
def renew (messageId : PyStr) (registry : CardRegistry) : NumberDesk :=
  { desk with
    registry
    epochs := fun other => if other = messageId then desk.epochs other + 1 else desk.epochs other }

def allot (messageId : PyStr) (cardSeq : Nat) : Allotment :=
  ⟨messageId, desk.epochs messageId, desk.tickets, cardSeq⟩

end NumberDesk

def numberStep (desk : NumberDesk) : NumberEvent → NumberDesk
  | .register session wall =>
    match desk.registry.enroll desk.now wall session with
    | (.error _, registry) => { desk with registry }
    | (.ok _, registry) => desk.renew session.messageId registry
  | .discard messageId => desk.renew messageId (desk.registry.drop messageId)
  | .release messageId eventId =>
    { desk with registry := desk.registry.release desk.now messageId eventId }
  | .complete messageId eventId =>
    { desk with registry := desk.registry.complete desk.now messageId eventId }
  | .persist moment landed =>
    desk.put moment (landing landed moment fun moment => (desk.registry.persist desk.now moment).2)
  | .claim messageId eventId moment landed =>
    desk.put moment (landing landed moment fun moment =>
      (desk.registry.claim desk.now moment messageId eventId).2)
  | .claimEdit args moment landed =>
    match desk.registry.claimEdit desk.now moment args with
    | (.ok (some cardSeq), registry) =>
      { desk.put moment registry with
        tickets := desk.tickets + 1
        returned := desk.allot args.messageId cardSeq :: desk.returned }
    | _ =>
      desk.put moment (landing landed moment fun moment =>
        (desk.registry.claimEdit desk.now moment args).2)
  | .nextCardSeq call messageId =>
    if (desk.writing.get? call).isSome then desk
    else
      match desk.registry.allocate desk.now messageId with
      | (none, registry) => { desk with registry }
      | (some cardSeq, registry) =>
        { desk with
          registry
          tickets := desk.tickets + 1
          writing := desk.writing.set call (desk.allot messageId cardSeq) }
  | .written call moment landed =>
    match desk.writing.get? call with
    | none => desk
    | some allotment =>
      match desk.registry.persist desk.now moment with
      | (.ok _, registry) =>
        { desk.put moment registry with
          writing := desk.writing.erase call
          returned := allotment :: desk.returned }
      | (.error _, _) =>
        { desk.put moment (landing landed moment fun moment =>
            (desk.registry.persist desk.now moment).2) with
          writing := desk.writing.erase call }
  | .restart now wall readable =>
    { desk with registry := desk.registry.restart wall now readable, now, writing := .empty }
  | .tick lapse => { desk with now := desk.now + lapse }

def numberMachine (registry : CardRegistry) (now : Int) : Machine NumberDesk NumberEvent where
  start := ⟨registry, now, .empty, fun _ => 0, 0, []⟩
  step := numberStep

/-- Both numbers are of one registration of one message. -/
def Allotment.Together (first second : Allotment) : Prop :=
  first.messageId = second.messageId ∧ first.epoch = second.epoch

/-- No number comes twice, and the later one was taken, the larger it is. -/
structure Increasing (returned : List Allotment) : Prop where
  positive : ∀ allotment ∈ returned, 0 < allotment.cardSeq
  once : (returned.map fun allotment =>
    (allotment.messageId, allotment.epoch, allotment.cardSeq)).Nodup
  increasing : ∀ first ∈ returned, ∀ second ∈ returned, first.Together second →
    first.ticket < second.ticket → first.cardSeq < second.cardSeq

/-- The numbers come in the order in which they are returned. -/
def ReturnedInOrder (returned : List Allotment) : Prop :=
  returned.reverse.Pairwise fun first second =>
    first.Together second → first.cardSeq < second.cardSeq

/-- No entry is behind a number that was taken, and no record behind one that was given. -/
structure CardRegistry.Covers (taken given : PyStr → Nat → Prop) (registry : CardRegistry) : Prop where
  named : ∀ messageId entry, registry.entries.get? messageId = some entry →
    entry.session.messageId = messageId
  entries : ∀ messageId entry, registry.entries.get? messageId = some entry →
    ∀ cardSeq, taken messageId cardSeq → cardSeq ≤ entry.cardSeq
  records : ∀ records, registry.persistence = some records → ∀ record ∈ records,
    ∀ cardSeq, given record.session.messageId cardSeq → cardSeq ≤ record.cardSeq

variable {taken given fewer less : PyStr → Nat → Prop} {registry other : CardRegistry}
  {messageId : PyStr} {entry : CardEntry} {now wall : Int} {moment : Moment}

namespace CardRegistry

theorem Covers.mono (covers : registry.Covers taken given)
    (taking : ∀ messageId cardSeq, fewer messageId cardSeq → taken messageId cardSeq)
    (giving : ∀ messageId cardSeq, less messageId cardSeq → given messageId cardSeq) :
    registry.Covers fewer less where
  named := covers.named
  entries messageId entry found cardSeq known :=
    covers.entries messageId entry found cardSeq (taking messageId cardSeq known)
  records records stored record member cardSeq known :=
    covers.records records stored record member cardSeq (giving _ cardSeq known)

/-- What the entries cover, a store that is written from them covers as well. -/
theorem Covers.written (covers : registry.Covers taken given) :
    { registry with persistence := some registry.records }.Covers taken taken where
  named := covers.named
  entries := covers.entries
  records records stored record member cardSeq known := by
    cases stored
    obtain ⟨⟨name, entry⟩, present, kept⟩ := List.mem_filterMap.mp member
    have found := (Dict.mem_entries_iff _ name entry).mp present
    cases toRecord_some kept
    rw [covers.named name entry found] at known
    exact covers.entries name entry found cardSeq known

theorem closed_covers (returned : ∀ messageId cardSeq, given messageId cardSeq →
    taken messageId cardSeq) :
    Closed (Covers taken given) fun messageId entry =>
      entry.session.messageId = messageId ∧
        ∀ cardSeq, taken messageId cardSeq → cardSeq ≤ entry.cardSeq where
  known registry messageId entry covers found :=
    ⟨covers.named messageId entry found, covers.entries messageId entry found⟩
  put registry messageId entry covers known := by
    refine ⟨?_, ?_, covers.records⟩
    · intro other found present
      rw [CardRegistry.put, Dict.get?_set] at present
      split at present
      · rename_i same
        cases present
        exact same ▸ known.1
      · exact covers.named other found present
    · intro other found present
      rw [CardRegistry.put, Dict.get?_set] at present
      split at present
      · rename_i same
        cases present
        exact same ▸ known.2
      · exact covers.entries other found present
  filter registry keep covers := by
    have present : ∀ messageId entry,
        (registry.entries.filterKeys keep).get? messageId = some entry →
          registry.entries.get? messageId = some entry := by
      intro messageId entry found
      rw [Dict.get?_filterKeys] at found
      split at found
      · exact found
      · cases found
    exact ⟨fun messageId entry found => covers.named messageId entry (present messageId entry found),
      fun messageId entry found => covers.entries messageId entry (present messageId entry found),
      covers.records⟩
  write registry covers _ := covers.written.mono (fun _ _ known => known) returned
  claimed _ _ _ known := known
  edited _ _ known := ⟨known.1, fun cardSeq number => Nat.le_succ_of_le (known.2 cardSeq number)⟩
  released _ _ known := known
  completed _ _ known := known

/-- A store write that succeeds catches the store up with the entries. -/
theorem Covers.persisted (covers : registry.Covers taken given)
    (returned : ∀ messageId cardSeq, given messageId cardSeq → taken messageId cardSeq)
    (wrote : registry.persist now moment = (.ok (), other)) : other.Covers taken taken := by
  unfold persist at wrote
  split at wrote
  · rename_i detached
    cases wrote
    refine ⟨covers.named, covers.entries, ?_⟩
    intro records stored
    cases detached.symm.trans stored
  · have pruned := (closed_covers returned).prune covers (now + moment.lapse)
    dsimp only at wrote
    split at wrote
    · cases wrote
    · cases wrote
      exact pruned.written

theorem Covers.landing {call : Moment → CardRegistry} (landed : Bool)
    (covers : ∀ moment, (call moment).Covers taken given) :
    (Cards.landing landed moment call).Covers taken given := by
  unfold Cards.landing
  split
  · exact ⟨(covers moment).named, (covers moment).entries, (covers _).records⟩
  · exact covers moment

/-- An edit that is claimed takes the next number of its entry and writes the store. -/
private theorem claimEdit_some {args : EditArgs} {cardSeq : Nat}
    (claimed : registry.claimEdit now moment args = (.ok (some cardSeq), other)) :
    ∃ entry, registry.entries.get? args.messageId = some entry ∧ cardSeq = entry.cardSeq + 1 ∧
      (registry.put args.messageId (editedBy entry)).persist now moment = (.ok (), other) := by
  rcases looked : registry.entryLocked now args.messageId with ⟨found, rest⟩
  unfold claimEdit at claimed
  rw [looked] at claimed
  cases found with
  | none => cases claimed
  | some entry =>
    obtain ⟨present, -, unchanged⟩ := entryLocked_some (congrArg Prod.fst looked)
    rw [looked] at unchanged
    dsimp only at unchanged claimed
    subst unchanged
    split at claimed
    · cases claimed
    · split at claimed
      · cases claimed
      · rename_i wrote
        cases claimed
        exact ⟨entry, present, rfl, wrote⟩

end CardRegistry

namespace NumberDesk

/-- The number was returned, or its call is still writing the store. -/
def Known (desk : NumberDesk) (allotment : Allotment) : Prop :=
  allotment ∈ desk.returned ∨ ∃ call, desk.writing.get? call = some allotment

def Current (desk : NumberDesk) (allotment : Allotment) (messageId : PyStr) (cardSeq : Nat) : Prop :=
  allotment.messageId = messageId ∧ allotment.epoch = desk.epochs messageId ∧
    allotment.cardSeq = cardSeq

/-- Numbers of the present registration that were returned. -/
def Given (desk : NumberDesk) (messageId : PyStr) (cardSeq : Nat) : Prop :=
  ∃ allotment ∈ desk.returned, desk.Current allotment messageId cardSeq

/-- Numbers of the present registration that were returned or may still be. -/
def Taken (desk : NumberDesk) (messageId : PyStr) (cardSeq : Nat) : Prop :=
  ∃ allotment, desk.Known allotment ∧ desk.Current allotment messageId cardSeq

structure Numbered (desk : NumberDesk) : Prop where
  covers : desk.registry.Covers desk.Taken desk.Given
  positive : ∀ allotment, desk.Known allotment → 0 < allotment.cardSeq
  increasing : ∀ first second, desk.Known first → desk.Known second → first.Together second →
    first.ticket < second.ticket → first.cardSeq < second.cardSeq
  ticketed : ∀ allotment, desk.Known allotment → allotment.ticket < desk.tickets
  past : ∀ allotment, desk.Known allotment → allotment.epoch ≤ desk.epochs allotment.messageId
  once : (desk.returned.map Allotment.ticket).Nodup
  waiting : ∀ call allotment, desk.writing.get? call = some allotment →
    ∀ earlier ∈ desk.returned, earlier.ticket ≠ allotment.ticket
  apart : ∀ call other first second, desk.writing.get? call = some first →
    desk.writing.get? other = some second → first.ticket = second.ticket → call = other

variable {desk after : NumberDesk} {call : Nat} {allotment : Allotment}

theorem Given.isTaken (messageId : PyStr) (cardSeq : Nat) (given : desk.Given messageId cardSeq) :
    desk.Taken messageId cardSeq := by
  obtain ⟨allotment, member, current⟩ := given
  exact ⟨allotment, .inl member, current⟩

/-- What a step may do that takes no number: it forgets calls, and may return one. -/
structure Settles (desk after : NumberDesk) : Prop where
  known : ∀ allotment, after.Known allotment → desk.Known allotment
  epochs : ∀ messageId, desk.epochs messageId ≤ after.epochs messageId
  tickets : after.tickets = desk.tickets

theorem Numbered.settles (numbered : desk.Numbered) (settles : desk.Settles after)
    (covers : after.registry.Covers after.Taken after.Given)
    (once : (after.returned.map Allotment.ticket).Nodup)
    (waiting : ∀ call allotment, after.writing.get? call = some allotment →
      desk.writing.get? call = some allotment ∧
        ∀ earlier ∈ after.returned, earlier.ticket ≠ allotment.ticket) : after.Numbered where
  covers := covers
  positive allotment known := numbered.positive allotment (settles.known allotment known)
  increasing first second known rival :=
    numbered.increasing first second (settles.known first known) (settles.known second rival)
  ticketed allotment known := settles.tickets ▸ numbered.ticketed allotment (settles.known allotment known)
  past allotment known :=
    (numbered.past allotment (settles.known allotment known)).trans (settles.epochs _)
  once := once
  waiting call allotment found := (waiting call allotment found).2
  apart call other first second found rival :=
    numbered.apart call other first second (waiting call first found).1 (waiting other second rival).1

/-- A step that only changes the registry. -/
theorem Numbered.withRegistry (numbered : desk.Numbered) {registry : CardRegistry}
    (covers : registry.Covers desk.Taken desk.Given) (now : Int) :
    { desk with registry, now }.Numbered :=
  { numbered with covers }

/-- A registration or a discard begins anew. -/
theorem Numbered.renew (numbered : desk.Numbered) {registry : CardRegistry} {messageId : PyStr}
    (covers : registry.Covers (desk.renew messageId registry).Taken
      (desk.renew messageId registry).Given) : (desk.renew messageId registry).Numbered := by
  have settles : desk.Settles (desk.renew messageId registry) := by
    refine ⟨fun _ known => known, fun other => ?_, rfl⟩
    show _ ≤ if other = messageId then desk.epochs other + 1 else desk.epochs other
    split
    · exact Nat.le_succ _
    · exact Nat.le_refl _
  exact numbered.settles settles covers numbered.once
    fun call allotment found => ⟨found, numbered.waiting call allotment found⟩

/-- Under a new registration no number has been taken. -/
theorem Numbered.current_renew (numbered : desk.Numbered) {registry : CardRegistry}
    {messageId other : PyStr} {cardSeq : Nat} (known : desk.Known allotment)
    (current : (desk.renew messageId registry).Current allotment other cardSeq) :
    other ≠ messageId ∧ desk.Current allotment other cardSeq := by
  obtain ⟨name, epoch, number⟩ := current
  have past := numbered.past allotment known
  dsimp only [NumberDesk.renew] at epoch
  by_cases same : other = messageId
  · rw [if_pos same] at epoch
    rw [name] at past
    omega
  · rw [if_neg same] at epoch
    exact ⟨same, name, epoch, number⟩

theorem Numbered.covers_renew (numbered : desk.Numbered) (messageId : PyStr)
    (registry : CardRegistry) :
    desk.registry.Covers (desk.renew messageId registry).Taken
      (desk.renew messageId registry).Given := by
  apply numbered.covers.mono
  · rintro other cardSeq ⟨allotment, known, current⟩
    exact ⟨allotment, known, (numbered.current_renew known current).2⟩
  · rintro other cardSeq ⟨allotment, member, current⟩
    exact ⟨allotment, member, (numbered.current_renew (.inl member) current).2⟩

/-- What is new in the desk is the next number of a message. -/
structure Takes (desk after : NumberDesk) (messageId : PyStr) (cardSeq : Nat) : Prop where
  known : ∀ allotment, after.Known allotment →
    desk.Known allotment ∨ allotment = desk.allot messageId cardSeq
  epochs : after.epochs = desk.epochs
  tickets : after.tickets = desk.tickets + 1

theorem Takes.isTaken {messageId : PyStr} {next : Nat} (takes : desk.Takes after messageId next)
    (other : PyStr) (cardSeq : Nat) (taken : after.Taken other cardSeq) :
    desk.Taken other cardSeq ∨ other = messageId ∧ cardSeq = next := by
  obtain ⟨allotment, known, name, epoch, number⟩ := taken
  rcases takes.known allotment known with old | new
  · exact .inl ⟨allotment, old, name, takes.epochs ▸ epoch, number⟩
  · subst new
    exact .inr ⟨name.symm, number.symm⟩

theorem Numbered.takes {messageId : PyStr} {entry : CardEntry} (numbered : desk.Numbered)
    (present : desk.registry.entries.get? messageId = some entry)
    (takes : desk.Takes after messageId (entry.cardSeq + 1))
    (covers : after.registry.Covers after.Taken after.Given)
    (once : (after.returned.map Allotment.ticket).Nodup)
    (waiting : ∀ call allotment, after.writing.get? call = some allotment →
      ∀ earlier ∈ after.returned, earlier.ticket ≠ allotment.ticket)
    (apart : ∀ call other first second, after.writing.get? call = some first →
      after.writing.get? other = some second → first.ticket = second.ticket → call = other) :
    after.Numbered where
  covers := covers
  positive allotment known := by
    rcases takes.known allotment known with earlier | new
    · exact numbered.positive allotment earlier
    · subst new
      exact Nat.succ_pos _
  increasing first second known rival := by
    rintro ⟨name, epoch⟩ before
    rcases takes.known first known with old | new
    · rcases takes.known second rival with other | new
      · exact numbered.increasing first second old other ⟨name, epoch⟩ before
      · subst new
        have covered := numbered.covers.entries messageId entry present first.cardSeq
          ⟨first, old, name, epoch, rfl⟩
        exact Nat.lt_succ_of_le covered
    · subst new
      rcases takes.known second rival with old | new
      · have bound := numbered.ticketed second old
        exact absurd before (Nat.lt_asymm bound)
      · subst new
        exact absurd before (Nat.lt_irrefl _)
  ticketed allotment known := by
    rw [takes.tickets]
    rcases takes.known allotment known with old | new
    · exact Nat.lt_succ_of_lt (numbered.ticketed allotment old)
    · subst new
      exact Nat.lt_succ_self _
  past allotment known := by
    rw [takes.epochs]
    rcases takes.known allotment known with old | new
    · exact numbered.past allotment old
    · subst new
      exact Nat.le_refl _
  once := once
  waiting := waiting
  apart := apart

/-- The entry with the next number covers what was taken before and the new number. -/
theorem Numbered.covers_put {messageId : PyStr} {entry new : CardEntry} (numbered : desk.Numbered)
    (present : desk.registry.entries.get? messageId = some entry)
    (session : new.session = entry.session) (number : new.cardSeq = entry.cardSeq + 1) :
    (desk.registry.put messageId new).Covers
      (fun other cardSeq => desk.Taken other cardSeq ∨
        other = messageId ∧ cardSeq = entry.cardSeq + 1) desk.Given where
  named other found stored := by
    rw [CardRegistry.put, Dict.get?_set] at stored
    split at stored
    · rename_i same
      cases stored
      rw [session]
      exact same ▸ numbered.covers.named messageId entry present
    · exact numbered.covers.named other found stored
  entries other found stored cardSeq taken := by
    rw [CardRegistry.put, Dict.get?_set] at stored
    split at stored
    · rename_i same
      subst same
      cases stored
      rw [number]
      rcases taken with old | ⟨-, next⟩
      · exact Nat.le_succ_of_le (numbered.covers.entries messageId entry present cardSeq old)
      · exact next.le
    · rename_i different
      rcases taken with old | ⟨same, -⟩
      · exact numbered.covers.entries other found stored cardSeq old
      · exact absurd same.symm different
  records := numbered.covers.records

private theorem numbered_register (numbered : desk.Numbered) (session : CardSession) (wall : Int) :
    (numberStep desk (.register session wall)).Numbered := by
  rcases shape : desk.registry.enroll desk.now wall session with ⟨outcome, registry⟩
  simp only [numberStep, shape]
  cases outcome with
  | error error =>
    have closed := CardRegistry.closed_covers (@Given.isTaken desk)
    have kept := @CardRegistry.Closed.enroll _ _ _ closed numbered.covers desk.now wall session
      fun accepted => by rw [shape] at accepted; cases accepted
    rw [shape] at kept
    exact numbered.withRegistry kept desk.now
  | ok accepted =>
    apply numbered.renew
    have closed := CardRegistry.closed_covers (@Given.isTaken (desk.renew session.messageId registry))
    have kept := @CardRegistry.Closed.enroll _ _ _ closed
      (numbered.covers_renew session.messageId registry) desk.now wall session fun _ => by
        refine ⟨rfl, ?_⟩
        rintro cardSeq ⟨allotment, known, current⟩
        exact absurd rfl (numbered.current_renew known current).1
    rw [shape] at kept
    exact kept

private theorem numbered_claimEdit (numbered : desk.Numbered) (args : EditArgs) (moment : Moment)
    (landed : Bool) : (numberStep desk (.claimEdit args moment landed)).Numbered := by
  have closed := CardRegistry.closed_covers (@Given.isTaken desk)
  have failed : (desk.put moment (landing landed moment fun moment =>
      (desk.registry.claimEdit desk.now moment args).2)).Numbered :=
    numbered.withRegistry
      (.landing landed fun moment => closed.claimEdit numbered.covers desk.now moment args) _
  rcases shape : desk.registry.claimEdit desk.now moment args with ⟨outcome, registry⟩
  simp only [numberStep, shape]
  cases outcome with
  | error error => exact failed
  | ok claimed =>
    cases claimed with
    | none => exact failed
    | some cardSeq =>
      obtain ⟨entry, present, next, wrote⟩ := CardRegistry.claimEdit_some shape
      subst next
      have takes : desk.Takes
          { desk.put moment registry with
            tickets := desk.tickets + 1
            returned := desk.allot args.messageId (entry.cardSeq + 1) :: desk.returned }
          args.messageId (entry.cardSeq + 1) := by
        refine ⟨?_, rfl, rfl⟩
        rintro allotment (member | waits)
        · rcases List.mem_cons.mp member with new | old
          · exact .inr new
          · exact .inl (.inl old)
        · exact .inl (.inr waits)
      apply numbered.takes present takes
      · have put := @Numbered.covers_put desk _ _ (CardRegistry.editedBy entry) numbered present rfl rfl
        have written := put.persisted
          (fun other cardSeq given => .inl (Given.isTaken other cardSeq given)) wrote
        exact written.mono takes.isTaken fun other cardSeq given =>
          takes.isTaken other cardSeq (Given.isTaken other cardSeq given)
      · refine List.nodup_cons.mpr ⟨?_, numbered.once⟩
        intro member
        obtain ⟨earlier, old, same⟩ := List.mem_map.mp member
        exact absurd same (Nat.ne_of_lt (numbered.ticketed earlier (.inl old)))
      · intro call allotment found earlier member
        rcases List.mem_cons.mp member with new | old
        · subst new
          exact (Nat.ne_of_lt (numbered.ticketed allotment (.inr ⟨call, found⟩))).symm
        · exact numbered.waiting call allotment found earlier old
      · exact numbered.apart

private theorem numbered_nextCardSeq (numbered : desk.Numbered) (call : Nat) (messageId : PyStr) :
    (numberStep desk (.nextCardSeq call messageId)).Numbered := by
  by_cases busy : (desk.writing.get? call).isSome = true
  · simp only [numberStep, busy, if_true]
    exact numbered
  rcases shape : desk.registry.allocate desk.now messageId with ⟨allocated, registry⟩
  simp only [numberStep, busy, shape, Bool.false_eq_true, if_false]
  cases allocated with
  | none =>
    have closed := CardRegistry.closed_covers (@Given.isTaken desk)
    have kept := closed.entryLocked numbered.covers desk.now messageId
    rw [← CardRegistry.allocate_none shape] at kept
    exact numbered.withRegistry kept desk.now
  | some cardSeq =>
    obtain ⟨entry, present, next, put⟩ := CardRegistry.allocate_some shape
    subst next put
    have found : ∀ other allotment,
        (desk.writing.set call (desk.allot messageId (entry.cardSeq + 1))).get? other = some allotment →
          other = call ∧ allotment = desk.allot messageId (entry.cardSeq + 1) ∨
            desk.writing.get? other = some allotment := by
      intro other allotment stored
      rw [Dict.get?_set] at stored
      split at stored
      · rename_i same
        exact .inl ⟨same.symm, (Option.some.inj stored).symm⟩
      · exact .inr stored
    have takes : desk.Takes
        { desk with
          registry := desk.registry.put messageId { entry with cardSeq := entry.cardSeq + 1 }
          tickets := desk.tickets + 1
          writing := desk.writing.set call (desk.allot messageId (entry.cardSeq + 1)) }
        messageId (entry.cardSeq + 1) := by
      refine ⟨?_, rfl, rfl⟩
      rintro allotment (member | ⟨other, stored⟩)
      · exact .inl (.inl member)
      · rcases found other allotment stored with ⟨-, new⟩ | old
        · exact .inr new
        · exact .inl (.inr ⟨other, old⟩)
    apply numbered.takes present takes
    · have put := @Numbered.covers_put desk _ _ { entry with cardSeq := entry.cardSeq + 1 } numbered
        present rfl rfl
      exact put.mono takes.isTaken fun _ _ given => given
    · exact numbered.once
    · intro other allotment stored earlier member
      rcases found other allotment stored with ⟨-, new⟩ | old
      · subst new
        exact Nat.ne_of_lt (numbered.ticketed earlier (.inl member))
      · exact numbered.waiting other allotment old earlier member
    · intro one other first second stored beside same
      rcases found one first stored with ⟨here, new⟩ | old
      · rcases found other second beside with ⟨there, -⟩ | waits
        · rw [here, there]
        · subst new
          exact absurd same (Nat.ne_of_gt (numbered.ticketed second (.inr ⟨other, waits⟩)))
      · rcases found other second beside with ⟨-, new⟩ | waits
        · subst new
          exact absurd same (Nat.ne_of_lt (numbered.ticketed first (.inr ⟨one, old⟩)))
        · exact numbered.apart one other first second old waits same

private theorem numbered_written (numbered : desk.Numbered) (call : Nat) (moment : Moment)
    (landed : Bool) :
    (numberStep desk (.written call moment landed)).Numbered := by
  cases waits : desk.writing.get? call with
  | none =>
    simp only [numberStep, waits]
    exact numbered
  | some allotment =>
    have left : ∀ other waiting, (desk.writing.erase call).get? other = some waiting →
        other ≠ call ∧ desk.writing.get? other = some waiting := by
      intro other waiting stored
      rw [Dict.get?_erase] at stored
      split at stored
      · cases stored
      · rename_i different
        exact ⟨Ne.symm different, stored⟩
    rcases shape : desk.registry.persist desk.now moment with ⟨outcome, registry⟩
    simp only [numberStep, waits, shape]
    cases outcome with
    | error error =>
      have closed := CardRegistry.closed_covers (@Given.isTaken desk)
      have settles : desk.Settles
          { desk.put moment (landing landed moment fun moment =>
              (desk.registry.persist desk.now moment).2) with
            writing := desk.writing.erase call } := by
        refine ⟨?_, fun _ => Nat.le_refl _, rfl⟩
        rintro known (member | ⟨other, stored⟩)
        · exact .inl member
        · exact .inr ⟨other, (left other known stored).2⟩
      apply numbered.settles settles
      · have covers := @CardRegistry.Covers.landing _ _ moment _ landed
          fun moment => closed.persist numbered.covers desk.now moment
        apply covers.mono
        · rintro messageId cardSeq ⟨known, member, current⟩
          exact ⟨known, settles.known known member, current⟩
        · exact fun _ _ given => given
      · exact numbered.once
      · intro other waiting stored
        have old := (left other waiting stored).2
        exact ⟨old, numbered.waiting other waiting old⟩
    | ok value =>
      have settles : desk.Settles
          { desk.put moment registry with
            writing := desk.writing.erase call
            returned := allotment :: desk.returned } := by
        refine ⟨?_, fun _ => Nat.le_refl _, rfl⟩
        rintro known (member | ⟨other, stored⟩)
        · rcases List.mem_cons.mp member with new | old
          · subst new
            exact .inr ⟨call, waits⟩
          · exact .inl old
        · exact .inr ⟨other, (left other known stored).2⟩
      have taken : ∀ messageId cardSeq, NumberDesk.Taken
          { desk.put moment registry with
            writing := desk.writing.erase call
            returned := allotment :: desk.returned } messageId cardSeq →
              desk.Taken messageId cardSeq := by
        rintro messageId cardSeq ⟨known, member, current⟩
        exact ⟨known, settles.known known member, current⟩
      apply numbered.settles settles
      · have written := numbered.covers.persisted Given.isTaken shape
        exact written.mono taken fun messageId cardSeq given =>
          taken messageId cardSeq (Given.isTaken messageId cardSeq given)
      · refine List.nodup_cons.mpr ⟨?_, numbered.once⟩
        intro member
        obtain ⟨earlier, old, same⟩ := List.mem_map.mp member
        exact numbered.waiting call allotment waits earlier old same
      · intro other waiting stored
        obtain ⟨different, old⟩ := left other waiting stored
        refine ⟨old, fun earlier member => ?_⟩
        rcases List.mem_cons.mp member with new | before
        · subst new
          exact fun same => different (numbered.apart other call waiting earlier old waits same.symm)
        · exact numbered.waiting other waiting old earlier before

/-- A restart forgets the calls under way, and the entries that come back cover what was
returned. -/
private theorem numbered_restart (numbered : desk.Numbered) (now wall : Int) (readable : Bool) :
    (numberStep desk (.restart now wall readable)).Numbered := by
  have settles : desk.Settles (numberStep desk (.restart now wall readable)) := by
    refine ⟨?_, fun _ => Nat.le_refl _, rfl⟩
    rintro known (member | ⟨call, none⟩)
    · exact .inl member
    · cases none
  have given : ∀ messageId cardSeq,
      (numberStep desk (.restart now wall readable)).Taken messageId cardSeq →
        desk.Given messageId cardSeq := by
    rintro messageId cardSeq ⟨known, member | ⟨call, none⟩, current⟩
    · exact ⟨known, member, current⟩
    · cases none
  apply numbered.settles settles
  · have closed := @CardRegistry.closed_covers desk.Given desk.Given fun _ _ given => given
    have emptied : { desk.registry with entries := .empty }.Covers desk.Given desk.Given :=
      ⟨fun _ _ none => (by cases none), fun _ _ none => (by cases none), numbered.covers.records⟩
    have restored : (desk.registry.restart wall now readable).Covers desk.Given desk.Given := by
      apply CardRegistry.restart_preserves emptied
      intro _ other covers records stored record member entry read
      obtain ⟨-, -, -, same⟩ := toEntry_some read
      subst same
      apply closed.put other _ _ covers
      exact ⟨rfl, numbered.covers.records records stored record member⟩
    exact restored.mono given fun messageId cardSeq known => given messageId cardSeq (Given.isTaken _ _ known)
  · exact numbered.once
  · intro call allotment none
    cases none

private theorem numbered_step (desk : NumberDesk) (event : NumberEvent) (numbered : desk.Numbered) :
    (numberStep desk event).Numbered := by
  have closed := CardRegistry.closed_covers (@Given.isTaken desk)
  cases event with
  | register session wall => exact numbered_register numbered session wall
  | discard messageId =>
    have closed := CardRegistry.closed_covers
      (@Given.isTaken (desk.renew messageId (desk.registry.drop messageId)))
    exact numbered.renew (closed.drop (numbered.covers_renew messageId _) messageId)
  | release messageId eventId =>
    exact numbered.withRegistry (closed.release numbered.covers _ _ _) desk.now
  | complete messageId eventId =>
    exact numbered.withRegistry (closed.complete numbered.covers _ _ _) desk.now
  | persist moment landed =>
    exact numbered.withRegistry
      (.landing landed fun moment => closed.persist numbered.covers desk.now moment) _
  | claim messageId eventId moment landed =>
    exact numbered.withRegistry
      (.landing landed fun moment => closed.claim numbered.covers desk.now moment _ _) _
  | claimEdit args moment landed => exact numbered_claimEdit numbered args moment landed
  | nextCardSeq call messageId => exact numbered_nextCardSeq numbered call messageId
  | written call moment landed => exact numbered_written numbered call moment landed
  | restart now wall readable => exact numbered_restart numbered now wall readable
  | tick lapse => exact numbered.withRegistry numbered.covers _

end NumberDesk

private theorem numbered_start (maxSessions : Nat) (ttlSeconds : Int) (maxDispatchAttempts : Nat)
    (persistence : Option (List CardRecord)) (now : Int) :
    (numberMachine (.new maxSessions ttlSeconds maxDispatchAttempts persistence) now).start.Numbered := by
  have unknown : ∀ allotment, ¬ (numberMachine (.new maxSessions ttlSeconds maxDispatchAttempts
      persistence) now).start.Known allotment := by
    rintro allotment (none | ⟨call, none⟩)
    · cases none
    · cases none
  constructor
  · refine ⟨fun _ _ none => (by cases none), fun _ _ none => (by cases none), ?_⟩
    rintro records _ record _ cardSeq ⟨allotment, none, _⟩
    cases none
  · exact fun allotment known => absurd known (unknown allotment)
  · exact fun first _ known => absurd known (unknown first)
  · exact fun allotment known => absurd known (unknown allotment)
  · exact fun allotment known => absurd known (unknown allotment)
  · exact List.nodup_nil
  · exact fun _ _ none => (by cases none)
  · exact fun _ _ _ _ none => (by cases none)

/-- The numbers that are returned under one registration of a message are positive, come
once, and are larger the later they were taken, whatever the threads, the store and the
restarts do. -/
theorem numbers_increasing (maxSessions : Nat) (ttlSeconds : Int) (maxDispatchAttempts : Nat)
    (persistence : Option (List CardRecord)) (now : Int) (events : List NumberEvent) :
    Increasing ((numberMachine
      (.new maxSessions ttlSeconds maxDispatchAttempts persistence) now).run events).returned := by
  have numbered := Machine.invariant_of_steps
    (numbered_start maxSessions ttlSeconds maxDispatchAttempts persistence now)
    NumberDesk.numbered_step events
  have increasing := fun first member second other =>
    numbered.increasing first second (.inl member) (.inl other)
  refine ⟨fun allotment member => numbered.positive allotment (.inl member), ?_, increasing⟩
  apply List.Nodup.map_on _ numbered.once.of_map
  intro first member second other same
  simp only [Prod.mk.injEq] at same
  obtain ⟨name, epoch, number⟩ := same
  -- Numbers of one registration that are equal can only be of one call.
  rcases Nat.lt_trichotomy first.ticket second.ticket with before | equal | behind
  · exact absurd number (Nat.ne_of_lt (increasing first member second other ⟨name, epoch⟩ before))
  · exact List.inj_on_of_nodup_map numbered.once member other equal
  · exact absurd number.symm
      (Nat.ne_of_lt (increasing second other first member ⟨name.symm, epoch.symm⟩ behind))

/-- Two calls side by side can return their numbers the other way round. -/
theorem returned_out_of_order :
    let session : CardSession := ⟨py "m", py "b", py "k", py "c", py "c", .DM, py "u", .null, [], [],
      [], [], none, none, none, py "interactive"⟩
    ¬ ReturnedInOrder ((numberMachine (.new 4 100 3 (some [])) 0).run
      [.register session 0, .nextCardSeq 0 (py "m"), .nextCardSeq 1 (py "m"),
        .written 1 ⟨0, none⟩ false, .written 0 ⟨0, none⟩ false]).returned := by
  intro session ordered
  have returned : ((numberMachine (.new 4 100 3 (some [])) 0).run
      [.register session 0, .nextCardSeq 0 (py "m"), .nextCardSeq 1 (py "m"),
        .written 1 ⟨0, none⟩ false, .written 0 ⟨0, none⟩ false]).returned =
      [⟨py "m", 1, 0, 1⟩, ⟨py "m", 1, 1, 2⟩] := by rfl
  rw [returned] at ordered
  have less : 2 < 1 := (List.pairwise_cons.mp ordered).1 ⟨py "m", 1, 0, 1⟩ (by simp) ⟨rfl, rfl⟩
  omega

end OctoChannel.Cards
