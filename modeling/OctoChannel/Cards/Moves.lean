import OctoChannel.Cards.Dispatch

namespace OctoChannel.Cards

open Foundation

/-- The desk after an event. An event that its run does not wait for is idle. -/
inductive CardMove (desk : CardDesk) : CardEvent → CardDesk → Prop where
  | idle (event : CardEvent) : CardMove desk event desk
  | missed {run : Nat} {action : CardAction} {moment : Moment} (free : desk.runs.get? run = none)
      (shrinks : desk.registry.Shrinks
        (desk.registry.claim desk.now moment action.messageId action.eventId).2) :
      CardMove desk (.press run action moment) (desk.claimed moment
        (desk.registry.claim desk.now moment action.messageId action.eventId).2)
  | claimed {run : Nat} {action : CardAction} {moment : Moment} {entry : CardEntry}
      {registry : CardRegistry} (free : desk.runs.get? run = none)
      (claims : desk.Claims action moment entry registry)
      (matched : actionMatchesSession action entry.session = .ok true) :
      CardMove desk (.press run action moment) ((desk.claimed moment registry).setRun run
        (.press action (.updating entry.session
          (CardRegistry.claimedBy entry action.eventId).dispatchAttempts)))
  | gaveBack {run : Nat} {action : CardAction} {moment : Moment} {entry : CardEntry}
      {registry : CardRegistry} (free : desk.runs.get? run = none)
      (claims : desk.Claims action moment entry registry) (after : AfterStore) :
      CardMove desk (.press run action moment)
        (((desk.claimed moment registry).pressRelease action).setRun run
          (.press action (.storing after)))
  | statusUpdated {run : Nat} {action : CardAction} {session : CardSession} {attempts : Int}
      (found : desk.runs.get? run = some (.press action (.updating session attempts))) :
      CardMove desk (.statusUpdated run)
        (desk.setRun run (.press action (.dispatching session attempts)))
  | accepted {run : Nat} {action : CardAction} {session : CardSession} {attempts : Int}
      {accepted : Accepted}
      (found : desk.runs.get? run = some (.press action (.dispatching session attempts)))
      (terminal : accepted.terminalStatus ∈ terminalStatuses) :
      CardMove desk (.dispatchReturns run accepted)
        ({ desk.pressComplete action with
            history.accepted := action.messageId :: desk.history.accepted }.setRun run
          (.press action (.storing (.reports accepted.terminalStatus))))
  | refused {run : Nat} {action : CardAction} {session : CardSession} {attempts : Int}
      {accepted : Accepted}
      (found : desk.runs.get? run = some (.press action (.dispatching session attempts)))
      (open' : accepted.terminalStatus ∉ terminalStatuses) :
      CardMove desk (.dispatchReturns run accepted)
        ((desk.pressRelease action).setRun run
          (.press action (.storing (.reports (py "ignored")))))
  | deadLetter {run : Nat} {action : CardAction} {session : CardSession} {attempts : Int}
      (found : desk.runs.get? run = some (.press action (.dispatching session attempts)))
      (last : desk.registry.maxDispatchAttempts ≤ attempts) :
      CardMove desk (.dispatchRaises run)
        ((desk.pressComplete action).setRun run
          (.press action (.storing (.reports (py "dead_letter")))))
  | raised {run : Nat} {action : CardAction} {session : CardSession} {attempts : Int}
      (found : desk.runs.get? run = some (.press action (.dispatching session attempts)))
      (early : ¬ desk.registry.maxDispatchAttempts ≤ attempts) :
      CardMove desk (.dispatchRaises run)
        ((desk.pressRelease action).setRun run (.press action (.storing .reraises)))
  | updateCancelled {run : Nat} {action : CardAction} {session : CardSession} {attempts : Int}
      (found : desk.runs.get? run = some (.press action (.updating session attempts))) :
      CardMove desk (.cancel run)
        ((desk.pressRelease action).setRun run (.press action (.storing .reraises)))
  | dispatchCancelled {run : Nat} {action : CardAction} {session : CardSession} {attempts : Int}
      (found : desk.runs.get? run = some (.press action (.dispatching session attempts))) :
      CardMove desk (.cancel run)
        ((desk.pressRelease action).setRun run (.press action (.storing .reraises)))
  | reportCancelled {run : Nat} {action : CardAction} {result : PyStr}
      (found : desk.runs.get? run = some (.press action (.reporting result))) :
      CardMove desk (.cancel run) (desk.endRun run)
  | stored {run : Nat} {action : CardAction} {after : AfterStore} {moment : Moment} {result : PyStr}
      (found : desk.runs.get? run = some (.press action (.storing after))) :
      CardMove desk (.stored run moment)
        ((desk.claimed moment (desk.registry.persist desk.now moment).2).setRun run
          (.press action (.reporting result)))
  | unreported {run : Nat} {action : CardAction} {after : AfterStore} {moment : Moment}
      (found : desk.runs.get? run = some (.press action (.storing after))) :
      CardMove desk (.stored run moment)
        ((desk.claimed moment (desk.registry.persist desk.now moment).2).endRun run)
  | reported {run : Nat} {action : CardAction} {result : PyStr}
      (found : desk.runs.get? run = some (.press action (.reporting result))) :
      CardMove desk (.reported run) (desk.endRun run)
  | editMissed {run : Nat} {args : EditArgs} {final : Bool} {moment : Moment}
      (free : desk.runs.get? run = none)
      (shrinks : desk.registry.Shrinks (desk.registry.claimEdit desk.now moment args).2) :
      CardMove desk (.edit run args final moment)
        (desk.claimed moment (desk.registry.claimEdit desk.now moment args).2)
  | editClaimed {run : Nat} {args : EditArgs} {final : Bool} {moment : Moment} {entry : CardEntry}
      (free : desk.runs.get? run = none)
      (present : desk.registry.entries.get? args.messageId = some entry)
      (pending : entry.state = .pending)
      (changes : desk.registry.Changes (desk.registry.claimEdit desk.now moment args).2
        args.messageId (CardRegistry.editedBy entry)) :
      CardMove desk (.edit run args final moment)
        ((desk.claimed moment (desk.registry.claimEdit desk.now moment args).2).setRun run
          (.edit args.messageId (entry.cardSeq + 1) (.editing final)))
  | editCompleted {run : Nat} {messageId : PyStr} {cardSeq : Nat}
      (found : desk.runs.get? run = some (.edit messageId cardSeq (.editing true))) :
      CardMove desk (.edited run)
        ({ desk.complete messageId (-(cardSeq : Int)) with
            history.editCompleted := messageId :: desk.history.editCompleted }.setRun run
          (.edit messageId cardSeq (.storing false)))
  | editReleased {run : Nat} {messageId : PyStr} {cardSeq : Nat} {phase : EditPhase} {closes : Bool}
      {event : CardEvent} (found : desk.runs.get? run = some (.edit messageId cardSeq phase)) :
      CardMove desk event ((desk.release messageId (-(cardSeq : Int))).setRun run
        (.edit messageId cardSeq (.storing closes)))
  | editStored {run : Nat} {messageId : PyStr} {cardSeq : Nat} {closes failed : Bool}
      {moment : Moment} (found : desk.runs.get? run = some (.edit messageId cardSeq (.storing closes))) :
      CardMove desk (.stored run moment)
        ((desk.claimed moment (desk.registry.persist desk.now moment).2).setRun run
          (.edit messageId cardSeq (.closing failed)))
  | editLeft {run : Nat} {messageId : PyStr} {cardSeq : Nat} {closes : Bool} {moment : Moment}
      (found : desk.runs.get? run = some (.edit messageId cardSeq (.storing closes))) :
      CardMove desk (.stored run moment)
        ((desk.claimed moment (desk.registry.persist desk.now moment).2).endRun run)
  | editClosed {run : Nat} {messageId : PyStr} {cardSeq : Nat} {failed : Bool} {event : CardEvent}
      (found : desk.runs.get? run = some (.edit messageId cardSeq (.closing failed))) :
      CardMove desk event (desk.endRun run)
  | editCancelled {run : Nat} {messageId : PyStr} {cardSeq : Nat} {final : Bool}
      (found : desk.runs.get? run = some (.edit messageId cardSeq (.editing final))) :
      CardMove desk (.cancel run) (desk.endRun run)
  | persist (moment : Moment) :
      CardMove desk (.persist moment)
        (desk.claimed moment (desk.registry.persist desk.now moment).2)
  | tick (lapse : Nat) : CardMove desk (.tick lapse) { desk with now := desk.now + lapse }

variable (desk : CardDesk) (run : Nat)

private theorem cardMove_press (action : CardAction) (moment : Moment) :
    CardMove desk (.press run action moment) (cardStep desk (.press run action moment)) := by
  cases found : desk.runs.get? run with
  | some state =>
    have same : cardStep desk (.press run action moment) = desk := if_pos (by rw [found]; rfl)
    rw [same]
    exact .idle _
  | none =>
    have began : cardStep desk (.press run action moment) = desk.press run action moment :=
      if_neg (by simp [found])
    rw [began]
    rcases desk.press_cases run action moment with
      ⟨shrinks, -, same⟩ | ⟨entry, registry, claims, ⟨matched, same⟩ | ⟨after, same⟩⟩
    · rw [same]
      exact .missed found shrinks
    · rw [same]
      exact .claimed found claims matched
    · rw [same]
      exact .gaveBack found claims after

private theorem cardMove_edit (args : EditArgs) (final : Bool) (moment : Moment) :
    CardMove desk (.edit run args final moment)
      (cardStep desk (.edit run args final moment)) := by
  cases found : desk.runs.get? run with
  | some state =>
    have same : cardStep desk (.edit run args final moment) = desk := if_pos (by rw [found]; rfl)
    rw [same]
    exact .idle _
  | none =>
    have began : cardStep desk (.edit run args final moment) = desk.edit run args final moment :=
      if_neg (by simp [found])
    rw [began]
    rcases desk.edit_cases run args final moment with
      ⟨shrinks, same⟩ | ⟨entry, present, pending, changes, same⟩
    · rw [same]
      exact .editMissed found shrinks
    · rw [same]
      exact .editClaimed found present pending changes

private theorem cardMove_dispatchReturns (accepted : Accepted) :
    CardMove desk (.dispatchReturns run accepted)
      (cardStep desk (.dispatchReturns run accepted)) := by
  unfold cardStep
  dsimp only
  split
  · rename_i found
    unfold CardDesk.dispatchReturned
    dsimp only
    split
    · exact .accepted found ‹_›
    · exact .refused found ‹_›
  · exact .idle _

private theorem cardMove_dispatchRaises :
    CardMove desk (.dispatchRaises run) (cardStep desk (.dispatchRaises run)) := by
  unfold cardStep
  dsimp only
  split
  · rename_i found
    unfold CardDesk.dispatchRaised
    split
    · exact .deadLetter found ‹_›
    · exact .raised found ‹_›
  · exact .idle _

private theorem cardMove_cancel : CardMove desk (.cancel run) (cardStep desk (.cancel run)) := by
  unfold cardStep
  dsimp only
  split
  · exact .updateCancelled ‹_›
  · exact .dispatchCancelled ‹_›
  · exact .reportCancelled ‹_›
  · exact .editCancelled ‹_›
  · exact .editClosed ‹_›
  · exact .idle _

private theorem cardMove_stored (moment : Moment) :
    CardMove desk (.stored run moment) (cardStep desk (.stored run moment)) := by
  unfold cardStep
  dsimp only
  split
  · rename_i found
    unfold CardDesk.stored
    dsimp only
    split
    · exact .stored found
    · exact .unreported found
  · rename_i found
    unfold CardDesk.editStored
    dsimp only
    split
    · exact .editStored found
    · exact .editLeft found
  · exact .idle _

private theorem cardMove_edited : CardMove desk (.edited run) (cardStep desk (.edited run)) := by
  unfold cardStep
  dsimp only
  split
  · rename_i final found
    cases final with
    | true => exact .editCompleted found
    | false => exact .editReleased found
  · exact .idle _

/-- Every step is one of the moves. -/
theorem cardStep_move (event : CardEvent) : CardMove desk event (cardStep desk event) := by
  cases event with
  | press run action moment => exact cardMove_press desk run action moment
  | edit run args final moment => exact cardMove_edit desk run args final moment
  | dispatchReturns run accepted => exact cardMove_dispatchReturns desk run accepted
  | dispatchRaises run => exact cardMove_dispatchRaises desk run
  | cancel run => exact cardMove_cancel desk run
  | stored run moment => exact cardMove_stored desk run moment
  | edited run => exact cardMove_edited desk run
  | persist moment => exact .persist moment
  | tick lapse => exact .tick lapse
  | statusUpdated run =>
    unfold cardStep
    dsimp only
    split
    · exact .statusUpdated ‹_›
    · exact .idle _
  | reported run =>
    unfold cardStep
    dsimp only
    split
    · exact .reported ‹_›
    · exact .idle _
  | editUnavailable run =>
    unfold cardStep
    dsimp only
    split
    · exact .editReleased ‹_›
    · exact .idle _
  | editRaises run =>
    unfold cardStep
    dsimp only
    split
    · exact .editReleased ‹_›
    · exact .editReleased ‹_›
    · exact .idle _
  | editCloses run =>
    unfold cardStep
    dsimp only
    split
    · exact .editReleased ‹_›
    · exact .editClosed ‹_›
    · exact .idle _

end OctoChannel.Cards
