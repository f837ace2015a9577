import OctoChannel.Chats.Caches

/-! The wire address of a direct chat: remembered while the chat is active, guessed
from the chat id once a sweep or a restart has dropped it. -/

namespace OctoChannel.Chats

open Foundation Identity

namespace Caches

variable {Names : Type} {caches : Caches Names}

private theorem chatKind_sweepChannel (channelId chat : PyStr) :
    (caches.sweepChannel channelId).chatKind.get? chat =
      if channelId = chat then none else caches.chatKind.get? chat := by
  unfold sweepChannel
  dsimp only
  split
  · exact Dict.get?_erase _ _ _
  · exact Dict.get?_erase _ _ _

private theorem spaceDmTargets_sweepChannel (channelId chat : PyStr) :
    (caches.sweepChannel channelId).spaceDmTargets.get? chat =
      if channelId = chat then none else caches.spaceDmTargets.get? chat := by
  unfold sweepChannel
  dsimp only
  split
  · exact Dict.get?_erase _ _ _
  · exact Dict.get?_erase _ _ _

theorem chatKind_sweeps (channels : List PyStr) (chat : PyStr) :
    (channels.foldl sweepChannel caches).chatKind.get? chat =
      if chat ∈ channels then none else caches.chatKind.get? chat := by
  induction channels generalizing caches with
  | nil => rfl
  | cons channel rest ih =>
    rw [List.foldl_cons, ih, chatKind_sweepChannel]
    by_cases later : chat ∈ rest
    · simp [later]
    · by_cases same : channel = chat
      · simp [same]
      · simp [later, same, Ne.symm same]

theorem spaceDmTargets_sweeps (channels : List PyStr) (chat : PyStr) :
    (channels.foldl sweepChannel caches).spaceDmTargets.get? chat =
      if chat ∈ channels then none else caches.spaceDmTargets.get? chat := by
  induction channels generalizing caches with
  | nil => rfl
  | cons channel rest ih =>
    rw [List.foldl_cons, ih, spaceDmTargets_sweepChannel]
    by_cases later : chat ∈ rest
    · simp [later]
    · by_cases same : channel = chat
      · simp [same]
      · simp [later, same, Ne.symm same]

/-- The chat was last active before the cutoff of a sweep. -/
def Idle (caches : Caches Names) (cutoff : Int) (chat : PyStr) : Prop :=
  ∃ seen, caches.cacheActivity.get? chat = some seen ∧ seen < cutoff

theorem mem_swept_iff (cutoff : Int) (chat : PyStr) :
    chat ∈ (caches.cacheActivity.entries.filter fun entry => entry.2 < cutoff).map Prod.fst ↔
      caches.Idle cutoff chat := by
  constructor
  · intro member
    obtain ⟨entry, kept, rfl⟩ := List.mem_map.mp member
    obtain ⟨present, old⟩ := List.mem_filter.mp kept
    exact ⟨entry.2, (Dict.mem_entries_iff _ _ _).mp present, of_decide_eq_true old⟩
  · intro idle
    obtain ⟨seen, found, old⟩ := idle
    apply List.mem_map.mpr
    exact ⟨(chat, seen), List.mem_filter.mpr ⟨(Dict.mem_entries_iff _ _ _).mpr found,
      decide_eq_true old⟩, rfl⟩

end Caches

open Caches

variable {Names : Type} {caches : Caches Names} {settings : Settings} {blank : Names}
  {chat peer : PyStr}

/-- What happens to the remembered addresses. -/
inductive ChatStep where
  | direct (fromUid channelId : PyStr) (now : Int)
  | group (fromUid channelId : PyStr) (topic : Bool) (now : Int)
  | sweep (cutoff : Int)
  | restart
  deriving DecidableEq

/-- The kind of a group frame. -/
def frameKind (topic : Bool) : ChannelType := if topic then .CommunityTopic else .Group

/-- One step; a frame of the bot itself is skipped, a restart keeps only the files. -/
def chatStep (settings : Settings) (blank : Names) (caches : Caches Names) :
    ChatStep → Caches Names
  | .direct fromUid channelId now =>
    if fromUid = settings.robotId then caches
    else
      match directChatId settings fromUid channelId with
      | .error _ => caches
      | .ok chatId =>
        caches.recordDirectFrame chatId (extractBaseUid settings.digits fromUid) now
  | .group fromUid channelId topic now =>
    if fromUid = settings.robotId then caches
    else caches.recordGroupFrame channelId (frameKind topic) now
  | .sweep cutoff => caches.cleanupCaches cutoff
  | .restart => .empty blank caches.mdFiles

/-- A reply to the chat goes to the peer, as a direct message. -/
def Addressed (settings : Settings) (chat peer : PyStr) (caches : Caches Names) : Prop :=
  caches.resolveChannelType chat none = .DM ∧
    caches.outboundChannelId settings.digits chat .DM = extractBaseUid settings.digits peer

/-- Addressed in this state and after every step of the run. -/
def StaysAddressed (settings : Settings) (blank : Names) (chat peer : PyStr) :
    Caches Names → List ChatStep → Prop
  | caches, [] => Addressed settings chat peer caches
  | caches, step :: rest => Addressed settings chat peer caches ∧
      StaysAddressed settings blank chat peer (chatStep settings blank caches step) rest

/-- The shape of the chat id alone gives the address: a bare hexadecimal uid of 32 digits. -/
def Guessed (settings : Settings) (chat peer : PyStr) : Prop :=
  guessChannelType chat = .DM ∧
    extractBaseUid settings.digits chat = extractBaseUid settings.digits peer

/-- The step drops nothing that the shape of the chat id does not give again, and no
other frame comes under the same chat id. -/
def Keeps (settings : Settings) (chat peer : PyStr) (caches : Caches Names) : ChatStep → Prop
  | .direct fromUid channelId _ => fromUid ≠ settings.robotId →
      directChatId settings fromUid channelId = .ok chat →
      extractBaseUid settings.digits fromUid = extractBaseUid settings.digits peer
  | .group fromUid channelId _ _ => fromUid ≠ settings.robotId → channelId ≠ chat
  | .sweep cutoff => caches.Idle cutoff chat → Guessed settings chat peer
  | .restart => Guessed settings chat peer

/-- Every step of the run keeps the address. -/
def KeepsAll (settings : Settings) (blank : Names) (chat peer : PyStr) :
    Caches Names → List ChatStep → Prop
  | _, [] => True
  | caches, step :: rest => Keeps settings chat peer caches step ∧
      KeepsAll settings blank chat peer (chatStep settings blank caches step) rest

theorem addressed_iff : Addressed settings chat peer caches ↔
    (caches.chatKind.get? chat).getD (guessChannelType chat) = .DM ∧
      (caches.spaceDmTargets.get? chat).getD (extractBaseUid settings.digits chat) =
        extractBaseUid settings.digits peer := Iff.rfl

private theorem addressed_congr {other : Caches Names}
    (kinds : other.chatKind.get? chat = caches.chatKind.get? chat)
    (targets : other.spaceDmTargets.get? chat = caches.spaceDmTargets.get? chat) :
    Addressed settings chat peer other ↔ Addressed settings chat peer caches := by
  rw [addressed_iff, addressed_iff, kinds, targets]

theorem addressed_forgotten (kinds : caches.chatKind.get? chat = none)
    (targets : caches.spaceDmTargets.get? chat = none) :
    Addressed settings chat peer caches ↔ Guessed settings chat peer := by
  rw [addressed_iff, kinds, targets]
  rfl

theorem chatKind_touchCache (channelId : PyStr) (now : Int) :
    (caches.touchCache channelId now).chatKind = caches.chatKind := by
  unfold touchCache
  split <;> rfl

theorem spaceDmTargets_touchCache (channelId : PyStr) (now : Int) :
    (caches.touchCache channelId now).spaceDmTargets = caches.spaceDmTargets := by
  unfold touchCache
  split <;> rfl

private theorem chatKind_recordGroupFrame (channelId : PyStr) (kind : ChannelType) (now : Int) :
    (caches.recordGroupFrame channelId kind now).chatKind = caches.chatKind.set channelId kind := by
  unfold recordGroupFrame
  dsimp only
  split <;> split <;> simp only [chatKind_touchCache]

private theorem spaceDmTargets_recordGroupFrame (channelId : PyStr) (kind : ChannelType)
    (now : Int) :
    (caches.recordGroupFrame channelId kind now).spaceDmTargets = caches.spaceDmTargets := by
  unfold recordGroupFrame
  dsimp only
  split <;> split <;> simp only [spaceDmTargets_touchCache]

/-- A direct message under the chat id sets its address to its own sender. -/
theorem addressed_recordDirectFrame (chatId wire : PyStr) (now : Int) :
    Addressed settings chat peer (caches.recordDirectFrame chatId wire now) ↔
      if chatId = chat then wire = extractBaseUid settings.digits peer
      else Addressed settings chat peer caches := by
  rw [addressed_iff, recordDirectFrame, chatKind_touchCache, spaceDmTargets_touchCache]
  dsimp only
  rw [Dict.get?_set, Dict.get?_set]
  split
  · simp
  · rfl

/-- A step keeps the address of an addressed chat exactly as the condition says. -/
private theorem chatStep_addressed_iff (before : Addressed settings chat peer caches)
    (step : ChatStep) :
    Addressed settings chat peer (chatStep settings blank caches step) ↔
      Keeps settings chat peer caches step := by
  cases step with
  | direct fromUid channelId now =>
    rw [chatStep, Keeps]
    split
    · rename_i own
      exact ⟨fun _ other => absurd own other, fun _ => before⟩
    · rename_i other
      cases given : directChatId settings fromUid channelId with
      | error error => exact ⟨nofun, fun _ => before⟩
      | ok chatId =>
        rw [addressed_recordDirectFrame]
        constructor
        · intro after _ same
          rwa [if_pos (Except.ok.inj same)] at after
        · intro keeps
          split
          · rename_i same
            exact keeps other (congrArg Except.ok same)
          · exact before
  | group fromUid channelId topic now =>
    rw [chatStep, Keeps]
    split
    · rename_i own
      exact ⟨fun _ other => absurd own other, fun _ => before⟩
    · rename_i other
      rw [addressed_iff, chatKind_recordGroupFrame, spaceDmTargets_recordGroupFrame, Dict.get?_set]
      by_cases same : channelId = chat
      · rw [if_pos same, Option.getD_some]
        have kind : frameKind topic ≠ .DM := by
          cases topic <;> decide
        exact ⟨fun after => absurd after.1 kind, fun keeps => absurd same (keeps other)⟩
      · rw [if_neg same]
        exact ⟨fun _ _ => same, fun _ => before⟩
  | sweep cutoff =>
    rw [chatStep, Keeps, cleanupCaches]
    by_cases idle : caches.Idle cutoff chat
    · have swept := (mem_swept_iff cutoff chat).mpr idle
      rw [addressed_forgotten (by rw [chatKind_sweeps, if_pos swept])
        (by rw [spaceDmTargets_sweeps, if_pos swept])]
      exact ⟨fun guessed _ => guessed, fun keeps => keeps idle⟩
    · have kept := (mem_swept_iff cutoff chat).not.mpr idle
      have same := @addressed_congr _ caches settings chat peer _
        (by rw [chatKind_sweeps, if_neg kept]) (by rw [spaceDmTargets_sweeps, if_neg kept])
      exact ⟨fun _ here => absurd here idle, fun _ => same.mpr before⟩
  | restart => exact addressed_forgotten rfl rfl

private theorem staysAddressed_head {steps : List ChatStep}
    (stays : StaysAddressed settings blank chat peer caches steps) :
    Addressed settings chat peer caches := by
  cases steps with
  | nil => exact stays
  | cons step rest => exact stays.1

/-- An addressed chat stays addressed along a run exactly when every step keeps it. -/
private theorem staysAddressed_iff (before : Addressed settings chat peer caches)
    (steps : List ChatStep) :
    StaysAddressed settings blank chat peer caches steps ↔
      KeepsAll settings blank chat peer caches steps := by
  induction steps generalizing caches with
  | nil => exact ⟨fun _ => trivial, fun _ => before⟩
  | cons step rest ih =>
    rw [StaysAddressed, KeepsAll, ← chatStep_addressed_iff before step]
    constructor
    · intro stays
      have next := staysAddressed_head stays.2
      exact ⟨next, (ih next).mp stays.2⟩
    · intro keeps
      exact ⟨before, (ih keeps.1).mpr keeps.2⟩

/-- The chat of a direct message keeps the wire address of its sender, from the frame
on, exactly as long as every later step keeps it. -/
theorem directFrame_staysAddressed_iff {Names : Type} (settings : Settings) (blank : Names)
    (caches : Caches Names) (fromUid channelId chat : PyStr) (now : Int) (steps : List ChatStep)
    (other : fromUid ≠ settings.robotId)
    (given : directChatId settings fromUid channelId = .ok chat) :
    StaysAddressed settings blank chat fromUid
        (chatStep settings blank caches (.direct fromUid channelId now)) steps ↔
      KeepsAll settings blank chat fromUid
        (chatStep settings blank caches (.direct fromUid channelId now)) steps := by
  apply staysAddressed_iff
  rw [chatStep, if_neg other, given]
  exact (addressed_recordDirectFrame chat _ now).mpr (by rw [if_pos rfl])

/-- ASCII digits only. -/
def asciiDigits : DigitChars where
  isDecimal point := 0x30 ≤ point.val && point.val ≤ 0x39
  isDigit point := 0x30 ≤ point.val && point.val ≤ 0x39
  ascii _ _ := ⟨rfl, rfl⟩

/-- One identity, with the mention gate relaxed. -/
def soleSettings : Settings where
  robotId := py "bot"
  requireMention := false
  ignoreMentionAll := false
  historyLimit := 20
  plainDmChatIds := true
  scopedDmChatId _ := .error (.valueError "invalid Octo DM identity")
  digits := asciiDigits

theorem directFrame_staysAddressed_iff_swept :
    StaysAddressed soleSettings () (py "a") (py "a")
        (chatStep soleSettings () (Caches.empty () .empty) (.direct (py "a") (py "a") 5))
        [.sweep 3, .group (py "a") (py "g") false 6] ↔
      KeepsAll soleSettings () (py "a") (py "a")
        (chatStep soleSettings () (Caches.empty () .empty) (.direct (py "a") (py "a") 5))
        [.sweep 3, .group (py "a") (py "g") false 6] :=
  directFrame_staysAddressed_iff soleSettings () _ _ (py "a") _ _ _ (by decide) (by decide)

/-- After a sweep of the idle chat a reply to `s5_a` goes to a group. -/
theorem sweptSpaceChat_not_staysAddressed :
    directChatId soleSettings (py "s5_a") (py "s5_a") = .ok (py "s5_a") ∧
      ¬ StaysAddressed soleSettings () (py "s5_a") (py "s5_a")
        (chatStep soleSettings () (Caches.empty () .empty) (.direct (py "s5_a") (py "s5_a") 5))
        [.sweep 9] := by
  refine ⟨by decide, ?_⟩
  intro stays
  have guess : (chatStep soleSettings () (chatStep soleSettings () (Caches.empty () .empty)
      (.direct (py "s5_a") (py "s5_a") 5)) (.sweep 9)).resolveChannelType (py "s5_a") none =
        .Group := by
    decide
  have kind := stays.2.1
  rw [guess] at kind
  cases kind

end OctoChannel.Chats
