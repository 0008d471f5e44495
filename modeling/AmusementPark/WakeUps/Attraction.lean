import AmusementPark.Attraction.Run
import AmusementPark.Worker.TokenStep

/-! # Wake-ups of an attraction

A paused attraction leaves its iteration between `Wait` and `ReceiveMessage`.
The token it has taken is gone then, and the message it was posted for waits
for somebody else's token. No message is stranded in a run in which this never
happens beside a queued message.
-/
namespace AmusementPark.Attraction
open Library Worker

/-- The token in the attraction's hand. -/
def RunPoint.hand : RunPoint → Option Bool
  | .stopped | .crashed => none
  | .woken token | .checked token | .receiving token => some token
  | _ => some false

namespace AttractionSystem
variable {C : Type*} [DecidableEq C]

/-- An iteration that holds a token is not left because of a pause while a message waits. -/
def KeepsToken (s : AttractionSystem C) (a : AttractionAction C) : Prop :=
  a = .testPaused → s.point = .checked true → s.proc.paused = true → s.mailbox.queue = []

omit [DecidableEq C] in
theorem fill_cases (s : AttractionSystem C) (cfg : AttractionConfig) (id : ℕ)
    (newHandler : AttractionHandler) (x : ReplyOutcome) :
    (s.fill cfg id newHandler x).point.hand ∈ [none, some false] ∧
      (s.fill cfg id newHandler x).mailbox = s.mailbox := by
  unfold fill
  cases s.proc.enterQueue with
  | nil => exact ⟨by simp [RunPoint.hand], rfl⟩
  | cons message rest =>
    dsimp only
    split <;> exact ⟨by simp [RunPoint.hand], rfl⟩

theorem logging_token {s t u : AttractionSystem C} {logged : Except Exn Unit}
    (hhand : u.point.hand = s.point.hand) (hmail : u.mailbox = s.mailbox) :
    TokenStep s.point.hand s.mailbox (t.logging logged u).point.hand
      (t.logging logged u).mailbox := by
  cases logged with
  | error e => exact .stop _ _ _
  | ok x =>
    rw [← hhand, ← hmail]
    exact .keep _ _

theorem step_token {cfg : AttractionConfig} {s t : AttractionSystem C} {a : AttractionAction C}
    (ha : s.KeepsToken a) (h : step cfg s a = some t) :
    TokenStep s.point.hand s.mailbox t.point.hand t.mailbox := by
  cases a with
  | mailbox a =>
    obtain ⟨m, hm, rfl⟩ := Option.map_eq_some_iff.mp h
    exact .outside _ a hm
  | closePark =>
    obtain rfl := Option.some.inj h
    exact .keep _ _
  | sigUsr1 logged | sigUsr2 logged =>
    obtain rfl := Option.some.inj h
    exact logging_token rfl rfl
  | check now =>
    simp only [step, Option.ite_none_right_eq_some, Option.some.injEq] at h
    obtain ⟨hpoint, rfl⟩ := h
    rw [hpoint]
    by_cases hopen : s.isOpen = true
    · simp only [hopen, if_true]
      exact .keep _ _
    · simp only [hopen]
      exact .stop _ _ _
  | wake token =>
    cases hpoint : s.point with
    | waiting timeout => cases token with
      | true =>
        simp only [step, hpoint, if_true, Option.ite_none_left_eq_some,
          Option.map_eq_some_iff] at h
        obtain ⟨-, m, hm, rfl⟩ := h
        exact .take hm
      | false =>
        simp only [step, hpoint, Bool.false_eq_true, if_false, Option.some.injEq] at h
        exact h ▸ .keep _ _
    | _ => simp [step, hpoint] at h
  | finishCheck now =>
    cases hpoint : s.point with
    | woken token =>
      simp only [step, hpoint, Option.some.injEq] at h
      exact h ▸ .keep _ _
    | _ => simp [step, hpoint] at h
  | testPaused =>
    cases hpoint : s.point with
    | checked token =>
      simp only [step, hpoint, Option.some.injEq] at h
      subst h
      cases hpaused : s.proc.paused with
      | false =>
        simp only [Bool.false_eq_true, if_false]
        exact .keep _ _
      | true =>
        simp only [if_true]
        refine .discard token s.mailbox ?_
        cases token with
        | false => exact .inr rfl
        | true => exact .inl (ha rfl hpoint hpaused)
    | _ => simp [step, hpoint] at h
  | receiveThrows =>
    cases hpoint : s.point with
    | receiving token =>
      simp only [step, hpoint, Option.some.injEq] at h
      exact h ▸ .stop _ _ _
    | _ => simp [step, hpoint] at h
  | handle =>
    cases hpoint : s.point with
    | receiving token =>
      have hreceive := TokenStep.receive token s.mailbox
      rcases hr : s.mailbox.receive with ⟨_ | msg, m⟩
      all_goals
        simp only [step, hpoint, hr, Option.some.injEq] at h
        rw [hr] at hreceive
        exact h ▸ hreceive
    | _ => simp [step, hpoint] at h
  | decide =>
    simp only [step, Option.ite_none_right_eq_some, Option.some.injEq] at h
    obtain ⟨hpoint, rfl⟩ := h
    rw [hpoint]
    dsimp only
    split <;> exact .keep _ _
  | create =>
    simp only [step, Option.ite_none_right_eq_some] at h
    obtain ⟨hpoint, h⟩ := h
    rw [hpoint]
    split at h
    · exact Option.some.inj h ▸ .keep _ _
    · split at h <;> exact Option.some.inj h ▸ .keep _ _
  | register x =>
    cases hpoint : s.point with
    | filling id newHandler =>
      simp only [step, hpoint, Option.some.injEq] at h
      obtain ⟨hhand, hmail⟩ := fill_cases s cfg id newHandler x
      rw [h] at hhand hmail
      rw [hmail]
      exact .emptyHanded s.mailbox hhand
    | _ => simp [step, hpoint] at h
  | registerThrows paused caught =>
    obtain ⟨id, newHandler, message, rest, hpoint, -, rfl⟩ := registerThrows_step h
    exact logging_token (by rw [hpoint]) rfl
  | install =>
    cases hpoint : s.point with
    | installing id newHandler =>
      simp only [step, hpoint] at h
      split at h
      · exact Option.some.inj h ▸ .keep _ _
      · exact Option.some.inj h ▸ .keep _ _
    | _ => simp [step, hpoint] at h
  | start now =>
    cases hpoint : s.point with
    | starting id =>
      simp only [step, hpoint] at h
      split at h
      · exact Option.some.inj h ▸ .stop _ _ _
      · exact Option.some.inj h ▸ .keep _ _
    | _ => simp [step, hpoint] at h
  | announce logged =>
    cases hpoint : s.point with
    | announcing id =>
      simp only [step, hpoint] at h
      split at h
      · exact Option.some.inj h ▸ .stop _ _ _
      · rw [← Option.some.inj h, ← hpoint]
        exact logging_token (by rw [hpoint]; rfl) rfl
    | _ => simp [step, hpoint] at h

/-- In every run in which the attraction never drops its token beside a queued message, no
message is stranded at a loop head. -/
theorem noneStranded_of_keepsToken [Fintype C] (attractionID tokens : ℕ) (cfg : AttractionConfig)
    {as : List (AttractionAction C)}
    (hkeep : (machine C cfg).Meets KeepsToken (init attractionID cfg tokens) as) :
    (machine C cfg).Always (fun s => s.point = .loopHead → s.mailbox.NoneStranded)
      (init attractionID cfg tokens) as := by
  have hall := noneStranded_of_tokenStep (M := machine C cfg)
    (s := init attractionID cfg tokens) (fun _ _ _ ha h => step_token ha h) rfl hkeep
  refine hall.mono fun s hs hpoint => ?_
  exact hs (by rw [hpoint]; rfl)

instance (s : AttractionSystem C) (a : AttractionAction C) : Decidable (s.KeepsToken a) :=
  match a with
  | .testPaused => decidable_of_iff
      (s.point = .checked true → s.proc.paused = true → s.mailbox.queue.isEmpty = true)
      (by simp [KeepsToken])
  | .mailbox _ | .closePark | .sigUsr1 _ | .sigUsr2 _ | .check _ | .wake _ | .finishCheck _
  | .receiveThrows | .handle | .decide | .create | .register _ | .registerThrows _ _ | .install
  | .start _ | .announce _ => isTrue fun h => by cases h

end AttractionSystem

/-- PID 7 asks for entry to the attraction A1. -/
def entryRequest : AttractionMQMessage :=
  ⟨7, .enterAttraction, .enterAttraction ⟨false, ⟨30, 180⟩, ⟨0, 0⟩⟩⟩

/-- An attraction that is closed and reopened while nobody asks keeps the wake-up of the later
request. -/
theorem quietPause_noneStranded :
    (AttractionSystem.machine Unit ⟨30, 20, 1, true, 120, -1, -1, -1⟩).Always
      (fun s => s.point = .loopHead → s.mailbox.NoneStranded)
      (.init 0 ⟨30, 20, 1, true, 120, -1, -1, -1⟩ 0)
      [.sigUsr1 (.ok ()), .check 0, .wake false, .finishCheck 0, .testPaused, .sigUsr2 (.ok ()),
        .mailbox (.send () 0 entryRequest), .mailbox (.signal ()), .check 1, .wake true,
        .finishCheck 1, .testPaused, .handle, .decide] :=
  AttractionSystem.noneStranded_of_keepsToken 0 0 _ (by decide)

/-- The worker takes the token of a request and is closed before it looks at its queue. -/
def closedWhileAwakeRun : List (AttractionAction Unit) :=
  [.mailbox (.send () 0 entryRequest), .mailbox (.signal ()), .check 0, .wake true,
    .sigUsr1 (.ok ()), .finishCheck 0, .testPaused]

/-- At the next loop head one message is queued and no token is left or owed. -/
theorem closedWhileAwake_strands :
    ∃ s, (AttractionSystem.machine Unit ⟨30, 20, 1, true, 120, -1, -1, -1⟩).exec
        (.init 0 ⟨30, 20, 1, true, 120, -1, -1, -1⟩ 0) closedWhileAwakeRun = some s ∧
      s.point = .loopHead ∧ s.mailbox.queue.length = 1 ∧ s.mailbox.eventSemaphore = 0 ∧
      ¬ s.mailbox.NoneStranded := by
  refine ⟨_, rfl, rfl, rfl, rfl, ?_⟩
  unfold Mailbox.NoneStranded
  decide

end AmusementPark.Attraction
