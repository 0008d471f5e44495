import AmusementPark.Cashier.Run
import AmusementPark.Restaurant.Run
import AmusementPark.Worker.TokenStep

/-! # Wake-ups of the cashier and of the restaurant

Both loops take one token and then receive one message whenever there is one.
So neither of them ever throws a token away beside a queued message.
-/
namespace AmusementPark
open Library Worker

namespace Cashier

/-- The token in the cashier's hand. -/
def RunPoint.hand : RunPoint → Option Bool
  | .stopped => none
  | .woken token => some token
  | _ => some false

namespace CashierSystem
variable {C : Type*} [DecidableEq C]

theorem serve_token {s : CashierSystem C} (parkSize : ℕ) (message : RegisterMQMessage)
    (x : ReplyOutcome) (erase : CashierProc → CashierProc) {done : RunPoint}
    (hdone : done.hand = s.point.hand) :
    TokenStep s.point.hand s.mailbox (s.serve parkSize message x erase done).point.hand
      (s.serve parkSize message x erase done).mailbox := by
  unfold serve
  dsimp only
  split
  · exact .stop _ _ _
  · rw [hdone]
    exact .keep _ _
  · exact .keep _ _

theorem step_token {parkSize : ℕ} {s t : CashierSystem C} {a : CashierAction C}
    (h : step parkSize s a = some t) :
    TokenStep s.point.hand s.mailbox t.point.hand t.mailbox := by
  cases a with
  | mailbox a =>
    obtain ⟨m, hm, rfl⟩ := Option.map_eq_some_iff.mp h
    exact .outside _ a hm
  | closePark =>
    obtain rfl := Option.some.inj h
    exact .keep _ _
  | sigTerm logged =>
    cases hopen : s.isOpen with
    | true =>
      simp only [step, hopen, if_true, Option.some.injEq] at h
      exact h ▸ .keep _ _
    | false => cases logged with
      | error e =>
        simp only [step, hopen, Bool.false_eq_true, if_false, Option.some.injEq] at h
        exact h ▸ .stop _ _ _
      | ok u =>
        simp only [step, hopen, Bool.false_eq_true, if_false, Option.some.injEq] at h
        exact h ▸ .outside _ .post rfl
  | check =>
    simp only [step, Option.ite_none_right_eq_some, Option.some.injEq] at h
    obtain ⟨hpoint, rfl⟩ := h
    rw [hpoint]
    by_cases hc : s.continues = true
    · simp only [hc, if_true]
      exact .keep _ _
    · simp only [hc]
      exact .stop _ _ _
  | wake token => cases token with
    | true =>
      simp only [step, if_true, Option.ite_none_right_eq_some, Option.map_eq_some_iff] at h
      obtain ⟨hpoint, m, hm, rfl⟩ := h
      rw [hpoint]
      exact .take hm
    | false =>
      simp only [step, Bool.false_eq_true, if_false, Option.ite_none_right_eq_some,
        Option.some.injEq] at h
      obtain ⟨hpoint, rfl⟩ := h
      rw [hpoint]
      exact .keep _ _
  | receiveThrows =>
    cases hpoint : s.point with
    | woken token =>
      simp only [step, hpoint, Option.some.injEq] at h
      exact h ▸ .stop _ _ _
    | _ => simp [step, hpoint] at h
  | handle x =>
    cases hpoint : s.point with
    | woken token =>
      have hreceive := TokenStep.receive token s.mailbox
      rcases hr : s.mailbox.receive with ⟨_ | msg, m⟩
      all_goals
        simp only [step, hpoint, hr, Option.some.injEq] at h
        rw [hr] at hreceive
        exact h ▸ hreceive
    | _ => simp [step, hpoint] at h
  | serveVip x =>
    simp only [step, Option.ite_none_right_eq_some] at h
    obtain ⟨hpoint, h⟩ := h
    cases hq : s.proc.enterVipQueue with
    | nil =>
      simp only [hq, Option.some.injEq] at h
      rw [hpoint, ← h]
      exact .keep _ _
    | cons message rest =>
      simp only [hq, Option.some.injEq] at h
      rw [← h]
      exact serve_token parkSize message x _ (by rw [hpoint]; rfl)
  | serveOrdinary x =>
    simp only [step, Option.ite_none_right_eq_some] at h
    obtain ⟨hpoint, h⟩ := h
    split at h
    · rw [← Option.some.inj h]
      exact serve_token parkSize _ x _ (by rw [hpoint]; rfl)
    · rw [hpoint, ← Option.some.inj h]
      exact .keep _ _
  | log logged =>
    simp only [step, Option.ite_none_right_eq_some] at h
    obtain ⟨hpoint, h⟩ := h
    cases logged with
    | error e => exact Option.some.inj h ▸ .stop _ _ _
    | ok u =>
      rw [hpoint, ← Option.some.inj h]
      exact .keep _ _

end CashierSystem
end Cashier

namespace Restaurant

/-- The token in the restaurant's hand. -/
def RunPoint.hand : RunPoint → Option Bool
  | .stopped => none
  | .woken token | .checked token => some token
  | _ => some false

namespace RestaurantSystem
variable {C : Type*} [DecidableEq C]

omit [DecidableEq C] in
theorem fill_cases (s : RestaurantSystem C) (cfg : AttractionConfig)
    (newHandler : AttractionHandler) (x : ReplyOutcome) :
    (s.fill cfg newHandler x).point.hand ∈ [none, some false] ∧
      (s.fill cfg newHandler x).mailbox = s.mailbox := by
  unfold fill
  cases s.proc.enterQueue with
  | nil => exact ⟨by simp [RunPoint.hand], rfl⟩
  | cons message rest =>
    dsimp only
    split <;> exact ⟨by simp [RunPoint.hand], rfl⟩

theorem logging_token {s t u : RestaurantSystem C} {logged : Except Exn Unit}
    (hhand : u.point.hand = s.point.hand) (hmail : u.mailbox = s.mailbox) :
    TokenStep s.point.hand s.mailbox (t.logging logged u).point.hand
      (t.logging logged u).mailbox := by
  cases logged with
  | error e => exact .stop _ _ _
  | ok x =>
    rw [← hhand, ← hmail]
    exact .keep _ _

theorem step_token {cfg : AttractionConfig} {s t : RestaurantSystem C} {a : RestaurantAction C}
    (h : step cfg s a = some t) : TokenStep s.point.hand s.mailbox t.point.hand t.mailbox := by
  cases a with
  | mailbox a =>
    obtain ⟨m, hm, rfl⟩ := Option.map_eq_some_iff.mp h
    exact .outside _ a hm
  | closePark | sigInt =>
    obtain rfl := Option.some.inj h
    exact .keep _ _
  | sigUsr1 logged | sigUsr2 logged =>
    obtain rfl := Option.some.inj h
    exact logging_token rfl rfl
  | check now =>
    simp only [step, Option.ite_none_right_eq_some, Option.some.injEq] at h
    obtain ⟨hpoint, rfl⟩ := h
    rw [hpoint]
    by_cases hc : s.continues = true
    · simp only [hc, if_true]
      exact .keep _ _
    · simp only [hc]
      exact .stop _ _ _
  | wake token =>
    cases hpoint : s.point with
    | waiting timeout => cases token with
      | true =>
        simp only [step, hpoint, if_true, Option.ite_none_left_eq_some,
          Option.map_eq_some_iff] at h
        obtain ⟨-, m, hm, rfl⟩ := h
        exact .take hm
      | false =>
        simp only [step, hpoint, Bool.false_eq_true, if_false, Option.some.injEq] at h
        exact h ▸ .keep _ _
    | _ => simp [step, hpoint] at h
  | finishCheck now =>
    cases hpoint : s.point with
    | woken token =>
      simp only [step, hpoint, Option.some.injEq] at h
      exact h ▸ .keep _ _
    | _ => simp [step, hpoint] at h
  | receiveThrows =>
    cases hpoint : s.point with
    | checked token =>
      simp only [step, hpoint, Option.some.injEq] at h
      exact h ▸ .stop _ _ _
    | _ => simp [step, hpoint] at h
  | handle x =>
    cases hpoint : s.point with
    | checked token =>
      have hreceive := TokenStep.receive token s.mailbox
      rcases hr : s.mailbox.receive with ⟨_ | msg, m⟩
      all_goals
        simp only [step, hpoint, hr, Option.some.injEq] at h
        rw [hr] at hreceive
        exact h ▸ hreceive
    | _ => simp [step, hpoint] at h
  | handleThrows paused x =>
    obtain ⟨token, msg, m, hpoint, hreceive, -, u, hu, rfl⟩ := handle_of_handleThrows h
    simp only [step, hpoint, hreceive, Option.some.injEq] at hu
    have hstep := TokenStep.receive token s.mailbox
    rw [hreceive] at hstep
    rw [← hu, hpoint]
    exact hstep
  | registerThrows paused caught =>
    obtain ⟨newHandler, message, rest, hpoint, -, rfl⟩ := registerThrows_step h
    exact logging_token (by rw [hpoint]) rfl
  | decide =>
    simp only [step, Option.ite_none_right_eq_some, Option.some.injEq] at h
    obtain ⟨hpoint, rfl⟩ := h
    rw [hpoint]
    dsimp only
    split <;> exact .keep _ _
  | register x =>
    cases hpoint : s.point with
    | filling newHandler =>
      simp only [step, hpoint, Option.some.injEq] at h
      obtain ⟨hhand, hmail⟩ := fill_cases s cfg newHandler x
      rw [h] at hhand hmail
      rw [hmail]
      exact .emptyHanded s.mailbox hhand
    | _ => simp [step, hpoint] at h
  | install =>
    cases hpoint : s.point with
    | installing newHandler =>
      simp only [step, hpoint] at h
      split at h
      · exact Option.some.inj h ▸ .keep _ _
      · exact Option.some.inj h ▸ .keep _ _
    | _ => simp [step, hpoint] at h
  | start now =>
    simp only [step, Option.ite_none_right_eq_some, Option.some.injEq] at h
    obtain ⟨hpoint, rfl⟩ := h
    rw [hpoint]
    exact .keep _ _
  | announce logged =>
    simp only [step, Option.ite_none_right_eq_some, Option.some.injEq] at h
    obtain ⟨hpoint, rfl⟩ := h
    exact logging_token (by rw [hpoint]; rfl) rfl

end RestaurantSystem
end Restaurant

section NoLostWakeUp
variable (C : Type*) [Fintype C] [DecidableEq C]

/-- In every run of the cashier and in every run of the restaurant no message is stranded at a
loop head. -/
theorem noneStranded_cashier_restaurant (tokens parkSize : ℕ) (cfg : AttractionConfig)
    (as : List (Cashier.CashierAction C)) (bs : List (Restaurant.RestaurantAction C)) :
    (Cashier.CashierSystem.machine C parkSize).Always
        (fun s => s.point = .loopHead → s.mailbox.NoneStranded) (.init tokens) as ∧
      (Restaurant.RestaurantSystem.machine C cfg).Always
        (fun s => s.point = .loopHead → s.mailbox.NoneStranded) (.init tokens) bs := by
  have hcashier := noneStranded_of_tokenStep (M := Cashier.CashierSystem.machine C parkSize)
    (K := fun _ _ => True) (s := .init tokens) (fun _ _ _ _ h => Cashier.CashierSystem.step_token h)
    rfl (Machine.meets_of_forall (fun _ _ => trivial) _ as)
  have hrestaurant := noneStranded_of_tokenStep (M := Restaurant.RestaurantSystem.machine C cfg)
    (K := fun _ _ => True) (s := .init tokens)
    (fun _ _ _ _ h => Restaurant.RestaurantSystem.step_token h)
    rfl (Machine.meets_of_forall (fun _ _ => trivial) _ bs)
  refine ⟨hcashier.mono fun s hs hpoint => ?_, hrestaurant.mono fun s hs hpoint => ?_⟩
  · exact hs (by rw [hpoint]; rfl)
  · exact hs (by rw [hpoint]; rfl)

end NoLostWakeUp
end AmusementPark
