import AmusementPark.Restaurant.Run

/-! # The rounds of the restaurant

The client list of the round in `m_handler` and the one of the round that is
being filled, and what a step of the machine can do to the two.
-/
namespace AmusementPark.Restaurant
open Library Worker

abbrev ClientList := AList fun _ : Pid => HandlerClientData

/-- The steps a client notices: its exit is handled, it is entered in a round, the round starts. -/
inductive RoundEvent where
  | exit (pid : Pid) (billed : Bool)
  | admission (pid : Pid) (data : HandlerClientData)
  | install
deriving DecidableEq

namespace RestaurantSystem
variable {C : Type*}

/-- The clients of the current round. -/
def current (s : RestaurantSystem C) : Option ClientList := s.proc.handler.map (·.clientList)

/-- The clients of the round that is being filled. -/
def next (s : RestaurantSystem C) : Option ClientList :=
  match s.point with
  | .filling h | .installing h => some h.clientList
  | _ => none

/-- The client came from outside the park and is to be billed in this round. -/
def Billable (list : Option ClientList) (pid : Pid) : Prop :=
  ∃ clients ∈ list, ∃ data ∈ clients.lookup pid, data.fromPark = false

/-- What the step means for a client. An exit is billed when `pSendBill` tries to send a bill. -/
def event (cfg : AttractionConfig) (s : RestaurantSystem C) : RestaurantAction C →
    Option RoundEvent
  | .handle x | .handleThrows _ x => match s.point with
    | .checked _ => match s.mailbox.receive.1 with
      | some msg => if msg.mType = .exitRestaurant then
          some (.exit msg.senderPID (RestaurantProc.pHandleRestaurantMQ msg x s.proc).2.isSome)
        else none
      | none => none
    | _ => none
  | .register x => match s.point, s.proc.enterQueue with
    | .filling newHandler, message :: _ =>
      (RestaurantProc.admission s.isOpen cfg message x newHandler).map
        (.admission message.senderPID)
    | _, _ => none
  | .install => match s.point with
    | .installing newHandler => if newHandler.isEmpty then none else some .install
    | _ => none
  | _ => none

/-- What a step can do to the two client lists. -/
inductive RoundStep (s t : RestaurantSystem C) : Option RoundEvent → Prop where
  | exit (pid : Pid) (billed : Bool) (hbilled : billed = true ↔ Billable s.current pid)
      (hcurrent : t.current = s.current.map (·.erase pid)) (hs : s.next = none)
      (hnext : t.next = none) : RoundStep s t (some (.exit pid billed))
  | admission (pid : Pid) (data : HandlerClientData) (clients : ClientList)
      (hs : s.next = some clients) (hnew : pid ∉ clients) (hcurrent : t.current = s.current)
      (hnext : t.next = some (clients.insert pid data)) : RoundStep s t (some (.admission pid data))
  | install (clients : ClientList) (hs : s.next = some clients)
      (hcurrent : t.current = some clients) (hnext : t.next = none) :
      RoundStep s t (some .install)
  | finish (hs : s.next = none) (hcurrent : t.current = none) (hnext : t.next = none) :
      RoundStep s t none
  | begin (hs : s.next = none) (hscurrent : s.current = none) (hcurrent : t.current = none)
      (hnext : t.next = some ∅) : RoundStep s t none
  | abandon (hs : s.next = some ∅) (hcurrent : t.current = s.current) (hnext : t.next = none) :
      RoundStep s t none
  | stop (hstop : t.point = .stopped) (hcurrent : t.current = s.current) : RoundStep s t none
  | keep (hcurrent : t.current = s.current) (hnext : t.next = s.next) : RoundStep s t none

theorem next_of_stopped {s : RestaurantSystem C} (h : s.point = .stopped) : s.next = none := by
  rw [next, h]

theorem closeAttraction_current (r : RestaurantProc) :
    (RestaurantProc.closeAttraction r).handler.map (·.clientList) =
      r.handler.map (·.clientList) := by
  cases h : r.handler <;> simp [RestaurantProc.closeAttraction, h]

/-- A signal handler that leaves the client lists alone, up to its log message. -/
theorem RoundStep.logging {s t u : RestaurantSystem C} {logged : Except Exn Unit}
    (htc : t.current = s.current) (huc : u.current = s.current)
    (hup : u.next = s.next) : RoundStep s (t.logging logged u) none := by
  cases logged with
  | ok u => exact .keep huc hup
  | error e => exact .stop rfl htc

theorem handle_round {s t : RestaurantSystem C} {cfg : AttractionConfig} {token : Bool}
    (hpoint : s.point = .checked token) {msg : RestaurantMQMessage} {x : ReplyOutcome}
    (hmsg : s.mailbox.receive.1 = some msg)
    (hhandler : t.proc.handler = (RestaurantProc.pHandleRestaurantMQ msg x s.proc).1.handler)
    (ht : t.point = .deciding) : RoundStep s t (s.event cfg (.handle x)) := by
  have hnone : s.next = none := by rw [next, hpoint]
  have htnone : t.next = none := by rw [next, ht]
  by_cases hexit : msg.mType = .exitRestaurant
  · have hevent : s.event cfg (.handle x) = some (.exit msg.senderPID
        (RestaurantProc.pHandleRestaurantMQ msg x s.proc).2.isSome) := by
      simp [event, hpoint, hmsg, hexit]
    rw [hevent]
    rw [RestaurantProc.pHandleRestaurantMQ_exit msg x s.proc hexit] at hhandler ⊢
    refine .exit _ _ ?_ ?_ hnone htnone
    · rw [RestaurantProc.pSendBill_attempt]
      cases hh : s.proc.handler <;> simp [Billable, current, hh]
    · cases hh : s.proc.handler <;>
        simp [current, hhandler, RestaurantProc.pRemoveClient, hh]
  · have hevent : s.event cfg (.handle x) = none := by
      simp [event, hpoint, hmsg, hexit]
    rw [hevent]
    refine .keep ?_ (htnone.trans hnone.symm)
    rw [current, hhandler, RestaurantProc.pHandleRestaurantMQ_other msg x s.proc hexit]
    rfl

theorem register_round {s : RestaurantSystem C} {cfg : AttractionConfig}
    {newHandler : AttractionHandler} (hpoint : s.point = .filling newHandler)
    (x : ReplyOutcome) : RoundStep s (s.fill cfg newHandler x) (s.event cfg (.register x)) := by
  have hsnext : s.next = some newHandler.clientList := by rw [next, hpoint]
  unfold fill
  cases hq : s.proc.enterQueue with
  | nil =>
    have hevent : s.event cfg (.register x) = none := by simp [event, hpoint, hq]
    rw [hevent]
    exact .keep rfl (hsnext ▸ rfl)
  | cons message rest =>
    have hevent : s.event cfg (.register x) =
        (RestaurantProc.admission s.isOpen cfg message x newHandler).map
          (.admission message.senderPID) := by
      simp [event, hpoint, hq]
    rw [hevent]
    cases hadm : RestaurantProc.admission s.isOpen cfg message x newHandler with
    | some data =>
      obtain ⟨hnew, hok, hlist, -⟩ := RestaurantProc.admission_eq_some hadm
      simp only [hok]
      exact .admission _ data _ hsnext hnew rfl (congrArg some hlist)
    | none =>
      have hlist := RestaurantProc.admission_eq_none hadm
      dsimp only
      split
      · exact .stop rfl rfl
      · exact .keep rfl (hsnext ▸ congrArg some hlist)
      · exact .keep rfl (hsnext ▸ congrArg some hlist)

theorem step_round [DecidableEq C] {cfg : AttractionConfig} {s t : RestaurantSystem C}
    {a : RestaurantAction C} (h : step cfg s a = some t) : RoundStep s t (s.event cfg a) := by
  cases a with
  | mailbox a =>
    obtain ⟨m, -, rfl⟩ := Option.map_eq_some_iff.mp h
    exact .keep rfl rfl
  | closePark =>
    obtain rfl := Option.some.inj h
    exact .keep rfl rfl
  | sigUsr1 logged =>
    obtain rfl := Option.some.inj h
    exact .logging rfl (closeAttraction_current _) rfl
  | sigUsr2 logged =>
    obtain rfl := Option.some.inj h
    exact .logging rfl rfl rfl
  | sigInt =>
    obtain rfl := Option.some.inj h
    exact .keep rfl rfl
  | check now =>
    simp only [step, Option.ite_none_right_eq_some, Option.some.injEq] at h
    obtain ⟨hpoint, rfl⟩ := h
    refine .keep rfl ?_
    rw [next, next, hpoint]
    by_cases hc : s.continues = true <;> simp [hc]
  | wake token =>
    cases hpoint : s.point with
    | waiting timeout => cases token with
      | true =>
        simp only [step, hpoint, if_true, Option.ite_none_left_eq_some,
          Option.map_eq_some_iff] at h
        obtain ⟨-, m, -, rfl⟩ := h
        exact .keep rfl (by rw [next, next, hpoint])
      | false =>
        simp only [step, hpoint, Bool.false_eq_true, if_false, Option.some.injEq] at h
        subst h
        exact .keep rfl (by rw [next, next, hpoint])
    | _ => simp [step, hpoint] at h
  | finishCheck now =>
    cases hpoint : s.point with
    | woken token =>
      simp only [step, hpoint, Option.some.injEq] at h
      subst h
      have hnone : s.next = none := by rw [next, hpoint]
      by_cases hdrop : (!s.proc.evac && !s.proc.paused && s.proc.handler.any (·.finished now)) =
          true
      · exact .finish hnone (by rw [current, if_pos hdrop]; rfl) rfl
      · exact .keep (by rw [current, if_neg hdrop]; rfl) (by rw [hnone]; rfl)
    | _ => simp [step, hpoint] at h
  | receiveThrows =>
    cases hpoint : s.point with
    | checked token =>
      simp only [step, hpoint, Option.some.injEq] at h
      subst h
      exact .stop rfl rfl
    | _ => simp [step, hpoint] at h
  | handle x =>
    cases hpoint : s.point with
    | checked token =>
      rcases hreceive : s.mailbox.receive with ⟨_ | msg, m⟩
      · have hevent : s.event cfg (.handle x) = none := by simp [event, hpoint, hreceive]
        simp only [step, hpoint, hreceive, Option.some.injEq] at h
        rw [hevent, ← h]
        exact .keep rfl (by rw [next, next, hpoint])
      · simp only [step, hpoint, hreceive, Option.some.injEq] at h
        rw [← h]
        exact handle_round hpoint (by rw [hreceive]) rfl rfl
    | _ => simp [step, hpoint] at h
  | handleThrows paused x =>
    obtain ⟨token, msg, m, hpoint, hreceive, -, u, hu, rfl⟩ := handle_of_handleThrows h
    simp only [step, hpoint, hreceive, Option.some.injEq] at hu
    rw [← hu, show s.event cfg (.handleThrows paused x) = s.event cfg (.handle x) from rfl]
    exact handle_round hpoint (by rw [hreceive]) rfl rfl
  | decide =>
    simp only [step, Option.ite_none_right_eq_some, Option.some.injEq] at h
    obtain ⟨hpoint, rfl⟩ := h
    have hnone : s.next = none := by rw [next, hpoint]
    by_cases hnew : (s.proc.handler.isNone && !s.proc.paused && !s.proc.evac) = true
    · have hcurrent : s.current = none := by
        have : s.proc.handler = none := by
          simp only [Bool.and_eq_true, Option.isNone_iff_eq_none] at hnew
          exact hnew.1.1
        rw [current, this]
        rfl
      exact .begin hnone hcurrent hcurrent (by simp [next, hnew])
    · exact .keep rfl (by rw [hnone, next, if_neg hnew])
  | register x =>
    cases hpoint : s.point with
    | filling newHandler =>
      simp only [step, hpoint, Option.some.injEq] at h
      rw [← h]
      exact register_round hpoint x
    | _ => simp [step, hpoint] at h
  | registerThrows paused caught =>
    cases hpoint : s.point with
    | filling newHandler =>
      cases hq : s.proc.enterQueue with
      | nil => simp [step, hpoint, hq] at h
      | cons message rest =>
        simp only [step, hpoint, hq, Option.some.injEq] at h
        subst h
        exact .logging rfl rfl (by rw [next, next, hpoint])
    | _ => simp [step, hpoint] at h
  | install =>
    cases hpoint : s.point with
    | installing newHandler =>
      have hsnext : s.next = some newHandler.clientList := by rw [next, hpoint]
      by_cases hempty : newHandler.isEmpty = true
      · have hlist : newHandler.clientList = ∅ := AList.ext (List.isEmpty_iff.mp hempty)
        simp only [step, hpoint, hempty, if_true, Option.some.injEq] at h
        rw [show s.event cfg .install = none by simp [event, hpoint, hempty], ← h]
        exact .abandon (hsnext.trans (by rw [hlist])) rfl rfl
      · simp only [step, hpoint, hempty, Bool.false_eq_true, if_false, Option.some.injEq] at h
        rw [show s.event cfg .install = some .install by simp [event, hpoint, hempty], ← h]
        exact .install _ hsnext rfl rfl
    | _ => simp [step, hpoint] at h
  | start now =>
    simp only [step, Option.ite_none_right_eq_some, Option.some.injEq] at h
    obtain ⟨hpoint, rfl⟩ := h
    refine .keep ?_ (by rw [next, next, hpoint])
    cases hh : s.proc.handler <;> simp [current, hh]
  | announce logged =>
    simp only [step, Option.ite_none_right_eq_some, Option.some.injEq] at h
    obtain ⟨hpoint, rfl⟩ := h
    exact .logging rfl rfl (by rw [next, next, hpoint])

/-- A stopped restaurant stays stopped. -/
theorem step_of_stopped [DecidableEq C] {cfg : AttractionConfig} {s t : RestaurantSystem C}
    {a : RestaurantAction C} (h : step cfg s a = some t) (hs : s.point = .stopped) :
    t.point = .stopped := by
  cases a with
  | mailbox a =>
    obtain ⟨m, -, rfl⟩ := Option.map_eq_some_iff.mp h
    exact hs
  | sigUsr1 logged | sigUsr2 logged =>
    obtain rfl := Option.some.inj h
    cases logged
    · rfl
    · exact hs
  | closePark | sigInt =>
    obtain rfl := Option.some.inj h
    exact hs
  | _ => simp [step, hs] at h

end RestaurantSystem
end AmusementPark.Restaurant
