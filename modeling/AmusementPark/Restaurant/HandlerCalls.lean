import AmusementPark.Restaurant.Run
import AmusementPark.Worker.RoundsProgram

/-! # The restaurant as a program that runs rounds

The restaurant has one leave semaphore. Closing releases the installed handler
and leaves it in place, and `pCloseImpl` does not touch it.
-/
namespace AmusementPark.Restaurant
open Library Worker

namespace RestaurantProc

/-- The content of the request that `pRegisterClient` calls `AddClient` for, if it does. -/
def confirmed (isOpen : Bool) (cfg : AttractionConfig) (message : RestaurantMQMessage)
    (x : ReplyOutcome) (handler : AttractionHandler) : Option EnterRestaurant :=
  match message.content with
  | .emptyMessage => none
  | .enterRestaurant content =>
    if cfg.maxClientsPerHandler < handler.getClientCount + partySize content.hasChild ∧
        isOpen = true then none
    else match x.permitHandshake isOpen with
      | .ok true => some content
      | _ => none

theorem pRegisterClient_confirmed (isOpen : Bool) (cfg : AttractionConfig)
    (message : RestaurantMQMessage) (x : ReplyOutcome) (handler : AttractionHandler) :
    (∃ content, confirmed isOpen cfg message x handler = some content ∧
      handler.getClientCount + partySize content.hasChild ≤ cfg.maxClientsPerHandler ∧
      pRegisterClient isOpen cfg message x handler = (.ok true,
        (handler.addClient message.senderPID content.hasChild content.fromPark).2)) ∨
    (confirmed isOpen cfg message x handler = none ∧
      (pRegisterClient isOpen cfg message x handler).2 = handler) := by
  unfold confirmed pRegisterClient
  cases message.content with
  | emptyMessage => exact .inr ⟨rfl, rfl⟩
  | enterRestaurant content =>
    dsimp only
    by_cases hfull : cfg.maxClientsPerHandler <
        handler.getClientCount + partySize content.hasChild ∧ isOpen = true
    · exact .inr ⟨by rw [if_pos hfull], by rw [if_pos hfull]⟩
    · rw [if_neg hfull, if_neg hfull]
      rcases hhand : x.permitHandshake isOpen with e | _ | _
      · exact .inr ⟨rfl, rfl⟩
      · exact .inr ⟨rfl, rfl⟩
      · have hopen := (ReplyOutcome.permitHandshake_eq_true.mp hhand).1
        refine .inl ⟨content, rfl, ?_, rfl⟩
        by_contra hlt
        exact hfull ⟨by omega, hopen⟩

end RestaurantProc

/-- The leave semaphore `RestaurantHandler`. -/
def leaveSemaphore : ℕ := MainSemaphoreArray.restaurantHandler attractionConfig

/-- The stage of the round that is being prepared at each point of `Run`. -/
def RunPoint.stage : RunPoint → Stage
  | .filling newHandler | .installing newHandler => .building leaveSemaphore newHandler
  | .starting => .starting leaveSemaphore
  | .announcing => .announcing leaveSemaphore
  | .stopped => .stopped
  | _ => .idle

namespace RestaurantSystem
variable {C : Type*}

/-- `m_handler` as the handler on the one leave semaphore. -/
def onSemaphore (handler : Option AttractionHandler) (id : ℕ) : Option AttractionHandler :=
  if id = leaveSemaphore then handler else none

def rounds (s : RestaurantSystem C) : Rounds where
  installed := onSemaphore s.proc.handler
  stage := s.point.stage
  paused := s.proc.paused

/-- A call on `m_handler`, if there is one. -/
def callHandler (c : HandlerCall) (r : RestaurantProc) : List (ℕ × HandlerCall) :=
  if r.handler.isSome then [(leaveSemaphore, c)] else []

/-- The steps that install a new handler, and the signals whose exception is caught. -/
def kind (s : RestaurantSystem C) : RestaurantAction C → Rounds.StepKind
  | .install => match s.point with
    | .installing newHandler => if newHandler.isEmpty then .ordinary else .installs
    | _ => .ordinary
  | .registerThrows paused (.ok _) => .cut paused
  | .handleThrows paused _ => .cut paused
  | _ => .ordinary

/-- The calls on handlers that a step of `Run` or of a signal handler makes. -/
def handlerCalls (cfg : AttractionConfig) (s : RestaurantSystem C) :
    RestaurantAction C → List (ℕ × HandlerCall)
  | .sigUsr1 (.ok _) => callHandler .releaseClients s.proc
  | .sigUsr1 (.error _) | .sigUsr2 (.error _) | .registerThrows _ (.error _) => s.rounds.unwind
  | .finishCheck now => match s.point with
    | .woken _ => if !s.proc.evac && !s.proc.paused && s.proc.handler.any (·.finished now) then
        callHandler .destruct s.proc else []
    | _ => []
  | .handle _ | .handleThrows _ _ => match s.point, s.mailbox.receive.1 with
    | .checked _, some msg => if msg.mType = .exitRestaurant then
        callHandler (.removeClient msg.senderPID) s.proc else []
    | _, _ => []
  | .decide => if s.point = .deciding ∧
      (s.proc.handler.isNone && !s.proc.paused && !s.proc.evac) = true then
      [(leaveSemaphore, .construct (handlerData cfg))] else []
  | .register x => match s.point, s.proc.enterQueue with
    | .filling newHandler, message :: _ =>
      match (RestaurantProc.pRegisterClient s.isOpen cfg message x newHandler).1 with
      | .error _ => [(leaveSemaphore, .destruct)]
      | .ok _ => match RestaurantProc.confirmed s.isOpen cfg message x newHandler with
        | some content =>
          [(leaveSemaphore, .addClient message.senderPID content.hasChild content.fromPark)]
        | none => []
    | _, _ => []
  | .install => match s.point with
    | .installing newHandler => if newHandler.isEmpty then [(leaveSemaphore, .destruct)] else []
    | _ => []
  | .start now => if s.point = .starting then callHandler (.startAttraction now) s.proc else []
  | _ => []

/-- A new handler is built while `m_handler` is null, and started while it is not. -/
structure ValidHandler (s : RestaurantSystem C) : Prop where
  building : ∀ id h, s.point.stage = .building id h → s.proc.handler = none
  announced : ∀ id, s.point.stage.announced = some id → s.proc.handler.isSome = true

theorem ValidHandler.of_stage {s t : RestaurantSystem C} (hs : s.ValidHandler)
    (h : t.proc.handler.isSome = s.proc.handler.isSome ∧ t.point.stage = s.point.stage ∨
      t.point.stage ∈ [Stage.idle, .stopped]) : t.ValidHandler := by
  obtain ⟨hsome, hstage⟩ | hother := h
  · refine ⟨fun id h hb => ?_, fun id ha => ?_⟩
    · have := hs.building id h (hstage ▸ hb)
      rw [this] at hsome
      simpa using hsome
    · exact hsome ▸ hs.announced id (hstage ▸ ha)
  · refine ⟨fun id h hb => ?_, fun id ha => ?_⟩
    · simp [hb] at hother
    · simp only [List.mem_cons, List.not_mem_nil, or_false] at hother
      rcases hother with h | h <;> simp [h, Stage.announced] at ha

@[simp] theorem rounds_stage (s : RestaurantSystem C) : s.rounds.stage = s.point.stage := rfl

/-- A step that leaves the rounds alone and calls no handler. -/
theorem step_keep {cap : ℕ} {s t : RestaurantSystem C} {calls : List (ℕ × HandlerCall)}
    (hcalls : calls = []) (hhandler : t.proc.handler = s.proc.handler)
    (hstage : t.point.stage = s.point.stage) (hpaused : t.proc.paused = s.proc.paused) :
    s.rounds.Step cap .ordinary calls t.rounds := by
  have hsame : t.rounds = s.rounds := by rw [rounds, hhandler, hstage, hpaused, rounds]
  rw [hcalls, hsame]
  exact .keep

/-- A step between two rounds. -/
theorem idle_rounds {cap : ℕ} {s t : RestaurantSystem C} {calls : List (ℕ × HandlerCall)}
    (hs : s.ValidHandler) (hidle : s.point.stage = .idle) (hcalls : calls = [])
    (hhandler : t.proc.handler = s.proc.handler) (hstage : t.point.stage = .idle)
    (hpaused : t.proc.paused = s.proc.paused) :
    s.rounds.Step cap .ordinary calls t.rounds ∧ t.ValidHandler := by
  constructor
  · exact step_keep hcalls hhandler (hstage.trans hidle.symm) hpaused
  · exact hs.of_stage (.inr (by simp [hstage]))

/-- The end of `Run`, or an exception that leaves it. -/
theorem stop_rounds {cap : ℕ} {s t : RestaurantSystem C} {calls : List (ℕ × HandlerCall)}
    (hs : s.ValidHandler) (hcalls : calls = s.rounds.unwind)
    (hhandler : t.proc.handler = s.proc.handler) (hstage : t.point.stage = .stopped) :
    s.rounds.Step cap .ordinary calls t.rounds ∧ t.ValidHandler := by
  have hstop : t.rounds = ⟨s.rounds.installed, .stopped, t.proc.paused⟩ := by
    simp [rounds, hhandler, hstage]
  rw [hcalls, hstop]
  exact ⟨.stop _, hs.of_stage (.inr (by simp [hstage]))⟩

/-- A call on `m_handler` is a call on the installed handlers. -/
theorem callHandler_onInstalled (s : RestaurantSystem C) (c : HandlerCall) :
    s.rounds.OnInstalled c (callHandler c s.proc) (onSemaphore (s.proc.handler.bind c.effect)) := by
  cases hh : s.proc.handler with
  | none =>
    have hcalls : callHandler c s.proc = [] := by simp [callHandler, hh]
    rw [hcalls]
    exact ⟨List.nodup_nil, fun e he => (by cases he), fun id _ => by simp [rounds, hh]⟩
  | some h =>
    have hcalls : callHandler c s.proc = [(leaveSemaphore, c)] := by simp [callHandler, hh]
    rw [hcalls]
    refine ⟨List.nodup_singleton _, fun e he => ?_, fun id hid => ?_⟩
    · obtain rfl := List.mem_singleton.mp he
      exact ⟨rfl, h, by simp [rounds, onSemaphore, hh], by simp [onSemaphore]⟩
    · have hne : id ≠ leaveSemaphore := by simpa using hid
      simp [rounds, onSemaphore, hne]

theorem onSemaphore_update (handler : Option AttractionHandler) (h : AttractionHandler) :
    onSemaphore (some h) = Function.update (onSemaphore handler) leaveSemaphore (some h) := by
  funext id
  by_cases hid : id = leaveSemaphore
  · rw [hid, Function.update_self, onSemaphore, if_pos rfl]
  · rw [Function.update_of_ne hid, onSemaphore, if_neg hid, onSemaphore, if_neg hid]

/-- Installing or starting a handler, as a function of the semaphores. -/
theorem rounds_handler (s : RestaurantSystem C) (h : AttractionHandler) (point : RunPoint) :
    rounds { s with proc := { s.proc with handler := some h }, point := point } =
      ⟨Function.update s.rounds.installed leaveSemaphore (some h), point.stage,
        s.rounds.paused⟩ := by
  simp only [rounds, ← onSemaphore_update]

/-- A signal handler: past its log message, or out of the process with an exception. -/
theorem logging_rounds {cap : ℕ} {s t u : RestaurantSystem C} {logged : Except Exn Unit}
    (calls : Except Exn Unit → List (ℕ × HandlerCall)) (hs : s.ValidHandler)
    (hok : ∀ x, s.rounds.Step cap .ordinary (calls (.ok x)) u.rounds ∧ u.ValidHandler)
    (herror : ∀ e, calls (.error e) = s.rounds.unwind)
    (hhandler : t.proc.handler = s.proc.handler) :
    s.rounds.Step cap .ordinary (calls logged) (t.logging logged u).rounds ∧
      (t.logging logged u).ValidHandler := by
  cases logged with
  | ok x => exact hok x
  | error e => exact stop_rounds hs (herror e) hhandler rfl

theorem register_rounds {cfg : AttractionConfig} {s : RestaurantSystem C} (hs : s.ValidHandler)
    {newHandler : AttractionHandler} (hpoint : s.point = .filling newHandler) (x : ReplyOutcome) :
    s.rounds.Step cfg.maxClientsPerHandler .ordinary (s.handlerCalls cfg (.register x))
        (s.fill cfg newHandler x).rounds ∧ (s.fill cfg newHandler x).ValidHandler := by
  have hstage : s.rounds.stage = .building leaveSemaphore newHandler := by
    rw [rounds_stage, hpoint]
    rfl
  have hnone := hs.building leaveSemaphore newHandler hstage
  have valid {t : RestaurantSystem C} (hhandler : t.proc.handler = s.proc.handler)
      {k : AttractionHandler} (hk : t.point.stage = .building leaveSemaphore k) :
      t.ValidHandler :=
    ⟨fun _ _ _ => hhandler.trans hnone, fun id ha => by simp [hk, Stage.announced] at ha⟩
  unfold fill
  cases hq : s.proc.enterQueue with
  | nil =>
    exact ⟨step_keep (by simp [handlerCalls, hpoint, hq]) rfl (by rw [hpoint]; rfl) rfl,
      valid (k := newHandler) rfl rfl⟩
  | cons message rest =>
    obtain ⟨content, hconf, hfits, hreg⟩ | ⟨hconf, hsame⟩ :=
      RestaurantProc.pRegisterClient_confirmed s.isOpen cfg message x newHandler
    · have hcalls : s.handlerCalls cfg (.register x) = [(leaveSemaphore,
          .addClient message.senderPID content.hasChild content.fromPark)] := by
        simp [handlerCalls, hpoint, hq, hreg, hconf]
      simp only [hcalls, hreg]
      exact ⟨.admission message.senderPID content.hasChild content.fromPark hstage hfits,
        valid rfl rfl⟩
    · dsimp only
      rcases hr : (RestaurantProc.pRegisterClient s.isOpen cfg message x newHandler).1 with
        e | _ | _
      · have hcalls : s.handlerCalls cfg (.register x) = s.rounds.unwind := by
          simp [handlerCalls, hpoint, hq, hr, Rounds.unwind, RunPoint.stage]
        exact stop_rounds hs hcalls rfl rfl
      all_goals
        exact ⟨step_keep (by simp [handlerCalls, hpoint, hq, hr, hconf]) rfl
          (by simp only [hpoint, hsame, RunPoint.stage]) rfl, valid rfl rfl⟩

theorem closeAttraction_rounds {cap : ℕ} {s : RestaurantSystem C} (hs : s.ValidHandler) :
    s.rounds.Step cap .ordinary (callHandler .releaseClients s.proc) (rounds { s with
        proc := RestaurantProc.closeAttraction { s.proc with paused := true } }) ∧
      ValidHandler { s with
        proc := RestaurantProc.closeAttraction { s.proc with paused := true } } := by
  have hrelease : rounds { s with
      proc := RestaurantProc.closeAttraction { s.proc with paused := true } } =
      ⟨onSemaphore (s.proc.handler.bind HandlerCall.releaseClients.effect), s.rounds.stage,
        true⟩ := by
    cases hh : s.proc.handler <;>
      simp [rounds, RestaurantProc.closeAttraction, hh, HandlerCall.effect]
  rw [hrelease]
  refine ⟨.release (callHandler_onInstalled s .releaseClients) fun id hid => ?_,
    hs.of_stage (.inl ⟨?_, rfl⟩)⟩
  · by_cases hsem : id = leaveSemaphore
    · have hsome : s.proc.handler.isSome = true := by
        simpa [rounds, onSemaphore, hsem] using hid
      simp [callHandler, hsome, hsem]
    · simp [rounds, onSemaphore, hsem] at hid
  · simp [RestaurantProc.closeAttraction]

theorem registerThrows_rounds [DecidableEq C] {cfg : AttractionConfig} {s t : RestaurantSystem C}
    (hs : s.ValidHandler) {paused : Bool} {caught : Except Exn Unit}
    (h : step cfg s (.registerThrows paused caught) = some t) :
    s.rounds.Step cfg.maxClientsPerHandler (s.kind (.registerThrows paused caught))
        (s.handlerCalls cfg (.registerThrows paused caught)) t.rounds ∧ t.ValidHandler := by
  obtain ⟨newHandler, message, rest, hpoint, -, rfl⟩ := registerThrows_step h
  have hstage : s.rounds.stage = .building leaveSemaphore newHandler := by
    rw [rounds_stage, hpoint]
    rfl
  cases caught with
  | ok _ => exact ⟨.cut paused hstage, hs.of_stage (.inl ⟨rfl, rfl⟩)⟩
  | error e => exact stop_rounds hs rfl rfl rfl

theorem finishCheck_rounds [DecidableEq C] {cfg : AttractionConfig} {s t : RestaurantSystem C}
    (hs : s.ValidHandler) {now : ℤ} (h : step cfg s (.finishCheck now) = some t) :
    s.rounds.Step cfg.maxClientsPerHandler .ordinary (s.handlerCalls cfg (.finishCheck now))
        t.rounds ∧ t.ValidHandler := by
  cases hpoint : s.point with
  | woken token =>
    have hidle : s.point.stage = .idle := by rw [hpoint]; rfl
    simp only [step, hpoint, Option.some.injEq] at h
    subst h
    by_cases hdrop : (!s.proc.evac && !s.proc.paused && s.proc.handler.any (·.finished now)) =
        true
    · have hcalls : s.handlerCalls cfg (.finishCheck now) = callHandler .destruct s.proc := by
        simp only [handlerCalls, hpoint, hdrop, if_true]
      have hnone : s.proc.handler.bind HandlerCall.destruct.effect = none := by
        cases s.proc.handler <;> rfl
      have hstep := callHandler_onInstalled s .destruct
      rw [hnone] at hstep
      simp only [hcalls, hdrop, if_true]
      exact ⟨.finishes hidle hstep, hs.of_stage (.inr (by simp [RunPoint.stage]))⟩
    · have hcalls : s.handlerCalls cfg (.finishCheck now) = [] := by
        simp only [handlerCalls, hpoint]
        rw [if_neg hdrop]
      exact idle_rounds hs hidle hcalls (by rw [if_neg hdrop]) rfl (by rw [if_neg hdrop])
  | _ => simp [step, hpoint] at h

/-- The rounds after the removal of a client. -/
theorem exit_rounds {s : RestaurantSystem C} {msg : RestaurantMQMessage} (x : ReplyOutcome)
    (m : Mailbox RestaurantMQMessage C) (htype : msg.mType = .exitRestaurant) {paused : Bool} :
    RestaurantSystem.rounds { s with
        proc := { (RestaurantProc.pHandleRestaurantMQ msg x s.proc).1 with paused := paused }
        mailbox := m
        point := .deciding } =
      ⟨onSemaphore (s.proc.handler.bind (HandlerCall.removeClient msg.senderPID).effect),
        .idle, paused⟩ := by
  rw [RestaurantProc.pHandleRestaurantMQ_exit msg x s.proc htype]
  cases hh : s.proc.handler <;>
    simp [rounds, RestaurantProc.pRemoveClient, hh, HandlerCall.effect, RunPoint.stage]

theorem handle_rounds [DecidableEq C] {cfg : AttractionConfig} {s t : RestaurantSystem C}
    (hs : s.ValidHandler) {x : ReplyOutcome} (h : step cfg s (.handle x) = some t) :
    s.rounds.Step cfg.maxClientsPerHandler .ordinary (s.handlerCalls cfg (.handle x)) t.rounds ∧
      t.ValidHandler := by
  cases hpoint : s.point with
  | checked token =>
    have hidle : s.point.stage = .idle := by rw [hpoint]; rfl
    rcases hreceive : s.mailbox.receive with ⟨_ | msg, m⟩
    · simp only [step, hpoint, hreceive, Option.some.injEq] at h
      subst h
      exact idle_rounds hs hidle (by simp [handlerCalls, hpoint, hreceive]) rfl rfl rfl
    · simp only [step, hpoint, hreceive, Option.some.injEq] at h
      subst h
      by_cases htype : msg.mType = .exitRestaurant
      · have hcalls : s.handlerCalls cfg (.handle x) =
            callHandler (.removeClient msg.senderPID) s.proc := by
          simp [handlerCalls, hpoint, hreceive, htype]
        have hproc : (RestaurantProc.pHandleRestaurantMQ msg x s.proc).1 =
            { (RestaurantProc.pHandleRestaurantMQ msg x s.proc).1 with
              paused := s.proc.paused } := by
          rw [RestaurantProc.pHandleRestaurantMQ_exit msg x s.proc htype]
          rfl
        rw [hcalls, hproc, exit_rounds x m htype]
        exact ⟨.exits msg.senderPID hidle (callHandler_onInstalled s _),
          hs.of_stage (.inr (by simp [RunPoint.stage]))⟩
      · apply idle_rounds hs hidle (by simp [handlerCalls, hpoint, hreceive, htype])
          (RestaurantProc.pHandleRestaurantMQ_other msg x s.proc htype) rfl
        unfold RestaurantProc.pHandleRestaurantMQ
        cases hm : msg.mType with
        | exitRestaurant => exact absurd hm htype
        | enterRestaurant => rfl
        | other raw => rfl
  | _ => simp [step, hpoint] at h

theorem handleThrows_rounds [DecidableEq C] {cfg : AttractionConfig} {s t : RestaurantSystem C}
    (hs : s.ValidHandler) {paused : Bool} {x : ReplyOutcome}
    (h : step cfg s (.handleThrows paused x) = some t) :
    s.rounds.Step cfg.maxClientsPerHandler (.cut paused)
      (s.handlerCalls cfg (.handleThrows paused x)) t.rounds ∧ t.ValidHandler := by
  obtain ⟨token, msg, m, hpoint, hreceive, htype, u, hu, rfl⟩ := handle_of_handleThrows h
  simp only [step, hpoint, hreceive, Option.some.injEq] at hu
  have hcalls : s.handlerCalls cfg (.handleThrows paused x) =
      callHandler (.removeClient msg.senderPID) s.proc := by
    simp [handlerCalls, hpoint, hreceive, htype]
  rw [hcalls, ← hu, exit_rounds x m htype]
  exact ⟨.cutExits msg.senderPID (by rw [rounds_stage, hpoint]; rfl)
    (callHandler_onInstalled s _), hs.of_stage (.inr (by simp [RunPoint.stage]))⟩

theorem decide_rounds [DecidableEq C] {cfg : AttractionConfig} {s t : RestaurantSystem C}
    (hs : s.ValidHandler) (h : step cfg s .decide = some t) :
    s.rounds.Step cfg.maxClientsPerHandler .ordinary (s.handlerCalls cfg .decide) t.rounds ∧
      t.ValidHandler := by
  simp only [step, Option.ite_none_right_eq_some, Option.some.injEq] at h
  obtain ⟨hpoint, rfl⟩ := h
  have hidle : s.point.stage = .idle := by rw [hpoint]; rfl
  by_cases hnew : (s.proc.handler.isNone && !s.proc.paused && !s.proc.evac) = true
  · have hcalls : s.handlerCalls cfg .decide =
        [(leaveSemaphore, .construct (handlerData cfg))] := by
      simp only [handlerCalls, hpoint, hnew, and_self, if_true]
    simp only [Bool.and_eq_true, Option.isNone_iff_eq_none, Bool.not_eq_true'] at hnew
    have hnone : s.proc.handler = none := hnew.1.1
    simp only [hcalls, hnone, hnew.1.2, hnew.2, Option.isNone_none, Bool.not_false,
      Bool.and_self, if_true]
    refine ⟨.create leaveSemaphore (handlerData cfg) hidle hnew.1.2
      (by simp [rounds, onSemaphore, hnone]), ⟨fun _ _ _ => hnone, fun id ha => ?_⟩⟩
    simp [RunPoint.stage, Stage.announced] at ha
  · have hcalls : s.handlerCalls cfg .decide = [] := by
      rw [handlerCalls, if_neg fun h => hnew h.2]
    rw [if_neg hnew]
    exact idle_rounds hs hidle hcalls rfl rfl rfl

theorem install_rounds [DecidableEq C] {cfg : AttractionConfig} {s t : RestaurantSystem C}
    (hs : s.ValidHandler) (h : step cfg s .install = some t) :
    s.rounds.Step cfg.maxClientsPerHandler (s.kind (.install : RestaurantAction C))
        (s.handlerCalls cfg .install) t.rounds ∧ t.ValidHandler := by
  cases hpoint : s.point with
  | installing newHandler =>
    have hstage : s.rounds.stage = .building leaveSemaphore newHandler := by
      rw [rounds_stage, hpoint]
      rfl
    cases hempty : newHandler.isEmpty with
    | true =>
      simp only [step, hpoint, hempty, if_true, Option.some.injEq] at h
      subst h
      have hcalls : s.handlerCalls cfg .install = [(leaveSemaphore, .destruct)] := by
        simp [handlerCalls, hpoint, hempty]
      have hkind : s.kind (.install : RestaurantAction C) = .ordinary := by
        simp [kind, hpoint, hempty]
      rw [hcalls, hkind]
      exact ⟨.discard hstage hempty, hs.of_stage (.inr (by simp [RunPoint.stage]))⟩
    | false =>
      simp only [step, hpoint, hempty, Bool.false_eq_true, if_false, Option.some.injEq] at h
      subst h
      have hcalls : s.handlerCalls cfg .install = [] := by simp [handlerCalls, hpoint, hempty]
      have hkind : s.kind (.install : RestaurantAction C) = .installs := by
        simp [kind, hpoint, hempty]
      rw [hcalls, hkind, rounds_handler s newHandler .starting]
      refine ⟨.install hstage hempty, ⟨fun id h hb => ?_, fun _ _ => rfl⟩⟩
      simp [RunPoint.stage] at hb
  | _ => simp [step, hpoint] at h

theorem start_rounds [DecidableEq C] {cfg : AttractionConfig} {s t : RestaurantSystem C}
    (hs : s.ValidHandler) {now : ℤ} (h : step cfg s (.start now) = some t) :
    s.rounds.Step cfg.maxClientsPerHandler .ordinary (s.handlerCalls cfg (.start now)) t.rounds ∧
      t.ValidHandler := by
  simp only [step, Option.ite_none_right_eq_some, Option.some.injEq] at h
  obtain ⟨hpoint, rfl⟩ := h
  have hstage : s.rounds.stage = .starting leaveSemaphore := by
    rw [rounds_stage, hpoint]
    rfl
  obtain ⟨handler, hh⟩ := Option.isSome_iff_exists.mp
    (hs.announced leaveSemaphore (by rw [← rounds_stage, hstage]; rfl))
  have hcalls : s.handlerCalls cfg (.start now) = [(leaveSemaphore, .startAttraction now)] := by
    simp [handlerCalls, hpoint, callHandler, hh]
  rw [hcalls, hh, Option.map_some, rounds_handler s (handler.startAttraction now) .announcing]
  refine ⟨.start now hstage (by simp [rounds, onSemaphore, hh]), ⟨fun id h hb => ?_,
    fun _ _ => rfl⟩⟩
  simp [RunPoint.stage] at hb

theorem announce_rounds [DecidableEq C] {cfg : AttractionConfig} {s t : RestaurantSystem C}
    (hs : s.ValidHandler) {logged : Except Exn Unit} (h : step cfg s (.announce logged) = some t) :
    s.rounds.Step cfg.maxClientsPerHandler .ordinary (s.handlerCalls cfg (.announce logged))
        t.rounds ∧ t.ValidHandler := by
  simp only [step, Option.ite_none_right_eq_some, Option.some.injEq] at h
  obtain ⟨hpoint, rfl⟩ := h
  have hstage : s.rounds.stage = .announcing leaveSemaphore := by
    rw [rounds_stage, hpoint]
    rfl
  have hsome := hs.announced leaveSemaphore (by rw [← rounds_stage, hstage]; rfl)
  have hinstalled : (s.rounds.installed leaveSemaphore).isSome = true := by
    simpa [rounds, onSemaphore] using hsome
  refine logging_rounds (fun x => s.handlerCalls cfg (.announce x)) hs
    (fun _ => ⟨.announce hstage hinstalled, hs.of_stage (.inr (by simp [RunPoint.stage]))⟩)
    (fun _ => ?_) rfl
  obtain ⟨handler, hh⟩ := Option.isSome_iff_exists.mp hinstalled
  rw [Rounds.unwind, hstage]
  simp [handlerCalls, hh]

/-- What each step of the restaurant does to its rounds. -/
theorem step_rounds [DecidableEq C] {cfg : AttractionConfig} {s t : RestaurantSystem C}
    {a : RestaurantAction C} (hs : s.ValidHandler) (h : step cfg s a = some t) :
    s.rounds.Step cfg.maxClientsPerHandler (s.kind a) (s.handlerCalls cfg a) t.rounds ∧
      t.ValidHandler := by
  cases a with
  | mailbox a =>
    obtain ⟨m, -, rfl⟩ := Option.map_eq_some_iff.mp h
    exact ⟨.keep, hs.of_stage (.inl ⟨rfl, rfl⟩)⟩
  | closePark | sigInt =>
    obtain rfl := Option.some.inj h
    exact ⟨.keep, hs.of_stage (.inl ⟨rfl, rfl⟩)⟩
  | sigUsr1 logged =>
    obtain rfl := Option.some.inj h
    exact logging_rounds (fun x => s.handlerCalls cfg (.sigUsr1 x)) hs
      (fun _ => closeAttraction_rounds hs) (fun _ => rfl) rfl
  | sigUsr2 logged =>
    obtain rfl := Option.some.inj h
    exact logging_rounds (fun x => s.handlerCalls cfg (.sigUsr2 x)) hs
      (fun _ => ⟨.resume, hs.of_stage (.inl ⟨rfl, rfl⟩)⟩) (fun _ => rfl) rfl
  | check now =>
    simp only [step, Option.ite_none_right_eq_some, Option.some.injEq] at h
    obtain ⟨hpoint, rfl⟩ := h
    have hidle : s.rounds.stage = .idle := by rw [rounds_stage, hpoint]; rfl
    cases hcontinues : s.continues with
    | true => exact idle_rounds hs hidle rfl rfl rfl rfl
    | false => exact stop_rounds hs (Rounds.unwind_idle hidle).symm rfl rfl
  | wake token =>
    cases hpoint : s.point with
    | waiting timeout =>
      have hidle : s.point.stage = .idle := by rw [hpoint]; rfl
      cases token with
      | true =>
        simp only [step, hpoint, if_true, Option.ite_none_left_eq_some,
          Option.map_eq_some_iff] at h
        obtain ⟨-, m, -, rfl⟩ := h
        exact idle_rounds hs hidle rfl rfl rfl rfl
      | false =>
        simp only [step, hpoint, Bool.false_eq_true, if_false, Option.some.injEq] at h
        subst h
        exact idle_rounds hs hidle rfl rfl rfl rfl
    | _ => simp [step, hpoint] at h
  | finishCheck now => exact finishCheck_rounds hs h
  | receiveThrows =>
    cases hpoint : s.point with
    | checked token =>
      simp only [step, hpoint, Option.some.injEq] at h
      subst h
      have hidle : s.rounds.stage = .idle := by rw [rounds_stage, hpoint]; rfl
      exact stop_rounds hs (Rounds.unwind_idle hidle).symm rfl rfl
    | _ => simp [step, hpoint] at h
  | handle x => exact handle_rounds hs h
  | handleThrows paused x => exact handleThrows_rounds hs h
  | decide => exact decide_rounds hs h
  | register x =>
    cases hpoint : s.point with
    | filling newHandler =>
      simp only [step, hpoint, Option.some.injEq] at h
      subst h
      exact register_rounds hs hpoint x
    | _ => simp [step, hpoint] at h
  | registerThrows paused caught => exact registerThrows_rounds hs h
  | install => exact install_rounds hs h
  | start now => exact start_rounds hs h
  | announce logged => exact announce_rounds hs h

/-- The restaurant as a program that runs rounds; its `pCloseImpl` leaves `m_handler` alone. -/
def program (C : Type*) [DecidableEq C] (cfg : AttractionConfig) :
    RoundsProgram (RestaurantSystem C) (RestaurantAction C) where
  machine := machine C cfg
  capacity := cfg.maxClientsPerHandler
  rounds := rounds
  kind := kind
  calls := handlerCalls cfg
  pCloseImpl := id
  closeCalls _ := []
  Valid := ValidHandler
  valid_step hs h := (step_rounds hs h).2
  step_rounds hs h := (step_rounds hs h).1
  valid_close hs := hs
  close_rounds _ _ := .keep

/-- The restaurant before `Run`; an exception in `Init` skips `Run`. -/
def start (tokens : ℕ) (initialised : Except Exn Unit) : RestaurantSystem C :=
  match initialised with
  | .ok () => init tokens
  | .error _ => { init tokens with point := .stopped }

theorem start_starts [DecidableEq C] (cfg : AttractionConfig) (tokens : ℕ)
    (initialised : Except Exn Unit) :
    (program C cfg).Starts (start tokens initialised) := by
  have hempty (id : ℕ) : onSemaphore RestaurantProc.init.handler id = none := ite_self none
  cases initialised with
  | ok u => exact ⟨⟨fun _ _ hb => (by cases hb), fun _ ha => (by cases ha)⟩, hempty, .inl rfl⟩
  | error e => exact ⟨⟨fun _ _ hb => (by cases hb), fun _ ha => (by cases ha)⟩, hempty, .inr rfl⟩

end RestaurantSystem
end AmusementPark.Restaurant
