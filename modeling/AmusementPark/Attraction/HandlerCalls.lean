import AmusementPark.Attraction.Run
import AmusementPark.Worker.RoundsProgram

/-! # The rounds of an attraction

The handlers of an attraction as rounds on its leave semaphores, and the calls
that each step of its main loop makes on them.
-/
namespace AmusementPark.Attraction
open Library Worker

namespace HandlerMap

/-- The leave semaphores of the attraction. -/
def ids (m : HandlerMap) : List ℕ := m.map Prod.fst

theorem get_cons (id i : ℕ) (h : Option AttractionHandler) (m : HandlerMap) :
    get id ((i, h) :: m) = if id = i then h else get id m := by
  by_cases hid : id = i
  · simp [get, hid]
  · simp [get, hid, List.lookup_cons, beq_eq_false_iff_ne.mpr hid]

theorem get_of_mem {m : HandlerMap} (hm : m.ids.Nodup) {id : ℕ} {h : Option AttractionHandler}
    (hmem : (id, h) ∈ m) : get id m = h := by
  induction m with
  | nil => cases hmem
  | cons e m ih =>
    simp only [ids, List.map_cons, List.nodup_cons] at hm
    rw [get_cons]
    obtain rfl | hmem := List.mem_cons.mp hmem
    · rw [if_pos rfl]
    · have hne : id ≠ e.1 := fun h => hm.1 (h ▸ List.mem_map_of_mem hmem)
      rw [if_neg hne]
      exact ih hm.2 hmem

theorem mem_of_get {m : HandlerMap} {id : ℕ} {h : AttractionHandler} (hget : get id m = some h) :
    (id, some h) ∈ m := by
  induction m with
  | nil => cases hget
  | cons e m ih =>
    rw [get_cons] at hget
    split at hget
    · next hid => exact List.mem_cons.mpr (.inl (by rw [hid, ← hget]))
    · exact List.mem_cons_of_mem _ (ih hget)

/-! ## The operations -/

@[simp] theorem ids_set (id : ℕ) (h : Option AttractionHandler) (m : HandlerMap) :
    (m.set id h).ids = m.ids := by
  simp only [ids, set, List.map_map]
  refine List.map_congr_left fun e _ => ?_
  by_cases he : e.1 = id <;> simp [he]

@[simp] theorem ids_dropFinished (now : ℤ) (m : HandlerMap) : (m.dropFinished now).ids = m.ids := by
  simp [ids, dropFinished, Function.comp_def]

@[simp] theorem ids_clear (m : HandlerMap) : m.clear.ids = m.ids := by
  simp [ids, clear, Function.comp_def]

@[simp] theorem ids_removeClient (pid : Pid) (m : HandlerMap) :
    (m.removeClient pid).ids = m.ids := by
  induction m with
  | nil => rfl
  | cons e m ih =>
    obtain ⟨id, _ | h⟩ := e
    · exact congrArg (id :: ·) ih
    · simp only [removeClient]
      split
      · rfl
      · exact congrArg (id :: ·) ih

theorem set_cons (id : ℕ) (h : Option AttractionHandler) (i : ℕ) (k : Option AttractionHandler)
    (m : HandlerMap) :
    set id h ((i, k) :: m) = (if i = id then (id, h) else (i, k)) :: set id h m := rfl

theorem get_set_of_ne {id j : ℕ} (hj : j ≠ id) (h : Option AttractionHandler) (m : HandlerMap) :
    get j (m.set id h) = get j m := by
  induction m with
  | nil => rfl
  | cons e m ih =>
    obtain ⟨i, k⟩ := e
    by_cases hi : i = id
    · rw [set_cons, if_pos hi, get_cons, if_neg hj, get_cons, if_neg (hi ▸ hj), ih]
    · rw [set_cons, if_neg hi, get_cons, get_cons, ih]

theorem get_set_self {id : ℕ} (h : Option AttractionHandler) {m : HandlerMap}
    (hid : id ∈ m.ids) : get id (m.set id h) = h := by
  induction m with
  | nil => cases hid
  | cons e m ih =>
    obtain ⟨i, k⟩ := e
    by_cases hi : i = id
    · rw [set_cons, if_pos hi, get_cons, if_pos rfl]
    · rw [set_cons, if_neg hi, get_cons, if_neg (Ne.symm hi)]
      exact ih ((List.mem_cons.mp hid).resolve_left (Ne.symm hi))

/-- Installing or starting a handler, as a function of the semaphores. -/
theorem get_set {id : ℕ} (h : Option AttractionHandler) {m : HandlerMap} (hid : id ∈ m.ids) :
    (fun j => get j (m.set id h)) = Function.update (fun j => get j m) id h := by
  funext j
  by_cases hj : j = id
  · rw [hj, Function.update_self, get_set_self h hid]
  · rw [Function.update_of_ne hj, get_set_of_ne hj]

@[simp] theorem get_clear (id : ℕ) (m : HandlerMap) : get id m.clear = none := by
  induction m with
  | nil => rfl
  | cons e m ih =>
    rw [clear, List.map_cons, get_cons]
    split
    · rfl
    · exact ih

theorem get_dropFinished (now : ℤ) (id : ℕ) (m : HandlerMap) :
    get id (m.dropFinished now) = (get id m).filter fun h => !h.finished now := by
  induction m with
  | nil => rfl
  | cons e m ih =>
    rw [dropFinished, List.map_cons, get_cons, get_cons]
    split
    · rfl
    · exact ih

theorem firstFree_eq_some {m : HandlerMap} (hm : m.ids.Nodup) {id : ℕ}
    (h : m.firstFree = some id) : id ∈ m.ids ∧ get id m = none := by
  obtain ⟨e, he, rfl⟩ := Option.map_eq_some_iff.mp h
  have hmem := List.mem_of_find?_eq_some he
  have hnone : e.2 = none := Option.isNone_iff_eq_none.mp
    (List.find?_some (p := fun e : ℕ × Option AttractionHandler => e.2.isNone) he)
  exact ⟨List.mem_map_of_mem hmem, (get_of_mem hm hmem).trans hnone⟩

/-! ## Calls on the installed handlers -/

/-- One call on each installed handler that the condition picks, in the order of the map. -/
def callWhere (pick : ℕ → AttractionHandler → Bool) (c : HandlerCall) (m : HandlerMap) :
    List (ℕ × HandlerCall) :=
  m.filterMap fun e => if e.2.any (pick e.1) then some (e.1, c) else none

/-- The calls of the loop in `pRemoveClient`: up to the first handler that holds the client. -/
def removeCalls (pid : Pid) : HandlerMap → List (ℕ × HandlerCall)
  | [] => []
  | (_, none) :: rest => removeCalls pid rest
  | (id, some handler) :: rest =>
    (id, .removeClient pid) :: if (handler.removeClient pid).1 then [] else removeCalls pid rest

theorem callWhere_nodup {m : HandlerMap} (hm : m.ids.Nodup) (pick : ℕ → AttractionHandler → Bool)
    (c : HandlerCall) : ((m.callWhere pick c).map Prod.fst).Nodup := by
  refine List.Nodup.sublist ?_ hm
  induction m with
  | nil => exact List.Sublist.refl _
  | cons e m ih =>
    have := ih (List.nodup_cons.mp hm).2
    by_cases hpick : e.2.any (pick e.1) = true
    · simpa [callWhere, ids, hpick] using this
    · simp only [callWhere, List.filterMap_cons, hpick]
      exact this.cons e.1

theorem mem_callWhere {m : HandlerMap} (hm : m.ids.Nodup) {pick : ℕ → AttractionHandler → Bool}
    {c : HandlerCall} {e : ℕ × HandlerCall} :
    e ∈ m.callWhere pick c ↔ e.2 = c ∧ ∃ h, get e.1 m = some h ∧ pick e.1 h = true := by
  simp only [callWhere, List.mem_filterMap, Option.ite_none_right_eq_some, Option.some.injEq]
  constructor
  · rintro ⟨⟨id, _ | h⟩, hmem, hpick, rfl⟩
    · cases hpick
    · exact ⟨rfl, h, get_of_mem hm hmem, hpick⟩
  · rintro ⟨rfl, h, hget, hpick⟩
    exact ⟨(e.1, some h), mem_of_get hget, by simpa using hpick, rfl⟩

theorem mem_callWhere_ids {m : HandlerMap} (hm : m.ids.Nodup)
    {pick : ℕ → AttractionHandler → Bool} {c : HandlerCall} {id : ℕ} :
    id ∈ (m.callWhere pick c).map Prod.fst ↔ ∃ h, get id m = some h ∧ pick id h = true := by
  constructor
  · intro hid
    obtain ⟨e, he, rfl⟩ := List.mem_map.mp hid
    exact ((mem_callWhere hm).mp he).2
  · intro hpick
    exact List.mem_map.mpr ⟨(id, c), (mem_callWhere hm).mpr ⟨rfl, hpick⟩, rfl⟩

theorem removeCalls_sublist (pid : Pid) (m : HandlerMap) :
    ((removeCalls pid m).map Prod.fst).Sublist m.ids := by
  induction m with
  | nil => exact List.Sublist.refl _
  | cons e m ih =>
    obtain ⟨id, _ | h⟩ := e
    · exact ih.cons id
    · simp only [removeCalls, List.map_cons]
      refine List.Sublist.cons_cons id ?_
      split
      · exact List.nil_sublist _
      · exact ih

/-- `pRemoveClient` calls `RemoveClient` on some installed handlers and leaves the others. -/
theorem removeCalls_spec (pid : Pid) {m : HandlerMap} (hm : m.ids.Nodup) :
    (∀ e ∈ removeCalls pid m, e.2 = .removeClient pid ∧ ∃ h, get e.1 m = some h ∧
      get e.1 (removeClient pid m) = some (h.removeClient pid).2) ∧
    ∀ id, id ∉ (removeCalls pid m).map Prod.fst → get id (removeClient pid m) = get id m := by
  induction m with
  | nil => exact ⟨fun e he => (by cases he), fun id _ => rfl⟩
  | cons e m ih =>
    simp only [ids, List.map_cons, List.nodup_cons] at hm
    obtain ⟨hcalled, hrest⟩ := ih hm.2
    have hne (e' : ℕ × HandlerCall) (he' : e' ∈ removeCalls pid m) : e'.1 ≠ e.1 := fun h =>
      hm.1 (h ▸ (removeCalls_sublist pid m).subset (List.mem_map_of_mem he'))
    obtain ⟨i, _ | h⟩ := e
    · refine ⟨fun e' he' => ?_, fun id hid => ?_⟩
      · rw [removeClient, get_cons, if_neg (hne e' he'), get_cons, if_neg (hne e' he')]
        exact hcalled e' he'
      · rw [removeClient, get_cons, get_cons, hrest id hid]
    · cases hremoved : (h.removeClient pid).1 with
      | true =>
        simp only [removeCalls, removeClient, hremoved, if_true, List.mem_singleton,
          List.map_cons, List.map_nil]
        refine ⟨fun e' he' => ?_, fun id hid => ?_⟩
        · subst he'
          exact ⟨rfl, h, by rw [get_cons, if_pos rfl], by rw [get_cons, if_pos rfl]⟩
        · rw [get_cons, if_neg hid, get_cons, if_neg hid]
      | false =>
        simp only [removeCalls, removeClient, hremoved, Bool.false_eq_true, if_false,
          List.mem_cons, List.map_cons, not_or]
        refine ⟨fun e' he' => ?_, fun id hid => ?_⟩
        · obtain rfl | he' := he'
          · exact ⟨rfl, h, by rw [get_cons, if_pos rfl], by rw [get_cons, if_pos rfl]⟩
          · rw [get_cons, if_neg (hne e' he'), get_cons, if_neg (hne e' he')]
            exact hcalled e' he'
        · rw [get_cons, if_neg hid.1, get_cons, if_neg hid.1, hrest id hid.2]

end HandlerMap

namespace AttractionProc

/-- The content of the request that `pRegisterClient` calls `AddClient` for, if it does. -/
def confirmed (isOpen : Bool) (cfg : AttractionConfig) (message : AttractionMQMessage)
    (x : ReplyOutcome) (p : AttractionProc) (handler : AttractionHandler) :
    Option EnterAttraction :=
  match message.content with
  | .emptyMessage => none
  | .enterAttraction content =>
    let allowed := isOpen && !p.paused && meetsAttractionCriteria p.attractionID
      content.personData content.childData content.hasChild
    if cfg.maxClientsPerHandler < handler.getClientCount + partySize content.hasChild ∧
        allowed = true then none
    else match x.permitHandshake allowed with
      | .ok true => some content
      | _ => none

/-- `pRegisterClient` adds the sender of a confirmed request that fits, or nobody. -/
theorem pRegisterClient_state (isOpen : Bool) (cfg : AttractionConfig)
    (message : AttractionMQMessage) (x : ReplyOutcome) (p : AttractionProc)
    (handler : AttractionHandler) :
    (∃ content, confirmed isOpen cfg message x p handler = some content ∧
      handler.getClientCount + partySize content.hasChild ≤ cfg.maxClientsPerHandler ∧
      pRegisterClient isOpen cfg message x p handler =
        (.ok true, (handler.addClient message.senderPID content.hasChild true).2)) ∨
    (confirmed isOpen cfg message x p handler = none ∧
      (pRegisterClient isOpen cfg message x p handler).2 = handler) := by
  unfold confirmed pRegisterClient
  cases message.content with
  | emptyMessage => exact .inr ⟨rfl, rfl⟩
  | enterAttraction content =>
    dsimp only
    generalize hallowed : (isOpen && !p.paused && meetsAttractionCriteria p.attractionID
      content.personData content.childData content.hasChild) = allowed
    by_cases hfull : cfg.maxClientsPerHandler <
        handler.getClientCount + partySize content.hasChild ∧ allowed = true
    · exact .inr ⟨by rw [if_pos hfull], by rw [if_pos hfull]⟩
    · rw [if_neg hfull, if_neg hfull]
      rcases hhand : x.permitHandshake allowed with e | _ | _
      · exact .inr ⟨rfl, rfl⟩
      · exact .inr ⟨rfl, rfl⟩
      · have hallow := (ReplyOutcome.permitHandshake_eq_true.mp hhand).1
        refine .inl ⟨content, rfl, ?_, rfl⟩
        by_contra hlt
        exact hfull ⟨by omega, hallow⟩

end AttractionProc

/-- The stage of the round that is being prepared at each point of `Run`. -/
def RunPoint.stage : RunPoint → Stage
  | .filling id newHandler | .installing id newHandler => .building id newHandler
  | .starting id => .starting id
  | .announcing id => .announcing id
  | .stopped => .stopped
  | .crashed => .crashed
  | _ => .idle

namespace AttractionSystem
variable {C : Type*}

def rounds (s : AttractionSystem C) : Rounds where
  installed id := s.proc.handlers.get id
  stage := s.point.stage
  paused := s.proc.paused

/-- The handlers that die when `CloseAttraction` sets the entries of the map to null: all but
one that the local variable of `pCreateNewHandler` still holds. -/
def closeCalls (s : AttractionSystem C) : List (ℕ × HandlerCall) :=
  s.proc.handlers.callWhere (fun id _ => decide (s.point.stage.announced ≠ some id)) .destruct

/-- The steps that install a new handler, and the signals whose exception is caught. -/
def kind (s : AttractionSystem C) : AttractionAction C → Rounds.StepKind
  | .install => match s.point with
    | .installing _ newHandler => if newHandler.isEmpty then .ordinary else .installs
    | _ => .ordinary
  | .registerThrows paused (.ok _) => .cut paused
  | _ => .ordinary

/-- The calls on handlers that a step of `Run` or of a signal handler makes. -/
def handlerCalls (cfg : AttractionConfig) (s : AttractionSystem C) :
    AttractionAction C → List (ℕ × HandlerCall)
  | .sigUsr1 (.ok _) => s.closeCalls
  | .sigUsr1 (.error _) | .sigUsr2 (.error _) | .registerThrows _ (.error _) => s.rounds.unwind
  | .finishCheck now => match s.point with
    | .woken _ => s.proc.handlers.callWhere (fun _ handler => handler.finished now) .destruct
    | _ => []
  | .handle => match s.point, s.mailbox.receive.1 with
    | .receiving _, some msg => if msg.mType = .exitAttraction then
        s.proc.handlers.removeCalls msg.senderPID else []
    | _, _ => []
  | .create => if s.point = .creating ∧ s.proc.paused = false then
      match s.proc.handlers.firstFree with
      | some id => [(id, .construct (handlerData cfg id))]
      | none => []
    else []
  | .register x => match s.point, s.proc.enterQueue with
    | .filling id newHandler, message :: _ =>
      match (AttractionProc.pRegisterClient s.isOpen cfg message x s.proc newHandler).1 with
      | .error _ => [(id, .destruct)]
      | .ok _ => match AttractionProc.confirmed s.isOpen cfg message x s.proc newHandler with
        | some content => [(id, .addClient message.senderPID content.hasChild true)]
        | none => []
    | _, _ => []
  | .install => match s.point with
    | .installing id newHandler => if newHandler.isEmpty then [(id, .destruct)] else []
    | _ => []
  | .start now => match s.point with
    | .starting id => if (s.proc.handlers.get id).isSome then [(id, .startAttraction now)] else []
    | _ => []
  | _ => []

/-- The leave semaphores are distinct, and the round being prepared is on one of them. -/
structure ValidHandlers (s : AttractionSystem C) : Prop where
  nodup : s.proc.handlers.ids.Nodup
  building : ∀ id h, s.point.stage = .building id h → id ∈ s.proc.handlers.ids
  announced : ∀ id, s.point.stage.announced = some id → id ∈ s.proc.handlers.ids

theorem ValidHandlers.of_stage {s t : AttractionSystem C} (hs : s.ValidHandlers)
    (hids : t.proc.handlers.ids = s.proc.handlers.ids)
    (hstage : t.point.stage = s.point.stage ∨
      t.point.stage ∈ [Stage.idle, .stopped, .crashed]) : t.ValidHandlers := by
  obtain hsame | hother := hstage
  · refine ⟨hids ▸ hs.nodup, fun id h hb => ?_, fun id ha => ?_⟩
    · exact hids ▸ hs.building id h (hsame ▸ hb)
    · exact hids ▸ hs.announced id (hsame ▸ ha)
  · refine ⟨hids ▸ hs.nodup, fun id h hb => ?_, fun id ha => ?_⟩
    · simp [hb] at hother
    · simp only [List.mem_cons, List.not_mem_nil, or_false] at hother
      rcases hother with h | h | h <;> simp [h, Stage.announced] at ha

theorem ValidHandlers.of_id {s t : AttractionSystem C} (hs : s.ValidHandlers)
    (hids : t.proc.handlers.ids = s.proc.handlers.ids) {id : ℕ} (hid : id ∈ s.proc.handlers.ids)
    (hstage : (∃ h, t.point.stage = .building id h) ∨ t.point.stage = .starting id ∨
      t.point.stage = .announcing id) : t.ValidHandlers := by
  refine ⟨hids ▸ hs.nodup, fun id' h hb => ?_, fun id' ha => ?_⟩ <;>
    rcases hstage with ⟨k, hk⟩ | hk | hk <;> simp_all [Stage.announced]

@[simp] theorem rounds_stage (s : AttractionSystem C) : s.rounds.stage = s.point.stage := rfl

/-- A step that leaves the rounds alone and calls no handler. -/
theorem step_keep {cap : ℕ} {s t : AttractionSystem C} {calls : List (ℕ × HandlerCall)}
    (hcalls : calls = []) (hhandlers : t.proc.handlers = s.proc.handlers)
    (hstage : t.point.stage = s.point.stage) (hpaused : t.proc.paused = s.proc.paused) :
    s.rounds.Step cap .ordinary calls t.rounds := by
  have hsame : t.rounds = s.rounds := by rw [rounds, hhandlers, hstage, hpaused, rounds]
  rw [hcalls, hsame]
  exact .keep

/-- A step between two rounds. -/
theorem idle_rounds {cap : ℕ} {s t : AttractionSystem C} {calls : List (ℕ × HandlerCall)}
    (hs : s.ValidHandlers) (hidle : s.point.stage = .idle) (hcalls : calls = [])
    (hhandlers : t.proc.handlers = s.proc.handlers) (hstage : t.point.stage = .idle)
    (hpaused : t.proc.paused = s.proc.paused) :
    s.rounds.Step cap .ordinary calls t.rounds ∧ t.ValidHandlers := by
  constructor
  · exact step_keep hcalls hhandlers (hstage.trans hidle.symm) hpaused
  · exact hs.of_stage (by rw [hhandlers]) (.inr (by simp [hstage]))

/-- The end of `Run`, or an exception that leaves it. -/
theorem stop_rounds {cap : ℕ} {s t : AttractionSystem C} {calls : List (ℕ × HandlerCall)}
    (hs : s.ValidHandlers) (hcalls : calls = s.rounds.unwind)
    (hhandlers : t.proc.handlers = s.proc.handlers) (hstage : t.point.stage = .stopped) :
    s.rounds.Step cap .ordinary calls t.rounds ∧ t.ValidHandlers := by
  have hstop : t.rounds = ⟨s.rounds.installed, .stopped, t.proc.paused⟩ := by
    simp [rounds, hhandlers, hstage]
  rw [hcalls, hstop]
  exact ⟨.stop _, hs.of_stage (by rw [hhandlers]) (.inr (by simp [hstage]))⟩

/-- `StartAttraction` or the log message through a null pointer. -/
theorem crash_rounds {cap : ℕ} {s : AttractionSystem C} {calls : List (ℕ × HandlerCall)}
    (hs : s.ValidHandlers) {id : ℕ} (hstage : s.rounds.stage.announced = some id)
    (hget : s.proc.handlers.get id = none) (hcalls : calls = []) :
    s.rounds.Step cap .ordinary calls (rounds { s with point := .crashed }) ∧
      ValidHandlers { s with point := .crashed } := by
  rw [hcalls]
  exact ⟨.crash hstage hget, hs.of_stage rfl (.inr (by simp [RunPoint.stage]))⟩

theorem rounds_set {s : AttractionSystem C} {id : ℕ} (hid : id ∈ s.proc.handlers.ids)
    (h : AttractionHandler) (point : RunPoint) :
    rounds { s with
      proc := { s.proc with handlers := s.proc.handlers.set id (some h) }
      point := point } =
    ⟨Function.update s.rounds.installed id (some h), point.stage, s.rounds.paused⟩ := by
  simp only [rounds, HandlerMap.get_set _ hid]

theorem destroys_close {s : AttractionSystem C} (hs : s.ValidHandlers) :
    s.rounds.Destroys s.closeCalls where
  nodup := HandlerMap.callWhere_nodup hs.nodup _ _
  called e he := by
    obtain ⟨hc, h, hget, hpick⟩ := (HandlerMap.mem_callWhere hs.nodup).mp he
    exact ⟨hc, by simp [rounds, hget], by simpa using hpick⟩
  all id hsome hne := by
    obtain ⟨h, hget⟩ := Option.isSome_iff_exists.mp hsome
    exact (HandlerMap.mem_callWhere_ids hs.nodup).mpr ⟨h, hget, by simpa using hne⟩

/-- A signal handler: past its log message, or out of the process with an exception. -/
theorem logging_rounds {cap : ℕ} {s t u : AttractionSystem C} {logged : Except Exn Unit}
    (calls : Except Exn Unit → List (ℕ × HandlerCall)) (hs : s.ValidHandlers)
    (hok : ∀ x, s.rounds.Step cap .ordinary (calls (.ok x)) u.rounds ∧ u.ValidHandlers)
    (herror : ∀ e, calls (.error e) = s.rounds.unwind)
    (hhandlers : t.proc.handlers = s.proc.handlers) :
    s.rounds.Step cap .ordinary (calls logged) (t.logging logged u).rounds ∧
      (t.logging logged u).ValidHandlers := by
  cases logged with
  | ok x => exact hok x
  | error e => exact stop_rounds hs (herror e) hhandlers rfl

theorem register_rounds {cfg : AttractionConfig} {s : AttractionSystem C} (hs : s.ValidHandlers)
    {id : ℕ} {newHandler : AttractionHandler} (hpoint : s.point = .filling id newHandler)
    (x : ReplyOutcome) :
    s.rounds.Step cfg.maxClientsPerHandler .ordinary (s.handlerCalls cfg (.register x))
        (s.fill cfg id newHandler x).rounds ∧ (s.fill cfg id newHandler x).ValidHandlers := by
  have hstage : s.rounds.stage = .building id newHandler := by rw [rounds_stage, hpoint]; rfl
  have hid : id ∈ s.proc.handlers.ids := hs.building id newHandler hstage
  unfold fill
  cases hq : s.proc.enterQueue with
  | nil =>
    exact ⟨step_keep (by simp [handlerCalls, hpoint, hq]) rfl (by rw [hpoint]; rfl) rfl,
      hs.of_id rfl hid (.inl ⟨newHandler, rfl⟩)⟩
  | cons message rest =>
    obtain ⟨content, hconf, hfits, hreg⟩ | ⟨hconf, hsame⟩ :=
      AttractionProc.pRegisterClient_state s.isOpen cfg message x s.proc newHandler
    · have hcalls : s.handlerCalls cfg (.register x) =
          [(id, .addClient message.senderPID content.hasChild true)] := by
        simp [handlerCalls, hpoint, hq, hreg, hconf]
      simp only [hcalls, hreg]
      exact ⟨.admission message.senderPID content.hasChild true hstage hfits,
        hs.of_id rfl hid (.inl ⟨_, rfl⟩)⟩
    · dsimp only
      rcases hr : (AttractionProc.pRegisterClient s.isOpen cfg message x s.proc newHandler).1 with
        e | _ | _
      · have hcalls : s.handlerCalls cfg (.register x) = s.rounds.unwind := by
          simp [handlerCalls, hpoint, hq, hr, Rounds.unwind, RunPoint.stage]
        exact stop_rounds hs hcalls rfl rfl
      all_goals
        exact ⟨step_keep (by simp [handlerCalls, hpoint, hq, hr, hconf]) rfl
          (by simp only [hpoint, hsame, RunPoint.stage]) rfl, hs.of_id rfl hid (.inl ⟨_, rfl⟩)⟩

theorem registerThrows_rounds [DecidableEq C] {cfg : AttractionConfig} {s t : AttractionSystem C}
    (hs : s.ValidHandlers) {paused : Bool} {caught : Except Exn Unit}
    (h : step cfg s (.registerThrows paused caught) = some t) :
    s.rounds.Step cfg.maxClientsPerHandler (s.kind (.registerThrows paused caught))
        (s.handlerCalls cfg (.registerThrows paused caught)) t.rounds ∧ t.ValidHandlers := by
  obtain ⟨id, newHandler, message, rest, hpoint, -, rfl⟩ := registerThrows_step h
  have hstage : s.rounds.stage = .building id newHandler := by rw [rounds_stage, hpoint]; rfl
  cases caught with
  | ok _ => exact ⟨.cut paused hstage, hs.of_stage rfl (.inl rfl)⟩
  | error e => exact stop_rounds hs rfl rfl rfl

theorem finishCheck_rounds [DecidableEq C] {cfg : AttractionConfig} {s t : AttractionSystem C}
    (hs : s.ValidHandlers) {now : ℤ} (h : step cfg s (.finishCheck now) = some t) :
    s.rounds.Step cfg.maxClientsPerHandler .ordinary (s.handlerCalls cfg (.finishCheck now))
        t.rounds ∧ t.ValidHandlers := by
  cases hpoint : s.point with
  | woken token =>
    simp only [step, hpoint, Option.some.injEq] at h
    subst h
    have hcalls : s.handlerCalls cfg (.finishCheck now) =
        s.proc.handlers.callWhere (fun _ handler => handler.finished now) .destruct := by
      simp [handlerCalls, hpoint]
    rw [hcalls]
    refine ⟨.finishes (by rw [rounds_stage, hpoint]; rfl)
      ⟨HandlerMap.callWhere_nodup hs.nodup _ _, fun e he => ?_, fun id hid => ?_⟩,
      hs.of_stage (HandlerMap.ids_dropFinished _ _) (.inr (by simp [RunPoint.stage]))⟩
    · obtain ⟨hc, handler, hget, hpick⟩ := (HandlerMap.mem_callWhere hs.nodup).mp he
      refine ⟨hc, handler, hget, ?_⟩
      rw [HandlerMap.get_dropFinished, hget]
      simp [HandlerCall.effect, hpick]
    · rw [HandlerMap.mem_callWhere_ids hs.nodup, not_exists] at hid
      rw [HandlerMap.get_dropFinished]
      cases hget : HandlerMap.get id s.proc.handlers with
      | none => simp [rounds, hget]
      | some handler => simpa [rounds, hget] using hid handler
  | _ => simp [step, hpoint] at h

theorem handle_rounds [DecidableEq C] {cfg : AttractionConfig} {s t : AttractionSystem C}
    (hs : s.ValidHandlers) (h : step cfg s .handle = some t) :
    s.rounds.Step cfg.maxClientsPerHandler .ordinary (s.handlerCalls cfg .handle) t.rounds ∧
      t.ValidHandlers := by
  cases hpoint : s.point with
  | receiving token =>
    have hidle : s.point.stage = .idle := by rw [hpoint]; rfl
    rcases hreceive : s.mailbox.receive with ⟨_ | msg, m⟩
    · simp only [step, hpoint, hreceive, Option.some.injEq] at h
      subst h
      exact idle_rounds hs hidle (by simp [handlerCalls, hpoint, hreceive]) rfl rfl rfl
    · simp only [step, hpoint, hreceive, Option.some.injEq] at h
      subst h
      cases htype : msg.mType with
      | exitAttraction =>
        have hcalls : s.handlerCalls cfg .handle =
            s.proc.handlers.removeCalls msg.senderPID := by
          simp [handlerCalls, hpoint, hreceive, htype]
        obtain ⟨hcalled, hrest⟩ := HandlerMap.removeCalls_spec msg.senderPID hs.nodup
        simp only [hcalls, AttractionProc.pHandleAttractionMQ, htype]
        exact ⟨.exits msg.senderPID hidle
          ⟨List.Nodup.sublist (HandlerMap.removeCalls_sublist _ _) hs.nodup, hcalled, hrest⟩,
          hs.of_stage (HandlerMap.ids_removeClient _ _) (.inr (by simp [RunPoint.stage]))⟩
      | enterAttraction | other raw =>
        -- a request only joins the queue
        have hproc : (AttractionProc.pHandleAttractionMQ msg s.proc).handlers = s.proc.handlers ∧
            (AttractionProc.pHandleAttractionMQ msg s.proc).paused = s.proc.paused := by
          simp [AttractionProc.pHandleAttractionMQ, htype, AttractionProc.pHandleEnterAttraction]
        exact idle_rounds hs hidle (by simp [handlerCalls, hpoint, hreceive, htype]) hproc.1 rfl
          hproc.2
  | _ => simp [step, hpoint] at h

theorem create_rounds [DecidableEq C] {cfg : AttractionConfig} {s t : AttractionSystem C}
    (hs : s.ValidHandlers) (h : step cfg s .create = some t) :
    s.rounds.Step cfg.maxClientsPerHandler .ordinary (s.handlerCalls cfg .create) t.rounds ∧
      t.ValidHandlers := by
  simp only [step, Option.ite_none_right_eq_some] at h
  obtain ⟨hpoint, h⟩ := h
  have hidle : s.point.stage = .idle := by rw [hpoint]; rfl
  cases hpaused : s.proc.paused with
  | true =>
    simp only [hpaused, if_true, Option.some.injEq] at h
    subst h
    exact idle_rounds hs hidle (by simp [handlerCalls, hpaused]) rfl rfl rfl
  | false =>
    simp only [hpaused, Bool.false_eq_true, if_false] at h
    cases hfree : s.proc.handlers.firstFree with
    | none =>
      simp only [hfree, Option.some.injEq] at h
      subst h
      exact idle_rounds hs hidle (by simp [handlerCalls, hpoint, hpaused, hfree]) rfl rfl rfl
    | some id =>
      simp only [hfree, Option.some.injEq] at h
      subst h
      obtain ⟨hid, hnone⟩ := HandlerMap.firstFree_eq_some hs.nodup hfree
      have hcalls : s.handlerCalls cfg .create = [(id, .construct (handlerData cfg id))] := by
        simp [handlerCalls, hpoint, hpaused, hfree]
      rw [hcalls]
      exact ⟨.create id _ hidle hpaused hnone, hs.of_id rfl hid (.inl ⟨_, rfl⟩)⟩

theorem install_rounds [DecidableEq C] {cfg : AttractionConfig} {s t : AttractionSystem C}
    (hs : s.ValidHandlers) (h : step cfg s .install = some t) :
    s.rounds.Step cfg.maxClientsPerHandler (s.kind (.install : AttractionAction C))
        (s.handlerCalls cfg .install) t.rounds ∧ t.ValidHandlers := by
  cases hpoint : s.point with
  | installing id newHandler =>
    have hstage : s.rounds.stage = .building id newHandler := by rw [rounds_stage, hpoint]; rfl
    have hid := hs.building id newHandler hstage
    cases hempty : newHandler.isEmpty with
    | true =>
      simp only [step, hpoint, hempty, if_true, Option.some.injEq] at h
      subst h
      have hcalls : s.handlerCalls cfg .install = [(id, .destruct)] := by
        simp [handlerCalls, hpoint, hempty]
      have hkind : s.kind (.install : AttractionAction C) = .ordinary := by
        simp [kind, hpoint, hempty]
      rw [hcalls, hkind]
      exact ⟨.discard hstage hempty, hs.of_stage rfl (.inr (by simp [RunPoint.stage]))⟩
    | false =>
      simp only [step, hpoint, hempty, Bool.false_eq_true, if_false, Option.some.injEq] at h
      subst h
      have hcalls : s.handlerCalls cfg .install = [] := by simp [handlerCalls, hpoint, hempty]
      have hkind : s.kind (.install : AttractionAction C) = .installs := by
        simp [kind, hpoint, hempty]
      rw [hcalls, hkind, rounds_set hid newHandler (.starting id)]
      exact ⟨.install hstage hempty,
        hs.of_id (HandlerMap.ids_set _ _ _) hid (.inr (.inl rfl))⟩
  | _ => simp [step, hpoint] at h

theorem start_rounds [DecidableEq C] {cfg : AttractionConfig} {s t : AttractionSystem C}
    (hs : s.ValidHandlers) {now : ℤ} (h : step cfg s (.start now) = some t) :
    s.rounds.Step cfg.maxClientsPerHandler .ordinary (s.handlerCalls cfg (.start now)) t.rounds ∧
      t.ValidHandlers := by
  cases hpoint : s.point with
  | starting id =>
    have hstage : s.rounds.stage = .starting id := by rw [rounds_stage, hpoint]; rfl
    have hannounced : s.rounds.stage.announced = some id := by rw [hstage]; rfl
    have hid := hs.announced id hannounced
    cases hget : s.proc.handlers.get id with
    | none =>
      simp only [step, hpoint, hget, Option.some.injEq] at h
      subst h
      exact crash_rounds hs hannounced hget (by simp [handlerCalls, hpoint, hget])
    | some handler =>
      simp only [step, hpoint, hget, Option.some.injEq] at h
      subst h
      have hcalls : s.handlerCalls cfg (.start now) = [(id, .startAttraction now)] := by
        simp [handlerCalls, hpoint, hget]
      rw [hcalls, rounds_set hid (handler.startAttraction now) (.announcing id)]
      exact ⟨.start now hstage hget,
        hs.of_id (HandlerMap.ids_set _ _ _) hid (.inr (.inr rfl))⟩
  | _ => simp [step, hpoint] at h

theorem announce_rounds [DecidableEq C] {cfg : AttractionConfig} {s t : AttractionSystem C}
    (hs : s.ValidHandlers) {logged : Except Exn Unit} (h : step cfg s (.announce logged) = some t) :
    s.rounds.Step cfg.maxClientsPerHandler .ordinary (s.handlerCalls cfg (.announce logged))
        t.rounds ∧ t.ValidHandlers := by
  cases hpoint : s.point with
  | announcing id =>
    have hstage : s.rounds.stage = .announcing id := by rw [rounds_stage, hpoint]; rfl
    cases hget : s.proc.handlers.get id with
    | none =>
      simp only [step, hpoint, hget, Option.some.injEq] at h
      subst h
      exact crash_rounds hs (show s.rounds.stage.announced = some id by rw [hstage]; rfl) hget rfl
    | some handler =>
      simp only [step, hpoint, hget, Option.some.injEq] at h
      subst h
      have hsome : (s.rounds.installed id).isSome = true := by simp [rounds, hget]
      refine logging_rounds (fun x => s.handlerCalls cfg (.announce x)) hs
        (fun _ => ⟨.announce hstage hsome, hs.of_stage rfl (.inr (by simp [RunPoint.stage]))⟩)
        (fun _ => ?_) rfl
      simp [handlerCalls, Rounds.unwind, hpoint, RunPoint.stage, rounds, hget]
  | _ => simp [step, hpoint] at h

/-- What each step of an attraction does to its rounds. -/
theorem step_rounds [DecidableEq C] {cfg : AttractionConfig} {s t : AttractionSystem C}
    {a : AttractionAction C} (hs : s.ValidHandlers) (h : step cfg s a = some t) :
    s.rounds.Step cfg.maxClientsPerHandler (s.kind a) (s.handlerCalls cfg a) t.rounds ∧
      t.ValidHandlers := by
  cases a with
  | mailbox a =>
    obtain ⟨m, -, rfl⟩ := Option.map_eq_some_iff.mp h
    exact ⟨.keep, hs.of_stage rfl (.inl rfl)⟩
  | closePark =>
    obtain rfl := Option.some.inj h
    exact ⟨.keep, hs.of_stage rfl (.inl rfl)⟩
  | sigUsr1 logged =>
    obtain rfl := Option.some.inj h
    refine logging_rounds (fun x => s.handlerCalls cfg (.sigUsr1 x)) hs (fun x => ?_)
      (fun _ => rfl) rfl
    have hclear : AttractionSystem.rounds { s with
        proc := AttractionProc.closeAttraction { s.proc with paused := true } } =
        ⟨fun _ => none, s.rounds.stage, true⟩ := by
      simp [rounds, AttractionProc.closeAttraction]
    rw [hclear]
    exact ⟨.clear true (destroys_close hs), hs.of_stage (HandlerMap.ids_clear _) (.inl rfl)⟩
  | sigUsr2 logged =>
    obtain rfl := Option.some.inj h
    exact logging_rounds (fun x => s.handlerCalls cfg (.sigUsr2 x)) hs
      (fun _ => ⟨.resume, hs.of_stage rfl (.inl rfl)⟩) (fun _ => rfl) rfl
  | check now =>
    simp only [step, Option.ite_none_right_eq_some, Option.some.injEq] at h
    obtain ⟨hpoint, rfl⟩ := h
    have hidle : s.rounds.stage = .idle := by rw [rounds_stage, hpoint]; rfl
    cases hopen : s.isOpen with
    | true => exact idle_rounds hs hidle rfl rfl rfl rfl
    | false => exact stop_rounds hs (Rounds.unwind_idle hidle).symm rfl rfl
  | wake token =>
    cases hpoint : s.point with
    | waiting timeout =>
      have hidle : s.point.stage = .idle := by rw [hpoint]; rfl
      cases token with
      | true =>
        simp only [step, hpoint, if_true, Option.ite_none_left_eq_some,
          Option.map_eq_some_iff] at h
        obtain ⟨-, m, -, rfl⟩ := h
        exact idle_rounds hs hidle rfl rfl rfl rfl
      | false =>
        simp only [step, hpoint, Bool.false_eq_true, if_false, Option.some.injEq] at h
        subst h
        exact idle_rounds hs hidle rfl rfl rfl rfl
    | _ => simp [step, hpoint] at h
  | finishCheck now => exact finishCheck_rounds hs h
  | testPaused =>
    cases hpoint : s.point with
    | checked token =>
      simp only [step, hpoint, Option.some.injEq] at h
      subst h
      refine idle_rounds hs (by rw [hpoint]; rfl) rfl rfl ?_ rfl
      dsimp only
      split <;> rfl
    | _ => simp [step, hpoint] at h
  | receiveThrows =>
    cases hpoint : s.point with
    | receiving token =>
      simp only [step, hpoint, Option.some.injEq] at h
      subst h
      have hidle : s.rounds.stage = .idle := by rw [rounds_stage, hpoint]; rfl
      exact stop_rounds hs (Rounds.unwind_idle hidle).symm rfl rfl
    | _ => simp [step, hpoint] at h
  | handle => exact handle_rounds hs h
  | decide =>
    simp only [step, Option.ite_none_right_eq_some, Option.some.injEq] at h
    obtain ⟨hpoint, rfl⟩ := h
    refine idle_rounds hs (by rw [hpoint]; rfl) rfl rfl ?_ rfl
    dsimp only
    split <;> rfl
  | create => exact create_rounds hs h
  | register x =>
    cases hpoint : s.point with
    | filling id newHandler =>
      simp only [step, hpoint, Option.some.injEq] at h
      subst h
      exact register_rounds hs hpoint x
    | _ => simp [step, hpoint] at h
  | registerThrows paused caught => exact registerThrows_rounds hs h
  | install => exact install_rounds hs h
  | start now => exact start_rounds hs h
  | announce logged => exact announce_rounds hs h

/-- `pCloseHandlers`, all that `pCloseImpl` does to the handlers. -/
def pCloseHandlers (s : AttractionSystem C) : AttractionSystem C :=
  { s with proc := { s.proc with handlers := s.proc.handlers.clear } }

theorem pCloseHandlers_rounds (s : AttractionSystem C) :
    s.pCloseHandlers.rounds = ⟨fun _ => none, s.rounds.stage, s.rounds.paused⟩ := by
  simp [pCloseHandlers, rounds]

/-- The attraction as a program that runs rounds. -/
def program (C : Type*) [DecidableEq C] (cfg : AttractionConfig) :
    RoundsProgram (AttractionSystem C) (AttractionAction C) where
  machine := machine C cfg
  capacity := cfg.maxClientsPerHandler
  rounds := rounds
  kind := kind
  calls := handlerCalls cfg
  pCloseImpl := pCloseHandlers
  closeCalls := closeCalls
  Valid := ValidHandlers
  valid_step hs h := (step_rounds hs h).2
  step_rounds hs h := (step_rounds hs h).1
  valid_close hs := hs.of_stage (HandlerMap.ids_clear _) (.inl rfl)
  close_rounds hs _ := pCloseHandlers_rounds _ ▸ .clear _ (destroys_close hs)

/-- The attraction before `Run`; an exception in `Init` skips `Run`. -/
def start (attractionID : ℕ) (cfg : AttractionConfig) (tokens : ℕ)
    (initialised : Except Exn Unit) : AttractionSystem C :=
  match initialised with
  | .ok () => init attractionID cfg tokens
  | .error _ => { init attractionID cfg tokens with point := .stopped }

theorem init_nodup (attractionID : ℕ) {cfg : AttractionConfig} (hcount : cfg.handlerCount < 2 ^ 8) :
    (AttractionProc.init attractionID cfg).handlers.ids.Nodup := by
  simp only [HandlerMap.ids, AttractionProc.init, List.map_map]
  refine List.Nodup.map_on (fun i hi j hj hij => ?_) List.nodup_range
  simp only [List.mem_range] at hi hj
  simp only [Function.comp_apply] at hij
  omega

theorem start_starts [DecidableEq C] (attractionID : ℕ) {cfg : AttractionConfig}
    (hcount : cfg.handlerCount < 2 ^ 8) (tokens : ℕ) (initialised : Except Exn Unit) :
    (program C cfg).Starts (start attractionID cfg tokens initialised) := by
  have hnodup := init_nodup attractionID hcount
  have hempty (id : ℕ) : (AttractionProc.init attractionID cfg).handlers.get id = none := by
    by_contra hne
    obtain ⟨h, hget⟩ := Option.ne_none_iff_exists'.mp hne
    obtain ⟨i, -, hi⟩ := List.mem_map.mp (HandlerMap.mem_of_get hget)
    cases hi
  cases initialised with
  | ok u => exact ⟨⟨hnodup, fun _ _ hb => (by cases hb), fun _ ha => (by cases ha)⟩, hempty,
      .inl rfl⟩
  | error e => exact ⟨⟨hnodup, fun _ _ hb => (by cases hb), fun _ ha => (by cases ha)⟩, hempty,
      .inr rfl⟩

end AttractionSystem
end AmusementPark.Attraction
