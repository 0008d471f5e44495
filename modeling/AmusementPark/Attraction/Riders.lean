import AmusementPark.Attraction.Criteria
import AmusementPark.Attraction.HandlerCalls
import AmusementPark.Attraction.Requests

/-! # Who rides has asked and fits

A client that an attraction carries has been added for a request of its own,
and the data of that request meet the criteria of the attraction. The requests
that let a client board are taken from the received ones in order.
-/
namespace AmusementPark.Attraction
open Library Worker

namespace HandlerMap

/-- The client is in one of the handlers. -/
def Carries (m : HandlerMap) (pid : Pid) (data : HandlerClientData) : Prop :=
  ∃ id h, (id, some h) ∈ m ∧ h.clientList.lookup pid = some data

variable {m : HandlerMap} {pid : Pid} {data : HandlerClientData}

theorem Carries.tail {e : ℕ × Option AttractionHandler} (h : m.Carries pid data) :
    Carries (e :: m) pid data := by
  obtain ⟨id, handler, hmem, hlookup⟩ := h
  exact ⟨id, handler, List.mem_cons_of_mem _ hmem, hlookup⟩

theorem lookup_of_removeClient {h : AttractionHandler} {q : Pid}
    (hlookup : (h.removeClient q).2.clientList.lookup pid = some data) :
    h.clientList.lookup pid = some data := by
  rw [AttractionHandler.removeClient_clientList] at hlookup
  by_cases hpid : pid = q
  · rw [hpid, AList.lookup_erase] at hlookup
    cases hlookup
  · rwa [AList.lookup_erase_ne hpid] at hlookup

theorem carries_of_removeClient {q : Pid} (h : (m.removeClient q).Carries pid data) :
    m.Carries pid data := by
  induction m with
  | nil => exact h
  | cons e m ih =>
    obtain ⟨i, _ | handler⟩ := e
    · obtain ⟨id, k, hmem, hlookup⟩ := h
      obtain heq | hmem := List.mem_cons.mp hmem
      · cases heq
      · exact (ih ⟨id, k, hmem, hlookup⟩).tail
    · simp only [removeClient] at h
      split at h
      all_goals
        obtain ⟨id, k, hmem, hlookup⟩ := h
        obtain heq | hmem := List.mem_cons.mp hmem
        · simp only [Prod.mk.injEq, Option.some.injEq] at heq
          obtain ⟨rfl, rfl⟩ := heq
          exact ⟨_, handler, List.mem_cons_self, lookup_of_removeClient hlookup⟩
      · exact ⟨id, k, List.mem_cons_of_mem _ hmem, hlookup⟩
      · exact (ih ⟨id, k, hmem, hlookup⟩).tail

theorem carries_of_dropFinished {now : ℤ} (h : (m.dropFinished now).Carries pid data) :
    m.Carries pid data := by
  obtain ⟨id, handler, hmem, hlookup⟩ := h
  obtain ⟨⟨i, k⟩, hmem, heq⟩ := List.mem_map.mp hmem
  simp only [Prod.mk.injEq, Option.filter_eq_some_iff] at heq
  obtain ⟨rfl, rfl, -⟩ := heq
  exact ⟨i, handler, hmem, hlookup⟩

theorem not_carries_clear : ¬ m.clear.Carries pid data := by
  rintro ⟨id, handler, hmem, -⟩
  obtain ⟨e, -, heq⟩ := List.mem_map.mp hmem
  cases heq

theorem carries_of_set {id : ℕ} {handler : AttractionHandler}
    (h : (m.set id (some handler)).Carries pid data) :
    m.Carries pid data ∨ handler.clientList.lookup pid = some data := by
  obtain ⟨i, k, hmem, hlookup⟩ := h
  obtain ⟨e, hmem, heq⟩ := List.mem_map.mp hmem
  split at heq
  · simp only [Prod.mk.injEq, Option.some.injEq] at heq
    exact .inr (heq.2 ▸ hlookup)
  · subst heq
    exact .inl ⟨i, k, hmem, hlookup⟩

theorem carries_of_get {id : ℕ} {handler : AttractionHandler} (hget : m.get id = some handler)
    (hlookup : handler.clientList.lookup pid = some data) : m.Carries pid data :=
  ⟨id, handler, mem_of_get hget, hlookup⟩

end HandlerMap

theorem AttractionProc.carries_of_pHandleAttractionMQ {msg : AttractionMQMessage}
    {p : AttractionProc} {pid : Pid} {data : HandlerClientData}
    (h : (pHandleAttractionMQ msg p).handlers.Carries pid data) :
    p.handlers.Carries pid data := by
  unfold pHandleAttractionMQ at h
  cases hm : msg.mType with
  | enterAttraction =>
    rw [hm] at h
    exact h
  | exitAttraction =>
    rw [hm] at h
    exact HandlerMap.carries_of_removeClient h
  | other raw =>
    rw [hm] at h
    exact h

/-- The request of the client, with data that fit the attraction and the rules of its entry in
the table. -/
structure Entitles (attractionID : ℕ) (message : AttractionMQMessage) (pid : Pid)
    (data : HandlerClientData) : Prop where
  sender : message.senderPID = pid
  fits : ∃ content, message.content = .enterAttraction content ∧
    content.hasChild = data.hasChild ∧
    meetsAttractionCriteria attractionID content.personData content.childData
      content.hasChild = true ∧
    ∀ cfg ∈ attractionConfig[attractionID]?,
      cfg.Rules content.personData content.childData content.hasChild

/-- A confirmed request is one of an open attraction with a client that fits. -/
theorem AttractionProc.confirmed_eq_some {isOpen : Bool} {cfg : AttractionConfig}
    {message : AttractionMQMessage} {x : ReplyOutcome} {p : AttractionProc}
    {handler : AttractionHandler} {content : EnterAttraction}
    (h : confirmed isOpen cfg message x p handler = some content) :
    message.content = .enterAttraction content ∧ isOpen = true ∧ p.paused = false ∧
      meetsAttractionCriteria p.attractionID content.personData content.childData
        content.hasChild = true := by
  unfold confirmed at h
  cases hcontent : message.content with
  | emptyMessage => simp [hcontent] at h
  | enterAttraction data =>
    simp only [hcontent] at h
    split at h
    · cases h
    · split at h
      · rename_i hhand
        have hallowed := (ReplyOutcome.permitHandshake_eq_true.mp hhand).1
        simp only [Bool.and_eq_true, Bool.not_eq_true'] at hallowed
        obtain rfl := Option.some.inj h
        exact ⟨rfl, hallowed.1.1, hallowed.1.2, hallowed.2⟩
      · cases h

/-- A confirmed request entitles its sender. -/
theorem entitles_of_confirmed {isOpen : Bool} {cfg : AttractionConfig}
    {message : AttractionMQMessage} {x : ReplyOutcome} {p : AttractionProc}
    {handler : AttractionHandler} {content : EnterAttraction}
    (h : p.confirmed isOpen cfg message x handler = some content) :
    Entitles p.attractionID message message.senderPID ⟨content.hasChild, true⟩ := by
  obtain ⟨hcontent, -, -, hfits⟩ := AttractionProc.confirmed_eq_some h
  refine ⟨rfl, content, hcontent, rfl, hfits, fun entry hentry => ?_⟩
  rw [meetsAttractionCriteria_of_entry hentry] at hfits
  exact ((entry.admits_iff_rules _ _ _).mp hfits).1

namespace AttractionSystem
variable {C : Type*}

/-- The client is in an installed handler or in the one that is being filled. -/
def Aboard (s : AttractionSystem C) (pid : Pid) (data : HandlerClientData) : Prop :=
  s.proc.handlers.Carries pid data ∨ ∃ id h,
    (s.point = .filling id h ∨ s.point = .installing id h) ∧ h.clientList.lookup pid = some data

/-- The request that lets its sender board: the first one, when `pRegisterClient` adds the client
to the handler. -/
def boarded (cfg : AttractionConfig) (s : AttractionSystem C) :
    AttractionAction C → List AttractionMQMessage
  | .register x => match s.point, s.proc.enterQueue with
    | .filling _ newHandler, message :: _ =>
      if (AttractionProc.confirmed s.isOpen cfg message x s.proc newHandler).isSome ∧
        message.senderPID ∉ newHandler.clientList then [message] else []
    | _, _ => []
  | _ => []

/-- Filling adds the sender of a boarded request, or nobody. -/
theorem aboard_of_fill {cfg : AttractionConfig} {s : AttractionSystem C} {id : ℕ}
    {newHandler : AttractionHandler} (hpoint : s.point = .filling id newHandler) (x : ReplyOutcome)
    {pid : Pid} {data : HandlerClientData} (h : (s.fill cfg id newHandler x).Aboard pid data) :
    s.Aboard pid data ∨ ∃ message ∈ s.boarded cfg (.register x),
      Entitles s.proc.attractionID message pid data := by
  have old (hlookup : newHandler.clientList.lookup pid = some data) : s.Aboard pid data :=
    .inr ⟨id, newHandler, .inl hpoint, hlookup⟩
  unfold fill at h
  cases hqueue : s.proc.enterQueue with
  | nil =>
    rw [hqueue] at h
    obtain hcarries | ⟨i, k, hk, hlookup⟩ := h
    · exact .inl (.inl hcarries)
    · simp only [reduceCtorEq, false_or, RunPoint.installing.injEq] at hk
      exact .inl (old (hk.2 ▸ hlookup))
  | cons message rest =>
    rw [hqueue] at h
    dsimp only at h
    obtain ⟨content, hconfirmed, -, hregister⟩ | ⟨-, hkeep⟩ :=
      AttractionProc.pRegisterClient_state s.isOpen cfg message x s.proc newHandler
    · rw [hregister] at h
      obtain hcarries | ⟨i, k, hk, hlookup⟩ := h
      · exact .inl (.inl hcarries)
      simp only [reduceCtorEq, or_false, RunPoint.filling.injEq] at hk
      rw [← hk.2, AttractionHandler.addClient_lookup] at hlookup
      split at hlookup
      · rename_i hnew
        obtain rfl := Option.some.inj hlookup
        refine .inr ⟨message, ?_, hnew.1 ▸ entitles_of_confirmed hconfirmed⟩
        simp [boarded, hpoint, hqueue, hconfirmed, hnew.2]
      · exact .inl (old hlookup)
    · rw [hkeep] at h
      left
      split at h
      all_goals
        obtain hcarries | ⟨i, k, hk, hlookup⟩ := h
        · exact .inl hcarries
        simp only [reduceCtorEq, or_false, false_or, RunPoint.filling.injEq,
          RunPoint.installing.injEq] at hk
      all_goals exact old (hk.2 ▸ hlookup)

/-- Everybody aboard was there before the step, or boards in it. -/
theorem aboard_of_step [DecidableEq C] {cfg : AttractionConfig} {s t : AttractionSystem C}
    {a : AttractionAction C} (h : step cfg s a = some t) {pid : Pid} {data : HandlerClientData}
    (ht : t.Aboard pid data) :
    s.Aboard pid data ∨ ∃ message ∈ s.boarded cfg a,
      Entitles s.proc.attractionID message pid data := by
  have keeps (hhandlers : t.proc.handlers.Carries pid data → s.proc.handlers.Carries pid data)
      (hpoint : ∀ id k, t.point = .filling id k ∨ t.point = .installing id k →
        k.clientList.lookup pid = some data → s.Aboard pid data) : s.Aboard pid data := by
    obtain hcarries | ⟨id, k, hk, hlookup⟩ := ht
    · exact .inl (hhandlers hcarries)
    · exact hpoint id k hk hlookup
  cases a with
  | mailbox a =>
    obtain ⟨m, -, rfl⟩ := Option.map_eq_some_iff.mp h
    exact .inl ht
  | closePark =>
    obtain rfl := Option.some.inj h
    exact .inl ht
  | sigUsr1 logged =>
    obtain rfl := Option.some.inj h
    cases logged with
    | error e => exact .inl (keeps id (by simp [logging]))
    | ok u =>
      obtain hcarries | hnew := ht
      · exact absurd hcarries HandlerMap.not_carries_clear
      · exact .inl (.inr hnew)
  | sigUsr2 logged =>
    obtain rfl := Option.some.inj h
    cases logged with
    | error e => exact .inl (keeps id (by simp [logging]))
    | ok u => exact .inl ht
  | finishCheck now =>
    cases hpoint : s.point with
    | woken token =>
      simp only [step, hpoint, Option.some.injEq] at h
      subst h
      exact .inl (keeps HandlerMap.carries_of_dropFinished (by simp))
    | _ => simp [step, hpoint] at h
  | handle =>
    cases hpoint : s.point with
    | receiving token =>
      rcases hreceive : s.mailbox.receive with ⟨_ | msg, m⟩
      · simp only [step, hpoint, hreceive, Option.some.injEq] at h
        subst h
        exact .inl (keeps (fun hcarries => hcarries) (by simp))
      · simp only [step, hpoint, hreceive, Option.some.injEq] at h
        subst h
        exact .inl (keeps AttractionProc.carries_of_pHandleAttractionMQ (by simp))
    | _ => simp [step, hpoint] at h
  | register x =>
    cases hpoint : s.point with
    | filling id newHandler =>
      simp only [step, hpoint, Option.some.injEq] at h
      exact aboard_of_fill hpoint x (h ▸ ht)
    | _ => simp [step, hpoint] at h
  | registerThrows paused caught =>
    obtain ⟨id, newHandler, message, rest, -, -, rfl⟩ := registerThrows_step h
    cases caught with
    | error e => exact .inl (keeps (fun hcarries => hcarries) (by simp [logging]))
    | ok u => exact .inl ht
  | create =>
    simp only [step, Option.ite_none_right_eq_some] at h
    obtain ⟨-, h⟩ := h
    split at h
    · obtain rfl := Option.some.inj h
      exact .inl (keeps (fun hcarries => hcarries) (by simp))
    · split at h
      · obtain rfl := Option.some.inj h
        exact .inl (keeps (fun hcarries => hcarries) (by simp))
      · obtain rfl := Option.some.inj h
        refine .inl (keeps (fun hcarries => hcarries) fun id k hk hlookup => ?_)
        simp only [reduceCtorEq, or_false, RunPoint.filling.injEq] at hk
        rw [← hk.2] at hlookup
        cases hlookup
  | install =>
    cases hpoint : s.point with
    | installing id newHandler =>
      simp only [step, hpoint] at h
      split at h
      · obtain rfl := Option.some.inj h
        exact .inl (keeps (fun hcarries => hcarries) (by simp))
      · obtain rfl := Option.some.inj h
        obtain hcarries | ⟨i, k, hk, -⟩ := ht
        · refine .inl ((HandlerMap.carries_of_set hcarries).imp_right fun hlookup => ?_)
          exact ⟨_, newHandler, .inr hpoint, hlookup⟩
        · simp at hk
    | _ => simp [step, hpoint] at h
  | start now =>
    cases hpoint : s.point with
    | starting id =>
      cases hget : s.proc.handlers.get id with
      | none =>
        simp only [step, hpoint, hget, Option.some.injEq] at h
        subst h
        exact .inl (keeps (fun hcarries => hcarries) (by simp))
      | some handler =>
        simp only [step, hpoint, hget, Option.some.injEq] at h
        subst h
        refine .inl (keeps (fun hcarries => ?_) (by simp))
        obtain hcarries | hlookup := HandlerMap.carries_of_set hcarries
        · exact hcarries
        · rw [AttractionHandler.startAttraction_clientList] at hlookup
          exact HandlerMap.carries_of_get hget hlookup
    | _ => simp [step, hpoint] at h
  | announce logged =>
    cases hpoint : s.point with
    | announcing id =>
      simp only [step, hpoint] at h
      split at h
      · obtain rfl := Option.some.inj h
        exact .inl (keeps (fun hcarries => hcarries) (by simp))
      · obtain rfl := Option.some.inj h
        cases logged with
        | error e => exact .inl (keeps (fun hcarries => hcarries) (by simp [logging]))
        | ok u => exact .inl (keeps (fun hcarries => hcarries) (by simp [logging]))
    | _ => simp [step, hpoint] at h
  | check now =>
    simp only [step, Option.ite_none_right_eq_some] at h
    obtain ⟨-, h⟩ := h
    obtain rfl := Option.some.inj h
    exact .inl (keeps (fun hcarries => hcarries) (by simp; split <;> simp))
  | wake token =>
    simp only [step] at h
    split at h
    · split at h
      · rw [Option.ite_none_left_eq_some, Option.map_eq_some_iff] at h
        obtain ⟨-, m, -, rfl⟩ := h
        exact .inl (keeps (fun hcarries => hcarries) (by simp))
      · obtain rfl := Option.some.inj h
        exact .inl (keeps (fun hcarries => hcarries) (by simp))
    · simp at h
  | testPaused =>
    simp only [step] at h
    split at h
    · obtain rfl := Option.some.inj h
      exact .inl (keeps (fun hcarries => hcarries) (by simp; split <;> simp))
    · simp at h
  | receiveThrows =>
    simp only [step] at h
    split at h
    · obtain rfl := Option.some.inj h
      exact .inl (keeps (fun hcarries => hcarries) (by simp))
    · simp at h
  | decide =>
    simp only [step, Option.ite_none_right_eq_some] at h
    obtain ⟨-, h⟩ := h
    obtain rfl := Option.some.inj h
    exact .inl (keeps (fun hcarries => hcarries) (by simp; split <;> simp))

/-- The requests that let somebody board are among the handled ones. -/
theorem boarded_sublist_handled (cfg : AttractionConfig) (s : AttractionSystem C)
    (a : AttractionAction C) : (s.boarded cfg a).Sublist (s.handled cfg a) := by
  cases a with
  | register x =>
    cases hpoint : s.point with
    | filling id newHandler => cases hqueue : s.proc.enterQueue with
      | nil => simp [boarded, hpoint, hqueue]
      | cons message rest =>
        simp only [boarded, handled, hpoint, hqueue]
        obtain ⟨content, hconfirmed, -, hregister⟩ | ⟨hnone, -⟩ :=
          AttractionProc.pRegisterClient_state s.isOpen cfg message x s.proc newHandler
        · rw [hregister]
          split
          · exact List.Sublist.refl _
          · exact List.nil_sublist _
        · rw [hnone]
          exact List.nil_sublist _
    | _ => simp [boarded, hpoint]
  | _ => exact List.nil_sublist _

theorem attractionID_of_step [DecidableEq C] {cfg : AttractionConfig} {s t : AttractionSystem C}
    {a : AttractionAction C} (h : step cfg s a = some t) :
    t.proc.attractionID = s.proc.attractionID := by
  cases a with
  | mailbox a =>
    obtain ⟨m, -, rfl⟩ := Option.map_eq_some_iff.mp h
    rfl
  | closePark =>
    obtain rfl := Option.some.inj h
    rfl
  | sigUsr1 logged | sigUsr2 logged =>
    obtain rfl := Option.some.inj h
    cases logged <;> rfl
  | registerThrows paused caught =>
    obtain ⟨id, newHandler, message, rest, -, -, rfl⟩ := registerThrows_step h
    cases caught <;> rfl
  | wake token =>
    simp only [step] at h
    split at h
    · split at h
      · rw [Option.ite_none_left_eq_some, Option.map_eq_some_iff] at h
        obtain ⟨-, m, -, rfl⟩ := h
        rfl
      · obtain rfl := Option.some.inj h
        rfl
    · simp at h
  | handle =>
    simp only [step] at h
    split at h
    · split at h
      · obtain rfl := Option.some.inj h
        rfl
      · obtain rfl := Option.some.inj h
        simp only [AttractionProc.pHandleAttractionMQ, AttractionProc.pHandleEnterAttraction,
          AttractionProc.pRemoveClient]
        split <;> rfl
    · simp at h
  | announce logged =>
    simp only [step] at h
    split at h
    · split at h
      · obtain rfl := Option.some.inj h
        rfl
      · obtain rfl := Option.some.inj h
        cases logged <;> rfl
    · simp at h
  | _ =>
    simp only [step, fill] at h
    repeat' split at h
    all_goals first
      | rw [← Option.some.inj h]
      | cases h

/-- The history of the requests with those that let somebody board. -/
def boardingMachine (C : Type*) [DecidableEq C] (cfg : AttractionConfig) :
    Machine ((AttractionSystem C × RequestHistory AttractionMQMessage) × List AttractionMQMessage)
      (AttractionAction C) :=
  (requestMachine C cfg).observe fun boarded x a _ => boarded ++ x.1.boarded cfg a

/-- Every rider is entitled by a request of its own, and these requests are received entry
requests, in the order of their receipt. -/
structure RidersEntitled (attractionID : ℕ)
    (x : (AttractionSystem C × RequestHistory AttractionMQMessage) × List AttractionMQMessage) :
    Prop where
  inOrder : x.2.Sublist (x.1.2.received.filter isEntryRequest)
  rider : ∀ pid data, x.1.1.Aboard pid data →
    ∃ message ∈ x.2, Entitles attractionID message pid data

/-- The same with the requests that still wait. -/
structure Boarding (attractionID : ℕ)
    (x : (AttractionSystem C × RequestHistory AttractionMQMessage) × List AttractionMQMessage) :
    Prop where
  slot : x.1.1.proc.attractionID = attractionID
  handling : x.1.2.handled ++ x.1.1.proc.enterQueue = x.1.2.received.filter isEntryRequest
  boarding : x.2.Sublist x.1.2.handled
  rider : ∀ pid data, x.1.1.Aboard pid data →
    ∃ message ∈ x.2, Entitles attractionID message pid data

variable {attractionID : ℕ}
  {x y : (AttractionSystem C × RequestHistory AttractionMQMessage) × List AttractionMQMessage}

theorem Boarding.ridersEntitled (hx : Boarding attractionID x) : RidersEntitled attractionID x where
  inOrder := hx.boarding.trans (hx.handling ▸ List.sublist_append_left _ _)
  rider := hx.rider

theorem boarding_init (attractionID tokens : ℕ) (cfg : AttractionConfig) :
    Boarding attractionID (((init attractionID cfg tokens : AttractionSystem C), .empty), []) where
  slot := rfl
  handling := rfl
  boarding := List.Sublist.refl _
  rider := by
    rintro pid data (⟨id, handler, hmem, -⟩ | ⟨id, handler, hpoint, -⟩)
    · obtain ⟨i, -, heq⟩ := List.mem_map.mp hmem
      cases heq
    · simp [init] at hpoint

theorem Boarding.step [DecidableEq C] {cfg : AttractionConfig} {a : AttractionAction C}
    (hx : Boarding attractionID x) (h : (boardingMachine C cfg).step x a = some y) :
    Boarding attractionID y := by
  obtain ⟨hrequest, hboarded⟩ := Machine.observe_step.mp h
  obtain ⟨hstep, hrecord⟩ := Machine.observe_step.mp hrequest
  obtain ⟨-, hwaiting⟩ := step_requests hstep
  refine ⟨(attractionID_of_step hstep).trans hx.slot, ?_, ?_, fun pid data haboard => ?_⟩
  · rw [← hrecord, RequestHistory.record, List.append_assoc, hwaiting, ← List.append_assoc,
      hx.handling, List.filter_append]
    rfl
  · rw [← hboarded, ← hrecord]
    exact hx.boarding.append (boarded_sublist_handled cfg x.1.1 a)
  · rw [← hboarded]
    obtain hold | ⟨message, hmem, hentitles⟩ := aboard_of_step hstep haboard
    · obtain ⟨message, hmem, hentitles⟩ := hx.rider pid data hold
      exact ⟨message, List.mem_append_left _ hmem, hentitles⟩
    · exact ⟨message, List.mem_append_right _ hmem, hx.slot ▸ hentitles⟩

/-- In every run of an attraction, every client that is in one of its handlers, or in the one that
is being filled, has been added for a received entry request of its own with data that meet the
criteria; the requests that let somebody board were received in that order. -/
theorem ridersEntitled_always [DecidableEq C] (attractionID tokens : ℕ) (cfg : AttractionConfig)
    (as : List (AttractionAction C)) :
    (boardingMachine C cfg).Always (RidersEntitled attractionID)
      ((init attractionID cfg tokens, .empty), []) as :=
  Machine.always_of_invariant (fun _ hx => hx.ridersEntitled) (fun _ _ _ hx h => hx.step h) as
    (boarding_init attractionID tokens cfg)

end AttractionSystem
end AmusementPark.Attraction
