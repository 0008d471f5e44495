import AmusementPark.Attraction.NullEntries

/-! # Filling the free wagons

The loop `while (pCreateNewHandler())` of `pHandleAttraction` from its first to
its last iteration. Each iteration takes requests off the head of the queue
until one does not fit. An empty handler has room for every client, so a loop
that stops has run out of requests or of handlers.
-/
namespace AmusementPark.Attraction
open Library Worker

namespace HandlerMap

/-- The entries without a handler. -/
def freeCount (m : HandlerMap) : ℕ := m.countP fun e => e.2.isNone

theorem freeCount_cons (e : ℕ × Option AttractionHandler) (m : HandlerMap) :
    freeCount (e :: m) = freeCount m + if e.2.isNone then 1 else 0 := by
  rw [freeCount, List.countP_cons, freeCount]

theorem freeCount_set_le (id : ℕ) (h : AttractionHandler) (m : HandlerMap) :
    (m.set id (some h)).freeCount ≤ m.freeCount := by
  rw [freeCount, HandlerMap.set, List.countP_map, freeCount]
  apply List.countP_mono_left
  intro e _ he
  rw [Function.comp_apply] at he
  split at he
  · cases he
  · exact he

/-- Installing a handler in the first free entry leaves fewer of them. -/
theorem freeCount_set_lt {id : ℕ} (h : AttractionHandler) {m : HandlerMap}
    (hfree : m.firstFree = some id) : (m.set id (some h)).freeCount < m.freeCount := by
  induction m with
  | nil => cases hfree
  | cons e m ih =>
    obtain ⟨i, handler⟩ := e
    have hset : HandlerMap.set id (some h) ((i, handler) :: m) =
        (if i = id then (id, some h) else (i, handler)) :: HandlerMap.set id (some h) m := rfl
    rw [hset, freeCount_cons, freeCount_cons]
    cases handler with
    | none =>
      obtain rfl : i = id := Option.some.inj hfree
      have := freeCount_set_le i h m
      simp only [if_true, Option.isNone_some, Option.isNone_none, Bool.false_eq_true, if_false]
      omega
    | some k =>
      have := ih hfree
      split <;> simpa using this

theorem set_set (id : ℕ) (h k : AttractionHandler) (m : HandlerMap) :
    HandlerMap.set id (some k) (HandlerMap.set id (some h) m) = HandlerMap.set id (some k) m := by
  simp only [HandlerMap.set, List.map_map]
  apply List.map_congr_left
  intro e _
  rw [Function.comp_apply]
  by_cases he : e.1 = id <;> simp [he]

theorem firstFree_eq_none {m : HandlerMap} :
    m.firstFree = none ↔ ∀ e ∈ m, e.2.isSome = true := by
  simp [firstFree, List.find?_eq_none, Option.isNone_iff_eq_none, Option.isSome_iff_ne_none]

end HandlerMap

/-! ## The loop -/

/-- What one iteration meets outside: the flag `isOpen`, the exchange with the client, the clock
of `StartAttraction` and the log message after it. -/
structure FillEnv where
  isOpen : Bool
  exchange : ReplyOutcome
  now : ℤ
  logged : Except Exn Unit

/-- A call of `pRegisterClient` that returned. -/
structure RegisterCall where
  message : AttractionMQMessage
  returned : Bool

/-- A handler that is being filled, the requests that are left and the calls so far. -/
structure Filling where
  handler : AttractionHandler
  queue : List AttractionMQMessage
  calls : List RegisterCall

/-- The attraction in its loop. The calls made so far are a history, and tell which of the
environments comes next. -/
structure FillState where
  proc : AttractionProc
  calls : List RegisterCall

variable (cfg : AttractionConfig) (env : ℕ → FillEnv)

/-- The loop over `m_enterQueue` in `pCreateNewHandler`. -/
def fillHandler (p : AttractionProc) : List AttractionMQMessage → List RegisterCall →
    AttractionHandler → Except Exn Filling
  | [], calls, newHandler => .ok ⟨newHandler, [], calls⟩
  | message :: rest, calls, newHandler =>
    let e := env calls.length
    let r := p.pRegisterClient e.isOpen cfg message e.exchange newHandler
    match r.1 with
    | .error ex => .error ex
    | .ok false => .ok ⟨r.2, message :: rest, calls ++ [⟨message, false⟩]⟩
    | .ok true => fillHandler p rest (calls ++ [⟨message, true⟩]) r.2

/-- `pCreateNewHandler`; no signal arrives meanwhile. -/
def pCreateNewHandler (s : FillState) : Except Exn (Bool × FillState) :=
  if s.proc.paused then .ok (false, s)
  else match s.proc.handlers.firstFree with
    | none => .ok (false, s)
    | some newHandlerID =>
      match fillHandler cfg env s.proc s.proc.enterQueue s.calls
          (.construct (AttractionSystem.handlerData cfg newHandlerID)) with
      | .error ex => .error ex
      | .ok f =>
        let proc := { s.proc with enterQueue := f.queue }
        if f.handler.isEmpty then .ok (false, ⟨proc, f.calls⟩)
        else
          let e := env f.calls.length
          let handlers := proc.handlers.set newHandlerID (some (f.handler.startAttraction e.now))
          match e.logged with
          | .error ex => .error ex
          | .ok () => .ok (true, ⟨{ proc with handlers := handlers }, f.calls⟩)

/-- `while (pCreateNewHandler()) { ; }`, for at most the given number of iterations. -/
def createHandlers : ℕ → FillState → Option (Except Exn FillState)
  | 0, _ => none
  | fuel + 1, s =>
    match pCreateNewHandler cfg env s with
    | .error ex => some (.error ex)
    | .ok (false, t) => some (.ok t)
    | .ok (true, t) => createHandlers fuel t

/-- The requests for which `pRegisterClient` returned true, in the order of the calls. -/
def answered (calls : List RegisterCall) : List AttractionMQMessage :=
  (calls.filter RegisterCall.returned).map RegisterCall.message

variable {cfg env}

theorem answered_append (calls later : List RegisterCall) :
    answered (calls ++ later) = answered calls ++ answered later := by
  simp [answered]

/-! ## One handler -/

theorem getClientCount_of_isEmpty {h : AttractionHandler} (hempty : h.isEmpty = true) :
    h.getClientCount = 0 := by
  rw [AttractionHandler.isEmpty, List.isEmpty_iff] at hempty
  rw [AttractionHandler.getClientCount, assocTotal, hempty]
  rfl

/-- `pRegisterClient` returns false only for a client that finds no room, and then changes
nothing. -/
theorem AttractionProc.pRegisterClient_eq_false {isOpen : Bool} {message : AttractionMQMessage}
    {x : ReplyOutcome} {p : AttractionProc} {h : AttractionHandler}
    (hfalse : (p.pRegisterClient isOpen cfg message x h).1 = .ok false) :
    (∃ content : EnterAttraction,
      cfg.maxClientsPerHandler < h.getClientCount + partySize content.hasChild) ∧
    (p.pRegisterClient isOpen cfg message x h).2 = h := by
  unfold pRegisterClient at hfalse ⊢
  cases hcontent : message.content with
  | emptyMessage =>
    rw [hcontent] at hfalse
    cases hcaught : x.caught <;> simp [hcaught, Except.map] at hfalse
  | enterAttraction content =>
    rw [hcontent] at hfalse
    dsimp only at hfalse ⊢
    split at hfalse
    · next hfull =>
      rw [if_pos hfull]
      exact ⟨⟨content, hfull.1⟩, rfl⟩
    · exfalso
      split at hfalse
      · cases hcaught : x.caught <;> simp [hcaught, Except.map] at hfalse
      · cases hfalse
      · cases hfalse

/-- Room for an adult and a child is room for the first client. -/
theorem isEmpty_of_eq_false (hmax : 2 ≤ cfg.maxClientsPerHandler) {isOpen : Bool}
    {message : AttractionMQMessage} {x : ReplyOutcome} {p : AttractionProc}
    {h : AttractionHandler} (hfalse : (p.pRegisterClient isOpen cfg message x h).1 = .ok false) :
    h.isEmpty = false := by
  obtain ⟨⟨content, hfull⟩, -⟩ := AttractionProc.pRegisterClient_eq_false hfalse
  by_contra hempty
  rw [Bool.not_eq_false] at hempty
  rw [getClientCount_of_isEmpty hempty, partySize] at hfull
  have := Bool.toNat_le content.hasChild
  omega

/-- The loop takes a prefix of the queue, whose clients it has answered, and stops with an empty
handler only at the end of the queue. -/
theorem fillHandler_spec (hmax : 2 ≤ cfg.maxClientsPerHandler) (p : AttractionProc)
    (queue : List AttractionMQMessage) (calls : List RegisterCall) (h : AttractionHandler)
    {f : Filling} (hf : fillHandler cfg env p queue calls h = .ok f) :
    answered f.calls ++ f.queue = answered calls ++ queue ∧
      (f.handler.isEmpty = true → f.queue = []) := by
  induction queue generalizing calls h with
  | nil =>
    obtain rfl := Except.ok.inj hf
    exact ⟨rfl, fun _ => rfl⟩
  | cons message rest ih =>
    unfold fillHandler at hf
    dsimp only at hf
    rcases hr : (p.pRegisterClient (env calls.length).isOpen cfg message
        (env calls.length).exchange h).1 with ex | _ | _
    · rw [hr] at hf
      cases hf
    · rw [hr] at hf
      obtain rfl := Except.ok.inj hf
      constructor
      · simp [answered]
      · intro hempty
        rw [(AttractionProc.pRegisterClient_eq_false hr).2, isEmpty_of_eq_false hmax hr] at hempty
        cases hempty
    · rw [hr] at hf
      obtain ⟨htaken, hempty⟩ := ih _ _ hf
      refine ⟨?_, hempty⟩
      rw [htaken, answered_append]
      simp [answered]

/-! ## One iteration and all of them -/

/-- No wagon is left idle: the loop has gone through a prefix of the queue, whose clients it has
answered in order, and has stopped at its end or without a free handler. -/
structure NoIdle (p : AttractionProc) (s : FillState) : Prop where
  taken : answered s.calls ++ s.proc.enterQueue = p.enterQueue
  exhausted : (∀ e ∈ s.proc.handlers, e.2.isSome = true) ∨ s.proc.enterQueue = []

/-- An iteration that returns true fills a free handler, one that returns false leaves no wagon
idle. -/
theorem pCreateNewHandler_spec (hmax : 2 ≤ cfg.maxClientsPerHandler) {s t : FillState} {b : Bool}
    (hpaused : s.proc.paused = false) (h : pCreateNewHandler cfg env s = .ok (b, t)) :
    answered t.calls ++ t.proc.enterQueue = answered s.calls ++ s.proc.enterQueue ∧
      t.proc.paused = false ∧
      (b = true → t.proc.handlers.freeCount < s.proc.handlers.freeCount) ∧
      (b = false → (∀ e ∈ t.proc.handlers, e.2.isSome = true) ∨ t.proc.enterQueue = []) := by
  rw [pCreateNewHandler, if_neg (by simp [hpaused])] at h
  cases hfree : s.proc.handlers.firstFree with
  | none =>
    simp only [hfree, Except.ok.injEq, Prod.mk.injEq] at h
    obtain ⟨rfl, rfl⟩ := h
    exact ⟨rfl, hpaused, by simp, fun _ => .inl (HandlerMap.firstFree_eq_none.mp hfree)⟩
  | some id =>
    simp only [hfree] at h
    cases hfill : fillHandler cfg env s.proc s.proc.enterQueue s.calls
        (.construct (AttractionSystem.handlerData cfg id)) with
    | error ex => simp [hfill] at h
    | ok f =>
      simp only [hfill] at h
      obtain ⟨htaken, hempty⟩ := fillHandler_spec hmax s.proc _ _ _ hfill
      cases hhandler : f.handler.isEmpty with
      | true =>
        simp only [hhandler, if_true, Except.ok.injEq, Prod.mk.injEq] at h
        obtain ⟨rfl, rfl⟩ := h
        exact ⟨htaken, hpaused, by simp, fun _ => .inr (hempty hhandler)⟩
      | false =>
        simp only [hhandler, Bool.false_eq_true, if_false] at h
        cases hlogged : (env f.calls.length).logged with
        | error ex => simp [hlogged] at h
        | ok u =>
          simp only [hlogged, Except.ok.injEq, Prod.mk.injEq] at h
          obtain ⟨rfl, rfl⟩ := h
          exact ⟨htaken, hpaused, fun _ => HandlerMap.freeCount_set_lt _ hfree, by simp⟩

/-- With one iteration more than there are free handlers the loop ends. -/
theorem createHandlers_spec (hmax : 2 ≤ cfg.maxClientsPerHandler) (p : AttractionProc) (fuel : ℕ)
    {s : FillState} (hpaused : s.proc.paused = false)
    (htaken : answered s.calls ++ s.proc.enterQueue = p.enterQueue)
    (hfuel : s.proc.handlers.freeCount < fuel) :
    ∃ r, createHandlers cfg env fuel s = some r ∧ ∀ t, r = .ok t → NoIdle p t := by
  induction fuel generalizing s with
  | zero => omega
  | succ fuel ih =>
    rw [createHandlers]
    rcases h : pCreateNewHandler cfg env s with ex | ⟨_ | _, t⟩
    · exact ⟨_, rfl, by simp⟩
    · obtain ⟨htaken', -, -, hdone⟩ := pCreateNewHandler_spec hmax hpaused h
      refine ⟨_, rfl, ?_⟩
      intro u hu
      obtain rfl := Except.ok.inj hu
      exact ⟨htaken'.trans htaken, hdone rfl⟩
    · obtain ⟨htaken', hpaused', hless, -⟩ := pCreateNewHandler_spec hmax hpaused h
      apply ih hpaused' (htaken'.trans htaken)
      have := hless rfl
      omega

/-- The loop of `pHandleAttraction` ends for every queue, every set of occupied handlers and every
outcome of the exchanges, and if no exception ended it, no wagon is idle while clients wait. -/
theorem createHandlers_noIdle (hmax : 2 ≤ cfg.maxClientsPerHandler) (env : ℕ → FillEnv)
    (p : AttractionProc) (hpaused : p.paused = false) (fuel : ℕ)
    (hfuel : p.handlers.freeCount < fuel) :
    ∃ r, createHandlers cfg env fuel ⟨p, []⟩ = some r ∧ ∀ t, r = .ok t → NoIdle p t :=
  createHandlers_spec hmax p fuel hpaused rfl hfuel

/-- The parties whose requests wait at A13, whose wagons take two people: PID 9 is too short and
the others are let on, 8 and 10 with a child. -/
def partiesWait : List AttractionMQMessage :=
  [(7, false, 180), (8, true, 170), (9, false, 130), (10, true, 180), (11, false, 165),
    (12, false, 190)].map fun (pid, hasChild, height) =>
      ⟨pid, .enterAttraction, .enterAttraction ⟨hasChild, ⟨30, height⟩, ⟨12, 150⟩⟩⟩

/-- The second of the four wagons is on its way with PID 6. -/
def threeFree : AttractionProc where
  attractionID := 12
  handlers := [(38, none), (39, some (((AttractionHandler.construct ⟨39, 2, 20, false⟩).addClient
    6 false true).2.startAttraction 0)), (40, none), (41, none)]
  enterQueue := partiesWait
  paused := false

/-- PID 8 and PID 10 are asked twice, since the wagon of the party before them has no room. -/
def askedPIDs : List Pid := [7, 8, 8, 9, 10, 10, 11, 12]

/-- The call of the given number is about a client that confirms its permit, except for PID 10,
which lets it time out. -/
def timesOutOnce (call : ℕ) : FillEnv :=
  let clientPID := askedPIDs.getD call 0
  ⟨true, if clientPID = 10 then { ReplyOutcome.faultless clientPID 5 with received := .ok none }
    else .faultless clientPID 5, 5, .ok ()⟩

/-- The first free wagon takes PID 7, the second PID 8 with its child, and the third PID 11 and
PID 12, since PID 10 has not confirmed. -/
theorem partiesWait_noIdle :
    (∃ r, createHandlers ⟨20, 2, 4, true, -1, 140, -1, 195⟩ timesOutOnce 4 ⟨threeFree, []⟩ =
        some r ∧ ∀ t, r = .ok t → NoIdle threeFree t) ∧
      ∃ t, createHandlers ⟨20, 2, 4, true, -1, 140, -1, 195⟩ timesOutOnce 4 ⟨threeFree, []⟩ =
          some (.ok t) ∧
        t.proc.handlers.map (fun e => (e.2.map fun h => h.clientList.keys)) =
          [some [7], some [6], some [8], some [12, 11]] ∧
        t.proc.enterQueue = [] :=
  ⟨createHandlers_noIdle (by decide) timesOutOnce threeFree rfl 4 (by decide), _, rfl,
    by decide, rfl⟩

/-! ## The iterations as steps of the main loop -/

namespace AttractionSystem
variable {C : Type*} [DecidableEq C] {S : AttractionSystem C}

/-- The loop over the queue as `register` steps. -/
theorem fillHandler_exec (henv : ∀ i, (env i).isOpen = S.isOpen) (p : AttractionProc) (id : ℕ)
    (queue : List AttractionMQMessage) (calls : List RegisterCall) (h : AttractionHandler)
    {f : Filling} (hf : fillHandler cfg env p queue calls h = .ok f) :
    ∃ as, (machine C cfg).exec
        { S with proc := { p with enterQueue := queue }, point := .filling id h } as =
      some { S with
        proc := { p with enterQueue := f.queue }
        point := .installing id f.handler } := by
  induction queue generalizing calls h with
  | nil =>
    obtain rfl := Except.ok.inj hf
    exact ⟨[.register (env 0).exchange], rfl⟩
  | cons message rest ih =>
    unfold fillHandler at hf
    dsimp only at hf
    rw [henv] at hf
    have hfill : ({ S with
        proc := { p with enterQueue := message :: rest }
        point := .filling id h } : AttractionSystem C).fill cfg id h (env calls.length).exchange =
        match (p.pRegisterClient S.isOpen cfg message (env calls.length).exchange h).1 with
        | .error _ => { S with proc := { p with enterQueue := message :: rest }, point := .stopped }
        | .ok false => { S with
            proc := { p with enterQueue := message :: rest }
            point := .installing id
              (p.pRegisterClient S.isOpen cfg message (env calls.length).exchange h).2 }
        | .ok true => { S with
            proc := { p with enterQueue := rest }
            point := .filling id
              (p.pRegisterClient S.isOpen cfg message (env calls.length).exchange h).2 } := rfl
    rcases hr : (p.pRegisterClient S.isOpen cfg message (env calls.length).exchange h).1 with
      ex | _ | _
    · rw [hr] at hf
      cases hf
    · rw [hr] at hf hfill
      obtain rfl := Except.ok.inj hf
      exact ⟨[.register (env calls.length).exchange], congrArg some hfill⟩
    · rw [hr] at hf hfill
      obtain ⟨as, has⟩ := ih _ _ hf
      refine ⟨.register (env calls.length).exchange :: as, ?_⟩
      exact (machine C cfg).exec_cons_eq_some.mpr ⟨_, congrArg some hfill, has⟩

/-- An iteration of the loop, from one test of its condition to the next, is a list of steps of the
main loop. -/
theorem pCreateNewHandler_exec (henv : ∀ i, (env i).isOpen = S.isOpen)
    (hpoint : S.point = .creating) {calls : List RegisterCall} {b : Bool} {t : FillState}
    (h : pCreateNewHandler cfg env ⟨S.proc, calls⟩ = .ok (b, t)) :
    ∃ as, (machine C cfg).exec S as =
      some { S with proc := t.proc, point := if b then .creating else .loopHead } := by
  rw [pCreateNewHandler] at h
  cases hpaused : S.proc.paused with
  | true =>
    simp only [hpaused, if_true, Except.ok.injEq, Prod.mk.injEq] at h
    obtain ⟨rfl, rfl⟩ := h
    refine ⟨[.create], ?_⟩
    simp [Machine.exec, machine, step, hpoint, hpaused]
  | false =>
    rw [if_neg (by simp [hpaused])] at h
    cases hfree : S.proc.handlers.firstFree with
    | none =>
      simp only [hfree, Except.ok.injEq, Prod.mk.injEq] at h
      obtain ⟨rfl, rfl⟩ := h
      refine ⟨[.create], ?_⟩
      simp [Machine.exec, machine, step, hpoint, hpaused, hfree]
    | some id =>
      simp only [hfree] at h
      cases hfill : fillHandler cfg env S.proc S.proc.enterQueue calls
          (.construct (handlerData cfg id)) with
      | error ex => simp [hfill] at h
      | ok f =>
        simp only [hfill] at h
        obtain ⟨as, has⟩ := fillHandler_exec henv S.proc id _ _ _ hfill
        have hcreate : (machine C cfg).exec S (.create :: as) =
            some { S with
              proc := { S.proc with enterQueue := f.queue }
              point := .installing id f.handler } := by
          have hstep : (machine C cfg).step S .create =
              some { S with point := .filling id (.construct (handlerData cfg id)) } := by
            simp [machine, step, hpoint, hpaused, hfree]
          exact (machine C cfg).exec_cons_eq_some.mpr ⟨_, hstep, has⟩
        cases hhandler : f.handler.isEmpty with
        | true =>
          simp only [hhandler, if_true, Except.ok.injEq, Prod.mk.injEq] at h
          obtain ⟨rfl, rfl⟩ := h
          refine ⟨(.create :: as) ++ [.install], ?_⟩
          rw [Machine.exec_append, hcreate]
          simp [Machine.exec, machine, step, hhandler]
        | false =>
          simp only [hhandler, Bool.false_eq_true, if_false] at h
          cases hlogged : (env f.calls.length).logged with
          | error ex => simp [hlogged] at h
          | ok u =>
            simp only [hlogged, Except.ok.injEq, Prod.mk.injEq] at h
            obtain ⟨rfl, rfl⟩ := h
            have hid : id ∈ HandlerMap.ids S.proc.handlers := HandlerMap.firstFree_mem hfree
            refine ⟨(.create :: as) ++
              [.install, .start (env f.calls.length).now, .announce (.ok ())], ?_⟩
            rw [Machine.exec_append, hcreate]
            simp [Machine.exec, machine, step, hhandler, HandlerMap.get_set_self, hid,
              HandlerMap.set_set, logging]

/-- The whole loop, from the first test of its condition to the head of `Run`. -/
theorem createHandlers_exec {fuel : ℕ} {calls : List RegisterCall} {t : FillState}
    (henv : ∀ i, (env i).isOpen = S.isOpen) (hpoint : S.point = .creating)
    (h : createHandlers cfg env fuel ⟨S.proc, calls⟩ = some (.ok t)) :
    ∃ as, (machine C cfg).exec S as = some { S with proc := t.proc, point := .loopHead } := by
  induction fuel generalizing S calls with
  | zero => cases h
  | succ fuel ih =>
    rw [createHandlers] at h
    rcases hnew : pCreateNewHandler cfg env ⟨S.proc, calls⟩ with ex | ⟨_ | _, u⟩
    · simp [hnew] at h
    · simp only [hnew, Option.some.injEq, Except.ok.injEq] at h
      subst h
      exact pCreateNewHandler_exec henv hpoint hnew
    · simp only [hnew] at h
      obtain ⟨as, has⟩ := pCreateNewHandler_exec henv hpoint hnew
      obtain ⟨bs, hbs⟩ := ih (S := { S with proc := u.proc, point := .creating }) henv rfl h
      refine ⟨as ++ bs, ?_⟩
      rw [Machine.exec_append, has]
      exact hbs

end AttractionSystem
end AmusementPark.Attraction
