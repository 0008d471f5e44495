import AmusementPark.Attraction.HandlerCalls

/-! # The loops over the handlers and `CloseAttraction`

`AttractionProc::Run` cut at every test and every use of an entry of
`m_attractionHandlers`. `SIGUSR1` sets all entries to null; between a test and
the call that follows it, the call then goes through a null pointer.
-/
namespace AmusementPark.Attraction
open Library Worker

/-- Where `Run` stands, with the index of the loops over the handlers. The points named `...Use`,
and `starting` and `counting`, are those before a call through an entry. -/
inductive EntryPoint where
  | loopHead
  | timeoutTest (i : ℕ) (nextTimeout : ℤ)
  | timeoutUse (i : ℕ) (nextTimeout : ℤ)
  | waiting (timeout : ℤ)
  | finishTest (i : ℕ)
  | finishUse (i : ℕ)
  | finishClear (i : ℕ)
  | testPaused
  | receiving
  | removeTest (i : ℕ) (pid : Pid)
  | removeUse (i : ℕ) (pid : Pid)
  | deciding
  | creating
  | filling (id : ℕ) (newHandler : AttractionHandler)
  | installing (id : ℕ) (newHandler : AttractionHandler)
  | starting (id : ℕ)
  | counting (id : ℕ)
  | stopped
  | crashed
deriving DecidableEq

structure EntrySystem where
  proc : AttractionProc
  isOpen : Bool
  point : EntryPoint

/-- What the calls of one step return. -/
structure EntryOutcome where
  now : ℤ
  received : Except Exn (Option AttractionMQMessage)
  messageCount : ℤ
  reply : ReplyOutcome
  logged : Except Exn Unit

/-- `registerThrows` is a signal that sets `paused` inside the `try` of `pRegisterClient`, and whose
log message throws. -/
inductive EntryAction where
  | run (x : EntryOutcome)
  | closePark
  | sigUsr1 (logged : Except Exn Unit)
  | sigUsr2 (logged : Except Exn Unit)
  | registerThrows (paused : Bool) (caught : Except Exn Unit)

namespace HandlerMap

/-- The handler of the entry a loop has reached. -/
def entry (i : ℕ) (handlers : HandlerMap) : Option AttractionHandler := (handlers[i]?).bind Prod.snd

def setEntry (i : ℕ) (handler : Option AttractionHandler) (handlers : HandlerMap) : HandlerMap :=
  handlers.modify i fun e => (e.1, handler)

@[simp] theorem entry_clear (i : ℕ) (m : HandlerMap) : m.clear.entry i = none := by
  cases h : m[i]? <;> simp [entry, clear, h]

@[simp] theorem ids_setEntry (i : ℕ) (h : Option AttractionHandler) (m : HandlerMap) :
    (m.setEntry i h).ids = m.ids := by
  apply List.ext_getElem?
  intro j
  by_cases hj : i = j <;> cases hm : m[j]? <;> simp [ids, setEntry, hj, hm]

theorem firstFree_mem {m : HandlerMap} {id : ℕ} (h : m.firstFree = some id) : id ∈ m.ids := by
  obtain ⟨e, he, rfl⟩ := Option.map_eq_some_iff.mp h
  exact List.mem_map_of_mem (List.mem_of_find?_eq_some he)

end HandlerMap

/-- The index of the entry through which the next step calls. -/
def EntryPoint.loopUse : EntryPoint → Option ℕ
  | .timeoutUse i _ | .finishUse i | .removeUse i _ => some i
  | _ => none

/-- The points before which nothing has to be known about the entries. -/
def EntryPoint.plain : EntryPoint → Bool
  | .timeoutUse _ _ | .finishUse _ | .removeUse _ _ | .filling _ _ | .installing _ _ | .starting _
  | .counting _ | .crashed => false
  | _ => true

namespace EntrySystem

def go (s : EntrySystem) (point : EntryPoint) : EntrySystem := { s with point := point }

def setHandlers (s : EntrySystem) (handlers : HandlerMap) : EntrySystem :=
  { s with proc := { s.proc with handlers := handlers } }

/-- The head of a loop over the entries: at the end, at a null entry, or at a handler. -/
def visit (s : EntrySystem) (i : ℕ) (done next use : EntryPoint) : EntrySystem :=
  match s.proc.handlers[i]? with
  | none => s.go done
  | some (_, none) => s.go next
  | some (_, some _) => s.go use

/-- A method call through a pointer. -/
def call (s : EntrySystem) (entry : Option AttractionHandler)
    (method : AttractionHandler → EntrySystem) : EntrySystem :=
  match entry with
  | none => s.go .crashed
  | some handler => method handler

/-- One round of the inner loop of `pCreateNewHandler`. -/
def fill (s : EntrySystem) (cfg : AttractionConfig) (id : ℕ) (newHandler : AttractionHandler)
    (x : ReplyOutcome) : EntrySystem :=
  match s.proc.enterQueue with
  | [] => s.go (.installing id newHandler)
  | message :: rest =>
    let r := AttractionProc.pRegisterClient s.isOpen cfg message x s.proc newHandler
    match r.1 with
    | .error _ => s.go .stopped
    | .ok false => s.go (.installing id r.2)
    | .ok true => { s with proc := { s.proc with enterQueue := rest }, point := .filling id r.2 }

/-- One step of `Run`. -/
def stepRun (cfg : AttractionConfig) (s : EntrySystem) (x : EntryOutcome) : Option EntrySystem :=
  match s.point with
  | .loopHead => some (s.go (if s.isOpen then .timeoutTest 0 (-1) else .stopped))
  | .timeoutTest i nextTimeout => some (s.visit i
      (.waiting (if nextTimeout ≠ -1 then nextTimeout - x.now else nextTimeout))
      (.timeoutTest (i + 1) nextTimeout) (.timeoutUse i nextTimeout))
  | .timeoutUse i nextTimeout => some (s.call (s.proc.handlers.entry i) fun handler =>
      s.go (.timeoutTest (i + 1) (HandlerMap.earlier nextTimeout handler.finishTime)))
  | .waiting _ => some (s.go (.finishTest 0))
  | .finishTest i => some (s.visit i .testPaused (.finishTest (i + 1)) (.finishUse i))
  | .finishUse i => some (s.call (s.proc.handlers.entry i) fun handler =>
      s.go (if handler.finished x.now then .finishClear i else .finishTest (i + 1)))
  | .finishClear i => some ((s.setHandlers (s.proc.handlers.setEntry i none)).go
      (.finishTest (i + 1)))
  | .testPaused => some (s.go (if s.proc.paused then .loopHead else .receiving))
  | .receiving => match x.received with
    | .error _ => some (s.go .stopped)
    | .ok none => some (s.go .deciding)
    | .ok (some message) => match message.mType with
      | .enterAttraction => some { s with
          proc := AttractionProc.pHandleEnterAttraction message s.proc
          point := .deciding }
      | .exitAttraction => some (s.go (.removeTest 0 message.senderPID))
      | .other _ => some (s.go .deciding)
  | .removeTest i pid => some (s.visit i .deciding (.removeTest (i + 1) pid) (.removeUse i pid))
  | .removeUse i pid => some (s.call (s.proc.handlers.entry i) fun handler =>
      let r := handler.removeClient pid
      (s.setHandlers (s.proc.handlers.setEntry i (some r.2))).go
        (if r.1 then .deciding else .removeTest (i + 1) pid))
  | .deciding => some (s.go (if cfg.maxClientsPerHandler < s.proc.enterQueue.length ∨
      x.messageCount = 0 then .creating else .loopHead))
  | .creating => if s.proc.paused then some (s.go .loopHead)
      else match s.proc.handlers.firstFree with
        | none => some (s.go .loopHead)
        | some id => some (s.go
            (.filling id (.construct (AttractionSystem.handlerData cfg id))))
  | .filling id newHandler => some (s.fill cfg id newHandler x.reply)
  | .installing id newHandler => if newHandler.isEmpty then some (s.go .loopHead)
      else some ((s.setHandlers (s.proc.handlers.set id (some newHandler))).go (.starting id))
  | .starting id => some (s.call (s.proc.handlers.get id) fun handler =>
      (s.setHandlers (s.proc.handlers.set id (some (handler.startAttraction x.now)))).go
        (.counting id))
  | .counting id => some (s.call (s.proc.handlers.get id) fun _ => match x.logged with
      | .ok () => s.go .creating
      | .error _ => s.go .stopped)
  | .stopped | .crashed => none

/-- The signal handlers first set the flag, then log, and `CloseAttraction` goes on to clear the
entries; an exception leaves `Run`, unless it ends a registration. -/
def step (cfg : AttractionConfig) (s : EntrySystem) : EntryAction → Option EntrySystem
  | .run x => s.stepRun cfg x
  | .closePark => some { s with isOpen := false }
  | .sigUsr1 (.ok ()) => some { s with
      proc := AttractionProc.closeAttraction { s.proc with paused := true } }
  | .sigUsr1 (.error _) => some { s with
      proc := { s.proc with paused := true }
      point := if s.point = .crashed then .crashed else .stopped }
  | .sigUsr2 (.ok ()) => some { s with proc := { s.proc with paused := false } }
  | .sigUsr2 (.error _) => some { s with
      proc := { s.proc with paused := false }
      point := if s.point = .crashed then .crashed else .stopped }
  | .registerThrows paused caught => match s.point, s.proc.enterQueue with
    | .filling _ _, _ :: rest => some (match caught with
      | .ok () => { s with proc := { s.proc with enterQueue := rest, paused := paused } }
      | .error _ => { s with proc := { s.proc with paused := paused }, point := .stopped })
    | _, _ => none

def machine (cfg : AttractionConfig) : Machine EntrySystem EntryAction := ⟨step cfg⟩

/-- The pointer through which the next step of `Run` calls a method. -/
def callee (s : EntrySystem) : Option (Option AttractionHandler) :=
  match s.point with
  | .timeoutUse i _ | .finishUse i | .removeUse i _ => some (s.proc.handlers.entry i)
  | .starting id | .counting id => some (s.proc.handlers.get id)
  | _ => none

/-- `Run` has made no call through a null entry and does not make one next. -/
def NoNullCall (s : EntrySystem) : Prop := s.point ≠ .crashed ∧ s.callee ≠ some none

/-- `SIGUSR1` does not arrive between the test or the installation of an entry and the call
through it. -/
def ClosesBetweenCalls (s : EntrySystem) : EntryAction → Prop
  | .sigUsr1 (.ok _) => s.callee = none
  | _ => True

/-- What the code has tested, and where a new handler goes. -/
structure EntriesTested (s : EntrySystem) : Prop where
  noNullCall : s.NoNullCall
  building : ∀ id h, s.point = .filling id h ∨ s.point = .installing id h → id ∈ s.proc.handlers.ids
  starting : ∀ id, s.point = .starting id → id ∈ s.proc.handlers.ids

variable {cfg : AttractionConfig} {s t : EntrySystem}

theorem entriesTested_of_plain (h : s.point.plain = true) : s.EntriesTested := by
  unfold EntryPoint.plain at h
  refine ⟨⟨?_, ?_⟩, ?_, ?_⟩
  · intro hpoint
    simp [hpoint] at h
  · unfold callee
    split at h <;> simp_all
  · rintro id handler (hpoint | hpoint) <;> simp [hpoint] at h
  · intro id hpoint
    simp [hpoint] at h

/-- A loop that has tested an entry may call through it. -/
theorem entriesTested_visit {i : ℕ} {done next use : EntryPoint} (hdone : done.plain = true)
    (hnext : next.plain = true) (huse : use.loopUse = some i) :
    (s.visit i done next use).EntriesTested := by
  unfold visit
  split
  · exact entriesTested_of_plain hdone
  · exact entriesTested_of_plain hnext
  · next handler hentry =>
    have hsome : s.proc.handlers.entry i = some handler := by simp [HandlerMap.entry, hentry]
    have hcallee : (s.go use).callee = some (some handler) := by
      cases use <;> cases huse <;> exact congrArg some hsome
    refine ⟨⟨?_, by simp [hcallee]⟩, ?_, ?_⟩
    · rintro rfl
      cases huse
    · rintro id h (hpoint | hpoint) <;> change use = _ at hpoint <;> subst hpoint <;> cases huse
    · rintro id hpoint
      change use = _ at hpoint
      subst hpoint
      cases huse

/-- A call through a tested entry reaches its method. -/
theorem entriesTested_call (hs : s.EntriesTested) {entry : Option AttractionHandler}
    (hentry : s.callee = some entry) {method : AttractionHandler → EntrySystem}
    (hmethod : ∀ handler, (method handler).EntriesTested) :
    (s.call entry method).EntriesTested := by
  cases entry with
  | none => exact absurd hentry hs.noNullCall.2
  | some handler => exact hmethod handler

/-- The point of a new handler that is being filled or has been filled. -/
theorem entriesTested_building {id : ℕ} {h : AttractionHandler} (hid : id ∈ s.proc.handlers.ids)
    (hpoint : s.point = .filling id h ∨ s.point = .installing id h) :
    s.EntriesTested := by
  refine ⟨⟨?_, ?_⟩, ?_, ?_⟩
  · obtain hpoint | hpoint := hpoint <;> simp [hpoint]
  · obtain hpoint | hpoint := hpoint <;> simp [callee, hpoint]
  · obtain hpoint | hpoint := hpoint <;> rintro j k (hk | hk) <;> rw [hpoint] at hk <;> cases hk
    · exact hid
    · exact hid
  · obtain hpoint | hpoint := hpoint <;> intro j hj <;> rw [hpoint] at hj <;> cases hj

/-- The entry of the new round, which the code has just written. -/
theorem entriesTested_set {id : ℕ} (h : AttractionHandler) (hid : id ∈ s.proc.handlers.ids)
    {point : EntryPoint} (hpoint : point = .starting id ∨ point = .counting id) :
    ((s.setHandlers (s.proc.handlers.set id (some h))).go point).EntriesTested := by
  have hget := HandlerMap.get_set_self (some h) hid
  obtain rfl | rfl := hpoint
  · refine ⟨⟨by simp [go], ?_⟩, ?_, ?_⟩
    · simp [callee, go, setHandlers, hget]
    · rintro j k (hk | hk) <;> cases hk
    · rintro j ⟨⟩
      simpa [go, setHandlers] using hid
  · refine ⟨⟨by simp [go], ?_⟩, ?_, ?_⟩
    · simp [callee, go, setHandlers, hget]
    · rintro j k (hk | hk) <;> cases hk
    · rintro j ⟨⟩

theorem entriesTested_fill {id : ℕ} {h : AttractionHandler} (hid : id ∈ s.proc.handlers.ids)
    (x : ReplyOutcome) : (s.fill cfg id h x).EntriesTested := by
  unfold fill
  cases s.proc.enterQueue with
  | nil => exact entriesTested_building hid (.inr rfl)
  | cons message rest =>
    dsimp only
    rcases (AttractionProc.pRegisterClient s.isOpen cfg message x s.proc h).1 with e | _ | _
    · exact entriesTested_of_plain rfl
    · exact entriesTested_building hid (.inr rfl)
    · exact entriesTested_building hid (.inl rfl)

theorem EntriesTested.stepRun (hs : s.EntriesTested) {x : EntryOutcome}
    (h : s.stepRun cfg x = some t) : t.EntriesTested := by
  cases hpoint : s.point with
  | loopHead | waiting | testPaused | deciding =>
    simp only [EntrySystem.stepRun, hpoint, Option.some.injEq] at h
    subst h
    apply entriesTested_of_plain
    first | rfl | (simp only [go]; split <;> rfl)
  | timeoutTest i nextTimeout | finishTest i | removeTest i pid =>
    simp only [EntrySystem.stepRun, hpoint, Option.some.injEq] at h
    subst h
    exact entriesTested_visit rfl rfl rfl
  | timeoutUse i nextTimeout =>
    simp only [EntrySystem.stepRun, hpoint, Option.some.injEq] at h
    subst h
    refine entriesTested_call hs (by simp only [callee, hpoint]) fun handler => ?_
    exact entriesTested_of_plain rfl
  | finishUse i =>
    simp only [EntrySystem.stepRun, hpoint, Option.some.injEq] at h
    subst h
    refine entriesTested_call hs (by simp only [callee, hpoint]) fun handler => ?_
    apply entriesTested_of_plain
    simp only [go]
    split <;> rfl
  | finishClear i =>
    simp only [EntrySystem.stepRun, hpoint, Option.some.injEq] at h
    subst h
    exact entriesTested_of_plain rfl
  | removeUse i pid =>
    simp only [EntrySystem.stepRun, hpoint, Option.some.injEq] at h
    subst h
    refine entriesTested_call hs (by simp only [callee, hpoint]) fun handler => ?_
    apply entriesTested_of_plain
    simp only [go]
    split <;> rfl
  | receiving =>
    simp only [EntrySystem.stepRun, hpoint] at h
    rcases hreceived : x.received with e | _ | message
    · simp only [hreceived, Option.some.injEq] at h
      subst h
      exact entriesTested_of_plain rfl
    · simp only [hreceived, Option.some.injEq] at h
      subst h
      exact entriesTested_of_plain rfl
    · simp only [hreceived] at h
      cases htype : message.mType <;> simp only [htype, Option.some.injEq] at h <;> subst h <;>
        exact entriesTested_of_plain rfl
  | creating =>
    simp only [EntrySystem.stepRun, hpoint] at h
    split at h
    · obtain rfl := Option.some.inj h
      exact entriesTested_of_plain rfl
    · cases hfree : s.proc.handlers.firstFree with
      | none =>
        simp only [hfree, Option.some.injEq] at h
        subst h
        exact entriesTested_of_plain rfl
      | some id =>
        simp only [hfree, Option.some.injEq] at h
        subst h
        exact entriesTested_building (HandlerMap.firstFree_mem hfree) (.inl rfl)
  | filling id newHandler =>
    simp only [EntrySystem.stepRun, hpoint, Option.some.injEq] at h
    subst h
    exact entriesTested_fill (hs.building id newHandler (.inl hpoint)) x.reply
  | installing id newHandler =>
    simp only [EntrySystem.stepRun, hpoint] at h
    split at h
    · obtain rfl := Option.some.inj h
      exact entriesTested_of_plain rfl
    · obtain rfl := Option.some.inj h
      exact entriesTested_set newHandler (hs.building id newHandler (.inr hpoint)) (.inl rfl)
  | starting id =>
    simp only [EntrySystem.stepRun, hpoint, Option.some.injEq] at h
    subst h
    refine entriesTested_call hs (by simp only [callee, hpoint]) fun handler => ?_
    exact entriesTested_set _ (hs.starting id hpoint) (.inr rfl)
  | counting id =>
    simp only [EntrySystem.stepRun, hpoint, Option.some.injEq] at h
    subst h
    refine entriesTested_call hs (by simp only [callee, hpoint]) fun handler => ?_
    rcases x.logged with e | u <;> exact entriesTested_of_plain rfl
  | stopped | crashed => simp [EntrySystem.stepRun, hpoint] at h

/-- A step that keeps the point and the entries. -/
theorem EntriesTested.congr (hs : s.EntriesTested) (hpoint : t.point = s.point)
    (hhandlers : t.proc.handlers = s.proc.handlers) : t.EntriesTested := by
  have hcallee : t.callee = s.callee := by
    unfold callee
    rw [hpoint, hhandlers]
  refine ⟨⟨?_, ?_⟩, ?_, ?_⟩
  · rw [hpoint]
    exact hs.noNullCall.1
  · rw [hcallee]
    exact hs.noNullCall.2
  · rw [hpoint, hhandlers]
    exact hs.building
  · rw [hpoint, hhandlers]
    exact hs.starting

theorem stopped_of_uncaught (hs : s.EntriesTested) :
    (if s.point = .crashed then EntryPoint.crashed else .stopped).plain = true := by
  rw [if_neg hs.noNullCall.1]
  rfl

theorem EntriesTested.step (hs : s.EntriesTested) {a : EntryAction}
    (ha : s.ClosesBetweenCalls a) (h : s.step cfg a = some t) : t.EntriesTested := by
  cases a with
  | run x => exact hs.stepRun h
  | closePark =>
    obtain rfl := Option.some.inj h
    exact hs.congr rfl rfl
  | sigUsr1 logged => cases logged with
    | error e =>
      obtain rfl := Option.some.inj h
      exact entriesTested_of_plain (stopped_of_uncaught hs)
    | ok u =>
      obtain rfl := Option.some.inj h
      have hnone : s.callee = none := ha
      refine ⟨⟨hs.noNullCall.1, ?_⟩, ?_, ?_⟩
      · -- no call is next, whatever the entries are
        unfold callee at hnone ⊢
        split at hnone <;> simp_all
      · intro id handler hpoint
        simpa [AttractionProc.closeAttraction] using hs.building id handler hpoint
      · intro id hpoint
        simpa [AttractionProc.closeAttraction] using hs.starting id hpoint
  | sigUsr2 logged => cases logged with
    | error e =>
      obtain rfl := Option.some.inj h
      exact entriesTested_of_plain (stopped_of_uncaught hs)
    | ok u =>
      obtain rfl := Option.some.inj h
      exact hs.congr rfl rfl
  | registerThrows paused caught =>
    simp only [EntrySystem.step] at h
    split at h
    · obtain rfl := Option.some.inj h
      cases caught with
      | error e => exact entriesTested_of_plain rfl
      | ok u => exact hs.congr rfl rfl
    · cases h

/-- `CloseAttraction` leaves a null pointer to the call that is next. -/
theorem not_noNullCall_of_closed {a : EntryAction} (ha : ¬ s.ClosesBetweenCalls a)
    (h : s.step cfg a = some t) : ¬ t.NoNullCall := by
  cases a with
  | run | closePark | sigUsr2 | registerThrows => exact absurd trivial ha
  | sigUsr1 logged => cases logged with
    | error e => exact absurd trivial ha
    | ok u =>
      obtain rfl := Option.some.inj h
      rintro ⟨-, hcall⟩
      apply hcall
      unfold callee
      cases hpoint : s.point <;>
        simp_all [ClosesBetweenCalls, callee, AttractionProc.closeAttraction]

/-- A call through a null entry is what the next step of `Run` makes. -/
theorem crashes_of_null (hnull : s.callee = some none) (x : EntryOutcome) :
    s.stepRun cfg x = some (s.go .crashed) := by
  cases hpoint : s.point <;> simp_all [callee, stepRun, call]

/-- In a run from any handlers, `Run` stays clear of null entries if and only if no `SIGUSR1`
arrives between a test or installation of an entry and the call through it. -/
theorem noNullCall_iff (cfg : AttractionConfig) (proc : AttractionProc) (isOpen : Bool)
    (as : List EntryAction) :
    (machine cfg).Always NoNullCall ⟨proc, isOpen, .loopHead⟩ as ↔
      (machine cfg).Meets ClosesBetweenCalls ⟨proc, isOpen, .loopHead⟩ as :=
  Machine.always_iff_meets (fun _ hs => EntriesTested.noNullCall hs)
    (fun _ _ _ hs ha h => EntriesTested.step hs ha h)
    (fun _ _ _ _ ha h => not_noNullCall_of_closed ha h) as (entriesTested_of_plain rfl)

/-- Clients 7 and 8 ride on the leave semaphore 26 until 20. -/
def ridingTwo : AttractionHandler :=
  ((((AttractionHandler.construct (AttractionSystem.handlerData ⟨20, 8, 1, false, -1, 120, -1, -1⟩
    26)).addClient 7 false true).2.addClient 8 true true).2).startAttraction 0

/-- An attraction with that round, at the head of its loop. -/
def runningRound : EntrySystem := ⟨⟨5, [(26, some ridingTwo)], [], false⟩, true, .loopHead⟩

def quietOutcome : EntryOutcome := ⟨5, .ok none, 0, .faultless 7 5, .ok ()⟩

/-- `SIGUSR1` between the test of the entry and the call of `GetAttractionFinishTime`, or between
the test in the finish check and the call of `Finished`. -/
theorem runningRound_crashes :
    (∃ s, (machine ⟨20, 8, 1, false, -1, 120, -1, -1⟩).exec runningRound
        [.run quietOutcome, .run quietOutcome, .sigUsr1 (.ok ()), .run quietOutcome] = some s ∧
      s.point = .crashed) ∧
    ∃ s, (machine ⟨20, 8, 1, false, -1, 120, -1, -1⟩).exec runningRound
        (List.replicate 6 (.run quietOutcome) ++ [.sigUsr1 (.ok ()), .run quietOutcome]) = some s ∧
      s.point = .crashed :=
  ⟨⟨_, rfl, rfl⟩, ⟨_, rfl, rfl⟩⟩

/-! ## The loops without a signal

Without a delivery in between, the loops compute what the operations on the whole map do.
-/

section Loops
variable (cfg : AttractionConfig) (x : EntryOutcome)

/-- Some steps of `Run` lead from one state to another. -/
def Leads (s t : EntrySystem) : Prop :=
  ∃ n, (machine cfg).exec s (List.replicate n (.run x)) = some t

variable {cfg x}

theorem Leads.single (h : s.stepRun cfg x = some t) : Leads cfg x s t :=
  ⟨1, by simp [Machine.exec, machine, EntrySystem.step, h]⟩

theorem Leads.cons {u : EntrySystem} (h : s.stepRun cfg x = some t) (htu : Leads cfg x t u) :
    Leads cfg x s u := by
  obtain ⟨n, hn⟩ := htu
  refine ⟨n + 1, ?_⟩
  rw [List.replicate_succ, Machine.exec_cons_eq_some]
  exact ⟨t, h, hn⟩

theorem setEntry_append (pre suf : HandlerMap) (id : ℕ) (h h' : Option AttractionHandler) :
    HandlerMap.setEntry pre.length h' (pre ++ (id, h) :: suf) = pre ++ (id, h') :: suf := by
  induction pre with
  | nil => rfl
  | cons e pre ih => exact congrArg (e :: ·) ih

theorem entry_append (pre suf : HandlerMap) (id : ℕ) (h : Option AttractionHandler) :
    HandlerMap.entry pre.length (pre ++ (id, h) :: suf) = h := by
  simp [HandlerMap.entry]

theorem setHandlers_setHandlers (s : EntrySystem) (m m' : HandlerMap) :
    (s.setHandlers m).setHandlers m' = s.setHandlers m' := rfl

theorem dropFinished_cons_some (now : ℤ) (id : ℕ) (handler : AttractionHandler) (m : HandlerMap) :
    HandlerMap.dropFinished now ((id, some handler) :: m) =
      (id, if handler.finished now then none else some handler) :: m.dropFinished now := by
  cases h : handler.finished now <;> simp [HandlerMap.dropFinished, Option.filter, h]

theorem stepRun_finishTest (s : EntrySystem) (i : ℕ) : (s.go (.finishTest i)).stepRun cfg x =
    some (s.visit i .testPaused (.finishTest (i + 1)) (.finishUse i)) := rfl

theorem stepRun_removeTest (s : EntrySystem) (i : ℕ) (pid : Pid) :
    (s.go (.removeTest i pid)).stepRun cfg x =
      some (s.visit i .deciding (.removeTest (i + 1) pid) (.removeUse i pid)) := rfl

theorem stepRun_timeoutTest (s : EntrySystem) (i : ℕ) (nextTimeout : ℤ) :
    (s.go (.timeoutTest i nextTimeout)).stepRun cfg x = some (s.visit i
      (.waiting (if nextTimeout ≠ -1 then nextTimeout - x.now else nextTimeout))
      (.timeoutTest (i + 1) nextTimeout) (.timeoutUse i nextTimeout)) := rfl

/-- The test of a loop at the end of the entries. -/
theorem visit_end {pre : HandlerMap} (hmap : s.proc.handlers = pre) (done next use : EntryPoint) :
    s.visit pre.length done next use = s.go done := by
  simp [visit, hmap]

/-- The test of a loop at an entry. -/
theorem visit_entry {pre suf : HandlerMap} {id : ℕ} {h : Option AttractionHandler}
    (hmap : s.proc.handlers = pre ++ (id, h) :: suf) (done next use : EntryPoint) :
    s.visit pre.length done next use = s.go (if h.isSome then use else next) := by
  cases h <;> simp [visit, hmap]

/-- The finish check from an entry on. -/
theorem leads_finishTest (suf pre : HandlerMap) (s : EntrySystem)
    (hmap : s.proc.handlers = pre ++ suf) : Leads cfg x (s.go (.finishTest pre.length))
      ((s.setHandlers (pre ++ suf.dropFinished x.now)).go .testPaused) := by
  induction suf generalizing pre s with
  | nil =>
    apply Leads.single
    simp only [List.append_nil] at hmap
    rw [stepRun_finishTest, visit_end hmap]
    simp [HandlerMap.dropFinished, setHandlers, go, ← hmap]
  | cons e suf ih =>
    obtain ⟨id, h⟩ := e
    have hnext (h' : Option AttractionHandler) := ih (pre ++ [(id, h')])
      (s.setHandlers (pre ++ (id, h') :: suf)) (by simp [setHandlers])
    simp only [List.length_append, List.length_singleton, List.append_assoc,
      List.singleton_append] at hnext
    cases h with
    | none =>
      have hsame : s.setHandlers (pre ++ (id, none) :: suf) = s := by rw [← hmap]; rfl
      refine Leads.cons ?_ (hnext none)
      rw [stepRun_finishTest, visit_entry hmap, hsame]
      rfl
    | some handler =>
      have hsame : s.setHandlers (pre ++ (id, some handler) :: suf) = s := by rw [← hmap]; rfl
      refine Leads.cons (t := s.go (.finishUse pre.length)) ?_ ?_
      · rw [stepRun_finishTest, visit_entry hmap]
        rfl
      have huse : (s.go (.finishUse pre.length)).stepRun cfg x = some (s.go
          (if handler.finished x.now then .finishClear pre.length
            else .finishTest (pre.length + 1))) := by
        simp only [stepRun, go, hmap, entry_append, call]
      cases hfinished : handler.finished x.now with
      | false =>
        refine Leads.cons huse ?_
        have := hnext (some handler)
        rw [hsame] at this
        simpa [hfinished, dropFinished_cons_some] using this
      | true =>
        refine Leads.cons huse (Leads.cons (t := (s.setHandlers (pre ++ (id, none) :: suf)).go
          (.finishTest (pre.length + 1))) ?_ ?_)
        · simp only [hfinished, if_true, stepRun, go, hmap, setEntry_append, setHandlers]
        · simpa [hfinished, dropFinished_cons_some, setHandlers_setHandlers] using hnext none

/-- The loop of `pGetNextTimeout` from an entry on. -/
theorem leads_timeoutTest (suf pre : HandlerMap) (s : EntrySystem)
    (hmap : s.proc.handlers = pre ++ suf) (nextTimeout : ℤ) :
    Leads cfg x (s.go (.timeoutTest pre.length nextTimeout)) (s.go (.waiting
      (let r := suf.foldl (fun nextTimeout e => match e.2 with
        | none => nextTimeout
        | some handler => HandlerMap.earlier nextTimeout handler.finishTime) nextTimeout
       if r ≠ -1 then r - x.now else r))) := by
  induction suf generalizing pre nextTimeout with
  | nil =>
    apply Leads.single
    simp only [List.append_nil] at hmap
    rw [stepRun_timeoutTest, visit_end hmap]
    rfl
  | cons e suf ih =>
    obtain ⟨id, h⟩ := e
    have hnext := ih (pre ++ [(id, h)]) (by simp [hmap])
    simp only [List.length_append, List.length_singleton] at hnext
    cases h with
    | none =>
      refine Leads.cons ?_ (hnext nextTimeout)
      rw [stepRun_timeoutTest, visit_entry hmap]
      rfl
    | some handler =>
      refine Leads.cons (t := s.go (.timeoutUse pre.length nextTimeout)) ?_ (Leads.cons ?_
        (hnext (HandlerMap.earlier nextTimeout handler.finishTime)))
      · rw [stepRun_timeoutTest, visit_entry hmap]
        rfl
      · simp only [stepRun, go, hmap, entry_append, call]

/-- The loop of `pRemoveClient` from an entry on. -/
theorem leads_removeTest (pid : Pid) (suf pre : HandlerMap) (s : EntrySystem)
    (hmap : s.proc.handlers = pre ++ suf) : Leads cfg x (s.go (.removeTest pre.length pid))
      ((s.setHandlers (pre ++ suf.removeClient pid)).go .deciding) := by
  induction suf generalizing pre s with
  | nil =>
    apply Leads.single
    simp only [List.append_nil] at hmap
    rw [stepRun_removeTest, visit_end hmap]
    simp [HandlerMap.removeClient, setHandlers, go, ← hmap]
  | cons e suf ih =>
    obtain ⟨id, h⟩ := e
    have hnext (h' : Option AttractionHandler) := ih (pre ++ [(id, h')])
      (s.setHandlers (pre ++ (id, h') :: suf)) (by simp [setHandlers])
    simp only [List.length_append, List.length_singleton, List.append_assoc,
      List.singleton_append] at hnext
    cases h with
    | none =>
      have hsame : s.setHandlers (pre ++ (id, none) :: suf) = s := by rw [← hmap]; rfl
      refine Leads.cons ?_ (hnext none)
      rw [stepRun_removeTest, visit_entry hmap, hsame]
      rfl
    | some handler =>
      refine Leads.cons (t := s.go (.removeUse pre.length pid)) ?_ ?_
      · rw [stepRun_removeTest, visit_entry hmap]
        rfl
      have huse : (s.go (.removeUse pre.length pid)).stepRun cfg x = some
          ((s.setHandlers (pre ++ (id, some (handler.removeClient pid).2) :: suf)).go
            (if (handler.removeClient pid).1 then .deciding
              else .removeTest (pre.length + 1) pid)) := by
        simp only [stepRun, go, hmap, entry_append, call, setEntry_append, setHandlers]
      cases hremoved : (handler.removeClient pid).1 with
      | true =>
        apply Leads.single
        rw [huse]
        simp [HandlerMap.removeClient, hremoved]
      | false =>
        refine Leads.cons huse ?_
        simpa [HandlerMap.removeClient, hremoved, setHandlers_setHandlers] using
          hnext (some (handler.removeClient pid).2)

/-- Left alone, the three loops compute the finish check, `pGetNextTimeout` and `pRemoveClient`
of the handlers as a whole. -/
theorem leads_loops (s : EntrySystem) (pid : Pid) :
    Leads cfg x (s.go (.finishTest 0))
      ((s.setHandlers (s.proc.handlers.dropFinished x.now)).go .testPaused) ∧
    Leads cfg x (s.go (.timeoutTest 0 (-1))) (s.go (.waiting (s.proc.pGetNextTimeout x.now))) ∧
    Leads cfg x (s.go (.removeTest 0 pid))
      ({ s with proc := s.proc.pRemoveClient pid }.go .deciding) :=
  ⟨leads_finishTest s.proc.handlers [] s rfl, leads_timeoutTest s.proc.handlers [] s rfl (-1),
    leads_removeTest pid s.proc.handlers [] s rfl⟩

end Loops

end EntrySystem
end AmusementPark.Attraction
