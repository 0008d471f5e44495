import AmusementPark.Client.Evacuation
import AmusementPark.Library.Since

/-! # The tour of a client, and its end

A client visits the attractions of its list in any order and drops nearly every
one it has visited. How long it can still take is read off the point where it
stands: no procedure comes back to a point it has left, and only the loop of
`Run` is repeated, once for each visit while the park is open.
-/
namespace AmusementPark.Client
open Library Library.Outcome

/-! ## The steps that are left to a procedure -/

/-- `pVisitRestaurant` comes to at most as many calls from here on. -/
def RestaurantPoint.stepsLeft : RestaurantPoint → ℕ
  | .testOpen => 20
  | .getRestaurantMQ => 19
  | .createReply => 18
  | .sendEnter => 17
  | .receivePermit => 16
  | .sendAck => 15
  | .removeAll => 14
  | .logEnter => 13
  | .startWait => 12
  | .waiting => 11
  | .woken => 10
  | .leaveCreate => 9
  | .leaveLogFailed => 8
  | .leaveGetMQ => 7
  | .leaveSend => 6
  | .leaveLogUnsent => 5
  | .leaveTest => 4
  | .leaveReceive => 3
  | .leaveSendAck => 2
  | .leaveLogNoBill | .leaveLogPaid => 1

def AttractionPoint.stepsLeft : AttractionPoint → ℕ
  | .createReply => 13
  | .getAttractionMQ => 12
  | .sendEnter => 11
  | .receivePermit => 10
  | .sendAck _ => 9
  | .removeAll _ => 8
  | .logEnter _ => 7
  | .startWait _ => 6
  | .waiting _ => 5
  | .woken _ => 4
  | .leaveGetMQ => 3
  | .leaveSend => 2
  | .leaveLogUnsent => 1

def EnterPoint.stepsLeft : EnterPoint → ℕ
  | .getRegisterMQ => 4
  | .sendEnter => 3
  | .receivePermit => 2
  | .sendAck => 1

def LeavePoint.stepsLeft : LeavePoint → ℕ
  | .testEntered => 10
  | .createReply => 9
  | .logFailed => 8
  | .clearEntered => 7
  | .getRegisterMQ => 6
  | .sendExit => 5
  | .sent _ => 4
  | .receiveBill => 3
  | .sendAck => 2
  | .logUnsent | .logNoBill | .logPaid => 1

theorem RestaurantPoint.stepsLeft_pos (p : RestaurantPoint) : 0 < p.stepsLeft := by
  cases p <;> decide

theorem AttractionPoint.stepsLeft_pos (p : AttractionPoint) : 0 < p.stepsLeft := by
  cases p <;> simp [stepsLeft]

theorem EnterPoint.stepsLeft_pos (p : EnterPoint) : 0 < p.stepsLeft := by
  cases p <;> decide

theorem LeavePoint.stepsLeft_pos (p : LeavePoint) : 0 < p.stepsLeft := by
  cases p <;> simp [stepsLeft]

/-- The procedure goes on at a point with fewer steps left. -/
def descends {σ π ρ : Type*} (stepsLeft : π → ℕ) (p : π) (kept : σ → Prop) : Post σ π ρ :=
  ⟨fun s q => stepsLeft q < stepsLeft p ∧ kept s, fun s _ => kept s, kept, kept⟩

variable {s : ClientState} {x : CallOutcome}

theorem RestaurantPoint.descends_step (p : RestaurantPoint) :
    (p.step s x).Satisfies (descends stepsLeft p fun _ => True) := by
  cases p <;>
    simp only [step, call, through] <;> (repeat' split) <;>
      simp_all [descends, Satisfies, stepsLeft]

theorem AttractionPoint.descends_step (p : AttractionPoint) :
    (p.step s x).Satisfies (descends stepsLeft p fun _ => True) := by
  cases p with
  | removeAll semID => cases semID <;> simp [step, descends, Satisfies, stepsLeft]
  | _ =>
    simp only [step, call, through]
    (repeat' split) <;> simp_all [descends, Satisfies, stepsLeft]

/-- What `pEnterPark` and `pLeavePark` leave alone. -/
structure SameTour (s t : ClientState) : Prop where
  available : t.availableAttractions = s.availableAttractions
  isOpen : t.isOpen = s.isOpen
  evac : t.evac = s.evac

theorem EnterPoint.descends_step (p : EnterPoint) :
    (p.step s x).Satisfies (descends stepsLeft p (SameTour s)) := by
  cases p <;>
    simp only [step, call, through] <;> (repeat' split) <;>
      simp_all [descends, Satisfies, stepsLeft, ClientState.sendRegister] <;>
        exact ⟨rfl, rfl, rfl⟩

theorem LeavePoint.descends_step (p : LeavePoint) :
    (p.step s x).Satisfies (descends stepsLeft p (SameTour s)) := by
  cases p <;>
    simp only [step, call, through] <;> (repeat' split) <;>
      simp_all [descends, Satisfies, stepsLeft, ClientState.sendRegister] <;>
        exact ⟨rfl, rfl, rfl⟩

/-! ## The steps that are left to the client -/

namespace ClientPoint

/-- `Run` and `Close` have returned. -/
def ended : ClientPoint → Bool
  | .finished | .crashed => true
  | _ => false

/-- A bound on the steps from here on if the client begins no further visit in the park. -/
def stepsLeft : ClientPoint → ℕ
  | .finished | .crashed => 0
  | .logClosed => 1
  | .removeClosed => 2
  | .leave .close p => p.stepsLeft + 2
  | .removeAfter => 13
  | .restaurant .afterPark p => p.stepsLeft + 13
  | .drawAfter => 34
  | .removeLeft => 35
  | .leave .run p => p.stepsLeft + 35
  | .loopHead => 46
  | .removeVisited | .logEntered => 47
  | .visited _ | .removeEntered => 48
  | .enter p => p.stepsLeft + 48
  | .attraction _ p => p.stepsLeft + 48
  | .restaurant .inPark p => p.stepsLeft + 48
  | .leave .entering p => p.stepsLeft + 52
  | .enterPark => 63
  | .createReply => 64
  | .removeBefore => 65
  | .choose => 69
  | .restaurant .beforePark p => p.stepsLeft + 65
  | .drawBefore => 86
  | .testOpen => 87
  | .logStart => 88
  | .initFlags => 89

/-- The visits to begin or to count from here on, with `n` attractions on the list. -/
def visitsLeft (n : ℕ) : ClientPoint → ℕ
  | .choose | .attraction _ _ | .visited _ | .restaurant .inPark _ => n - 1
  | .leave .run _ | .removeLeft | .drawAfter | .restaurant .afterPark _ | .removeAfter
  | .leave .close _ | .removeClosed | .logClosed | .finished | .crashed => 0
  | _ => n

/-- The attraction of the current visit. -/
def visiting : ClientPoint → Option ℕ
  | .restaurant .inPark _ => some restaurantIndex
  | .attraction attractionID _ | .visited attractionID => some attractionID
  | _ => none

/-- The client goes on towards its end and begins no visit in the park. -/
structure Descends (p q : ClientPoint) : Prop where
  steps : q.stepsLeft < p.stepsLeft
  visits : ∀ n, q.visitsLeft n ≤ p.visitsLeft n
  visiting : ∀ id ∈ q.visiting, id ∈ p.visiting
  choose : q ≠ .choose
  initFlags : q ≠ .initFlags

theorem stepsLeft_le (point : ClientPoint) : point.stepsLeft ≤ 89 := by
  cases point with
  | restaurant visit p => cases visit <;> cases p <;> decide
  | attraction attractionID p => cases p <;> simp [stepsLeft, AttractionPoint.stepsLeft]
  | enter p => cases p <;> decide
  | leave call p => cases call <;> cases p <;> simp [stepsLeft, LeavePoint.stepsLeft]
  | _ => simp [stepsLeft]

theorem ended_of_stepsLeft {point : ClientPoint} (h : point.stepsLeft = 0) :
    point.ended = true := by
  cases point with
  | restaurant visit p => cases visit <;> simp [stepsLeft] at h
  | leave call p => cases call <;> simp [stepsLeft] at h
  | finished | crashed => rfl
  | _ => simp [stepsLeft] at h

/-- An exception leads on towards the end, and out of a visit to the end of the visit. -/
theorem descends_raise {point : ClientPoint} (h : point.ended = false) :
    point.Descends point.raise := by
  cases point with
  | restaurant visit p =>
    cases visit <;> cases p <;> constructor <;>
      simp [raise, stepsLeft, visitsLeft, visiting, RestaurantPoint.stepsLeft,
        LeavePoint.stepsLeft]
  | attraction attractionID p =>
    cases p <;> constructor <;>
      simp [raise, stepsLeft, visitsLeft, visiting, AttractionPoint.stepsLeft]
  | enter p =>
    cases p <;> constructor <;>
      simp [raise, stepsLeft, visitsLeft, visiting, EnterPoint.stepsLeft, LeavePoint.stepsLeft]
  | leave call p =>
    cases call <;> cases p <;> constructor <;>
      simp [raise, stepsLeft, visitsLeft, visiting, LeavePoint.stepsLeft]
  | finished | crashed => cases h
  | _ =>
    constructor <;> simp [raise, stepsLeft, visitsLeft, visiting, LeavePoint.stepsLeft]

theorem descends_interrupted (point : ClientPoint) :
    point.interrupted = point ∨ point.Descends point.interrupted := by
  cases point with
  | restaurant visit p =>
    cases p with
    | waiting =>
      right
      cases visit <;> constructor <;>
        simp [interrupted, stepsLeft, visitsLeft, visiting, RestaurantPoint.stepsLeft]
    | _ => exact .inl rfl
  | attraction attractionID p =>
    cases p with
    | waiting semID =>
      right
      constructor <;>
        simp [interrupted, stepsLeft, visitsLeft, visiting, AttractionPoint.stepsLeft]
    | _ => exact .inl rfl
  | _ => exact .inl rfl

end ClientPoint

/-- A step of the client's own, as opposed to the closing of the park and to a signal. -/
def ClientAction.own : ClientAction → ℕ
  | .run _ => 1
  | .closePark | .sigUsr1 _ => 0

namespace ClientSystem

/-- What a step does to the tour. -/
inductive TourStep (s : ClientSystem) (x : CallOutcome) (t : ClientSystem) : Prop where
  | goesOn (hpoint : s.point.Descends t.point) (htour : SameTour s.client t.client)
  | resets (hs : s.point = .initFlags) (ht : t.point = .logStart)
      (havailable : t.client.availableAttractions = s.client.availableAttractions)
      (hopen : t.client.isOpen = s.client.isOpen)
  | begins (hs : s.point = .loopHead) (ht : t.point = .choose) (htour : SameTour s.client t.client)
      (hopen : s.client.isOpen = true) (hevac : s.client.evac = false)
      (hne : s.client.availableAttractions ≠ [])
  | chooses (hs : s.point = .choose) (htour : SameTour s.client t.client)
      (hmem : x.attractionID ∈ s.client.availableAttractions)
      (ht : t.point.visiting = some x.attractionID)
      (hpoint : t.point.stepsLeft < s.point.stepsLeft)
      (hvisits : ∀ n, t.point.visitsLeft n ≤ s.point.visitsLeft n)
  | counts (id : ℕ) (hs : s.point = .visited id) (ht : t.point = .removeVisited)
      (havailable : t.client.availableAttractions = if x.choice then
        s.client.availableAttractions.erase id else s.client.availableAttractions)
      (hopen : t.client.isOpen = s.client.isOpen) (hevac : t.client.evac = s.client.evac)

variable {s t : ClientSystem}

/-- A client that has lost nothing but its place goes on. -/
theorem TourStep.descends {client c : ClientState} {p q : ClientPoint} {x : CallOutcome}
    (hpoint : p.Descends q) (hc : SameTour client c) : TourStep ⟨client, p⟩ x ⟨c, q⟩ :=
  .goesOn hpoint hc

theorem tourStep_restaurant (client : ClientState) (visit : RestaurantVisit) (p : RestaurantPoint)
    (x : CallOutcome) (h : stepRun ⟨client, .restaurant visit p⟩ x = some t) :
    TourStep ⟨client, .restaurant visit p⟩ x t := by
  simp only [stepRun, Option.some.injEq] at h
  subst h
  have hpos := p.stepsLeft_pos
  apply follow_satisfies (RestaurantPoint.descends_step (s := client) (x := x) p)
  · intro q hq
    have hlt : q.stepsLeft < p.stepsLeft := hq.1
    refine .descends ?_ ⟨rfl, rfl, rfl⟩
    cases visit <;> constructor <;>
      simp [ClientPoint.stepsLeft, ClientPoint.visitsLeft, ClientPoint.visiting, hlt]
  · intro r _
    cases visit <;> refine .descends ?_ ⟨rfl, rfl, rfl⟩ <;> constructor <;>
      simp [ClientPoint.stepsLeft, ClientPoint.visitsLeft, ClientPoint.visiting, hpos]
  · exact fun _ => .descends (ClientPoint.descends_raise rfl) ⟨rfl, rfl, rfl⟩
  · refine fun _ => .descends ?_ ⟨rfl, rfl, rfl⟩
    cases visit <;> constructor <;>
      simp [ClientPoint.stepsLeft, ClientPoint.visitsLeft, ClientPoint.visiting, hpos]

theorem tourStep_attraction (client : ClientState) (id : ℕ) (p : AttractionPoint)
    (x : CallOutcome) (h : stepRun ⟨client, .attraction id p⟩ x = some t) :
    TourStep ⟨client, .attraction id p⟩ x t := by
  simp only [stepRun, Option.some.injEq] at h
  subst h
  have hpos := p.stepsLeft_pos
  apply follow_satisfies (AttractionPoint.descends_step (s := client) (x := x) p)
  · intro q hq
    have hlt : q.stepsLeft < p.stepsLeft := hq.1
    refine .descends ?_ ⟨rfl, rfl, rfl⟩
    constructor <;>
      simp [ClientPoint.stepsLeft, ClientPoint.visitsLeft, ClientPoint.visiting, hlt]
  · intro r _
    refine .descends ?_ ⟨rfl, rfl, rfl⟩
    constructor <;>
      simp [ClientPoint.stepsLeft, ClientPoint.visitsLeft, ClientPoint.visiting, hpos]
  · exact fun _ => .descends (ClientPoint.descends_raise rfl) ⟨rfl, rfl, rfl⟩
  · refine fun _ => .descends ?_ ⟨rfl, rfl, rfl⟩
    constructor <;>
      simp [ClientPoint.stepsLeft, ClientPoint.visitsLeft, ClientPoint.visiting]

theorem tourStep_enter (client : ClientState) (p : EnterPoint)
    (x : CallOutcome) (h : stepRun ⟨client, .enter p⟩ x = some t) :
    TourStep ⟨client, .enter p⟩ x t := by
  simp only [stepRun, Option.some.injEq] at h
  subst h
  have hpos := p.stepsLeft_pos
  apply follow_satisfies (EnterPoint.descends_step (s := client) (x := x) p)
  · intro q hq
    have hlt : q.stepsLeft < p.stepsLeft := hq.1
    refine .descends ?_ hq.2
    constructor <;>
      simp [ClientPoint.stepsLeft, ClientPoint.visitsLeft, ClientPoint.visiting, hlt]
  · intro r hr
    refine .descends ?_ ⟨hr.available, hr.isOpen, hr.evac⟩
    constructor <;>
      simp [ClientPoint.stepsLeft, ClientPoint.visitsLeft, ClientPoint.visiting, hpos]
  · exact fun hthrow => .descends (ClientPoint.descends_raise rfl) hthrow
  · refine fun hcrash => .descends ?_ hcrash
    constructor <;>
      simp [ClientPoint.stepsLeft, ClientPoint.visitsLeft, ClientPoint.visiting]

theorem tourStep_leave (client : ClientState) (call : LeaveCall) (p : LeavePoint)
    (x : CallOutcome) (h : stepRun ⟨client, .leave call p⟩ x = some t) :
    TourStep ⟨client, .leave call p⟩ x t := by
  simp only [stepRun, Option.some.injEq] at h
  subst h
  have hpos := p.stepsLeft_pos
  apply follow_satisfies (LeavePoint.descends_step (s := client) (x := x) p)
  · intro q hq
    have hlt : q.stepsLeft < p.stepsLeft := hq.1
    refine .descends ?_ hq.2
    cases call <;> constructor <;>
      simp [ClientPoint.stepsLeft, ClientPoint.visitsLeft, ClientPoint.visiting, hlt]
  · intro r hr
    refine .descends ?_ hr
    cases call <;> constructor <;>
      simp [leaveReturned, ClientPoint.stepsLeft, ClientPoint.visitsLeft, ClientPoint.visiting,
        EnterPoint.stepsLeft, hpos]
  · exact fun hthrow => .descends (ClientPoint.descends_raise rfl) hthrow
  · refine fun hcrash => .descends ?_ hcrash
    cases call <;> constructor <;>
      simp [ClientPoint.stepsLeft, ClientPoint.visitsLeft, ClientPoint.visiting]

theorem tourStep {x : CallOutcome} (h : s.stepRun x = some t) : s.TourStep x t := by
  obtain ⟨client, point⟩ := s
  cases point with
  | restaurant visit p => exact tourStep_restaurant client visit p x h
  | attraction id p => exact tourStep_attraction client id p x h
  | enter p => exact tourStep_enter client p x h
  | leave call p => exact tourStep_leave client call p x h
  | initFlags =>
    obtain rfl := Option.some.inj h
    exact .resets rfl rfl rfl rfl
  | loopHead =>
    obtain rfl := Option.some.inj h
    by_cases hgo : (x.choice && client.isOpen && 0 < client.availableAttractions.length &&
        !client.evac) = true
    · simp only [Bool.and_eq_true, decide_eq_true_eq, Bool.not_eq_true'] at hgo
      obtain ⟨⟨⟨hchoice, hopen⟩, hlength⟩, hevac⟩ := hgo
      refine .begins rfl ?_ ⟨rfl, rfl, rfl⟩ hopen hevac (List.ne_nil_of_length_pos hlength)
      simp [hchoice, hopen, hlength, hevac]
    · rw [if_neg hgo]
      exact .descends (by constructor <;> simp [ClientPoint.stepsLeft, ClientPoint.visitsLeft,
        ClientPoint.visiting, LeavePoint.stepsLeft]) ⟨rfl, rfl, rfl⟩
  | choose =>
    simp only [stepRun, Option.ite_none_right_eq_some, Option.some.injEq] at h
    obtain ⟨hmem, rfl⟩ := h
    by_cases hrestaurant : x.attractionID = restaurantIndex
    · rw [if_pos hrestaurant]
      exact .chooses rfl ⟨rfl, rfl, rfl⟩ hmem (congrArg some hrestaurant.symm)
        (by simp [ClientPoint.stepsLeft, RestaurantPoint.stepsLeft]) fun _ => le_rfl
    · rw [if_neg hrestaurant]
      exact .chooses rfl ⟨rfl, rfl, rfl⟩ hmem rfl
        (by simp [ClientPoint.stepsLeft, AttractionPoint.stepsLeft]) fun _ => le_rfl
  | visited id =>
    obtain rfl := Option.some.inj h
    refine .counts id rfl rfl ?_ ?_ ?_ <;> dsimp only <;> split <;> rfl
  | createReply =>
    simp only [stepRun] at h
    split at h
    · obtain rfl := Option.some.inj h
      refine .descends ?_ ⟨rfl, rfl, rfl⟩
      split <;> constructor <;> simp [ClientPoint.stepsLeft, ClientPoint.visitsLeft,
        ClientPoint.visiting, LeavePoint.stepsLeft]
    · obtain rfl := Option.some.inj h
      exact .descends (ClientPoint.descends_raise rfl) ⟨rfl, rfl, rfl⟩
  | logStart | logEntered =>
    simp only [stepRun] at h
    split at h
    · obtain rfl := Option.some.inj h
      exact .descends (by constructor <;> simp [ClientPoint.stepsLeft, ClientPoint.visitsLeft,
        ClientPoint.visiting]) ⟨rfl, rfl, rfl⟩
    · obtain rfl := Option.some.inj h
      exact .descends (ClientPoint.descends_raise rfl) ⟨rfl, rfl, rfl⟩
  | testOpen | drawBefore | enterPark | removeEntered | drawAfter =>
    obtain rfl := Option.some.inj h
    refine .descends ?_ ⟨rfl, rfl, rfl⟩
    split <;> constructor <;> simp [ClientPoint.stepsLeft, ClientPoint.visitsLeft,
      ClientPoint.visiting, RestaurantPoint.stepsLeft, EnterPoint.stepsLeft, LeavePoint.stepsLeft]
  | removeBefore | removeVisited | removeLeft | removeAfter | removeClosed | logClosed =>
    obtain rfl := Option.some.inj h
    exact .descends (by constructor <;> simp [ClientPoint.stepsLeft, ClientPoint.visitsLeft,
      ClientPoint.visiting, LeavePoint.stepsLeft]) ⟨rfl, rfl, rfl⟩
  | finished | crashed => cases h

/-- A signal sets the flag, and leads on towards the end or leaves the client where it is. -/
theorem signalStep {logged : Except Exn Unit} (h : s.step (.sigUsr1 logged) = some t) :
    t.client = { s.client with evac := true } ∧
      (t.point = s.point ∨ s.point.Descends t.point) := by
  simp only [ClientSystem.step, Option.ite_none_left_eq_some, Option.some.injEq, not_or] at h
  obtain ⟨⟨hfinished, hcrashed⟩, rfl⟩ := h
  refine ⟨rfl, ?_⟩
  cases logged with
  | error e =>
    have hended : s.point.ended = false := by
      cases hpoint : s.point <;> simp_all [ClientPoint.ended]
    exact .inr (ClientPoint.descends_raise hended)
  | ok u => exact s.point.descends_interrupted

/-! ## The list of attractions -/

/-- The list is what is left of all attractions, and the attraction of the current visit is still
on it, so that `find` finds it. -/
structure OnTour (s : ClientSystem) : Prop where
  available : s.client.availableAttractions.Sublist (List.range attractionCount)
  visiting : ∀ id ∈ s.point.visiting, id ∈ s.client.availableAttractions
  choosing : s.point = .choose → s.client.availableAttractions ≠ []

theorem onTour_started (pid : Pid) (data : ClientData) (isOpen : Bool) :
    (started pid data isOpen).OnTour where
  available := List.Sublist.refl _
  visiting _ h := by cases h
  choosing h := by cases h

theorem OnTour.step (hs : s.OnTour) {a : ClientAction} (h : s.step a = some t) : t.OnTour := by
  obtain ⟨havailable, hvisiting, hchoosing⟩ := hs
  cases a with
  | run x =>
    cases tourStep h with
    | goesOn hpoint htour =>
      constructor
      · rwa [htour.available]
      · rw [htour.available]
        exact fun id hid => hvisiting id (hpoint.visiting id hid)
      · exact fun hchoose => absurd hchoose hpoint.choose
    | resets hs ht hkeep hopen =>
      constructor
      · rwa [hkeep]
      · simp [ht, ClientPoint.visiting]
      · simp [ht]
    | begins hs ht htour hopen hevac hne =>
      constructor
      · rwa [htour.available]
      · simp [ht, ClientPoint.visiting]
      · exact fun _ => htour.available ▸ hne
    | chooses hs htour hmem ht hpoint hvisits =>
      constructor
      · rwa [htour.available]
      · rw [ht, htour.available]
        rintro id ⟨⟩
        exact hmem
      · intro hchoose
        rw [hchoose] at ht
        cases ht
    | counts id hs ht hdrop hopen hevac =>
      constructor
      · rw [hdrop]
        split
        · exact List.erase_sublist.trans havailable
        · exact havailable
      · simp [ht, ClientPoint.visiting]
      · simp [ht]
  | closePark =>
    obtain rfl := Option.some.inj h
    exact ⟨havailable, hvisiting, hchoosing⟩
  | sigUsr1 logged =>
    obtain ⟨hclient, hpoint⟩ := signalStep h
    have hkeep : t.client.availableAttractions = s.client.availableAttractions := by rw [hclient]
    obtain hsame | hdescends := hpoint
    · exact ⟨hkeep ▸ havailable, hkeep ▸ hsame ▸ hvisiting, hkeep ▸ hsame ▸ hchoosing⟩
    · exact ⟨hkeep ▸ havailable,
        fun id hid => hkeep ▸ hvisiting id (hdescends.visiting id hid),
        fun hchoose => absurd hchoose hdescends.choose⟩

/-- Whatever the client has come to, some outcome of its next call leads on, one at which it
drops the attraction it has visited. -/
theorem OnTour.progress (hs : s.OnTour) (hended : s.point.ended = false) :
    ∃ x : CallOutcome, x.choice = true ∧ (s.stepRun x).isSome = true := by
  obtain ⟨client, point⟩ := s
  let x : CallOutcome := ⟨.ok (), .ok true, .ok none, .ok (), true, true,
    client.availableAttractions.headD 0⟩
  refine ⟨x, rfl, ?_⟩
  cases point with
  | choose =>
    cases havailable : client.availableAttractions with
    | nil => exact absurd havailable (hs.choosing rfl)
    | cons id rest => simp [stepRun, x, havailable]
  | finished | crashed => cases hended
  | createReply =>
    simp only [stepRun]
    split <;> rfl
  | _ => rfl

/-! ## The end -/

/-- The park is closed, or the client has been ordered to leave after `pInitImpl` has reset the
flag. -/
def Leaving (s : ClientSystem) : Prop :=
  s.client.isOpen = false ∨ s.client.evac = true ∧ s.point ≠ .initFlags

theorem leaving_step (hs : s.Leaving) {a : ClientAction} (h : s.step a = some t) :
    t.Leaving ∧ a.own + t.point.stepsLeft ≤ s.point.stepsLeft := by
  cases a with
  | run x =>
    cases tourStep h with
    | goesOn hpoint htour =>
      refine ⟨?_, ?_⟩
      · rw [Leaving, htour.isOpen, htour.evac]
        exact hs.imp_right fun hevac => ⟨hevac.1, hpoint.initFlags⟩
      · have hlt := hpoint.steps
        rw [ClientAction.own]
        omega
    | resets hinit ht hkeep hopen =>
      have hclosed : s.client.isOpen = false := hs.resolve_right fun hevac => hevac.2 hinit
      refine ⟨.inl (hopen.trans hclosed), ?_⟩
      rw [hinit, ht]
      exact Nat.le_of_eq rfl
    | begins hhead ht htour hopen hevac hne =>
      obtain hclosed | hordered := hs
      · rw [hopen] at hclosed
        cases hclosed
      · rw [hevac] at hordered
        cases hordered.1
    | chooses hchoose htour hmem ht hpoint hvisits =>
      refine ⟨?_, ?_⟩
      · rw [Leaving, htour.isOpen, htour.evac]
        refine hs.imp_right fun hevac => ⟨hevac.1, fun hinit => ?_⟩
        rw [hinit] at ht
        cases ht
      · rw [ClientAction.own]
        omega
    | counts id hvisited ht hdrop hopen hevac =>
      refine ⟨?_, ?_⟩
      · rw [Leaving, hopen, hevac, ht]
        exact hs.imp_right fun hevac => ⟨hevac.1, by simp⟩
      · rw [hvisited, ht]
        exact Nat.le_of_eq rfl
  | closePark =>
    obtain rfl := Option.some.inj h
    exact ⟨.inl rfl, by simp [ClientAction.own]⟩
  | sigUsr1 logged =>
    obtain ⟨hclient, hpoint⟩ := signalStep h
    rw [Leaving, hclient, ClientAction.own, zero_add]
    obtain hsame | hdescends := hpoint
    · rw [hsame]
      exact ⟨hs.imp_right fun hevac => ⟨rfl, hevac.2⟩, le_rfl⟩
    · exact ⟨.inr ⟨rfl, hdescends.initFlags⟩, hdescends.steps.le⟩

/-- The client drops the attraction it has visited, as it does 19 times out of 20. -/
def drops (s : ClientSystem) : ClientAction → Bool
  | .run x => match s.point with
    | .visited _ => x.choice
    | _ => true
  | _ => true

theorem drops_of_choice {x : CallOutcome} (hx : x.choice = true) : s.drops (.run x) = true := by
  cases hpoint : s.point <;> simp [drops, hpoint, hx]

/-- A client that drops every attraction it has visited. -/
def droppingMachine : Machine ClientSystem ClientAction :=
  ⟨fun s a => if s.drops a then s.step a else none⟩

/-- A bound on the steps of such a client. A visit with its choice takes at most 24. -/
def tourLeft (s : ClientSystem) : ℕ :=
  s.point.stepsLeft + 24 * s.point.visitsLeft s.client.availableAttractions.length

theorem tourLeft_step (hs : s.OnTour) {a : ClientAction} (h : droppingMachine.step s a = some t) :
    t.OnTour ∧ a.own + t.tourLeft ≤ s.tourLeft := by
  simp only [droppingMachine, Option.ite_none_right_eq_some] at h
  obtain ⟨hdrops, h⟩ := h
  refine ⟨hs.step h, ?_⟩
  unfold tourLeft
  cases a with
  | run x =>
    rw [ClientAction.own]
    cases tourStep h with
    | goesOn hpoint htour =>
      have hlt := hpoint.steps
      have hvisits := hpoint.visits s.client.availableAttractions.length
      rw [htour.available]
      omega
    | resets hinit ht hkeep hopen =>
      rw [hinit, ht, hkeep]
      simp only [ClientPoint.stepsLeft, ClientPoint.visitsLeft]
      omega
    | begins hhead ht htour hopen hevac hne =>
      have hlength := List.length_pos_of_ne_nil hne
      rw [hhead, ht, htour.available]
      simp only [ClientPoint.stepsLeft, ClientPoint.visitsLeft]
      omega
    | chooses hchoose htour hmem ht hpoint hvisits =>
      have hle := hvisits s.client.availableAttractions.length
      rw [htour.available]
      omega
    | counts id hvisited ht hdrop hopen hevac =>
      have hchoice : x.choice = true := by
        simpa [drops, hvisited] using hdrops
      have hmem := hs.visiting id (by simp [hvisited, ClientPoint.visiting])
      rw [if_pos hchoice] at hdrop
      rw [hvisited, ht, hdrop, List.length_erase_of_mem hmem]
      simp only [ClientPoint.stepsLeft, ClientPoint.visitsLeft]
      omega
  | closePark =>
    obtain rfl := Option.some.inj h
    simp [ClientAction.own]
  | sigUsr1 logged =>
    obtain ⟨hclient, hpoint⟩ := signalStep h
    rw [ClientAction.own, zero_add, hclient]
    obtain hsame | hdescends := hpoint
    · rw [hsame]
    · have hlt := hdescends.steps
      have hvisits := hdescends.visits s.client.availableAttractions.length
      dsimp only
      omega

theorem tourLeft_le (hs : s.OnTour) : s.tourLeft ≤ 89 + 24 * attractionCount := by
  have hsteps := s.point.stepsLeft_le
  have hlength : s.client.availableAttractions.length ≤ attractionCount := by
    simpa using hs.available.length_le
  have hvisits : ∀ n, s.point.visitsLeft n ≤ n := by
    intro n
    unfold ClientPoint.visitsLeft
    split <;> omega
  have hleft := hvisits s.client.availableAttractions.length
  unfold tourLeft
  omega

/-- The client is on its tour and never stuck; it ends soon once it is to leave, and anyway if it
drops every attraction it has visited. -/
structure ComesToEnd (s : ClientSystem) : Prop where
  onTour : s.OnTour
  progress : s.point.ended = false → ∃ x, (s.stepRun x).isSome = true
  leaves : s.Leaving → machine.EndsWithin ClientAction.own (fun t => t.point.ended = true) 89 s
  tours : droppingMachine.EndsWithin ClientAction.own (fun t => t.point.ended = true)
    (89 + 24 * attractionCount) s

theorem OnTour.comesToEnd (hs : s.OnTour) : s.ComesToEnd where
  onTour := hs
  progress hended :=
    have ⟨x, _, hnext⟩ := hs.progress hended
    ⟨x, hnext⟩
  leaves hleaving := by
    have hstep : ∀ (s : ClientSystem) a t, s.OnTour ∧ s.Leaving → machine.step s a = some t →
        (t.OnTour ∧ t.Leaving) ∧ a.own + t.point.stepsLeft ≤ s.point.stepsLeft := by
      rintro s a t ⟨hs, hleaving⟩ h
      obtain ⟨hleft, hpaid⟩ := leaving_step hleaving h
      exact ⟨⟨hs.step h, hleft⟩, hpaid⟩
    refine Machine.endsWithin_of_potential hstep (fun _ h => ClientPoint.ended_of_stepsLeft h)
      ?_ ⟨hs, hleaving⟩ s.point.stepsLeft_le
    rintro s ⟨hs, -⟩ hended
    obtain ⟨x, -, hnext⟩ := hs.progress (Bool.eq_false_of_not_eq_true hended)
    exact ⟨.run x, Nat.one_pos, hnext⟩
  tours := by
    apply Machine.endsWithin_of_potential (I := OnTour) ?_ ?_ ?_ hs (tourLeft_le hs)
    · exact fun _ _ _ hs h => tourLeft_step hs h
    · exact fun _ h => ClientPoint.ended_of_stepsLeft (Nat.eq_zero_of_add_eq_zero h).1
    · intro s hs hended
      obtain ⟨x, hchoice, hnext⟩ := hs.progress (Bool.eq_false_of_not_eq_true hended)
      refine ⟨.run x, Nat.one_pos, ?_⟩
      simp only [droppingMachine, if_pos (drops_of_choice hchoice)]
      exact hnext

/-- In every run of a client, whatever its calls return and whichever signals arrive: it is never
stuck and visits only attractions of its list. Once the park is closed or the client ordered to
leave it takes at most 89 steps more, and if it drops what it has visited at most 497 in all. -/
theorem comesToEnd_always (pid : Pid) (data : ClientData) (isOpen : Bool)
    (as : List ClientAction) : machine.Always ComesToEnd (started pid data isOpen) as :=
  Machine.always_of_invariant (I := OnTour) (fun _ hs => hs.comesToEnd)
    (fun _ _ _ hs h => hs.step h) as (onTour_started pid data isOpen)

end ClientSystem
end AmusementPark.Client
