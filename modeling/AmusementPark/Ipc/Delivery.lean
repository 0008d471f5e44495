import AmusementPark.Ipc.MessageQueue
import AmusementPark.Library.Machine
import AmusementPark.Library.PriorityQueue

/-! # One queue and many processes

Any number of processes are in calls of `SendMessage` and `ReceiveMessage` on
one queue of the kernel. An attempt fails with any `errno` at any time, or it
succeeds when the queue has room or a message for it, and the loop of the call
decides whether there is another one.
-/
namespace AmusementPark.Ipc
open Library

/-- The arguments of `SendMessage`, with the clock it will read. -/
structure SendArgs (M : Type*) where
  queue : MessageQueue
  message : M
  errorHandler : Errno → Except StdException Bool
  retryOnInterrupt : Bool
  priority : ℕ
  timeout : ℤ
  clock : ℕ → ℤ

def SendArgs.returned {M : Type*} (args : SendArgs M) (results : List (MqResult Unit)) :
    Option (Except StdException Bool) :=
  (args.queue.sendMessage args.errorHandler args.retryOnInterrupt args.timeout args.clock
    results).returned

/-- The arguments of `ReceiveMessage`, with the clock it will read. -/
structure ReceiveArgs where
  queue : MessageQueue
  retryOnInterrupt : Bool
  timeout : ℤ
  clock : ℕ → ℤ

def ReceiveArgs.returned {M : Type*} (args : ReceiveArgs) (results : List (MqResult M)) :
    Option (Except StdException (Option M)) :=
  (args.queue.receiveMessage args.retryOnInterrupt args.timeout args.clock results).returned

/-- A call that is under way, with the results of its attempts so far. -/
inductive QueueCall (M : Type*) where
  | send (args : SendArgs M) (results : List (MqResult Unit))
  | receive (args : ReceiveArgs) (results : List (MqResult M))

/-- A message in the queue, marked with the call that sent it. -/
structure Parcel (M : Type*) where
  sender : ℕ
  priority : ℕ
  message : M
deriving DecidableEq

def SendArgs.parcel {M : Type*} (args : SendArgs M) (number : ℕ) : Parcel M :=
  ⟨number, args.priority, args.message⟩

/-- A queue and the calls on it, numbered as they begin. -/
structure SharedQueue (P M : Type*) where
  capacity : ℕ
  queue : List (ℕ × Parcel M)
  calls : P → Option (ℕ × QueueCall M)
  started : ℕ

inductive DeliveryAction (P M : Type*) where
  | beginSend (p : P) (args : SendArgs M)
  | beginReceive (p : P) (args : ReceiveArgs)
  | succeed (p : P)
  | fail (p : P) (errno : Errno)
  | finish (p : P)

namespace SharedQueue
variable {P M : Type*} [DecidableEq P]

def init (capacity : ℕ) : SharedQueue P M := ⟨capacity, [], fun _ => none, 0⟩

/-- A process begins a call. -/
def begins (s : SharedQueue P M) (p : P) (call : QueueCall M) : Option (SharedQueue P M) :=
  match s.calls p with
  | none => some { s with
      calls := Function.update s.calls p (some (s.started, call)), started := s.started + 1 }
  | some _ => none

/-- The call of a process has had another result. -/
def goesOn (s : SharedQueue P M) (p : P) (number : ℕ) (call : QueueCall M) : SharedQueue P M :=
  { s with calls := Function.update s.calls p (some (number, call)) }

def step (s : SharedQueue P M) : DeliveryAction P M → Option (SharedQueue P M)
  | .beginSend p args => s.begins p (.send args [])
  | .beginReceive p args => s.begins p (.receive args [])
  | .succeed p => match s.calls p with
    | some (number, .send args results) =>
      if (args.returned results).isNone ∧ s.queue.length < s.capacity then
        some { s.goesOn p number (.send args (results ++ [.success ()])) with
          queue := PriorityQueue.insert (args.priority, args.parcel number) s.queue }
      else none
    | some (number, .receive args results) => match s.queue with
      | e :: rest => if (args.returned results).isNone then
          some { s.goesOn p number (.receive args (results ++ [.success e.2.message])) with
            queue := rest }
        else none
      | [] => none
    | none => none
  | .fail p errno => match s.calls p with
    | some (number, .send args results) => if (args.returned results).isNone then
        some (s.goesOn p number (.send args (results ++ [.error errno]))) else none
    | some (number, .receive args results) => if (args.returned results).isNone then
        some (s.goesOn p number (.receive args (results ++ [.error errno]))) else none
    | none => none
  | .finish p => match s.calls p with
    | some (_, .send args results) => if (args.returned results).isSome then
        some { s with calls := Function.update s.calls p none } else none
    | some (_, .receive args results) => if (args.returned results).isSome then
        some { s with calls := Function.update s.calls p none } else none
    | none => none

end SharedQueue

/-! ## What the calls have done -/

/-- A call of `SendMessage` that has returned or thrown. -/
structure EndedSend (M : Type*) where
  number : ℕ
  args : SendArgs M
  returned : Except StdException Bool

/-- A call of `ReceiveMessage` that has returned or thrown. -/
structure EndedReceive (M : Type*) where
  number : ℕ
  returned : Except StdException (Option M)

/-- The messages that the queue has taken in, those it has given out with the calls that received
them, and the calls that have ended. -/
structure DeliveryHistory (M : Type*) where
  accepted : List (Parcel M)
  taken : List (ℕ × Parcel M)
  sends : List (EndedSend M)
  receives : List (EndedReceive M)

namespace DeliveryHistory
variable {P M : Type*}

def empty : DeliveryHistory M := ⟨[], [], [], []⟩

def record (h : DeliveryHistory M) (s : SharedQueue P M) : DeliveryAction P M → DeliveryHistory M
  | .succeed p => match s.calls p with
    | some (number, .send args _) => { h with accepted := h.accepted ++ [args.parcel number] }
    | some (number, .receive _ _) => match s.queue with
      | e :: _ => { h with taken := h.taken ++ [(number, e.2)] }
      | [] => h
    | none => h
  | .finish p => match s.calls p with
    | some (number, .send args results) => match args.returned results with
      | some r => { h with sends := h.sends ++ [⟨number, args, r⟩] }
      | none => h
    | some (number, .receive args results) => match args.returned results with
      | some r => { h with receives := h.receives ++ [⟨number, r⟩] }
      | none => h
    | none => h
  | _ => h

end DeliveryHistory

namespace SharedQueue
variable {P M : Type*}

def deliveryMachine (P M : Type*) [DecidableEq P] :
    Machine (SharedQueue P M × DeliveryHistory M) (DeliveryAction P M) :=
  (⟨step⟩ : Machine (SharedQueue P M) (DeliveryAction P M)).observe fun h s a _ => h.record s a

def ofPriority (k : ℕ) (parcel : Parcel M) : Bool := parcel.priority = k

/-- No message is lost or doubled, and those of one priority keep their order; a send returns true
if and only if the queue has its message, a receive returns the message it took. -/
structure Delivers (x : SharedQueue P M × DeliveryHistory M) : Prop where
  bounded : x.1.queue.length ≤ x.1.capacity
  acceptedOnce : (x.2.accepted.map Parcel.sender).Nodup
  takenOnce : (x.2.taken.map Prod.fst).Nodup
  order : ∀ k, (x.2.taken.map Prod.snd).filter (ofPriority k) ++
    PriorityQueue.ofClass (ofPriority k) x.1.queue = x.2.accepted.filter (ofPriority k)
  sends : ∀ e ∈ x.2.sends, e.returned = .ok true ↔ e.args.parcel e.number ∈ x.2.accepted
  noOther : ∀ e ∈ x.2.sends, ∀ parcel ∈ x.2.accepted, parcel.sender = e.number →
    parcel = e.args.parcel e.number
  receives : ∀ e ∈ x.2.receives, ∀ message, e.returned = .ok (some message) ↔
    ∃ parcel, (e.number, parcel) ∈ x.2.taken ∧ parcel.message = message

end SharedQueue

/-! ## What a call returns after another result -/

namespace MessageQueue
variable {M : Type*}

theorem lastResult_concat {retryOnInterrupt : Bool} {results : List (MqResult M)}
    (h : lastResult retryOnInterrupt results = none) (result : MqResult M) :
    lastResult retryOnInterrupt (results ++ [result]) =
      if isRetried retryOnInterrupt result then none else some result := by
  rw [lastResult] at h ⊢
  rw [List.find?_append, h]
  cases hretry : isRetried retryOnInterrupt result <;> simp [hretry]

theorem sendResult_eq_true {errorHandler : Errno → Except StdException Bool}
    {result : MqResult Unit} :
    sendResult errorHandler result = .ok true ↔ result = .success () := by
  cases result with
  | success a => simp [sendResult]
  | error errno =>
    rcases hhandler : errorHandler errno with e | _ | _ <;> cases errno <;>
      simp [sendResult, hhandler]

end MessageQueue

open MessageQueue

namespace SendArgs
variable {M : Type*} {args : SendArgs M} {results : List (MqResult Unit)}

theorem returned_of_takes (h : args.queue.Takes args.timeout) :
    args.returned results =
      (lastResult args.retryOnInterrupt results).map (sendResult args.errorHandler) := by
  rw [returned, sendMessage_of_takes h, lastResult, ← repeatWhile_last]

theorem returned_of_not_takes (h : ¬ args.queue.Takes args.timeout) :
    args.returned results = some (.ok false) := by
  rw [returned, sendMessage, if_pos]
  by_contra hvalid
  rw [not_or] at hvalid
  exact h ⟨hvalid.1, not_lt.mp hvalid.2⟩

/-- A call that has not returned makes another attempt. -/
theorem goesOn_of_returned (h : args.returned results = none) :
    args.queue.Takes args.timeout ∧ lastResult args.retryOnInterrupt results = none := by
  by_cases htakes : args.queue.Takes args.timeout
  · refine ⟨htakes, ?_⟩
    rw [returned_of_takes htakes] at h
    exact Option.map_eq_none_iff.mp h
  · rw [returned_of_not_takes htakes] at h
    cases h

theorem returned_success (h : args.returned results = none) :
    args.returned (results ++ [.success ()]) = some (.ok true) := by
  obtain ⟨htakes, hlast⟩ := goesOn_of_returned h
  rw [returned_of_takes htakes, lastResult_concat hlast]
  rfl

theorem returned_error (h : args.returned results = none) (errno : Errno) :
    args.returned (results ++ [.error errno]) ≠ some (.ok true) := by
  obtain ⟨htakes, hlast⟩ := goesOn_of_returned h
  rw [returned_of_takes htakes, lastResult_concat hlast]
  intro htrue
  obtain ⟨result, hresult, hsent⟩ := Option.map_eq_some_iff.mp htrue
  rw [sendResult_eq_true] at hsent
  subst hsent
  cases hretry : isRetried args.retryOnInterrupt (.error errno : MqResult Unit) <;>
    simp [hretry] at hresult

theorem returned_nil : args.returned [] ≠ some (.ok true) := by
  by_cases htakes : args.queue.Takes args.timeout
  · rw [returned_of_takes htakes]
    simp [lastResult]
  · rw [returned_of_not_takes htakes]
    simp

end SendArgs

namespace ReceiveArgs
variable {M : Type*} {args : ReceiveArgs} {results : List (MqResult M)}

theorem returned_of_not_takes (h : ¬ args.queue.Takes args.timeout) :
    args.returned results = some (.ok none) := by
  rw [returned, receiveMessage, if_pos]
  by_contra hvalid
  rw [not_or] at hvalid
  exact h ⟨hvalid.1, not_lt.mp hvalid.2⟩

theorem goesOn_of_returned (h : args.returned results = none) :
    args.queue.Takes args.timeout ∧ lastResult args.retryOnInterrupt results = none := by
  by_cases htakes : args.queue.Takes args.timeout
  · refine ⟨htakes, ?_⟩
    rw [returned, receiveMessage_returned htakes] at h
    exact Option.map_eq_none_iff.mp h
  · rw [returned_of_not_takes htakes] at h
    cases h

theorem returned_success (h : args.returned results = none) (message : M) :
    args.returned (results ++ [.success message]) = some (.ok (some message)) := by
  obtain ⟨htakes, hlast⟩ := goesOn_of_returned h
  rw [returned, receiveMessage_returned htakes, lastResult_concat hlast]
  rfl

theorem returned_error (h : args.returned results = none) (errno : Errno) (message : M) :
    args.returned (results ++ [.error errno]) ≠ some (.ok (some message)) := by
  obtain ⟨htakes, hlast⟩ := goesOn_of_returned h
  rw [returned, receiveMessage_returned htakes, lastResult_concat hlast]
  intro hmessage
  obtain ⟨result, hresult, hreceived⟩ := Option.map_eq_some_iff.mp hmessage
  rw [receiveResult_eq_message] at hreceived
  subst hreceived
  cases hretry : isRetried args.retryOnInterrupt (.error errno : MqResult M) <;>
    simp [hretry] at hresult

theorem returned_nil (message : M) :
    args.returned ([] : List (MqResult M)) ≠ some (.ok (some message)) := by
  by_cases htakes : args.queue.Takes args.timeout
  · rw [returned, receiveMessage_returned htakes]
    simp [lastResult]
  · rw [returned_of_not_takes htakes]
    simp

end ReceiveArgs

/-! ## The calls and their numbers -/

/-- The calls are numbered as they begin, and no number is given twice. -/
structure Numbered {P : Type*} (number : P → Option ℕ) (started : ℕ) (used ended : List ℕ) :
    Prop where
  calls : ∀ p n, number p = some n → n < started
  distinct : ∀ p q n, number p = some n → number q = some n → p = q
  used : ∀ n ∈ used, n < started
  ended : ∀ n ∈ ended, n < started ∧ ∀ p, number p ≠ some n

namespace Numbered
variable {P : Type*} [DecidableEq P] {number : P → Option ℕ} {started : ℕ} {used ended : List ℕ}

theorem start (h : Numbered number started used ended) (p : P) :
    Numbered (Function.update number p (some started)) (started + 1) used ended where
  calls q n hq := by
    by_cases hqp : q = p
    · rw [hqp, Function.update_self] at hq
      have := Option.some.inj hq
      omega
    · rw [Function.update_of_ne hqp] at hq
      have := h.calls q n hq
      omega
  distinct q r n hq hr := by
    by_cases hqp : q = p <;> by_cases hrp : r = p
    · rw [hqp, hrp]
    · rw [hqp, Function.update_self] at hq
      rw [Function.update_of_ne hrp] at hr
      have := h.calls r n hr
      have := Option.some.inj hq
      omega
    · rw [hrp, Function.update_self] at hr
      rw [Function.update_of_ne hqp] at hq
      have := h.calls q n hq
      have := Option.some.inj hr
      omega
    · rw [Function.update_of_ne hqp] at hq
      rw [Function.update_of_ne hrp] at hr
      exact h.distinct q r n hq hr
  used n hn := Nat.lt_succ_of_lt (h.used n hn)
  ended n hn := by
    obtain ⟨hlt, hnone⟩ := h.ended n hn
    refine ⟨Nat.lt_succ_of_lt hlt, ?_⟩
    intro q hq
    by_cases hqp : q = p
    · rw [hqp, Function.update_self] at hq
      have := Option.some.inj hq
      omega
    · rw [Function.update_of_ne hqp] at hq
      exact hnone q hq

omit [DecidableEq P] in
theorem use (h : Numbered number started used ended) {p : P} {n : ℕ} (hp : number p = some n)
    {used' : List ℕ} (hused : ∀ m ∈ used', m ∈ used ∨ m = n) :
    Numbered number started used' ended where
  calls := h.calls
  distinct := h.distinct
  used m hm := by
    obtain hm | rfl := hused m hm
    · exact h.used m hm
    · exact h.calls p m hp
  ended := h.ended

theorem finish (h : Numbered number started used ended) {p : P} {n : ℕ} (hp : number p = some n)
    {ended' : List ℕ} (hended : ∀ m ∈ ended', m ∈ ended ∨ m = n) :
    Numbered (Function.update number p none) started used ended' where
  calls q m hq := by
    by_cases hqp : q = p
    · simp [hqp] at hq
    · rw [Function.update_of_ne hqp] at hq
      exact h.calls q m hq
  distinct q r m hq hr := by
    by_cases hqp : q = p
    · simp [hqp] at hq
    · by_cases hrp : r = p
      · simp [hrp] at hr
      · rw [Function.update_of_ne hqp] at hq
        rw [Function.update_of_ne hrp] at hr
        exact h.distinct q r m hq hr
  used := h.used
  ended m hm := by
    obtain hm | rfl := hended m hm
    · refine ⟨(h.ended m hm).1, ?_⟩
      intro q hq
      by_cases hqp : q = p
      · simp [hqp] at hq
      · rw [Function.update_of_ne hqp] at hq
        exact (h.ended m hm).2 q hq
    · refine ⟨h.calls p m hp, ?_⟩
      intro q hq
      by_cases hqp : q = p
      · simp [hqp] at hq
      · rw [Function.update_of_ne hqp] at hq
        exact hqp (h.distinct q p m hq hp)

end Numbered

section Agreement
variable {M : Type*} {accepted : List (Parcel M)} {taken : List (ℕ × Parcel M)} {n : ℕ}

/-- The queue has taken in the message of a send that has returned true, and no other of this
call. -/
structure SendAgrees (accepted : List (Parcel M)) (n : ℕ) (args : SendArgs M)
    (returned : Option (Except StdException Bool)) : Prop where
  sent : args.parcel n ∈ accepted ↔ returned = some (.ok true)
  noOther : ∀ parcel ∈ accepted, parcel.sender = n → parcel = args.parcel n

/-- The message a receive returns is the one it has taken. -/
def ReceiveAgrees (taken : List (ℕ × Parcel M)) (n : ℕ)
    (returned : Option (Except StdException (Option M))) : Prop :=
  ∀ message, returned = some (.ok (some message)) ↔
    ∃ parcel, (n, parcel) ∈ taken ∧ parcel.message = message

def CallAgrees (h : DeliveryHistory M) (n : ℕ) : QueueCall M → Prop
  | .send args results => SendAgrees h.accepted n args (args.returned results)
  | .receive args results => ReceiveAgrees h.taken n (args.returned results)

/-- A message of another call is taken in. -/
theorem SendAgrees.accept {args : SendArgs M} {returned : Option (Except StdException Bool)}
    (hs : SendAgrees accepted n args returned) {parcel : Parcel M} (hne : parcel.sender ≠ n) :
    SendAgrees (accepted ++ [parcel]) n args returned where
  sent := by
    rw [← hs.sent, List.mem_append, List.mem_singleton]
    have hother : args.parcel n ≠ parcel := by
      rintro rfl
      exact hne rfl
    simp [hother]
  noOther other hmem hsender := by
    obtain hmem | hmem := List.mem_append.mp hmem
    · exact hs.noOther other hmem hsender
    · obtain rfl := List.mem_singleton.mp hmem
      exact absurd hsender hne

/-- Another call takes a message. -/
theorem ReceiveAgrees.take {returned : Option (Except StdException (Option M))}
    (hr : ReceiveAgrees taken n returned) {e : ℕ × Parcel M} (hne : e.1 ≠ n) :
    ReceiveAgrees (taken ++ [e]) n returned := by
  intro message
  rw [hr message]
  simp only [List.mem_append, List.mem_singleton]
  constructor
  · rintro ⟨parcel, hmem, hmessage⟩
    exact ⟨parcel, .inl hmem, hmessage⟩
  · rintro ⟨parcel, hmem | rfl, hmessage⟩
    · exact ⟨parcel, hmem, hmessage⟩
    · exact absurd rfl hne

/-- A send that has not returned is not in the queue. -/
theorem SendAgrees.notSent {args : SendArgs M} (hs : SendAgrees accepted n args none) :
    n ∉ accepted.map Parcel.sender := by
  intro hn
  obtain ⟨parcel, hmem, hsender⟩ := List.mem_map.mp hn
  have hown := hs.noOther parcel hmem hsender
  rw [hown] at hmem
  cases hs.sent.mp hmem

theorem ReceiveAgrees.notTaken (hr : ReceiveAgrees taken n none) : n ∉ taken.map Prod.fst := by
  intro hn
  obtain ⟨⟨m, parcel⟩, hmem, rfl⟩ := List.mem_map.mp hn
  cases (hr parcel.message).mpr ⟨parcel, hmem, rfl⟩

end Agreement

namespace SharedQueue
variable {P M : Type*} {s : SharedQueue P M} {h : DeliveryHistory M} {p : P} {n : ℕ}

def number (s : SharedQueue P M) : P → Option ℕ := Option.map Prod.fst ∘ s.calls

theorem number_eq {call : QueueCall M} (hp : s.calls p = some (n, call)) :
    s.number p = some n := by
  rw [number, Function.comp_apply, hp]
  rfl

/-- The history agrees with the queue and with every call. -/
structure Tracked (s : SharedQueue P M) (h : DeliveryHistory M) : Prop where
  bounded : s.queue.length ≤ s.capacity
  passage : ∀ k, PriorityQueue.Passage (ofPriority k) k (h.accepted.filter (ofPriority k))
    ((h.taken.map Prod.snd).filter (ofPriority k)) s.queue
  acceptedOnce : (h.accepted.map Parcel.sender).Nodup
  takenOnce : (h.taken.map Prod.fst).Nodup
  numbered : Numbered s.number s.started (h.accepted.map Parcel.sender ++ h.taken.map Prod.fst)
    (h.sends.map EndedSend.number ++ h.receives.map EndedReceive.number)
  calls : ∀ p n call, s.calls p = some (n, call) → CallAgrees h n call
  sends : ∀ e ∈ h.sends, SendAgrees h.accepted e.number e.args (some e.returned)
  receives : ∀ e ∈ h.receives, ReceiveAgrees h.taken e.number (some e.returned)

theorem Tracked.delivers (hx : Tracked s h) : Delivers (s, h) where
  bounded := hx.bounded
  acceptedOnce := hx.acceptedOnce
  takenOnce := hx.takenOnce
  order k := (hx.passage k).order
  sends e he := by
    rw [(hx.sends e he).sent]
    exact Option.some_inj.symm
  noOther e he := (hx.sends e he).noOther
  receives e he message := by
    rw [← hx.receives e he message]
    exact Option.some_inj.symm

/-- The number of the next call has not been used. -/
theorem Tracked.fresh (hx : Tracked s h) :
    s.started ∉ h.accepted.map Parcel.sender ∧ s.started ∉ h.taken.map Prod.fst := by
  constructor
  · intro hused
    exact lt_irrefl _ (hx.numbered.used _ (List.mem_append_left _ hused))
  · intro hused
    exact lt_irrefl _ (hx.numbered.used _ (List.mem_append_right _ hused))

theorem tracked_init (capacity : ℕ) : Tracked (init capacity : SharedQueue P M) .empty where
  bounded := Nat.zero_le capacity
  passage k := PriorityQueue.passage_nil (ofPriority k) k
  acceptedOnce := List.nodup_nil
  takenOnce := List.nodup_nil
  numbered := {
    calls := fun _ _ hp => by cases hp
    distinct := fun _ _ _ hp => by cases hp
    used := fun _ hn => by cases hn
    ended := fun _ hn => by cases hn }
  calls _ _ _ hp := by cases hp
  sends _ he := by cases he
  receives _ he := by cases he

variable [DecidableEq P]

/-- A process begins a call that has done nothing yet. -/
theorem Tracked.begin (hx : Tracked s h) {call : QueueCall M}
    (hcall : CallAgrees h s.started call) :
    Tracked { s with
      calls := Function.update s.calls p (some (s.started, call))
      started := s.started + 1 } h where
  bounded := hx.bounded
  passage := hx.passage
  acceptedOnce := hx.acceptedOnce
  takenOnce := hx.takenOnce
  numbered := by
    rw [number, Function.comp_update]
    exact hx.numbered.start p
  calls q m other hq := by
    by_cases hqp : q = p
    · rw [hqp] at hq
      simp only [Function.update_self, Option.some.injEq, Prod.mk.injEq] at hq
      obtain ⟨rfl, rfl⟩ := hq
      exact hcall
    · simp only [Function.update_of_ne hqp] at hq
      exact hx.calls q m other hq
  sends := hx.sends
  receives := hx.receives

omit [DecidableEq P] in
/-- The numbers of the calls of other processes. -/
theorem Tracked.other (hx : Tracked s h) {call : QueueCall M} (hp : s.calls p = some (n, call))
    {q : P} {m : ℕ} {other : QueueCall M} (hq : s.calls q = some (m, other)) (hqp : q ≠ p) :
    n ≠ m := by
  rintro rfl
  exact hqp (hx.numbered.distinct q p n (number_eq hq) (number_eq hp))

theorem number_goesOn {call : QueueCall M} (hp : s.calls p = some (n, call))
    (call' : QueueCall M) : (s.goesOn p n call').number = s.number := by
  rw [number, goesOn, Function.comp_update]
  exact Function.update_eq_self_iff.mpr (number_eq hp).symm

theorem calls_goesOn {call' : QueueCall M} {q : P} {m : ℕ} {other : QueueCall M}
    (hq : (s.goesOn p n call').calls q = some (m, other)) :
    (q = p ∧ m = n ∧ other = call') ∨ q ≠ p ∧ s.calls q = some (m, other) := by
  unfold goesOn at hq
  by_cases hqp : q = p
  · rw [hqp] at hq
    simp only [Function.update_self, Option.some.injEq, Prod.mk.injEq] at hq
    exact .inl ⟨hqp, hq.1.symm, hq.2.symm⟩
  · simp only [Function.update_of_ne hqp] at hq
    exact .inr ⟨hqp, hq⟩

/-- An attempt fails, which touches neither the queue nor the history. -/
theorem Tracked.fail (hx : Tracked s h) {call call' : QueueCall M}
    (hp : s.calls p = some (n, call)) (hcall : CallAgrees h n call') :
    Tracked (s.goesOn p n call') h where
  bounded := hx.bounded
  passage := hx.passage
  acceptedOnce := hx.acceptedOnce
  takenOnce := hx.takenOnce
  numbered := by
    rw [number_goesOn hp]
    exact hx.numbered
  calls q m other hq := by
    obtain ⟨-, rfl, rfl⟩ | ⟨-, hq⟩ := calls_goesOn hq
    · exact hcall
    · exact hx.calls q m other hq
  sends := hx.sends
  receives := hx.receives

/-- The queue takes in the message of a send. -/
theorem Tracked.accept (hx : Tracked s h) {args : SendArgs M} {results : List (MqResult Unit)}
    (hp : s.calls p = some (n, .send args results)) (hreturned : args.returned results = none)
    (hroom : s.queue.length < s.capacity) :
    Tracked { s.goesOn p n (.send args (results ++ [.success ()])) with
        queue := PriorityQueue.insert (args.priority, args.parcel n) s.queue }
      { h with accepted := h.accepted ++ [args.parcel n] } := by
  have hcall : SendAgrees h.accepted n args (args.returned results) := hx.calls p n _ hp
  have hnotSent : n ∉ h.accepted.map Parcel.sender := by
    rw [hreturned] at hcall
    exact hcall.notSent
  refine ⟨?_, ?_, ?_, hx.takenOnce, ?_, ?_, ?_, ?_⟩
  · have hlength : (PriorityQueue.insert (args.priority, args.parcel n) s.queue).length =
        s.queue.length + 1 := List.orderedInsert_length ..
    dsimp only [goesOn]
    omega
  · intro k
    have hinsert := (hx.passage k).insert (e := (args.priority, args.parcel n))
      (fun hk => of_decide_eq_true hk)
    simpa only [List.filter_append] using hinsert
  · rw [List.map_append]
    exact hx.acceptedOnce.append (List.nodup_singleton _)
      (by simpa [SendArgs.parcel] using hnotSent)
  · have hnumber := number_goesOn hp (.send args (results ++ [.success ()]))
    rw [number] at hnumber
    rw [number, hnumber]
    apply hx.numbered.use (number_eq hp)
    intro m hm
    simp only [List.map_append, List.map_cons, List.map_nil, List.mem_append,
      List.mem_singleton] at hm ⊢
    obtain (hm | hm) | hm := hm
    · exact .inl (.inl hm)
    · exact .inr hm
    · exact .inl (.inr hm)
  · intro q m other hq
    obtain ⟨-, rfl, rfl⟩ | ⟨hqp, hq⟩ := calls_goesOn hq
    · rw [CallAgrees, SendArgs.returned_success hreturned]
      refine ⟨by simp, ?_⟩
      intro parcel hmem hsender
      obtain hmem | hmem := List.mem_append.mp hmem
      · exact hcall.noOther parcel hmem hsender
      · exact List.mem_singleton.mp hmem
    · cases other with
      | send args' results' => exact (hx.calls q m _ hq).accept (hx.other hp hq hqp)
      | receive args' results' => exact hx.calls q m _ hq
  · intro e he
    apply (hx.sends e he).accept
    intro heq
    exact (hx.numbered.ended e.number (List.mem_append_left _ (List.mem_map_of_mem he))).2 p
      ((number_eq hp).trans (congrArg some heq))
  · exact hx.receives

/-- A receive takes the first message. -/
theorem Tracked.take (hx : Tracked s h) {args : ReceiveArgs} {results : List (MqResult M)}
    (hp : s.calls p = some (n, .receive args results)) (hreturned : args.returned results = none)
    {e : ℕ × Parcel M} {rest : List (ℕ × Parcel M)} (hqueue : s.queue = e :: rest) :
    Tracked { s.goesOn p n (.receive args (results ++ [.success e.2.message])) with
        queue := rest }
      { h with taken := h.taken ++ [(n, e.2)] } := by
  have hcall : ReceiveAgrees h.taken n (args.returned results) := hx.calls p n _ hp
  have hnotTaken : n ∉ h.taken.map Prod.fst := by
    rw [hreturned] at hcall
    exact hcall.notTaken
  refine ⟨?_, ?_, hx.acceptedOnce, ?_, ?_, ?_, hx.sends, ?_⟩
  · have hbounded := hx.bounded
    rw [hqueue, List.length_cons] at hbounded
    dsimp only [goesOn]
    omega
  · intro k
    have hpassage := hx.passage k
    rw [hqueue] at hpassage
    simpa only [List.map_append, List.filter_append, List.map_cons, List.map_nil]
      using hpassage.tail
  · rw [List.map_append]
    exact hx.takenOnce.append (List.nodup_singleton _) (by simpa using hnotTaken)
  · have hnumber := number_goesOn hp (.receive args (results ++ [.success e.2.message]))
    rw [number] at hnumber
    rw [number, hnumber]
    apply hx.numbered.use (number_eq hp)
    intro m hm
    simp only [List.map_append, List.map_cons, List.map_nil, List.mem_append,
      List.mem_singleton] at hm ⊢
    rwa [or_assoc]
  · intro q m other hq
    obtain ⟨-, rfl, rfl⟩ | ⟨hqp, hq⟩ := calls_goesOn hq
    · rw [CallAgrees, ReceiveArgs.returned_success hreturned]
      intro message
      simp only [Option.some.injEq, Except.ok.injEq, List.mem_append, List.mem_singleton]
      constructor
      · rintro rfl
        exact ⟨e.2, .inr rfl, rfl⟩
      · rintro ⟨parcel, hmem | heq, rfl⟩
        · exact absurd (List.mem_map_of_mem hmem) hnotTaken
        · rw [← (Prod.mk.inj heq).2]
    · cases other with
      | send args' results' => exact hx.calls q m _ hq
      | receive args' results' => exact (hx.calls q m _ hq).take (hx.other hp hq hqp)
  · intro r hr
    apply (hx.receives r hr).take
    intro heq
    exact (hx.numbered.ended r.number (List.mem_append_right _ (List.mem_map_of_mem hr))).2 p
      ((number_eq hp).trans (congrArg some heq))

theorem calls_ended {q : P} {m : ℕ} {other : QueueCall M}
    (hq : Function.update s.calls p none q = some (m, other)) : s.calls q = some (m, other) := by
  by_cases hqp : q = p
  · simp [hqp] at hq
  · rwa [Function.update_of_ne hqp] at hq

theorem Tracked.endSend (hx : Tracked s h) {args : SendArgs M} {results : List (MqResult Unit)}
    (hp : s.calls p = some (n, .send args results)) {r : Except StdException Bool}
    (hreturned : args.returned results = some r) :
    Tracked { s with calls := Function.update s.calls p none }
      { h with sends := h.sends ++ [⟨n, args, r⟩] } where
  bounded := hx.bounded
  passage := hx.passage
  acceptedOnce := hx.acceptedOnce
  takenOnce := hx.takenOnce
  numbered := by
    rw [number, Function.comp_update]
    apply hx.numbered.finish (number_eq hp)
    intro m hm
    simp only [List.map_append, List.map_cons, List.map_nil, List.mem_append,
      List.mem_singleton] at hm ⊢
    obtain (hm | hm) | hm := hm
    · exact .inl (.inl hm)
    · exact .inr hm
    · exact .inl (.inr hm)
  calls q m other hq := hx.calls q m other (calls_ended hq)
  sends e he := by
    obtain he | he := List.mem_append.mp he
    · exact hx.sends e he
    · obtain rfl := List.mem_singleton.mp he
      rw [← hreturned]
      exact hx.calls p n _ hp
  receives := hx.receives

theorem Tracked.endReceive (hx : Tracked s h) {args : ReceiveArgs} {results : List (MqResult M)}
    (hp : s.calls p = some (n, .receive args results)) {r : Except StdException (Option M)}
    (hreturned : args.returned results = some r) :
    Tracked { s with calls := Function.update s.calls p none }
      { h with receives := h.receives ++ [⟨n, r⟩] } where
  bounded := hx.bounded
  passage := hx.passage
  acceptedOnce := hx.acceptedOnce
  takenOnce := hx.takenOnce
  numbered := by
    rw [number, Function.comp_update]
    apply hx.numbered.finish (number_eq hp)
    intro m hm
    simp only [List.map_append, List.map_cons, List.map_nil, List.mem_append,
      List.mem_singleton] at hm ⊢
    rwa [or_assoc]
  calls q m other hq := hx.calls q m other (calls_ended hq)
  sends := hx.sends
  receives e he := by
    obtain he | he := List.mem_append.mp he
    · exact hx.receives e he
    · obtain rfl := List.mem_singleton.mp he
      rw [← hreturned]
      exact hx.calls p n _ hp

theorem Tracked.begins (hx : Tracked s h) (call : QueueCall M) (hcall : CallAgrees h s.started call)
    {t : SharedQueue P M} (ht : s.begins p call = some t) : Tracked t h := by
  unfold SharedQueue.begins at ht
  cases hp : s.calls p with
  | none =>
    rw [hp] at ht
    obtain rfl := Option.some.inj ht
    exact hx.begin hcall
  | some call' =>
    rw [hp] at ht
    cases ht

theorem Tracked.step (hx : Tracked s h) {a : DeliveryAction P M} {t : SharedQueue P M}
    (ht : s.step a = some t) : Tracked t (h.record s a) := by
  obtain ⟨hfreshSend, hfreshTake⟩ := hx.fresh
  cases a with
  | beginSend p args =>
    have hcall : SendAgrees h.accepted s.started args (args.returned []) := by
      refine ⟨⟨?_, ?_⟩, ?_⟩
      · intro hmem
        exact absurd (List.mem_map_of_mem hmem) hfreshSend
      · intro hreturned
        exact absurd hreturned SendArgs.returned_nil
      · intro parcel hmem hsender
        exact absurd (hsender ▸ List.mem_map_of_mem hmem) hfreshSend
    exact hx.begins (.send args []) hcall ht
  | beginReceive p args =>
    have hcall : ReceiveAgrees h.taken s.started (args.returned []) := by
      intro message
      constructor
      · intro hreturned
        exact absurd hreturned (ReceiveArgs.returned_nil message)
      · rintro ⟨parcel, hmem, -⟩
        exact absurd (List.mem_map_of_mem hmem) hfreshTake
    exact hx.begins (.receive args []) hcall ht
  | succeed p =>
    rcases hp : s.calls p with _ | ⟨n, ⟨args, results⟩ | ⟨args, results⟩⟩
    · simp [SharedQueue.step, hp] at ht
    · simp only [SharedQueue.step, hp, Option.ite_none_right_eq_some, Option.isNone_iff_eq_none,
        Option.some.injEq] at ht
      obtain ⟨⟨hreturned, hroom⟩, rfl⟩ := ht
      simpa only [DeliveryHistory.record, hp] using hx.accept hp hreturned hroom
    · cases hqueue : s.queue with
      | nil => simp [SharedQueue.step, hp, hqueue] at ht
      | cons e rest =>
        simp only [SharedQueue.step, hp, hqueue, Option.ite_none_right_eq_some,
          Option.isNone_iff_eq_none, Option.some.injEq] at ht
        obtain ⟨hreturned, rfl⟩ := ht
        simpa only [DeliveryHistory.record, hp, hqueue] using hx.take hp hreturned hqueue
  | fail p errno =>
    rcases hp : s.calls p with _ | ⟨n, ⟨args, results⟩ | ⟨args, results⟩⟩
    · simp [SharedQueue.step, hp] at ht
    · simp only [SharedQueue.step, hp, Option.ite_none_right_eq_some, Option.isNone_iff_eq_none,
        Option.some.injEq] at ht
      obtain ⟨hreturned, rfl⟩ := ht
      have hcall : SendAgrees h.accepted n args (args.returned results) := hx.calls p n _ hp
      refine hx.fail hp ⟨?_, hcall.noOther⟩
      rw [hcall.sent, hreturned]
      simp [SendArgs.returned_error hreturned]
    · simp only [SharedQueue.step, hp, Option.ite_none_right_eq_some, Option.isNone_iff_eq_none,
        Option.some.injEq] at ht
      obtain ⟨hreturned, rfl⟩ := ht
      have hcall : ReceiveAgrees h.taken n (args.returned results) := hx.calls p n _ hp
      apply hx.fail hp
      intro message
      rw [← hcall message, hreturned]
      simp [ReceiveArgs.returned_error hreturned]
  | finish p =>
    rcases hp : s.calls p with _ | ⟨n, ⟨args, results⟩ | ⟨args, results⟩⟩
    · simp [SharedQueue.step, hp] at ht
    · simp only [SharedQueue.step, hp, Option.ite_none_right_eq_some, Option.isSome_iff_exists,
        Option.some.injEq] at ht
      obtain ⟨⟨r, hreturned⟩, rfl⟩ := ht
      simpa only [DeliveryHistory.record, hp, hreturned] using hx.endSend hp hreturned
    · simp only [SharedQueue.step, hp, Option.ite_none_right_eq_some, Option.isSome_iff_exists,
        Option.some.injEq] at ht
      obtain ⟨⟨r, hreturned⟩, rfl⟩ := ht
      simpa only [DeliveryHistory.record, hp, hreturned] using hx.endReceive hp hreturned

/-- In every run of any number of processes on a queue of any capacity: a send that returns true
has put its message into the queue once, one that returns false or throws has not; a receive
returns the message it took and no two take the same; nothing is lost on the way, and what is sent
with one priority is received in the order in which the queue took it in. -/
theorem delivers_always (capacity : ℕ) (as : List (DeliveryAction P M)) :
    (deliveryMachine P M).Always Delivers (init capacity, .empty) as := by
  apply Machine.always_of_invariant (I := fun x => Tracked x.1 x.2) (P := Delivers)
    (fun x (hx : Tracked x.1 x.2) => hx.delivers) ?_ as (tracked_init capacity)
  intro x a y hx h
  obtain ⟨hstep, hrecord⟩ := Machine.observe_step.mp h
  rw [← hrecord]
  exact hx.step hstep

/-- A send into a full queue waits, is interrupted and succeeds once there is room; the receive
that made the room has the other message. -/
example : ((deliveryMachine Bool Char).exec (init 1, .empty)
    [.beginSend true ⟨someQueue, 'a', fun _ => .ok false, true, 0, 2, Nat.cast⟩, .succeed true,
      .finish true, .beginSend true ⟨someQueue, 'b', fun _ => .ok false, true, 1, 2, Nat.cast⟩,
      .fail true .eintr, .beginReceive false ⟨someQueue, true, 2, Nat.cast⟩, .succeed false,
      .succeed true, .finish false, .finish true]).map (fun x => (x.1.queue, x.2.taken)) =
    some ([(1, ⟨1, 1, 'b'⟩)], [(2, ⟨0, 0, 'a'⟩)]) := by decide

end SharedQueue

end AmusementPark.Ipc
