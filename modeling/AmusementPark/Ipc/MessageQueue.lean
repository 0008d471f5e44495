import AmusementPark.Library.Exceptions
import AmusementPark.Library.Retry

/-! # Sending and receiving with a timeout

`MessageQueue::SendMessage` and `MessageQueue::ReceiveMessage`, with the results
of the kernel and the readings of the clock. Both repeat an interrupted call.
The one computes its deadline anew for every attempt, the other takes a timeout
of 0 for none and an interrupt that is not to be retried for an error.
-/
namespace AmusementPark.Ipc
open Library

/-- The values of `errno` that the two functions tell apart. -/
inductive Errno where
  | eagain
  | etimedout
  | eintr
  | ebadf
  | other (code : ℕ)
deriving DecidableEq

/-- What a call on the queue returns: a value, or -1 with a value of `errno`. -/
inductive MqResult (α : Type*) where
  | success (a : α)
  | error (errno : Errno)
deriving DecidableEq

/-- The members of a `MessageQueue`. -/
structure MessageQueue where
  msqID : ℤ
  msqName : String
  owner : Bool
deriving DecidableEq

/-- A call of `mq_timedsend` or `mq_timedreceive` with its deadline, or of `mq_send` or
`mq_receive`, which have none. -/
structure MqAttempt where
  deadline : Option ℤ
deriving DecidableEq

/-- `CreateTimestamp`, when `time` returns `now`. -/
def createTimestamp (now add : ℤ) : ℤ := now + add

/-- The calls of one `SendMessage` or `ReceiveMessage`, and how it has ended; nothing is returned
while the last call is still in the kernel. -/
structure MqRun (ρ : Type*) where
  attempts : List MqAttempt
  returned : Option (Except StdException ρ)

/-- The test of both loops. -/
def isRetried {α : Type*} (retryOnInterrupt : Bool) : MqResult α → Bool
  | .error .eintr => retryOnInterrupt
  | _ => false

namespace MessageQueue
variable {M : Type*}

/-- The attempt that `SendMessage` makes when the clock shows `now`. -/
def sendAttempt (timeout now : ℤ) : MqAttempt :=
  ⟨if 0 ≤ timeout then some (createTimestamp now timeout) else none⟩

/-- What `SendMessage` makes of the result that ended its loop. -/
def sendResult (errorHandler : Errno → Except StdException Bool) :
    MqResult Unit → Except StdException Bool
  | .success () => .ok true
  | .error .eagain | .error .etimedout | .error .eintr => .ok false
  | .error errno => match errorHandler errno with
    | .error e => .error e
    | .ok true => .ok false
    | .ok false => .error ⟨"Couldn't send message!"⟩

/-- `SendMessage`. The clock is read once for every attempt. -/
def sendMessage (queue : MessageQueue) (errorHandler : Errno → Except StdException Bool)
    (retryOnInterrupt : Bool) (timeout : ℤ) (clock : ℕ → ℤ) (results : List (MqResult Unit)) :
    MqRun Bool :=
  if queue.msqID = -1 ∨ timeout < -1 then ⟨[], some (.ok false)⟩
  else
    let run := repeatWhile (isRetried retryOnInterrupt)
      (fun i => sendAttempt timeout (clock i)) 0 results
    ⟨run.1, run.2.map (sendResult errorHandler)⟩

/-- The attempt of `ReceiveMessage` with the timestamp `ts`. -/
def receiveAttempt (timeout ts : ℤ) : MqAttempt := ⟨if 0 < timeout then some ts else none⟩

/-- What `ReceiveMessage` makes of the result that ended its loop. -/
def receiveResult : MqResult M → Except StdException (Option M)
  | .success dst => .ok (some dst)
  | .error .eagain | .error .etimedout => .ok none
  | .error _ => .error ⟨"Couldn't recieve message!"⟩

/-- `ReceiveMessage`. The clock is read before the loop. -/
def receiveMessage (queue : MessageQueue) (retryOnInterrupt : Bool) (timeout : ℤ) (clock : ℕ → ℤ)
    (results : List (MqResult M)) : MqRun (Option M) :=
  if queue.msqID = -1 ∨ timeout < -1 then ⟨[], some (.ok none)⟩
  else
    let ts := createTimestamp (clock 0) timeout
    let run := repeatWhile (isRetried retryOnInterrupt) (fun _ => receiveAttempt timeout ts) 0
      results
    ⟨run.1, run.2.map receiveResult⟩

/-- The queue is open and the timeout one of those the functions take. -/
structure Takes (queue : MessageQueue) (timeout : ℤ) : Prop where
  opened : queue.msqID ≠ -1
  timeout : -1 ≤ timeout

variable {queue : MessageQueue} {timeout : ℤ} {clock : ℕ → ℤ} {retryOnInterrupt : Bool}
  {errorHandler : Errno → Except StdException Bool}

theorem sendMessage_of_takes (h : queue.Takes timeout) (results : List (MqResult Unit)) :
    queue.sendMessage errorHandler retryOnInterrupt timeout clock results =
      let run := repeatWhile (isRetried retryOnInterrupt)
        (fun i => sendAttempt timeout (clock i)) 0 results
      ⟨run.1, run.2.map (sendResult errorHandler)⟩ := by
  have hopened := h.opened
  have htimeout := h.timeout
  rw [sendMessage, if_neg (by omega)]

theorem receiveMessage_of_takes (h : queue.Takes timeout) (results : List (MqResult M)) :
    queue.receiveMessage retryOnInterrupt timeout clock results =
      let run := repeatWhile (isRetried retryOnInterrupt)
        (fun _ => receiveAttempt timeout (createTimestamp (clock 0) timeout)) 0 results
      ⟨run.1, run.2.map receiveResult⟩ := by
  have hopened := h.opened
  have htimeout := h.timeout
  rw [receiveMessage, if_neg (by omega)]

/-! ## Deadlines -/

/-- Every attempt has a deadline, which lies at most the timeout after `start`. -/
def BoundedBy (attempts : List MqAttempt) (start timeout : ℤ) : Prop :=
  ∀ attempt ∈ attempts, ∃ d ∈ attempt.deadline, d ≤ start + timeout

/-- The clock when `SendMessage` makes its last attempt, as far as the results go. -/
def lastReading (clock : ℕ → ℤ) (results : List (MqResult Unit)) : ℤ :=
  clock (repeats (isRetried true) results)

/-- All timed attempts of a receive have the deadline that the call began with. -/
theorem receiveMessage_bounded (h : queue.Takes timeout) (hpos : 0 < timeout)
    (results : List (MqResult M)) : BoundedBy
      (queue.receiveMessage retryOnInterrupt timeout clock results).attempts (clock 0) timeout := by
  rw [receiveMessage_of_takes h]
  intro attempt hattempt
  obtain ⟨j, -, rfl⟩ := (mem_repeatWhile 0 results).mp hattempt
  exact ⟨clock 0 + timeout, by simp [receiveAttempt, hpos, createTimestamp], le_rfl⟩

/-- A send that is repeated keeps within its timeout if and only if the clock has not advanced
when it makes its last attempt. -/
theorem sendMessage_bounded_iff (hopened : queue.msqID ≠ -1) (htimeout : 0 ≤ timeout)
    (hclock : Monotone clock) (results : List (MqResult Unit)) :
    BoundedBy (queue.sendMessage errorHandler true timeout clock results).attempts (clock 0)
        timeout ↔ lastReading clock results = clock 0 := by
  rw [sendMessage_of_takes ⟨hopened, by omega⟩]
  have hdeadline (i : ℕ) :
      (sendAttempt timeout (clock i)).deadline = some (clock i + timeout) := by
    rw [sendAttempt, if_pos htimeout, createTimestamp]
  constructor
  · intro h
    obtain ⟨d, hd, hle⟩ := h (sendAttempt timeout (clock (repeats (isRetried true) results)))
      ((mem_repeatWhile 0 results).mpr ⟨_, le_rfl, by rw [zero_add]⟩)
    obtain rfl := Option.some.inj ((hdeadline _).symm.trans hd)
    have hstart := hclock (Nat.zero_le (repeats (isRetried true) results))
    rw [lastReading]
    omega
  · intro h attempt hattempt
    obtain ⟨j, hj, rfl⟩ := (mem_repeatWhile 0 results).mp hattempt
    refine ⟨clock j + timeout, by rw [zero_add, hdeadline]; rfl, ?_⟩
    have := hclock hj
    rw [lastReading] at h
    omega

/-- An attached queue. -/
def someQueue : MessageQueue := ⟨3, "/park-7-register", false⟩

/-- A send that is interrupted while the clock stands still. -/
theorem interruptedAtOnce_bounded : BoundedBy (someQueue.sendMessage (fun _ => .ok false) true 2
    (fun _ => 10) [.error .eintr, .success ()]).attempts 10 2 :=
  (sendMessage_bounded_iff (by decide) (by decide) monotone_const _).mpr rfl

/-- A send with a timeout of 2, interrupted two seconds after each attempt, still has an attempt
with a deadline six seconds after the call. -/
theorem interruptedTwice_stretches :
    (someQueue.sendMessage (fun _ => .ok false) true 2 (fun i => 10 + 2 * i)
      [.error .eintr, .error .eintr, .error .etimedout]).attempts =
        [⟨some 12⟩, ⟨some 14⟩, ⟨some 16⟩] ∧
    ¬ BoundedBy (someQueue.sendMessage (fun _ => .ok false) true 2 (fun i => 10 + 2 * i)
      [.error .eintr, .error .eintr, .error .etimedout]).attempts 10 2 := by
  have hrun : (someQueue.sendMessage (fun _ => .ok false) true 2 (fun i => 10 + 2 * i)
      [.error .eintr, .error .eintr, .error .etimedout]).attempts =
        [⟨some 12⟩, ⟨some 14⟩, ⟨some 16⟩] := by decide
  rw [hrun]
  refine ⟨rfl, ?_⟩
  intro h
  obtain ⟨d, hd, hle⟩ := h ⟨some 16⟩ (by simp)
  obtain rfl := Option.some.inj hd
  omega

/-! ## The contract of a receive -/

/-- What `ReceiveMessage` documents, for the attempts of a call made at `start` and the results
of the kernel. -/
structure ReceiveContract (retryOnInterrupt : Bool) (timeout start : ℤ)
    (last : Option (MqResult M)) (run : MqRun (Option M)) : Prop where
  message : ∀ dst, run.returned = some (.ok (some dst)) ↔ last = some (.success dst)
  nothing : ∀ errno, last = some (.error errno) →
    errno = .etimedout ∨ (errno = .eintr ∧ retryOnInterrupt = false) →
      run.returned = some (.ok none)
  throws : ∀ e, run.returned = some (.error e) → ∃ errno, last = some (.error errno) ∧
    errno ≠ .etimedout ∧ ¬ (errno = .eintr ∧ retryOnInterrupt = false)
  timed : 0 ≤ timeout → ∀ attempt ∈ run.attempts, attempt.deadline = some (start + timeout)
  unlimited : ∀ attempt ∈ run.attempts, attempt.deadline = none → timeout = -1

/-- The result that ends the calls of a receive: the first that is not an interrupt to retry. -/
def lastResult (retryOnInterrupt : Bool) (results : List (MqResult M)) : Option (MqResult M) :=
  results.find? fun result => !isRetried retryOnInterrupt result

/-- The two kinds of calls that break the contract. -/
def Receivable (retryOnInterrupt : Bool) (timeout : ℤ) (results : List (MqResult M)) : Prop :=
  timeout ≠ 0 ∧ ¬ (retryOnInterrupt = false ∧ results.head? = some (.error .eintr))

theorem lastResult_of_not_retry (results : List (MqResult M)) :
    lastResult false results = results.head? := by
  cases results with
  | nil => rfl
  | cons result rest =>
    rw [lastResult, List.find?_cons_of_pos, List.head?_cons]
    cases result with
    | success a => rfl
    | error errno => cases errno <;> rfl

theorem receiveResult_eq_message {result : MqResult M} {dst : M} :
    receiveResult result = .ok (some dst) ↔ result = .success dst := by
  cases result with
  | success a => simp [receiveResult]
  | error errno => cases errno <;> simp [receiveResult]

theorem receiveResult_eq_error {result : MqResult M} {e : StdException}
    (h : receiveResult result = .error e) :
    ∃ errno, result = .error errno ∧ errno ≠ .etimedout := by
  cases result with
  | success a => cases h
  | error errno =>
    refine ⟨errno, rfl, ?_⟩
    rintro rfl
    cases h

/-- What `ReceiveMessage` returns for the last of its results. -/
theorem receiveMessage_returned (h : queue.Takes timeout) (results : List (MqResult M)) :
    (queue.receiveMessage retryOnInterrupt timeout clock results).returned =
      (lastResult retryOnInterrupt results).map receiveResult := by
  rw [receiveMessage_of_takes h, lastResult, ← repeatWhile_last]

theorem mem_receiveMessage_attempts (h : queue.Takes timeout) (results : List (MqResult M))
    {attempt : MqAttempt} : attempt ∈
      (queue.receiveMessage retryOnInterrupt timeout clock results).attempts ↔
      attempt = receiveAttempt timeout (createTimestamp (clock 0) timeout) := by
  rw [receiveMessage_of_takes h]
  constructor
  · intro hattempt
    obtain ⟨j, -, hj⟩ := (mem_repeatWhile 0 results).mp hattempt
    exact hj
  · intro heq
    exact (mem_repeatWhile 0 results).mpr ⟨0, Nat.zero_le _, heq⟩

theorem receiveContract_of_receivable (h : queue.Takes timeout) {results : List (MqResult M)}
    (hresults : Receivable retryOnInterrupt timeout results) :
    ReceiveContract retryOnInterrupt timeout (clock 0) (lastResult retryOnInterrupt results)
      (queue.receiveMessage retryOnInterrupt timeout clock results) := by
  have hreturned : (queue.receiveMessage retryOnInterrupt timeout clock results).returned =
      (lastResult retryOnInterrupt results).map receiveResult := receiveMessage_returned h results
  have hnot : ¬ (lastResult retryOnInterrupt results = some (.error .eintr) ∧
      retryOnInterrupt = false) := by
    rintro ⟨hlast, rfl⟩
    rw [lastResult_of_not_retry] at hlast
    exact hresults.2 ⟨rfl, hlast⟩
  refine ⟨?_, ?_, ?_, ?_, ?_⟩
  · intro dst
    rw [hreturned, Option.map_eq_some_iff]
    constructor
    · rintro ⟨result, hlast, hdst⟩
      rw [hlast, receiveResult_eq_message.mp hdst]
    · intro hlast
      exact ⟨_, hlast, rfl⟩
  · intro errno hlast herrno
    rw [hreturned, hlast]
    obtain rfl | ⟨rfl, hretry⟩ := herrno
    · rfl
    · exact absurd ⟨hlast, hretry⟩ hnot
  · intro e he
    rw [hreturned, Option.map_eq_some_iff] at he
    obtain ⟨result, hlast, herror⟩ := he
    obtain ⟨errno, rfl, hne⟩ := receiveResult_eq_error herror
    refine ⟨errno, hlast, hne, ?_⟩
    rintro ⟨rfl, hretry⟩
    exact hnot ⟨hlast, hretry⟩
  · intro hzero attempt hattempt
    have hpos : 0 < timeout := lt_of_le_of_ne hzero (Ne.symm hresults.1)
    rw [(mem_receiveMessage_attempts h results).mp hattempt, receiveAttempt, if_pos hpos,
      createTimestamp]
  · intro attempt hattempt hnone
    rw [(mem_receiveMessage_attempts h results).mp hattempt, receiveAttempt] at hnone
    have hlow := h.timeout
    have hzero := hresults.1
    by_contra hne
    rw [if_pos (by omega)] at hnone
    cases hnone

theorem receivable_of_receiveContract (h : queue.Takes timeout) {results : List (MqResult M)}
    (hcontract : ReceiveContract retryOnInterrupt timeout (clock 0)
      (lastResult retryOnInterrupt results)
      (queue.receiveMessage retryOnInterrupt timeout clock results)) :
    Receivable retryOnInterrupt timeout results := by
  constructor
  · rintro rfl
    have htimed := hcontract.timed le_rfl _ ((mem_receiveMessage_attempts h results).mpr rfl)
    cases htimed
  · rintro ⟨rfl, hhead⟩
    have hlast : lastResult false results = some (.error .eintr) := by
      rw [lastResult_of_not_retry, hhead]
    have hnothing := hcontract.nothing .eintr hlast (.inr ⟨rfl, rfl⟩)
    rw [receiveMessage_returned h, hlast] at hnothing
    cases hnothing

/-- A call of `ReceiveMessage` keeps its contract if and only if its timeout is not 0 and it is
not interrupted without a retry. -/
theorem receiveContract_iff (h : queue.Takes timeout) (clock : ℕ → ℤ)
    (results : List (MqResult M)) :
    ReceiveContract retryOnInterrupt timeout (clock 0) (lastResult retryOnInterrupt results)
        (queue.receiveMessage retryOnInterrupt timeout clock results) ↔
      Receivable retryOnInterrupt timeout results :=
  ⟨receivable_of_receiveContract h, receiveContract_of_receivable h⟩

/-- A message that is received after an interrupt. -/
theorem receivedOnRetry_contract : ReceiveContract true 2 10
    (lastResult true [.error .eintr, .success 'a'])
    (someQueue.receiveMessage true 2 (fun i => 10 + i) [.error .eintr, .success 'a']) :=
  (receiveContract_iff ⟨by decide, by decide⟩ (fun i => 10 + i) _).mpr ⟨by decide, by simp⟩

/-- With a timeout of 0 a receive has no deadline, where a send has one, and an interrupt that is
not to be retried is thrown, where a send returns false. -/
theorem zeroTimeout_and_interrupt_break :
    (someQueue.receiveMessage true 0 (fun i => 10 + i) [.success 'a']).attempts = [⟨none⟩] ∧
    (someQueue.sendMessage (fun _ => .ok false) true 0 (fun i => 10 + i)
      [.success ()]).attempts = [⟨some 10⟩] ∧
    (someQueue.receiveMessage false 2 (fun i => 10 + i)
      [(.error .eintr : MqResult Char)]).returned = some (.error ⟨"Couldn't recieve message!"⟩) ∧
    (someQueue.sendMessage (fun _ => .ok false) false 2 (fun i => 10 + i)
      [.error .eintr]).returned = some (.ok false) ∧
    ¬ ReceiveContract true 0 10 (lastResult true [.success 'a'])
      (someQueue.receiveMessage true 0 (fun i => 10 + i) [.success 'a']) ∧
    ¬ ReceiveContract false 2 10 (lastResult false [(.error .eintr : MqResult Char)])
      (someQueue.receiveMessage false 2 (fun i => 10 + i) [.error .eintr]) := by
  refine ⟨rfl, rfl, rfl, rfl, ?_, ?_⟩
  · intro h
    have := h.timed le_rfl ⟨none⟩ (List.mem_singleton_self _)
    cases this
  · intro h
    have := h.nothing .eintr rfl (.inr ⟨rfl, rfl⟩)
    cases this

end MessageQueue
end AmusementPark.Ipc
