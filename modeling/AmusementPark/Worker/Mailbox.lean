import AmusementPark.Messages
import AmusementPark.Library.Population
import AmusementPark.Library.WakeupCounter
import Mathlib.Data.List.Sort

/-! # A worker's message queue with its event semaphore

Any number of clients put requests on the queue of a worker and signal its
event semaphore afterwards. A leaving client signals after a failed send as
well, and the manager may signal at any time. The worker takes tokens with
`Wait` and messages with `ReceiveMessage`.
-/
namespace AmusementPark.Worker
open Library

/-- A client between its `SendMessage` and its `Signal`. -/
inductive SenderPhase where
  | idle
  | sent
  | sendFailed
deriving DecidableEq

/-- The message queue (with priorities), the event semaphore and the clients. -/
structure Mailbox (μ C : Type*) where
  queue : List (ℕ × μ)
  eventSemaphore : ℕ
  senders : C → SenderPhase

inductive MailboxAction (μ C : Type*) where
  | send (client : C) (priority : ℕ) (msg : μ)
  | sendFails (client : C)
  | signal (client : C)
  | post

namespace Mailbox
variable {μ C : Type*}

/-- `mq_send`: behind every message of at least the same priority. -/
def enqueue (priority : ℕ) (msg : μ) (queue : List (ℕ × μ)) : List (ℕ × μ) :=
  queue.orderedInsert (fun a b => b.1 < a.1) (priority, msg)

theorem enqueue_length (priority : ℕ) (msg : μ) (queue : List (ℕ × μ)) :
    (enqueue priority msg queue).length = queue.length + 1 :=
  List.orderedInsert_length _ _ _

def empty (tokens : ℕ) : Mailbox μ C := ⟨[], tokens, fun _ => .idle⟩

/-- One step of the clients and the manager. A full queue blocks a sender. -/
def step [DecidableEq C] (m : Mailbox μ C) : MailboxAction μ C → Option (Mailbox μ C)
  | .send c priority msg =>
    if m.senders c = .idle ∧ m.queue.length < defaultMaxMsqSize then
      some { m with queue := enqueue priority msg m.queue
                    senders := Function.update m.senders c .sent }
    else none
  | .sendFails c => if m.senders c = .idle then
      some { m with senders := Function.update m.senders c .sendFailed } else none
  | .signal c => if m.senders c = .idle then none else
      some { m with eventSemaphore := m.eventSemaphore + 1
                    senders := Function.update m.senders c .idle }
  | .post => some { m with eventSemaphore := m.eventSemaphore + 1 }

/-- `Wait(1)` that gets its token. -/
def take (m : Mailbox μ C) : Option (Mailbox μ C) :=
  if 0 < m.eventSemaphore then some { m with eventSemaphore := m.eventSemaphore - 1 } else none

/-- `ReceiveMessage`: the first message, or none from an empty queue once the timeout is over. -/
def receive (m : Mailbox μ C) : Option μ × Mailbox μ C :=
  match m.queue with
  | [] => (none, m)
  | e :: queue => (some e.2, { m with queue := queue })

section Counting
variable [Fintype C]

/-- Clients that have sent but not yet signalled. -/
def unsignalled (m : Mailbox μ C) : ℕ := population (· = SenderPhase.sent) m.senders

/-- Every queued message has a token that is posted or still to be posted by its sender. -/
def NoneStranded (m : Mailbox μ C) : Prop := m.queue.length ≤ m.eventSemaphore + m.unsignalled

/-- The wake-up counters of the mailbox, with the token the worker holds. -/
def counter (m : Mailbox μ C) (inHand : Bool) : WakeupCounter :=
  ⟨m.queue.length, m.eventSemaphore, m.unsignalled, inHand⟩

theorem covered_counter {m : Mailbox μ C} : (m.counter false).Covered ↔ m.NoneStranded := Iff.rfl

theorem step_counter [DecidableEq C] {m n : Mailbox μ C} {a : MailboxAction μ C}
    (h : m.step a = some n) (inHand : Bool) :
    ∃ es, WakeupCounter.machine.exec (m.counter inHand) es = some (n.counter inHand) := by
  have hsent : share (· = SenderPhase.sent) .sent = 1 := rfl
  have hidle : share (· = SenderPhase.sent) .idle = 0 := rfl
  have hfailed : share (· = SenderPhase.sent) .sendFailed = 0 := rfl
  cases a with
  | send c priority msg =>
    simp only [step, Option.ite_none_right_eq_some, Option.some.injEq] at h
    obtain ⟨⟨hc, -⟩, rfl⟩ := h
    have hpop := population_update (· = SenderPhase.sent) m.senders c .sent
    rw [hc, hidle, hsent] at hpop
    refine ⟨[.send], ?_⟩
    simp only [Machine.exec, WakeupCounter.machine, WakeupCounter.step, counter, unsignalled,
      Option.bind_some, enqueue_length, Option.some.injEq, WakeupCounter.mk.injEq,
      true_and, and_true]
    omega
  | sendFails c =>
    simp only [step, Option.ite_none_right_eq_some, Option.some.injEq] at h
    obtain ⟨hc, rfl⟩ := h
    have hpop := population_update (· = SenderPhase.sent) m.senders c .sendFailed
    rw [hc, hidle, hfailed] at hpop
    refine ⟨[], ?_⟩
    simp only [Machine.exec, counter, unsignalled, Option.some.injEq, WakeupCounter.mk.injEq,
      true_and, and_true]
    omega
  | signal c =>
    simp only [step, Option.ite_none_left_eq_some, Option.some.injEq] at h
    obtain ⟨hc, rfl⟩ := h
    have hpop := population_update (· = SenderPhase.sent) m.senders c .idle
    rw [hidle] at hpop
    cases hp : m.senders c with
    | idle => exact absurd hp hc
    | sent =>
      rw [hp, hsent] at hpop
      refine ⟨[.signal], ?_⟩
      simp only [Machine.exec, WakeupCounter.machine, WakeupCounter.step, counter, unsignalled]
      rw [if_pos (by omega)]
      simp only [Option.bind_some, Option.some.injEq, WakeupCounter.mk.injEq,
        true_and, and_true]
      omega
    | sendFailed =>
      rw [hp, hfailed] at hpop
      refine ⟨[.post], ?_⟩
      simp only [Machine.exec, WakeupCounter.machine, WakeupCounter.step, counter, unsignalled,
        Option.bind_some, Option.some.injEq, WakeupCounter.mk.injEq,
        true_and, and_true]
      omega
  | post =>
    obtain rfl := Option.some.inj h
    exact ⟨[.post], rfl⟩

theorem take_counter {m n : Mailbox μ C} (h : m.take = some n) :
    WakeupCounter.machine.exec (m.counter false) [.take] = some (n.counter true) := by
  simp only [take, Option.ite_none_right_eq_some, Option.some.injEq] at h
  obtain ⟨hpos, rfl⟩ := h
  simp [Machine.exec, WakeupCounter.machine, WakeupCounter.step, counter, unsignalled, hpos]

theorem receive_counter (m : Mailbox μ C) (inHand : Bool) :
    WakeupCounter.machine.exec (m.counter inHand) [.receive] =
      some (m.receive.2.counter false) := by
  cases hq : m.queue with
  | nil => simp [Machine.exec, WakeupCounter.machine, WakeupCounter.step, receive, counter,
      unsignalled, hq]
  | cons e queue => simp [Machine.exec, WakeupCounter.machine, WakeupCounter.step, receive,
      counter, unsignalled, hq]

/-- A token may be thrown away while the queue is empty. -/
theorem discard_counter (m : Mailbox μ C) (inHand : Bool) (h : m.queue = [] ∨ inHand = false) :
    WakeupCounter.machine.exec (m.counter inHand) [.discard] = some (m.counter false) := by
  simp [Machine.exec, WakeupCounter.machine, WakeupCounter.step, counter, h]

end Counting
end Mailbox
end AmusementPark.Worker
