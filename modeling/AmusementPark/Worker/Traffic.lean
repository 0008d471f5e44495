import AmusementPark.Worker.Mailbox
import AmusementPark.Library.PriorityQueue

/-! # What passes through a mailbox

Each step of a worker or of its clients sends one message, receives one, or
leaves the queue alone. The messages of a class that are all sent with one
priority are received in the order in which they were sent.
-/
namespace AmusementPark.Worker
open Library

/-- The message a client sends, with its priority. -/
def MailboxAction.sent {μ C : Type*} : MailboxAction μ C → Option (ℕ × μ)
  | .send _ priority msg => some (priority, msg)
  | .sendFails _ | .signal _ | .post => none

/-- The messages of a class that a step sends: one or none. -/
def sentOf {μ : Type*} (p : μ → Bool) (sent : Option (ℕ × μ)) : List μ :=
  (sent.toList.map Prod.snd).filter p

/-- The messages of a class that a step receives. -/
def receivedOf {μ : Type*} (p : μ → Bool) (received : Option μ) : List μ := received.toList.filter p

namespace Mailbox
variable {μ C : Type*} {m n : Mailbox μ C}

/-- The messages of a class in the queue. -/
def inQueue (p : μ → Bool) (m : Mailbox μ C) : List μ := PriorityQueue.ofClass p m.queue

/-- What a step that sends and receives the given messages does to the queue. -/
inductive Traffic (m n : Mailbox μ C) : Option (ℕ × μ) → Option μ → Prop where
  | sends (e : ℕ × μ) (h : n.queue = PriorityQueue.insert e m.queue) : Traffic m n (some e) none
  | receives (e : ℕ × μ) (h : m.queue = e :: n.queue) : Traffic m n none (some e.2)
  | keeps (h : n.queue = m.queue) : Traffic m n none none

theorem step_traffic [DecidableEq C] {a : MailboxAction μ C} (h : m.step a = some n) :
    m.Traffic n a.sent none := by
  cases a with
  | send c priority msg =>
    simp only [step, Option.ite_none_right_eq_some, Option.some.injEq] at h
    obtain ⟨-, rfl⟩ := h
    exact .sends (priority, msg) rfl
  | sendFails c =>
    simp only [step, Option.ite_none_right_eq_some, Option.some.injEq] at h
    obtain ⟨-, rfl⟩ := h
    exact .keeps rfl
  | signal c =>
    simp only [step, Option.ite_none_left_eq_some, Option.some.injEq] at h
    obtain ⟨-, rfl⟩ := h
    exact .keeps rfl
  | post =>
    obtain rfl := Option.some.inj h
    exact .keeps rfl

theorem take_traffic (h : m.take = some n) : m.Traffic n none none := by
  simp only [take, Option.ite_none_right_eq_some, Option.some.injEq] at h
  obtain ⟨-, rfl⟩ := h
  exact .keeps rfl

theorem receive_traffic {received : Option μ} (h : m.receive = (received, n)) :
    m.Traffic n none received := by
  unfold receive at h
  cases hqueue : m.queue with
  | nil =>
    rw [hqueue] at h
    obtain ⟨rfl, rfl⟩ := Prod.mk.inj h
    exact .keeps rfl
  | cons e queue =>
    rw [hqueue] at h
    obtain ⟨rfl, rfl⟩ := Prod.mk.inj h
    exact .receives e hqueue

/-- The passage of a class through the queue of the mailbox. -/
def Passage (p : μ → Bool) (k : ℕ) (sent received : List μ) (m : Mailbox μ C) : Prop :=
  PriorityQueue.Passage p k sent received m.queue

theorem Passage.order {p : μ → Bool} {k : ℕ} {sent received : List μ}
    (h : m.Passage p k sent received) : received ++ m.inQueue p = sent :=
  PriorityQueue.Passage.order h

theorem passage_empty (p : μ → Bool) (k tokens : ℕ) :
    (empty tokens : Mailbox μ C).Passage p k [] [] := PriorityQueue.passage_nil p k

theorem Passage.step {p : μ → Bool} {k : ℕ} {sent received : List μ}
    (hm : m.Passage p k sent received) {new : Option (ℕ × μ)} {got : Option μ}
    (ht : m.Traffic n new got) (hnew : ∀ e ∈ new, p e.2 = true → e.1 = k) :
    n.Passage p k (sent ++ sentOf p new) (received ++ receivedOf p got) := by
  cases ht with
  | sends e h =>
    have hinsert := PriorityQueue.Passage.insert hm (hnew e rfl)
    rw [← h] at hinsert
    simpa [Passage, sentOf, receivedOf] using hinsert
  | receives e h =>
    rw [Passage, h] at hm
    simpa [Passage, sentOf, receivedOf] using hm.tail
  | keeps h =>
    rw [Passage, ← h] at hm
    simpa [Passage, sentOf, receivedOf] using hm

end Mailbox

/-! ## Requests that wait for an answer -/

/-- What has been sent to a worker, what it has received, and the entry requests it has handled. -/
structure RequestHistory (μ : Type*) where
  sent : List μ
  received : List μ
  handled : List μ

namespace RequestHistory
variable {μ C : Type*} {r : RequestHistory μ} {isEntry : μ → Bool} {m n : Mailbox μ C}
  {waiting waiting' : List μ}

def empty : RequestHistory μ := ⟨[], [], []⟩

/-- After a step that sends, receives and handles the given messages. -/
def record (r : RequestHistory μ) (new : Option (ℕ × μ)) (got : Option μ) (handled : List μ) :
    RequestHistory μ where
  sent := r.sent ++ (new.toList.map Prod.snd)
  received := r.received ++ got.toList
  handled := r.handled ++ handled

/-- The messages are received as they were sent, and the entry requests handled as received. -/
structure InOrder (isEntry : μ → Bool) (m : Mailbox μ C) (waiting : List μ)
    (r : RequestHistory μ) : Prop where
  receiving : r.received ++ m.queue.map Prod.snd = r.sent
  handling : r.handled ++ waiting = r.received.filter isEntry

/-- The same with the state of the queue, which holds messages of priority 0 only. -/
structure Flow (isEntry : μ → Bool) (m : Mailbox μ C) (waiting : List μ) (r : RequestHistory μ) :
    Prop where
  passage : m.Passage (fun _ => true) 0 r.sent r.received
  handling : r.handled ++ waiting = r.received.filter isEntry

theorem Flow.inOrder (h : r.Flow isEntry m waiting) : r.InOrder isEntry m waiting := by
  refine ⟨?_, h.handling⟩
  have horder := h.passage.order
  simpa [Mailbox.inQueue, PriorityQueue.ofClass] using horder

theorem flow_empty (isEntry : μ → Bool) (tokens : ℕ) :
    (empty : RequestHistory μ).Flow isEntry (.empty tokens : Mailbox μ C) [] where
  passage := Mailbox.passage_empty (fun _ => true) 0 tokens
  handling := rfl

/-- A step that handles from the front of the waiting requests and puts a received one behind. -/
theorem Flow.step (hr : r.Flow isEntry m waiting) {new : Option (ℕ × μ)} {got : Option μ}
    {handled : List μ} (ht : m.Traffic n new got) (hnew : ∀ e ∈ new, e.1 = 0)
    (hwaiting : handled ++ waiting' = waiting ++ receivedOf isEntry got) :
    (r.record new got handled).Flow isEntry n waiting' := by
  constructor
  · have hpassage := hr.passage.step ht fun e he _ => hnew e he
    simpa [record, sentOf, receivedOf] using hpassage
  · rw [record, List.append_assoc, hwaiting, ← List.append_assoc, hr.handling, List.filter_append]
    rfl

end RequestHistory
end AmusementPark.Worker
