import AmusementPark.Worker.Mailbox

/-! # What a worker's loop does with its token

A worker's hand is `none` once it has stopped, and otherwise tells whether it
holds a token. Every loop moves its token by the steps below, which are steps of
the wake-up counters.
-/
namespace AmusementPark.Worker
open Library

variable {μ C : Type*}

inductive TokenStep [DecidableEq C] :
    Option Bool → Mailbox μ C → Option Bool → Mailbox μ C → Prop where
  | outside {m n : Mailbox μ C} (hand : Option Bool) (a : MailboxAction μ C)
      (h : m.step a = some n) : TokenStep hand m hand n
  | take {m n : Mailbox μ C} (h : m.take = some n) : TokenStep (some false) m (some true) n
  | receive (token : Bool) (m : Mailbox μ C) :
      TokenStep (some token) m (some false) m.receive.2
  | discard (token : Bool) (m : Mailbox μ C) (h : m.queue = [] ∨ token = false) :
      TokenStep (some token) m (some false) m
  | keep (hand : Option Bool) (m : Mailbox μ C) : TokenStep hand m hand m
  | stop (hand : Option Bool) (m n : Mailbox μ C) : TokenStep hand m none n

/-- A registration takes no token; it may end the worker. -/
theorem TokenStep.emptyHanded [DecidableEq C] {hand : Option Bool} (m : Mailbox μ C)
    (h : hand ∈ [none, some false]) : TokenStep (some false) m hand m := by
  simp only [List.mem_cons, List.not_mem_nil, or_false] at h
  obtain rfl | rfl := h
  · exact .stop _ _ _
  · exact .keep _ _

namespace Mailbox
variable [Fintype C]

/-- The wake-up counters as long as the worker runs. -/
def wakeUps (m : Mailbox μ C) (hand : Option Bool) : Option WakeupCounter := hand.map m.counter

end Mailbox

theorem TokenStep.simulated [Fintype C] [DecidableEq C] {h k : Option Bool} {m n : Mailbox μ C}
    (hstep : TokenStep h m k n) {v : WakeupCounter} (hv : n.wakeUps k = some v) :
    ∃ u es, m.wakeUps h = some u ∧ WakeupCounter.machine.exec u es = some v := by
  obtain ⟨inHand, rfl, rfl⟩ := Option.map_eq_some_iff.mp hv
  cases hstep with
  | outside _ a ha =>
    obtain ⟨es, hes⟩ := Mailbox.step_counter ha inHand
    exact ⟨_, es, rfl, hes⟩
  | take ht => exact ⟨_, _, rfl, Mailbox.take_counter ht⟩
  | receive token => exact ⟨_, _, rfl, Mailbox.receive_counter m token⟩
  | discard token _ hempty => exact ⟨_, _, rfl, Mailbox.discard_counter m token hempty⟩
  | keep => exact ⟨_, [], rfl, rfl⟩

/-- A machine whose steps are token steps strands no message while it holds no token. -/
theorem noneStranded_of_tokenStep [Fintype C] [DecidableEq C] {σ α : Type*} {M : Machine σ α}
    {hand : σ → Option Bool} {mailbox : σ → Mailbox μ C} {K : σ → α → Prop}
    (hstep : ∀ s a t, K s a → M.step s a = some t →
      TokenStep (hand s) (mailbox s) (hand t) (mailbox t))
    {s : σ} {as : List α} (hs : (mailbox s).queue = []) (hK : M.Meets K s as) :
    M.Always (fun t => hand t = some false → (mailbox t).NoneStranded) s as := by
  have hsim : M.Simulates WakeupCounter.machine (fun t => (mailbox t).wakeUps (hand t)) K :=
    fun s a t v ha h hv => (hstep s a t ha h).simulated hv
  refine hsim.always (J := WakeupCounter.Covered) (fun _ _ _ hw h => hw.step h) ?_ ?_ hK
  · intro t ht hhand
    exact Mailbox.covered_counter.mp (ht _ (by rw [hhand]; rfl))
  · intro u hu
    obtain ⟨inHand, -, rfl⟩ := Option.map_eq_some_iff.mp hu
    simp [WakeupCounter.Covered, Mailbox.counter, hs]

end AmusementPark.Worker
