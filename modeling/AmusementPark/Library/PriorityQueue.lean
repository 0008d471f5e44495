import Mathlib.Data.List.Sort
import Mathlib.Tactic

/-! # Queues with priorities

A message goes behind every message of at least its own priority, and the first
one is taken. Messages of one class that all have the same priority keep their
order, whatever else is in the queue.
-/
namespace AmusementPark.Library.PriorityQueue
variable {μ : Type*}

/-- The priorities fall along the queue. -/
def Ordered (queue : List (ℕ × μ)) : Prop := queue.Pairwise fun a b => b.1 ≤ a.1

/-- The queue with a message put behind those of at least its priority. -/
def insert (e : ℕ × μ) (queue : List (ℕ × μ)) : List (ℕ × μ) :=
  queue.orderedInsert (fun a b => b.1 < a.1) e

/-- The messages of a class, the one that is received first at the front. -/
def ofClass (p : μ → Bool) (queue : List (ℕ × μ)) : List μ := (queue.map Prod.snd).filter p

@[simp] theorem ofClass_nil (p : μ → Bool) : ofClass p ([] : List (ℕ × μ)) = [] := rfl

theorem ofClass_cons (p : μ → Bool) (e : ℕ × μ) (queue : List (ℕ × μ)) :
    ofClass p (e :: queue) = (if p e.2 then [e.2] else []) ++ ofClass p queue := by
  simp only [ofClass, List.map_cons, List.filter_cons]
  split <;> rfl

theorem insert_cons (e f : ℕ × μ) (queue : List (ℕ × μ)) :
    insert e (f :: queue) = if f.1 < e.1 then e :: f :: queue else f :: insert e queue := by
  rw [insert, List.orderedInsert_cons]
  rfl

theorem mem_insert {e f : ℕ × μ} {queue : List (ℕ × μ)} :
    f ∈ insert e queue ↔ f = e ∨ f ∈ queue := List.mem_orderedInsert _

theorem Ordered.insert {queue : List (ℕ × μ)} (h : Ordered queue) (e : ℕ × μ) :
    Ordered (insert e queue) := by
  induction queue with
  | nil => exact List.pairwise_singleton _ _
  | cons f queue ih =>
    obtain ⟨hf, hqueue⟩ := List.pairwise_cons.mp h
    rw [insert_cons]
    split
    · next hlt =>
      apply List.pairwise_cons.mpr
      refine ⟨?_, h⟩
      intro g hg
      obtain rfl | hg := List.mem_cons.mp hg
      · exact hlt.le
      · exact (hf g hg).trans hlt.le
    · next hle =>
      apply List.pairwise_cons.mpr
      refine ⟨?_, ih hqueue⟩
      intro g hg
      obtain rfl | hg := mem_insert.mp hg
      · exact not_lt.mp hle
      · exact hf g hg

/-- A message of another class leaves the class alone. -/
theorem ofClass_insert_of_not {p : μ → Bool} {e : ℕ × μ} (he : p e.2 = false)
    (queue : List (ℕ × μ)) : ofClass p (insert e queue) = ofClass p queue := by
  induction queue with
  | nil => simp [insert, ofClass, he]
  | cons f queue ih =>
    rw [insert_cons]
    split
    · rw [ofClass_cons, he]
      rfl
    · rw [ofClass_cons, ih, ← ofClass_cons]

/-- A message of the class goes behind those that are there, if all have its priority. -/
theorem ofClass_insert {p : μ → Bool} {k : ℕ} {queue : List (ℕ × μ)} (hordered : Ordered queue)
    (hclass : ∀ f ∈ queue, p f.2 = true → f.1 = k) {msg : μ} (hmsg : p msg = true) :
    ofClass p (insert (k, msg) queue) = ofClass p queue ++ [msg] := by
  induction queue with
  | nil => simp [insert, ofClass, hmsg]
  | cons f queue ih =>
    obtain ⟨hf, hqueue⟩ := List.pairwise_cons.mp hordered
    rw [insert_cons]
    split
    · next hlt =>
      -- everything from here on has a lower priority, so nothing of the class is left
      have hnone : ofClass p (f :: queue) = [] := by
        apply List.filter_eq_nil_iff.mpr
        intro m hm hp
        obtain ⟨g, hg, rfl⟩ := List.mem_map.mp hm
        have hk := hclass g hg hp
        dsimp only at hlt
        obtain rfl | hg := List.mem_cons.mp hg
        · omega
        · have := hf g hg
          omega
      rw [ofClass_cons, hnone, hmsg]
      rfl
    · rw [ofClass_cons, ofClass_cons,
        ih hqueue fun g hg hp => hclass g (List.mem_cons_of_mem f hg) hp, List.append_assoc]

/-- The message that is received has at least the priority of all that stay. -/
theorem Ordered.le_head {e : ℕ × μ} {queue : List (ℕ × μ)} (h : Ordered (e :: queue))
    {f : ℕ × μ} (hf : f ∈ queue) : f.1 ≤ e.1 := (List.pairwise_cons.mp h).1 f hf

theorem Ordered.tail {e : ℕ × μ} {queue : List (ℕ × μ)} (h : Ordered (e :: queue)) :
    Ordered queue := (List.pairwise_cons.mp h).2

/-! ## The passage of a class -/

/-- What has been taken of a class, followed by what is in the queue, is what has been put in;
all of it has the priority `k`. -/
structure Passage (p : μ → Bool) (k : ℕ) (sent taken : List μ) (queue : List (ℕ × μ)) : Prop where
  ordered : Ordered queue
  priority : ∀ e ∈ queue, p e.2 = true → e.1 = k
  order : taken ++ ofClass p queue = sent

variable {p : μ → Bool} {k : ℕ} {sent taken : List μ} {queue : List (ℕ × μ)}

theorem passage_nil (p : μ → Bool) (k : ℕ) : Passage p k [] [] ([] : List (ℕ × μ)) where
  ordered := List.Pairwise.nil
  priority _ he := absurd he List.not_mem_nil
  order := rfl

theorem Passage.insert (h : Passage p k sent taken queue) {e : ℕ × μ}
    (he : p e.2 = true → e.1 = k) :
    Passage p k (sent ++ [e.2].filter p) taken (insert e queue) := by
  obtain ⟨hordered, hpriority, rfl⟩ := h
  refine ⟨hordered.insert e, ?_, ?_⟩
  · intro f hf hp
    obtain rfl | hf := mem_insert.mp hf
    · exact he hp
    · exact hpriority f hf hp
  · obtain ⟨priority, msg⟩ := e
    cases hp : p msg with
    | true =>
      obtain rfl := he hp
      rw [ofClass_insert hordered hpriority hp]
      simp [hp]
    | false =>
      rw [ofClass_insert_of_not hp]
      simp [hp]

theorem Passage.tail {e : ℕ × μ} (h : Passage p k sent taken (e :: queue)) :
    Passage p k sent (taken ++ [e.2].filter p) queue := by
  obtain ⟨hordered, hpriority, rfl⟩ := h
  refine ⟨hordered.tail, ?_, ?_⟩
  · intro f hf hp
    exact hpriority f (List.mem_cons_of_mem e hf) hp
  · rw [ofClass_cons, List.append_assoc]
    simp [List.filter_cons]

end AmusementPark.Library.PriorityQueue
