import Mathlib.Tactic

/-! # Formats that can be read back

A format prints a value and reads it from the front of a text. A value is read
back if the reader finds it in front of every text that may follow it. Formats
are put together from fixed texts, texts up to a stop sign, words of a class of
tokens, and sequences; a text of many values is read one after the other.
-/
namespace AmusementPark.Library
variable {τ α β : Type*}

/-- A printer with a reader, which returns what it leaves of its input. -/
structure Format (τ α : Type*) where
  print : α → List τ
  read : List τ → Option (α × List τ)

namespace Format

def ReadsBack (f : Format τ α) (follows : List τ → Prop) (a : α) : Prop :=
  ∀ rest, follows rest → f.read (f.print a ++ rest) = some (a, rest)

/-- Values that are printed alike and read back are equal. -/
theorem ReadsBack.eq {f : Format τ α} {follows : List τ → Prop} {a b : α}
    (ha : f.ReadsBack follows a) (hb : f.ReadsBack follows b) (hnil : follows [])
    (h : f.print a = f.print b) : a = b := by
  have hread := hb [] hnil
  rw [← h, ha [] hnil] at hread
  exact (Prod.mk.inj (Option.some.inj hread)).1

/-! ## Building blocks -/

section Tokens
variable [DecidableEq τ]

/-- A fixed text in front. -/
def before (text : List τ) (f : Format τ α) : Format τ α where
  print a := text ++ f.print a
  read input := if text <+: input then f.read (input.drop text.length) else none

theorem ReadsBack.before {f : Format τ α} {follows : List τ → Prop} {a : α}
    (h : f.ReadsBack follows a) (text : List τ) : (f.before text).ReadsBack follows a := by
  intro rest hrest
  have hprefix : text <+: text ++ (f.print a ++ rest) := List.prefix_append ..
  simp only [Format.before, List.append_assoc, if_pos hprefix, List.drop_left']
  exact h rest hrest

/-- A text with a stop sign behind it. -/
def upTo (stop : τ) : Format τ (List τ) where
  print text := text ++ [stop]
  read input := match input.dropWhile (· ≠ stop) with
    | [] => none
    | _ :: rest => some (input.takeWhile (· ≠ stop), rest)

theorem readsBack_upTo {stop : τ} {text : List τ} (h : stop ∉ text) (follows : List τ → Prop) :
    (upTo stop).ReadsBack follows text := by
  intro rest _
  have hne : ∀ t ∈ text, decide (t ≠ stop) = true := by
    intro t ht
    refine decide_eq_true ?_
    rintro rfl
    exact h ht
  have hdrop : (text ++ [stop] ++ rest).dropWhile (· ≠ stop) = stop :: rest := by
    rw [List.append_assoc, List.dropWhile_append_of_pos hne]
    simp
  have htake : (text ++ [stop] ++ rest).takeWhile (· ≠ stop) = text := by
    rw [List.append_assoc, List.takeWhile_append_of_pos hne]
    simp
  simp only [upTo, hdrop, htake]

end Tokens

/-- A word of the tokens in a class, as long as it goes on. -/
def word (inside : τ → Bool) (print : α → List τ) (value : List τ → Option α) : Format τ α where
  print := print
  read input := (value (input.takeWhile inside)).map fun a => (a, input.dropWhile inside)

theorem readsBack_word {inside : τ → Bool} {print : α → List τ} {value : List τ → Option α} {a : α}
    (hinside : ∀ t ∈ print a, inside t = true) (hvalue : value (print a) = some a) :
    (word inside print value).ReadsBack (fun rest => ∀ t ∈ rest.head?, inside t = false) a := by
  intro rest hrest
  have htake : rest.takeWhile inside = [] := by
    cases rest with
    | nil => rfl
    | cons t rest => rw [List.takeWhile_cons_of_neg (by simp [hrest t rfl])]
  have hdrop : rest.dropWhile inside = rest := by
    cases rest with
    | nil => rfl
    | cons t rest => rw [List.dropWhile_cons_of_neg (by simp [hrest t rfl])]
  simp only [word, List.takeWhile_append_of_pos hinside, List.dropWhile_append_of_pos hinside,
    htake, hdrop, List.append_nil, hvalue, Option.map_some]

/-- One format behind another. -/
def seq (f : Format τ α) (g : Format τ β) : Format τ (α × β) where
  print p := f.print p.1 ++ g.print p.2
  read input := (f.read input).bind fun (a, rest) =>
    (g.read rest).map fun (b, rest) => ((a, b), rest)

theorem ReadsBack.seq {f : Format τ α} {g : Format τ β} {follows followsBoth : List τ → Prop}
    {p : α × β} (hf : f.ReadsBack follows p.1) (hg : g.ReadsBack followsBoth p.2)
    (h : ∀ rest, followsBoth rest → follows (g.print p.2 ++ rest)) :
    (f.seq g).ReadsBack followsBoth p := by
  intro rest hrest
  simp only [Format.seq, List.append_assoc, hf _ (h rest hrest), Option.bind_some, hg rest hrest,
    Option.map_some]

/-- The same text for the values of another type. -/
def via (f : Format τ α) (ofValue : β → α) (toValue : α → β) : Format τ β where
  print b := f.print (ofValue b)
  read input := (f.read input).map fun (a, rest) => (toValue a, rest)

theorem ReadsBack.via {f : Format τ α} {ofValue : β → α} {toValue : α → β}
    {follows : List τ → Prop} {b : β} (h : f.ReadsBack follows (ofValue b))
    (hb : toValue (ofValue b) = b) : (f.via ofValue toValue).ReadsBack follows b := by
  intro rest hrest
  simp only [Format.via, h rest hrest, Option.map_some, hb]

/-! ## Many values -/

/-- Read one value after the other to the end of the text, at most the given number. -/
def readMany (f : Format τ α) : ℕ → List τ → Option (List α)
  | _, [] => some []
  | 0, _ :: _ => none
  | n + 1, t :: ts => (f.read (t :: ts)).bind fun (a, rest) => (f.readMany n rest).map (a :: ·)

/-- Read the whole text; every value is printed with at least one token. -/
def readAll (f : Format τ α) (input : List τ) : Option (List α) := f.readMany input.length input

theorem readMany_flatMap {f : Format τ α} {as : List α}
    (h : ∀ a ∈ as, f.ReadsBack (fun _ => True) a ∧ f.print a ≠ []) {n : ℕ} (hn : as.length ≤ n) :
    f.readMany n (as.flatMap f.print) = some as := by
  induction as generalizing n with
  | nil => cases n <;> rfl
  | cons a as ih =>
    obtain ⟨hread, hne⟩ := h a List.mem_cons_self
    obtain ⟨t, ts, hprint⟩ := List.exists_cons_of_ne_nil hne
    cases n with
    | zero => simp at hn
    | succ n =>
      have hrest := ih (fun b hb => h b (List.mem_cons_of_mem a hb)) (Nat.le_of_succ_le_succ hn)
      have hfirst := hread (as.flatMap f.print) trivial
      rw [List.flatMap_cons]
      rw [hprint] at hfirst ⊢
      simp only [List.cons_append] at hfirst ⊢
      simp only [readMany, hfirst, Option.bind_some, hrest, Option.map_some]

theorem length_le_flatMap {f : α → List τ} {as : List α} (h : ∀ a ∈ as, f a ≠ []) :
    as.length ≤ (as.flatMap f).length := by
  induction as with
  | nil => exact Nat.le_refl 0
  | cons a as ih =>
    have hrest := ih fun b hb => h b (List.mem_cons_of_mem a hb)
    have hfirst := List.length_pos_of_ne_nil (h a List.mem_cons_self)
    rw [List.flatMap_cons, List.length_append, List.length_cons]
    omega

theorem readAll_flatMap {f : Format τ α} {as : List α}
    (h : ∀ a ∈ as, f.ReadsBack (fun _ => True) a ∧ f.print a ≠ []) :
    f.readAll (as.flatMap f.print) = some as :=
  readMany_flatMap h (length_le_flatMap fun a ha => (h a ha).2)

end Format
end AmusementPark.Library
