import AmusementPark.Ipc.QueueOwnership
import AmusementPark.Logger.LogFormat

/-! # The names of the message queues

The processes meet at their queues by name. The functions `Get...MQ` put the
name together from a process identifier and the purpose of the queue, and both
can be read off the name. So a process that opens a queue finds the one that
was created by the process it means, for the purpose it means.
-/
namespace AmusementPark.Ipc
open Library Logger

/-- What a queue is for: one case for each function `Get...MQ`. -/
inductive QueuePurpose where
  | register
  | logger
  | attraction
  | restaurant
  | clientPark
  | clientAttraction (attractionID : ℤ)
  | clientRestaurant
deriving DecidableEq

structure QueueAddress where
  pid : Pid
  purpose : QueuePurpose
deriving DecidableEq

/-- What the functions append to the process identifier. -/
def QueuePurpose.suffix : QueuePurpose → Bytes
  | .register => ascii "-register"
  | .logger => ascii "-logger"
  | .attraction => ascii "-attraction"
  | .restaurant => ascii "-restaurant"
  | .clientPark => ascii "-client-park"
  | .clientAttraction attractionID => ascii "-client-attraction-" ++ decimal attractionID
  | .clientRestaurant => ascii "-client-restaurant"

/-- `m_msqName`, as `OpenMessageQueue` makes it of the name in its parameters. -/
def QueueAddress.msqName (a : QueueAddress) : Bytes :=
  ascii parkQueueID ++ (decimal a.pid ++ a.purpose.suffix)

/-! ## Reading a name -/

/-- The purposes with a fixed suffix. -/
def fixedPurposes : List QueuePurpose :=
  [.register, .logger, .attraction, .restaurant, .clientPark, .clientRestaurant]

/-- A suffix, up to the end of the name. -/
def purposeFormat : Format UInt8 QueuePurpose where
  print := QueuePurpose.suffix
  read input := match fixedPurposes.find? (fun p => p.suffix = input) with
    | some p => some (p, [])
    | none => ((number.before (ascii "-client-attraction-")).read input).map
        fun (attractionID, rest) => (.clientAttraction attractionID, rest)

def nameFormat : Format UInt8 QueueAddress :=
  ((number.seq purposeFormat).before (ascii parkQueueID)).via (fun a => (a.pid, a.purpose))
    fun p => ⟨p.1, p.2⟩

theorem readsBack_purpose (p : QueuePurpose) : purposeFormat.ReadsBack (· = []) p := by
  rintro _ rfl
  rw [List.append_nil]
  cases p with
  | clientAttraction attractionID =>
    have hnone : fixedPurposes.find?
        (fun p => p.suffix = (QueuePurpose.clientAttraction attractionID).suffix) = none := by
      simp [fixedPurposes, QueuePurpose.suffix, ascii]
    have hread := (readsBack_number attractionID).before (ascii "-client-attraction-") []
      (by rintro b ⟨⟩)
    rw [List.append_nil] at hread
    simp only [purposeFormat, hnone]
    exact congrArg (Option.map fun p : ℤ × Bytes => (QueuePurpose.clientAttraction p.1, p.2)) hread
  | register | logger | attraction | restaurant | clientPark | clientRestaurant => rfl

/-- Every suffix begins with a dash, so it ends the number in front of it. -/
theorem endsNumber_suffix (p : QueuePurpose) : EndsNumber (p.suffix ++ []) := by
  have hhead : (p.suffix ++ []).head? = some 45 := by cases p <;> rfl
  intro b hb
  rw [hhead] at hb
  obtain rfl := Option.some.inj hb
  decide

/-- The process and the purpose can be read off the name. -/
theorem readsBack_msqName (a : QueueAddress) : nameFormat.ReadsBack (· = []) a := by
  refine Format.ReadsBack.via ?_ rfl
  refine Format.ReadsBack.before ?_ _
  refine Format.ReadsBack.seq (readsBack_number a.pid) (readsBack_purpose a.purpose) ?_
  rintro _ rfl
  exact endsNumber_suffix a.purpose

theorem msqName_injective : Function.Injective QueueAddress.msqName := by
  intro a b h
  exact (readsBack_msqName a).eq (readsBack_msqName b) rfl h

/-! ## What a name looks like -/

/-- A slash at the front and no other, as `mq_open` asks for. -/
def WellFormedName (name : Bytes) : Prop := ∃ rest, name = 47 :: rest ∧ 47 ∉ rest

theorem slash_notMem_decimal (n : ℤ) : 47 ∉ decimal n := by
  have hdigits : 47 ∉ digits.print n.natAbs := by
    intro h
    exact absurd (isDigit_of_mem_digits h) (by decide)
  by_cases hn : n < 0
  · rw [decimal_of_neg hn]
    simpa using hdigits
  · rw [decimal_of_nonneg hn]
    exact hdigits

theorem wellFormed_msqName (a : QueueAddress) : WellFormedName a.msqName := by
  refine ⟨ascii "park-" ++ (decimal a.pid ++ a.purpose.suffix), rfl, ?_⟩
  have hsuffix : 47 ∉ a.purpose.suffix := by
    cases a.purpose with
    | clientAttraction attractionID =>
      simp only [QueuePurpose.suffix, List.mem_append, not_or]
      exact ⟨by decide, slash_notMem_decimal attractionID⟩
    | register | logger | attraction | restaurant | clientPark | clientRestaurant => decide
  simp only [List.mem_append, not_or]
  exact ⟨by decide, slash_notMem_decimal a.pid, hsuffix⟩

/-! ## The queues of the kernel -/

/-- The existing queues by name, each with the process and the purpose it was created for. -/
structure QueueDirectory where
  queues : Bytes → Option QueueAddress

/-- `mq_open` with and without `O_CREAT | O_EXCL`, and `mq_unlink`. -/
inductive DirectoryAction where
  | create (a : QueueAddress)
  | attach (a : QueueAddress)
  | unlink (a : QueueAddress)

/-- The queues that were opened and those that stood in the way of a new one, each beside the one
that was meant. -/
structure DirectoryHistory where
  opened : List (QueueAddress × QueueAddress)
  existing : List (QueueAddress × QueueAddress)

namespace QueueDirectory

def empty : QueueDirectory := ⟨fun _ => none⟩

def set (s : QueueDirectory) (name : Bytes) (a : Option QueueAddress) : QueueDirectory :=
  ⟨Function.update s.queues name a⟩

def step (s : QueueDirectory) : DirectoryAction → Option QueueDirectory
  | .create a => match s.queues a.msqName with
    | none => some (s.set a.msqName (some a))
    | some _ => some s
  | .attach _ => some s
  | .unlink a => some (s.set a.msqName none)

def record (h : DirectoryHistory) (s : QueueDirectory) (a : DirectoryAction)
    (_ : QueueDirectory) : DirectoryHistory :=
  match a with
  | .create a => match s.queues a.msqName with
    | none => { h with opened := (a, a) :: h.opened }
    | some b => { h with existing := (a, b) :: h.existing }
  | .attach a => match s.queues a.msqName with
    | none => h
    | some b => { h with opened := (a, b) :: h.opened }
  | .unlink _ => h

def machine : Machine (QueueDirectory × DirectoryHistory) DirectoryAction :=
  (⟨step⟩ : Machine QueueDirectory DirectoryAction).observe record

/-- Whoever opens a queue has the one it means, an attempt to create a queue fails only because of
an old one of the same process and purpose, and all names are well formed. -/
structure ReachesAddressed (x : QueueDirectory × DirectoryHistory) : Prop where
  opened : ∀ p ∈ x.2.opened, p.1 = p.2
  existing : ∀ p ∈ x.2.existing, p.1 = p.2
  wellFormed : ∀ name, x.1.queues name ≠ none → WellFormedName name

/-- Every queue stands under the name of its process and purpose. -/
structure Addressed (x : QueueDirectory × DirectoryHistory) : Prop where
  named : ∀ name a, x.1.queues name = some a → a.msqName = name
  opened : ∀ p ∈ x.2.opened, p.1 = p.2
  existing : ∀ p ∈ x.2.existing, p.1 = p.2

variable {s t : QueueDirectory} {h k : DirectoryHistory} {a b : QueueAddress}

theorem addressed_empty : Addressed (empty, ⟨[], []⟩) where
  named _ _ h := by cases h
  opened _ h := by cases h
  existing _ h := by cases h

theorem Addressed.found (hx : Addressed (s, h)) (hfound : s.queues a.msqName = some b) : a = b :=
  (msqName_injective (hx.named a.msqName b hfound)).symm

theorem Addressed.reaches {x : QueueDirectory × DirectoryHistory} (hx : Addressed x) :
    ReachesAddressed x where
  opened := hx.opened
  existing := hx.existing
  wellFormed name hname := by
    obtain ⟨a, ha⟩ := Option.ne_none_iff_exists'.mp hname
    rw [← hx.named name a ha]
    exact wellFormed_msqName a

theorem Addressed.set (hx : Addressed (s, h)) {c : Option QueueAddress} (hc : ∀ b ∈ c, b = a) :
    ∀ name b, (s.set a.msqName c).queues name = some b → b.msqName = name := by
  intro name b hb
  by_cases hname : name = a.msqName
  · subst hname
    simp only [QueueDirectory.set, Function.update_self] at hb
    rw [hc b hb]
  · dsimp only [QueueDirectory.set] at hb
    rw [Function.update_of_ne hname] at hb
    exact hx.named name b hb

theorem Addressed.step {x y : QueueDirectory × DirectoryHistory} {action : DirectoryAction}
    (hx : Addressed x) (hy : machine.step x action = some y) : Addressed y := by
  obtain ⟨s, h⟩ := x
  obtain ⟨t, k⟩ := y
  obtain ⟨hstep, hrecord⟩ := Machine.observe_step.mp hy
  dsimp only at hstep hrecord
  subst hrecord
  cases action with
  | create a =>
    simp only [QueueDirectory.step, record] at hstep ⊢
    cases hfound : s.queues a.msqName with
    | none =>
      rw [hfound] at hstep
      obtain rfl := Option.some.inj hstep
      refine ⟨hx.set fun b hb => (Option.some.inj hb).symm, ?_, hx.existing⟩
      exact List.forall_mem_cons.mpr ⟨rfl, hx.opened⟩
    | some b =>
      rw [hfound] at hstep
      obtain rfl := Option.some.inj hstep
      exact ⟨hx.named, hx.opened, List.forall_mem_cons.mpr ⟨hx.found hfound, hx.existing⟩⟩
  | attach a =>
    obtain rfl := Option.some.inj hstep
    simp only [record]
    cases hfound : s.queues a.msqName with
    | none => exact hx
    | some b =>
      exact ⟨hx.named, List.forall_mem_cons.mpr ⟨hx.found hfound, hx.opened⟩, hx.existing⟩
  | unlink a =>
    obtain rfl := Option.some.inj hstep
    exact ⟨hx.set (by rintro b ⟨⟩), hx.opened, hx.existing⟩

/-- In every order in which any processes create, open and unlink queues, whoever opens a queue
reaches the one that the process it means has created for the purpose it means. -/
theorem reachesAddressed_always (as : List DirectoryAction) :
    machine.Always ReachesAddressed (empty, ⟨[], []⟩) as :=
  Machine.always_of_invariant (fun _ (h : Addressed _) => h.reaches) (fun _ _ _ h hy => h.step hy)
    as addressed_empty

end QueueDirectory
end AmusementPark.Ipc
