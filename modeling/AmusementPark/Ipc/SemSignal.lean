import AmusementPark.Ipc.SemaphoreLock

/-! # Interrupted semaphore operations

`SemaphoreArray::SemSignal` with its timeout, its retries, the answers of the
kernel and the readings of the clock. The value -1 stands for no timeout, but it
goes into the deadline like any other: the deadline lies before the first
reading, and the first interrupt ends a call that was to be retried.
-/
namespace AmusementPark.Ipc

/-- What `semop` and `semtimedop` return: 0, or -1 with a value of `errno`. -/
inductive KernelResult where
  | success
  | eintr
  | eagain
  | other
deriving DecidableEq

/-- A call of `semop`, or of `semtimedop` with its `tv_sec`, and its result. -/
structure SemCall where
  semOp : ℤ
  undo : Bool
  tvSec : Option ℤ
  result : KernelResult
deriving DecidableEq

/-- The calls of one `SemSignal`, what it has returned, and the clock when it last looked.
Nothing is returned while the last call is still in the kernel. -/
structure SemSignalRun where
  calls : List SemCall
  returned : Option Bool
  now : ℤ
deriving DecidableEq

/-- `m_semData` and the number of `m_semaphores`. -/
structure SemaphoreArray where
  key : ℤ
  id : ℤ
  size : ℕ

def SemaphoreArray.isEmpty (array : SemaphoreArray) : Bool := decide (array.key < 0 ∧ array.id < 0)

/-- The arguments of `SemSignal`. -/
structure SemRequest where
  semID : ℤ
  value : ℤ
  retryOnInterrupt : Bool
  semundo : Bool
  timeout : ℤ

namespace SemRequest

/-- The request that `SemaphoreStruct::Wait` passes on. -/
def wait (semID : ℤ) (value : ℕ) (retryOnInterrupt semundo : Bool) (timeout : ℤ) : SemRequest :=
  ⟨semID, toInt16 (-toInt16 value), retryOnInterrupt, semundo, timeout⟩

/-- The request of the constructor of `SemaphoreLock`. -/
def lock (semID : ℤ) : SemRequest := wait semID 1 true true (-1)

def call (r : SemRequest) (tvSec : ℤ) (result : KernelResult) : SemCall :=
  ⟨r.value, r.semundo, if r.timeout = -1 then none else some tvSec, result⟩

/-- The loop of `SemSignal`, with `i` readings of the clock behind it. -/
def loop (r : SemRequest) (endTime : ℤ) (clock : ℕ → ℤ) :
    ℕ → ℤ → List KernelResult → SemSignalRun
  | i, _, [] => ⟨[], none, clock (i - 1)⟩
  | i, tvSec, result :: rest =>
    if result = .success then ⟨[r.call tvSec result], some true, clock (i - 1)⟩
    else if endTime < clock i then ⟨[r.call tvSec result], some false, clock i⟩
    else if result = .eintr ∧ r.retryOnInterrupt = true then
      let run := loop r endTime clock (i + 2) (endTime - clock (i + 1)) rest
      { run with calls := r.call tvSec result :: run.calls }
    else ⟨[r.call tvSec result], some false, clock (i + 1)⟩

/-- The tests at the head of `SemSignal` let the request pass. -/
structure Valid (array : SemaphoreArray) (r : SemRequest) : Prop where
  attached : array.isEmpty = false
  semID : 0 ≤ r.semID ∧ r.semID < array.size
  timeout : -1 ≤ r.timeout

/-- `SemaphoreArray::SemSignal`. The first two readings of the clock are those of `endTime` and of
the first `tmspc`. -/
def semSignal (array : SemaphoreArray) (r : SemRequest) (clock : ℕ → ℤ)
    (results : List KernelResult) : SemSignalRun :=
  if array.isEmpty = true ∨ r.semID < 0 ∨ array.size ≤ r.semID ∨ r.timeout < -1 then
    ⟨[], some false, clock 0⟩
  else
    let endTime := clock 0 + r.timeout
    r.loop endTime clock 2 (endTime - clock 1) results

/-- The moment up to which a request made at `start` may wait; without a timeout there is none. -/
def deadline (r : SemRequest) (start : ℤ) : Option ℤ :=
  if r.timeout = -1 then none else some (start + r.timeout)

end SemRequest

namespace SemSignalRun

/-- A call of this run has decremented the semaphore by one, with undo. -/
def Decremented (run : SemSignalRun) : Prop :=
  ∃ call ∈ run.calls, call.result = .success ∧ call.semOp = -1 ∧ call.undo = true

/-- The contract of `SemSignal` for a request made when the clock showed `start`. -/
structure RetryContract (r : SemRequest) (start : ℤ) (run : SemSignalRun) : Prop where
  returnsTrue : run.returned = some true ↔ ∃ call ∈ run.calls, call.result = .success
  stops : ∀ before call after, run.calls = before ++ call :: after →
    call.result = .success → after = []
  retries : r.retryOnInterrupt = true → run.returned = some false →
    ∀ call ∈ run.calls.getLast?, call.result = .eintr → ∃ d ∈ r.deadline start, d ≤ run.now

end SemSignalRun

namespace SemRequest
variable {r : SemRequest} {clock : ℕ → ℤ}

@[simp] theorem call_result (r : SemRequest) (tvSec : ℤ) (result : KernelResult) :
    (r.call tvSec result).result = result := rfl

theorem semSignal_of_valid {array : SemaphoreArray} (h : r.Valid array) (clock : ℕ → ℤ)
    (results : List KernelResult) : r.semSignal array clock results =
      r.loop (clock 0 + r.timeout) clock 2 (clock 0 + r.timeout - clock 1) results := by
  have harray := h.attached
  have hsemID := h.semID
  have htimeout := h.timeout
  rw [semSignal, if_neg]
  simp only [harray, Bool.false_eq_true, false_or]
  omega

/-! ## The loop -/

/-- Past the deadline the first failure ends the loop, whatever it is. -/
theorem loop_expired {endTime : ℤ} {i : ℕ} (htime : endTime < clock i) (tvSec : ℤ)
    {result : KernelResult} (hresult : result ≠ .success) (rest : List KernelResult) :
    r.loop endTime clock i tvSec (result :: rest) =
      ⟨[r.call tvSec result], some false, clock i⟩ := by
  rw [loop, if_neg hresult, if_pos htime]

/-- A failed call either is retried, or ends the loop. -/
theorem loop_failed (r : SemRequest) (endTime : ℤ) (clock : ℕ → ℤ) (i : ℕ) (tvSec : ℤ)
    {result : KernelResult} (hresult : result ≠ .success) (rest : List KernelResult) :
    (result = .eintr ∧ r.retryOnInterrupt = true ∧ ∃ run, ∃ j : ℕ, ∃ tvSec' : ℤ,
      run = r.loop endTime clock j tvSec' rest ∧ r.loop endTime clock i tvSec (result :: rest) =
        ⟨r.call tvSec result :: run.calls, run.returned, run.now⟩) ∨
    ∃ now, (result = .eintr → r.retryOnInterrupt = true → endTime < now) ∧
      r.loop endTime clock i tvSec (result :: rest) =
        ⟨[r.call tvSec result], some false, now⟩ := by
  rw [loop, if_neg hresult]
  by_cases htime : endTime < clock i
  · exact .inr ⟨clock i, fun _ _ => htime, by rw [if_pos htime]⟩
  · by_cases hretry : result = .eintr ∧ r.retryOnInterrupt = true
    · rw [if_neg htime, if_pos hretry]
      exact .inl ⟨hretry.1, hretry.2, _, i + 2, _, rfl, rfl⟩
    · rw [if_neg htime, if_neg hretry]
      exact .inr ⟨clock (i + 1), fun h h' => absurd ⟨h, h'⟩ hretry, rfl⟩

/-- What holds of the four ways in which the loop can go on holds of every run of it. -/
theorem loop_induction {P : SemSignalRun → Prop} {endTime : ℤ} (hwaiting : ∀ now, P ⟨[], none, now⟩)
    (hsuccess : ∀ tvSec now, P ⟨[r.call tvSec .success], some true, now⟩)
    (hretry : ∀ tvSec run, P run → P ⟨r.call tvSec .eintr :: run.calls, run.returned, run.now⟩)
    (hfailed : ∀ tvSec result now, result ≠ .success →
      (result = .eintr → r.retryOnInterrupt = true → endTime < now) →
        P ⟨[r.call tvSec result], some false, now⟩)
    (results : List KernelResult) (i : ℕ) (tvSec : ℤ) :
    P (r.loop endTime clock i tvSec results) := by
  induction results generalizing i tvSec with
  | nil => exact hwaiting _
  | cons result rest ih =>
    by_cases hresult : result = .success
    · subst hresult
      exact hsuccess tvSec _
    · obtain ⟨rfl, -, run, j, tvSec', rfl, heq⟩ | ⟨now, hnow, heq⟩ :=
        loop_failed r endTime clock i tvSec hresult rest
      · rw [heq]
        exact hretry tvSec _ (ih j tvSec')
      · rw [heq]
        exact hfailed tvSec result now hresult hnow

theorem loop_returnsTrue (endTime : ℤ) (results : List KernelResult) (i : ℕ) (tvSec : ℤ) :
    (r.loop endTime clock i tvSec results).returned = some true ↔
      ∃ call ∈ (r.loop endTime clock i tvSec results).calls, call.result = .success := by
  apply loop_induction (P := fun run : SemSignalRun => run.returned = some true ↔
    ∃ call ∈ run.calls, call.result = .success)
  · intro now
    simp
  · intro tvSec now
    simp
  · intro tvSec run ih
    simpa using ih
  · intro tvSec result now hresult _
    simp [hresult]

theorem loop_stops (endTime : ℤ) (results : List KernelResult) (i : ℕ) (tvSec : ℤ) :
    ∀ before call after,
      (r.loop endTime clock i tvSec results).calls = before ++ call :: after →
        call.result = .success → after = [] := by
  apply loop_induction (P := fun run : SemSignalRun => ∀ before (call : SemCall) after,
    run.calls = before ++ call :: after → call.result = .success → after = [])
  · intro now before call after h
    simp at h
  · intro tvSec now before call after h _
    obtain ⟨-, h⟩ | ⟨-, h⟩ := List.singleton_eq_append_iff.mp h
    · exact (List.cons.inj h).2
    · cases h
  · intro tvSec run ih before call after h hcall
    cases before with
    | nil =>
      obtain ⟨rfl, -⟩ := List.cons.inj h
      cases hcall
    | cons c before => exact ih before call after (List.cons.inj h).2 hcall
  · intro tvSec result now _ _ before call after h _
    cases before with
    | nil => exact (List.cons.inj h).2.symm
    | cons c before => simp at h

/-- With retries, an interrupt ends the loop only past the deadline. -/
theorem loop_retries (endTime : ℤ) (hretry : r.retryOnInterrupt = true)
    (results : List KernelResult) (i : ℕ) (tvSec : ℤ) :
    (r.loop endTime clock i tvSec results).returned = some false →
      (∀ call ∈ (r.loop endTime clock i tvSec results).calls.getLast?, call.result = .eintr) →
        endTime < (r.loop endTime clock i tvSec results).now := by
  apply loop_induction (P := fun run : SemSignalRun => run.returned = some false →
    (∀ call ∈ run.calls.getLast?, call.result = .eintr) → endTime < run.now)
  · intro now h
    cases h
  · intro tvSec now h
    cases h
  · intro tvSec run ih h hlast
    apply ih h
    intro call hcall
    apply hlast
    simp only [List.getLast?_cons, Option.mem_def] at hcall ⊢
    rw [hcall, Option.getD_some]
  · intro tvSec result now _ hnow _ hlast
    exact hnow (hlast _ rfl) hretry

/-! ## The contract -/

/-- A request without a timeout that is to be retried, and is interrupted at its first call. -/
def GivesUp (r : SemRequest) (results : List KernelResult) : Prop :=
  r.timeout = -1 ∧ r.retryOnInterrupt = true ∧ results.head? = some .eintr

theorem retryContract_of_not_givesUp {array : SemaphoreArray} (hvalid : r.Valid array)
    (hclock : Monotone clock) {results : List KernelResult} (h : ¬ r.GivesUp results) :
    (r.semSignal array clock results).RetryContract r (clock 0) := by
  rw [semSignal_of_valid hvalid]
  refine ⟨loop_returnsTrue _ _ _ _, loop_stops _ _ _ _,
    fun hretry hfalse call hlast hcall => ?_⟩
  have hlate := loop_retries _ hretry _ _ _ hfalse fun c hc => by
    rw [Option.mem_unique hc hlast, hcall]
  by_cases htimeout : r.timeout = -1
  · -- the deadline lies before the first reading, so only the first call can be the last one
    have hpast : clock 0 + r.timeout < clock 2 := by
      have := hclock (Nat.zero_le 2)
      omega
    cases results with
    | nil => cases hfalse
    | cons result rest =>
      by_cases hresult : result = .success
      · subst hresult
        cases hfalse
      · rw [loop_expired hpast _ hresult] at hlast
        obtain rfl := Option.some.inj hlast
        exact absurd ⟨htimeout, hretry, congrArg some hcall⟩ h
  · exact ⟨clock 0 + r.timeout, by simp [deadline, htimeout], hlate.le⟩

theorem not_retryContract_of_givesUp {array : SemaphoreArray} (hvalid : r.Valid array)
    (hclock : Monotone clock) {results : List KernelResult} (h : r.GivesUp results) :
    ¬ (r.semSignal array clock results).RetryContract r (clock 0) ∧
      (r.semSignal array clock results).returned = some false ∧
      ¬ (r.semSignal array clock results).Decremented := by
  obtain ⟨htimeout, hretry, hhead⟩ := h
  obtain ⟨rest, rfl⟩ := List.head?_eq_some_iff.mp hhead
  have hpast : clock 0 + r.timeout < clock 2 := by
    have := hclock (Nat.zero_le 2)
    omega
  rw [semSignal_of_valid hvalid, loop_expired hpast _ (by simp)]
  refine ⟨fun hcontract => ?_, rfl, ?_⟩
  · obtain ⟨d, hd, -⟩ := hcontract.retries hretry rfl _ rfl rfl
    simp [deadline, htimeout] at hd
  · simp [SemSignalRun.Decremented]

/-- A lock request that is only ever granted or interrupted returns decremented, unless its first
call is interrupted. -/
theorem lock_decremented {array : SemaphoreArray} {semID : ℤ} (hvalid : (lock semID).Valid array)
    {results : List KernelResult} (hresults : ∀ result ∈ results, result ∈ [.success, .eintr])
    (hfirst : results.head? ≠ some .eintr)
    (h : ((lock semID).semSignal array clock results).returned.isSome = true) :
    ((lock semID).semSignal array clock results).Decremented := by
  rw [semSignal_of_valid hvalid] at h ⊢
  cases results with
  | nil => cases h
  | cons result rest =>
    have hresult := hresults result (List.mem_cons_self ..)
    simp only [List.mem_cons, List.not_mem_nil, or_false] at hresult
    obtain rfl | rfl := hresult
    · have hone : toInt16 (-toInt16 ((1 : ℕ) : ℤ)) = -1 := by decide
      exact ⟨_, List.mem_singleton_self _, rfl, hone, rfl⟩
    · exact absurd rfl hfirst

/-- The contract of `SemSignal` holds for a valid request and any kernel and clock, unless a
request without a timeout that is to be retried is interrupted at its first call. A lock is then
left without its unit, and only then. -/
theorem retryContract_iff {array : SemaphoreArray} (hvalid : r.Valid array)
    (hclock : Monotone clock) (results : List KernelResult) :
    ((r.semSignal array clock results).RetryContract r (clock 0) ↔ ¬ r.GivesUp results) ∧
      ∀ semID, r = lock semID → (∀ result ∈ results, result ∈ [.success, .eintr]) →
        (((r.semSignal array clock results).returned.isSome = true →
          (r.semSignal array clock results).Decremented) ↔ ¬ r.GivesUp results) := by
  refine ⟨⟨fun h hgives => (not_retryContract_of_givesUp hvalid hclock hgives).1 h,
    retryContract_of_not_givesUp hvalid hclock⟩, ?_⟩
  rintro semID rfl hresults
  constructor
  · intro h hgives
    obtain ⟨-, hreturned, hnot⟩ := not_retryContract_of_givesUp hvalid hclock hgives
    exact hnot (h (by rw [hreturned]; rfl))
  · intro hkeeps
    apply lock_decremented hvalid hresults
    exact fun hfirst => hkeeps ⟨rfl, rfl, hfirst⟩

/-- An attached array of 60 semaphores. -/
def someArray : SemaphoreArray := ⟨1, 1, 60⟩

/-- A lock granted at once, at a clock that stands still. -/
theorem lock_granted :
    ((lock 0).semSignal someArray (fun _ => 5) [.success]).RetryContract (lock 0) 5 :=
  (retryContract_iff ⟨rfl, by decide, by decide⟩ monotone_const [.success]).1.mpr
    fun h => (by cases h.2.2)

/-- One interrupt ends the `Wait` of a lock before any grant of the kernel. -/
theorem lock_interrupted :
    (lock 0).semSignal someArray (fun _ => 5) [.eintr, .success] =
      ⟨[⟨-1, true, none, .eintr⟩], some false, 5⟩ ∧
    ¬ ((lock 0).semSignal someArray (fun _ => 5) [.eintr, .success]).RetryContract (lock 0) 5 ∧
    ¬ ((lock 0).semSignal someArray (fun _ => 5) [.eintr, .success]).Decremented := by
  have hrun : (lock 0).semSignal someArray (fun _ => 5) [.eintr, .success] =
      ⟨[⟨-1, true, none, .eintr⟩], some false, 5⟩ := by decide
  rw [hrun]
  refine ⟨rfl, fun hcontract => ?_, by simp [SemSignalRun.Decremented]⟩
  obtain ⟨d, hd, -⟩ := hcontract.retries rfl rfl _ rfl rfl
  cases hd

end SemRequest
end AmusementPark.Ipc
