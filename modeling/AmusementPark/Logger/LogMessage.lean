import AmusementPark.SimulationData
import Mathlib.Data.List.GetD

/-! # The text of a log message

`ToArray`, which puts a string into the fixed array of a message, and
`CreateLogMessage`, which reads it back. The length of the string goes through
an `int`, so that only its last 32 bits decide how much is copied.
-/
namespace AmusementPark.Logger

/-- The bytes of a `std::string`. -/
abbrev Bytes := List UInt8

/-- The conversion of `size_t` to `int`. -/
def intOfSize (n : ℕ) : ℤ := (n : ℤ).bmod (2 ^ 32)

/-- The conversion of `int` to `size_t`. -/
def sizeOfInt (n : ℤ) : ℕ := (n % 2 ^ 64).toNat

/-! ## Writing -/

/-- `std::copy` of `length` bytes of the string to the array from `i` on. It gives nothing if it
reads past the string or writes past the array. -/
def copyTo {N : ℕ} : Bytes → ℕ → ℕ → (Fin N → UInt8) → Option (Fin N → UInt8)
  | _, _, 0, array => some array
  | [], _, _ + 1, _ => none
  | b :: str, i, length + 1, array =>
    if h : i < N then copyTo str (i + 1) length (Function.update array ⟨i, h⟩ b) else none

/-- `ToArray<N>`; nothing is given where the copy leaves the string or the array, or `at` throws. -/
def toArray (N : ℕ) (str : Bytes) : Option (Fin N → UInt8) :=
  let length := sizeOfInt (min (intOfSize str.length) (N - 1))
  match copyTo str 0 length fun _ => 0 with
  | none => none
  | some array => if h : length < N then some (Function.update array ⟨length, h⟩ 0) else none

variable {N : ℕ}

/-- A copy that fits changes the places from `i` on, and no others. -/
theorem copyTo_of_fits (str : Bytes) (i length : ℕ) (array : Fin N → UInt8)
    (hstr : length ≤ str.length) (harray : i + length ≤ N) :
    ∃ array', copyTo str i length array = some array' ∧ ∀ k : Fin N,
      array' k = if i ≤ k ∧ k < i + length then str.getD (k - i) 0 else array k := by
  induction str generalizing i length array with
  | nil =>
    obtain rfl : length = 0 := Nat.le_zero.mp hstr
    refine ⟨array, by rw [copyTo], ?_⟩
    intro k
    rw [if_neg (by omega)]
  | cons b str ih =>
    cases length with
    | zero =>
      refine ⟨array, by rw [copyTo], ?_⟩
      intro k
      rw [if_neg (by omega)]
    | succ length =>
      have hi : i < N := by omega
      obtain ⟨array', hcopy, hplaces⟩ := ih (i + 1) length (Function.update array ⟨i, hi⟩ b)
        (Nat.le_of_succ_le_succ hstr) (by omega)
      refine ⟨array', by rw [copyTo, dif_pos hi, hcopy], ?_⟩
      intro k
      rw [hplaces k]
      by_cases hk : k = ⟨i, hi⟩
      · subst hk
        simp
      · have hne : k.val ≠ i := fun h => hk (Fin.ext h)
        rw [Function.update_of_ne hk]
        by_cases hin : i + 1 ≤ k.val ∧ k.val < i + 1 + length
        · have hsub : k.val - i = (k.val - (i + 1)) + 1 := by omega
          rw [if_pos hin, if_pos (by omega), hsub, List.getD_cons_succ]
        · rw [if_neg hin, if_neg (by omega)]

/-- A copy longer than the rest of the array leaves it. -/
theorem copyTo_of_long (str : Bytes) (i length : ℕ) (array : Fin N → UInt8) (hi : i ≤ N)
    (hlong : N < i + length) : copyTo str i length array = none := by
  induction str generalizing i length array with
  | nil =>
    cases length with
    | zero => omega
    | succ length => rw [copyTo]
  | cons b str ih =>
    cases length with
    | zero => omega
    | succ length =>
      rw [copyTo]
      split
      · exact ih (i + 1) length _ (by omega) (by omega)
      · rfl

theorem intOfSize_of_lt {n : ℕ} (h : n % 2 ^ 32 < 2 ^ 31) :
    intOfSize n = ((n % 2 ^ 32 : ℕ) : ℤ) := by
  have hdef : intOfSize n = _ := Int.bmod_def (n : ℤ) (2 ^ 32)
  rw [hdef]
  split <;> omega

/-- A size in the upper half of 32 bits becomes a negative number, and that a huge length. -/
theorem intOfSize_of_ge {n : ℕ} (h : 2 ^ 31 ≤ n % 2 ^ 32) :
    intOfSize n < 0 ∧ -2 ^ 31 ≤ intOfSize n := by
  have hdef : intOfSize n = _ := Int.bmod_def (n : ℤ) (2 ^ 32)
  rw [hdef]
  split <;> omega

/-- What `ToArray` gives where the size stays positive as an `int`. -/
theorem toArray_of_lt (hpos : 0 < N) (hint : N < 2 ^ 31) {str : Bytes}
    (h : str.length % 2 ^ 32 < 2 ^ 31) : toArray N str = some fun k : Fin N =>
      if k.val < min (str.length % 2 ^ 32) (N - 1) then str.getD k.val 0 else 0 := by
  have hlength : sizeOfInt (min (intOfSize str.length) (N - 1)) =
      min (str.length % 2 ^ 32) (N - 1) := by
    rw [intOfSize_of_lt h, sizeOfInt]
    omega
  have hmod := Nat.mod_le str.length (2 ^ 32)
  obtain ⟨array, hcopy, hplaces⟩ := copyTo_of_fits str 0 (min (str.length % 2 ^ 32) (N - 1))
    (fun _ : Fin N => 0) (by omega) (by omega)
  have hlt : min (str.length % 2 ^ 32) (N - 1) < N := by omega
  simp only [toArray, hlength, hcopy, dif_pos hlt, Option.some.injEq]
  funext k
  by_cases hk : k = ⟨min (str.length % 2 ^ 32) (N - 1), hlt⟩
  · subst hk
    simp
  · rw [Function.update_of_ne hk, hplaces k]
    simp

/-- A size that is negative as an `int` is a length past every array. -/
theorem toArray_of_ge (hint : N < 2 ^ 31) {str : Bytes} (h : 2 ^ 31 ≤ str.length % 2 ^ 32) :
    toArray N str = none := by
  have hneg := intOfSize_of_ge h
  have hlong : N < 0 + sizeOfInt (min (intOfSize str.length) (N - 1)) := by
    rw [sizeOfInt]
    omega
  simp only [toArray, copyTo_of_long str 0 _ (fun _ : Fin N => 0) (Nat.zero_le N) hlong]

/-! ## Reading -/

/-- The bytes before the first NUL, as a C string is read. -/
def cString (array : Fin N → UInt8) : Bytes := (List.ofFn array).takeWhile (· ≠ 0)

/-- The array begins with the string, cut after `N - 1` bytes, and is 0 from there on; read as a C
string it is that prefix up to its first NUL. -/
structure HoldsText (array : Fin N → UInt8) (str : Bytes) : Prop where
  text : ∀ (k : Fin N) (hk : k < min str.length (N - 1)), array k = str[k.val]
  padding : ∀ k : Fin N, min str.length (N - 1) ≤ k → array k = 0
  readBack : cString array = (str.take (N - 1)).takeWhile (· ≠ 0)

/-- A NUL ends what is read. -/
theorem takeWhile_append_nul (text rest : Bytes) :
    (text ++ 0 :: rest).takeWhile (· ≠ 0) = text.takeWhile (· ≠ 0) := by
  induction text with
  | nil => simp
  | cons b text ih =>
    by_cases hb : b = 0
    · simp [hb]
    · rw [List.cons_append, List.takeWhile_cons_of_pos (by simpa using hb), ih,
        List.takeWhile_cons_of_pos (by simpa using hb)]

/-- An array that begins with a string and has a NUL behind it is read as that string. -/
theorem cString_of_places (hpos : 0 < N) {array : Fin N → UInt8} {str : Bytes}
    (h : ∀ k : Fin N, array k = (str.take (N - 1)).getD k 0) :
    cString array = (str.take (N - 1)).takeWhile (· ≠ 0) := by
  have hlength : (str.take (N - 1)).length < N := by
    rw [List.length_take]
    omega
  have hlist : List.ofFn array = str.take (N - 1) ++
      List.replicate (N - (str.take (N - 1)).length) 0 := by
    apply List.ext_getElem
    · simp only [List.length_ofFn, List.length_append, List.length_replicate]
      omega
    · intro k hk hk'
      rw [List.getElem_ofFn, h]
      by_cases hin : k < (str.take (N - 1)).length
      · rw [List.getElem_append_left hin, List.getD_eq_getElem _ _ hin]
      · rw [List.getElem_append_right (by omega), List.getD_eq_default _ _ (not_lt.mp hin),
          List.getElem_replicate]
  have hnul : N - (str.take (N - 1)).length = N - (str.take (N - 1)).length - 1 + 1 := by omega
  rw [cString, hlist, hnul, List.replicate_succ, takeWhile_append_nul]

/-- Which places of the string `ToArray` has to copy and does not. -/
theorem holdsText_iff (hpos : 0 < N) {str : Bytes} {length : ℕ} :
    HoldsText (fun k : Fin N => if k.val < min length (N - 1) then str.getD k.val 0 else 0) str ↔
      ∀ k, length ≤ k → k < N - 1 → str.getD k 0 = 0 := by
  constructor
  · intro h k hk hN
    by_cases hin : k < str.length
    · have htext := h.text ⟨k, by omega⟩ (lt_min hin hN)
      rw [if_neg (by simp only; omega)] at htext
      rw [List.getD_eq_getElem _ _ hin, ← htext]
    · exact List.getD_eq_default _ _ (by omega)
  · intro h
    have hplaces : ∀ k : Fin N, (if k.val < min length (N - 1) then str.getD k.val 0 else 0) =
        (str.take (N - 1)).getD k.val 0 := by
      intro k
      have htake : (str.take (N - 1)).getD k.val 0 =
          if k.val < N - 1 then str.getD k.val 0 else 0 := by
        simp only [List.getD_eq_getElem?_getD, List.getElem?_take]
        split <;> rfl
      rw [htake]
      by_cases hN : k.val < N - 1
      · by_cases hk : k.val < length
        · rw [if_pos (lt_min hk hN), if_pos hN]
        · rw [if_neg (by omega), if_pos hN, h k.val (by omega) hN]
      · rw [if_neg (by omega), if_neg hN]
    refine ⟨?_, ?_, cString_of_places hpos hplaces⟩
    · intro k hk
      rw [hplaces k, List.getD_eq_getElem _ _ (by rw [List.length_take]; omega), List.getElem_take]
    · intro k hk
      rw [hplaces k, List.getD_eq_default _ _ (by rw [List.length_take]; omega)]

/-- Every string shorter than `2 ^ 31` bytes is put into the array. -/
theorem toArray_of_short (hpos : 0 < N) (hint : N < 2 ^ 31) {str : Bytes}
    (h : str.length < 2 ^ 31) : ∃ array, toArray N str = some array ∧ HoldsText array str := by
  have hmod : str.length % 2 ^ 32 = str.length := Nat.mod_eq_of_lt (by omega)
  refine ⟨_, toArray_of_lt hpos hint (hmod.symm ▸ h), (holdsText_iff hpos).mpr ?_⟩
  intro k hk _
  exact List.getD_eq_default _ _ (hmod ▸ hk)

/-- `ToArray` stays inside the array and puts the text there if and only if the size is positive
as an `int` and the string has only NUL bytes where less than the size is copied. -/
theorem toArray_holdsText_iff (hpos : 0 < N) (hint : N < 2 ^ 31) (str : Bytes) :
    (∃ array, toArray N str = some array ∧ HoldsText array str) ↔
      str.length % 2 ^ 32 < 2 ^ 31 ∧
        ∀ k, str.length % 2 ^ 32 ≤ k → k < N - 1 → str.getD k 0 = 0 := by
  constructor
  · rintro ⟨array, harray, hholds⟩
    have h : str.length % 2 ^ 32 < 2 ^ 31 := by
      by_contra hge
      rw [toArray_of_ge hint (not_lt.mp hge)] at harray
      cases harray
    rw [toArray_of_lt hpos hint h] at harray
    obtain rfl := Option.some.inj harray
    exact ⟨h, (holdsText_iff hpos).mp hholds⟩
  · intro h
    exact ⟨_, toArray_of_lt hpos hint h.1, (holdsText_iff hpos).mpr h.2⟩

/-- The string of the unit test, in an array that it fills. -/
theorem test_holdsText : ∃ array, toArray 5 [116, 101, 115, 116] = some array ∧
    HoldsText array [116, 101, 115, 116] := by
  apply (toArray_holdsText_iff (by decide) (by decide) _).mpr
  refine ⟨by decide, ?_⟩
  intro k hk hN
  exact absurd hN (not_lt.mpr hk)

/-- Of `2 ^ 32` letters nothing is copied, and for `2 ^ 31` letters the length is negative. -/
theorem longStrings_fail :
    toArray 8 (List.replicate (2 ^ 32) 97) = some (fun _ => 0) ∧
    toArray 8 (List.replicate (2 ^ 31) 97) = none ∧
    ¬ (∃ array, toArray 8 (List.replicate (2 ^ 32) 97) = some array ∧
      HoldsText array (List.replicate (2 ^ 32) 97)) ∧
    ¬ (∃ array, toArray 8 (List.replicate (2 ^ 31) 97) = some array ∧
      HoldsText array (List.replicate (2 ^ 31) 97)) := by
  have hempty : toArray 8 (List.replicate (2 ^ 32) 97) = some (fun _ => 0) := by
    rw [toArray_of_lt (by decide) (by decide) (by rw [List.length_replicate]; norm_num)]
    simp only [List.length_replicate, Nat.mod_self, Nat.zero_min, Nat.not_lt_zero, if_false]
  have hnone : toArray 8 (List.replicate (2 ^ 31) 97) = none :=
    toArray_of_ge (by decide) (by rw [List.length_replicate]; norm_num)
  refine ⟨hempty, hnone, ?_, ?_⟩
  · rintro ⟨array, harray, hholds⟩
    rw [hempty] at harray
    obtain rfl := Option.some.inj harray
    have hfirst := hholds.text 0 (by rw [List.length_replicate]; norm_num)
    rw [List.getElem_replicate] at hfirst
    cases hfirst
  · rintro ⟨array, harray, -⟩
    rw [hnone] at harray
    cases harray

/-! ## Messages -/

/-- `ProcessRole`, which may hold any other `int`. -/
inductive ProcessRole where
  | main
  | cashier
  | attraction
  | restaurant
  | client
  | other (raw : ℤ) (h : -2 ^ 31 ≤ raw ∧ raw < 0 ∨ 5 ≤ raw ∧ raw < 2 ^ 31)
deriving DecidableEq

def ProcessRole.toInt : ProcessRole → ℤ
  | .main => 0
  | .cashier => 1
  | .attraction => 2
  | .restaurant => 3
  | .client => 4
  | .other raw _ => raw

def loggerMessageMaxLength : ℕ := 256

structure LoggerMQMessage where
  senderPID : Pid
  senderRole : ProcessRole
  timestamp : ℤ
  message : Fin loggerMessageMaxLength → UInt8

/-- An `int` as an output stream writes it. -/
def decimal (n : ℤ) : Bytes :=
  (if n < 0 then [45] else []) ++ (Nat.toDigits 10 n.natAbs).map Char.toUInt8

/-- `CreateLogMessage`. What `localtime_r` and `put_time` make of a time stamp depends on the time
zone. -/
def createLogMessage (putTime : ℤ → Bytes) (message : LoggerMQMessage) : Bytes :=
  [91] ++ putTime message.timestamp ++ [93, 32, 40] ++ decimal message.senderPID ++ [41, 58, 32] ++
    cString message.message ++ [10]

/-- The message that `Process::pLogMessage` sends. -/
def pLogMessage (getpid : Pid) (processRole : ProcessRole) (now : ℤ) (message : Bytes)
    (endWorkMessage : Bool) : Option LoggerMQMessage :=
  (toArray loggerMessageMaxLength message).map fun array =>
    ⟨if endWorkMessage then -1 else getpid, processRole, now, array⟩

/-- The log shows the first 255 bytes of a message, up to its first NUL. -/
theorem createLogMessage_pLogMessage (putTime : ℤ → Bytes) (getpid : Pid)
    (processRole : ProcessRole) (now : ℤ) {message : Bytes} (h : message.length < 2 ^ 31) :
    ∃ msg, pLogMessage getpid processRole now message false = some msg ∧
      createLogMessage putTime msg = [91] ++ putTime now ++ [93, 32, 40] ++ decimal getpid ++
        [41, 58, 32] ++ (message.take 255).takeWhile (· ≠ 0) ++ [10] := by
  have hpos : 0 < loggerMessageMaxLength := by decide
  obtain ⟨array, harray, hholds⟩ := toArray_of_short hpos (by decide) h
  refine ⟨_, by rw [pLogMessage, harray, Option.map_some], ?_⟩
  simp only [createLogMessage, hholds.readBack, Bool.false_eq_true, if_false]
  rfl

end AmusementPark.Logger
