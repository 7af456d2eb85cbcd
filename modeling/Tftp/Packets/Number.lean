import Tftp.Packets.RawData
import Mathlib.Tactic.IntervalCases
import Mathlib.Tactic.NormNum

/-!
# Numbers in strings

`std::to_string` and `std::stoull` on the strings of the option lists. The parser
is as lenient as the C++ standard says: it skips leading white space, takes an
optional sign, stops at the first byte that is not a digit, and wraps negative
input around at 64 bits.
-/

namespace Tftp

/-- The greatest 64-bit value. -/
def ullongMax : ℕ := 2 ^ 64 - 1

/-- `std::to_string` of an unsigned integer. -/
def stdToString (value : ℕ) : RawData :=
  (Nat.toDigits 10 value).map fun c => UInt8.ofNat c.toNat

/-- Why `std::stoull` throws. -/
inductive StoullError where
  /-- `std::invalid_argument`: there is no digit to convert. -/
  | invalidArgument
  /-- `std::out_of_range`: the value does not fit in 64 bits. -/
  | outOfRange
  deriving DecidableEq, Repr

/-- `isspace` of the default locale. -/
def isSpace (byte : UInt8) : Bool := byte = 32 ∨ 9 ≤ byte ∧ byte ≤ 13

/-- `isdigit`. -/
def isDigit (byte : UInt8) : Bool := 48 ≤ byte ∧ byte ≤ 57

/-- The value of a sequence of digits. -/
def digitsValue (digits : RawData) : ℕ :=
  digits.foldl (fun value byte => 10 * value + (byte.toNat - 48)) 0

/-- Skips an optional sign: whether it is a minus, and what follows. -/
def skipSign : RawData → Bool × RawData
  | 43 :: rest => (false, rest)
  | 45 :: rest => (true, rest)
  | rest => (false, rest)

/-- `std::stoull` to the base ten. -/
def stdStoull (text : RawData) : Except StoullError ℕ :=
  let (negative, rest) := skipSign (text.dropWhile isSpace)
  let digits := rest.takeWhile isDigit
  if digits.isEmpty then .error .invalidArgument
  else if ullongMax < digitsValue digits then .error .outOfRange
  else if negative then .ok ((2 ^ 64 - digitsValue digits) % 2 ^ 64)
  else .ok (digitsValue digits)

/-- A decimal number: digits, and nothing else. -/
def IsDecimal (text : RawData) : Prop := text ≠ [] ∧ ∀ byte ∈ text, isDigit byte = true

instance : DecidablePred IsDecimal := fun text =>
  inferInstanceAs (Decidable (text ≠ [] ∧ ∀ byte ∈ text, isDigit byte = true))

/-! ### A number is read back -/

theorem digitsValue_concat (digits : RawData) (byte : UInt8) :
    digitsValue (digits ++ [byte]) = 10 * digitsValue digits + (byte.toNat - 48) := by
  simp [digitsValue]

/-- The byte of a decimal digit. -/
theorem digitChar_byte {d : ℕ} (h : d < 10) :
    UInt8.ofNat (Nat.digitChar d).toNat = UInt8.ofNat (48 + d) := by
  interval_cases d <;> rfl

theorem stdToString_of_lt {n : ℕ} (h : n < 10) : stdToString n = [UInt8.ofNat (48 + n)] := by
  rw [stdToString, Nat.toDigits_of_lt_base h, List.map_singleton, digitChar_byte h]

theorem stdToString_of_le {n : ℕ} (h : 10 ≤ n) :
    stdToString n = stdToString (n / 10) ++ [UInt8.ofNat (48 + n % 10)] := by
  rw [stdToString, Nat.toDigits_of_base_le (by norm_num) h, List.map_append, List.map_singleton,
    digitChar_byte (Nat.mod_lt n (by norm_num)), stdToString]

theorem stdToString_ne_nil (n : ℕ) : stdToString n ≠ [] := by
  rcases Nat.lt_or_ge n 10 with h | h
  · simp [stdToString_of_lt h]
  · simp [stdToString_of_le h]

theorem toNat_digit {d : ℕ} (h : d < 10) : (UInt8.ofNat (48 + d)).toNat = 48 + d := by
  rw [UInt8.toNat_ofNat']
  omega

/-- A decimal representation consists of digits. -/
theorem isDigit_of_mem_stdToString (n : ℕ) : ∀ byte ∈ stdToString n, isDigit byte = true := by
  have hdigit : ∀ d < 10, isDigit (UInt8.ofNat (48 + d)) = true := by decide
  induction n using Nat.strong_induction_on with
  | _ n ih =>
    rcases Nat.lt_or_ge n 10 with h | h
    · rw [stdToString_of_lt h]
      simpa using hdigit n h
    · rw [stdToString_of_le h]
      intro byte hb
      rcases List.mem_append.mp hb with hb | hb
      · exact ih (n / 10) (Nat.div_lt_self (by omega) (by norm_num)) byte hb
      · rw [List.mem_singleton.mp hb]
        exact hdigit _ (Nat.mod_lt n (by norm_num))

/-- A decimal representation has no `NUL` in it. -/
theorem zero_notMem_stdToString (n : ℕ) : 0 ∉ stdToString n := fun h =>
  absurd (isDigit_of_mem_stdToString n 0 h) (by decide)

theorem digitsValue_stdToString (n : ℕ) : digitsValue (stdToString n) = n := by
  induction n using Nat.strong_induction_on with
  | _ n ih =>
    rcases Nat.lt_or_ge n 10 with h | h
    · rw [stdToString_of_lt h]
      simp only [digitsValue, List.foldl_cons, List.foldl_nil, toNat_digit h]
      omega
    · rw [stdToString_of_le h, digitsValue_concat,
        ih (n / 10) (Nat.div_lt_self (by omega) (by norm_num)),
        toNat_digit (Nat.mod_lt n (by norm_num))]
      omega

theorem isSpace_of_isDigit : ∀ byte, isDigit byte = true → isSpace byte = false := by
  intro byte h
  simp only [isDigit, Bool.decide_and, Bool.and_eq_true, decide_eq_true_eq] at h
  simp only [isSpace, decide_eq_false_iff_not, not_or, not_and]
  simp only [UInt8.le_iff_toNat_le, ← UInt8.toNat_inj] at h ⊢
  simp at h ⊢
  omega

theorem skipSign_of_isDigit {text : RawData} (h : ∀ byte ∈ text, isDigit byte = true) :
    skipSign text = (false, text) := by
  unfold skipSign
  split
  · exact absurd (h 43 List.mem_cons_self) (by decide)
  · exact absurd (h 45 List.mem_cons_self) (by decide)
  · rfl

/-- What `std::stoull` makes of a string of digits. -/
theorem stdStoull_of_digits {text : RawData} (hne : text ≠ [])
    (h : ∀ byte ∈ text, isDigit byte = true) :
    stdStoull text =
      if ullongMax < digitsValue text then .error .outOfRange else .ok (digitsValue text) := by
  have hspace : text.dropWhile isSpace = text := by
    cases text with
    | nil => rfl
    | cons b rest =>
      rw [List.dropWhile_cons, isSpace_of_isDigit b (h b List.mem_cons_self)]
      rfl
  have hdigits : text.takeWhile isDigit = text := by
    rw [← List.append_nil text, List.takeWhile_append_of_pos h]
    simp
  have hne' : text.isEmpty = false := by simpa using hne
  simp only [stdStoull, hspace, skipSign_of_isDigit h, hdigits, hne', Bool.false_eq_true, if_false]

/-- **`std::stoull` of a string of digits is its value**, as long as that fits in
64 bits. -/
theorem stdStoull_digits {text : RawData} (hne : text ≠ [])
    (h : ∀ byte ∈ text, isDigit byte = true) (hmax : digitsValue text ≤ ullongMax) :
    stdStoull text = .ok (digitsValue text) := by
  rw [stdStoull_of_digits hne h, if_neg (not_lt.mpr hmax)]

/-- A number that does not fit in 64 bits is out of range. -/
theorem stdStoull_large {text : RawData} (hne : text ≠ [])
    (h : ∀ byte ∈ text, isDigit byte = true) (hlarge : ullongMax < digitsValue text) :
    stdStoull text = .error .outOfRange := by
  rw [stdStoull_of_digits hne h, if_pos hlarge]

/-- **A number is read back.** -/
theorem stdStoull_stdToString {n : ℕ} (h : n ≤ ullongMax) : stdStoull (stdToString n) = .ok n := by
  have hv := digitsValue_stdToString n
  rw [stdStoull_digits (stdToString_ne_nil n) (isDigit_of_mem_stdToString n) (by rw [hv]; exact h),
    hv]

end Tftp
