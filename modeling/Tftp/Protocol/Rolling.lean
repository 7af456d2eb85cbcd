import Mathlib.Data.Nat.ModEq
import Mathlib.Tactic.Ring

/-!
# Counters that roll over to one

Sequence numbers of a fixed width often keep the value `0` for “nothing yet” and
roll over from the greatest value `m` to `1`. `Protocol.rolling m k` is what such
a counter shows after `k` increments, and everything a protocol needs of it is
here: how it steps, that it is never `0` again, and that counts up to `m` are
told apart.
-/

namespace Protocol

/-- What a counter over `1, …, m` shows after `k` increments from `0`. -/
def rolling (m k : ℕ) : ℕ := if k = 0 then 0 else (k - 1) % m + 1

variable {m k l : ℕ}

@[simp] theorem rolling_zero : rolling m 0 = 0 := rfl

theorem rolling_succ (m k : ℕ) : rolling m (k + 1) = k % m + 1 := by
  simp [rolling]

theorem rolling_le (hm : 0 < m) (k : ℕ) : rolling m k ≤ m := by
  cases k with
  | zero => exact Nat.zero_le m
  | succ k =>
    rw [rolling_succ]
    exact Nat.mod_lt k hm

/-- **A counter that has moved never shows `0` again.** -/
theorem rolling_eq_zero : rolling m k = 0 ↔ k = 0 := by
  cases k with
  | zero => simp
  | succ k => simp [rolling_succ]

/-- Before its first roll-over the counter shows the count itself. -/
theorem rolling_of_le (h : k ≤ m) : rolling m k = k := by
  cases k with
  | zero => rfl
  | succ k => rw [rolling_succ, Nat.mod_eq_of_lt h]

/-- **One increment**: the greatest value is followed by `1`, every other value
by the next one. -/
theorem rolling_step (hm : 0 < m) (k : ℕ) :
    rolling m (k + 1) = if rolling m k = m then 1 else rolling m k + 1 := by
  cases k with
  | zero =>
    rw [rolling_succ, rolling_zero, Nat.zero_mod, if_neg (by omega)]
  | succ k =>
    rw [rolling_succ, rolling_succ]
    have hlt : k % m < m := Nat.mod_lt k hm
    split_ifs with h
    · have h1 : (k + 1) % m = 0 := by
        rw [Nat.add_mod, show k % m = m - 1 by omega]
        rcases Nat.lt_or_ge 1 m with h' | h'
        · rw [Nat.mod_eq_of_lt h', show m - 1 + 1 = m by omega, Nat.mod_self]
        · obtain rfl : m = 1 := by omega
          rfl
      rw [h1]
    · have h1 : (k + 1) % m = k % m + 1 := by
        rw [Nat.add_mod, Nat.mod_eq_of_lt (show 1 < m by omega), Nat.mod_eq_of_lt (by omega)]
      rw [h1]

/-- Counts that have not rolled over yet are told apart. -/
theorem rolling_inj (hk : k ≤ m) (hl : l ≤ m) (h : rolling m k = rolling m l) : k = l := by
  rwa [rolling_of_le hk, rolling_of_le hl] at h

end Protocol
