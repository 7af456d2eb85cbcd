import Tftp.Protocol.Rolling

/-!
# Block numbers

A block number is 16 bits wide. It starts at zero, which numbers no block of data,
and rolls over from the greatest value to one: it is the rolling counter of
`Protocol.rolling`, and `Tftp.BlockNumber.bn` is the number of the `k`-th block.
-/

namespace Tftp

open Protocol

/-- The block number of DATA and ACK packets. -/
abbrev BlockNumber := UInt16

namespace BlockNumber

/-- The next block number; the greatest is followed by one, not by zero. -/
def next (blockNumber : BlockNumber) : BlockNumber :=
  if blockNumber = 0xFFFF then 1 else blockNumber + 1

/-- The number of the `k`-th block. -/
def bn (k : ℕ) : BlockNumber := UInt16.ofNat (rolling 65535 k)

theorem toNat_bn (k : ℕ) : (bn k).toNat = rolling 65535 k := by
  have hle : rolling 65535 k ≤ 65535 := rolling_le (by omega) k
  rw [bn, UInt16.toNat_ofNat']
  omega

theorem toNat_next (b : BlockNumber) :
    b.next.toNat = if b.toNat = 65535 then 1 else b.toNat + 1 := by
  have hlt : b.toNat < 65536 := b.toNat_lt
  have hmax : b = 0xFFFF ↔ b.toNat = 65535 := by
    rw [← UInt16.toNat_inj]
    rfl
  simp only [next, hmax]
  split_ifs with h
  · rfl
  · rw [UInt16.toNat_add]
    simp only [UInt16.reduceToNat]
    omega

@[simp] theorem bn_zero : bn 0 = 0 := rfl

@[simp] theorem bn_one : bn 1 = 1 := rfl

/-- **The number of the next block is the next number**, roll-over included. -/
@[simp] theorem next_bn (k : ℕ) : (bn k).next = bn (k + 1) := by
  rw [← UInt16.toNat_inj, toNat_next, toNat_bn, toNat_bn, rolling_step (by omega)]

theorem bn_eq_zero {k : ℕ} : bn k = 0 ↔ k = 0 := by
  rw [← UInt16.toNat_inj, toNat_bn]
  exact rolling_eq_zero

/-- **No block number is followed by itself.** -/
theorem next_ne (b : BlockNumber) : b.next ≠ b := by
  rw [Ne, ← UInt16.toNat_inj, toNat_next]
  split_ifs <;> omega

/-- **No block number is followed by zero.** -/
theorem next_ne_zero (b : BlockNumber) : b.next ≠ 0 := by
  intro h
  have hzero : b.next.toNat = 0 := by rw [h]; rfl
  rw [toNat_next] at hzero
  split_ifs at hzero

theorem bn_ne_succ (k : ℕ) : bn k ≠ bn (k + 1) := by
  rw [← next_bn]
  exact (next_ne _).symm

/-- Up to the first roll-over the numbers tell the blocks apart. -/
theorem bn_inj {k l : ℕ} (hk : k ≤ 65535) (hl : l ≤ 65535) (h : bn k = bn l) : k = l := by
  rw [← UInt16.toNat_inj, toNat_bn, toNat_bn] at h
  exact rolling_inj hk hl h

end BlockNumber

end Tftp
