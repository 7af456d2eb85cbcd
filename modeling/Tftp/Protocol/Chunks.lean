import Mathlib.Data.List.Basic
import Mathlib.Tactic.Ring

/-!
# Cutting a file into blocks

A file sent in blocks of a fixed size `s`: block `k` (counted from `1`) is what
remains after the `k - 1` blocks before it, cut at `s`. The end of the file is
told by the first block shorter than `s`, which exists for every file – it is
empty when `s` divides the length – and is block `Protocol.lastBlock`.
-/

namespace Protocol

variable {α : Type*}

/-- Block `k + 1` of a file cut into blocks of size `s`. -/
def block (file : List α) (s k : ℕ) : List α := (file.drop (k * s)).take s

/-- The first `k` blocks of a file, one after the other. -/
def blocks (file : List α) (s k : ℕ) : List α := file.take (k * s)

/-- The number of blocks that carry a file: all of them full but the last. -/
def lastBlock (file : List α) (s : ℕ) : ℕ := file.length / s + 1

variable {file : List α} {s k : ℕ}

@[simp] theorem blocks_zero : blocks file s 0 = [] := by
  simp [blocks]

/-- **The blocks in a row are the file so far.** -/
theorem blocks_append_block : blocks file s k ++ block file s k = blocks file s (k + 1) := by
  rw [blocks, blocks, block, Nat.succ_mul, List.take_add]

/-- The first blocks, put together. -/
theorem flatten_range : ((List.range k).map (block file s)).flatten = blocks file s k := by
  induction k with
  | zero => rw [blocks_zero]; rfl
  | succ k ih =>
    rw [List.range_succ, List.map_append, List.flatten_append, ih, ← blocks_append_block]
    simp

theorem blocks_prefix : blocks file s k <+: file := List.take_prefix _ _

theorem length_block : (block file s k).length = min s (file.length - k * s) := by
  simp [block]

theorem length_block_le : (block file s k).length ≤ s := by
  rw [length_block]
  exact min_le_left _ _

/-- A block is short exactly when the file ends in it. -/
theorem length_block_lt (hs : 0 < s) :
    (block file s k).length < s ↔ file.length < (k + 1) * s := by
  rw [length_block, Nat.succ_mul]
  omega

/-- **The last block is the first short one.** -/
theorem length_block_lt_iff (hs : 0 < s) :
    (block file s k).length < s ↔ lastBlock file s ≤ k + 1 := by
  rw [length_block_lt hs, lastBlock, Nat.add_le_add_iff_right, ← Nat.lt_succ_iff,
    Nat.div_lt_iff_lt_mul hs]

/-- **A file cut up**: into pieces of the given size and the remainder, which together are the
file. -/
structure CutInto (file : List α) (s : ℕ) (pieces : List (List α)) : Prop where
  count : pieces.length = file.length / s + 1
  sizes : ∃ full last, pieces = full ++ [last] ∧ (∀ piece ∈ full, piece.length = s) ∧
    last.length = file.length % s
  whole : pieces.flatten = file

/-- **The blocks are the file cut up.** -/
theorem cutInto_blocks (hs : 0 < s) :
    CutInto file s ((List.range (lastBlock file s)).map (block file s)) where
  count := by rw [List.length_map, List.length_range, lastBlock]
  sizes := by
    have hmod := Nat.div_add_mod' file.length s
    refine ⟨(List.range (file.length / s)).map (block file s), block file s (file.length / s), ?_,
      fun piece hpiece => ?_, ?_⟩
    · rw [lastBlock, List.range_succ, List.map_append]
      rfl
    · obtain ⟨k, hk, rfl⟩ := List.mem_map.mp hpiece
      have hle := Nat.mul_le_mul_right s (Nat.succ_le_of_lt (List.mem_range.mp hk))
      rw [length_block]
      rw [Nat.succ_mul] at hle
      omega
    · rw [length_block]
      have := Nat.mod_lt file.length hs
      omega
  whole := by
    have hlt := Nat.lt_mul_div_succ file.length hs
    rw [Nat.mul_comm] at hlt
    rw [flatten_range, blocks, lastBlock, List.take_of_length_le (Nat.le_of_lt hlt)]

/-- **After a short block the file is complete.** -/
theorem blocks_eq_self (h : (block file s k).length < s) : blocks file s (k + 1) = file := by
  refine List.take_of_length_le ?_
  rw [length_block, Nat.succ_mul] at *
  omega

end Protocol
