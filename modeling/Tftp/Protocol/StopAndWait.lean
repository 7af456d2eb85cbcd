import Mathlib.Data.List.Sort
import Mathlib.Data.Set.Insert
import Mathlib.Tactic.Ring

/-!
# Stop and wait, with unbounded sequence numbers

The protocol pattern without its wire format. A *sender* has one item
outstanding and repeats it until it is acknowledged; a *receiver* accepts the
items in order and acknowledges the last one it has accepted. Items and
acknowledgements are told apart by natural numbers, so nothing rolls over here:
that an implementation gets along with finitely many numbers is a statement
about the implementation, and rests on the bounds proved in this file.

Two networks are considered. A **FIFO** network may lose any message and may
deliver the message at its head any number of times
(`Protocol.StopAndWait.Fifo`); there the invariant pins every message in flight
to one of two neighbouring numbers. An **unordered** network delivers everything
ever sent, in any order and any number of times
(`Protocol.StopAndWait.Unordered`); there only the upper bounds survive, and
they are what integrity needs.
-/

namespace Protocol

/-- The two counters of a stop-and-wait exchange. -/
structure StopAndWait where
  /-- The number of the outstanding item, the last one sent. -/
  sent : ℕ
  /-- The number of the last item accepted, and the last one acknowledged. -/
  accepted : ℕ

namespace StopAndWait

/-- **The receiver is at most one item behind**, and never ahead. -/
structure InStep (p : StopAndWait) : Prop where
  accepted_le : p.accepted ≤ p.sent
  sent_le : p.sent ≤ p.accepted + 1

/-- The receiver accepts the outstanding item. -/
def accept (p : StopAndWait) : StopAndWait := { p with accepted := p.accepted + 1 }

/-- The sender moves on to the next item. -/
def advance (p : StopAndWait) : StopAndWait := { p with sent := p.sent + 1 }

variable {p : StopAndWait}

theorem InStep.accept (h : p.InStep) (hnew : p.accepted + 1 ≤ p.sent) : p.accept.InStep :=
  ⟨hnew, Nat.le_succ_of_le h.sent_le⟩

theorem InStep.advance (h : p.InStep) (hack : p.sent ≤ p.accepted) : p.advance.InStep :=
  ⟨Nat.le_succ_of_le h.accepted_le, Nat.succ_le_succ hack⟩

/-! ### The FIFO network -/

/-- **What is in flight on a FIFO network**: the items under way run from the
last accepted one to the outstanding one, the acknowledgements under way from
the one the sender has used to the last one given, both in order. -/
structure Fifo (p : StopAndWait) (items acks : List ℕ) : Prop extends p.InStep where
  items_sorted : items.Pairwise (· ≤ ·)
  items_ge : ∀ d ∈ items, p.accepted ≤ d
  items_le : ∀ d ∈ items, d ≤ p.sent
  acks_sorted : acks.Pairwise (· ≤ ·)
  acks_ge : ∀ a ∈ acks, p.sent ≤ a + 1
  acks_le : ∀ a ∈ acks, a ≤ p.accepted

namespace Fifo

variable {items acks items' acks' : List ℕ}

/-- Nothing is under way yet. -/
theorem start (h : p.InStep) : p.Fifo [] [] :=
  ⟨h, List.Pairwise.nil, by simp, by simp, List.Pairwise.nil, by simp, by simp⟩

/-- Messages may get lost on both ways. -/
theorem lose (h : p.Fifo items acks) (hi : items'.Sublist items) (ha : acks'.Sublist acks) :
    p.Fifo items' acks' where
  toInStep := h.toInStep
  items_sorted := h.items_sorted.sublist hi
  items_ge d hd := h.items_ge d (hi.subset hd)
  items_le d hd := h.items_le d (hi.subset hd)
  acks_sorted := h.acks_sorted.sublist ha
  acks_ge a hm := h.acks_ge a (ha.subset hm)
  acks_le a hm := h.acks_le a (ha.subset hm)

/-- The sender repeats the outstanding item. -/
theorem resend (h : p.Fifo items acks) : p.Fifo (items ++ [p.sent]) acks where
  toInStep := h.toInStep
  items_sorted := List.pairwise_append.mpr ⟨h.items_sorted, List.pairwise_singleton _ _,
    fun d hd e he => by rw [List.mem_singleton.mp he]; exact h.items_le d hd⟩
  items_ge d hd := by
    rcases List.mem_append.mp hd with hd | hd
    · exact h.items_ge d hd
    · rw [List.mem_singleton.mp hd]
      exact h.accepted_le
  items_le d hd := by
    rcases List.mem_append.mp hd with hd | hd
    · exact h.items_le d hd
    · exact (List.mem_singleton.mp hd).le
  acks_sorted := h.acks_sorted
  acks_ge := h.acks_ge
  acks_le := h.acks_le

/-- The receiver repeats its last acknowledgement. -/
theorem reack (h : p.Fifo items acks) : p.Fifo items (acks ++ [p.accepted]) where
  toInStep := h.toInStep
  items_sorted := h.items_sorted
  items_ge := h.items_ge
  items_le := h.items_le
  acks_sorted := List.pairwise_append.mpr ⟨h.acks_sorted, List.pairwise_singleton _ _,
    fun a ha e he => by rw [List.mem_singleton.mp he]; exact h.acks_le a ha⟩
  acks_ge a ha := by
    rcases List.mem_append.mp ha with ha | ha
    · exact h.acks_ge a ha
    · rw [List.mem_singleton.mp ha]
      exact h.sent_le
  acks_le a ha := by
    rcases List.mem_append.mp ha with ha | ha
    · exact h.acks_le a ha
    · exact (List.mem_singleton.mp ha).le

/-- **An item that arrives is the last accepted one again, or the next one.** -/
theorem item_cases {d : ℕ} (h : p.Fifo (d :: items) acks) :
    d = p.accepted ∨ d = p.accepted + 1 := by
  have hge : p.accepted ≤ d := h.items_ge d List.mem_cons_self
  have hle : d ≤ p.sent := h.items_le d List.mem_cons_self
  have hone : p.sent ≤ p.accepted + 1 := h.sent_le
  omega

/-- **An acknowledgement that arrives is the last used one again, or the one of
the outstanding item.** -/
theorem ack_cases {a : ℕ} (h : p.Fifo items (a :: acks)) : a + 1 = p.sent ∨ a = p.sent := by
  have hge : p.sent ≤ a + 1 := h.acks_ge a List.mem_cons_self
  have hle : a ≤ p.accepted := h.acks_le a List.mem_cons_self
  have hone : p.accepted ≤ p.sent := h.accepted_le
  omega

/-- The receiver accepts the next item from the head of the channel – where it
may stay, to be delivered again – and acknowledges it. -/
theorem accept (h : p.Fifo ((p.accepted + 1) :: items) acks)
    (hitems : items' = items ∨ items' = (p.accepted + 1) :: items) :
    p.accept.Fifo items' (acks ++ [p.accepted + 1]) := by
  have hnew : p.accepted + 1 ≤ p.sent := h.items_le _ List.mem_cons_self
  have hsorted := List.pairwise_cons.mp h.items_sorted
  have hsub : items'.Sublist ((p.accepted + 1) :: items) := by
    rcases hitems with rfl | rfl
    · exact List.sublist_cons_self _ _
    · exact List.Sublist.refl _
  refine reack (p := p.accept) ⟨h.toInStep.accept hnew, h.items_sorted.sublist hsub, ?_, ?_,
    h.acks_sorted, h.acks_ge, fun a ha => Nat.le_succ_of_le (h.acks_le a ha)⟩
  · intro d hd
    rcases List.mem_cons.mp (hsub.subset hd) with rfl | hd
    · exact le_refl _
    · exact hsorted.1 d hd
  · exact fun d hd => h.items_le d (hsub.subset hd)

/-- The sender uses the acknowledgement at the head of the channel – where it may
stay – and sends the next item. -/
theorem advance (h : p.Fifo items (p.sent :: acks))
    (hacks : acks' = acks ∨ acks' = p.sent :: acks) :
    p.advance.Fifo (items ++ [p.sent + 1]) acks' := by
  have hack : p.sent ≤ p.accepted := h.acks_le _ List.mem_cons_self
  have hsorted := List.pairwise_cons.mp h.acks_sorted
  have hsub : acks'.Sublist (p.sent :: acks) := by
    rcases hacks with rfl | rfl
    · exact List.sublist_cons_self _ _
    · exact List.Sublist.refl _
  refine resend (p := p.advance) ⟨h.toInStep.advance hack, h.items_sorted, h.items_ge,
    fun d hd => Nat.le_succ_of_le (h.items_le d hd), h.acks_sorted.sublist hsub, ?_, ?_⟩
  · intro a ha
    rcases List.mem_cons.mp (hsub.subset ha) with rfl | ha
    · exact le_refl _
    · exact Nat.succ_le_succ (hsorted.1 a ha)
  · exact fun a ha => h.acks_le a (hsub.subset ha)

end Fifo

/-! ### Progress on a FIFO network -/

/-- **The next step is under way**: the outstanding item, to a receiver that answers it, or the
acknowledgement of it. -/
def Pending (p : StopAndWait) (answers : Prop) (items acks : List ℕ) : Prop :=
  answers ∧ p.sent ∈ items ∨ p.sent = p.accepted ∧ p.sent ∈ acks

namespace Pending

variable {answers answers' : Prop} {items acks items' acks' : List ℕ} {d a : ℕ}

/-- As long as the next step is under way, something is under way. -/
theorem ne_nil (h : p.Pending answers items acks) : items ≠ [] ∨ acks ≠ [] := by
  rcases h with ⟨-, hmem⟩ | ⟨-, hmem⟩
  · exact Or.inl (List.ne_nil_of_mem hmem)
  · exact Or.inr (List.ne_nil_of_mem hmem)

/-- The sender repeats the outstanding item. -/
theorem resend (h : answers) : p.Pending answers (items ++ [p.sent]) acks :=
  Or.inl ⟨h, List.mem_append_right _ (List.mem_singleton_self _)⟩

/-- The receiver repeats the acknowledgement that the sender waits for. -/
theorem reack (h : p.sent = p.accepted) : p.Pending answers items (acks ++ [p.accepted]) :=
  Or.inr ⟨h, List.mem_append_right _ (List.mem_singleton.mpr h)⟩

/-- **An item is answered**: it was the outstanding one, and then its acknowledgement is under way,
or an old one, and then the receiver goes on to answer. -/
theorem item (hfifo : p.Fifo (d :: items) acks) (h : p.Pending answers (d :: items) acks)
    (hkept : ∀ e ∈ items, e ∈ items') (hanswers : d ≠ p.sent → answers') :
    (⟨p.sent, d⟩ : StopAndWait).Pending answers' items' (acks ++ [d]) := by
  by_cases hd : d = p.sent
  · exact Or.inr ⟨hd.symm, List.mem_append_right _ (List.mem_singleton.mpr hd.symm)⟩
  · have hne : p.sent ≠ p.accepted := by
      rcases hfifo.item_cases with hcase | hcase
      · rw [← hcase]
        exact fun heq => hd heq.symm
      · have hle : d ≤ p.sent := hfifo.items_le d List.mem_cons_self
        omega
    rcases h with ⟨-, hmem⟩ | ⟨heq, -⟩
    · exact Or.inl ⟨hanswers hd, hkept _ ((List.mem_cons.mp hmem).resolve_left (Ne.symm hd))⟩
    · exact absurd heq hne

/-- An old acknowledgement is delivered. -/
theorem ack (h : p.Pending answers items (a :: acks)) (ha : a ≠ p.sent)
    (hkept : ∀ b ∈ acks, b ∈ acks') : p.Pending answers items acks' := by
  rcases h with hitem | ⟨heq, hmem⟩
  · exact Or.inl hitem
  · exact Or.inr ⟨heq, hkept _ ((List.mem_cons.mp hmem).resolve_left (Ne.symm ha))⟩

end Pending

/-! ### The unordered network -/

/-- **What has ever been sent on an unordered network**: no item beyond the
outstanding one, no acknowledgement beyond the last item accepted. -/
structure Unordered (p : StopAndWait) (items acks : Set ℕ) : Prop extends p.InStep where
  items_le : ∀ d ∈ items, d ≤ p.sent
  acks_le : ∀ a ∈ acks, a ≤ p.accepted

namespace Unordered

variable {items acks : Set ℕ}

/-- Nothing has been sent yet. -/
theorem start (h : p.InStep) : p.Unordered ∅ ∅ := ⟨h, by simp, by simp⟩

/-- The sender repeats the outstanding item. -/
theorem resend (h : p.Unordered items acks) : p.Unordered (insert p.sent items) acks where
  toInStep := h.toInStep
  items_le d hd := (Set.mem_insert_iff.mp hd).elim (fun heq => heq.le) (h.items_le d)
  acks_le := h.acks_le

/-- The receiver repeats its last acknowledgement. -/
theorem reack (h : p.Unordered items acks) : p.Unordered items (insert p.accepted acks) where
  toInStep := h.toInStep
  items_le := h.items_le
  acks_le a ha := (Set.mem_insert_iff.mp ha).elim (fun heq => heq.le) (h.acks_le a)

/-- The receiver accepts the next item and acknowledges it. -/
theorem accept (h : p.Unordered items acks) (hnew : p.accepted + 1 ∈ items) :
    p.accept.Unordered items (insert (p.accepted + 1) acks) :=
  reack (p := p.accept) ⟨h.toInStep.accept (h.items_le _ hnew), h.items_le,
    fun a ha => Nat.le_succ_of_le (h.acks_le a ha)⟩

/-- The sender uses the acknowledgement of the outstanding item and sends the next one. -/
theorem advance (h : p.Unordered items acks) (hack : p.sent ∈ acks) :
    p.advance.Unordered (insert (p.sent + 1) items) acks :=
  resend (p := p.advance) ⟨h.toInStep.advance (h.acks_le _ hack),
    fun d hd => Nat.le_succ_of_le (h.items_le d hd), h.acks_le⟩

end Unordered

end StopAndWait

end Protocol
