import Mathlib.Data.List.Infix
import Mathlib.Data.List.Nodup
import Mathlib.Data.Nat.ModEq
import Mathlib.Logic.Function.Iterate

namespace Interaction

structure CyclicCounter (σ : Type) where
  next : σ → σ
  index : σ → Nat
  size : Nat
  index_lt : ∀ s, index s < size
  index_next : ∀ s, index (next s) = (index s + 1) % size

namespace CyclicCounter

variable {σ : Type} (c : CyclicCounter σ) (s : σ)

theorem index_iterate (n : Nat) : c.index (c.next^[n] s) = (c.index s + n) % c.size := by
  induction n with
  | zero => exact (Nat.mod_eq_of_lt (c.index_lt s)).symm
  | succ n ih => rw [Function.iterate_succ_apply', c.index_next, ih, Nat.mod_add_mod, Nat.add_assoc]

theorem index_iterate_eq_iff (m n : Nat) :
    c.index (c.next^[m] s) = c.index (c.next^[n] s) ↔ m ≡ n [MOD c.size] := by
  rw [index_iterate, index_iterate]
  exact ⟨fun h => Nat.ModEq.add_left_cancel' (c.index s) h, fun h => h.add_left _⟩

theorem eq_of_index_iterate_eq {m n : Nat} (hm : m < c.size) (hn : n < c.size)
    (h : c.index (c.next^[m] s) = c.index (c.next^[n] s)) : m = n :=
  ((c.index_iterate_eq_iff s m n).mp h).eq_of_lt_of_lt hm hn

-- the values handed out by n uses of the counter
def labels : σ → Nat → List σ
  | _, 0 => []
  | s, n + 1 => s :: labels (c.next s) n

variable {c s} {n : Nat}

theorem mem_labels {x : σ} : x ∈ c.labels s n ↔ ∃ i < n, c.next^[i] s = x := by
  induction n generalizing s with
  | zero => simp [labels]
  | succ n ih =>
    rw [labels, List.mem_cons, ih]
    constructor
    · rintro (rfl | ⟨i, hi, hx⟩)
      · exact ⟨0, Nat.succ_pos n, rfl⟩
      · exact ⟨i + 1, Nat.succ_lt_succ hi, hx⟩
    · rintro ⟨i, hi, hx⟩
      cases i with
      | zero => exact .inl hx.symm
      | succ i => exact .inr ⟨i, Nat.lt_of_succ_lt_succ hi, hx⟩

theorem nodup_labels (h : n ≤ c.size) : (c.labels s n).Nodup := by
  induction n generalizing s with
  | zero => exact List.nodup_nil
  | succ n ih =>
    refine List.nodup_cons.mpr ⟨fun hm => ?_, ih (Nat.le_of_succ_le h)⟩
    obtain ⟨i, hi, he⟩ := mem_labels.mp hm
    have hloop : c.next^[i + 1] s = c.next^[0] s := he
    have hi₁ : i + 1 < c.size := Nat.lt_of_lt_of_le (Nat.succ_lt_succ hi) h
    have hi₀ : 0 < c.size := Nat.lt_of_le_of_lt (Nat.zero_le _) hi₁
    exact absurd (c.eq_of_index_iterate_eq s hi₁ hi₀ (congrArg c.index hloop)) (Nat.succ_ne_zero i)

theorem prefix_labels {window : List σ} (h : window <+: c.labels s n) :
    window = c.labels s window.length := by
  induction n generalizing s window with
  | zero => rw [List.prefix_nil.mp h, List.length_nil, labels]
  | succ n ih =>
    rcases List.prefix_cons_iff.mp h with rfl | ⟨rest, rfl, hrest⟩
    · rfl
    · exact congrArg (s :: ·) (ih hrest)

theorem infix_labels {window : List σ} (h : window <:+: c.labels s n) :
    ∃ t, window = c.labels t window.length := by
  induction n generalizing s with
  | zero => exact ⟨s, prefix_labels (n := 0) (by rw [List.infix_nil.mp h]; exact List.nil_prefix)⟩
  | succ n ih =>
    rcases List.infix_cons_iff.mp h with hprefix | hrest
    · exact ⟨s, prefix_labels (n := n + 1) hprefix⟩
    · exact ih hrest

theorem nodup_of_infix_labels {window : List σ} (h : window <:+: c.labels s n)
    (hl : window.length ≤ c.size) : window.Nodup := by
  obtain ⟨t, ht⟩ := infix_labels h
  rw [ht]
  exact nodup_labels hl

end CyclicCounter
end Interaction
