import Mathlib.Data.List.Nodup

namespace Interaction

structure Ledger (K : Type) where
  live : List Nat
  next : Nat
  owned : K → List Nat

namespace Ledger

variable {K : Type} {l m : Ledger K} {k : K} {p : Nat}

structure Fresh (l : Ledger K) : Prop where
  nodup : l.live.Nodup
  below : ∀ p ∈ l.live, p < l.next

structure Sound (l : Ledger K) : Prop where
  live : ∀ k, ∀ p ∈ l.owned k, p ∈ l.live
  nodup : ∀ k, (l.owned k).Nodup
  disjoint : ∀ j k, j ≠ k → ∀ p ∈ l.owned j, p ∉ l.owned k

def allocate (l : Ledger K) : Ledger K := { l with live := l.next :: l.live, next := l.next + 1 }

def release (l : Ledger K) (p : Nat) : Ledger K := { l with live := l.live.erase p }

def release? (l : Ledger K) (p : Option Nat) : Ledger K := p.elim l l.release

theorem Fresh.not_mem_next (h : l.Fresh) : l.next ∉ l.live := fun hp =>
  Nat.lt_irrefl l.next (h.below l.next hp)

theorem Fresh.allocate (h : l.Fresh) : l.allocate.Fresh := by
  refine ⟨List.nodup_cons.mpr ⟨h.not_mem_next, h.nodup⟩, fun p hp => ?_⟩
  rcases List.mem_cons.mp hp with rfl | hp
  · exact Nat.lt_succ_self l.next
  · exact Nat.lt_succ_of_lt (h.below p hp)

theorem Fresh.release (h : l.Fresh) (p : Nat) : (l.release p).Fresh :=
  ⟨h.nodup.erase p, fun q hq => h.below q (List.mem_of_mem_erase hq)⟩

theorem mem_release? {q : Option Nat} (hp : p ∈ l.live) (hq : some p ≠ q) :
    p ∈ (l.release? q).live := by
  cases q with
  | none => exact hp
  | some q => exact (List.mem_erase_of_ne fun h => hq (congrArg some h)).mpr hp

theorem Fresh.not_mem_release (h : l.Fresh) : p ∉ (l.release p).live := h.nodup.not_mem_erase

theorem Sound.lt_next (hs : l.Sound) (hf : l.Fresh) (h : p ∈ l.owned k) : p < l.next :=
  hf.below p (hs.live k p h)

theorem Sound.congr (hs : l.Sound) (hl : m.live = l.live) (ho : m.owned = l.owned) : m.Sound := by
  refine ⟨?_, ?_, ?_⟩
  · rw [hl, ho]
    exact hs.live
  · rw [ho]
    exact hs.nodup
  · rw [ho]
    exact hs.disjoint

-- one owner's list is replaced: what it then owns it owned before or is new, and no block of
-- another owner has been released
theorem Sound.update (hs : l.Sound) (hf : l.Fresh) (k : K)
    (hother : ∀ j, j ≠ k → m.owned j = l.owned j)
    (hkept : ∀ p ∈ l.live, p ∉ l.owned k → p ∈ m.live) (hlive : ∀ p ∈ m.owned k, p ∈ m.live)
    (hnodup : (m.owned k).Nodup) (horigin : ∀ p ∈ m.owned k, p ∈ l.owned k ∨ l.next ≤ p) :
    m.Sound := by
  have hapart : ∀ j, j ≠ k → ∀ p ∈ m.owned k, p ∉ l.owned j := by
    intro j hj p hp hpj
    rcases horigin p hp with hpk | hn
    · exact hs.disjoint j k hj p hpj hpk
    · exact absurd (hs.lt_next hf hpj) (Nat.not_lt.mpr hn)
  refine ⟨fun j p hp => ?_, fun j => ?_, fun i j hij p hp hpj => ?_⟩
  · by_cases hj : j = k
    · exact hlive p (hj ▸ hp)
    · rw [hother j hj] at hp
      exact hkept p (hs.live j p hp) (hs.disjoint j k hj p hp)
  · by_cases hj : j = k
    · rwa [hj]
    · rw [hother j hj]
      exact hs.nodup j
  · by_cases hi : i = k
    · have hj : j ≠ k := fun hj => hij (hi.trans hj.symm)
      rw [hother j hj] at hpj
      exact hapart j hj p (hi ▸ hp) hpj
    · rw [hother i hi] at hp
      by_cases hj : j = k
      · exact hapart i hi p (hj ▸ hpj) hp
      · rw [hother j hj] at hpj
        exact hs.disjoint i j hij p hp hpj

theorem Sound.exchange (hs : l.Sound) (hf : l.Fresh) (k : K) (old : Option Nat) (rest : List Nat)
    (hold : (l.owned k).Perm (old.toList ++ rest)) (hother : ∀ j, j ≠ k → m.owned j = l.owned j)
    (hlive : m.live = (l.release? old).allocate.live) (hnew : (m.owned k).Perm (l.next :: rest)) :
    m.Sound := by
  have hd := List.nodup_append.mp (hold.nodup_iff.mp (hs.nodup k))
  have hnext : (l.release? old).next = l.next := by cases old <;> rfl
  have hrest : ∀ p ∈ rest, p ∈ l.owned k := fun p hp =>
    hold.mem_iff.mpr (List.mem_append_right _ hp)
  have hkeep : ∀ p ∈ l.live, some p ≠ old → p ∈ m.live := by
    intro p hp hne
    rw [hlive]
    exact List.mem_cons_of_mem _ (mem_release? hp hne)
  refine hs.update hf k hother (fun p hp hpk => hkeep p hp ?_) (fun p hp => ?_) ?_ (fun p hp => ?_)
  · rintro rfl
    exact hpk (hold.mem_iff.mpr (by simp))
  · rcases List.mem_cons.mp (hnew.mem_iff.mp hp) with rfl | hp
    · rw [hlive, allocate, hnext]
      exact List.mem_cons_self
    · refine hkeep p (hs.live k p (hrest p hp)) ?_
      rintro rfl
      exact hd.2.2 p (by simp) p hp rfl
  · rw [hnew.nodup_iff, List.nodup_cons]
    exact ⟨fun h => Nat.lt_irrefl _ (hs.lt_next hf (hrest _ h)), hd.2.1⟩
  · rcases List.mem_cons.mp (hnew.mem_iff.mp hp) with rfl | hp
    · exact Or.inr (Nat.le_refl _)
    · exact Or.inl (hrest p hp)

theorem Sound.discard (hs : l.Sound) (hf : l.Fresh) (k : K)
    (hother : ∀ j, j ≠ k → m.owned j = l.owned j)
    (hkept : ∀ p ∈ l.live, p ∉ l.owned k → p ∈ m.live) (hnew : m.owned k = []) : m.Sound := by
  refine hs.update hf k hother hkept ?_ ?_ ?_ <;> simp [hnew]

end Ledger
end Interaction
