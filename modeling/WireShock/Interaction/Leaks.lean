import Mathlib.Logic.Function.Basic
import WireShock.Interaction.Ledger

namespace Interaction.Ledger

variable {K : Type} {l : Ledger K} {k : K} {p : Nat}

def Balanced (l : Ledger K) : Prop := ∀ p ∈ l.live, ∃ k, p ∈ l.owned k

def Stranded (l : Ledger K) (p : Nat) : Prop := p ∈ l.live ∧ ∀ k, p ∉ l.owned k

theorem Sound.allocate (hs : l.Sound) : l.allocate.Sound :=
  ⟨fun k p hp => List.mem_cons_of_mem _ (hs.live k p hp), hs.nodup, hs.disjoint⟩

theorem Sound.stranded_allocate (hs : l.Sound) (hf : l.Fresh) : l.allocate.Stranded l.next :=
  ⟨List.mem_cons_self, fun _ hk => Nat.lt_irrefl _ (hs.lt_next hf hk)⟩

section

variable {m : Ledger K}

theorem Fresh.ne_of_mem_release? (hf : l.Fresh) {old : Option Nat} (hp : p ∈ (l.release? old).live) :
    p ∈ l.live ∧ some p ≠ old := by
  cases old with
  | none => exact ⟨hp, nofun⟩
  | some q =>
    refine ⟨List.mem_of_mem_erase hp, fun h => ?_⟩
    rw [Option.some.inj h] at hp
    exact hf.not_mem_release hp

-- k gives up a block, or a fresh block takes its place, or both
theorem Balanced.exchange (hb : l.Balanced) (hf : l.Fresh) (k : K) (old : Option Nat)
    (hlive : ∀ p ∈ m.live, p ∈ m.owned k ∨ p ∈ (l.release? old).live)
    (hother : ∀ j, j ≠ k → m.owned j = l.owned j)
    (hself : ∀ p ∈ l.owned k, some p ≠ old → p ∈ m.owned k) : m.Balanced := by
  intro p hp
  rcases hlive p hp with hk | hp
  · exact ⟨k, hk⟩
  obtain ⟨hp, hne⟩ := hf.ne_of_mem_release? hp
  obtain ⟨j, hj⟩ := hb p hp
  by_cases hjk : j = k
  · subst hjk
    exact ⟨j, hself p hj hne⟩
  · exact ⟨j, hother j hjk ▸ hj⟩

theorem Balanced.discard (hb : l.Balanced) (k : K)
    (hlive : ∀ p ∈ m.live, p ∈ l.live ∧ p ∉ l.owned k)
    (hother : ∀ j, j ≠ k → m.owned j = l.owned j) : m.Balanced := by
  intro p hp
  obtain ⟨hp, hk⟩ := hlive p hp
  obtain ⟨j, hj⟩ := hb p hp
  refine ⟨j, ?_⟩
  rw [hother j fun hjk => hk (hjk ▸ hj)]
  exact hj

theorem Balanced.congr (hb : l.Balanced) (hl : m.live = l.live) (ho : m.owned = l.owned) :
    m.Balanced := by
  intro p hp
  rw [ho]
  exact hb p (hl ▸ hp)

end

variable [DecidableEq K]

def assign (l : Ledger K) (k : K) (p : Nat) : Ledger K :=
  { l with owned := Function.update l.owned k (l.owned k ++ [p]) }

def drop (l : Ledger K) (k : K) (p : Nat) : Ledger K :=
  { l with owned := Function.update l.owned k ((l.owned k).erase p) }

-- a block is made, and goes to k unless something fails after that
def attempt (l : Ledger K) (k : K) (creates delivers : Bool) : Ledger K :=
  if creates then if delivers then l.allocate.assign k l.next else l.allocate else l

def settle (l : Ledger K) (k : K) (p : Nat) (releases : Bool) : Ledger K :=
  (if releases then l.release p else l).drop k p

theorem mem_assign {j : K} {q : Nat} :
    q ∈ (l.assign k p).owned j ↔ q ∈ l.owned j ∨ (j = k ∧ q = p) := by
  by_cases hj : j = k
  · subst hj
    simp [assign]
  · simp [assign, hj]

theorem Sound.mem_drop (hs : l.Sound) {j : K} {q : Nat} :
    q ∈ (l.drop k p).owned j ↔ q ∈ l.owned j ∧ ¬ (j = k ∧ q = p) := by
  by_cases hj : j = k
  · subst hj
    simp [drop, (hs.nodup j).mem_erase_iff, and_comm]
  · simp [drop, hj]

theorem Fresh.attempt (h : l.Fresh) (creates delivers : Bool) :
    (l.attempt k creates delivers).Fresh := by
  cases creates with
  | false => exact h
  | true => cases delivers <;> exact ⟨h.allocate.nodup, h.allocate.below⟩

theorem Fresh.settle (h : l.Fresh) (releases : Bool) : (l.settle k p releases).Fresh := by
  cases releases with
  | false => exact ⟨h.nodup, h.below⟩
  | true => exact ⟨(h.release p).nodup, (h.release p).below⟩

theorem Sound.assign_next (hs : l.Sound) (hf : l.Fresh) :
    (l.allocate.assign k l.next).Sound := by
  have hown : (l.allocate.assign k l.next).owned k = l.owned k ++ [l.next] := by
    simp [assign, Ledger.allocate]
  have hnext : l.next ∉ l.owned k := fun h => Nat.lt_irrefl _ (hs.lt_next hf h)
  refine hs.update hf k (fun j hj => ?_) (fun p hp _ => List.mem_cons_of_mem _ hp)
    (fun p hp => ?_) ?_ (fun p hp => ?_)
  · simp [assign, Ledger.allocate, hj]
  · rcases mem_assign.mp hp with h | ⟨_, rfl⟩
    · exact hs.allocate.live k p h
    · exact List.mem_cons_self
  · rw [hown]
    exact (hs.nodup k).append (List.nodup_singleton _) (by simpa using hnext)
  · rcases mem_assign.mp hp with h | ⟨_, rfl⟩
    · exact Or.inl h
    · exact Or.inr (Nat.le_refl _)

theorem Sound.attempt (hs : l.Sound) (hf : l.Fresh) (creates delivers : Bool) :
    (l.attempt k creates delivers).Sound := by
  cases creates with
  | false => exact hs
  | true =>
    cases delivers with
    | false => exact hs.allocate
    | true => exact hs.assign_next hf

theorem Sound.settle (hs : l.Sound) (hf : l.Fresh) (hp : p ∈ l.owned k) (releases : Bool) :
    (l.settle k p releases).Sound := by
  have howned : (l.settle k p releases).owned k = (l.owned k).erase p := by
    cases releases <;> simp [Ledger.settle, drop, release]
  have hkept : ∀ q ∈ l.live, q ≠ p → q ∈ (l.settle k p releases).live := by
    intro q hq hne
    cases releases with
    | false => exact hq
    | true => exact (List.mem_erase_of_ne hne).mpr hq
  refine hs.update hf k (fun j hj => ?_) (fun q hq hqk => hkept q hq ?_) (fun q hq => ?_) ?_
    (fun q hq => ?_)
  · cases releases <;> simp [Ledger.settle, drop, release, hj]
  · rintro rfl
    exact hqk hp
  · rw [howned, (hs.nodup k).mem_erase_iff] at hq
    exact hkept q (hs.live k q hq.2) hq.1
  · rw [howned]
    exact (hs.nodup k).erase p
  · rw [howned] at hq
    exact Or.inl (List.mem_of_mem_erase hq)

theorem Stranded.attempt (h : l.Stranded p) (hf : l.Fresh) (creates delivers : Bool) :
    (l.attempt k creates delivers).Stranded p := by
  have hnext : p ≠ l.next := fun he => hf.not_mem_next (he ▸ h.1)
  cases creates with
  | false => exact h
  | true =>
    cases delivers with
    | false => exact ⟨List.mem_cons_of_mem _ h.1, h.2⟩
    | true =>
      refine ⟨List.mem_cons_of_mem _ h.1, fun j hj => ?_⟩
      rcases mem_assign.mp hj with hj | ⟨-, he⟩
      · exact h.2 j hj
      · exact hnext he

theorem Stranded.settle {q : Nat} (h : l.Stranded p) (hs : l.Sound) (hq : q ∈ l.owned k)
    (releases : Bool) : (l.settle k q releases).Stranded p := by
  have hne : p ≠ q := fun he => h.2 k (he ▸ hq)
  cases releases with
  | false => exact ⟨h.1, fun j hj => h.2 j (hs.mem_drop.mp hj).1⟩
  | true => exact ⟨(List.mem_erase_of_ne hne).mpr h.1, fun j hj => h.2 j (hs.mem_drop.mp hj).1⟩

theorem balanced_attempt (hs : l.Sound) (hf : l.Fresh) (hl : l.Balanced)
    (creates delivers : Bool) :
    (l.attempt k creates delivers).Balanced ↔ (creates → delivers) := by
  cases creates with
  | false => exact iff_of_true hl nofun
  | true =>
    cases delivers with
    | false =>
      refine iff_of_false (fun h => ?_) (by simp)
      obtain ⟨hmem, howned⟩ := hs.stranded_allocate hf
      obtain ⟨j, hj⟩ := h l.next hmem
      exact howned j hj
    | true =>
      refine iff_of_true (fun q hq => ?_) fun _ => rfl
      rcases List.mem_cons.mp hq with rfl | hq
      · exact ⟨k, mem_assign.mpr (Or.inr ⟨rfl, rfl⟩)⟩
      · obtain ⟨j, hj⟩ := hl q hq
        exact ⟨j, mem_assign.mpr (Or.inl hj)⟩

theorem balanced_settle (hs : l.Sound) (hf : l.Fresh) (hl : l.Balanced) (hp : p ∈ l.owned k)
    (releases : Bool) : (l.settle k p releases).Balanced ↔ releases := by
  cases releases with
  | false =>
    -- nobody owns p any more
    refine iff_of_false (fun h => ?_) Bool.false_ne_true
    obtain ⟨j, hj⟩ := h p (hs.live k p hp)
    obtain ⟨hj, hne⟩ := hs.mem_drop.mp hj
    exact hs.disjoint j k (fun h => hne ⟨h, rfl⟩) p hj hp
  | true =>
    refine iff_of_true (fun q hq => ?_) rfl
    obtain ⟨hne, hq⟩ := hf.nodup.mem_erase_iff.mp hq
    obtain ⟨j, hj⟩ := hl q hq
    exact ⟨j, hs.mem_drop.mpr ⟨hj, fun h => hne h.2⟩⟩

end Interaction.Ledger
