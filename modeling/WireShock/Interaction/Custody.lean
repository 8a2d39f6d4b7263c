import Mathlib.Data.List.Nodup
import Mathlib.Logic.Function.Basic

namespace Interaction

-- tickets numbered in their order of arrival: one is in hand, waits in a queue or is completed
structure Custody (Q : Type) where
  entered : Nat
  queue : Q → List Nat
  forwarded : Q → List Nat
  completed : List Nat
  held : Option Nat

namespace Custody

variable {Q : Type}

def empty : Custody Q := ⟨0, fun _ => [], fun _ => [], [], none⟩

def taken (c : Custody Q) : List Nat := c.completed ++ c.held.toList

def among (tickets reference : List Nat) : List Nat := tickets.filter (· ∈ reference)

def enter (c : Custody Q) : Custody Q :=
  { c with entered := c.entered + 1, held := some c.entered }

def complete (c : Custody Q) (r : Nat) : Custody Q :=
  { c with completed := c.completed ++ [r], held := none }

section

variable [DecidableEq Q]

def forward (c : Custody Q) (r : Nat) (q : Q) : Custody Q :=
  { c with
    queue := Function.update c.queue q (c.queue q ++ [r])
    forwarded := Function.update c.forwarded q (c.forwarded q ++ [r])
    held := none }

def retrieve (c : Custody Q) (r : Nat) (q : Q) (rest : List Nat) : Custody Q :=
  { c with queue := Function.update c.queue q rest, held := some r }

end

structure Sound (c : Custody Q) : Prop where
  entered : ∀ r, r < c.entered ↔ r ∈ c.taken ∨ ∃ q, r ∈ c.queue q
  nodup : c.taken.Nodup
  history : ∀ q, among c.taken (c.forwarded q) ++ c.queue q = c.forwarded q
  ordered : ∀ q, (c.forwarded q).Pairwise (· < ·)
  apart : ∀ {q q' r}, r ∈ c.forwarded q → r ∈ c.forwarded q' → q = q'

-- from c on, tickets have left only the queues in P, and whoever took them had them from there
structure Drawn (c d : Custody Q) (P : Q → Prop) : Prop where
  others : ∀ q, ¬ P q → d.queue q = c.queue q
  remaining : ∀ q, ∀ r ∈ d.queue q, r ∈ c.queue q
  source : ∀ r ∈ d.taken, r ∈ c.taken ∨ ∃ q, P q ∧ r ∈ c.queue q

variable {c : Custody Q} {q : Q} {r : Nat}

theorem mem_among {l reference : List Nat} : r ∈ among l reference ↔ r ∈ l ∧ r ∈ reference := by
  simp [among]

theorem among_append (l m reference : List Nat) :
    among (l ++ m) reference = among l reference ++ among m reference := List.filter_append ..

theorem among_singleton (r : Nat) (reference : List Nat) :
    among [r] reference = if r ∈ reference then [r] else [] := by
  split <;> rename_i h <;> simp [among, h]

theorem among_snoc {l reference : List Nat} (h : r ∉ l) :
    among l (reference ++ [r]) = among l reference := by
  refine List.filter_congr fun s hs => ?_
  have hsr : s ≠ r := fun he => h (he ▸ hs)
  simp [hsr]

theorem sound_empty : (empty : Custody Q).Sound where
  entered := by simp [empty, taken]
  nodup := by simp [empty, taken]
  history := by simp [empty, taken, among]
  ordered := by simp [empty]
  apart := by simp [empty]

theorem taken_complete (h : c.held = some r) : (c.complete r).taken = c.taken := by
  simp [taken, complete, h]

section

variable [DecidableEq Q] {q' : Q} {t : Nat}

theorem mem_queue_forward :
    t ∈ (c.forward r q).queue q' ↔ t ∈ c.queue q' ∨ (t = r ∧ q' = q) := by
  rcases eq_or_ne q' q with rfl | hq
  · simp [forward]
  · simp [forward, hq]

theorem mem_forwarded_forward :
    t ∈ (c.forward r q).forwarded q' ↔ t ∈ c.forwarded q' ∨ (t = r ∧ q' = q) := by
  rcases eq_or_ne q' q with rfl | hq
  · simp [forward]
  · simp [forward, hq]

theorem mem_queue_retrieve {rest : List Nat} (hq : c.queue q = r :: rest) :
    t ∈ c.queue q' ↔ t ∈ (c.retrieve r q rest).queue q' ∨ (t = r ∧ q' = q) := by
  rcases eq_or_ne q' q with rfl | hne
  · simp [retrieve, hq, or_comm]
  · simp [retrieve, hne]

end

namespace Sound

theorem mem_forwarded (h : c.Sound) (hr : r ∈ c.queue q) : r ∈ c.forwarded q := by
  rw [← h.history q]
  exact List.mem_append_right _ hr

theorem forwarded_lt (h : c.Sound) (hr : r ∈ c.forwarded q) : r < c.entered := by
  rw [← h.history q, List.mem_append, mem_among] at hr
  rcases hr with hr | hr
  · exact (h.entered r).mpr (.inl hr.1)
  · exact (h.entered r).mpr (.inr ⟨q, hr⟩)

theorem nodup_forwarded (h : c.Sound) (q : Q) : (c.forwarded q).Nodup :=
  (h.ordered q).imp Nat.ne_of_lt

theorem nodup_queue (h : c.Sound) (q : Q) : (c.queue q).Nodup := by
  have hn := h.nodup_forwarded q
  rw [← h.history q] at hn
  exact (List.nodup_append.mp hn).2.1

theorem not_mem_taken (h : c.Sound) (hr : r ∈ c.queue q) : r ∉ c.taken := by
  intro ht
  have hn := h.nodup_forwarded q
  rw [← h.history q] at hn
  have hf : r ∈ among c.taken (c.forwarded q) := mem_among.mpr ⟨ht, h.mem_forwarded hr⟩
  exact (List.nodup_append.mp hn).2.2 r hf r hr rfl

theorem eq_of_mem_queue (h : c.Sound) {q' : Q} (hr : r ∈ c.queue q) (hr' : r ∈ c.queue q') :
    q' = q := h.apart (h.mem_forwarded hr') (h.mem_forwarded hr)

theorem enter (h : c.Sound) (hheld : c.held = none) : c.enter.Sound := by
  have ht : c.enter.taken = c.taken ++ [c.entered] := by
    simp [taken, Custody.enter, hheld]
  have hfresh : ∀ q, c.entered ∉ c.forwarded q := fun q hq => Nat.lt_irrefl _ (h.forwarded_lt hq)
  refine ⟨fun r => ?_, ?_, fun q => ?_, h.ordered, h.apart⟩
  · have hr := h.entered r
    rw [ht, List.mem_append, List.mem_singleton]
    show r < c.entered + 1 ↔ _ ∨ ∃ q, r ∈ c.queue q
    rw [Nat.lt_succ_iff_lt_or_eq, hr]
    tauto
  · rw [ht, List.nodup_append]
    refine ⟨h.nodup, List.nodup_singleton _, ?_⟩
    rintro r hr s hs rfl
    rw [List.mem_singleton.mp hs] at hr
    exact Nat.lt_irrefl _ ((h.entered _).mpr (.inl hr))
  · have hn := hfresh q
    rw [ht, among_append]
    simpa [Custody.enter, among_singleton, hn] using h.history q

theorem complete (h : c.Sound) (hheld : c.held = some r) : (c.complete r).Sound := by
  have ht := taken_complete hheld
  refine ⟨fun s => ?_, ht ▸ h.nodup, fun q => ?_, h.ordered, h.apart⟩
  · rw [ht]
    exact h.entered s
  · rw [ht]
    exact h.history q

section

variable [DecidableEq Q]

theorem forward (h : c.Sound) (hheld : c.held = some r) (hlast : r + 1 = c.entered)
    (hfresh : ∀ q, r ∉ c.forwarded q) (q : Q) : (c.forward r q).Sound := by
  have hc : c.taken = c.completed ++ [r] := by simp [taken, hheld]
  have ht : (c.forward r q).taken = c.completed := by simp [taken, Custody.forward]
  have hn := h.nodup
  rw [hc, List.nodup_append] at hn
  have hr : r ∉ c.completed := fun hr => hn.2.2 r hr r List.mem_cons_self rfl
  refine ⟨fun t => ?_, ht ▸ hn.1, fun q' => ?_, fun q' => ?_, fun {q₁ q₂ t} h₁ h₂ => ?_⟩
  · show t < c.entered ↔ _
    rw [ht, h.entered t, hc, List.mem_append, List.mem_singleton]
    simp only [mem_queue_forward, exists_or, exists_and_left, exists_eq, and_true]
    tauto
  · have hh := h.history q'
    rw [hc, among_append, among_singleton, if_neg (hfresh q'), List.append_nil] at hh
    rw [ht]
    rcases eq_or_ne q' q with rfl | hq
    · simp only [Custody.forward, Function.update_self]
      rw [among_snoc hr, ← List.append_assoc, hh]
    · simpa only [Custody.forward, Function.update_of_ne hq] using hh
  · rcases eq_or_ne q' q with rfl | hq
    · simp only [Custody.forward, Function.update_self, List.pairwise_append,
        List.pairwise_singleton, true_and]
      refine ⟨h.ordered q', fun t ht u hu => ?_⟩
      have hlt := h.forwarded_lt ht
      have hne : t ≠ r := fun he => hfresh q' (he ▸ ht)
      rw [List.mem_singleton.mp hu]
      omega
    · simpa [Custody.forward, Function.update_of_ne hq] using h.ordered q'
  · rcases mem_forwarded_forward.mp h₁ with hf₁ | ⟨rfl, rfl⟩
    · rcases mem_forwarded_forward.mp h₂ with hf₂ | ⟨rfl, -⟩
      · exact h.apart hf₁ hf₂
      · exact absurd hf₁ (hfresh q₁)
    · rcases mem_forwarded_forward.mp h₂ with hf₂ | ⟨-, rfl⟩
      · exact absurd hf₂ (hfresh q₂)
      · rfl

theorem retrieve (h : c.Sound) (hheld : c.held = none) {rest : List Nat}
    (hq : c.queue q = r :: rest) : (c.retrieve r q rest).Sound := by
  have ht : (c.retrieve r q rest).taken = c.taken ++ [r] := by
    simp [taken, Custody.retrieve, hheld]
  have hr : r ∈ c.queue q := hq ▸ List.mem_cons_self
  refine ⟨fun t => ?_, ?_, fun q' => ?_, h.ordered, h.apart⟩
  · show t < c.entered ↔ _
    rw [ht, h.entered t, List.mem_append, List.mem_singleton]
    simp only [mem_queue_retrieve hq, exists_or, exists_and_left, exists_eq, and_true]
    tauto
  · rw [ht, List.nodup_append]
    refine ⟨h.nodup, List.nodup_singleton r, ?_⟩
    rintro t htaken u hu rfl
    rw [List.mem_singleton.mp hu] at htaken
    exact h.not_mem_taken hr htaken
  · have hh := h.history q'
    rw [ht, among_append, among_singleton]
    rcases eq_or_ne q' q with rfl | hne
    · have hf := h.mem_forwarded hr
      rw [hq] at hh
      simpa [Custody.retrieve, hf] using hh
    · have hf : r ∉ c.forwarded q' := fun hf => hne (h.apart hf (h.mem_forwarded hr))
      simpa [Custody.retrieve, Function.update_of_ne hne, hf] using hh

end

theorem count_taken (h : c.Sound) (hr : r < c.entered) :
    (c.taken.count r = 1 ∧ ∀ q, r ∉ c.queue q) ∨
      (r ∉ c.taken ∧ ∃ q, (c.queue q).count r = 1 ∧ ∀ q', r ∈ c.queue q' → q' = q) := by
  rcases (h.entered r).mp hr with ht | ⟨q, hq⟩
  · exact .inl ⟨List.count_eq_one_of_mem h.nodup ht, fun q hq => h.not_mem_taken hq ht⟩
  · exact .inr ⟨h.not_mem_taken hq, q, List.count_eq_one_of_mem (h.nodup_queue q) hq,
      fun q' hq' => h.eq_of_mem_queue hq hq'⟩

end Sound

namespace Drawn

variable {d : Custody Q} {P : Q → Prop}

theorem refl (c : Custody Q) (P : Q → Prop) : c.Drawn c P :=
  ⟨fun _ _ => rfl, fun _ _ hr => hr, fun _ hr => .inl hr⟩

theorem complete (h : c.Drawn d P) (hd : d.held = some r) : c.Drawn (d.complete r) P :=
  ⟨h.others, h.remaining, fun s hs => h.source s (taken_complete hd ▸ hs)⟩

theorem retrieve [DecidableEq Q] (h : c.Drawn d P) (hd : d.held = none) (hP : P q)
    {rest : List Nat} (hq : d.queue q = r :: rest) : c.Drawn (d.retrieve r q rest) P := by
  have ht : (d.retrieve r q rest).taken = d.taken ++ [r] := by simp [taken, Custody.retrieve, hd]
  refine ⟨fun q' hq' => ?_, fun q' t ht => ?_, fun t hr => ?_⟩
  · have hne : q' ≠ q := fun he => hq' (he ▸ hP)
    exact (Function.update_of_ne hne ..).trans (h.others q' hq')
  · exact h.remaining q' t ((mem_queue_retrieve hq).mpr (.inl ht))
  · rw [ht, List.mem_append, List.mem_singleton] at hr
    rcases hr with hr | rfl
    · exact h.source t hr
    · exact .inr ⟨q, hP, h.remaining q t (hq ▸ List.mem_cons_self)⟩

end Drawn
end Custody
end Interaction
