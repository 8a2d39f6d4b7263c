import Mathlib.Algebra.Order.Ring.Nat
import Mathlib.Tactic.ByContra
import Mathlib.Tactic.Push

namespace Interaction

section

variable {σ ε : Type} (step : σ → ε → σ)

def runs (s : σ) (es : List ε) : σ := es.foldl step s

def Along (R : σ → ε → Prop) : σ → List ε → Prop
  | _, [] => True
  | s, e :: es => R s e ∧ Along R (step s e) es

def Always (P : σ → Prop) : σ → List ε → Prop
  | s, [] => P s
  | s, e :: es => P s ∧ Always P (step s e) es

def path (s : σ) (es : Nat → ε) : Nat → σ
  | 0 => s
  | n + 1 => step (path s es n) (es n)

instance decidableAlong {R : σ → ε → Prop} [∀ s e, Decidable (R s e)] :
    ∀ (s : σ) (es : List ε), Decidable (Along step R s es)
  | _, [] => isTrue trivial
  | s, e :: es => @instDecidableAnd _ _ _ (decidableAlong (step s e) es)

instance decidableAlways {P : σ → Prop} [∀ s, Decidable (P s)] :
    ∀ (s : σ) (es : List ε), Decidable (Always step P s es)
  | s, [] => inferInstanceAs (Decidable (P s))
  | s, e :: es => @instDecidableAnd _ _ _ (decidableAlways (step s e) es)

variable {step}

theorem along_of_mem {R : σ → ε → Prop} {s : σ} {es : List ε} (h : ∀ s, ∀ e ∈ es, R s e) :
    Along step R s es := by
  induction es generalizing s with
  | nil => trivial
  | cons e es ih =>
    exact ⟨h s e List.mem_cons_self, ih fun s f hf => h s f (List.mem_cons_of_mem e hf)⟩

theorem along_of_forall {R : σ → ε → Prop} (h : ∀ s e, R s e) {s : σ} {es : List ε} :
    Along step R s es := along_of_mem fun s e _ => h s e

theorem along_mono {R Q : σ → ε → Prop} (h : ∀ s e, R s e → Q s e) {s : σ} {es : List ε}
    (hR : Along step R s es) : Along step Q s es := by
  induction es generalizing s with
  | nil => trivial
  | cons e es ih => exact ⟨h s e hR.1, ih hR.2⟩

theorem runs_invariant {I : σ → Prop} {L : σ → ε → Prop}
    (hstep : ∀ s e, I s → L s e → I (step s e)) {s : σ} {es : List ε} (hs : I s)
    (hL : Along step L s es) : I (runs step s es) := by
  induction es generalizing s with
  | nil => exact hs
  | cons e es ih => exact ih (hstep s e hs hL.1) hL.2

theorem always_runs {P : σ → Prop} {s : σ} {es : List ε} (h : Always step P s es) :
    P (runs step s es) := by
  induction es generalizing s with
  | nil => exact h
  | cons e es ih => exact ih h.2

theorem always_of_invariant {I P : σ → Prop} {L : σ → ε → Prop}
    (hstep : ∀ s e, I s → L s e → I (step s e)) (h : ∀ s, I s → P s) {s : σ} {es : List ε}
    (hs : I s) (hL : Along step L s es) : Always step P s es := by
  induction es generalizing s with
  | nil => exact h s hs
  | cons e es ih => exact ⟨h s hs, ih (hstep s e hs hL.1) hL.2⟩

theorem always_iff_along_of_preserved {I P : σ → Prop} {L C : σ → ε → Prop}
    (hstep : ∀ s e, I s → L s e → P s → I (step s e))
    (h : ∀ s e, I s → L s e → P s → (P (step s e) ↔ C s e)) {s : σ} {es : List ε} (hs : I s)
    (hL : Along step L s es) (hp : P s) : Always step P s es ↔ Along step C s es := by
  induction es generalizing s with
  | nil => simpa [Always, Along] using hp
  | cons e es ih =>
    have hi := hstep s e hs hL.1 hp
    constructor
    · rintro ⟨_, ht⟩
      have hp' : P (step s e) := by
        cases es with
        | nil => exact ht
        | cons f es => exact ht.1
      exact ⟨(h s e hs hL.1 hp).mp hp', (ih hi hL.2 hp').mp ht⟩
    · rintro ⟨hc, ht⟩
      have hp' := (h s e hs hL.1 hp).mpr hc
      exact ⟨hp, (ih hi hL.2 hp').mpr ht⟩

theorem always_iff_along_of_invariant {I P : σ → Prop} {L C : σ → ε → Prop}
    (hstep : ∀ s e, I s → L s e → I (step s e))
    (h : ∀ s e, I s → L s e → P s → (P (step s e) ↔ C s e)) {s : σ} {es : List ε} (hs : I s)
    (hL : Along step L s es) (hp : P s) : Always step P s es ↔ Along step C s es :=
  always_iff_along_of_preserved (fun s e hi hl _ => hstep s e hi hl) h hs hL hp

theorem always_iff_along {P : σ → Prop} {C : σ → ε → Prop}
    (h : ∀ s e, P s → (P (step s e) ↔ C s e)) {s : σ} (hs : P s) (es : List ε) :
    Always step P s es ↔ Along step C s es :=
  always_iff_along_of_invariant (I := fun _ => True) (L := fun _ _ => True)
    (fun _ _ _ _ => trivial) (fun s e _ _ => h s e) trivial
    (along_of_forall fun _ _ => trivial) hs

theorem along_of_invariant {I : σ → Prop} {L R : σ → ε → Prop}
    (hstep : ∀ s e, I s → L s e → I (step s e)) (h : ∀ s e, I s → L s e → R s e) {s : σ}
    {es : List ε} (hs : I s) (hL : Along step L s es) : Along step R s es := by
  induction es generalizing s with
  | nil => trivial
  | cons e es ih => exact ⟨h s e hs hL.1, ih (hstep s e hs hL.1) hL.2⟩

theorem along_congr {I : σ → Prop} {L R C : σ → ε → Prop}
    (hstep : ∀ s e, I s → L s e → I (step s e)) (h : ∀ s e, I s → L s e → (R s e ↔ C s e))
    {s : σ} {es : List ε} (hs : I s) (hL : Along step L s es) :
    Along step R s es ↔ Along step C s es := by
  induction es generalizing s with
  | nil => exact Iff.rfl
  | cons e es ih =>
    exact and_congr (h s e hs hL.1) (ih (hstep s e hs hL.1) hL.2)

end

section

variable {σ ε : Type} {step : σ → ε → σ} {s : σ} {es : Nat → ε}

theorem path_invariant {I : σ → Prop} {L : σ → ε → Prop}
    (hstep : ∀ s e, I s → L s e → I (step s e)) {start : Nat} (hs : I (path step s es start))
    (hL : ∀ n, start ≤ n → L (path step s es n) (es n)) {n : Nat} (hn : start ≤ n) :
    I (path step s es n) := by
  induction n, hn using Nat.le_induction with
  | base => exact hs
  | succ n hn ih => exact hstep _ _ ih (hL n hn)

theorem sum_le_potential (cost potential : Nat → Nat)
    (h : ∀ n, cost n + potential (n + 1) ≤ potential n) (n : Nat) :
    ((List.range n).map cost).sum + potential n ≤ potential 0 := by
  induction n with
  | zero => simp
  | succ n ih =>
    have hn := h n
    rw [List.range_succ, List.map_append, List.sum_append]
    simp only [List.map_cons, List.map_nil, List.sum_cons, List.sum_nil]
    omega

theorem holds_until {p q : Nat → Prop} {start : Nat} (hp : p start)
    (hstep : ∀ n, start ≤ n → p n → ¬ q n → p (n + 1)) (hq : ∃ n, start ≤ n ∧ q n) :
    ∃ n, start ≤ n ∧ p n ∧ q n := by
  by_contra hne
  push Not at hne
  obtain ⟨n, hn, hqn⟩ := hq
  have hall : ∀ m, start ≤ m → p m := by
    intro m hm
    induction m, hm using Nat.le_induction with
    | base => exact hp
    | succ m hm ih => exact hstep m hm ih (hne m hm ih)
  exact hne n hn (hall n hn) hqn

end
end Interaction
