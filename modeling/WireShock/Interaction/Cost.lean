import WireShock.Interaction.Program
import WireShock.Interaction.Run

namespace Interaction

section

variable {S : Signature} {σ α β : Type} {h : Semantics S σ} {weight : σ → Nat} {n m : Nat}

-- from any state, a run of the program adds at most n to the weight
def Program.Costs (h : Semantics S σ) (weight : σ → Nat) (n : Nat) (p : Program S α) : Prop :=
  ∀ s, weight (p.run h s).2 ≤ weight s + n

namespace Program

variable {p q : Program S α}

theorem costs_pure (a : α) : (pure a : Program S α).Costs h weight n := fun _ => Nat.le_add_right _ _

theorem costs_perform {o : S.Op} (ho : ∀ s, weight (h o s).2 ≤ weight s + n) :
    (perform o).Costs h weight n := ho

theorem costs_mono (hp : p.Costs h weight n) (hn : n ≤ m) : p.Costs h weight m :=
  fun s => Nat.le_trans (hp s) (Nat.add_le_add_left hn _)

theorem costs_bind {f : α → Program S β} (hp : p.Costs h weight n)
    (hf : ∀ a, (f a).Costs h weight m) : (p >>= f).Costs h weight (n + m) := fun s => by
  have hs := hp s
  have hr := hf (p.run h s).1 (p.run h s).2
  rw [run_bind]
  omega

-- the continuation is charged with what the first part leaves
theorem costs_then {f : α → Program S β} (hp : p.Costs h weight n) (hn : n ≤ m)
    (hf : ∀ a, (f a).Costs h weight (m - n)) : (p >>= f).Costs h weight m :=
  costs_mono (costs_bind hp hf) (by omega)

theorem costs_ite {c : Prop} [Decidable c] (hp : c → p.Costs h weight n)
    (hq : ¬ c → q.Costs h weight n) : (if c then p else q).Costs h weight n := by
  split
  · exact hp ‹_›
  · exact hq ‹_›

theorem costs_of_uses {P : S.Op → Prop} (hP : ∀ o s, P o → weight (h o s).2 = weight s)
    (hp : p.Uses P) : p.Costs h weight 0 := fun s =>
  Nat.le_of_eq (run_invariant (I := fun t => weight t = weight s)
    (fun o t ho ht => (hP o t ho).trans ht) hp rfl)

end Program
end

section

variable {σ ε : Type} {step : σ → ε → σ} {bound : ε → Nat}

def total (step : σ → ε → σ) (weight : σ → Nat) : σ → List ε → Nat
  | _, [] => 0
  | s, e :: es => weight (step s e) + total step weight (step s e) es

theorem total_le {weight : σ → Nat} (h : ∀ s e, weight (step s e) ≤ bound e) (s : σ) (es : List ε) :
    total step weight s es ≤ (es.map bound).sum := by
  induction es generalizing s with
  | nil => exact Nat.le_refl _
  | cons e es ih =>
    have hs := h s e
    have hr := ih (step s e)
    rw [total, List.map_cons, List.sum_cons]
    omega

end
end Interaction
