import WireShock.Interaction.Program
import WireShock.Interaction.Run

namespace Interaction

variable {S : Signature} {α β γ δ σ ε : Type}

-- from related states the two programs give related results and leave related states
def Program.Relates (h : Semantics S σ) (E : σ → σ → Prop) (R : α → β → Prop) (p : Program S α)
    (q : Program S β) : Prop :=
  ∀ s t, E s t → R (p.run h s).1 (q.run h t).1 ∧ E (p.run h s).2 (q.run h t).2

abbrev Program.Parallel (h : Semantics S σ) (E : σ → σ → Prop) (p : Program S α) : Prop :=
  p.Relates h E Eq p

namespace Program

variable {h : Semantics S σ} {E : σ → σ → Prop} {R : α → β → Prop} {Q : γ → δ → Prop}

theorem relates_pure {a : α} {b : β} (hr : R a b) :
    (pure a : Program S α).Relates h E R (pure b) := fun _ _ he => ⟨hr, he⟩

theorem relates_bind {p : Program S α} {q : Program S β} {f : α → Program S γ}
    {g : β → Program S δ} (hp : p.Relates h E R q)
    (hf : ∀ a b, R a b → (f a).Relates h E Q (g b)) : (p >>= f).Relates h E Q (q >>= g) := by
  intro s t he
  obtain ⟨hr, he'⟩ := hp s t he
  have hfg := hf _ _ hr _ _ he'
  rw [run_bind, run_bind]
  exact hfg

theorem parallel_pure (a : α) : (pure a : Program S α).Parallel h E := relates_pure rfl

theorem parallel_bind {p : Program S α} {f : α → Program S γ} (hp : p.Parallel h E)
    (hf : ∀ a, (f a).Parallel h E) : (p >>= f).Parallel h E := by
  apply relates_bind hp
  intro a b hab
  cases hab
  exact hf a

theorem relates_ite {c : Prop} [Decidable c] {p p' : Program S α} {q q' : Program S β}
    (hp : c → p.Relates h E R q) (hq : ¬ c → p'.Relates h E R q') :
    (if c then p else p').Relates h E R (if c then q else q') := by
  split
  · exact hp ‹_›
  · exact hq ‹_›

theorem parallel_of_uses {P : S.Op → Prop} (hP : ∀ o, P o → (perform o).Parallel h E)
    {p : Program S α} (hp : p.Uses P) : p.Parallel h E := by
  induction p with
  | done a => exact parallel_pure a
  | call o next ih => exact parallel_bind (hP o hp.1) fun r => ih r (hp.2 r)

-- what a view lets through keeps apart the states that it tells apart, and no others
theorem parallel_of_view {view : σ → σ} {o : S.Op}
    (hv : ∀ s, h o (view s) = ((h o s).1, view (h o s).2)) :
    (perform o).Parallel h fun s t => view s = view t := by
  intro s t he
  have heq : ((h o s).1, view (h o s).2) = ((h o t).1, view (h o t).2) := by
    rw [← hv s, ← hv t, he]
  exact Prod.mk.inj heq

end Program

theorem runs_related {step : σ → ε → σ} {E : σ → σ → Prop}
    (hstep : ∀ s t e, E s t → E (step s e) (step t e)) {s t : σ} (he : E s t) (es : List ε) :
    E (runs step s es) (runs step t es) := by
  induction es generalizing s t with
  | nil => exact he
  | cons e es ih => exact ih (hstep s t e he)

end Interaction
