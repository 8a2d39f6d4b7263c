import WireShock.Interaction.Episodes
import WireShock.Interaction.Program

namespace Interaction

section

variable {S : Signature} {α σ μ : Type}

-- a second state beside the one that answers the calls, which sees each call with its answer
def Semantics.observed (h : Semantics S σ) (observe : (o : S.Op) → S.Reply o → μ → μ) :
    Semantics S (σ × μ) := fun o s => ((h o s.1).1, (h o s.1).2, observe o (h o s.1).1 s.2)

namespace Program

variable {h : Semantics S σ} {observe : (o : S.Op) → S.Reply o → μ → μ} {p : Program S α}
  {s : σ × μ}

theorem reply_observed (p : Program S α) (s : σ × μ) :
    (p.run (h.observed observe) s).1 = (p.run h s.1).1 := by
  induction p generalizing s with
  | done a => rfl
  | call o next ih => exact ih (h o s.1).1 (h.observed observe o s).2

theorem state_observed (p : Program S α) (s : σ × μ) :
    (p.run (h.observed observe) s).2.1 = (p.run h s.1).2 := by
  induction p generalizing s with
  | done a => rfl
  | call o next ih => exact ih (h o s.1).1 (h.observed observe o s).2

theorem observed_invariant {I : μ → Prop} {P : S.Op → Prop}
    (hstep : ∀ o r m, P o → I m → I (observe o r m)) (hp : p.Uses P) (hs : I s.2) :
    I (p.run (h.observed observe) s).2.2 :=
  run_invariant (I := fun t : σ × μ => I t.2) (fun o t ho ht => hstep o _ t.2 ho ht) hp hs

end Program
end

section

variable {σ τ ε : Type} {step : τ → ε → τ} {turnsOn : τ → ε → Prop} {turnsOff : ε → Prop}

-- turned on at some time in a run, and not turned off since
def TurnedOn (step : τ → ε → τ) (turnsOn : τ → ε → Prop) (turnsOff : ε → Prop) (t : τ)
    (es : List ε) : Prop :=
  ∃ before e since, es = before ++ e :: since ∧ turnsOn (runs step t before) e ∧
    ∀ f ∈ since, ¬ turnsOff f

variable {t : τ} {es : List ε} {e : ε}

theorem turnedOn_concat : TurnedOn step turnsOn turnsOff t (es ++ [e]) ↔
    turnsOn (runs step t es) e ∨ TurnedOn step turnsOn turnsOff t es ∧ ¬ turnsOff e := by
  constructor
  · rintro ⟨before, start, since, hsplit, hon, hoff⟩
    rcases List.eq_nil_or_concat since with rfl | ⟨init, last, rfl⟩
    · obtain ⟨rfl, hlast⟩ := List.append_inj' hsplit rfl
      cases hlast
      exact .inl hon
    · rw [List.concat_eq_append, ← List.cons_append, ← List.append_assoc] at hsplit
      obtain ⟨rfl, hlast⟩ := List.append_inj' hsplit rfl
      cases hlast
      refine .inr ⟨⟨before, start, init, rfl, hon, fun f hf => hoff f ?_⟩, hoff e ?_⟩
      · rw [List.concat_eq_append]
        exact List.mem_append_left _ hf
      · rw [List.concat_eq_append]
        exact List.mem_append_right _ List.mem_cons_self
  · rintro (hon | ⟨⟨before, start, since, rfl, hon, hoff⟩, he⟩)
    · exact ⟨es, e, [], rfl, hon, fun f hf => nomatch hf⟩
    · refine ⟨before, start, since ++ [e], by rw [List.append_assoc, List.cons_append], hon, ?_⟩
      intro f hf
      rcases List.mem_append.mp hf with hf | hf
      · exact hoff f hf
      · rw [List.mem_singleton.mp hf]
        exact he

theorem TurnedOn.imp {turnsOn' : τ → ε → Prop} (himp : ∀ t e, turnsOn t e → turnsOn' t e)
    (h : TurnedOn step turnsOn turnsOff t es) : TurnedOn step turnsOn' turnsOff t es := by
  obtain ⟨before, e, since, hsplit, hon, hoff⟩ := h
  exact ⟨before, e, since, hsplit, himp _ e hon, hoff⟩

theorem TurnedOn.without {other : τ → ε → Prop} (h : TurnedOn step turnsOn turnsOff t es)
    (hn : ¬ TurnedOn step other turnsOff t es) :
    TurnedOn step (fun t e => turnsOn t e ∧ ¬ other t e) turnsOff t es := by
  obtain ⟨before, e, since, hsplit, hon, hoff⟩ := h
  exact ⟨before, e, since, hsplit, ⟨hon, fun ho => hn ⟨before, e, since, hsplit, ho, hoff⟩⟩, hoff⟩

theorem isOn_runs {upper : σ → ε → σ} (isOn : σ → Prop) (view : σ → τ)
    (hview : ∀ s e, view (upper s e) = step (view s) e)
    (h : ∀ s e, isOn (upper s e) ↔ turnsOn (view s) e ∨ isOn s ∧ ¬ turnsOff e) {s : σ}
    (hs : ¬ isOn s) (es : List ε) :
    isOn (runs upper s es) ↔ TurnedOn step turnsOn turnsOff (view s) es := by
  have hruns : ∀ es, view (runs upper s es) = runs step (view s) es := fun es => by
    induction es using List.reverseRecOn with
    | nil => rfl
    | append_singleton es e ih => rw [runs_concat, hview, ih, runs_concat]
  induction es using List.reverseRecOn with
  | nil =>
    refine iff_of_false hs ?_
    rintro ⟨before, e, since, hsplit, -⟩
    exact List.append_ne_nil_of_right_ne_nil before (List.cons_ne_nil e since) hsplit.symm
  | append_singleton es e ih =>
    rw [runs_concat, turnedOn_concat, ← hruns]
    exact (h (runs upper s es) e).trans (or_congr_right (and_congr_left' ih))

end
end Interaction
