import WireShock.Interaction.Program
import WireShock.Interaction.Run

namespace Interaction

variable {S : Signature} {α Ω σ τ ε δ : Type} {view : Ω → τ → σ}

-- the abstract side reads from an oracle what the concrete side computes: whatever is left of the
-- oracle after a run, there is one that was there before it
def Program.Answered (view : Ω → τ → σ) (h : Semantics S σ) (k : Semantics S τ)
    (p : Program S α) : Prop :=
  ∀ t ω, ∃ ω', p.run h (view ω' t) = ((p.run k t).1, view ω (p.run k t).2)

def Answers (view : Ω → τ → σ) (h : Semantics S σ) (k : Semantics S τ) (P : S.Op → Prop) : Prop :=
  ∀ o, P o → (Program.perform o).Answered view h k

-- what the concrete side does alone
def Unseen (view : Ω → τ → σ) (k : Semantics S τ) (P : S.Op → Prop) : Prop :=
  ∀ o, P o → ∀ t ω, ∃ ω', view ω' t = view ω (k o t).2

namespace Program

section

variable {β : Type} {h : Semantics S σ} {k : Semantics S τ} {P : S.Op → Prop} {p : Program S α}

theorem answered_pure (a : α) : (pure a : Program S α).Answered view h k := fun _ ω => ⟨ω, rfl⟩

theorem answered_bind {f : α → Program S β} (hp : p.Answered view h k)
    (hf : ∀ a, (f a).Answered view h k) : (p >>= f).Answered view h k := by
  intro t ω
  obtain ⟨ω₁, h₁⟩ := hf (p.run k t).1 (p.run k t).2 ω
  obtain ⟨ω', h'⟩ := hp t ω₁
  refine ⟨ω', ?_⟩
  rw [run_bind, run_bind, h']
  exact h₁

theorem answered_ite {c : Prop} [Decidable c] {q : Program S α}
    (hp : c → p.Answered view h k) (hq : ¬ c → q.Answered view h k) :
    (if c then p else q).Answered view h k := by
  split
  · exact hp ‹_›
  · exact hq ‹_›

theorem answered_of_uses (hk : Answers view h k P) (hp : p.Uses P) : p.Answered view h k := by
  induction p with
  | done a => exact answered_pure a
  | call o next ih => exact answered_bind (hk o hp.1) fun r => ih r (hp.2 r)

theorem run_unseen (hk : Unseen view k P) (hp : p.Uses P) (t : τ) (ω : Ω) :
    ∃ ω', view ω' t = view ω (p.run k t).2 := by
  induction p generalizing t with
  | done a => exact ⟨ω, rfl⟩
  | call o next ih =>
    obtain ⟨ω₁, h₁⟩ := ih (k o t).1 (hp.2 _) (k o t).2
    obtain ⟨ω', h'⟩ := hk o hp.1 t ω₁
    exact ⟨ω', h'.trans h₁⟩

end
end Program

-- an event that the abstract side does not see has no label
def Explains (view : Ω → τ → σ) (step : σ → ε → σ) (next : τ → δ → τ) (label : δ → Option ε) :
    Prop :=
  ∀ t d ω, ∃ ω', runs step (view ω' t) (label d).toList = view ω (next t d)

variable {step : σ → ε → σ} {next : τ → δ → τ} {label : δ → Option ε}

-- one run of the abstract side passes through what the concrete run is seen as at every moment
theorem runs_explained (hf : Explains view step next label) (t : τ) (ds : List δ) (ω : Ω) :
    ∃ ω', ∀ fs, fs <+: ds →
      ∃ ω₁, runs step (view ω' t) (fs.filterMap label) = view ω₁ (runs next t fs) := by
  induction ds generalizing t with
  | nil =>
    refine ⟨ω, fun fs hfs => ⟨ω, ?_⟩⟩
    rw [List.prefix_nil.mp hfs]
    rfl
  | cons d ds ih =>
    obtain ⟨ω₁, h₁⟩ := ih (next t d)
    obtain ⟨ω', h'⟩ := hf t d ω₁
    refine ⟨ω', fun fs hfs => ?_⟩
    cases fs with
    | nil => exact ⟨ω', rfl⟩
    | cons f fs =>
      obtain ⟨rfl, hrest⟩ := List.cons_prefix_cons.mp hfs
      obtain ⟨ω₂, h₂⟩ := h₁ fs hrest
      have hd : (f :: fs).filterMap label = (label f).toList ++ fs.filterMap label := by
        cases hl : label f <;> simp [hl]
      refine ⟨ω₂, ?_⟩
      calc runs step (view ω' t) ((f :: fs).filterMap label)
          = runs step (runs step (view ω' t) (label f).toList) (fs.filterMap label) := by
            rw [hd, runs, List.foldl_append]
            rfl
        _ = runs step (view ω₁ (next t f)) (fs.filterMap label) := by rw [h']
        _ = view ω₂ (runs next t (f :: fs)) := h₂

section

variable {β : Type}

-- what the steps of a run put out
def outputs (step : σ → ε → σ) (out : σ → ε → List β) : σ → List ε → List β
  | _, [] => []
  | s, e :: es => out s e ++ outputs step out (step s e) es

theorem outputs_append (step : σ → ε → σ) (out : σ → ε → List β) (s : σ) (es fs : List ε) :
    outputs step out s (es ++ fs) =
      outputs step out s es ++ outputs step out (runs step s es) fs := by
  induction es generalizing s with
  | nil => rfl
  | cons e es ih =>
    rw [List.cons_append, outputs, outputs, ih, List.append_assoc]
    rfl

theorem map_outputs {γ : Type} (f : β → γ) (step : σ → ε → σ) (out : σ → ε → List β) (s : σ)
    (es : List ε) : (outputs step out s es).map f =
      outputs step (fun s e => (out s e).map f) s es := by
  induction es generalizing s with
  | nil => rfl
  | cons e es ih => rw [outputs, List.map_append, ih, outputs]

-- what each step leaves to be seen is the same on both sides, where one side has no label nothing
theorem outputs_explained (shown : σ → List β) (record : τ → List β)
    (hview : ∀ ω t, shown (view ω t) = record t) {s : σ} {t : τ} {ds : List δ}
    (h : ∀ fs, fs <+: ds → ∃ ω, runs step s (fs.filterMap label) = view ω (runs next t fs)) :
    outputs step (fun s e => shown (step s e)) s (ds.filterMap label) =
      outputs next (fun t d => (label d).elim [] fun _ => record (next t d)) t ds := by
  induction ds generalizing s t with
  | nil => rfl
  | cons d ds ih =>
    have htail (s' : σ) (hs' : runs step s (label d).toList = s') (fs : List δ) (hfs : fs <+: ds) :
        ∃ ω, runs step s' (fs.filterMap label) = view ω (runs next (next t d) fs) := by
      obtain ⟨ω, hω⟩ := h (d :: fs) (List.cons_prefix_cons.mpr ⟨rfl, hfs⟩)
      refine ⟨ω, Eq.trans ?_ hω⟩
      rw [← hs']
      cases hl : label d <;> simp [hl, runs]
    cases hl : label d with
    | none =>
      rw [hl] at htail
      rw [List.filterMap_cons_none hl, ih (htail s rfl), outputs, hl]
      rfl
    | some e =>
      rw [hl] at htail
      obtain ⟨ω, hω⟩ := htail (step s e) rfl [] List.nil_prefix
      rw [List.filterMap_cons_some hl, outputs, ih (htail (step s e) rfl), outputs, hl]
      exact congrArg (· ++ _) ((congrArg shown hω).trans (hview ω _))

def recorded (step : σ → ε → σ) (out : σ → ε → List β) (x : σ × List β) (e : ε) : σ × List β :=
  (step x.1 e, x.2 ++ out x.1 e)

theorem runs_recorded (step : σ → ε → σ) (out : σ → ε → List β) (s : σ) (shown : List β)
    (es : List ε) : runs (recorded step out) (s, shown) es =
      (runs step s es, shown ++ outputs step out s es) := by
  induction es generalizing s shown with
  | nil => exact congrArg (Prod.mk s) (List.append_nil shown).symm
  | cons e es ih => exact (ih (step s e) (shown ++ out s e)).trans (by rw [List.append_assoc]; rfl)

end
end Interaction
