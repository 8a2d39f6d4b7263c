import WireShock.Interaction.Program

namespace Interaction

structure Monitor (S : Signature) (μ : Type) where
  allowed : S.Op → μ → Prop
  admits : (o : S.Op) → S.Reply o → Prop
  observe : (o : S.Op) → S.Reply o → μ → μ

namespace Monitor

variable {S : Signature} {α β μ : Type} {M : Monitor S μ} {m : μ}

def contract (M : Monitor S μ) : Contract S μ := fun o K m =>
  M.allowed o m ∧ ∀ r, M.admits o r → K r (M.observe o r m)

def Follows (M : Monitor S μ) (p : Program S α) (Q : α → μ → Prop) (m : μ) : Prop :=
  p.wp M.contract Q m

theorem contract_monotone : M.contract.Monotone :=
  fun _ _ _ _ h hT => ⟨hT.1, fun r hr => h r _ (hT.2 r hr)⟩

theorem follows_call {o : S.Op} {next : S.Reply o → Program S α} {Q : α → μ → Prop} :
    M.Follows (.call o next) Q m ↔
      M.allowed o m ∧ ∀ r, M.admits o r → M.Follows (next r) Q (M.observe o r m) := Iff.rfl

theorem follows_pure {Q : α → μ → Prop} {a : α} (h : Q a m) : M.Follows (pure a) Q m := h

theorem follows_perform {o : S.Op} {Q : S.Reply o → μ → Prop} (ha : M.allowed o m)
    (hr : ∀ r, M.admits o r → Q r (M.observe o r m)) : M.Follows (Program.perform o) Q m := ⟨ha, hr⟩

theorem follows_then {o : S.Op} {f : S.Reply o → Program S α} {Q : α → μ → Prop}
    (ha : M.allowed o m) (hf : ∀ r, M.admits o r → M.Follows (f r) Q (M.observe o r m)) :
    M.Follows (Program.perform o >>= f) Q m := ⟨ha, hf⟩

theorem follows_bind {p : Program S α} {f : α → Program S β} {Q : α → μ → Prop}
    {R : β → μ → Prop} (hp : M.Follows p Q m) (hf : ∀ a n, Q a n → M.Follows (f a) R n) :
    M.Follows (p >>= f) R m := by
  rw [Follows, Program.wp_bind]
  exact Program.wp_mono contract_monotone hf hp

theorem follows_ite {c : Prop} [Decidable c] {p q : Program S α} {Q : α → μ → Prop}
    (hp : c → M.Follows p Q m) (hq : ¬ c → M.Follows q Q m) :
    M.Follows (if c then p else q) Q m := Program.wp_ite hp hq

theorem follows_mono {p : Program S α} {Q R : α → μ → Prop} (h : ∀ a n, Q a n → R a n)
    (hp : M.Follows p Q m) : M.Follows p R m := Program.wp_mono contract_monotone h hp

theorem run_follows {σ : Type} {h : Semantics S σ} {I : μ → σ → Prop}
    (hstep : ∀ o m s, M.allowed o m → I m s →
      M.admits o (h o s).1 ∧ I (M.observe o (h o s).1 m) (h o s).2)
    {p : Program S α} {Q : α → μ → Prop} (hp : M.Follows p Q m) {s : σ} (hs : I m s) :
    ∃ n, Q (p.run h s).1 n ∧ I n (p.run h s).2 := by
  induction p generalizing m s with
  | done a => exact ⟨m, hp, hs⟩
  | call o next ih =>
    have hc := hstep o m s hp.1 hs
    exact ih (h o s).1 (hp.2 _ hc.1) hc.2

theorem follows_ensures {p : Program S α} {P : S.Op → Prop} {Q : α → μ → Prop} {R : α → Prop}
    (hp : M.Follows p Q m) (hr : p.Ensures P R) : M.Follows p (fun a n => Q a n ∧ R a) m := by
  induction p generalizing m with
  | done a => exact ⟨hp, hr⟩
  | call o next ih => exact ⟨hp.1, fun r hd => ih r (hp.2 r hd) (hr.2 r)⟩

def Neutral (M : Monitor S μ) (o : S.Op) : Prop := ∀ m, M.allowed o m ∧ ∀ r, M.observe o r m = m

theorem follows_bind_neutral {o : S.Op} {f : S.Reply o → Program S α} {Q : α → μ → Prop}
    (ho : M.Neutral o) (hf : ∀ r, M.admits o r → M.Follows (f r) Q m) :
    M.Follows (Program.perform o >>= f) Q m := by
  refine follows_call.mpr ⟨(ho m).1, fun r hr => ?_⟩
  rw [(ho m).2 r]
  exact hf r hr

theorem follows_of_uses {P : S.Op → Prop} (hP : ∀ o, P o → M.Neutral o) {p : Program S α}
    (hp : p.Uses P) : M.Follows p (fun _ n => n = m) m := by
  induction p with
  | done a => exact follows_pure rfl
  | call o next ih =>
    refine follows_call.mpr ⟨(hP o hp.1 m).1, fun r _ => ?_⟩
    rw [(hP o hp.1 m).2 r]
    exact ih r (hp.2 r)

end Monitor
end Interaction
