import Mathlib.Logic.Basic

namespace Interaction

structure Signature where
  Op : Type
  Reply : Op → Type

inductive Program (S : Signature) (α : Type) where
  | done (a : α) : Program S α
  | call (o : S.Op) (next : S.Reply o → Program S α) : Program S α

abbrev Semantics (S : Signature) (σ : Type) := (o : S.Op) → σ → S.Reply o × σ

abbrev Contract (S : Signature) (μ : Type) := (o : S.Op) → (S.Reply o → μ → Prop) → μ → Prop

def Contract.Monotone {S : Signature} {μ : Type} (T : Contract S μ) : Prop :=
  ∀ o {K L : S.Reply o → μ → Prop} {m : μ}, (∀ r n, K r n → L r n) → T o K m → T o L m

namespace Program

variable {S : Signature} {α β σ μ : Type}

def bind : Program S α → (α → Program S β) → Program S β
  | .done a, f => f a
  | .call o next, f => .call o (fun r => (next r).bind f)

instance : Monad (Program S) where
  pure := Program.done
  bind := Program.bind

def perform (o : S.Op) : Program S (S.Reply o) := .call o .done

def run (h : Semantics S σ) : Program S α → σ → α × σ
  | .done a, s => (a, s)
  | .call o next, s => (next (h o s).1).run h (h o s).2

@[simp] theorem run_pure (h : Semantics S σ) (a : α) (s : σ) :
    (pure a : Program S α).run h s = (a, s) := rfl

@[simp] theorem run_perform (h : Semantics S σ) (o : S.Op) (s : σ) :
    (perform o).run h s = h o s := rfl

@[simp] theorem run_bind (h : Semantics S σ) (p : Program S α) (f : α → Program S β) (s : σ) :
    (p >>= f).run h s = (f (p.run h s).1).run h (p.run h s).2 := by
  induction p generalizing s with
  | done a => rfl
  | call o next ih => exact ih (h o s).1 (h o s).2

@[simp] theorem run_ite (h : Semantics S σ) (c : Prop) [Decidable c] (p q : Program S α) (s : σ) :
    (if c then p else q).run h s = if c then p.run h s else q.run h s := by
  split <;> rfl

def wp (T : Contract S μ) : Program S α → (α → μ → Prop) → μ → Prop
  | .done a, Q => Q a
  | .call o next, Q => T o fun r => (next r).wp T Q

section

variable {T : Contract S μ} {m : μ}

@[simp] theorem wp_pure (a : α) (Q : α → μ → Prop) : (pure a : Program S α).wp T Q m ↔ Q a m :=
  Iff.rfl

@[simp] theorem wp_perform (o : S.Op) (Q : S.Reply o → μ → Prop) :
    (perform o).wp T Q m ↔ T o Q m := Iff.rfl

@[simp] theorem wp_bind (p : Program S α) (f : α → Program S β) (Q : β → μ → Prop) :
    (p >>= f).wp T Q = p.wp T fun a => (f a).wp T Q := by
  induction p with
  | done a => rfl
  | call o next ih => exact congrArg (T o) (funext ih)

theorem wp_ite {c : Prop} [Decidable c] {p q : Program S α} {Q : α → μ → Prop}
    (hp : c → p.wp T Q m) (hq : ¬ c → q.wp T Q m) : (if c then p else q).wp T Q m := by
  split
  · exact hp ‹_›
  · exact hq ‹_›

theorem wp_mono (hT : T.Monotone) {p : Program S α} {Q R : α → μ → Prop}
    (hQR : ∀ a n, Q a n → R a n) (hp : p.wp T Q m) : p.wp T R m := by
  induction p generalizing m with
  | done a => exact hQR a m hp
  | call o next ih => exact hT o (fun r n hr => ih r hr) hp

end

def calls (P : S.Op → Prop) : Contract S Unit := fun o K m => P o ∧ ∀ r, K r m

def Ensures (P : S.Op → Prop) (Q : α → Prop) (p : Program S α) : Prop :=
  p.wp (calls P) (fun a _ => Q a) ()

def Uses (P : S.Op → Prop) (p : Program S α) : Prop := p.Ensures P fun _ => True

section

variable {P : S.Op → Prop}

theorem calls_monotone : (calls P).Monotone :=
  fun _ _ _ _ h hT => ⟨hT.1, fun r => h r () (hT.2 r)⟩

theorem ensures_pure {Q : α → Prop} {a : α} (h : Q a) : (pure a : Program S α).Ensures P Q := h

theorem ensures_perform {o : S.Op} {Q : S.Reply o → Prop} (h : P o) (hQ : ∀ r, Q r) :
    (perform o).Ensures P Q := ⟨h, hQ⟩

theorem ensures_bind {p : Program S α} {f : α → Program S β} {Q : α → Prop} {R : β → Prop}
    (hp : p.Ensures P Q) (hf : ∀ a, Q a → (f a).Ensures P R) : (p >>= f).Ensures P R := by
  rw [Ensures, wp_bind]
  exact wp_mono calls_monotone (fun a _ ha => hf a ha) hp

theorem ensures_ite {c : Prop} [Decidable c] {p q : Program S α} {Q : α → Prop}
    (hp : c → p.Ensures P Q) (hq : ¬ c → q.Ensures P Q) : (if c then p else q).Ensures P Q :=
  wp_ite hp hq

theorem ensures_uses {p : Program S α} {Q : α → Prop} (hp : p.Ensures P Q) : p.Uses P :=
  wp_mono calls_monotone (fun _ _ _ => trivial) hp

theorem uses_bind {p : Program S α} {f : α → Program S β} (hp : p.Uses P)
    (hf : ∀ a, (f a).Uses P) : (p >>= f).Uses P := ensures_bind hp fun a _ => hf a

theorem uses_ite {c : Prop} [Decidable c] {p q : Program S α} (hp : c → p.Uses P)
    (hq : ¬ c → q.Uses P) : (if c then p else q).Uses P := ensures_ite hp hq

theorem ensures_mono {R : S.Op → Prop} (hPR : ∀ o, P o → R o) {p : Program S α} {Q : α → Prop}
    (hp : p.Ensures P Q) : p.Ensures R Q := by
  induction p with
  | done a => exact hp
  | call o next ih => exact ⟨hPR o hp.1, fun r => ih r (hp.2 r)⟩

theorem uses_mono {R : S.Op → Prop} (hPR : ∀ o, P o → R o) {p : Program S α} (hp : p.Uses P) :
    p.Uses R := ensures_mono hPR hp

theorem uses_true (p : Program S α) : p.Uses fun _ => True := by
  induction p with
  | done a => trivial
  | call o next ih => exact ⟨trivial, ih⟩

end

theorem run_invariant {h : Semantics S σ} {P : S.Op → Prop} {I : σ → Prop}
    (hstep : ∀ o s, P o → I s → I (h o s).2) {p : Program S α} (hp : p.Uses P)
    {s : σ} (hs : I s) : I (p.run h s).2 := by
  induction p generalizing s with
  | done a => exact hs
  | call o next ih => exact ih (h o s).1 (hp.2 _) (hstep o s hp.1 hs)

theorem run_result {h : Semantics S σ} {P : S.Op → Prop} {Q : α → Prop} {p : Program S α}
    (hp : p.Ensures P Q) (s : σ) : Q (p.run h s).1 := by
  induction p generalizing s with
  | done a => exact hp
  | call o next ih => exact ih (h o s).1 (hp.2 _) (h o s).2

section

variable {γ : Type}

-- what the calls of a run add up to, each from its operation and the reply it got
def gather (h : Semantics S σ) (f : (o : S.Op) → S.Reply o → List γ) : Program S α → σ → List γ
  | .done _, _ => []
  | .call o next, s => f o (h o s).1 ++ (next (h o s).1).gather h f (h o s).2

variable (h : Semantics S σ) (f : (o : S.Op) → S.Reply o → List γ)

@[simp] theorem gather_pure (a : α) (s : σ) : (pure a : Program S α).gather h f s = [] := rfl

@[simp] theorem gather_perform (o : S.Op) (s : σ) : (perform o).gather h f s = f o (h o s).1 :=
  List.append_nil _

@[simp] theorem gather_bind (p : Program S α) (g : α → Program S β) (s : σ) :
    (p >>= g).gather h f s = p.gather h f s ++ (g (p.run h s).1).gather h f (p.run h s).2 := by
  induction p generalizing s with
  | done a => rfl
  | call o next ih =>
    have hn := ih (h o s).1 (h o s).2
    exact (congrArg (f o (h o s).1 ++ ·) hn).trans (List.append_assoc ..).symm

@[simp] theorem gather_ite (c : Prop) [Decidable c] (p q : Program S α) (s : σ) :
    (if c then p else q).gather h f s = if c then p.gather h f s else q.gather h f s := by
  split <;> rfl

end

end Program

section

variable {S T : Signature} {σ τ α : Type}

-- programs that make calls of two kinds, each answered by a state of its own
def Signature.sum (S T : Signature) : Signature := ⟨S.Op ⊕ T.Op, Sum.elim S.Reply T.Reply⟩

def Semantics.sum (h : Semantics S σ) (k : Semantics T τ) : Semantics (S.sum T) (σ × τ)
  | .inl o, s => ((h o s.1).1, (h o s.1).2, s.2)
  | .inr o, s => ((k o s.2).1, s.1, (k o s.2).2)

namespace Program

def inl : Program S α → Program (S.sum T) α
  | .done a => .done a
  | .call o next => .call (S := S.sum T) (.inl o) fun r => (next r).inl

def inr : Program T α → Program (S.sum T) α
  | .done a => .done a
  | .call o next => .call (S := S.sum T) (.inr o) fun r => (next r).inr

variable {h : Semantics S σ} {k : Semantics T τ}

theorem run_inr (p : Program T α) (s : σ) (t : τ) :
    (p.inr : Program (S.sum T) α).run (h.sum k) (s, t) =
      ((p.run k t).1, s, (p.run k t).2) := by
  induction p generalizing t with
  | done a => rfl
  | call o next ih => exact ih (k o t).1 (k o t).2

end Program
end

end Interaction
