import Mathlib.Data.List.Induction
import WireShock.Interaction.Run

namespace Interaction

section

variable {α β : Type} {p : α → Bool} {l : List α} {a : α}

def lastMatch (p : α → Bool) (l : List α) : Option α := l.reverse.find? p

theorem mem_of_lastMatch (h : lastMatch p l = some a) : a ∈ l :=
  List.mem_reverse.mp (List.mem_of_find?_eq_some h)

theorem lastMatch_eq_none : lastMatch p l = none ↔ ∀ a ∈ l, p a = false := by
  simp [lastMatch]

theorem lastMatch_map (f : β → α) (l : List β) :
    lastMatch p (l.map f) = (lastMatch (p ∘ f) l).map f := by
  rw [lastMatch, ← List.map_reverse, List.find?_map]
  rfl

theorem foldl_lastMatch (p : α → Bool) (f : α → β) (l : List α) (b : β) :
    l.foldl (fun b a => if p a then f a else b) b = ((lastMatch p l).map f).getD b := by
  induction l using List.reverseRecOn with
  | nil => rfl
  | append_singleton l a ih =>
    rw [List.foldl_append, lastMatch, List.reverse_append]
    by_cases ha : p a
    · simp [ha]
    · simp [ha, ih, lastMatch]

end

section

variable {σ ε β : Type} {step : σ → ε → σ} {s : σ} {es : List ε} {e : ε}

-- what the events of a run last told, or what was known before any of them did
def lastTold (tells : ε → Option β) (known : β) (es : List ε) : β :=
  ((es.filterMap tells).getLast?).getD known

variable {tells : ε → Option β} {known : β}

@[simp] theorem lastTold_nil : lastTold tells known [] = known := rfl

theorem lastTold_concat :
    lastTold tells known (es ++ [e]) = (tells e).getD (lastTold tells known es) := by
  cases h : tells e with
  | none => simp [lastTold, h]
  | some value => simp [lastTold, h]

theorem lastTold_of_silent (h : ∀ e ∈ es, tells e = none) : lastTold tells known es = known := by
  have hn : es.filterMap tells = [] := List.filterMap_eq_nil_iff.mpr h
  rw [lastTold, hn]
  rfl

theorem runs_concat : runs step s (es ++ [e]) = step (runs step s es) e := by
  simp [runs]

theorem lastTold_runs (view : σ → β) (h : ∀ s e, view (step s e) = (tells e).getD (view s)) :
    view (runs step s es) = lastTold tells (view s) es := by
  induction es using List.reverseRecOn with
  | nil => rfl
  | append_singleton es e ih => rw [runs_concat, h, ih, lastTold_concat]

end

section

variable {σ ε δ β : Type} (step : σ → ε → σ) (look : σ → Option δ) (s : σ)

-- the run since something was last missing: begin brings it, and it stays to the end
structure Episode (es before : List ε) (start : ε) (since : List ε) : Prop where
  split : es = before ++ start :: since
  missing : look (runs step s before) = none
  present : ∀ part, part <+: since → (look (runs step s (before ++ start :: part))).isSome = true

variable {step look s} {es : List ε} {d : δ}

theorem episode_start {e : ε} (hn : look (runs step s es) = none)
    (h : look (runs step s (es ++ [e])) = some d) : Episode step look s (es ++ [e]) es e [] where
  split := rfl
  missing := hn
  present part hp := by
    rw [List.prefix_nil.mp hp, h]
    rfl

theorem Episode.concat {before since : List ε} {start e : ε}
    (he : Episode step look s es before start since)
    (h : look (runs step s (es ++ [e])) = some d) :
    Episode step look s (es ++ [e]) before start (since ++ [e]) where
  split := by rw [he.split, List.append_assoc, List.cons_append]
  missing := he.missing
  present part hp := by
    rcases List.prefix_concat_iff.mp hp with rfl | hp
    · rw [← List.cons_append, ← List.append_assoc, ← he.split, h]
      rfl
    · exact he.present part hp

variable (look) in
theorem episode_of_present (hs : look s = none) (h : look (runs step s es) = some d) :
    ∃ before start since, Episode step look s es before start since := by
  induction es using List.reverseRecOn generalizing d with
  | nil => exact absurd (hs.symm.trans h) (by simp)
  | append_singleton es e ih =>
    cases hl : look (runs step s es) with
    | none => exact ⟨es, e, [], episode_start hl h⟩
    | some d' =>
      obtain ⟨before, start, since, he⟩ := ih hl
      exact ⟨before, start, since ++ [e], he.concat h⟩

variable (view : δ → β) (tells : ε → Option β)

-- what is told while something is there is what is known of it, from what it began with
theorem told_while_present
    (hkeep : ∀ s e d d', look s = some d → look (step s e) = some d' →
      view d' = (tells e).getD (view d))
    (hpresent : ∀ part, part <+: es → (look (runs step s part)).isSome = true) {first d : δ}
    (hs : look s = some first) (h : look (runs step s es) = some d) :
    view d = lastTold tells (view first) es := by
  induction es using List.reverseRecOn generalizing d with
  | nil => rw [Option.some.inj (hs.symm.trans h), lastTold_nil]
  | append_singleton es e ih =>
    have hpart : ∀ part, part <+: es → (look (runs step s part)).isSome = true :=
      fun part hp => hpresent part (hp.trans (List.prefix_append es [e]))
    obtain ⟨d', hd'⟩ := Option.isSome_iff_exists.mp (hpart es List.prefix_rfl)
    rw [runs_concat] at h
    rw [hkeep _ e d' d hd' h, ih hpart hd', lastTold_concat]

theorem Episode.told {before since : List ε} {start : ε}
    (hkeep : ∀ s e d d', look s = some d → look (step s e) = some d' →
      view d' = (tells e).getD (view d))
    (he : Episode step look s es before start since) {first : β}
    (hfirst : ∀ d, look (step (runs step s before) start) = some d → view d = first)
    (h : look (runs step s es) = some d) : view d = lastTold tells first since := by
  have hruns : ∀ part, runs step (step (runs step s before) start) part =
      runs step s (before ++ start :: part) := fun part => by
    simp [runs]
  have hpresent : ∀ part, part <+: since →
      (look (runs step (step (runs step s before) start) part)).isSome = true := fun part hp => by
    rw [hruns]
    exact he.present part hp
  obtain ⟨d', hd'⟩ := Option.isSome_iff_exists.mp (hpresent [] List.nil_prefix)
  rw [told_while_present view tells hkeep hpresent hd' (by rw [hruns, ← he.split, h]), hfirst d' hd']

end
end Interaction
