import Mathlib.Logic.Function.Basic

namespace Interaction

structure Copy (K V : Type) where
  key : K
  value : Option V
  dirty : Bool

def Copy.change {K V : Type} (c : Copy K V) (f : V → V) : Copy K V :=
  { c with value := c.value.map f, dirty := true }

-- records that processes fetch, change in a private copy and store back whole; latest is the
-- record in which every assignment has been made, whoever made it
structure Records (K V P : Type) where
  stored : K → Option V
  latest : K → Option V
  version : K → Nat
  held : P → Option (Copy K V)
  base : P → Nat

namespace Records

variable {K V P : Type}

section

variable [DecidableEq K] [DecidableEq P]

def initial : Records K V P := ⟨fun _ => none, fun _ => none, fun _ => 0, fun _ => none, fun _ => 0⟩

def fetch (s : Records K V P) (p : P) (k : K) : Records K V P :=
  { s with
    held := Function.update s.held p (some ⟨k, s.stored k, false⟩)
    base := Function.update s.base p (s.version k) }

def assign (s : Records K V P) (p : P) (f : V → V) : Records K V P :=
  match s.held p with
  | none => s
  | some c =>
    { s with
      held := Function.update s.held p (some (c.change f))
      latest := Function.update s.latest c.key ((s.latest c.key).map f) }

def store (s : Records K V P) (p : P) (k : K) (v : V) : Records K V P :=
  { s with
    stored := Function.update s.stored k (some v)
    latest := if (s.stored k).isSome then s.latest else Function.update s.latest k (some v)
    version := Function.update s.version k (s.version k + 1)
    held := Function.update s.held p none }

def drop (s : Records K V P) (p : P) : Records K V P :=
  { s with held := Function.update s.held p none }

def remove (s : Records K V P) (k : K) : Records K V P :=
  { s with stored := Function.update s.stored k none }

def clear (s : Records K V P) : Records K V P := { s with stored := fun _ => none }

end

def Holds (s : Records K V P) (k : K) (p : P) (c : Copy K V) : Prop := s.held p = some c ∧ c.key = k

def Dirty (s : Records K V P) (k : K) (p : P) : Prop := ∃ c, s.Holds k p c ∧ c.dirty = true

def Clean (s : Records K V P) (p : P) : Prop := ∀ c, s.held p = some c → c.dirty = false

inductive Doomed (s : Records K V P) (k : K) : Prop
  | stale (p : P) (hd : s.Dirty k p) (hb : s.base p < s.version k)
  | rivals (p q : P) (hne : p ≠ q) (hp : s.Dirty k p) (hq : s.Dirty k q)

structure Coherent (s : Records K V P) (k : K) : Prop where
  settled : (∀ p, ¬ s.Dirty k p) → s.stored k = s.latest k
  clean : ∀ p c, s.Holds k p c → s.base p = s.version k → c.dirty = false → c.value = s.stored k
  dirty : ∀ p c, s.Holds k p c → s.base p = s.version k → c.dirty = true → c.value = s.latest k

inductive Sound (s : Records K V P) (k : K) : Prop
  | absent (h : s.stored k = none)
  | doomed (h : s.Doomed k)
  | coherent (h : s.Coherent k)

structure Valid (s : Records K V P) : Prop where
  bounded : ∀ p c, s.held p = some c → s.base p ≤ s.version c.key
  valued : ∀ p c, s.held p = some c → c.dirty = true → c.value.isSome
  sound : ∀ k, s.Sound k

structure SameAt (s t : Records K V P) (k : K) : Prop where
  stored : t.stored k = s.stored k
  latest : t.latest k = s.latest k
  version : t.version k = s.version k
  holds : ∀ p c, t.Holds k p c ↔ s.Holds k p c
  base : ∀ p c, s.Holds k p c → t.base p = s.base p

variable {s t : Records K V P} {k : K}

theorem SameAt.dirty (h : s.SameAt t k) (p : P) : t.Dirty k p ↔ s.Dirty k p :=
  exists_congr fun c => and_congr_left fun _ => h.holds p c

theorem Doomed.of_sameAt (h : s.SameAt t k) (hs : s.Doomed k) : t.Doomed k := by
  cases hs with
  | stale p hd hb =>
    obtain ⟨c, hc, _⟩ := id hd
    refine .stale p ((h.dirty p).mpr hd) ?_
    rwa [h.base p c hc, h.version]
  | rivals p q hne hp hq => exact .rivals p q hne ((h.dirty p).mpr hp) ((h.dirty q).mpr hq)

theorem Coherent.of_sameAt (h : s.SameAt t k) (hs : s.Coherent k) : t.Coherent k := by
  refine ⟨fun hn => ?_, fun p c hc hb hd => ?_, fun p c hc hb hd => ?_⟩
  · rw [h.stored, h.latest]
    exact hs.settled fun p hp => hn p ((h.dirty p).mpr hp)
  · have hc := (h.holds p c).mp hc
    rw [h.base p c hc, h.version] at hb
    rw [h.stored]
    exact hs.clean p c hc hb hd
  · have hc := (h.holds p c).mp hc
    rw [h.base p c hc, h.version] at hb
    rw [h.latest]
    exact hs.dirty p c hc hb hd

theorem Sound.of_sameAt (h : s.SameAt t k) (hs : s.Sound k) : t.Sound k := by
  cases hs with
  | absent hn => exact .absent (h.stored.trans hn)
  | doomed hd => exact .doomed (hd.of_sameAt h)
  | coherent hc => exact .coherent (hc.of_sameAt h)

theorem latest_of_clean (hs : s.Valid) (hc : ∀ p, s.Clean p) {v : V} (hv : s.stored k = some v) :
    s.latest k = some v := by
  have hn : ∀ p, ¬ s.Dirty k p := by
    rintro p ⟨c, hh, hd⟩
    rw [hc p c hh.1] at hd
    cases hd
  cases hs.sound k with
  | absent h =>
    rw [hv] at h
    cases h
  | doomed h =>
    cases h with
    | stale p hd => exact absurd hd (hn p)
    | rivals p q _ hp => exact absurd hp (hn p)
  | coherent h => rw [← h.settled hn, hv]

theorem value_eq_latest {p : P} {c : Copy K V} (h : s.Coherent k) (hc : s.Holds k p c)
    (hb : s.base p = s.version k)
    (hrival : ∀ q, q ≠ p → ¬ s.Dirty k q) : c.value = s.latest k := by
  cases hd : c.dirty with
  | true => exact h.dirty p c hc hb hd
  | false =>
    rw [h.clean p c hc hb hd]
    refine h.settled fun q hq => ?_
    by_cases hqp : q = p
    · obtain ⟨d, hd', hdirty⟩ := hq
      rw [hqp] at hd'
      cases hc.1.symm.trans hd'.1
      rw [hd] at hdirty
      cases hdirty
    · exact hrival q hqp hq

theorem valid_clear (hs : s.Valid) : s.clear.Valid :=
  ⟨hs.bounded, hs.valued, fun _ => .absent rfl⟩

section

variable [DecidableEq P] {p : P}

theorem held_fetch {j : K} (q : P) :
    (s.fetch p j).held q = if q = p then some ⟨j, s.stored j, false⟩ else s.held q :=
  Function.update_apply ..

theorem base_fetch {j : K} (q : P) :
    (s.fetch p j).base q = if q = p then s.version j else s.base q := Function.update_apply ..

theorem dirty_fetch {j : K} (hp : s.Clean p) (q : P) : (s.fetch p j).Dirty k q ↔ s.Dirty k q := by
  by_cases hq : q = p
  · refine iff_of_false ?_ ?_
    · rintro ⟨c, ⟨hc, -⟩, hd⟩
      rw [held_fetch, if_pos hq] at hc
      cases hc
      cases hd
    · rintro ⟨c, ⟨hc, -⟩, hd⟩
      rw [hp c (hq ▸ hc)] at hd
      cases hd
  · refine exists_congr fun c => and_congr_left fun _ => and_congr_left fun _ => ?_
    rw [held_fetch, if_neg hq]

theorem sound_fetch {j : K} (hp : s.Clean p) (hs : s.Sound k) : (s.fetch p j).Sound k := by
  have hne : ∀ q, s.Dirty k q → q ≠ p := by
    rintro q ⟨c, hc, hd⟩ rfl
    rw [hp c hc.1] at hd
    cases hd
  cases hs with
  | absent h => exact .absent h
  | doomed h =>
    refine .doomed ?_
    cases h with
    | stale q hd hb =>
      refine .stale q ((dirty_fetch hp q).mpr hd) ?_
      rwa [base_fetch, if_neg (hne q hd)]
    | rivals q r hqr hq hr =>
      exact .rivals q r hqr ((dirty_fetch hp q).mpr hq) ((dirty_fetch hp r).mpr hr)
  | coherent h =>
    refine .coherent ⟨fun hn => ?_, fun q c hc hb hd => ?_, fun q c hc hb hd => ?_⟩
    · exact h.settled fun q hq => hn q ((dirty_fetch hp q).mpr hq)
    · by_cases hq : q = p
      · obtain ⟨hc, hk⟩ := hc
        rw [held_fetch, if_pos hq] at hc
        cases hc
        cases hk
        rfl
      · rw [Holds, held_fetch, if_neg hq] at hc
        rw [base_fetch, if_neg hq] at hb
        exact h.clean q c hc hb hd
    · have hq := hne q ((dirty_fetch hp q).mp ⟨c, hc, hd⟩)
      rw [Holds, held_fetch, if_neg hq] at hc
      rw [base_fetch, if_neg hq] at hb
      exact h.dirty q c hc hb hd

theorem valid_fetch {j : K} (hs : s.Valid) (hp : s.Clean p) : (s.fetch p j).Valid := by
  refine ⟨fun q c hc => ?_, fun q c hc hd => ?_, fun k => sound_fetch hp (hs.sound k)⟩
  · rw [held_fetch] at hc
    rw [base_fetch]
    split at hc
    · rename_i hq
      cases hc
      rw [if_pos hq]
      exact Nat.le_refl _
    · rename_i hq
      rw [if_neg hq]
      exact hs.bounded q c hc
  · rw [held_fetch] at hc
    split at hc
    · cases hc
      cases hd
    · exact hs.valued q c hc hd

end

section

variable [DecidableEq K] [DecidableEq P] {p : P} {c : Copy K V} {f : V → V}

theorem assign_of_held (hc : s.held p = some c) :
    s.assign p f = { s with
      held := Function.update s.held p (some (c.change f))
      latest := Function.update s.latest c.key ((s.latest c.key).map f) } := by
  rw [assign, hc]

theorem stored_assign : (s.assign p f).stored = s.stored := by
  unfold assign
  cases s.held p <;> rfl

theorem held_assign_of_ne {q : P} (hq : q ≠ p) : (s.assign p f).held q = s.held q := by
  unfold assign
  cases s.held p with
  | none => rfl
  | some c => exact Function.update_of_ne hq ..

theorem held_assign (hc : s.held p = some c) (q : P) :
    (s.assign p f).held q = if q = p then some (c.change f) else s.held q := by
  rw [assign_of_held hc]
  exact Function.update_apply ..

theorem sameAt_assign (hc : s.held p = some c) (hk : k ≠ c.key) : s.SameAt (s.assign p f) k := by
  have hh : ∀ q d, (s.assign p f).Holds k q d ↔ s.Holds k q d := by
    intro q d
    rw [Holds, Holds, held_assign hc]
    split
    · rename_i hq
      rw [hq, hc]
      refine iff_of_false ?_ ?_
      · rintro ⟨hd, hkey⟩
        cases hd
        exact hk hkey.symm
      · rintro ⟨hd, hkey⟩
        cases hd
        exact hk hkey.symm
    · exact Iff.rfl
  rw [assign_of_held hc] at hh ⊢
  exact ⟨rfl, Function.update_of_ne hk .., rfl, hh, fun _ _ _ => rfl⟩

theorem dirty_assign_of_dirty (hc : s.held p = some c) {q : P} (hd : s.Dirty k q) :
    (s.assign p f).Dirty k q := by
  obtain ⟨d, ⟨hh, hk⟩, hdirty⟩ := hd
  by_cases hq : q = p
  · rw [hq, hc] at hh
    cases hh
    exact ⟨c.change f, ⟨(held_assign hc q).trans (if_pos hq), hk⟩, rfl⟩
  · exact ⟨d, ⟨((held_assign hc q).trans (if_neg hq)).trans hh, hk⟩, hdirty⟩

theorem dirty_assign_self (hc : s.held p = some c) : (s.assign p f).Dirty c.key p :=
  ⟨c.change f, ⟨(held_assign hc p).trans (if_pos rfl), rfl⟩, rfl⟩

theorem coherent_assign (h : s.Coherent k) (hc : s.Holds k p c) (hb : s.base p = s.version k)
    (hrival : ∀ q, q ≠ p → ¬ s.Dirty k q) : (s.assign p f).Coherent k := by
  have hlatest : (s.assign p f).latest k = (s.latest k).map f := by
    rw [assign_of_held hc.1, ← hc.2]
    exact Function.update_self ..
  have hself : (s.assign p f).Dirty k p := hc.2 ▸ dirty_assign_self hc.1
  have hsplit : ∀ q d, (s.assign p f).Holds k q d →
      q = p ∧ d = c.change f ∨ q ≠ p ∧ s.Holds k q d := by
    intro q d hd
    rw [Holds, held_assign hc.1] at hd
    by_cases hq : q = p
    · rw [if_pos hq] at hd
      exact Or.inl ⟨hq, (Option.some.inj hd.1).symm⟩
    · rw [if_neg hq] at hd
      exact Or.inr ⟨hq, hd⟩
  have hbase : (s.assign p f).base = s.base := by rw [assign_of_held hc.1]
  have hversion : (s.assign p f).version = s.version := by rw [assign_of_held hc.1]
  have hstored : (s.assign p f).stored = s.stored := by rw [assign_of_held hc.1]
  refine ⟨fun hn => absurd hself (hn p), fun q d hd hbq hclean => ?_, fun q d hd hbq hdirty => ?_⟩
  · rcases hsplit q d hd with ⟨-, rfl⟩ | ⟨-, hd⟩
    · cases hclean
    · rw [hbase, hversion] at hbq
      rw [hstored]
      exact h.clean q d hd hbq hclean
  · rcases hsplit q d hd with ⟨-, rfl⟩ | ⟨hq, hd⟩
    · rw [hlatest, ← value_eq_latest h hc hb hrival]
      rfl
    · exact absurd ⟨d, hd, hdirty⟩ (hrival q hq)

theorem sound_assign (hs : s.Valid) (hc : s.held p = some c) : (s.assign p f).Sound k := by
  by_cases hk : k = c.key
  · have hbase : (s.assign p f).base = s.base := by rw [assign_of_held hc]
    have hversion : (s.assign p f).version = s.version := by rw [assign_of_held hc]
    cases hs.sound k with
    | absent h =>
      refine .absent ?_
      rw [assign_of_held hc]
      exact h
    | doomed h =>
      refine .doomed ?_
      cases h with
      | stale q hd hb =>
        refine .stale q (dirty_assign_of_dirty hc hd) ?_
        rwa [hbase, hversion]
      | rivals q r hqr hq hr =>
        exact .rivals q r hqr (dirty_assign_of_dirty hc hq) (dirty_assign_of_dirty hc hr)
    | coherent h =>
      have hself : (s.assign p f).Dirty k p := hk ▸ dirty_assign_self hc
      by_cases hrival : ∃ q, q ≠ p ∧ s.Dirty k q
      · obtain ⟨q, hq, hd⟩ := hrival
        exact .doomed (.rivals q p hq (dirty_assign_of_dirty hc hd) hself)
      · by_cases hcur : s.base p = s.version k
        · exact .coherent (coherent_assign h ⟨hc, hk.symm⟩ hcur fun q hq hd => hrival ⟨q, hq, hd⟩)
        · refine .doomed (.stale p hself ?_)
          rw [hbase, hversion]
          exact Nat.lt_of_le_of_ne (hk ▸ hs.bounded p c hc) hcur
  · exact (hs.sound k).of_sameAt (sameAt_assign hc hk)

theorem valid_assign (hs : s.Valid) (hc : s.held p = some c) (hv : c.value.isSome) :
    (s.assign p f).Valid := by
  refine ⟨fun q d hd => ?_, fun q d hd hdirty => ?_, fun k => sound_assign hs hc⟩
  · have hb : (s.assign p f).base q ≤ (s.assign p f).version d.key ↔ s.base q ≤ s.version d.key := by
      rw [assign_of_held hc]
    rw [held_assign hc] at hd
    split at hd
    · rename_i hq
      cases hd
      rw [hb, hq]
      exact hs.bounded p c hc
    · exact hb.mpr (hs.bounded q d hd)
  · rw [held_assign hc] at hd
    split at hd
    · cases hd
      simpa [Copy.change] using hv
    · exact hs.valued q d hd hdirty

end

section

variable [DecidableEq P] {p : P} {c : Copy K V}

theorem held_drop (q : P) : (s.drop p).held q = if q = p then none else s.held q :=
  Function.update_apply ..

theorem holds_drop {q : P} {d : Copy K V} : (s.drop p).Holds k q d ↔ q ≠ p ∧ s.Holds k q d := by
  rw [Holds, held_drop]
  by_cases hq : q = p <;> simp [hq, Holds]

theorem sameAt_drop (hc : s.held p = some c) (hk : k ≠ c.key) : s.SameAt (s.drop p) k := by
  refine ⟨rfl, rfl, rfl, fun q d => ?_, fun _ _ _ => rfl⟩
  rw [holds_drop]
  refine and_iff_right_of_imp fun hd hq => ?_
  rw [Holds, hq, hc] at hd
  cases hd.1
  exact hk hd.2.symm

theorem valid_drop (hs : s.Valid) (hc : s.held p = some c) (hn : s.stored c.key = none) :
    (s.drop p).Valid := by
  refine ⟨fun q d hd => ?_, fun q d hd hdirty => ?_, fun k => ?_⟩
  · exact hs.bounded q d (holds_drop.mp ⟨hd, rfl⟩).2.1
  · exact hs.valued q d (holds_drop.mp ⟨hd, rfl⟩).2.1 hdirty
  · by_cases hk : k = c.key
    · exact .absent (hk ▸ hn)
    · exact (hs.sound k).of_sameAt (sameAt_drop hc hk)

end

theorem stored_remove [DecidableEq K] (j : K) (k : K) :
    (s.remove j).stored k = if k = j then none else s.stored k := Function.update_apply ..

theorem valid_remove [DecidableEq K] {j : K} (hs : s.Valid) : (s.remove j).Valid := by
  refine ⟨hs.bounded, hs.valued, fun k => ?_⟩
  by_cases hk : k = j
  · exact .absent (hk ▸ Function.update_self ..)
  · exact (hs.sound k).of_sameAt ⟨Function.update_of_ne hk .., rfl, rfl, fun _ _ => Iff.rfl,
      fun _ _ _ => rfl⟩

section

variable [DecidableEq K] [DecidableEq P] {p : P} {c : Copy K V} {v : V}

theorem holds_store {q : P} {d : Copy K V} {j : K} :
    (s.store p j v).Holds k q d ↔ q ≠ p ∧ s.Holds k q d := holds_drop

theorem stored_store (j : K) (k : K) :
    (s.store p j v).stored k = if k = j then some v else s.stored k := Function.update_apply ..

theorem version_store (j : K) (k : K) :
    (s.store p j v).version k = if k = j then s.version j + 1 else s.version k :=
  Function.update_apply ..

theorem sameAt_store {j : K} (hc : s.Holds j p c) (hk : k ≠ j) : s.SameAt (s.store p j v) k := by
  refine ⟨Function.update_of_ne hk .., ?_, Function.update_of_ne hk .., fun q d => ?_,
    fun _ _ _ => rfl⟩
  · rw [store]
    split
    · rfl
    · exact Function.update_of_ne hk ..
  · exact (sameAt_drop hc.1 (hc.2.symm ▸ hk)).holds q d

theorem latest_store {j : K} (hs : s.Valid) (hc : s.Holds j p c) (hb : s.base p = s.version j)
    (hv : ∀ e ∈ c.value, e = v) (hrival : ∀ q, q ≠ p → ¬ s.Dirty j q) :
    (s.store p j v).latest j = some v := by
  cases hstored : s.stored j with
  | none => simp [store, hstored]
  | some e =>
    have hl : (s.store p j v).latest j = s.latest j := by simp [store, hstored]
    rw [hl]
    cases hs.sound j with
    | absent h =>
      rw [hstored] at h
      cases h
    | doomed h =>
      cases h with
      | stale q hd hlt =>
        by_cases hq : q = p
        · rw [hq, hb] at hlt
          exact absurd hlt (Nat.lt_irrefl _)
        · exact absurd hd (hrival q hq)
      | rivals q r hne hq hr =>
        by_cases hqp : q = p
        · exact absurd hr (hrival r fun hrp => hne (hqp.trans hrp.symm))
        · exact absurd hq (hrival q hqp)
    | coherent h =>
      have hsome : c.value.isSome := by
        cases hd : c.dirty with
        | true => exact hs.valued p c hc.1 hd
        | false =>
          rw [h.clean p c hc hb hd, hstored]
          rfl
      obtain ⟨e', he⟩ := Option.isSome_iff_exists.mp hsome
      rw [← value_eq_latest h hc hb hrival, he, hv e' he]

theorem valid_store {j : K} (hs : s.Valid) (hc : s.Holds j p c) (hb : s.base p = s.version j)
    (hv : ∀ e ∈ c.value, e = v) : (s.store p j v).Valid := by
  have hle : ∀ k, s.version k ≤ (s.store p j v).version k := by
    intro k
    rw [version_store]
    split
    · rename_i hk
      rw [hk]
      exact Nat.le_succ _
    · exact Nat.le_refl _
  have hlt : ∀ q d, s.Holds j q d → s.base q < (s.store p j v).version j := by
    intro q d hd
    rw [version_store, if_pos rfl]
    exact Nat.lt_succ_of_le (hd.2 ▸ hs.bounded q d hd.1)
  refine ⟨fun q d hd => ?_, fun q d hd hdirty => ?_, fun k => ?_⟩
  · have hd := (holds_store.mp ⟨hd, rfl⟩).2.1
    exact Nat.le_trans (hs.bounded q d hd) (hle d.key)
  · exact hs.valued q d (holds_store.mp ⟨hd, rfl⟩).2.1 hdirty
  · by_cases hk : k = j
    · rw [hk]
      by_cases hrival : ∃ q, q ≠ p ∧ s.Dirty j q
      · obtain ⟨q, hq, d, hd, hdirty⟩ := hrival
        exact .doomed (.stale q ⟨d, holds_store.mpr ⟨hq, hd⟩, hdirty⟩ (hlt q d hd))
      · refine .coherent ⟨fun _ => ?_, fun q d hd hbq => ?_, fun q d hd hbq => ?_⟩
        · rw [latest_store hs hc hb hv fun q hq hd => hrival ⟨q, hq, hd⟩]
          exact Function.update_self ..
        · exact absurd hbq (Nat.ne_of_lt (hlt q d (holds_store.mp hd).2))
        · exact absurd hbq (Nat.ne_of_lt (hlt q d (holds_store.mp hd).2))
    · exact (hs.sound k).of_sameAt (sameAt_store hc hk)

end

theorem valid_initial : (initial : Records K V P).Valid := by
  refine ⟨fun p c h => ?_, fun p c h => ?_, fun _ => .absent rfl⟩
  · cases h
  · cases h

end Records
end Interaction
