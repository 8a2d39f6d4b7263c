import WireShock.Startup.PowerCycle

namespace WireShock
open Interaction

def Event.Rejects (e : Event) : Prop :=
  e.answer = some (.complete .readLocalVersionInfo true true)

instance (e : Event) : Decidable e.Rejects := inferInstanceAs (Decidable (_ = _))

namespace Host

structure Outdated (h : Host) (e : Event) : Prop where
  legal : h.Legal e
  power : e.isPower = false
  success : ∀ a ∈ e.answer, ∃ old, a = .complete a.command true old
  version : ∀ a ∈ e.answer, a.command = .readLocalVersionInfo →
    a = .complete .readLocalVersionInfo true true

structure OutdatedRun (h : Host) (es : Nat → Event) : Prop where
  outdated : ∀ n, Outdated (path step h es n) (es n)
  answered : ∀ n, ∀ c ∈ (path step h es n).outstanding, c ∈ startupCommands →
    ∃ m, n ≤ m ∧ ∃ a, (es m).answer = some a ∧ a.command = c

def sentAt (h : Host) (es : Nat → Event) (n : Nat) : List HciCommand :=
  startupSent ((path step h es n).world.step (es n)).radio.issued

structure Ends (h : Host) (es : Nat → Event) : Prop where
  silent : ∀ n, (es n).Rejects → sentAt h es n = [.reset] ∧ ∀ m, n < m → sentAt h es m = []
  bounded : ∃ bound, ∀ n, ((List.range n).map fun m => (sentAt h es m).length).sum ≤ bound

section

variable {h : Host} {e : Event}

theorem rejects_step (ho : h.Ordered) (hl : h.Legal e) (hr : e.Rejects) :
    startupSent (h.world.step e).radio.issued = [.reset] ∧ (h.step e).pending = [] ∧
      (h.step e).world.context.started = !ntSuccess (h.world.environment.controlStatus 0) := by
  obtain ⟨c, hw⟩ : ∃ c, h.Waiting c := by
    rcases ho.stage with hp | hw
    · exact absurd (by decide) (not_pending_of_legal hl hr hp)
    · exact hw
  have hm : .readLocalVersionInfo ∈ h.pending :=
    List.mem_filter.mpr ⟨hl _ hr, by decide⟩
  obtain rfl : .readLocalVersionInfo = c := by simpa [hw.pending] using hm
  have hn (d started : Bool) :
      next d started (.complete .readLocalVersionInfo true true) = some .reset := rfl
  refine ⟨?_, ?_, ?_⟩
  · rw [startupSent_of_answer h hr, hn]
    rfl
  · rw [pending_step_of_answer hr, accepted_of_answer h hr, hn, hw.pending]
    cases ntSuccess (h.world.environment.controlStatus 0) <;> rfl
  · rw [started_of_answer h hr, hn, hw.started]
    rfl

theorem rejects_accepted (ho : h.Ordered) (hl : h.Legal e) (hr : e.Rejects)
    (ht : ntSuccess (h.world.environment.controlStatus 0) = true) : (h.step e).Asleep := by
  obtain ⟨-, hp, hs⟩ := rejects_step ho hl hr
  refine ⟨by rw [hs, ht]; rfl, hp, ?_⟩
  rw [outstanding_of_answer h hr, accepted_of_answer h hr, ht]
  exact List.mem_append_right _ (by simp [next])

theorem rejects_refused (ho : h.Ordered) (hl : h.Legal e) (hr : e.Rejects)
    (ht : ntSuccess (h.world.environment.controlStatus 0) = false) : (h.step e).Finished := by
  obtain ⟨-, hp, hs⟩ := rejects_step ho hl hr
  exact ⟨by rw [hs, ht]; rfl, hp⟩

end

section

variable {h : Host} {es : Nat → Event}

theorem ordered_path (ho : h.Ordered) (hr : OutdatedRun h es) (n : Nat) :
    (path step h es n).Ordered := by
  have hstep : ∀ h e, Ordered h → Outdated h e → (h.step e).Ordered :=
    fun _ _ ho hl => ordered_step ho hl.legal
  have h₀ : (path step h es 0).Ordered := ho
  exact path_invariant hstep h₀ (fun m _ => hr.outdated m) (Nat.zero_le n)

theorem finished_path (hr : OutdatedRun h es) {n : Nat} (hf : (path step h es n).Finished) {m : Nat}
    (hm : n ≤ m) : (path step h es m).Finished := by
  have hstep : ∀ h e, Finished h → Outdated h e → (h.step e).Finished :=
    fun _ _ hf hl => (finished_step hf hl.legal hl.power).1
  exact path_invariant hstep hf (fun m _ => hr.outdated m) hm

theorem asleep_wakes (hr : OutdatedRun h es) {n : Nat} (hs : (path step h es n).Asleep) :
    ∃ m, n ≤ m ∧ sentAt h es m = [.readBdAddr] := by
  have hstep : ∀ m, n ≤ m → (path step h es m).Asleep →
      ¬ (∃ a, (es m).answer = some a ∧ a.command = .reset) → (path step h es (m + 1)).Asleep := by
    intro m _ hs hn
    have hl := hr.outdated m
    exact (asleep_step hs hl.legal hl.power fun a ha hc => hn ⟨a, ha, hc⟩).1
  obtain ⟨m, hm, hs, a, ha, hc⟩ :=
    holds_until hs hstep (hr.answered n .reset hs.reset (by decide))
  obtain ⟨old, hold⟩ := (hr.outdated m).success a ha
  rw [hc] at hold
  subst hold
  exact ⟨m, hm, (reset_wakes hs ha).2.1⟩

end

def budget (h : Host) : Nat :=
  if h.world.context.started then
    match h.pending with
    | [.readBdAddr] => 3
    | [.readBufferSize] => 2
    | [.readLocalVersionInfo] => 1
    | _ => 0
  else 4

structure Early (h : Host) : Prop where
  asleep : h.world.context.started = false → h.pending = []
  pending : h.pending = [] ∨
    ∃ c ∈ [HciCommand.readBdAddr, .readBufferSize, .readLocalVersionInfo], h.pending = [c]

theorem budget_of_started {h : Host} (hs : h.world.context.started = true) (hp : h.pending = []) :
    h.budget = 0 := by
  rw [budget, if_pos hs, hp]

theorem budget_congr {h g : Host} (hs : g.world.context.started = h.world.context.started)
    (hp : g.pending = h.pending) : g.budget = h.budget := by
  rw [budget, budget, hs, hp]

theorem early_congr {h g : Host} (he : h.Early)
    (hs : g.world.context.started = h.world.context.started) (hp : g.pending = h.pending) :
    g.Early := ⟨fun hg => hp.trans (he.asleep (hs.symm.trans hg)), by rw [hp]; exact he.pending⟩

section

variable {h : Host} {e : Event} {a : Answer}

theorem early_handover {c n : HciCommand} (hs : h.world.context.started = true)
    (hp : h.pending = [c])
    (hcn : (c, n) ∈ [(HciCommand.readBdAddr, HciCommand.readBufferSize),
      (.readBufferSize, .readLocalVersionInfo)])
    {old : Bool} (ha : e.answer = some (.complete c true old)) :
    (h.step e).Early ∧
      (startupSent (h.world.step e).radio.issued).length + (h.step e).budget ≤ h.budget := by
  have hn : next h.world.context.disableSSP true (.complete c true old) = some n ∧
      n ∈ pendingCommands ∧ n ∈ [HciCommand.readBdAddr, .readBufferSize, .readLocalVersionInfo] := by
    simp only [List.mem_cons, Prod.mk.injEq, List.not_mem_nil, or_false] at hcn
    rcases hcn with ⟨rfl, rfl⟩ | ⟨rfl, rfl⟩ <;> exact ⟨rfl, by decide, by decide⟩
  obtain ⟨hw, hi, hq⟩ := step_of_next (a := .complete c true old) hs hp ha hn.1 hn.2.1
  refine ⟨⟨fun hf => (nomatch hw.symm.trans hf), ?_⟩, ?_⟩
  · rw [hq]
    split
    · exact Or.inr ⟨n, hn.2.2, rfl⟩
    · exact Or.inl rfl
  · rw [hi, budget, budget, if_pos hw, if_pos hs, hp, hq]
    simp only [List.mem_cons, Prod.mk.injEq, List.not_mem_nil, or_false] at hcn
    rcases hcn with ⟨rfl, rfl⟩ | ⟨rfl, rfl⟩ <;>
      cases ntSuccess (h.world.environment.controlStatus 0) <;> decide

theorem early_silent (he : h.Early) (hs : (h.step e).world.context.started = h.world.context.started)
    (hp : (h.step e).pending = h.pending) (hi : startupSent (h.world.step e).radio.issued = []) :
    (h.step e).Early ∧
      (startupSent (h.world.step e).radio.issued).length + (h.step e).budget ≤ h.budget := by
  refine ⟨early_congr he hs hp, ?_⟩
  rw [hi, budget_congr hs hp, List.length_nil]
  omega

theorem early_wakes (he : h.Early) (hl : Outdated h e) (ha : e.answer = some a)
    (hs : h.world.context.started = false) (hc : a.command = .reset) :
    (h.step e).Early ∧
      (startupSent (h.world.step e).radio.issued).length + (h.step e).budget ≤ h.budget := by
  obtain ⟨old, hold⟩ := hl.success a ha
  have hr : .reset ∈ h.outstanding := hc ▸ hl.legal a ha
  rw [hc] at hold
  subst hold
  obtain ⟨hw, hi, hp⟩ := reset_wakes ⟨hs, he.asleep hs, hr⟩ ha
  refine ⟨⟨fun hf => (nomatch hw.symm.trans hf), ?_⟩, ?_⟩
  · rw [hp]
    split
    · exact Or.inr ⟨.readBdAddr, by simp, rfl⟩
    · exact Or.inl rfl
  · rw [hi, budget, budget, if_pos hw, if_neg (by simp [hs]), hp]
    cases ntSuccess (h.world.environment.controlStatus 0) <;> decide

theorem early_step (he : h.Early) (ho : h.Ordered) (hl : Outdated h e)
    (hr : e.Rejects → ntSuccess (h.world.environment.controlStatus 0) = false) :
    (h.step e).Early ∧
      (startupSent (h.world.step e).radio.issued).length + (h.step e).budget ≤ h.budget := by
  cases ha : e.answer with
  | none =>
    exact early_silent he (undisturbed_step h.world ha hl.power).started
      (pending_of_quiet ha hl.power) (startupSent_of_quiet ha hl.power)
  | some a =>
    by_cases hm : a.command ∈ pendingCommands
    · have hq := mem_pending hl.legal ha hm
      obtain ⟨old, hold⟩ := hl.success a ha
      rcases he.pending with hp | ⟨c, hc, hp⟩
      · rw [hp] at hq
        cases hq
      obtain rfl : a.command = c := by simpa [hp] using hq
      have hs : h.world.context.started = true := by
        by_contra hs
        have hn := he.asleep (by simpa using hs)
        rw [hp] at hn
        cases hn
      rw [hold] at ha
      simp only [List.mem_cons, List.not_mem_nil, or_false] at hc
      rcases hc with hc | hc | hc
      · rw [hc] at hp ha
        exact early_handover (n := .readBufferSize) hs hp (by simp) ha
      · rw [hc] at hp ha
        exact early_handover (n := .readLocalVersionInfo) hs hp (by simp) ha
      · have hj : e.Rejects := by
          have hv := hl.version _ ha (by simpa [Answer.command] using hc)
          rw [Event.Rejects, ha, hv]
        have hf := rejects_refused ho hl.legal hj (hr hj)
        refine ⟨⟨fun _ => hf.pending, Or.inl hf.pending⟩, ?_⟩
        rw [(rejects_step ho hl.legal hj).1, budget_of_started hf.started hf.pending, budget,
          if_pos hs, hp, hc]
        decide
    · rcases next_of_not_pending hm h.world.context.disableSSP h.world.context.started with hn | hn
      · obtain ⟨hs, hp, hi⟩ := step_of_silent ha hn
        have hq : a.command ∉ h.pending := fun hq => hm (by simpa using (List.mem_filter.mp hq).2)
        exact early_silent he hs (hp.trans (List.erase_of_not_mem hq)) hi
      · have hc : a.command = .reset := by
          by_contra hc
          rw [next_of_other (mem_pendingCommands hm hc)] at hn
          cases hn
        exact early_wakes he hl ha (next_readBdAddr hn) hc

theorem ends_of_refused {es : Nat → Event} (ho : h.Ordered) (he : h.Early) (hr : OutdatedRun h es)
    (hc : ∀ n, (es n).Rejects →
      ntSuccess ((path step h es n).world.environment.controlStatus 0) = false) :
    Ends h es := by
  constructor
  · intro n hn
    have hl := hr.outdated n
    have hon := ordered_path ho hr n
    refine ⟨(rejects_step hon hl.legal hn).1, ?_⟩
    intro m hm
    have hf : (path step h es (n + 1)).Finished := rejects_refused hon hl.legal hn (hc n hn)
    have hl := hr.outdated m
    exact (finished_step (finished_path hr hf hm) hl.legal hl.power).2
  · have hall : ∀ n, (path step h es n).Early ∧ (path step h es n).Ordered := by
      intro n
      induction n with
      | zero => exact ⟨he, ho⟩
      | succ n ih =>
        have hl := hr.outdated n
        exact ⟨(early_step ih.1 ih.2 hl (hc n)).1, ordered_step ih.2 hl.legal⟩
    have hdec (n : Nat) : (sentAt h es n).length + (path step h es (n + 1)).budget ≤
        (path step h es n).budget :=
      (early_step (hall n).1 (hall n).2 (hr.outdated n) (hc n)).2
    refine ⟨h.budget, fun n => ?_⟩
    have hsum := sum_le_potential (fun m => (sentAt h es m).length)
      (fun m => (path step h es m).budget) hdec n
    have hz : (path step h es 0).budget = h.budget := rfl
    omega

theorem refused_of_ends {es : Nat → Event} (ho : h.Ordered) (hr : OutdatedRun h es)
    (hends : Ends h es) (n : Nat) (hn : (es n).Rejects) :
    ntSuccess ((path step h es n).world.environment.controlStatus 0) = false := by
  by_contra hacc
  have hacc := eq_true_of_ne_false hacc
  have hs : (path step h es (n + 1)).Asleep :=
    rejects_accepted (ordered_path ho hr n) (hr.outdated n).legal hn hacc
  obtain ⟨m, hm, hsent⟩ := asleep_wakes hr hs
  have hempty := (hends.silent n hn).2 m hm
  rw [hsent] at hempty
  cases hempty

end

theorem d0Entry_initial (w : World) :
    ((initial w).step .d0Entry).Ordered ∧ ((initial w).step .d0Entry).Early := by
  have ho : ((initial w).step .d0Entry).Ordered :=
    ordered_step_of_power (ordered_initial w) rfl
  have hp : ((initial w).step .d0Entry).pending = [] := by
    have hi : accepted ((initial w).world.step .d0Entry).radio.issued =
        if ntSuccess (w.environment.controlStatus 0) then [.reset] else [] := by
      have hr : ((initial w).world.step .d0Entry).radio = w.radio.fresh.issue .reset :=
        radio_step_d0Entry w
      rw [hr]
      cases ht : ntSuccess (w.environment.controlStatus 0) <;> simp [accepted, Radio.fresh, ht]
    refine (pending_step_of_quiet rfl fun c hc => ?_).trans rfl
    rw [hi] at hc
    cases ht : ntSuccess (w.environment.controlStatus 0) with
    | false => simp [ht] at hc
    | true =>
      have hc : c = .reset := by simpa [ht] using hc
      rw [hc]
      decide
  exact ⟨ho, ⟨fun _ => hp, Or.inl hp⟩⟩

theorem rejection_ends {w : World} {es : Nat → Event}
    (hr : OutdatedRun ((initial w).step .d0Entry) es) :
    Ends ((initial w).step .d0Entry) es ↔ ∀ n, (es n).Rejects →
      ntSuccess ((path step ((initial w).step .d0Entry) es n).world.environment.controlStatus 0) =
        false := by
  obtain ⟨ho, he⟩ := d0Entry_initial w
  exact ⟨fun hends => refused_of_ends ho hr hends, ends_of_refused ho he hr⟩

def loopCommand (n : Nat) : HciCommand :=
  match n % 4 with
  | 0 => .reset
  | 1 => .readBdAddr
  | 2 => .readBufferSize
  | _ => .readLocalVersionInfo

def loopEvents (n : Nat) : Event := completion (loopCommand n) 0x00 0x02

theorem answer_loopEvents (n : Nat) :
    (loopEvents n).answer = some (.complete (loopCommand n) true true) := by
  have h : ∀ c ∈ [HciCommand.reset, .readBdAddr, .readBufferSize, .readLocalVersionInfo],
      (completion c 0x00 0x02).answer = some (.complete c true true) := by decide +kernel
  refine h (loopCommand n) ?_
  unfold loopCommand
  split <;> decide

theorem next_loop (n : Nat) (d : Bool) :
    next d (decide (n % 4 ≠ 0)) (.complete (loopCommand n) true true) =
      some (loopCommand (n + 1)) := by
  have hn : n % 4 = 0 ∨ n % 4 = 1 ∨ n % 4 = 2 ∨ n % 4 = 3 := by omega
  rcases hn with hn | hn | hn | hn
  all_goals
    have hs : (n + 1) % 4 = (n % 4 + 1) % 4 := by omega
    simp only [loopCommand, hs, hn]
    cases d <;> decide

def loopHost : Nat → Host := path step ((initial (.initial .succeeding)).step .d0Entry) loopEvents

structure Looping (n : Nat) (h : Host) : Prop where
  accepts : h.world.Accepts
  outstanding : h.outstanding = [loopCommand n]
  started : h.world.context.started = decide (n % 4 ≠ 0)

theorem looping (n : Nat) : Looping n (loopHost n) := by
  induction n with
  | zero =>
    refine ⟨accepts_step accepts_succeeding .d0Entry, ?_, ?_⟩
    · decide +kernel
    · decide +kernel
  | succ n ih =>
    have ha := answer_loopEvents n
    have hn := next_loop n (loopHost n).world.context.disableSSP
    rw [← ih.started] at hn
    refine ⟨accepts_step ih.accepts (loopEvents n), ?_, ?_⟩
    · change ((loopHost n).step (loopEvents n)).outstanding = _
      rw [outstanding_of_answer _ ha, accepted_of_answer _ ha, ih.accepts 0, hn, ih.outstanding]
      simp [Answer.command]
    · change ((loopHost n).step (loopEvents n)).world.context.started = _
      rw [started_of_answer _ ha, hn, ih.started, ih.accepts 0]
      have hm : n % 4 = 0 ∨ n % 4 = 1 ∨ n % 4 = 2 ∨ n % 4 = 3 := by omega
      have hs : (n + 1) % 4 = (n % 4 + 1) % 4 := by omega
      rcases hm with hm | hm | hm | hm <;> simp [loopCommand, hs, hm]

theorem outdatedRun_loop :
    OutdatedRun ((initial (.initial .succeeding)).step .d0Entry) loopEvents := by
  constructor
  · intro n
    have ha := answer_loopEvents n
    have hl : (loopHost n).Legal (loopEvents n) := by
      intro a hm
      rw [ha] at hm
      cases hm
      rw [(looping n).outstanding]
      exact List.mem_singleton.mpr rfl
    refine ⟨hl, rfl, ?_, ?_⟩
    · intro a hm
      rw [ha] at hm
      cases hm
      exact ⟨true, rfl⟩
    · intro a hm hc
      rw [ha] at hm
      cases hm
      exact congrArg (Answer.complete · true true) hc
  · intro n c hc _
    change c ∈ (loopHost n).outstanding at hc
    rw [(looping n).outstanding, List.mem_singleton] at hc
    exact ⟨n, Nat.le_refl n, _, answer_loopEvents n, hc.symm⟩

theorem rejection_ends_loop :
    Ends ((initial (.initial .succeeding)).step .d0Entry) loopEvents ↔
      ∀ n, (loopEvents n).Rejects → ntSuccess ((path step
        ((initial (.initial .succeeding)).step .d0Entry) loopEvents
          n).world.environment.controlStatus 0) = false :=
  rejection_ends outdatedRun_loop

theorem rejection_restarts :
    ¬ ∀ (w : World) (es : Nat → Event), OutdatedRun ((initial w).step .d0Entry) es →
      Ends ((initial w).step .d0Entry) es := by
  intro h
  have hends := h (.initial .succeeding) loopEvents outdatedRun_loop
  have hsent : sentAt ((initial (.initial .succeeding)).step .d0Entry) loopEvents 4 =
      [.readBdAddr] := by decide +kernel
  have hempty := (hends.silent 3 (answer_loopEvents 3)).2 4 (by decide)
  rw [hsent] at hempty
  cases hempty

end Host

end WireShock
