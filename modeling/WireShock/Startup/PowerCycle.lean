import WireShock.Startup.Order

namespace WireShock
open Interaction

def World.Accepts (w : World) : Prop := ∀ n, ntSuccess (w.environment.controlStatus n) = true

namespace Host

def succeeded (es : List Event) : List HciCommand :=
  es.filterMap fun e => e.answer.bind fun a => if a.success then some a.command else none

def sentDuring : Host → List Event → List HciCommand
  | _, [] => []
  | h, e :: es => startupSent (h.world.step e).radio.issued ++ sentDuring (h.step e) es

structure Cooperative (h : Host) (e : Event) : Prop where
  legal : h.Legal e
  power : e.isPower = false
  success : ∀ a ∈ e.answer, ∃ old, a = .complete a.command true old
  version : ∀ a ∈ e.answer, a.command = .readLocalVersionInfo →
    a = .complete .readLocalVersionInfo true false

instance (h : Host) (e : Event) : Decidable (h.Cooperative e) :=
  decidable_of_iff
    (h.Legal e ∧ e.isPower = false ∧
      (∀ a ∈ e.answer, ∃ old, a = .complete a.command true old) ∧
      ∀ a ∈ e.answer, a.command = .readLocalVersionInfo →
        a = .complete .readLocalVersionInfo true false)
    ⟨fun ⟨h₁, h₂, h₃, h₄⟩ => ⟨h₁, h₂, h₃, h₄⟩, fun h => ⟨h.1, h.2, h.3, h.4⟩⟩

def Settled (h : Host) : Prop := ∀ c ∈ h.outstanding, c ∉ startupCommands

instance (h : Host) : Decidable h.Settled :=
  inferInstanceAs (Decidable (∀ c ∈ h.outstanding, c ∉ startupCommands))

structure Cycle where
  events : List Event
  afterwards : List Event

def powered (h : Host) (c : Cycle) : Host := runs step (h.step .d0Entry) c.events

def afterCycle (h : Host) (c : Cycle) : Host := runs step ((h.powered c).step .d0Exit) c.afterwards

structure Exchange (h : Host) (c : Cycle) : Prop where
  events : Along step Cooperative (h.step .d0Entry) c.events
  settled : (h.powered c).Settled
  afterwards : Along step Cooperative ((h.powered c).step .d0Exit) c.afterwards

instance (h : Host) (c : Cycle) : Decidable (Exchange h c) :=
  decidable_of_iff
    (Along step Cooperative (h.step .d0Entry) c.events ∧ (h.powered c).Settled ∧
      Along step Cooperative ((h.powered c).step .d0Exit) c.afterwards)
    ⟨fun ⟨h₁, h₂, h₃⟩ => ⟨h₁, h₂, h₃⟩, fun h => ⟨h.1, h.2, h.3⟩⟩

structure StartsUp (h : Host) (c : Cycle) : Prop where
  started : .readBdAddr ∈ sentDuring (h.step .d0Entry) c.events
  sent : .writeScanEnable ∈ sentDuring (h.step .d0Entry) c.events
  completed : .writeScanEnable ∈ succeeded c.events

instance (h : Host) (c : Cycle) : Decidable (StartsUp h c) :=
  decidable_of_iff
    (.readBdAddr ∈ sentDuring (h.step .d0Entry) c.events ∧
      .writeScanEnable ∈ sentDuring (h.step .d0Entry) c.events ∧
      .writeScanEnable ∈ succeeded c.events)
    ⟨fun ⟨h₁, h₂, h₃⟩ => ⟨h₁, h₂, h₃⟩, fun h => ⟨h.1, h.2, h.3⟩⟩

def EveryCycle (P : Host → Cycle → Prop) : Host → List Cycle → Prop
  | _, [] => True
  | h, c :: cs => P h c ∧ EveryCycle P (h.afterCycle c) cs

instance decidableEveryCycle {P : Host → Cycle → Prop} [∀ h c, Decidable (P h c)] :
    ∀ (h : Host) (cs : List Cycle), Decidable (EveryCycle P h cs)
  | _, [] => isTrue trivial
  | h, c :: cs => @instDecidableAnd _ _ _ (decidableEveryCycle (h.afterCycle c) cs)

end Host

theorem consumed_step (w : World) (e : Event) : w.radio.Consumed (w.step e).radio := by
  cases ha : e.answer with
  | some a =>
    rw [radio_step_of_answer w ha]
    exact w.radio.fresh.consumed_answered a
  | none =>
    cases hq : e.isPower with
    | false => exact (undisturbed_step w ha hq).status
    | true =>
      have hr := Radio.consumed_issue w.radio.consumed_refl .reset
      cases e with
      | d0Entry =>
        rw [radio_step_d0Entry]
        exact hr
      | d0Exit =>
        rw [radio_step_d0Exit]
        exact hr
      | _ => cases hq

theorem accepts_step {w : World} (hw : w.Accepts) (e : Event) : (w.step e).Accepts := by
  obtain ⟨k, hk⟩ := consumed_step w e
  intro n
  have hs : (w.step e).environment.controlStatus n = w.environment.controlStatus (n + k) := hk n
  rw [hs]
  exact hw (n + k)

theorem next_of_success : ∀ c ∈ pendingCommands, c ≠ .writeScanEnable → ∀ d old : Bool,
    (c = .readLocalVersionInfo → old = false) → (next d true (.complete c true old)).isSome ∧
      ∀ n ∈ next d true (.complete c true old), n ∈ pendingCommands ∧ n ≠ .readBdAddr := by
  decide

namespace Host

section

variable {h : Host} {e : Event} {a : Answer}

theorem command_of_cooperative (hc : h.Cooperative e) (ha : e.answer = some a) :
    ∃ old, a = .complete a.command true old ∧ (a.command = .readLocalVersionInfo → old = false) := by
  obtain ⟨old, hold⟩ := hc.success a ha
  refine ⟨old, hold, fun hv => ?_⟩
  have ha' := hc.version a ha hv
  rw [hold] at ha'
  injection ha'

theorem next_ne_reset (hc : h.Cooperative e) (ha : e.answer = some a) (d : Bool) :
    next d true a ≠ some .reset := by
  obtain ⟨old, hold, hv⟩ := command_of_cooperative hc ha
  by_cases hm : a.command ∈ pendingCommands
  · by_cases hw : a.command = .writeScanEnable
    · rw [next_writeScanEnable a (hw ▸ mem_answersTo a)]
      simp
    · intro hn
      rw [hold] at hn
      have hr := ((next_of_success _ hm hw d old hv).2 _ hn).1
      exact absurd hr (by decide)
  · rcases next_of_not_pending hm d true with hn | hn <;> simp [hn]

theorem started_step (hc : h.Cooperative e) (hs : h.world.context.started = true) :
    (h.step e).world.context.started = true ∧
      .readBdAddr ∉ startupSent (h.world.step e).radio.issued := by
  cases ha : e.answer with
  | none =>
    have hu := undisturbed_step h.world ha hc.power
    refine ⟨hu.started.trans hs, fun hm => ?_⟩
    obtain ⟨hm, -⟩ := List.mem_filter.mp hm
    obtain ⟨x, hx, hxc⟩ := List.mem_map.mp hm
    exact hu.issued x hx (hxc ▸ by decide)
  | some a =>
    have hr : next h.world.context.disableSSP h.world.context.started a ≠ some .readBdAddr :=
      fun hn => by cases hs.symm.trans (next_readBdAddr hn)
    have hw := started_of_answer h ha
    rw [if_neg hr, hs, if_neg (next_ne_reset hc ha _)] at hw
    refine ⟨hw, ?_⟩
    rw [startupSent_of_answer h ha, Option.mem_toList]
    exact hr

theorem started_runs {es : List Event} (hl : Along step Cooperative h es)
    (hs : h.world.context.started = true) :
    (runs step h es).world.context.started = true ∧ .readBdAddr ∉ sentDuring h es := by
  induction es generalizing h with
  | nil => exact ⟨hs, by simp [sentDuring]⟩
  | cons e es ih =>
    obtain ⟨hw, hn⟩ := started_step hl.1 hs
    obtain ⟨hr, hm⟩ := ih hl.2 hw
    exact ⟨hr, by simp [sentDuring, hn, hm]⟩

theorem started_of_sent {es : List Event} (hl : Along step Cooperative h es)
    (hm : .readBdAddr ∈ sentDuring h es) : (runs step h es).world.context.started = true := by
  induction es generalizing h with
  | nil => cases hm
  | cons e es ih =>
    rcases List.mem_append.mp hm with hm | hm
    · have hw : (h.step e).world.context.started = true := by
        cases ha : e.answer with
        | none =>
          obtain ⟨hm, -⟩ := List.mem_filter.mp hm
          obtain ⟨x, hx, hxc⟩ := List.mem_map.mp hm
          exact absurd (hxc ▸ by decide) ((undisturbed_step h.world ha hl.1.power).issued x hx)
        | some a =>
          rw [startupSent_of_answer h ha, Option.mem_toList] at hm
          rw [started_of_answer h ha, if_pos hm]
      exact (started_runs hl.2 hw).1
    · exact ih hl.2 hm

theorem settled_pending (hs : h.Settled) : h.pending = [] := by
  refine List.filter_eq_nil_iff.mpr fun c hc hm => ?_
  exact hs c hc (List.mem_filter.mp (of_decide_eq_true hm)).1

theorem mem_pending (hl : h.Legal e) (ha : e.answer = some a) (hm : a.command ∈ pendingCommands) :
    a.command ∈ h.pending := List.mem_filter.mpr ⟨hl a ha, by simpa using hm⟩

theorem succeeded_cons {es : List Event} {c : HciCommand} (hm : c ∈ succeeded es) :
    c ∈ succeeded (e :: es) :=
  (List.Sublist.filterMap _ (List.sublist_cons_self e es)).subset hm

theorem silent_step (hp : e.isPower = false) (hs : h.world.context.started = true)
    (hm : ∀ a, e.answer = some a → a.command ∉ pendingCommands) :
    (h.step e).pending = h.pending := by
  cases ha : e.answer with
  | none => exact pending_of_quiet ha hp
  | some a =>
    have hn : next h.world.context.disableSSP h.world.context.started a = none := by
      rcases next_of_not_pending (hm a ha) h.world.context.disableSSP h.world.context.started
        with hn | hn
      · exact hn
      · cases hs.symm.trans (next_readBdAddr hn)
    have hq : a.command ∉ h.pending := fun hq => hm a ha (by simpa using (List.mem_filter.mp hq).2)
    rw [(step_of_silent ha hn).2.1, List.erase_of_not_mem hq]

theorem waiting_completes {es : List Event} {c : HciCommand} (hl : Along step Cooperative h es)
    (hw : h.world.Accepts) (hs : h.world.context.started = true) (hp : h.pending = [c])
    (hend : (runs step h es).Settled) :
    .writeScanEnable ∈ succeeded es ∧
      (c = .writeScanEnable ∨ .writeScanEnable ∈ sentDuring h es) := by
  induction es generalizing h c with
  | nil =>
    have hc := hp.symm.trans (settled_pending hend)
    cases hc
  | cons e es ih =>
    have hs' := (started_step hl.1 hs).1
    have hw' : (h.step e).world.Accepts := accepts_step hw e
    by_cases hm : ∃ a, e.answer = some a ∧ a.command ∈ pendingCommands
    · obtain ⟨a, ha, hm⟩ := hm
      obtain ⟨old, hold, hv⟩ := command_of_cooperative hl.1 ha
      obtain rfl : a.command = c := by
        have hq := mem_pending hl.1.legal ha hm
        simpa [hp] using hq
      by_cases hc : a.command = .writeScanEnable
      · refine ⟨?_, Or.inl hc⟩
        rw [hold, hc] at ha
        simp [succeeded, ha, Answer.success, Answer.command]
      · obtain ⟨hn, hnext⟩ := next_of_success _ hm hc h.world.context.disableSSP old hv
        rw [← hold] at hn hnext
        obtain ⟨n, hn⟩ := Option.isSome_iff_exists.mp hn
        obtain ⟨-, hi, hpn⟩ := step_of_next hs hp ha hn (hnext n hn).1
        rw [if_pos (hw 0)] at hpn
        obtain ⟨hd, hsent⟩ := ih hl.2 hw' hs' hpn hend
        refine ⟨succeeded_cons hd, Or.inr ?_⟩
        rw [sentDuring, hi]
        rcases hsent with rfl | hsent
        · simp
        · exact List.mem_append_right _ hsent
    · have hm : ∀ a, e.answer = some a → a.command ∉ pendingCommands := fun a ha hc =>
        hm ⟨a, ha, hc⟩
      have hp' := (silent_step hl.1.power hs hm).trans hp
      obtain ⟨hd, hsent⟩ := ih hl.2 hw' hs' hp' hend
      exact ⟨succeeded_cons hd, hsent.imp_right fun hm => List.mem_append_right _ hm⟩

theorem reset_starts {es : List Event} (hl : Along step Cooperative h es) (hw : h.world.Accepts)
    (hs : h.Asleep) (hend : (runs step h es).Settled) :
    .readBdAddr ∈ sentDuring h es ∧ .writeScanEnable ∈ sentDuring h es ∧
      .writeScanEnable ∈ succeeded es := by
  induction es generalizing h with
  | nil => exact absurd (by decide) (hend _ hs.reset)
  | cons e es ih =>
    have hw' : (h.step e).world.Accepts := accepts_step hw e
    by_cases hr : ∃ a, e.answer = some a ∧ a.command = .reset
    · obtain ⟨a, ha, hc⟩ := hr
      obtain ⟨old, hold, -⟩ := command_of_cooperative hl.1 ha
      rw [hc] at hold
      subst hold
      obtain ⟨hw₁, hi, hp⟩ := reset_wakes hs ha
      rw [if_pos (hw 0)] at hp
      obtain ⟨hd, hsent⟩ := waiting_completes hl.2 hw' hw₁ hp hend
      have hsent := hsent.resolve_left (by decide)
      refine ⟨?_, List.mem_append_right _ hsent, succeeded_cons hd⟩
      rw [sentDuring, hi]
      exact List.mem_append_left _ (by simp)
    · have hr : ∀ a, e.answer = some a → a.command ≠ .reset := fun a ha hc => hr ⟨a, ha, hc⟩
      have hs' := (asleep_step hs hl.1.legal hl.1.power hr).1
      obtain ⟨h₁, h₂, h₃⟩ := ih hl.2 hw' hs' hend
      exact ⟨List.mem_append_right _ h₁, List.mem_append_right _ h₂, succeeded_cons h₃⟩

theorem started_d0Entry : (h.step .d0Entry).world.context.started = h.world.context.started :=
  congrArg Radio.started (radio_step_d0Entry h.world)

theorem started_d0Exit : (h.step .d0Exit).world.context.started = h.world.context.started :=
  congrArg Radio.started (radio_step_d0Exit h.world)

theorem outstanding_d0Entry (hw : h.world.Accepts) :
    (h.step .d0Entry).outstanding = h.outstanding ++ [.reset] := by
  have hi : (h.world.step .d0Entry).radio.issued =
      [(.reset, h.world.environment.controlStatus 0)] := by
    rw [radio_step_d0Entry]
    rfl
  simp [step, hi, answered, Event.answer, accepted, hw 0]

theorem startsUp_first {w : World} {c : Cycle} (hs : w.context.started = false) (hw : w.Accepts)
    (hx : Exchange (initial w) c) : StartsUp (initial w) c := by
  have ho := outstanding_d0Entry (h := initial w) hw
  have hp : ((initial w).step .d0Entry).pending = [] := by
    rw [pending, ho]
    change List.filter (fun c => decide (c ∈ pendingCommands)) [.reset] = []
    decide
  have hr : .reset ∈ ((initial w).step .d0Entry).outstanding := by simp [ho]
  obtain ⟨h₁, h₂, h₃⟩ := reset_starts hx.events (accepts_step hw .d0Entry)
    ⟨started_d0Entry.trans hs, hp, hr⟩ hx.settled
  exact ⟨h₁, h₂, h₃⟩

theorem started_afterCycle {c : Cycle} (hx : Exchange h c) (hs : StartsUp h c) :
    (h.afterCycle c).world.context.started = true :=
  (started_runs hx.afterwards (started_d0Exit.trans (started_of_sent hx.events hs.started))).1

theorem not_startsUp {c : Cycle} (hx : Exchange h c) (hs : h.world.context.started = true) :
    ¬ StartsUp h c := fun hc =>
  (started_runs hx.events (started_d0Entry.trans hs)).2 hc.started

end

theorem startsUp_every_cycle {w : World} (hs : w.context.started = false) (hw : w.Accepts)
    {cycles : List Cycle} (hx : EveryCycle Exchange (initial w) cycles) :
    EveryCycle StartsUp (initial w) cycles ↔ cycles.length ≤ 1 := by
  cases cycles with
  | nil => simp [EveryCycle]
  | cons c rest =>
    have h₁ := startsUp_first hs hw hx.1
    cases rest with
    | nil => simp [EveryCycle, h₁]
    | cons d rest =>
      have h₂ := not_startsUp hx.2.1 (started_afterCycle hx.1 h₁)
      constructor
      · intro hc
        exact absurd hc.2.1 h₂
      · intro hl
        simp only [List.length_cons] at hl
        omega

def twoCycles : List Cycle :=
  [⟨startupAnswers .initial, []⟩, ⟨[completion .reset 0x00 0x03, completion .reset 0x00 0x03], []⟩]

theorem accepts_succeeding : (World.initial .succeeding).Accepts := fun _ =>
  (by decide : ntSuccess statusSuccess = true)

theorem startsUp_every_cycle_two :
    EveryCycle StartsUp (initial (.initial .succeeding)) twoCycles ↔ twoCycles.length ≤ 1 :=
  startsUp_every_cycle (w := .initial .succeeding) rfl accepts_succeeding (by decide +kernel)

theorem second_cycle_silent :
    ¬ ∀ (w : World) (cycles : List Cycle), w.context.started = false → w.Accepts →
      EveryCycle Exchange (initial w) cycles → EveryCycle StartsUp (initial w) cycles := by
  intro h
  have hx : EveryCycle Exchange (initial (.initial .succeeding)) twoCycles := by decide +kernel
  have hn : ¬ EveryCycle StartsUp (initial (.initial .succeeding)) twoCycles := by decide +kernel
  exact hn (h (.initial .succeeding) twoCycles rfl accepts_succeeding hx)

end Host

end WireShock
