import WireShock.Interaction.Run
import WireShock.Startup.Reaction

namespace WireShock
open Interaction

structure Outcome where
  oldVersion : Bool
  disableSSP : Bool
  fallBack : Option HciCommand
deriving DecidableEq, Repr

def Outcome.initial : Outcome := ⟨false, false, none⟩

def Outcome.observe (o : Outcome) (disableSSP : Bool) : Answer → Outcome
  | .complete .readLocalVersionInfo true old =>
    { o with oldVersion := old, disableSSP := disableSSP }
  | a => if supportsPairing a.command && !a.success then { o with fallBack := a.command } else o

def pairingOrder : List HciCommand :=
  [.writeSimplePairingMode, .writeSimplePairingDebugMode, .writeAuthenticationEnable, .setEventMask,
   .writePageTimeout, .writePageScanActivity, .writePageScanType, .writeInquiryScanActivity,
   .writeInquiryScanType, .writeInquiryMode, .writeClassOfDevice, .writeExtendedInquiryResponse,
   .writeLocalName, .writeScanEnable]

def through (order : List HciCommand) (c : HciCommand) : List HciCommand :=
  order.takeWhile (· ≠ c) ++ [c]

def startupOrder (o : Outcome) : List HciCommand :=
  [.readBdAddr, .readBufferSize, .readLocalVersionInfo] ++
    if o.oldVersion then [.reset]
    else if o.disableSSP then [.writeScanEnable]
    else match o.fallBack with
      | some c => through pairingOrder c ++ [.writeScanEnable]
      | none => pairingOrder

def completion (c : HciCommand) (status version : BYTE) : Event :=
  .hci (Buffer.ofList [0x0E, 0x04, 0x01, c.lsb, c.msb, status, version, 0x00, 0x00, version]) 10

def startupAnswers (o : Outcome) : List Event :=
  (.reset :: startupOrder o).map fun c => completion c 0x00 0x03

structure Segment where
  commands : List HciCommand
  outcome : Outcome
deriving DecidableEq, Repr

structure Host where
  world : World
  outstanding : List HciCommand
  segment : Segment

def startupSent (issued : List (HciCommand × NTSTATUS)) : List HciCommand :=
  (issued.map Prod.fst).filter (· ∈ startupCommands)

def pendingCommands : List HciCommand := startupCommands.filter (· ≠ .reset)

def accepted (issued : List (HciCommand × NTSTATUS)) : List HciCommand :=
  (issued.filter fun x => ntSuccess x.2).map Prod.fst

namespace Host

def observed (h : Host) (e : Event) : Outcome :=
  e.answer.elim h.segment.outcome (h.segment.outcome.observe h.world.context.disableSSP)

def nextSegment (h : Host) (e : Event) : Segment :=
  if e.isPower then h.segment
  else if !h.world.context.started && (h.world.step e).context.started then
    ⟨startupSent (h.world.step e).radio.issued, .initial⟩
  else
    ⟨h.segment.commands ++ startupSent (h.world.step e).radio.issued, h.observed e⟩

def answered (h : Host) (e : Event) : List HciCommand :=
  e.answer.elim h.outstanding fun a => h.outstanding.erase a.command

def step (h : Host) (e : Event) : Host where
  world := h.world.step e
  outstanding := h.answered e ++ accepted (h.world.step e).radio.issued
  segment := h.nextSegment e

def Legal (h : Host) (e : Event) : Prop := ∀ a ∈ e.answer, a.command ∈ h.outstanding

instance (h : Host) (e : Event) : Decidable (h.Legal e) :=
  inferInstanceAs (Decidable (∀ a ∈ e.answer, a.command ∈ h.outstanding))

def initial (w : World) : Host := ⟨w, [], ⟨[], .initial⟩⟩

def pending (h : Host) : List HciCommand := h.outstanding.filter fun c => c ∈ pendingCommands

end Host

def next (disableSSP started : Bool) : Answer → Option HciCommand
  | .complete c success old =>
    if c = .reset then if success && !started then some .readBdAddr else none
    else if supportsPairing c && !success then some .writeScanEnable
    else if success || c = .writeSimplePairingDebugMode then
      if c = .readLocalVersionInfo && old then some .reset else successor disableSSP c
    else none
  | .status c => if supportsPairing c then some .writeScanEnable else none

theorem issued_reject (r : Radio) : r.reject.issued = r.issued ++ [(.reset, r.status 0)] := by
  unfold Radio.reject
  split <;> rfl

theorem issued_answered (r : Radio) (a : Answer) :
    (r.answered a).issued =
      r.issued ++ ((next r.disableSSP r.started a).map fun c => (c, r.status 0)).toList := by
  cases a with
  | complete c success old =>
    simp only [Radio.answered, Radio.completed, next]
    split_ifs
    · rfl
    · simp
    · rfl
    · simp [issued_reject]
    · cases successor r.disableSSP c <;> simp
    · simp
  | status c =>
    simp only [Radio.answered, Radio.failed, next]
    split_ifs
    · rfl
    · simp

theorem successor_ne (d : Bool) (c : HciCommand) :
    successor d c ≠ some .readBdAddr ∧ successor d c ≠ some .reset := by
  cases c <;> cases d <;> decide

theorem started_reject (r : Radio) :
    r.reject.started = (r.started && !ntSuccess (r.status 0)) := by
  unfold Radio.reject
  cases h : ntSuccess (r.status 0) <;> simp

theorem started_answered (r : Radio) (a : Answer) :
    (r.answered a).started =
      if next r.disableSSP r.started a = some .readBdAddr then true
      else if next r.disableSSP r.started a = some .reset then r.started && !ntSuccess (r.status 0)
      else r.started := by
  cases a with
  | status c =>
    simp only [Radio.answered, Radio.failed, next]
    by_cases hp : supportsPairing c = true
    · simp only [if_pos hp]
      rfl
    · simp only [if_neg hp]
      rfl
  | complete c success old =>
    simp only [Radio.answered, Radio.completed, next]
    by_cases hc : c = .reset
    · simp only [if_pos hc]
      by_cases hs : (success && !r.started) = true
      · simp only [if_pos hs]
        rfl
      · simp only [if_neg hs]
        rfl
    simp only [if_neg hc]
    by_cases hp : (supportsPairing c && !success) = true
    · simp only [if_pos hp]
      rfl
    simp only [if_neg hp]
    by_cases hg : (success || decide (c = .writeSimplePairingDebugMode)) = true
    · simp only [if_pos hg]
      by_cases hv : (decide (c = .readLocalVersionInfo) && old) = true
      · simp only [if_pos hv]
        exact started_reject r
      · have hs := successor_ne r.disableSSP c
        simp only [if_neg hv, if_neg hs.1, if_neg hs.2]
        cases successor r.disableSSP c <;> rfl
    · simp only [if_neg hg]
      rfl

theorem next_readBdAddr {d started : Bool} {a : Answer}
    (h : next d started a = some .readBdAddr) : started = false := by
  cases a with
  | status c =>
    by_cases hp : supportsPairing c = true <;> simp [next, hp] at h
  | complete c success old =>
    have hs := (successor_ne d c).1
    simp only [next] at h
    split_ifs at h with h₁ h₂
    · simpa using (Bool.and_eq_true_iff.mp h₂).2
    · cases h
    · cases h
    · exact absurd h hs

theorem successor_mem (d : Bool) (c e : HciCommand) (h : successor d c = some e) :
    e ∈ pendingCommands := by
  cases c <;> cases d <;> cases h <;> decide

theorem next_mem {d started : Bool} {a : Answer} {c : HciCommand}
    (h : next d started a = some c) : c ∈ startupCommands := by
  have hp : ∀ c ∈ pendingCommands, c ∈ startupCommands := by decide
  cases a with
  | status b =>
    by_cases hb : supportsPairing b = true
    · rw [next, if_pos hb] at h
      cases h
      decide
    · rw [next, if_neg hb] at h
      cases h
  | complete b success old =>
    simp only [next] at h
    split_ifs at h
    · cases h
      decide
    · cases h
      decide
    · cases h
      decide
    · exact hp c (successor_mem d b c h)

namespace Host

section

variable (h : Host) {e : Event} {a : Answer}

@[simp] theorem step_world : (h.step e).world = h.world.step e := rfl
@[simp] theorem step_segment : (h.step e).segment = h.nextSegment e := rfl

theorem issued_of_answer (ha : e.answer = some a) :
    (h.world.step e).radio.issued =
      ((next h.world.context.disableSSP h.world.context.started a).map fun c =>
        (c, h.world.environment.controlStatus 0)).toList := by
  rw [radio_step_of_answer h.world ha, issued_answered]
  rfl

theorem started_of_answer (ha : e.answer = some a) :
    (h.step e).world.context.started =
      if next h.world.context.disableSSP h.world.context.started a = some .readBdAddr then true
      else if next h.world.context.disableSSP h.world.context.started a = some .reset then
        h.world.context.started && !ntSuccess (h.world.environment.controlStatus 0)
      else h.world.context.started := by
  rw [step_world, ← radio_started, radio_step_of_answer h.world ha, started_answered]
  rfl

theorem outstanding_of_answer (ha : e.answer = some a) :
    (h.step e).outstanding =
      h.outstanding.erase a.command ++ accepted (h.world.step e).radio.issued := by
  simp [step, answered, ha]

theorem accepted_of_answer (ha : e.answer = some a) :
    accepted (h.world.step e).radio.issued =
      if ntSuccess (h.world.environment.controlStatus 0) then
        (next h.world.context.disableSSP h.world.context.started a).toList
      else [] := by
  rw [issued_of_answer h ha]
  cases next h.world.context.disableSSP h.world.context.started a with
  | none => simp [accepted]
  | some c => cases ht : ntSuccess (h.world.environment.controlStatus 0) <;> simp [accepted, ht]

theorem startupSent_of_answer (ha : e.answer = some a) :
    startupSent (h.world.step e).radio.issued =
      (next h.world.context.disableSSP h.world.context.started a).toList := by
  rw [issued_of_answer h ha]
  cases hn : next h.world.context.disableSSP h.world.context.started a with
  | none => rfl
  | some c => simp [startupSent, next_mem hn]

theorem isPower_of_answer (ha : e.answer = some a) : e.isPower = false := by
  cases e <;> first | rfl | cases ha

theorem segment_of_answer (ha : e.answer = some a) :
    (h.step e).segment =
      if next h.world.context.disableSSP h.world.context.started a = some .readBdAddr then
        ⟨[.readBdAddr], .initial⟩
      else
        ⟨h.segment.commands ++
            (next h.world.context.disableSSP h.world.context.started a).toList,
          h.segment.outcome.observe h.world.context.disableSSP a⟩ := by
  rw [step_segment, nextSegment, isPower_of_answer ha, startupSent_of_answer h ha,
    ← step_world, started_of_answer h ha, observed, ha]
  by_cases hn : next h.world.context.disableSSP h.world.context.started a = some .readBdAddr
  · have hs := next_readBdAddr hn
    rw [hs] at hn
    simp [hs, hn]
  · cases hs : h.world.context.started <;> simp [hs] at hn ⊢ <;> simp [hn]

end

end Host

def answersTo (c : HciCommand) : List Answer :=
  [.status c, .complete c true true, .complete c true false, .complete c false true,
   .complete c false false]

theorem mem_answersTo (a : Answer) : a ∈ answersTo a.command := by
  cases a with
  | status c => simp [answersTo, Answer.command]
  | complete c success old => cases success <;> cases old <;> simp [answersTo, Answer.command]

theorem order_next : ∀ c ∈ startupOrder .initial, c ≠ .writeScanEnable → ∀ a ∈ answersTo c,
    ∀ d : Bool, through (startupOrder .initial) c ++ (next d true a).toList <+:
      startupOrder (Outcome.initial.observe d a) := by decide

theorem stage_next : ∀ c ∈ startupOrder .initial, c ≠ .writeScanEnable → ∀ a ∈ answersTo c,
    ∀ d : Bool, ∀ n ∈ next d true a, n = .reset ∨ n = .writeScanEnable ∨
      n ∈ startupOrder .initial ∧ Outcome.initial.observe d a = .initial ∧
        through (startupOrder .initial) c ++ [n] = through (startupOrder .initial) n := by decide

theorem next_writeScanEnable : ∀ a ∈ answersTo .writeScanEnable, ∀ d : Bool,
    next d true a = none := by decide

theorem not_supportsPairing {c : HciCommand} (hc : c ∉ pendingCommands) :
    supportsPairing c = false := by
  revert hc
  cases c <;> decide

theorem successor_of_not_pending {c : HciCommand} (hc : c ∉ pendingCommands) (d : Bool) :
    successor d c = none := by
  revert hc
  cases c <;> cases d <;> decide

theorem observe_of_ne {a : Answer} (hv : a.command ≠ .readLocalVersionInfo)
    (hs : supportsPairing a.command = false) (o : Outcome) (d : Bool) : o.observe d a = o := by
  unfold Outcome.observe
  split
  · exact absurd rfl hv
  · simp [hs]

theorem next_of_other {a : Answer} (ha : a.command ∉ startupCommands) (d started : Bool) :
    next d started a = none := by
  have hm : a.command ∉ pendingCommands := fun hm => ha (List.mem_filter.mp hm).1
  have hs := not_supportsPairing hm
  have hn := successor_of_not_pending hm d
  cases a with
  | status c => exact if_neg (by simpa [Answer.command] using hs)
  | complete c success old =>
    simp only [Answer.command] at ha hs hn
    have hr : c ≠ .reset := fun h => ha (by rw [h]; decide)
    have hv : c ≠ .readLocalVersionInfo := fun h => ha (by rw [h]; decide)
    simp [next, hr, hs, hv, hn]

theorem mem_pendingCommands {c : HciCommand} (hc : c ∉ pendingCommands) (hr : c ≠ .reset) :
    c ∉ startupCommands := fun hm => hc (List.mem_filter.mpr ⟨hm, by simpa using hr⟩)

theorem next_of_not_pending {a : Answer} (ha : a.command ∉ pendingCommands) (d started : Bool) :
    next d started a = none ∨ next d started a = some .readBdAddr := by
  by_cases hr : a.command = .reset
  · cases a with
    | status c =>
      obtain rfl : c = .reset := hr
      exact Or.inl rfl
    | complete c success old =>
      obtain rfl : c = .reset := hr
      cases success <;> cases started <;> simp [next]
  · exact Or.inl (next_of_other (mem_pendingCommands ha hr) d started)

namespace Host

structure Waiting (h : Host) (c : HciCommand) : Prop where
  pending : h.pending = [c]
  started : h.world.context.started = true
  segment : c = .writeScanEnable ∨
    c ∈ startupOrder .initial ∧ h.segment = ⟨through (startupOrder .initial) c, .initial⟩

structure Ordered (h : Host) : Prop where
  segment : h.segment.commands <+: startupOrder h.segment.outcome
  stage : h.pending = [] ∨ ∃ c, h.Waiting c

section

variable {h : Host} {e : Event} {a : Answer}

theorem pending_step_of_answer (ha : e.answer = some a) :
    (h.step e).pending = h.pending.erase a.command ++
      (accepted (h.world.step e).radio.issued).filter (· ∈ pendingCommands) := by
  rw [pending, pending, List.erase_filter, ← List.filter_append]
  simp [step, answered, ha]

theorem pending_step_of_quiet (ha : e.answer = none)
    (hq : ∀ c ∈ accepted (h.world.step e).radio.issued, c ∉ pendingCommands) :
    (h.step e).pending = h.pending := by
  have hn : (accepted (h.world.step e).radio.issued).filter (· ∈ pendingCommands) = [] := by
    simpa using hq
  simp only [pending, step, answered, ha, Option.elim_none, List.filter_append, hn, List.append_nil]

theorem mem_accepted {issued : List (HciCommand × NTSTATUS)} {c : HciCommand}
    (hc : c ∈ accepted issued) : ∃ x ∈ issued, x.1 = c := by
  obtain ⟨x, hx, rfl⟩ := List.mem_map.mp hc
  exact ⟨x, (List.mem_filter.mp hx).1, rfl⟩

theorem ordered_of_eq {g : Host} (ho : h.Ordered) (hp : g.pending = h.pending)
    (hw : g.world.context.started = h.world.context.started) (hs : g.segment = h.segment) :
    g.Ordered := by
  refine ⟨by rw [hs]; exact ho.segment, ?_⟩
  rcases ho.stage with hi | ⟨c, hc⟩
  · exact Or.inl (hp.trans hi)
  · exact Or.inr ⟨c, hp.trans hc.pending, hw.trans hc.started, by rw [hs]; exact hc.segment⟩

theorem ordered_step_of_power (ho : h.Ordered) (hp : e.isPower = true) : (h.step e).Ordered := by
  have hr : (h.world.step e).radio = h.world.radio.fresh.issue .reset := by
    cases e with
    | d0Entry => exact radio_step_d0Entry h.world
    | d0Exit => exact radio_step_d0Exit h.world
    | _ => cases hp
  have ha : e.answer = none := by cases e <;> first | rfl | cases hp
  refine ordered_of_eq ho (pending_step_of_quiet ha ?_) ?_ ?_
  · intro c hc
    obtain ⟨x, hx, rfl⟩ := mem_accepted hc
    have hx : x = (.reset, h.world.environment.controlStatus 0) := by
      simpa [hr, Radio.fresh] using hx
    rw [hx]
    exact (by decide : HciCommand.reset ∉ pendingCommands)
  · show (h.world.step e).radio.started = _
    rw [hr]
    rfl
  · simp [step, nextSegment, hp]

theorem ordered_step_of_quiet (ho : h.Ordered) (ha : e.answer = none) (hp : e.isPower = false) :
    (h.step e).Ordered := by
  have hu := undisturbed_step h.world ha hp
  have hs : startupSent (h.world.step e).radio.issued = [] := by
    simp only [startupSent, List.filter_eq_nil_iff, List.mem_map, decide_eq_true_eq]
    rintro c ⟨x, hx, rfl⟩
    exact hu.issued x hx
  refine ordered_of_eq ho (pending_step_of_quiet ha ?_) hu.started ?_
  · intro c hc
    obtain ⟨x, hx, rfl⟩ := mem_accepted hc
    exact fun hm => hu.issued x hx (List.mem_filter.mp hm).1
  · have hw : (h.world.step e).context.started = h.world.context.started := hu.started
    cases ht : h.world.context.started <;> simp [step, nextSegment, hp, hw, ht, hs, observed, ha]

theorem ordered_step_of_other (ho : h.Ordered) (ha : e.answer = some a)
    (hc : a.command ∉ pendingCommands) : (h.step e).Ordered := by
  have hp := pending_step_of_answer (h := h) ha
  have hm : a.command ∉ h.pending := fun hm => hc (by simpa using (List.mem_filter.mp hm).2)
  rw [List.erase_of_not_mem hm, accepted_of_answer h ha] at hp
  have hv : a.command ≠ .readLocalVersionInfo := fun h => hc (by rw [h]; decide)
  have hw := started_of_answer h ha
  have hs := segment_of_answer h ha
  rcases next_of_not_pending hc h.world.context.disableSSP h.world.context.started with hn | hn
  · refine ordered_of_eq ho ?_ ?_ ?_
    · simpa [hn] using hp
    · simpa [hn] using hw
    · simpa [hn, observe_of_ne hv (not_supportsPairing hc)] using hs
  · have hi : h.pending = [] := by
      rcases ho.stage with hi | ⟨c, hc⟩
      · exact hi
      · have := hc.started
        rw [next_readBdAddr hn] at this
        cases this
    have hg : (h.step e).segment = ⟨through (startupOrder .initial) .readBdAddr, .initial⟩ := by
      rw [hs, if_pos hn]
      rfl
    refine ⟨by rw [hg]; decide, ?_⟩
    rw [hi, hn] at hp
    cases ht : ntSuccess (h.world.environment.controlStatus 0) with
    | false => exact Or.inl (by simpa [ht] using hp)
    | true =>
      refine Or.inr ⟨.readBdAddr, ?_, ?_, Or.inr ⟨by decide, hg⟩⟩
      · rw [hp, ht]
        decide
      · simpa [hn] using hw

theorem ordered_step_of_pending (ho : h.Ordered) (ha : e.answer = some a)
    (hl : a.command ∈ h.outstanding) (hc : a.command ∈ pendingCommands) : (h.step e).Ordered := by
  have hm : a.command ∈ h.pending := List.mem_filter.mpr ⟨hl, by simpa using hc⟩
  obtain ⟨c, hwait⟩ : ∃ c, h.Waiting c := by
    rcases ho.stage with hi | hw
    · rw [hi] at hm
      cases hm
    · exact hw
  obtain rfl : a.command = c := by simpa [hwait.pending] using hm
  have hp := pending_step_of_answer (h := h) ha
  rw [hwait.pending, accepted_of_answer h ha, hwait.started] at hp
  have hw := started_of_answer h ha
  have hs := segment_of_answer h ha
  rw [hwait.started] at hw hs
  have hr : next h.world.context.disableSSP true a ≠ some .readBdAddr := fun hn => by
    cases next_readBdAddr hn
  rw [if_neg hr] at hw hs
  by_cases hl : a.command = .writeScanEnable
  · have hn : next h.world.context.disableSSP true a = none :=
      next_writeScanEnable a (hl ▸ mem_answersTo a) _
    have hobs := observe_of_ne (a := a) (by rw [hl]; decide) (by rw [hl]; decide)
      h.segment.outcome h.world.context.disableSSP
    refine ⟨?_, Or.inl (by simpa [hn] using hp)⟩
    rw [hs, hn, hobs]
    simpa using ho.segment
  obtain ⟨ho', hseg⟩ := hwait.segment.resolve_left hl
  have hpre := order_next _ ho' hl a (mem_answersTo a) h.world.context.disableSSP
  have hst := stage_next _ ho' hl a (mem_answersTo a) h.world.context.disableSSP
  rw [hseg] at hs
  refine ⟨by rw [hs]; exact hpre, ?_⟩
  cases hn : next h.world.context.disableSSP true a with
  | none => exact Or.inl (by simpa [hn] using hp)
  | some n =>
    rw [hn] at hp hw hs
    cases ht : ntSuccess (h.world.environment.controlStatus 0) with
    | false => exact Or.inl (by simpa [ht] using hp)
    | true =>
      rcases hst n hn with rfl | rfl | ⟨hm, hobs, hthr⟩
      · refine Or.inl ?_
        rw [hp, ht]
        simp [pendingCommands]
      · refine Or.inr ⟨.writeScanEnable, ?_, by simpa using hw, Or.inl rfl⟩
        rw [hp, ht]
        simp [show HciCommand.writeScanEnable ∈ pendingCommands by decide]
      · have hpend : n ∈ pendingCommands := by
          have : ∀ c ∈ startupOrder .initial, c ∈ pendingCommands := by decide
          exact this n hm
        have hnr : n ≠ .reset := by
          rintro rfl
          exact absurd hpend (by decide)
        refine Or.inr ⟨n, ?_, by simpa [hnr] using hw, Or.inr ⟨hm, ?_⟩⟩
        · rw [hp, ht]
          simp [hpend]
        · rw [hs, hobs, ← hthr]
          rfl

theorem ordered_step (ho : h.Ordered) (hl : h.Legal e) : (h.step e).Ordered := by
  cases ha : e.answer with
  | none =>
    cases hp : e.isPower with
    | true => exact ordered_step_of_power ho hp
    | false => exact ordered_step_of_quiet ho ha hp
  | some a =>
    by_cases hc : a.command ∈ pendingCommands
    · exact ordered_step_of_pending ho ha (hl a ha) hc
    · exact ordered_step_of_other ho ha hc

end

theorem ordered_initial (w : World) : (initial w).Ordered := ⟨by simp [initial], Or.inl rfl⟩

section

variable {h : Host} {e : Event} {a : Answer}

theorem outstanding_of_quiet (ha : e.answer = none) :
    h.outstanding ⊆ (h.step e).outstanding := by
  intro c hc
  simp [step, answered, ha, hc]

theorem pending_of_quiet (ha : e.answer = none) (hp : e.isPower = false) :
    (h.step e).pending = h.pending := by
  refine pending_step_of_quiet ha fun c hc hm => ?_
  obtain ⟨x, hx, rfl⟩ := mem_accepted hc
  exact (undisturbed_step h.world ha hp).issued x hx (List.mem_filter.mp hm).1

theorem startupSent_of_quiet (ha : e.answer = none) (hp : e.isPower = false) :
    startupSent (h.world.step e).radio.issued = [] := by
  refine List.filter_eq_nil_iff.mpr fun c hc => ?_
  obtain ⟨x, hx, rfl⟩ := List.mem_map.mp hc
  simpa using (undisturbed_step h.world ha hp).issued x hx

theorem step_of_silent (ha : e.answer = some a)
    (hn : next h.world.context.disableSSP h.world.context.started a = none) :
    (h.step e).world.context.started = h.world.context.started ∧
      (h.step e).pending = h.pending.erase a.command ∧
      startupSent (h.world.step e).radio.issued = [] := by
  refine ⟨?_, ?_, ?_⟩
  · simpa [hn] using started_of_answer h ha
  · simpa [accepted_of_answer h ha, hn] using pending_step_of_answer (h := h) ha
  · simp [startupSent_of_answer h ha, hn]

theorem step_of_next {n : HciCommand} (hs : h.world.context.started = true)
    (hp : h.pending = [a.command]) (ha : e.answer = some a)
    (hn : next h.world.context.disableSSP true a = some n) (hm : n ∈ pendingCommands) :
    (h.step e).world.context.started = true ∧
      startupSent (h.world.step e).radio.issued = [n] ∧
      (h.step e).pending = if ntSuccess (h.world.environment.controlStatus 0) then [n] else [] := by
  have hb : some n ≠ some .readBdAddr := fun hb => by
    rw [hb] at hn
    cases next_readBdAddr hn
  have hr : some n ≠ some .reset := fun hr => by
    obtain rfl : n = .reset := by simpa using hr
    exact absurd hm (by decide)
  refine ⟨?_, ?_, ?_⟩
  · rw [started_of_answer h ha, hs, hn, if_neg hb, if_neg hr]
  · rw [startupSent_of_answer h ha, hs, hn]
    rfl
  · rw [pending_step_of_answer ha, accepted_of_answer h ha, hs, hn, hp]
    cases ntSuccess (h.world.environment.controlStatus 0) <;> simp [hm]

structure Asleep (h : Host) : Prop where
  started : h.world.context.started = false
  pending : h.pending = []
  reset : .reset ∈ h.outstanding

structure Finished (h : Host) : Prop where
  started : h.world.context.started = true
  pending : h.pending = []

theorem not_pending_of_legal (hl : h.Legal e) (ha : e.answer = some a) (hp : h.pending = []) :
    a.command ∉ pendingCommands := by
  intro hm
  have hq : a.command ∈ h.pending := List.mem_filter.mpr ⟨hl a ha, by simpa using hm⟩
  rw [hp] at hq
  cases hq

theorem asleep_step (hs : h.Asleep) (hl : h.Legal e) (hp : e.isPower = false)
    (hr : ∀ a, e.answer = some a → a.command ≠ .reset) :
    (h.step e).Asleep ∧ startupSent (h.world.step e).radio.issued = [] := by
  cases ha : e.answer with
  | none =>
    have hw := (undisturbed_step h.world ha hp).started
    exact ⟨⟨hw.trans hs.started, (pending_of_quiet ha hp).trans hs.pending,
      outstanding_of_quiet ha hs.reset⟩, startupSent_of_quiet ha hp⟩
  | some a =>
    have hm := not_pending_of_legal hl ha hs.pending
    obtain ⟨hw, hq, hi⟩ := step_of_silent ha (next_of_other (mem_pendingCommands hm (hr a ha)) _ _)
    refine ⟨⟨hw.trans hs.started, ?_, ?_⟩, hi⟩
    · rw [hq, hs.pending]
      rfl
    · rw [outstanding_of_answer h ha]
      exact List.mem_append_left _ ((List.mem_erase_of_ne (Ne.symm (hr a ha))).mpr hs.reset)

theorem finished_step (hf : h.Finished) (hl : h.Legal e) (hp : e.isPower = false) :
    (h.step e).Finished ∧ startupSent (h.world.step e).radio.issued = [] := by
  cases ha : e.answer with
  | none =>
    have hw := (undisturbed_step h.world ha hp).started
    exact ⟨⟨hw.trans hf.started, (pending_of_quiet ha hp).trans hf.pending⟩,
      startupSent_of_quiet ha hp⟩
  | some a =>
    have hm := not_pending_of_legal hl ha hf.pending
    have hn : next h.world.context.disableSSP h.world.context.started a = none := by
      rcases next_of_not_pending hm h.world.context.disableSSP h.world.context.started with hn | hn
      · exact hn
      · cases hf.started.symm.trans (next_readBdAddr hn)
    obtain ⟨hw, hq, hi⟩ := step_of_silent ha hn
    refine ⟨⟨hw.trans hf.started, ?_⟩, hi⟩
    rw [hq, hf.pending]
    rfl

theorem reset_wakes (hs : h.Asleep) {old : Bool} (ha : e.answer = some (.complete .reset true old)) :
    (h.step e).world.context.started = true ∧
      startupSent (h.world.step e).radio.issued = [.readBdAddr] ∧
      (h.step e).pending =
        if ntSuccess (h.world.environment.controlStatus 0) then [.readBdAddr] else [] := by
  have hn : next h.world.context.disableSSP h.world.context.started (.complete .reset true old) =
      some .readBdAddr := by
    rw [hs.started]
    rfl
  refine ⟨?_, ?_, ?_⟩
  · rw [started_of_answer h ha, if_pos hn]
  · rw [startupSent_of_answer h ha, hn]
    rfl
  · rw [pending_step_of_answer ha, accepted_of_answer h ha, hn, hs.pending]
    cases ntSuccess (h.world.environment.controlStatus 0) <;> rfl

end

theorem startup_order (w : World) (es : List Event) (hl : Along step Legal (initial w) es) :
    (runs step (initial w) es).pending.length ≤ 1 ∧
      (runs step (initial w) es).segment.commands <+:
        startupOrder (runs step (initial w) es).segment.outcome := by
  have ho : (runs step (initial w) es).Ordered :=
    runs_invariant (fun _ _ => ordered_step) (ordered_initial w) hl
  refine ⟨?_, ho.segment⟩
  rcases ho.stage with hi | ⟨c, hc⟩
  · rw [hi]
    exact Nat.zero_le 1
  · rw [hc.pending]
    exact Nat.le_refl 1

theorem startup_order_full : (runs step (initial (.initial .succeeding))
      (.d0Entry :: startupAnswers .initial)).segment.commands <+: startupOrder
        (runs step (initial (.initial .succeeding))
          (.d0Entry :: startupAnswers .initial)).segment.outcome :=
  (startup_order (.initial .succeeding) (.d0Entry :: startupAnswers .initial)
    (by decide +kernel)).2

end Host

end WireShock
