import WireShock.Interaction.WaitingLine
import WireShock.Requests.Service
import WireShock.Requests.Waiting

namespace WireShock
open Interaction

abbrev Read := Request × List BYTE

abbrev RawReport := BthDevice × Buffer

-- the reads of a child, each with the buffer it came with, wait for the child's raw reports
def readService : Service Read RawReport Output where
  parts report :=
    if report.2 10 = 0xFF then 0 else report.1.configuration.hidDeviceMode.reports
  accepts read := ds3HidInputReportSize ≤ read.2.length
  answer report i read := .complete read.1 statusSuccess (reportOf report.1 report.2 i read.2).length
    (reportOf report.1 report.2 i read.2)
  refuse read := World.refusal read.1

namespace World

def line (w : World) (q : Handle) : List Read := (w.queues q).map fun r => (r, w.outputBuffers r)

section

variable {w : World} {q : Handle} {r : Request} {rest : List Request} {device : BthDevice}
  {buffer : Buffer}

def afterService (w : World) (device : BthDevice) (buffer : Buffer) (q : Handle) (n i : Nat) : World :=
  (w.setQueue q ((readService.serve (device, buffer) n i (w.line q)).2.map Prod.fst)).emitAll
    (readService.serve (device, buffer) n i (w.line q)).1

theorem line_cons (h : w.queues q = r :: rest) :
    w.line q = (r, w.outputBuffers r) :: rest.map fun t => (t, w.outputBuffers t) := by
  rw [line, h, List.map_cons]

theorem accepts_iff : readService.accepts (r, w.outputBuffers r) = true ↔ w.Fits r :=
  decide_eq_true_iff

theorem map_fst_line (reads : List Request) :
    (reads.map fun r => (r, w.outputBuffers r)).map Prod.fst = reads := by
  rw [List.map_map]
  exact List.map_id reads

theorem parts_of_report (hb : buffer 10 ≠ 0xFF) :
    readService.parts (device, buffer) = device.configuration.hidDeviceMode.reports := if_neg hb

theorem afterService_zero (i : Nat) : w.afterService device buffer q 0 i = w := by
  rw [afterService, Service.serve, line]
  dsimp only
  rw [map_fst_line]
  exact setQueue_self rfl

theorem afterService_nil (h : w.queues q = []) (n i : Nat) : w.afterService device buffer q n i = w := by
  cases n with
  | zero => exact afterService_zero i
  | succ n =>
    rw [afterService, line, h, List.map_nil, Service.serve]
    exact setQueue_self h

theorem afterService_short (h : w.queues q = r :: rest) (hr : ¬ w.Fits r) (n i : Nat) :
    w.afterService device buffer q (n + 1) i = (w.setQueue q rest).emitAll [refusal r] := by
  rw [afterService, line_cons h, Service.serve, if_neg (accepts_iff.not.mpr hr)]
  dsimp only
  rw [map_fst_line]
  rfl

theorem afterService_fits (h : w.queues q = r :: rest) (hr : w.Fits r) (n i : Nat) :
    w.afterService device buffer q (n + 1) i =
      ((w.setQueue q rest).emitAll [w.answer r (reportOf device buffer i)]).afterService device buffer q
        n (i + 1) := by
  have hq : ((w.setQueue q rest).emitAll [w.answer r (reportOf device buffer i)]).queues q =
      rest := Function.update_self ..
  have hl : ((w.setQueue q rest).emitAll [w.answer r (reportOf device buffer i)]).line q =
      rest.map fun t => (t, w.outputBuffers t) := by
    rw [line, hq]
    rfl
  rw [afterService, line_cons h, Service.serve, if_pos (accepts_iff.mpr hr), afterService, hl,
    setQueue_emitAll_emitAll]
  rfl

theorem exec_completeHidInputReport_afterService (i : Nat) :
    (exec (completeHidInputReport (some q) (reportOf device buffer i)) w).2 =
      w.afterService device buffer q 1 i := by
  cases h : w.queues q with
  | nil => rw [exec_completeHidInputReport_empty h, afterService_nil h]
  | cons r rest =>
    by_cases hr : w.Fits r
    · rw [exec_completeHidInputReport_fits h hr, afterService_fits h hr, afterService_zero]
      rfl
    · rw [exec_completeHidInputReport_short h hr, afterService_short h hr]
      rfl

-- a raw report that finds no read in its child's line is kept for none that comes later
theorem report_afterService (hq : device.hidInputReportQueue = some q) :
    w.report device buffer =
      w.afterService device buffer q (readService.parts (device, buffer)) 0 := by
  by_cases hb : buffer 10 = 0xFF
  · rw [ignored_report hb, show readService.parts (device, buffer) = 0 from if_pos hb, afterService_zero]
  rw [parts_of_report hb]
  cases h : w.queues q with
  | nil => rw [report_empty hq hb h, afterService_nil h]
  | cons r rest =>
    obtain ⟨k, hk⟩ := Nat.exists_eq_succ_of_ne_zero
      (Nat.pos_iff_ne_zero.mp (one_le_reports device.configuration.hidDeviceMode))
    by_cases hr : w.Fits r
    · rcases eq_or_ne device.configuration.hidDeviceMode .multi with hm | hm
      · rw [report_multi hq hb hm h hr, exec_completeHidInputReport_afterService, hm,
          DsHidDeviceMode.reports, afterService_fits h hr]
      · have hone : device.configuration.hidDeviceMode.reports = 1 := by
          cases hd : device.configuration.hidDeviceMode <;> first | rfl | exact absurd hd hm
        rw [report_single hq hb hm h hr, hone, afterService_fits h hr, afterService_zero]
    · rw [report_short hq hb h hr, hk, afterService_short h hr]

theorem report_unqueued (hq : device.hidInputReportQueue = none) : w.report device buffer = w := by
  by_cases hb : buffer 10 = 0xFF#8
  · exact ignored_report hb
  · cases hm : device.configuration.hidDeviceMode <;>
      simp [report, ds3ProcessHidInputReport, completeHidInputReport, completeSecondReport,
        retrieveNextRequest, hb, hq, hm]

theorem step_inputReport {n : Nat} (h : w.inputReport buffer n = some device) : ∃ a,
    w.step (.acl buffer n) = (w.clearLog.report device buffer).addOrUpdate a device := by
  unfold inputReport at h
  split at h
  · cases h
  rename_i hn
  obtain ⟨hd, ht⟩ := Option.filter_eq_some_iff.mp h
  obtain ⟨⟨a, d⟩, hf, rfl⟩ := Option.map_eq_some_iff.mp hd
  simp only [Bool.or_eq_true, decide_eq_true_eq, Bool.not_eq_true', not_or] at hn
  have hr : w.received a (buffer, n) = some d := received_of_findByHandle hn.1.1 hf
  exact ⟨a, (step_acl_hidInputReport hr (of_decide_eq_true ht) (eq_false_of_ne_true hn.1.2)
    (eq_true_of_ne_false hn.2)).2⟩

end

end World

namespace System

def line (q : Handle) (s : System) : List Read := s.world.line q

-- what the reads that wait in a queue are answered upon an event
def answered (q : Handle) (s : System) (e : SystemEvent) : List Output :=
  (s.step e).world.log.filter fun o => o.completes.any fun r => r ∈ s.world.queues q

-- what an event is for a queue: a read that is forwarded to it, or a raw report of its controller
def arrival (q : Handle) (s : System) : SystemEvent → Option (Arrival Read RawReport)
  | .ioctl a .hidReadReport _ output =>
    if s.queueOf a = some q ∧ ntSuccess (s.world.environment.frameworkStatus 0) ∧
        ntSuccess (s.world.environment.frameworkStatus 1) then
      some (.client (s.arrivals, output))
    else none
  | .driver (.acl buffer n) => (s.world.inputReport buffer n).bind fun device =>
    if device.hidInputReportQueue = some q then some (.delivery (device, buffer)) else none
  | _ => none

-- what an event can do to the queues of all children
inductive Happens (s : System) (e : SystemEvent) : Prop where
  | idle (queues : (s.step e).world.queues = s.world.queues)
      (outputBuffers : ∀ r < s.arrivals,
        (s.step e).world.outputBuffers r = s.world.outputBuffers r)
      (completions : ∀ r ∈ (s.step e).world.completions, s.arrivals ≤ r)
      (arrivals : s.arrivals ≤ (s.step e).arrivals) (arrival : ∀ q, arrival q s e = none)
  | joined (q : Handle) (output : List BYTE)
      (queues : (s.step e).world.queues =
        Function.update s.world.queues q (s.world.queues q ++ [s.arrivals]))
      (outputBuffers : (s.step e).world.outputBuffers =
        Function.update s.world.outputBuffers s.arrivals output)
      (log : (s.step e).world.log = []) (arrivals : (s.step e).arrivals = s.arrivals + 1)
      (arrival : ∀ p, arrival p s e = if q = p then some (.client (s.arrivals, output)) else none)
  | delivered (q : Handle) (report : RawReport)
      (queues : (s.step e).world.queues = Function.update s.world.queues q
        ((readService.serve report (readService.parts report) 0 (s.line q)).2.map Prod.fst))
      (outputBuffers : (s.step e).world.outputBuffers = s.world.outputBuffers)
      (log : (s.step e).world.log =
        (readService.serve report (readService.parts report) 0 (s.line q)).1)
      (arrivals : (s.step e).arrivals = s.arrivals)
      (arrival : ∀ p, arrival p s e = if q = p then some (.delivery report) else none)

section

variable {s : System} {q : Handle}

theorem happens_inputReport {buffer : Buffer} {n : Nat} {device : BthDevice}
    (h : s.world.inputReport buffer n = some device) : Happens s (.driver (.acl buffer n)) := by
  obtain ⟨a, hs⟩ := World.step_inputReport h
  have hworld : (s.step (.driver (.acl buffer n))).world =
      (s.world.clearLog.report device buffer).addOrUpdate a device := hs
  have ha : ∀ q, arrival q s (.driver (.acl buffer n)) =
      if device.hidInputReportQueue = some q then some (.delivery (device, buffer)) else none :=
    fun q => by rw [arrival, h, Option.bind_some]
  cases hq : device.hidInputReportQueue with
  | none =>
    rw [World.report_unqueued hq] at hworld
    refine .idle ?_ ?_ ?_ (Nat.le_refl _) fun q => by rw [ha, hq]; rfl
    · rw [hworld]
      rfl
    · intro r _
      rw [hworld]
      rfl
    · rw [hworld]
      intro r hr
      cases hr
  | some q =>
    rw [World.report_afterService hq] at hworld
    refine .delivered q (device, buffer) ?_ ?_ ?_ rfl fun p => by simp [ha, hq]
    · rw [hworld]
      rfl
    · rw [hworld]
      rfl
    · rw [hworld]
      exact List.nil_append _

theorem happens_driver (e : Event)
    (h : ∀ buffer n, e = .acl buffer n → s.world.inputReport buffer n = none) :
    Happens s (.driver e) := by
  have hc : (s.world.step e).custody 0 (fun _ => []) [] none =
      s.world.clearLog.custody 0 (fun _ => []) [] none := World.custody_step e h
  refine .idle (congrArg Custody.queue hc) (fun r _ => congrFun (World.outputBuffers_step _ e) r)
    ?_ (Nat.le_refl _) fun q => ?_
  · have hl : (s.world.step e).completions = [] := congrArg Custody.completed hc
    intro r hr
    rw [show (s.step (.driver e)).world = s.world.step e from rfl, hl] at hr
    cases hr
  · cases e with
    | acl buffer n => rw [arrival, h buffer n rfl, Option.bind_none]
    | _ => rfl

theorem happens_leaves {a : BdAddr} {code : DsHid.IoControlCode} {request : HidRequest}
    {output : List BYTE} (h : Leaves s.arrivals (s.entered a request output)
      (DsHid.exec (DsHid.wireChildEvtWdfIoQueueIoInternalDeviceControl a s.arrivals code)
        (s.entered a request output)).2)
    (ha : ∀ q, arrival q s (.ioctl a code request output) = none) :
    Happens s (.ioctl a code request output) := by
  refine .idle h.queues (fun r hr => ?_) (fun r hr => ?_) ?_ ha
  · exact (h.outputBuffers r (Nat.ne_of_lt hr)).trans (Function.update_of_ne (Nat.ne_of_lt hr) ..)
  · rcases h.completions r hr with hr | rfl
    · cases hr
    · exact Nat.le_refl _
  · exact Nat.le_of_lt (Nat.lt_of_lt_of_eq (Nat.lt_succ_self _) h.arrivals.symm)

section

variable {a : BdAddr} {request : HidRequest} {output : List BYTE}

-- the child is found, has a queue, and the framework forwards the read to it
def Joins (s : System) (a : BdAddr) (q : Handle) : Prop :=
  s.queueOf a = some q ∧ ntSuccess (s.world.environment.frameworkStatus 0) = true ∧
    ntSuccess (s.world.environment.frameworkStatus 1) = true

theorem forward_of_success {r : Request} {t : System} (h : ntSuccess t.status = true) :
    t.forward r (some q) = (t.status, { t with
      world := { t.world.nextFramework with
        queues := Function.update t.world.queues q (t.world.queues q ++ [r]) }
      forwarded := Function.update t.forwarded q (t.forwarded q ++ [r]) }) := if_pos h

theorem happens_joined (h : s.Joins a q) : Happens s (.ioctl a .hidReadReport request output) := by
  obtain ⟨hq, h₀, h₁⟩ := h
  obtain ⟨device, hl, hq'⟩ := Option.bind_eq_some_iff.mp hq
  have hd : (s.entered a request output).describe a =
      ((s.entered a request output).status, device) := describe_entered ⟨hl, h₀⟩
  have hforward := forward_of_success (q := q) (r := s.arrivals)
    (t := (s.entered a request output).nextFramework) h₁
  have hf : ntSuccess ((s.entered a request output).nextFramework.forward s.arrivals
      device.hidInputReportQueue).1 = true := by
    rw [hq', hforward]
    exact h₁
  have hs : (s.step (.ioctl a .hidReadReport request output)) =
      ((s.entered a request output).nextFramework.forward s.arrivals (some q)).2.record := by
    rw [← hq']
    exact congrArg record (read_joins hd h₀ hf)
  rw [hforward] at hs
  refine .joined q output ?_ ?_ ?_ ?_ fun p => ?_
  · rw [hs]
    rfl
  · rw [hs]
    rfl
  · rw [hs]
    rfl
  · rw [hs]
    rfl
  · simp [arrival, hq, h₀, h₁]

theorem happens_refused (h : ¬ ∃ q, s.Joins a q) :
    Happens s (.ioctl a .hidReadReport request output) := by
  refine happens_leaves ?_ fun q => if_neg fun hj => h ⟨q, hj⟩
  by_cases hr : ∃ device, s.Reaches a device
  · obtain ⟨device, hr⟩ := hr
    refine read_refused (describe_entered hr) fun hn => ?_
    obtain ⟨-, hf⟩ := hn
    cases hq : device.hidInputReportQueue with
    | none =>
      rw [hq] at hf
      exact (by decide : ¬ ntSuccess statusInvalidParameter = true) hf
    | some q =>
      refine h ⟨q, ?_, hr.2, ?_⟩
      · rw [queueOf, hr.1]
        exact hq
      · by_contra h₁
        have h₁' : ¬ ntSuccess (s.entered a request output).nextFramework.status = true := h₁
        rw [hq, forward, if_neg h₁'] at hf
        exact h₁ hf
  · have hd : ntSuccess ((s.entered a request output).describe a).1 = false :=
      describe_unreached hr
    exact read_refused rfl fun hn => Bool.false_ne_true (hd.symm.trans hn.1)

theorem happens_ioctl (code : DsHid.IoControlCode) : Happens s (.ioctl a code request output) := by
  by_cases hc : code = .hidReadReport
  · rw [hc]
    by_cases h : ∃ q, s.Joins a q
    · obtain ⟨q, h⟩ := h
      exact happens_joined h
    · exact happens_refused h
  · refine happens_leaves (leaves_exec (DsHid.for_handler hc)) fun q => ?_
    cases code <;> first | rfl | exact absurd rfl hc

end

theorem happens (s : System) (e : SystemEvent) : Happens s e := by
  cases e with
  | ioctl a code request output => exact happens_ioctl code
  | driver e =>
    cases e with
    | acl buffer n =>
      cases h : s.world.inputReport buffer n with
      | none =>
        refine happens_driver _ fun b m he => ?_
        cases he
        exact h
      | some device => exact happens_inputReport h
    | _ => exact happens_driver _ fun _ _ he => nomatch he

-- a read waits in one line, and has come
structure Lined (s : System) : Prop where
  bound : ∀ q, ∀ r ∈ s.world.queues q, r < s.arrivals
  apart : ∀ p q r, r ∈ s.world.queues p → r ∈ s.world.queues q → p = q

theorem fst_mem_of_suffix {reads : List Read} (h : reads <:+ s.line q) {r : Request}
    (hr : r ∈ reads.map Prod.fst) : r ∈ s.world.queues q := by
  obtain ⟨read, hread, rfl⟩ := List.mem_map.mp hr
  obtain ⟨t, ht, rfl⟩ := List.mem_map.mp (h.subset hread)
  exact ht

theorem lined_step (h : s.Lined) (e : SystemEvent) : (s.step e).Lined := by
  cases happens s e with
  | idle queues outputBuffers completions arrivals arrival =>
    constructor
    · intro q r hr
      rw [queues] at hr
      exact Nat.lt_of_lt_of_le (h.bound q r hr) arrivals
    · rw [queues]
      exact h.apart
  | joined q output queues outputBuffers log arrivals arrival =>
    have hmem : ∀ p, ∀ r ∈ (s.step e).world.queues p,
        r ∈ s.world.queues p ∨ r = s.arrivals ∧ p = q := by
      intro p r hr
      rw [queues] at hr
      by_cases hp : p = q
      · rw [hp, Function.update_self] at hr
        rw [hp]
        exact (List.mem_append.mp hr).imp_right fun hr => ⟨List.mem_singleton.mp hr, rfl⟩
      · rw [Function.update_of_ne hp] at hr
        exact .inl hr
    constructor
    · intro p r hr
      rw [arrivals]
      rcases hmem p r hr with hr | ⟨rfl, -⟩
      · exact Nat.lt_succ_of_lt (h.bound p r hr)
      · exact Nat.lt_succ_self _
    · intro p₁ p₂ r hr₁ hr₂
      rcases hmem p₁ r hr₁ with hr₁ | ⟨rfl, rfl⟩
      · rcases hmem p₂ r hr₂ with hr₂ | ⟨rfl, -⟩
        · exact h.apart p₁ p₂ r hr₁ hr₂
        · exact absurd (h.bound p₁ _ hr₁) (Nat.lt_irrefl _)
      · rcases hmem p₂ _ hr₂ with hr₂ | ⟨-, rfl⟩
        · exact absurd (h.bound p₂ _ hr₂) (Nat.lt_irrefl _)
        · rfl
  | delivered q report queues outputBuffers log arrivals arrival =>
    have hmem : ∀ p, ∀ r ∈ (s.step e).world.queues p, r ∈ s.world.queues p := by
      intro p r hr
      rw [queues] at hr
      by_cases hp : p = q
      · rw [hp, Function.update_self] at hr
        rw [hp]
        exact fst_mem_of_suffix (Service.serve_suffix report _ 0 (s.line q)) hr
      · rw [Function.update_of_ne hp] at hr
        exact hr
    constructor
    · intro p r hr
      rw [arrivals]
      exact h.bound p r (hmem p r hr)
    · intro p₁ p₂ r hr₁ hr₂
      exact h.apart p₁ p₂ r (hmem p₁ r hr₁) (hmem p₂ r hr₂)

theorem lined_initial (environment : Environment) (requests : Request → HidRequest) :
    (initial environment requests).Lined where
  bound _ _ hr := nomatch hr
  apart _ _ _ hr := nomatch hr

theorem readService_names : readService.Names (fun read => some read.1) Output.completes :=
  ⟨fun _ _ _ => rfl, fun _ => rfl⟩

theorem completes_serve {report : RawReport} {n i : Nat} {o : Output}
    (ho : o ∈ (readService.serve report n i (s.line q)).1) :
    ∃ r ∈ s.world.queues q, o.completes = some r := by
  have hn := Service.serve_names readService_names report n i (s.line q)
  have hm : o.completes ∈ (s.line q).map fun read => some read.1 := by
    rw [← hn]
    exact List.mem_append_left _ (List.mem_map_of_mem ho)
  obtain ⟨read, hread, ho⟩ := List.mem_map.mp hm
  obtain ⟨r, hr, rfl⟩ := List.mem_map.mp hread
  exact ⟨r, hr, ho.symm⟩

theorem line_of_eq {t : System} (hq : t.world.queues q = s.world.queues q)
    (hb : ∀ r ∈ s.world.queues q, t.world.outputBuffers r = s.world.outputBuffers r) :
    t.line q = s.line q := by
  rw [line, World.line, hq]
  exact List.map_congr_left fun r hr => congrArg (Prod.mk r) (hb r hr)

theorem line_of_suffix {t : System} {reads : List Read} (h : reads <:+ s.line q)
    (hq : t.world.queues q = reads.map Prod.fst)
    (hb : t.world.outputBuffers = s.world.outputBuffers) : t.line q = reads := by
  rw [line, World.line, hq, hb, List.map_map]
  conv_rhs => rw [← List.map_id reads]
  refine List.map_congr_left fun read hread => ?_
  obtain ⟨r, -, rfl⟩ := List.mem_map.mp (h.subset hread)
  rfl

theorem answered_nil {e : SystemEvent}
    (h : ∀ o ∈ (s.step e).world.log, ∀ r ∈ s.world.queues q, o.completes ≠ some r) :
    s.answered q e = [] := by
  refine List.filter_eq_nil_iff.mpr fun o ho hany => ?_
  cases hc : o.completes with
  | none =>
    rw [hc] at hany
    exact Bool.false_ne_true hany
  | some r =>
    rw [hc] at hany
    exact h o ho r (of_decide_eq_true hany) hc

-- what happens to a line upon an event is what the service makes of the arrival
theorem accounts (h : s.Lined) (q : Handle) (e : SystemEvent) :
    readService.Accounts (line q) step (answered q) (arrival q) s e := by
  cases happens s e with
  | idle queues outputBuffers completions arrivals arrival =>
    refine ⟨?_, ?_⟩
    · rw [arrival]
      exact line_of_eq (congrFun queues q) fun r hr => outputBuffers r (h.bound q r hr)
    · rw [arrival]
      refine answered_nil fun o ho r hr hc => ?_
      have hlate := completions r (List.mem_filterMap.mpr ⟨o, ho, hc⟩)
      exact Nat.not_lt.mpr hlate (h.bound q r hr)
  | joined p output queues outputBuffers log arrivals arrival =>
    have hb : ∀ r ∈ s.world.queues q,
        (s.step e).world.outputBuffers r = s.world.outputBuffers r := fun r hr => by
      rw [outputBuffers, Function.update_of_ne (Nat.ne_of_lt (h.bound q r hr))]
    have hnone : s.answered q e = [] := by rw [answered, log, List.filter_nil]
    by_cases hp : p = q
    · have ha : System.arrival q s e = some (.client (s.arrivals, output)) := by
        rw [arrival, if_pos hp]
      constructor
      · have hq : (s.step e).world.queues q = s.world.queues q ++ [s.arrivals] := by
          rw [queues, hp, Function.update_self]
        have hnew : (s.step e).world.outputBuffers s.arrivals = output := by
          rw [outputBuffers, Function.update_self]
        rw [ha, line, World.line, hq, List.map_append, List.map_singleton, hnew]
        exact congrArg (· ++ _) (List.map_congr_left fun r hr => congrArg (Prod.mk r) (hb r hr))
      · rw [ha]
        exact hnone
    · have ha : System.arrival q s e = none := by rw [arrival, if_neg hp]
      constructor
      · rw [ha]
        refine line_of_eq ?_ hb
        rw [queues, Function.update_of_ne (Ne.symm hp)]
      · rw [ha]
        exact hnone
  | delivered p report queues outputBuffers log arrivals arrival =>
    by_cases hp : p = q
    · have ha : System.arrival q s e = some (.delivery report) := by rw [arrival, if_pos hp]
      rw [hp] at queues log
      constructor
      · rw [ha]
        refine line_of_suffix (Service.serve_suffix report _ 0 (s.line q)) ?_ outputBuffers
        rw [queues, Function.update_self]
        rfl
      · rw [ha, answered, log]
        refine (List.filter_eq_self.mpr fun o ho => ?_).trans (List.append_nil _).symm
        obtain ⟨r, hr, hc⟩ := completes_serve ho
        rw [hc]
        exact decide_eq_true hr
    · have ha : System.arrival q s e = none := by rw [arrival, if_neg hp]
      constructor
      · rw [ha]
        refine line_of_eq ?_ fun r _ => congrFun outputBuffers r
        rw [queues, Function.update_of_ne (Ne.symm hp)]
      · rw [ha]
        refine answered_nil fun o ho r hr hc => hp ?_
        rw [log] at ho
        obtain ⟨t, ht, hc'⟩ := completes_serve ho
        cases hc.symm.trans hc'
        exact h.apart p q r ht hr

end

def arrivalsAt (s : System) (q : Handle) (es : List SystemEvent) : List (Arrival Read RawReport) :=
  outputs step (fun s e => (arrival q s e).toList) s es

section

variable {s : System}

theorem runs_line (h : s.Lined) (q : Handle) (es : List SystemEvent) :
    (runs step s es).line q = runs readService.step (s.line q) (s.arrivalsAt q es) ∧
      outputs step (answered q) s es =
        outputs readService.step readService.out (s.line q) (s.arrivalsAt q es) :=
  Service.runs_accounted (I := Lined) (fun _ e h => lined_step h e)
    (fun _ e h => accounts h q e) h es

theorem reads_in_order (h : s.Lined) (q : Handle) (es : List SystemEvent) :
    (outputs step (answered q) s es).map Output.completes ++
        ((runs step s es).line q).map (fun read => some read.1) =
      (s.line q).map (fun read => some read.1) ++
        ((s.arrivalsAt q es).filterMap Arrival.client?).map fun read => some read.1 := by
  obtain ⟨hl, ho⟩ := runs_line h q es
  rw [hl, ho]
  exact Service.runs_names readService_names (s.line q) (s.arrivalsAt q es)

end

end System
end WireShock
