import WireShock.Reports.Decoding
import WireShock.Requests.Conservation
import WireShock.Semantics.Routing

namespace WireShock
open Interaction

def DsHidDeviceMode.reports : DsHidDeviceMode → Nat
  | .multi => 2
  | _ => 1

def reportOf (device : BthDevice) (buffer : Buffer) : Nat → List BYTE → List BYTE
  | 0 => translateHidInputReport device.configuration (buffer.shift 9)
  | _ => ds3RawToSplitHidInputReport02 (buffer.shift 9)

def Output.reportId : Output → Option BYTE
  | .complete _ _ _ output => output.head?
  | _ => none

namespace World

def Fits (w : World) (r : Request) : Prop := ds3HidInputReportSize ≤ (w.outputBuffers r).length

def answer (w : World) (r : Request) (translate : List BYTE → List BYTE) : Output :=
  .complete r statusSuccess (translate (w.outputBuffers r)).length (translate (w.outputBuffers r))

def refusal (r : Request) : Output := .complete r statusBufferTooSmall 0 []

def answers (w : World) (device : BthDevice) (buffer : Buffer) (reads : List Request) :
    List Output :=
  reads.mapIdx fun i r => w.answer r (reportOf device buffer i)

def setQueue (w : World) (q : Handle) (reads : List Request) : World :=
  { w with queues := Function.update w.queues q reads }

def emitAll (w : World) (os : List Output) : World := { w with log := w.log ++ os }

def report (w : World) (device : BthDevice) (buffer : Buffer) : World :=
  (exec (ds3ProcessHidInputReport device buffer) w).2

-- the reads waiting in queue q when a raw report comes in: how many are taken and how they end
structure Serves (w : World) (device : BthDevice) (buffer : Buffer) (q : Handle) : Prop where
  ignored : buffer 10 = 0xFF → w.report device buffer = w
  served : buffer 10 ≠ 0xFF → ∀ reads rest, w.queues q = reads ++ rest →
    reads.length = min (w.queues q).length device.configuration.hidDeviceMode.reports →
    (∀ r ∈ reads, w.Fits r) →
    w.report device buffer = (w.setQueue q rest).emitAll (w.answers device buffer reads)
  refused : buffer 10 ≠ 0xFF → ∀ reads r rest, w.queues q = reads ++ r :: rest →
    reads.length < device.configuration.hidDeviceMode.reports → (∀ r ∈ reads, w.Fits r) →
    ¬ w.Fits r → w.report device buffer =
      (w.setQueue q rest).emitAll (w.answers device buffer reads ++ [refusal r])
  multiIds : device.configuration.hidDeviceMode = .multi → ∀ r, w.Fits r →
    (w.answer r (reportOf device buffer 0)).reportId = some 0x01 ∧
      (w.answer r (reportOf device buffer 1)).reportId = some 0x02
  singleId : device.configuration.hidDeviceMode = .single → ∀ r, w.Fits r →
    (w.answer r (reportOf device buffer 0)).reportId = some (buffer 9)

section

variable {w : World} {q : Handle} {r : Request} {rest : List Request} {f : List BYTE → List BYTE}
  {device : BthDevice} {buffer : Buffer}

theorem exec_completeHidInputReport_empty (h : w.queues q = []) :
    exec (completeHidInputReport (some q) f) w = (.ok statusNoMoreEntries, w) := by
  simp [completeHidInputReport, retrieveNextRequest, h]

theorem exec_completeHidInputReport_fits (h : w.queues q = r :: rest) (hr : w.Fits r) :
    exec (completeHidInputReport (some q) f) w =
      (.ok statusSuccess, (w.setQueue q rest).emit (w.answer r f)) := by
  have hs : ¬ (w.outputBuffers r).length < ds3HidInputReportSize := Nat.not_lt.mpr hr
  simp [completeHidInputReport, retrieveNextRequest, h, hs, setQueue, answer]

theorem exec_completeHidInputReport_short (h : w.queues q = r :: rest) (hr : ¬ w.Fits r) :
    exec (completeHidInputReport (some q) f) w =
      (.error statusBufferTooSmall, (w.setQueue q rest).emit (refusal r)) := by
  have hs : (w.outputBuffers r).length < ds3HidInputReportSize := Nat.lt_of_not_le hr
  simp [completeHidInputReport, retrieveNextRequest, h, hs, setQueue, refusal]

theorem setQueue_emitAll_emitAll (w : World) (os ps : List Output) (rest rest' : List Request) :
    (((w.setQueue q rest).emitAll os).setQueue q rest').emitAll ps =
      (w.setQueue q rest').emitAll (os ++ ps) := by
  simp [setQueue, emitAll]

theorem setQueue_self (h : w.queues q = rest) : (w.setQueue q rest).emitAll [] = w := by
  subst h
  simp [setQueue, emitAll]

theorem report_eq (hq : device.hidInputReportQueue = some q) (hb : buffer 10 ≠ 0xFF) :
    w.report device buffer =
      (exec (completeSecondReport device (buffer.shift 9)
        (exec (completeHidInputReport (some q) (reportOf device buffer 0)) w).1)
        (exec (completeHidInputReport (some q) (reportOf device buffer 0)) w).2).2 := by
  rw [report, ds3ProcessHidInputReport, exec_ite, if_neg hb, exec_bind, hq]
  rfl

theorem exec_completeSecondReport_single (status : NTSTATUS)
    (h : device.configuration.hidDeviceMode ≠ .multi) :
    (exec (completeSecondReport device (buffer.shift 9) (.ok status)) w).2 = w := by
  simp [completeSecondReport, h]

theorem exec_completeSecondReport_multi (status : NTSTATUS)
    (hq : device.hidInputReportQueue = some q)
    (h : device.configuration.hidDeviceMode = .multi) :
    (exec (completeSecondReport device (buffer.shift 9) (.ok status)) w).2 =
      (exec (completeHidInputReport (some q) (reportOf device buffer 1)) w).2 := by
  simp only [completeSecondReport, h, if_true, exec_bind, hq]
  split <;> rfl

theorem ignored_report (hb : buffer 10 = 0xFF) : w.report device buffer = w := by
  simp [report, ds3ProcessHidInputReport, hb]

theorem reports_le_two (mode : DsHidDeviceMode) : mode.reports ≤ 2 := by
  cases mode <;> simp [DsHidDeviceMode.reports]

theorem one_le_reports (mode : DsHidDeviceMode) : 1 ≤ mode.reports := by
  cases mode <;> simp [DsHidDeviceMode.reports]

theorem multi_of_one_lt_reports (h : 1 < device.configuration.hidDeviceMode.reports) :
    device.configuration.hidDeviceMode = .multi := by
  cases hm : device.configuration.hidDeviceMode with
  | multi => rfl
  | _ => simp [hm, DsHidDeviceMode.reports] at h

theorem exists_cons_of_fits (h : w.Fits r) : ∃ old rest, w.outputBuffers r = old :: rest ∧
    ds3HidInputReportSize ≤ rest.length + 1 := by
  unfold Fits at h
  cases ho : w.outputBuffers r with
  | nil => simp [ho, ds3HidInputReportSize] at h
  | cons old rest => exact ⟨old, rest, rfl, by simpa [ho] using h⟩

theorem reportId_multi (hm : device.configuration.hidDeviceMode = .multi) (h : w.Fits r) :
    (w.answer r (reportOf device buffer 0)).reportId = some 0x01 ∧
      (w.answer r (reportOf device buffer 1)).reportId = some 0x02 := by
  constructor
  · obtain ⟨old, rest, ho, hl⟩ := exists_cons_of_fits h
    simp only [answer, Output.reportId, reportOf, translateHidInputReport, hm, ho,
      ds3RawToSplitHidInputReport01, List.set_cons_zero, ds3RawToHidInputReport_eq _ _ _ _ hl,
      List.head?_cons]
  · obtain ⟨untouched, he⟩ := ds3RawToSplitHidInputReport02_eq (buffer.shift 9) h
    simp only [answer, Output.reportId, reportOf, he, List.head?_cons]

theorem reportId_single (hm : device.configuration.hidDeviceMode = .single) (h : w.Fits r) :
    (w.answer r (reportOf device buffer 0)).reportId = some (buffer 9) := by
  obtain ⟨old, rest, ho, hl⟩ := exists_cons_of_fits h
  simp only [answer, Output.reportId, reportOf, translateHidInputReport, hm, ho,
    ds3RawToSingleHidInputReport, List.set_cons_zero, ds3RawToHidInputReport_eq _ _ _ _ hl,
    List.head?_cons]
  rfl

section

variable (hq : device.hidInputReportQueue = some q) (hb : buffer 10 ≠ 0xFF)
include hq hb

theorem report_empty (h : w.queues q = []) : w.report device buffer = w := by
  rw [report_eq hq hb, exec_completeHidInputReport_empty h]
  rcases eq_or_ne device.configuration.hidDeviceMode .multi with hm | hm
  · rw [exec_completeSecondReport_multi _ hq hm, exec_completeHidInputReport_empty h]
  · rw [exec_completeSecondReport_single _ hm]

theorem report_short (h : w.queues q = r :: rest) (hr : ¬ w.Fits r) :
    w.report device buffer = (w.setQueue q rest).emitAll [refusal r] := by
  rw [report_eq hq hb, exec_completeHidInputReport_short h hr]
  rfl

theorem report_single (hm : device.configuration.hidDeviceMode ≠ .multi)
    (h : w.queues q = r :: rest) (hr : w.Fits r) : w.report device buffer =
      (w.setQueue q rest).emitAll [w.answer r (reportOf device buffer 0)] := by
  rw [report_eq hq hb, exec_completeHidInputReport_fits h hr,
    exec_completeSecondReport_single _ hm]
  rfl

theorem report_multi (hm : device.configuration.hidDeviceMode = .multi)
    (h : w.queues q = r :: rest) (hr : w.Fits r) : w.report device buffer =
      (exec (completeHidInputReport (some q) (reportOf device buffer 1))
        ((w.setQueue q rest).emitAll [w.answer r (reportOf device buffer 0)])).2 := by
  rw [report_eq hq hb, exec_completeHidInputReport_fits h hr,
    exec_completeSecondReport_multi _ hq hm]
  rfl

theorem served_report {reads : List Request} (h : w.queues q = reads ++ rest)
    (hl : reads.length = min (w.queues q).length device.configuration.hidDeviceMode.reports)
    (hf : ∀ r ∈ reads, w.Fits r) :
    w.report device buffer = (w.setQueue q rest).emitAll (w.answers device buffer reads) := by
  have hk := reports_le_two device.configuration.hidDeviceMode
  have hk' := one_le_reports device.configuration.hidDeviceMode
  have hlength := congrArg List.length h
  rw [List.length_append] at hlength
  match reads with
  | [] =>
    have hrest : rest = [] := List.length_eq_zero_iff.mp (by simp at hl hlength; omega)
    subst hrest
    rw [report_empty hq hb h]
    exact (setQueue_self h).symm
  | [r] =>
    have hr := hf r List.mem_cons_self
    rcases eq_or_ne device.configuration.hidDeviceMode .multi with hm | hm
    · have hrest : rest = [] := by
        rw [hm] at hl
        exact List.length_eq_zero_iff.mp (by simp [DsHidDeviceMode.reports] at hl hlength; omega)
      subst hrest
      rw [report_multi hq hb hm h hr,
        exec_completeHidInputReport_empty (Function.update_self ..)]
      rfl
    · exact report_single hq hb hm h hr
  | [r, r'] =>
    have hr := hf r List.mem_cons_self
    have hr' := hf r' (by simp)
    have hm : device.configuration.hidDeviceMode = .multi :=
      multi_of_one_lt_reports (by simp at hl; omega)
    have hw : ((w.setQueue q (r' :: rest)).emitAll
        [w.answer r (reportOf device buffer 0)]).queues q = r' :: rest := Function.update_self ..
    have h' : w.queues q = r :: r' :: rest := h
    rw [report_multi hq hb hm h' hr, exec_completeHidInputReport_fits hw hr']
    exact setQueue_emitAll_emitAll w _ _ _ _
  | _ :: _ :: _ :: _ =>
    simp at hl
    omega

theorem refused_report {reads : List Request} (h : w.queues q = reads ++ r :: rest)
    (hl : reads.length < device.configuration.hidDeviceMode.reports)
    (hf : ∀ r ∈ reads, w.Fits r) (hr : ¬ w.Fits r) : w.report device buffer =
      (w.setQueue q rest).emitAll (w.answers device buffer reads ++ [refusal r]) := by
  have hk := reports_le_two device.configuration.hidDeviceMode
  match reads with
  | [] => exact report_short hq hb h hr
  | [r₀] =>
    have hm := multi_of_one_lt_reports hl
    have hw : ((w.setQueue q (r :: rest)).emitAll
        [w.answer r₀ (reportOf device buffer 0)]).queues q = r :: rest := Function.update_self ..
    have h' : w.queues q = r₀ :: r :: rest := h
    rw [report_multi hq hb hm h' (hf r₀ List.mem_cons_self),
      exec_completeHidInputReport_short hw hr]
    exact setQueue_emitAll_emitAll w _ _ _ _
  | _ :: _ :: _ =>
    simp at hl
    omega

end

theorem serves_report (hq : device.hidInputReportQueue = some q) : w.Serves device buffer q where
  ignored := ignored_report
  served hb _ _ h hl hf := served_report hq hb h hl hf
  refused hb _ _ _ h hl hf hr := refused_report hq hb h hl hf hr
  multiIds hm _ hr := reportId_multi hm hr
  singleId hm _ hr := reportId_single hm hr

theorem step_acl_hidInputReport {a : BdAddr} {n : Nat} (h : w.received a (buffer, n) = some device)
    (ht : device.deviceType = .ps3Dualshock) (hc : l2capIsControlChannel buffer = false)
    (hi : l2capIsHidInputReport buffer = true) :
    buffer 9 = 0x01 ∧
      w.step (.acl buffer n) = (w.clearLog.report device buffer).addOrUpdate a device := by
  obtain ⟨hn, hf⟩ := findByHandle_of_received h
  have hd : exec (dispatchPacket device buffer) w.clearLog =
      (device, w.clearLog.report device buffer) := by
    simp [dispatchPacket, hc, hi, ht, report]
  refine ⟨(by simpa [l2capIsHidInputReport] using hi : buffer 8 = 0xA1 ∧ buffer 9 = 0x01).2, ?_⟩
  rw [step_acl, if_neg hn, hf]
  simp only [hd]

end

end World

namespace System

def CompletedOnce (s : System) (r : Request) : Prop :=
  s.completed.count r = 1 ∧ ∀ q, r ∉ s.world.queues q

def QueuedOnce (s : System) (r : Request) : Prop :=
  r ∉ s.completed ∧ ∃ q, s.inputQueue r = some q ∧ (s.world.queues q).count r = 1 ∧
    ∀ q', q' ≠ q → r ∉ s.world.queues q'

structure Accounted (s : System) : Prop where
  placed : ∀ r, r < s.arrivals → s.CompletedOnce r ∨ s.QueuedOnce r
  entered : ∀ r, s.arrivals ≤ r → r ∉ s.completed ∧ ∀ q, r ∉ s.world.queues q
  inOrder : ∀ q, (s.forwarded q).Pairwise (· < ·) ∧
    Custody.among s.completed (s.forwarded q) ++ s.world.queues q = s.forwarded q
  delivered : ∀ a device buffer n, s.world.received a (buffer, n) = some device →
    device.deviceType = .ps3Dualshock → l2capIsControlChannel buffer = false →
    l2capIsHidInputReport buffer = true → buffer 9 = 0x01 ∧
      s.world.step (.acl buffer n) = (s.world.clearLog.report device buffer).addOrUpdate a device
  served : ∀ device buffer q, device.hidInputReportQueue = some q →
    s.world.clearLog.Serves device buffer q

section

variable {s : System} {environment : Environment}

theorem accounted_of_conserved (h : s.clearLog.Conserved) : s.Accounted := by
  have hc : (s.clearLog.custody none).taken = s.completed := by
    simp [custody, World.custody, clearLog, World.clearLog, World.completions, Custody.taken]
  refine ⟨fun r hr => ?_, fun r hr => ?_, fun q => ⟨h.sound.ordered q, ?_⟩, ?_, ?_⟩
  · have hp := h.sound.count_taken hr
    rw [hc] at hp
    rcases hp with hp | ⟨ht, q, hq, hu⟩
    · exact Or.inl hp
    · have hm : r ∈ s.world.queues q := List.one_le_count_iff.mp (Nat.le_of_eq hq.symm)
      exact Or.inr ⟨ht, q, h.home q r (h.sound.mem_forwarded hm), hq,
        fun q' hne hr' => hne (hu q' hr')⟩
  · have hn : ¬ r < s.arrivals := Nat.not_lt.mpr hr
    have he := (h.sound.entered r).not.mp hn
    rw [hc, not_or, not_exists] at he
    exact he
  · have hh := h.sound.history q
    rwa [hc] at hh
  · exact fun a device buffer n hr ht hc hi => World.step_acl_hidInputReport hr ht hc hi
  · exact fun device buffer q hq => World.serves_report hq

theorem requests_accounted (hs : environment.Synchronous) (requests : Request → HidRequest)
    (es : List SystemEvent) : (runs step (initial environment requests) es).Accounted :=
  accounted_of_conserved (conserved_runs hs es)

end

def emptyRequest : HidRequest := ⟨⟨0, 0, 0⟩, ⟨0, 0⟩, fun _ => 0, 0⟩

def readThenAttributes : List SystemEvent :=
  [.driver (.hci (Buffer.ofList [0x04, 0x0A, 0x01, 0x02, 0x03, 0x04, 0x05, 0x06]) 12),
   .driver (.createDevice someAddress), .ioctl someAddress .hidReadReport emptyRequest [],
   .ioctl someAddress .hidGetDeviceAttributes emptyRequest []]

theorem read_then_attributes_accounted :
    (runs step (initial .succeeding fun _ => emptyRequest) readThenAttributes).Accounted ∧
      (runs step (initial .succeeding fun _ => emptyRequest) readThenAttributes).completed = [1] ∧
      (runs step (initial .succeeding fun _ => emptyRequest) readThenAttributes).world.queues 1 =
        [0] :=
  ⟨requests_accounted (fun _ => (by decide : statusSuccess ≠ statusPending)) (fun _ => emptyRequest) readThenAttributes,
    by decide +kernel, by decide +kernel⟩

end System
end WireShock
