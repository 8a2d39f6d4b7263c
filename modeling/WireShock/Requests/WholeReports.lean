import WireShock.Channels.Link
import WireShock.Requests.Service

namespace WireShock

theorem exists_taken {α : Type} (p : α → Prop) (n : Nat) (l : List α) : ∃ taken rest,
    l = taken ++ rest ∧ (∀ x ∈ taken, p x) ∧ taken.length ≤ n ∧
    (taken.length = min l.length n ∨ ∃ x rest', rest = x :: rest' ∧ ¬ p x ∧ taken.length < n) := by
  induction n generalizing l with
  | zero => exact ⟨[], l, rfl, by simp, Nat.le_refl 0, .inl (by simp)⟩
  | succ n ih =>
    cases l with
    | nil => exact ⟨[], [], rfl, by simp, Nat.zero_le _, .inl (by simp)⟩
    | cons x l =>
      by_cases hx : p x
      · obtain ⟨taken, rest, rfl, hp, hn, hr⟩ := ih l
        refine ⟨x :: taken, rest, rfl, ?_, Nat.succ_le_succ hn, ?_⟩
        · exact List.forall_mem_cons.mpr ⟨hx, hp⟩
        · refine hr.imp (fun h => ?_) fun ⟨y, rest', h, hy, hl⟩ =>
            ⟨y, rest', h, hy, Nat.succ_lt_succ hl⟩
          rw [List.length_cons, List.length_cons, h, Nat.succ_min_succ]
      · exact ⟨[], x :: l, rfl, by simp, Nat.zero_le _, .inr ⟨x, l, rfl, hx, Nat.succ_pos n⟩⟩

-- a translation stores nothing from offset 20 on
theorem reportOf_getElem? (device : BthDevice) (buffer : Buffer) (i : Nat) (output : List BYTE)
    {k : Nat} (hk : 20 ≤ k) : (reportOf device buffer i output)[k]? = output[k]? := by
  cases i with
  | zero =>
    rw [reportOf, translateHidInputReport]
    cases device.configuration.hidDeviceMode with
    | other value => rfl
    | single =>
      cases device.configuration.muteDigitalPressureButtons <;>
        simp (disch := omega) [ds3RawToSingleHidInputReport, ds3RawToHidInputReport,
          List.getElem?_set_ne, List.getElem?_modify_ne]
    | multi =>
      cases device.configuration.muteDigitalPressureButtons <;>
        simp (disch := omega) [ds3RawToSplitHidInputReport01, ds3RawToHidInputReport,
          List.getElem?_set_ne, List.getElem?_modify_ne]
  | succ i =>
    simp (disch := omega) [reportOf, ds3RawToSplitHidInputReport02, List.getElem?_set_ne]

@[simp] theorem length_reportOf (device : BthDevice) (buffer : Buffer) (i : Nat)
    (output : List BYTE) : (reportOf device buffer i output).length = output.length := by
  cases i with
  | zero =>
    rw [reportOf, translateHidInputReport]
    cases device.configuration.hidDeviceMode with
    | other value => rfl
    | single =>
      cases device.configuration.muteDigitalPressureButtons <;>
        simp [ds3RawToSingleHidInputReport, ds3RawToHidInputReport]
    | multi =>
      cases device.configuration.muteDigitalPressureButtons <;>
        simp [ds3RawToSplitHidInputReport01, ds3RawToHidInputReport]
  | succ i => simp [reportOf, ds3RawToSplitHidInputReport02]

namespace World

-- a report completes the read at place i, which like those before it passes the size check
def CompletedAt (w : World) (device : BthDevice) (r : Request) (i : Nat) : Prop :=
  i < device.configuration.hidDeviceMode.reports ∧ ∃ q, device.hidInputReportQueue = some q ∧
    (w.queues q)[i]? = some r ∧ ∀ t ∈ (w.queues q).take (i + 1), w.Fits t

variable {w : World} {q : Handle} {r : Request} {device : BthDevice} {buffer : Buffer}

theorem mem_answers {reads : List Request} {o : Output} : o ∈ w.answers device buffer reads ↔
    ∃ i t, reads[i]? = some t ∧ o = w.answer t (reportOf device buffer i) := by
  rw [answers, List.mem_mapIdx]
  constructor
  · rintro ⟨i, hi, rfl⟩
    exact ⟨i, reads[i], List.getElem?_eq_getElem hi, rfl⟩
  · rintro ⟨i, t, ht, rfl⟩
    obtain ⟨hi, rfl⟩ := List.getElem?_eq_some_iff.mp ht
    exact ⟨i, hi, rfl⟩

theorem log_report_taken (hq : device.hidInputReportQueue = some q) (hb : buffer 10 ≠ 0xFF) :
    ∃ taken rest, w.queues q = taken ++ rest ∧ (∀ t ∈ taken, w.Fits t) ∧
      taken.length ≤ device.configuration.hidDeviceMode.reports ∧
      (taken.length = min (w.queues q).length device.configuration.hidDeviceMode.reports ∧
          (w.clearLog.report device buffer).log = w.answers device buffer taken ∨
        ∃ t rest', rest = t :: rest' ∧ ¬ w.Fits t ∧
          (w.clearLog.report device buffer).log = w.answers device buffer taken ++ [refusal t]) := by
  obtain ⟨taken, rest, hl, hf, hn, hr⟩ :=
    exists_taken w.Fits device.configuration.hidDeviceMode.reports (w.queues q)
  refine ⟨taken, rest, hl, hf, hn, ?_⟩
  obtain h | ⟨t, rest', rfl, ht, hlt⟩ := hr
  · have hs := (serves_report (w := w.clearLog) hq).served hb taken rest hl h hf
    exact .inl ⟨h, by rw [hs]; rfl⟩
  · have hs := (serves_report (w := w.clearLog) hq).refused hb taken t rest' hl
      hlt hf ht
    exact .inr ⟨t, rest', rfl, ht, by rw [hs]; rfl⟩

theorem log_report_unqueued (hq : device.hidInputReportQueue = none) :
    (w.clearLog.report device buffer).log = [] := by
  by_cases hb : buffer 10 = 0xFF#8
  · rw [ignored_report hb]
    rfl
  · cases hm : device.configuration.hidDeviceMode <;>
      simp [report, ds3ProcessHidInputReport, completeHidInputReport, completeSecondReport,
        retrieveNextRequest, hb, hq, hm] <;> rfl

theorem fits_of_taken {taken rest : List Request} {i : Nat} (hl : w.queues q = taken ++ rest)
    (hf : ∀ t ∈ taken, w.Fits t) (hi : i < taken.length) :
    ∀ t ∈ (w.queues q).take (i + 1), w.Fits t := by
  intro t ht
  rw [hl, List.take_append_of_le_length hi] at ht
  exact hf t (List.mem_of_mem_take ht)

theorem mem_log_report {information : Nat} {data : List BYTE} :
    .complete r statusSuccess information data ∈ (w.clearLog.report device buffer).log ↔
      buffer 10 ≠ 0xFF ∧ ∃ i, w.CompletedAt device r i ∧
        .complete r statusSuccess information data = w.answer r (reportOf device buffer i) := by
  by_cases hb : buffer 10 = 0xFF
  · rw [ignored_report hb]
    simp [clearLog, hb]
  cases hq : device.hidInputReportQueue with
  | none =>
    have hl : (w.clearLog.report device buffer).log = [] := log_report_unqueued hq
    simp [hl, CompletedAt, hq]
  | some q =>
    obtain ⟨taken, rest, hl, hf, hn, hr⟩ := log_report_taken (w := w) hq hb
    have hm : .complete r statusSuccess information data ∈ (w.clearLog.report device buffer).log ↔
        .complete r statusSuccess information data ∈ w.answers device buffer taken := by
      obtain ⟨-, h⟩ | ⟨t, rest', -, -, h⟩ := hr
      · rw [h]
      · have hs : statusSuccess ≠ statusBufferTooSmall := by decide
        simp [h, refusal, hs]
    rw [hm, mem_answers]
    constructor
    · rintro ⟨i, t, ht, ho⟩
      obtain ⟨rfl, -⟩ : r = t ∧ _ := by simpa [answer] using ho
      obtain ⟨hi, -⟩ := List.getElem?_eq_some_iff.mp ht
      refine ⟨hb, i, ⟨Nat.lt_of_lt_of_le hi hn, q, hq, ?_, fits_of_taken hl hf hi⟩, ho⟩
      rw [hl, List.getElem?_append_left hi]
      exact ht
    · rintro ⟨-, i, ⟨hi, q', hq', hr', hfits⟩, ho⟩
      obtain rfl : q = q' := Option.some.inj (hq.symm.trans hq')
      refine ⟨i, r, ?_, ho⟩
      have hlt : i < taken.length := by
        by_contra hge
        obtain ⟨h, -⟩ | ⟨t, rest', rfl, ht, -⟩ := hr
        · obtain ⟨hlen, -⟩ := List.getElem?_eq_some_iff.mp hr'
          omega
        · refine ht (hfits t (List.mem_of_getElem? (i := taken.length) ?_))
          rw [List.getElem?_take_of_lt (by omega), hl, List.getElem?_append_right (Nat.le_refl _),
            Nat.sub_self]
          rfl
      rw [← List.getElem?_append_left hlt, ← hl]
      exact hr'

def withOutputBuffer (w : World) (r : Request) (data : List BYTE) : World :=
  { w with outputBuffers := Function.update w.outputBuffers r data }

def LengthDeclared (device : BthDevice) (information : Nat) (data : List BYTE) : Prop :=
  ∃ reportId count, data.head? = some reportId ∧
    device.configuration.hidDeviceMode.declaredBytes .input reportId = some count ∧
    information = 1 + count

-- the completion's length is what the descriptor declares for its report ID, and the same bytes are
-- handed over whatever the buffer held
def CarriesWhole (w : World) (device : BthDevice) (buffer : Buffer) (r : Request) : Prop :=
  ∀ information data,
    .complete r statusSuccess information data ∈ (w.clearLog.report device buffer).log →
    LengthDeclared device information data ∧
    ∀ before : List BYTE, before.length = (w.outputBuffers r).length →
      .complete r statusSuccess information data ∈
        ((w.withOutputBuffer r before).clearLog.report device buffer).log

theorem CompletedAt.fits {i : Nat} (h : w.CompletedAt device r i) : w.Fits r := by
  obtain ⟨-, q, -, hr, hf⟩ := h
  refine hf r (List.mem_of_getElem? (i := i) ?_)
  rw [List.getElem?_take_of_lt (Nat.lt_succ_self i)]
  exact hr

theorem not_carriesWhole {i : Nat} (hb : buffer 10 ≠ 0xFF) (hi : w.CompletedAt device r i) :
    ¬ w.CarriesWhole device buffer r := by
  intro h
  have hlen : 20 < (w.outputBuffers r).length := Nat.lt_of_lt_of_le (by decide) hi.fits
  -- the byte at offset 20 is handed over as it was found
  let before := (w.outputBuffers r).set 20 (~~~ (w.outputBuffers r)[20])
  have hbefore : (w.withOutputBuffer r before).outputBuffers r = before := Function.update_self ..
  have ho := mem_log_report.mpr ⟨hb, i, hi, rfl⟩
  obtain ⟨-, j, -, he⟩ := mem_log_report.mp ((h _ _ ho).2 before (List.length_set ..))
  have hdata : reportOf device buffer i (w.outputBuffers r) = reportOf device buffer j before := by
    rw [answer, Output.complete.injEq] at he
    rw [hbefore] at he
    exact he.2.2.2
  have hbyte := congrArg (·[20]?) hdata
  simp only [reportOf_getElem? _ _ _ _ (Nat.le_refl 20)] at hbyte
  rw [List.getElem?_eq_getElem hlen, List.getElem?_set_self hlen, Option.some.injEq] at hbyte
  have hne : ∀ x : BYTE, x ≠ ~~~ x := by decide
  exact hne _ hbyte

theorem carries_whole_iff (w : World) (device : BthDevice) (buffer : Buffer) (r : Request) :
    w.CarriesWhole device buffer r ↔ ¬ (buffer 10 ≠ 0xFF ∧ ∃ i, w.CompletedAt device r i) := by
  constructor
  · rintro h ⟨hb, i, hi⟩
    exact not_carriesWhole hb hi h
  · intro h information data ho
    obtain ⟨hb, i, hi, -⟩ := mem_log_report.mp ho
    exact absurd ⟨hb, i, hi⟩ h

-- one read of 64 bytes waits at a child in multi mode when a report with everything at rest arrives
def splitDevice : BthDevice :=
  { freshDevice with hidInputReportQueue := some 1, configuration := ⟨.multi, false⟩ }

def oneReadWaiting : World :=
  { connected someAddress splitDevice with
    queues := fun _ => [0]
    outputBuffers := fun _ => List.replicate 64 0xAA }

def restingReport : Buffer := Buffer.ofList (List.replicate 8 0 ++ [0xA1, 0x01])

theorem stale_tail_delivered : ¬ oneReadWaiting.CarriesWhole splitDevice restingReport 0 := by
  intro h
  have hd := (h 64 (reportOf splitDevice restingReport 0 (List.replicate 64 0xAA))
    (by decide +kernel)).2 (List.replicate 64 0x55) (by decide +kernel)
  exact absurd hd (by decide +kernel)

end World
end WireShock
