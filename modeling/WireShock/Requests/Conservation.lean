import WireShock.Interaction.Run
import WireShock.Requests.Handling

namespace WireShock
open Interaction

def Environment.Synchronous (environment : Environment) : Prop :=
  ∀ n, environment.frameworkStatus n ≠ statusPending

section

variable {w : World}

theorem synchronous_nextFramework (h : w.environment.Synchronous) :
    w.nextFramework.environment.Synchronous := fun n => h (n + 1)

theorem environment_remove {a : BdAddr} : (w.remove a).environment = w.environment :=
  World.remove_invariant (I := fun v => v.environment = w.environment) (fun _ _ hv => hv)
    (fun _ _ hv => hv) rfl a

theorem synchronous_createHandle (h : w.environment.Synchronous) :
    w.createHandle.2.environment.Synchronous := by
  unfold World.createHandle
  split <;> exact synchronous_nextFramework h

theorem synchronous_respond (c : Call) (h : w.environment.Synchronous) :
    (respond c w).2.environment.Synchronous := by
  cases c with
  | childListUpdateAsMissing a => exact environment_remove.symm ▸ h
  | childListScan =>
    exact World.removeAll_invariant (I := fun v => v.environment.Synchronous)
      (fun _ _ hv => environment_remove.symm ▸ hv) h
  | ioQueueCreate => exact synchronous_createHandle h
  | timerCreate => exact synchronous_createHandle h
  | ioTargetStart pipe => exact synchronous_nextFramework h
  | ioQueueRetrieveNextRequest queue =>
    obtain ⟨queues, hq⟩ := w.retrieveNextRequest_world queue
    rw [respond, hq]
    exact h
  | _ => exact h

theorem synchronous_exec {α : Type} (p : Driver α) (h : w.environment.Synchronous) :
    (exec p w).2.environment.Synchronous :=
  exec_invariant (I := fun v => v.environment.Synchronous)
    (fun c _ _ hv => synchronous_respond c hv) (Program.uses_true p) h

theorem synchronous_step (e : Event) (h : w.environment.Synchronous) :
    (w.step e).environment.Synchronous :=
  step_invariant w (I := fun v => v.environment.Synchronous) (fun p _ hv => synchronous_exec p hv)
    (fun p _ hv => synchronous_exec p hv) (fun _ _ hv => hv) h e

end

namespace System

def custody (s : System) (held : Option Request) : Custody Handle :=
  s.world.custody s.arrivals s.forwarded s.completed held

structure Conserved (s : System) : Prop where
  sound : (s.custody none).Sound
  synchronous : s.world.environment.Synchronous
  home : ∀ q, ∀ r ∈ s.forwarded q, s.inputQueue r = some q

-- a request r in the hands of the handler of the child at a
structure Handling (a : BdAddr) (queue : Option Handle) (r : Request) (m : Option Request)
    (s : System) : Prop where
  sound : (s.custody m).Sound
  synchronous : s.world.environment.Synchronous
  home : ∀ q, ∀ t ∈ s.forwarded q, s.inputQueue t = some q
  last : r + 1 = s.arrivals
  fresh : m = some r → ∀ q, r ∉ s.forwarded q
  inputQueue : s.inputQueue r = queue
  queueOf : s.queueOf a = queue

section

variable {s : System} {a : BdAddr} {r : Request} {m : Option Request} {queue : Option Handle}

theorem Handling.congr {s' : System} (h : s.Handling a queue r m) (hc : s'.custody m = s.custody m)
    (hi : s'.inputQueue = s.inputQueue) (hq : s'.queueOf a = s.queueOf a)
    (he : s'.world.environment.Synchronous) : s'.Handling a queue r m := by
  have ha : s'.arrivals = s.arrivals := congrArg Custody.entered hc
  have hf : s'.forwarded = s.forwarded := congrArg Custody.forwarded hc
  refine ⟨hc ▸ h.sound, he, ?_, ?_, ?_, ?_, hq.trans h.queueOf⟩
  · rw [hf, hi]
    exact h.home
  · rw [ha]
    exact h.last
  · rw [hf]
    exact h.fresh
  · rw [hi]
    exact h.inputQueue

theorem Handling.status (h : s.Handling a queue r m) : s.status ≠ statusPending := h.synchronous 0

theorem Handling.nextFramework (h : s.Handling a queue r m) : s.nextFramework.Handling a queue r m :=
  h.congr rfl rfl rfl (synchronous_nextFramework h.synchronous)

theorem Handling.copyToMemory (h : s.Handling a queue r m) (t : Request) (data : List BYTE) :
    (s.copyToMemory t data).1 ≠ statusPending ∧ (s.copyToMemory t data).2.Handling a queue r m := by
  have hb : statusBufferTooSmall ≠ statusPending := by decide
  unfold System.copyToMemory
  split
  · exact ⟨hb, h⟩
  · split
    · exact ⟨h.status, h.congr rfl rfl rfl (synchronous_nextFramework h.synchronous)⟩
    · exact ⟨h.status, h.nextFramework⟩

theorem describe_of_none (h : s.world.children.lookup a = none) :
    s.describe a = (statusNoSuchDevice, s.world.environment.unwritten) := by
  rw [System.describe, h]

theorem describe_of_some {device : BthDevice} (h : s.world.children.lookup a = some device) :
    s.describe a =
      (s.status, if ntSuccess s.status then device else s.world.environment.unwritten) := by
  rw [System.describe, h]

theorem hidInputReportQueue_describe (hs : ntSuccess (s.describe a).1 = true) :
    (s.describe a).2.hidInputReportQueue = s.queueOf a := by
  cases hl : s.world.children.lookup a with
  | none =>
    rw [describe_of_none hl] at hs
    exact absurd (show ntSuccess statusNoSuchDevice = true from hs) (by decide)
  | some device =>
    rw [describe_of_some hl] at hs ⊢
    rw [System.queueOf, hl]
    simp only [if_pos (show ntSuccess s.status = true from hs)]
    rfl

theorem Handling.describe (h : s.Handling a queue r m) (b : BdAddr) :
    (s.describe b).1 ≠ statusPending := by
  cases hl : s.world.children.lookup b with
  | none =>
    rw [describe_of_none hl]
    exact (by decide : statusNoSuchDevice ≠ statusPending)
  | some device =>
    rw [describe_of_some hl]
    exact h.status

theorem Handling.forward (h : s.Handling a queue r (some r)) :
    (s.forward r queue).2.Handling a queue r
      (if ntSuccess (s.forward r queue).1 then none else some r) := by
  cases queue with
  | none =>
    have hn : ntSuccess statusInvalidParameter = false := by decide
    simpa only [System.forward, hn, Bool.false_eq_true, if_false] using h
  | some q =>
    have hfresh := h.fresh rfl
    cases hs : ntSuccess s.status with
    | false =>
      simp only [System.forward, hs, Bool.false_eq_true, if_false]
      exact h.nextFramework
    | true =>
      simp only [System.forward, hs, if_true]
      refine ⟨h.sound.forward rfl h.last hfresh q, synchronous_nextFramework h.synchronous,
        fun q' t ht => ?_, h.last, (fun hn => nomatch hn), h.inputQueue, h.queueOf⟩
      rcases eq_or_ne q' q with rfl | hne
      · simp only [Function.update_self, List.mem_append, List.mem_singleton] at ht
        rcases ht with ht | rfl
        · exact h.home q' t ht
        · exact h.inputQueue
      · simp only [Function.update_of_ne hne] at ht
        exact h.home q' t ht

theorem Handling.complete (h : s.Handling a queue r (some r)) (status : NTSTATUS)
    (information : Nat) (output : List BYTE) :
    (s.emit (.complete r status information output)).Handling a queue r none := by
  have hc : (s.emit (.complete r status information output)).custody none =
      (s.custody (some r)).complete r := custody_complete r status information output
  exact ⟨hc ▸ h.sound.complete rfl, h.synchronous, h.home, h.last, (fun hn => nomatch hn),
    h.inputQueue, h.queueOf⟩

theorem handling_respond (c : DsHid.Call)
    (ha : (DsHid.requestMonitor True a queue r).allowed c m) (h : s.Handling a queue r m) :
    (DsHid.requestMonitor True a queue r).admits c (DsHid.respond c s).1 ∧
      (DsHid.respond c s).2.Handling a queue r
        ((DsHid.requestMonitor True a queue r).observe c (DsHid.respond c s).1 m) := by
  cases c with
  | pdoRetrieveAddressDescription b =>
    refine ⟨⟨fun _ => h.describe b, ?_⟩, h.nextFramework⟩
    rintro rfl hs
    exact (hidInputReportQueue_describe hs).trans h.queueOf
  | pdoRetrieveIdentificationDescription b => exact ⟨fun _ => h.status, h.nextFramework⟩
  | requestForwardToIoQueue t q =>
    obtain ⟨⟨rfl, rfl⟩, rfl⟩ := ha
    exact ⟨trivial, h.forward⟩
  | requestRetrieveOutputMemory t => exact ⟨fun _ => h.status, h.nextFramework⟩
  | memoryCopyFromBuffer t data =>
    exact ⟨fun _ => (h.copyToMemory t data).1, (h.copyToMemory t data).2⟩
  | writeReportBuffer t offset data => exact ⟨trivial, h.congr rfl rfl rfl h.synchronous⟩
  | requestSetInformation t information => exact ⟨trivial, h.congr rfl rfl rfl h.synchronous⟩
  | requestComplete t status =>
    obtain ⟨rfl, rfl⟩ := ha
    exact ⟨trivial, h.complete status _ _⟩
  | _ => exact ⟨trivial, h⟩

theorem handling_enter (h : s.Conserved) (a : BdAddr) (request : HidRequest) (output : List BYTE) :
    (s.enter a request output).Handling a (s.queueOf a) s.arrivals (some s.arrivals) := by
  have hfresh : ∀ q, s.arrivals ∉ s.forwarded q := fun q hq =>
    Nat.lt_irrefl _ (h.sound.forwarded_lt hq)
  refine ⟨h.sound.enter rfl, h.synchronous, fun q t ht => ?_, rfl, fun _ => hfresh,
    Function.update_self .., rfl⟩
  have hne : t ≠ s.arrivals := fun he => hfresh q (he ▸ ht)
  exact (Function.update_of_ne hne ..).trans (h.home q t ht)

theorem conserved_ioctl (h : s.Conserved) (a : BdAddr) (code : DsHid.IoControlCode)
    (request : HidRequest) (output : List BYTE) :
    (s.react (.ioctl a code request output)).Conserved := by
  obtain ⟨m, hm, hs⟩ := Monitor.run_follows (h := DsHid.respond)
    (I := fun m s' => s'.Handling a (s.queueOf a) s.arrivals m)
    (fun c _ _ ha hv => handling_respond c ha hv) (DsHid.follows_handler code)
    (handling_enter h a request output)
  obtain rfl : m = none := hm trivial
  exact ⟨hs.sound, hs.synchronous, hs.home⟩

theorem conserved_clearLog_record (h : s.Conserved) : s.record.clearLog.Conserved := by
  refine ⟨?_, h.synchronous, h.home⟩
  have hc : s.record.clearLog.custody none = s.custody none := by
    simp [custody, World.custody, record, clearLog, World.clearLog, World.completions]
  exact hc ▸ h.sound

theorem conserved_step (e : SystemEvent) (h : s.clearLog.Conserved) :
    (s.step e).clearLog.Conserved := by
  refine conserved_clearLog_record ?_
  cases e with
  | driver e => exact ⟨sound_react e h.sound, synchronous_step e h.synchronous, h.home⟩
  | ioctl a code request output => exact conserved_ioctl h a code request output

theorem conserved_runs {environment : Environment} {requests : Request → HidRequest}
    (hs : environment.Synchronous) (es : List SystemEvent) :
    (runs step (initial environment requests) es).clearLog.Conserved :=
  runs_invariant (I := fun (s : System) => s.clearLog.Conserved) (L := fun _ _ => True)
    (fun _ e h _ => conserved_step e h) ⟨Custody.sound_empty, hs, by simp [initial, clearLog]⟩
    (along_of_forall fun _ _ => trivial)

end

end System
end WireShock
