import WireShock.Channels.Link
import WireShock.Semantics.OwnCalls
import WireShock.Semantics.Powered

namespace WireShock
open Interaction

def Call.Targetless : Call → Prop
  | .ioTargetStart _ => False
  | .ioTargetStop _ => False
  | _ => True

def Call.Bulkless : Call → Prop
  | .writeBulkPipe _ => False
  | _ => True

section

variable {α : Type} {p : Driver α} {c : Call} {buffer : Buffer} {address : BdAddr}
  {data : List BYTE}

theorem targetless_of_command (h : c.Commands) : c.Targetless := by
  cases c <;> trivial

theorem targetless_of_traffic {handle : BthHandle} (h : c.Traffic handle) : c.Targetless := by
  rcases h with h | ⟨value, rfl⟩
  · cases c <;> trivial
  · trivial

theorem bulkless_of_command (h : c.Commands) : c.Bulkless := by
  cases c <;> trivial

theorem bulkless_of_setup (h : c.Setup) : c.Bulkless := by
  cases c <;> trivial

theorem targetless_of_records (hp : p.Uses Call.Records) : p.Uses Call.Targetless :=
  Program.uses_mono (fun _ => targetless_of_command) (commands_of_records hp)

theorem targetless_wireShockEvtUsbBulkReadPipeReadComplete {n : Nat} :
    (wireShockEvtUsbBulkReadPipeReadComplete buffer n).Uses Call.Targetless := by
  unfold wireShockEvtUsbBulkReadPipeReadComplete
  refine Program.uses_ite (fun _ => trivial) fun _ => ?_
  refine Program.uses_bind (targetless_of_records
    records_wireBusGetPdoAddressDescriptionByHandle) fun r => ?_
  cases r with
  | none => trivial
  | some entry =>
    have hd : (dispatchPacket entry.2 buffer).Uses Call.Targetless :=
      Program.uses_mono (fun _ => targetless_of_traffic) (Program.ensures_uses traffic_dispatchPacket)
    exact Program.uses_bind hd fun _ => targetless_of_records records_writtenBack

theorem targetless_wireChildOutputReportEvtTimerFunc :
    (wireChildOutputReportEvtTimerFunc address).Uses Call.Targetless := by
  refine Program.uses_bind (uses_call trivial) fun r => ?_
  cases r with
  | error => trivial
  | ok device =>
    dsimp only
    cases device.deviceType with
    | ps3Dualshock =>
      refine Program.uses_bind (uses_call trivial) fun _ => Program.uses_bind ?_ fun _ => trivial
      exact Program.uses_mono (fun _ hc => targetless_of_traffic (.inl hc.1)) signal_hidCommand
    | _ => trivial

end
namespace Power

variable {c : Call} {r : c.Reply} {power : Power}

theorem running_observe (h : c.Targetless) : (observe c r power).running = power.running := by
  cases c <;> first | rfl | exact h.elim

theorem ticking_observe (h : c.Commands) (ht : (observe c r power).ticking = true) :
    power.ticking = true := by
  cases c with
  | childListScan => cases ht
  | timerStart timer => exact h.elim
  | ioTargetStart pipe => exact h.elim
  | ioTargetStop pipe => exact h.elim
  | _ => exact ht

end Power
namespace Powered

variable {α : Type} {p : Driver α} {s : Powered} {e : Event} {pipe : Pipe}

theorem running_exec (hp : p.Uses Call.Targetless) : (exec p s).2.2.running = s.2.running :=
  Program.observed_invariant (I := fun m : Power => m.running = s.2.running)
    (fun _ _ _ hc hm => (Power.running_observe hc).trans hm) hp rfl

theorem ticking_exec (hp : p.Uses Call.Commands) (ht : (exec p s).2.2.ticking = true) :
    s.2.ticking = true :=
  Program.observed_invariant (I := fun m : Power => m.ticking = true → s.2.ticking = true)
    (fun _ _ _ hc hm ht => hm (Power.ticking_observe hc ht)) hp id ht

theorem power_createDevice (a : BdAddr) : (step s (.createDevice a)).2 =
    (exec (wireShockEvtWdfChildListCreateDevice a) (clearLog s)).2.2 := by
  rw [step, react]
  dsimp only
  split <;> rfl

theorem power_d0Exit : (step s .d0Exit).2 = .off := by
  have hrunning : (step s .d0Exit).2.running = fun _ => false := by
    funext pipe
    cases pipe <;> rfl
  exact congrArg (Power.mk · false) hrunning

@[simp] theorem exec_bind {β : Type} (p : Driver α) (f : α → Driver β) :
    exec (p >>= f) s = exec (f (exec p s).1) (exec p s).2 := Program.run_bind ..

@[simp] theorem exec_pure (a : α) : exec (pure a : Driver α) s = (a, s) := rfl

@[simp] theorem exec_ite {P : Prop} [Decidable P] {q : Driver α} :
    exec (if P then p else q) s = if P then exec p s else exec q s := Program.run_ite ..

@[simp] theorem exec_ioTargetStart : exec (ioTargetStart pipe) s =
    (s.1.environment.frameworkStatus 0, s.1.nextFramework,
      if ntSuccess (s.1.environment.frameworkStatus 0) then s.2.setRunning pipe true else s.2) :=
  rfl

@[simp] theorem power_hciCommandReset : (exec hciCommandReset s).2.2 = s.2 := rfl

section

attribute [local simp] Power.wireShockEvtDeviceD0Entry Power.startTargets Powered.clearLog
  World.clearLog World.nextFramework Power.setRunning World.starts

theorem running_d0Entry :
    (step s .d0Entry).2.running pipe = (s.2.running pipe || s.1.starts pipe) := by
  have h : (step s .d0Entry).2 = (exec Power.wireShockEvtDeviceD0Entry (clearLog s)).2.2 := rfl
  cases h₀ : ntSuccess (s.1.environment.frameworkStatus 0) <;>
    cases h₁ : ntSuccess (s.1.environment.frameworkStatus 1) <;>
      cases h₂ : ntSuccess (s.1.environment.frameworkStatus 2) <;>
        cases pipe <;> simp [h, h₀, h₁, h₂]

theorem ticking_d0Entry : (step s .d0Entry).2.ticking = s.2.ticking := by
  have h : (step s .d0Entry).2 = (exec Power.wireShockEvtDeviceD0Entry (clearLog s)).2.2 := rfl
  cases h₀ : ntSuccess (s.1.environment.frameworkStatus 0) <;>
    cases h₁ : ntSuccess (s.1.environment.frameworkStatus 1) <;>
      cases h₂ : ntSuccess (s.1.environment.frameworkStatus 2) <;> simp [h, h₀, h₁, h₂]

end

-- only the power transitions start and stop targets
theorem running_step : (step s e).2.running pipe = true ↔
    (e = .d0Entry ∧ s.1.starts pipe = true) ∨ s.2.running pipe = true ∧ e ≠ .d0Exit := by
  have hkept (h : (step s e).2.running = s.2.running) (he : e ≠ .d0Entry) (hx : e ≠ .d0Exit) :
      (step s e).2.running pipe = true ↔
        (e = .d0Entry ∧ s.1.starts pipe = true) ∨ s.2.running pipe = true ∧ e ≠ .d0Exit := by
    simp [h, he, hx]
  have hcommands {α : Type} {p : Driver α} (hp : p.Uses Call.Commands) :
      (exec p (clearLog s)).2.2.running = s.2.running :=
    running_exec (Program.uses_mono (fun _ => targetless_of_command) hp)
  cases e with
  | hci buffer n =>
    exact hkept (hcommands commands_wireShockEvtUsbInterruptPipeReadComplete) nofun nofun
  | acl buffer n =>
    exact hkept (running_exec targetless_wireShockEvtUsbBulkReadPipeReadComplete) nofun nofun
  | createDevice a =>
    refine hkept ?_ nofun nofun
    rw [power_createDevice]
    exact hcommands (commands_of_records records_wireShockEvtWdfChildListCreateDevice)
  | timer a =>
    exact hkept (running_exec targetless_wireChildOutputReportEvtTimerFunc) nofun nofun
  | d0Entry =>
    rw [running_d0Entry, Bool.or_eq_true]
    simp [or_comm]
  | d0Exit =>
    rw [power_d0Exit]
    simp [Power.off]

-- a D0Entry that fails leaves running what it has started
theorem running_iff (w : World) (es : List Event) (pipe : Pipe) :
    (runs step (initial w) es).2.running pipe = true ↔
      TurnedOn World.step (fun v e => e = .d0Entry ∧ v.starts pipe = true) (· = .d0Exit) w es :=
  isOn_runs (fun s : Powered => s.2.running pipe = true) Prod.fst world_step
    (fun _ _ => running_step) Bool.false_ne_true es

-- timers are only started by the answers to packets, and do not outlive the children
def Fed (s : Powered) : Prop := s.2.ticking = true → s.2.running .bulkReadPipe = true

theorem fed_step (h : Fed s) (he : Delivered s e) : Fed (step s e) := by
  have hkept (hr : s.2.running .bulkReadPipe = true) (hx : e ≠ .d0Exit) : Fed (step s e) :=
    fun _ => running_step.mpr (.inr ⟨hr, hx⟩)
  cases e with
  | hci buffer n =>
    intro ht
    have hs := ticking_exec commands_wireShockEvtUsbInterruptPipeReadComplete ht
    exact running_step.mpr (.inr ⟨h hs, nofun⟩)
  | acl buffer n => exact hkept he nofun
  | createDevice a =>
    intro ht
    rw [power_createDevice] at ht
    have hs := ticking_exec (commands_of_records records_wireShockEvtWdfChildListCreateDevice) ht
    exact running_step.mpr (.inr ⟨h hs, nofun⟩)
  | timer a => exact hkept (h he) nofun
  | d0Entry =>
    intro ht
    rw [ticking_d0Entry] at ht
    exact running_step.mpr (.inr ⟨h ht, nofun⟩)
  | d0Exit =>
    intro ht
    rw [power_d0Exit] at ht
    cases ht

end Powered
def Output.isBulk : Output → Bool
  | .bulk .. => true
  | _ => false

namespace World

variable {α : Type} {p : Driver α} {w : World} {e : Event}

def WritesBulk (w : World) : Prop := ∃ o ∈ w.log, o.isBulk = true

instance : Decidable w.WritesBulk := inferInstanceAs (Decidable (∃ o ∈ w.log, o.isBulk = true))

theorem writesBulk_emit {o : Output} (ho : o.isBulk = false) (h : (w.emit o).WritesBulk) :
    w.WritesBulk := by
  obtain ⟨written, hm, hb⟩ := h
  rcases List.mem_append.mp hm with hm | hm
  · exact ⟨written, hm, hb⟩
  · rw [List.mem_singleton.mp hm, ho] at hb
    cases hb

theorem writesBulk_free {pointer : Pointer} (h : (w.free pointer).WritesBulk) : w.WritesBulk :=
  writesBulk_emit (w := { w with pool := (w.free pointer).pool }) rfl h

theorem writesBulk_remove {a : BdAddr} (h : (w.remove a).WritesBulk) : w.WritesBulk :=
  remove_invariant (I := fun v => v.WritesBulk → w.WritesBulk)
    (fun _ _ hv h => hv (writesBulk_free h)) (fun _ _ hv => hv) id a h

theorem writesBulk_respond {c : Call} (hc : c.Bulkless) (h : (respond c w).2.WritesBulk) :
    w.WritesBulk := by
  cases c with
  | writeBulkPipe packet => exact hc.elim
  | childListUpdateAsMissing a => exact writesBulk_remove h
  | childListScan =>
    exact removeAll_invariant (I := fun v => v.WritesBulk → w.WritesBulk)
      (fun _ _ hv h => hv (writesBulk_remove h)) id h
  | ioQueueCreate | timerCreate =>
    rw [respond, createHandle] at h
    split at h <;> exact h
  | timerStart timer => exact writesBulk_emit rfl h
  | exFreePoolWithTag pointer => exact writesBulk_free h
  | sendControlRequest packet => exact writesBulk_emit (w := { w with environment := _ }) rfl h
  | ioQueueRetrieveNextRequest queue =>
    obtain ⟨queues, hq⟩ := w.retrieveNextRequest_world queue
    rw [respond, hq] at h
    exact h
  | requestComplete request status => exact writesBulk_emit rfl h
  | requestCompleteWithInformation request status information output =>
    exact writesBulk_emit rfl h
  | _ => exact h

theorem writesBulk_exec (hp : p.Uses Call.Bulkless) (h : (exec p w.clearLog).2.WritesBulk) :
    False := by
  obtain ⟨o, hm, -⟩ := exec_invariant
    (I := fun v => v.WritesBulk → w.clearLog.WritesBulk)
    (fun _ _ hc hv h => hv (writesBulk_respond hc h)) hp id h
  cases hm

-- answers to packets and the output timer write to the bulk pipe, nothing else does
theorem writer_of_writesBulk (h : (w.step e).WritesBulk) :
    (∃ buffer n, e = .acl buffer n) ∨ ∃ a, e = .timer a := by
  have hcommands {α : Type} {p : Driver α} (hp : p.Uses Call.Commands) :
      p.Uses Call.Bulkless := Program.uses_mono (fun _ => bulkless_of_command) hp
  have hsetup {α : Type} {p : Driver α} (hp : p.Uses Call.Setup) :
      p.Uses Call.Bulkless := Program.uses_mono (fun _ => bulkless_of_setup) hp
  cases e with
  | hci buffer n =>
    exact (writesBulk_exec (hcommands commands_wireShockEvtUsbInterruptPipeReadComplete) h).elim
  | acl buffer n => exact .inl ⟨buffer, n, rfl⟩
  | createDevice a =>
    have hp : (wireShockEvtWdfChildListCreateDevice a).Uses Call.Commands :=
      commands_of_records records_wireShockEvtWdfChildListCreateDevice
    have hn := writesBulk_exec (w := w) (hcommands hp)
    exact (step_createDevice_invariant w (I := fun v => ¬ v.WritesBulk) (fun _ hv => hv) hn h).elim
  | timer a => exact .inr ⟨a, rfl⟩
  | d0Entry => exact (writesBulk_exec (hsetup setup_wireShockEvtDeviceD0Entry) h).elim
  | d0Exit => exact (writesBulk_exec (hsetup setup_wireShockEvtDeviceD0Exit) h).elim

end World
namespace Powered

-- some D0Entry that no D0Exit has followed failed at its third target
def HalfStarted (w : World) (es : List Event) : Prop :=
  TurnedOn World.step (fun v e => e = .d0Entry ∧ v.starts .bulkReadPipe = true ∧
    v.starts .bulkWritePipe = false) (· = .d0Exit) w es

theorem halfStarted (w : World) (es : List Event)
    (hr : (runs step (initial w) es).2.running .bulkReadPipe = true)
    (hw : (runs step (initial w) es).2.running .bulkWritePipe = false) : HalfStarted w es := by
  have hn : ¬ (runs step (initial w) es).2.running .bulkWritePipe = true := by
    rw [hw]
    exact Bool.false_ne_true
  have hsome := ((running_iff w es .bulkReadPipe).mp hr).without ((running_iff w es _).not.mp hn)
  refine hsome.imp fun v e ⟨⟨he, hv⟩, hnot⟩ => ⟨he, hv, eq_false_of_ne_true fun hs => ?_⟩
  exact hnot ⟨he, hs⟩

theorem interrupt_running (w : World) (es : List Event)
    (hr : (runs step (initial w) es).2.running .bulkReadPipe = true) :
    (runs step (initial w) es).2.running .interruptPipe = true := by
  refine (running_iff w es _).mpr (((running_iff w es _).mp hr).imp fun v e ⟨he, hv⟩ => ⟨he, ?_⟩)
  exact ((Bool.and_eq_true _ _).mp hv).1

-- a packet is never written to a pipe that does not run, unless the transition to D0 has failed
theorem bulk_writes_find_targets (w : World) (es : List Event) (e : Event)
    (h : Along step Delivered (initial w) es) (he : Delivered (runs step (initial w) es) e)
    (hb : (step (runs step (initial w) es) e).1.WritesBulk) :
    (∀ pipe, (runs step (initial w) es).2.running pipe = true) ∨
      (runs step (initial w) es).2.running .bulkWritePipe = false ∧ HalfStarted w es := by
  have hfed : Fed (runs step (initial w) es) :=
    runs_invariant (fun _ _ hs he => fed_step hs he) (fun ht => nomatch ht) h
  have hr : (runs step (initial w) es).2.running .bulkReadPipe = true := by
    rw [world_step] at hb
    rcases World.writer_of_writesBulk hb with ⟨buffer, n, rfl⟩ | ⟨a, rfl⟩
    · exact he
    · exact hfed he
  cases hw : (runs step (initial w) es).2.running .bulkWritePipe with
  | false => exact .inr ⟨rfl, halfStarted w es hr hw⟩
  | true =>
    refine .inl fun pipe => ?_
    cases pipe with
    | interruptPipe => exact interrupt_running w es hr
    | bulkReadPipe => exact hr
    | bulkWritePipe => exact hw

def firstPacket : Event :=
  .acl (connectionRequestPacket 0x11 ⟨0x70, 0x00⟩).1 (connectionRequestPacket 0x11 ⟨0x70, 0x00⟩).2

theorem bulk_writes_find_targets_d0Entry :
    (∀ pipe, (runs step (initial (.connected someAddress freshDevice)) [.d0Entry]).2.running pipe =
        true) ∨
      (runs step (initial (.connected someAddress freshDevice)) [.d0Entry]).2.running
          .bulkWritePipe = false ∧
        HalfStarted (.connected someAddress freshDevice) [.d0Entry] :=
  bulk_writes_find_targets (.connected someAddress freshDevice) [.d0Entry] firstPacket
    ⟨trivial, trivial⟩ rfl (by decide +kernel)

def thirdTargetFails : World :=
  { World.connected someAddress freshDevice with
    environment := { Environment.succeeding with
      frameworkStatus := fun n => if n = 2 then statusUnsuccessful else statusSuccess } }

example : (step (runs step (initial thirdTargetFails) [.d0Entry]) firstPacket).1.WritesBulk ∧
    (runs step (initial thirdTargetFails) [.d0Entry]).2.running .bulkWritePipe = false := by
  decide +kernel

end Powered
end WireShock
