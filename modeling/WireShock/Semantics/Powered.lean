import WireShock.Interaction.Observed
import WireShock.Semantics.Exec

namespace WireShock
open Interaction

-- which pipes' targets run, and whether a timer is going that the driver has started
structure Power where
  running : Pipe → Bool
  ticking : Bool

namespace Power

def startTargets : Driver (NTSTATUS × Bool) := do
  let status ← ioTargetStart .interruptPipe
  if !ntSuccess status then
    return (status, false)
  let status ← ioTargetStart .bulkReadPipe
  if !ntSuccess status then
    return (status, false)
  let status ← ioTargetStart .bulkWritePipe
  if !ntSuccess status then
    return (status, false)
  return (status, true)

def stopTargets : Driver Unit := do
  ioTargetStop .interruptPipe
  ioTargetStop .bulkReadPipe
  ioTargetStop .bulkWritePipe

-- the whole callback, with the clean-up at its End label
def wireShockEvtDeviceD0Entry : Driver NTSTATUS := do
  let (status, isTargetStarted) ← startTargets
  if !ntSuccess status && isTargetStarted then
    stopTargets
  let _ ← hciCommandReset
  return status

def setRunning (power : Power) (pipe : Pipe) (value : Bool) : Power :=
  { power with running := Function.update power.running pipe value }

-- the timers go with the devices that own them when the children are dropped
def observe : (c : Call) → c.Reply → Power → Power
  | .ioTargetStart pipe, status, power =>
    if ntSuccess status then power.setRunning pipe true else power
  | .ioTargetStop pipe, _, power => power.setRunning pipe false
  | .timerStart _, _, power => { power with ticking := true }
  | .childListScan, _, power => { power with ticking := false }
  | _, _, power => power

def off : Power := ⟨fun _ => false, false⟩

end Power

abbrev Powered := World × Power

namespace Powered

def respond : Semantics framework Powered := Semantics.observed WireShock.respond Power.observe

def exec {α : Type} (p : Driver α) (s : Powered) : α × Powered := p.run respond s

def initial (w : World) : Powered := (w, .off)

def clearLog (s : Powered) : Powered := (s.1.clearLog, s.2)

def markCreated (s : Powered) (a : BdAddr) : Powered := (s.1.markCreated a, s.2)

def react (s : Powered) : Event → Powered
  | .hci buffer n => (exec (wireShockEvtUsbInterruptPipeReadComplete buffer n) s).2
  | .acl buffer n => (exec (wireShockEvtUsbBulkReadPipeReadComplete buffer n) s).2
  | .createDevice a =>
    let (status, s) := exec (wireShockEvtWdfChildListCreateDevice a) s
    if ntSuccess status then markCreated s a else s
  | .timer a => (exec (wireChildOutputReportEvtTimerFunc a) s).2
  | .d0Entry => (exec Power.wireShockEvtDeviceD0Entry s).2
  | .d0Exit => (exec wireShockEvtDeviceD0Exit s).2

def step (s : Powered) (e : Event) : Powered := react (clearLog s) e

-- a pipe completes reads while its target runs, and a timer fires once it has been started
def Delivered (s : Powered) : Event → Prop
  | .hci .. => s.2.running .interruptPipe = true
  | .acl .. => s.2.running .bulkReadPipe = true
  | .timer _ => s.2.ticking = true
  | _ => True

end Powered

-- whether D0Entry gets a pipe's target started
def World.starts (w : World) : Pipe → Bool
  | .interruptPipe => ntSuccess (w.environment.frameworkStatus 0)
  | .bulkReadPipe =>
    ntSuccess (w.environment.frameworkStatus 0) && ntSuccess (w.environment.frameworkStatus 1)
  | .bulkWritePipe =>
    ntSuccess (w.environment.frameworkStatus 0) && ntSuccess (w.environment.frameworkStatus 1) &&
      ntSuccess (w.environment.frameworkStatus 2)

section

variable {α : Type} (w : World)

-- no status fails once the flag that guards the clean-up is set
theorem exec_wireShockEvtDeviceD0Entry :
    exec Power.wireShockEvtDeviceD0Entry w = exec wireShockEvtDeviceD0Entry w := by
  cases h₀ : ntSuccess (w.environment.frameworkStatus 0) <;>
    cases h₁ : ntSuccess (w.environment.frameworkStatus 1) <;>
      cases h₂ : ntSuccess (w.environment.frameworkStatus 2) <;>
        simp [Power.wireShockEvtDeviceD0Entry, wireShockEvtDeviceD0Entry, Power.startTargets,
          startTargets, World.nextFramework, h₀, h₁, h₂]

namespace Powered

variable (s : Powered)

theorem reply_exec (p : Driver α) : (exec p s).1 = (WireShock.exec p s.1).1 :=
  Program.reply_observed p s

theorem world_exec (p : Driver α) : (exec p s).2.1 = (WireShock.exec p s.1).2 :=
  Program.state_observed p s

theorem world_step (e : Event) : (step s e).1 = s.1.step e := by
  cases e with
  | d0Entry =>
    exact (world_exec _ _).trans (congrArg Prod.snd (exec_wireShockEvtDeviceD0Entry _))
  | createDevice a =>
    have hreply : (exec (wireShockEvtWdfChildListCreateDevice a) (clearLog s)).1 =
        (WireShock.exec (wireShockEvtWdfChildListCreateDevice a) s.1.clearLog).1 :=
      reply_exec (clearLog s) _
    have hworld := world_exec (clearLog s) (wireShockEvtWdfChildListCreateDevice a)
    rw [step, react, World.step, World.react]
    dsimp only
    rw [hreply]
    cases ntSuccess (WireShock.exec (wireShockEvtWdfChildListCreateDevice a) s.1.clearLog).1 with
    | false => exact hworld
    | true => exact congrArg (World.markCreated · a) hworld
  | _ => exact world_exec _ _

end Powered
end
end WireShock
