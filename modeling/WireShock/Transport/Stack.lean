import WireShock.Interaction.Backward
import WireShock.Semantics.UsbHost
import WireShock.Semantics.Views

namespace WireShock
open Interaction

-- the event handlers over the code that carries their packets to the USB target; what the
-- framework answers during a send is given for each send of its own
structure Stack where
  world : World
  usb : UsbHost
  environments : Nat → Usb.Environment

inductive StackEvent where
  | driver (event : Event)
  | prepareHardware (environment : Usb.Environment)
  | requestCompleted (request : Request)

def StackEvent.driver? : StackEvent → Option Event
  | .driver e => some e
  | _ => none

namespace Stack

def carried (t : Stack) (o : NTSTATUS → Output) (r : NTSTATUS × UsbHost) : NTSTATUS × Stack :=
  (r.1, ⟨t.world.emit (o r.1), r.2, fun n => t.environments (n + 1)⟩)

def sendControl (t : Stack) (packet : List BYTE) : NTSTATUS × Stack :=
  t.carried (.control packet) (Usb.exec (Usb.sendControlRequest
    (Usb.hciControlRequest t.usb.context packet)) (t.usb.enter (t.environments 0)))

def sendBulk (t : Stack) (packet : List BYTE) : NTSTATUS × Stack :=
  t.carried (.bulk packet) (Usb.exec (Usb.writeBulkPipe packet) (t.usb.enter (t.environments 0)))

def respond : Semantics framework Stack
  | .sendControlRequest packet, t => t.sendControl packet
  | .writeBulkPipe packet, t => t.sendBulk packet
  | c, t => ((WireShock.respond c t.world).1, { t with world := (WireShock.respond c t.world).2 })

def exec {α : Type} (p : Driver α) (t : Stack) : α × Stack := p.run respond t

def clearLog (t : Stack) : Stack := { t with world := t.world.clearLog }

def markCreated (t : Stack) (a : BdAddr) : Stack := { t with world := t.world.markCreated a }

def react (t : Stack) : Event → Stack
  | .hci buffer n => (exec (wireShockEvtUsbInterruptPipeReadComplete buffer n) t).2
  | .acl buffer n => (exec (wireShockEvtUsbBulkReadPipeReadComplete buffer n) t).2
  | .createDevice a =>
    let (status, t) := exec (wireShockEvtWdfChildListCreateDevice a) t
    if ntSuccess status then t.markCreated a else t
  | .timer a => (exec (wireChildOutputReportEvtTimerFunc a) t).2
  | .d0Entry => (exec wireShockEvtDeviceD0Entry t).2
  | .d0Exit => (exec wireShockEvtDeviceD0Exit t).2

def step (t : Stack) : StackEvent → Stack
  | .driver e => t.clearLog.react e
  | .prepareHardware environment => { t with usb := t.usb.step (.prepareHardware environment) }
  | .requestCompleted request => { t with usb := t.usb.step (.requestCompleted request) }

end Stack

-- the statuses that the sends of a world still have to answer with
structure Statuses where
  control : Nat → NTSTATUS
  bulk : Nat → NTSTATUS

def World.withStatuses (w : World) (s : Statuses) : World :=
  { w with environment :=
    { w.environment with controlStatus := s.control, bulkStatus := s.bulk } }

def Stack.seen (s : Statuses) (t : Stack) : World := t.world.withStatuses s

section

variable {w : World} {s : Statuses}

theorem clear_withStatuses : World.Clear (World.withStatuses · s) :=
  ⟨fun _ => rfl, fun _ _ => rfl, fun _ _ => rfl⟩

theorem withStatuses_createHandle : (w.withStatuses s).createHandle =
    (w.createHandle.1, w.createHandle.2.withStatuses s) := by
  have hs : (w.withStatuses s).environment.frameworkStatus = w.environment.frameworkStatus := rfl
  unfold World.createHandle
  rw [hs]
  split <;> rfl

theorem withStatuses_retrieveNextRequest (queue : Option Handle) :
    (w.withStatuses s).retrieveNextRequest queue =
      ((w.retrieveNextRequest queue).1, (w.retrieveNextRequest queue).2.withStatuses s) := by
  cases queue with
  | none => rfl
  | some q =>
    have hq : (w.withStatuses s).queues q = w.queues q := rfl
    simp only [World.retrieveNextRequest, hq]
    cases w.queues q <;> rfl

end

namespace Stack

theorem answers : Answers seen WireShock.respond Stack.respond fun _ => True := by
  intro c _ t s
  cases c with
  | sendControlRequest packet =>
    exact ⟨⟨statusThen (t.sendControl packet).1 s.control, s.bulk⟩, rfl⟩
  | writeBulkPipe packet =>
    exact ⟨⟨s.control, statusThen (t.sendBulk packet).1 s.bulk⟩, rfl⟩
  | childListUpdateAsMissing a =>
    exact ⟨s, congrArg (Prod.mk _) (clear_withStatuses.remove t.world a)⟩
  | childListScan => exact ⟨s, congrArg (Prod.mk _) (clear_withStatuses.removeAll t.world)⟩
  | ioQueueCreate => exact ⟨s, withStatuses_createHandle⟩
  | timerCreate => exact ⟨s, withStatuses_createHandle⟩
  | ioQueueRetrieveNextRequest queue => exact ⟨s, withStatuses_retrieveNextRequest queue⟩
  | _ => exact ⟨s, rfl⟩

theorem exec_answers {α : Type} (p : Driver α) (t : Stack) (s : Statuses) :
    ∃ s', WireShock.exec p (seen s' t) = ((exec p t).1, seen s (exec p t).2) :=
  Program.answered_of_uses answers p.uses_true t s

theorem explains : Explains seen World.step step StackEvent.driver? := by
  intro t d s
  cases d with
  | driver e =>
    have hreact : ∃ s', (seen s' t.clearLog).react e = seen s (t.clearLog.react e) := by
      cases e with
      | createDevice a =>
        obtain ⟨s', h⟩ := exec_answers (wireShockEvtWdfChildListCreateDevice a) t.clearLog s
        refine ⟨s', ?_⟩
        rw [World.react, h, react]
        dsimp only
        split <;> rfl
      | hci buffer n =>
        obtain ⟨s', h⟩ := exec_answers (wireShockEvtUsbInterruptPipeReadComplete buffer n) t.clearLog s
        exact ⟨s', congrArg Prod.snd h⟩
      | acl buffer n =>
        obtain ⟨s', h⟩ := exec_answers (wireShockEvtUsbBulkReadPipeReadComplete buffer n) t.clearLog s
        exact ⟨s', congrArg Prod.snd h⟩
      | timer a =>
        obtain ⟨s', h⟩ := exec_answers (wireChildOutputReportEvtTimerFunc a) t.clearLog s
        exact ⟨s', congrArg Prod.snd h⟩
      | d0Entry =>
        obtain ⟨s', h⟩ := exec_answers wireShockEvtDeviceD0Entry t.clearLog s
        exact ⟨s', congrArg Prod.snd h⟩
      | d0Exit =>
        obtain ⟨s', h⟩ := exec_answers wireShockEvtDeviceD0Exit t.clearLog s
        exact ⟨s', congrArg Prod.snd h⟩
    exact hreact
  | prepareHardware environment => exact ⟨s, rfl⟩
  | requestCompleted request => exact ⟨s, rfl⟩

end Stack
end WireShock
