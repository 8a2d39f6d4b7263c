import Mathlib.Logic.Function.Basic
import WireShock.Driver.Usb

namespace WireShock
open Interaction

namespace Usb

-- what a framework call answers that finds no memory
def statusInsufficientResources : NTSTATUS := 0xC000009A

inductive Direction where
  | input | output
deriving DecidableEq, Repr

structure PipeInformation where
  type : PipeType
  direction : Direction
deriving DecidableEq, Repr

-- what the USB stack configures when it is asked to; it counts the pipes in a UCHAR
structure Configuration where
  interface : Option Handle
  pipes : List PipeInformation
  size : pipes.length < 256

structure UsbPipe where
  handle : Handle
  information : PipeInformation
deriving DecidableEq, Repr

def Configuration.dongle : Configuration where
  interface := some 0
  pipes := [⟨.interrupt, .input⟩, ⟨.bulk, .input⟩, ⟨.bulk, .output⟩]
  size := by decide

-- what the framework answers during one call of the driver: statuses in the order of the calls that
-- return one, the configuration it selects, and whether the target takes a request
structure Environment where
  frameworkStatus : Nat → NTSTATUS
  configuration : Configuration
  accepts : Bool

def Environment.failing (configuration : Configuration) (failed : Option Nat) : Environment where
  frameworkStatus := fun n => if failed = some n then statusInsufficientResources else statusSuccess
  configuration := configuration
  accepts := true

inductive Transfer where
  | write (pipe : Option Handle) (data : List BYTE)
  | control (device : Option Handle) (setup : ControlSetupPacket) (data : List BYTE)
deriving DecidableEq, Repr

end Usb

-- handles are numbered as the framework makes them, so that those of an earlier configuration are
-- none of the later ones'
structure UsbHost where
  context : Usb.DeviceHandles
  pipes : List Usb.UsbPipe
  nextHandle : Handle
  live : List Request
  nextRequest : Request
  memory : Handle → List BYTE
  transfer : Request → Option Usb.Transfer
  routine : Request → Option Usb.CompletionRoutine
  pending : List Request
  sent : List Usb.Transfer
  environment : Usb.Environment

def Usb.numbered (first : Handle) (pipes : List Usb.PipeInformation) : List Usb.UsbPipe :=
  pipes.mapIdx fun i information => ⟨first + i, information⟩

namespace UsbHost

def status (h : UsbHost) : NTSTATUS := h.environment.frameworkStatus 0

def nextFramework (h : UsbHost) : UsbHost :=
  { h with environment :=
    { h.environment with frameworkStatus := fun n => h.environment.frameworkStatus (n + 1) } }

def createHandle (h : UsbHost) : Except NTSTATUS Handle × UsbHost :=
  if ntSuccess h.status then
    (.ok h.nextHandle, { h.nextFramework with nextHandle := h.nextHandle + 1 })
  else
    (.error h.status, h.nextFramework)

def selectConfig (h : UsbHost) : NTSTATUS × UsbHost :=
  if ntSuccess h.status then
    (h.status, { h.nextFramework with
      pipes := Usb.numbered h.nextHandle h.environment.configuration.pipes
      nextHandle := h.nextHandle + h.environment.configuration.pipes.length })
  else
    (h.status, h.nextFramework)

def pipeAt (h : UsbHost) (index : Nat) : Option Handle × Usb.PipeType :=
  match h.pipes[index]? with
  | none => (none, .invalid)
  | some pipe => (pipe.handle, pipe.information.type)

def isEndpoint (h : UsbHost) (pipe : Option Handle) (direction : Usb.Direction) : Bool :=
  h.pipes.any fun p => pipe = some p.handle && p.information.direction = direction

def createRequest (h : UsbHost) : Except NTSTATUS Request × UsbHost :=
  if ntSuccess h.status then
    (.ok h.nextRequest, { h.nextFramework with
      live := h.nextRequest :: h.live
      nextRequest := h.nextRequest + 1 })
  else
    (.error h.status, h.nextFramework)

def format (h : UsbHost) (request : Request) (transfer : Usb.Transfer) : NTSTATUS × UsbHost :=
  if ntSuccess h.status then
    (h.status, { h.nextFramework with
      transfer := Function.update h.transfer request (some transfer) })
  else
    (h.status, h.nextFramework)

def send (h : UsbHost) (request : Request) : Bool × UsbHost :=
  if h.environment.accepts then
    (true, { h with
      pending := h.pending ++ [request]
      sent := h.sent ++ (h.transfer request).toList })
  else
    (false, h)

end UsbHost

namespace Usb

def respond : Semantics framework UsbHost
  | .getContext, h => (h.context, h)
  | .updateContext update, h => ((), { h with context := update h.context })
  | .usbTargetDeviceCreateWithParameters, h => h.createHandle
  | .usbTargetDeviceSelectConfig _, h => h.selectConfig
  | .usbTargetDeviceGetInterface _ _, h => (h.environment.configuration.interface, h)
  | .usbInterfaceGetNumConfiguredPipes _, h => (BitVec.ofNat 8 h.pipes.length, h)
  | .usbInterfaceGetConfiguredPipe _ index, h => (h.pipeAt index, h)
  | .usbTargetPipeSetNoMaximumPacketSizeCheck _, h => ((), h)
  | .usbTargetPipeIsInEndpoint pipe, h => (h.isEndpoint pipe .input, h)
  | .usbTargetPipeIsOutEndpoint pipe, h => (h.isEndpoint pipe .output, h)
  | .usbTargetPipeConfigContinuousReader _ _, h => (h.status, h.nextFramework)
  | .requestCreate _, h => h.createRequest
  | .memoryCreate _ _, h => h.createHandle
  | .rtlCopyMemory memory data, h =>
    ((), { h with memory := Function.update h.memory memory data })
  | .usbTargetPipeFormatRequestForWrite pipe request memory, h =>
    h.format request (.write pipe (h.memory memory))
  | .usbTargetDeviceFormatRequestForControlTransfer device request setup memory, h =>
    h.format request (.control device setup (h.memory memory))
  | .requestSetCompletionRoutine request routine, h =>
    ((), { h with routine := Function.update h.routine request (some routine) })
  | .requestSend request _, h => h.send request
  | .requestGetStatus _, h => (h.status, h.nextFramework)
  | .objectDelete request, h => ((), { h with live := h.live.erase request })

def exec {α : Type} (p : Driver α) (h : UsbHost) : α × UsbHost := p.run respond h

section

variable {α β : Type} (h : UsbHost)

@[simp] theorem exec_pure (a : α) : exec (pure a) h = (a, h) := rfl

@[simp] theorem exec_bind (p : Driver α) (f : α → Driver β) :
    exec (p >>= f) h = exec (f (exec p h).1) (exec p h).2 := Program.run_bind respond p f h

@[simp] theorem exec_ite (c : Prop) [Decidable c] (p q : Driver α) :
    exec (if c then p else q) h = if c then exec p h else exec q h :=
  Program.run_ite respond c p q h

variable (update : DeviceHandles → DeviceHandles) (device pipe interface : Option Handle)
  (index size : Nat) (request : Request) (memory : Handle) (data : List BYTE)

@[simp] theorem exec_getContext : exec getContext h = (h.context, h) := rfl

@[simp] theorem exec_updateContext :
    exec (updateContext update) h = ((), { h with context := update h.context }) := rfl

@[simp] theorem exec_usbTargetDeviceCreateWithParameters :
    exec usbTargetDeviceCreateWithParameters h = h.createHandle := rfl

@[simp] theorem exec_usbTargetDeviceSelectConfig :
    exec (usbTargetDeviceSelectConfig device) h = h.selectConfig := rfl

@[simp] theorem exec_usbTargetDeviceGetInterface :
    exec (usbTargetDeviceGetInterface device index) h =
      (h.environment.configuration.interface, h) := rfl

@[simp] theorem exec_usbInterfaceGetNumConfiguredPipes :
    exec (usbInterfaceGetNumConfiguredPipes interface) h =
      (BitVec.ofNat 8 h.pipes.length, h) := rfl

@[simp] theorem exec_usbInterfaceGetConfiguredPipe :
    exec (usbInterfaceGetConfiguredPipe interface index) h = (h.pipeAt index, h) := rfl

@[simp] theorem exec_usbTargetPipeSetNoMaximumPacketSizeCheck :
    exec (usbTargetPipeSetNoMaximumPacketSizeCheck pipe) h = ((), h) := rfl

@[simp] theorem exec_usbTargetPipeIsInEndpoint :
    exec (usbTargetPipeIsInEndpoint pipe) h = (h.isEndpoint pipe .input, h) := rfl

@[simp] theorem exec_usbTargetPipeIsOutEndpoint :
    exec (usbTargetPipeIsOutEndpoint pipe) h = (h.isEndpoint pipe .output, h) := rfl

@[simp] theorem exec_usbTargetPipeConfigContinuousReader :
    exec (usbTargetPipeConfigContinuousReader pipe size) h = (h.status, h.nextFramework) := rfl

@[simp] theorem exec_requestCreate : exec (requestCreate device) h = h.createRequest := rfl

@[simp] theorem exec_memoryCreate : exec (memoryCreate request size) h = h.createHandle := rfl

@[simp] theorem exec_rtlCopyMemory : exec (rtlCopyMemory memory data) h =
    ((), { h with memory := Function.update h.memory memory data }) := rfl

@[simp] theorem exec_usbTargetPipeFormatRequestForWrite :
    exec (usbTargetPipeFormatRequestForWrite pipe request memory) h =
      h.format request (.write pipe (h.memory memory)) := rfl

@[simp] theorem exec_usbTargetDeviceFormatRequestForControlTransfer (setup : ControlSetupPacket) :
    exec (usbTargetDeviceFormatRequestForControlTransfer device request setup memory) h =
      h.format request (.control device setup (h.memory memory)) := rfl

@[simp] theorem exec_requestSetCompletionRoutine (routine : CompletionRoutine) :
    exec (requestSetCompletionRoutine request routine) h =
      ((), { h with routine := Function.update h.routine request (some routine) }) := rfl

@[simp] theorem exec_requestSend : exec (requestSend request device) h = h.send request := rfl

@[simp] theorem exec_requestGetStatus :
    exec (requestGetStatus request) h = (h.status, h.nextFramework) := rfl

@[simp] theorem exec_objectDelete :
    exec (objectDelete request) h = ((), { h with live := h.live.erase request }) := rfl

end

end Usb

inductive UsbEvent where
  | prepareHardware (environment : Usb.Environment)
  | writeBulkPipe (environment : Usb.Environment) (buffer : List BYTE)
  | sendControlRequest (environment : Usb.Environment) (arguments : Usb.ControlRequest)
  | requestCompleted (request : Request)

namespace UsbHost

def initial (environment : Usb.Environment) : UsbHost where
  context := ⟨none, none, none, none, none⟩
  pipes := []
  nextHandle := 1
  live := []
  nextRequest := 1
  memory := fun _ => []
  transfer := fun _ => none
  routine := fun _ => none
  pending := []
  sent := []
  environment := environment

def enter (h : UsbHost) (environment : Usb.Environment) : UsbHost :=
  { h with environment := environment }

def runRoutine (h : UsbHost) (request : Request) : Option Usb.CompletionRoutine → UsbHost
  | none => h
  | some .evtUsbRequestCompletionRoutine =>
    (Usb.exec (Usb.evtUsbRequestCompletionRoutine request) h).2

-- a target completes what it accepted, once
def complete (h : UsbHost) (request : Request) : UsbHost :=
  if request ∈ h.pending then
    { h with pending := h.pending.erase request }.runRoutine request (h.routine request)
  else
    h

def step (h : UsbHost) : UsbEvent → UsbHost
  | .prepareHardware environment =>
    (Usb.exec Usb.wireShockEvtDevicePrepareHardware (h.enter environment)).2
  | .writeBulkPipe environment buffer =>
    (Usb.exec (Usb.writeBulkPipe buffer) (h.enter environment)).2
  | .sendControlRequest environment arguments =>
    (Usb.exec (Usb.sendControlRequest arguments) (h.enter environment)).2
  | .requestCompleted request => h.complete request

end UsbHost
end WireShock
