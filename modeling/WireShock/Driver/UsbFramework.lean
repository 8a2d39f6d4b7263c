import WireShock.Driver.HidFramework

namespace WireShock
open Interaction

namespace Usb

inductive PipeType where
  | invalid | control | isochronous | bulk | interrupt
deriving DecidableEq, Repr

inductive BmRequestDirection where
  | bmRequestHostToDevice | bmRequestDeviceToHost
deriving DecidableEq, Repr

inductive BmRequestType where
  | bmRequestStandard | bmRequestClass | bmRequestVendor
deriving DecidableEq, Repr

inductive BmRequestRecipient where
  | bmRequestToDevice | bmRequestToInterface | bmRequestToEndpoint | bmRequestToOther
deriving DecidableEq, Repr

-- a setup packet as WDF_USB_CONTROL_SETUP_PACKET_INIT_CLASS fills it
structure ControlSetupPacket where
  direction : BmRequestDirection
  recipient : BmRequestRecipient
  request : BYTE
  value : USHORT
  index : USHORT
deriving DecidableEq, Repr

inductive CompletionRoutine where
  | evtUsbRequestCompletionRoutine
deriving DecidableEq, Repr

-- the members of DEVICE_CONTEXT that hold handles of the USB target
structure DeviceHandles where
  usbDevice : Option Handle
  usbInterface : Option Handle
  interruptPipe : Option Handle
  bulkReadPipe : Option Handle
  bulkWritePipe : Option Handle
deriving DecidableEq, Repr

inductive Call where
  | getContext
  | updateContext (update : DeviceHandles → DeviceHandles)
  | usbTargetDeviceCreateWithParameters
  | usbTargetDeviceSelectConfig (device : Option Handle)
  | usbTargetDeviceGetInterface (device : Option Handle) (index : Nat)
  | usbInterfaceGetNumConfiguredPipes (interface : Option Handle)
  | usbInterfaceGetConfiguredPipe (interface : Option Handle) (index : Nat)
  | usbTargetPipeSetNoMaximumPacketSizeCheck (pipe : Option Handle)
  | usbTargetPipeIsInEndpoint (pipe : Option Handle)
  | usbTargetPipeIsOutEndpoint (pipe : Option Handle)
  | usbTargetPipeConfigContinuousReader (pipe : Option Handle) (transferLength : Nat)
  | requestCreate (device : Option Handle)
  | memoryCreate (parent : Request) (size : Nat)
  | rtlCopyMemory (memory : Handle) (data : List BYTE)
  | usbTargetPipeFormatRequestForWrite (pipe : Option Handle) (request : Request)
      (memory : Handle)
  | usbTargetDeviceFormatRequestForControlTransfer (device : Option Handle) (request : Request)
      (setup : ControlSetupPacket) (memory : Handle)
  | requestSetCompletionRoutine (request : Request) (routine : CompletionRoutine)
  | requestSend (request : Request) (device : Option Handle)
  | requestGetStatus (request : Request)
  | objectDelete (request : Request)

def Call.Reply : Call → Type
  | .getContext => DeviceHandles
  | .updateContext _ => Unit
  | .usbTargetDeviceCreateWithParameters => Except NTSTATUS Handle
  | .usbTargetDeviceSelectConfig _ => NTSTATUS
  | .usbTargetDeviceGetInterface _ _ => Option Handle
  | .usbInterfaceGetNumConfiguredPipes _ => BYTE
  | .usbInterfaceGetConfiguredPipe _ _ => Option Handle × PipeType
  | .usbTargetPipeSetNoMaximumPacketSizeCheck _ => Unit
  | .usbTargetPipeIsInEndpoint _ => Bool
  | .usbTargetPipeIsOutEndpoint _ => Bool
  | .usbTargetPipeConfigContinuousReader _ _ => NTSTATUS
  | .requestCreate _ => Except NTSTATUS Request
  | .memoryCreate _ _ => Except NTSTATUS Handle
  | .rtlCopyMemory _ _ => Unit
  | .usbTargetPipeFormatRequestForWrite _ _ _ => NTSTATUS
  | .usbTargetDeviceFormatRequestForControlTransfer _ _ _ _ => NTSTATUS
  | .requestSetCompletionRoutine _ _ => Unit
  | .requestSend _ _ => Bool
  | .requestGetStatus _ => NTSTATUS
  | .objectDelete _ => Unit

def framework : Signature := ⟨Call, Call.Reply⟩

abbrev Driver := Program framework

def call (c : Call) : Driver c.Reply := Program.perform (S := framework) c

def getContext : Driver DeviceHandles := call .getContext
def updateContext (update : DeviceHandles → DeviceHandles) : Driver Unit :=
  call (.updateContext update)
def usbTargetDeviceCreateWithParameters : Driver (Except NTSTATUS Handle) :=
  call .usbTargetDeviceCreateWithParameters
def usbTargetDeviceSelectConfig (device : Option Handle) : Driver NTSTATUS :=
  call (.usbTargetDeviceSelectConfig device)
def usbTargetDeviceGetInterface (device : Option Handle) (index : Nat) : Driver (Option Handle) :=
  call (.usbTargetDeviceGetInterface device index)
def usbInterfaceGetNumConfiguredPipes (interface : Option Handle) : Driver BYTE :=
  call (.usbInterfaceGetNumConfiguredPipes interface)
def usbInterfaceGetConfiguredPipe (interface : Option Handle) (index : Nat) :
    Driver (Option Handle × PipeType) :=
  call (.usbInterfaceGetConfiguredPipe interface index)
def usbTargetPipeSetNoMaximumPacketSizeCheck (pipe : Option Handle) : Driver Unit :=
  call (.usbTargetPipeSetNoMaximumPacketSizeCheck pipe)
def usbTargetPipeIsInEndpoint (pipe : Option Handle) : Driver Bool :=
  call (.usbTargetPipeIsInEndpoint pipe)
def usbTargetPipeIsOutEndpoint (pipe : Option Handle) : Driver Bool :=
  call (.usbTargetPipeIsOutEndpoint pipe)
def usbTargetPipeConfigContinuousReader (pipe : Option Handle) (transferLength : Nat) :
    Driver NTSTATUS :=
  call (.usbTargetPipeConfigContinuousReader pipe transferLength)
def requestCreate (device : Option Handle) : Driver (Except NTSTATUS Request) :=
  call (.requestCreate device)
def memoryCreate (parent : Request) (size : Nat) : Driver (Except NTSTATUS Handle) :=
  call (.memoryCreate parent size)
def rtlCopyMemory (memory : Handle) (data : List BYTE) : Driver Unit :=
  call (.rtlCopyMemory memory data)
def usbTargetPipeFormatRequestForWrite (pipe : Option Handle) (request : Request)
    (memory : Handle) : Driver NTSTATUS :=
  call (.usbTargetPipeFormatRequestForWrite pipe request memory)
def usbTargetDeviceFormatRequestForControlTransfer (device : Option Handle) (request : Request)
    (setup : ControlSetupPacket) (memory : Handle) : Driver NTSTATUS :=
  call (.usbTargetDeviceFormatRequestForControlTransfer device request setup memory)
def requestSetCompletionRoutine (request : Request) (routine : CompletionRoutine) : Driver Unit :=
  call (.requestSetCompletionRoutine request routine)
def requestSend (request : Request) (device : Option Handle) : Driver Bool :=
  call (.requestSend request device)
def requestGetStatus (request : Request) : Driver NTSTATUS := call (.requestGetStatus request)
def objectDelete (request : Request) : Driver Unit := call (.objectDelete request)

end Usb
end WireShock
