import WireShock.Driver.Types
import WireShock.Interaction.Program

namespace WireShock
open Interaction

abbrev Request := Nat

inductive Pipe where
  | interruptPipe | bulkReadPipe | bulkWritePipe
deriving DecidableEq, Repr

inductive Call where
  | getContext
  | updateContext (update : DeviceContext → DeviceContext)
  | getGlobalCid
  | setGlobalCid (value : USHORT)
  | getSignallingId
  | setSignallingId (value : BYTE)
  | localArray (size : Nat)
  | localAddressDescription
  | assign (value : Assignment)
  | childListRetrieveAddressDescription (address : BdAddr)
  | childListAddOrUpdateAsPresent (address : BdAddr) (device : BthDevice)
  | childListUpdateAsMissing (address : BdAddr)
  | childListScan
  | childListIterate
  | pdoRetrieveAddressDescription (address : BdAddr)
  | pdoUpdateAddressDescription (address : BdAddr) (device : BthDevice)
  | ioQueueCreate
  | timerCreate
  | timerStart (timer : Option Handle)
  | exAllocatePoolWithTag (size : Nat)
  | rtlCopyMemory (destination : Pointer) (data : List BYTE)
  | readPool (source : Option Pointer) (size : Nat)
  | exFreePoolWithTag (pointer : Pointer)
  | sendControlRequest (packet : List BYTE)
  | writeBulkPipe (packet : List BYTE)
  | ioTargetStart (pipe : Pipe)
  | ioTargetStop (pipe : Pipe)
  | ioQueueRetrieveNextRequest (queue : Option Handle)
  | requestRetrieveOutputBuffer (request : Request) (minimum : Nat)
  | requestComplete (request : Request) (status : NTSTATUS)
  | requestCompleteWithInformation (request : Request) (status : NTSTATUS) (information : Nat)
      (output : List BYTE)

def Call.Reply : Call → Type
  | .getContext => DeviceContext
  | .updateContext _ => Unit
  | .getGlobalCid => USHORT
  | .setGlobalCid _ => Unit
  | .getSignallingId => BYTE
  | .setSignallingId _ => Unit
  | .localArray size => { bytes : List BYTE // bytes.length = size }
  | .localAddressDescription => BthDevice
  | .assign _ => Unit
  | .childListRetrieveAddressDescription _ => Except NTSTATUS BthDevice
  | .childListAddOrUpdateAsPresent _ _ => NTSTATUS
  | .childListUpdateAsMissing _ => NTSTATUS
  | .childListScan => Unit
  | .childListIterate => List (BdAddr × Bool)
  | .pdoRetrieveAddressDescription _ => Except NTSTATUS BthDevice
  | .pdoUpdateAddressDescription _ _ => NTSTATUS
  | .ioQueueCreate => Except NTSTATUS Handle
  | .timerCreate => Except NTSTATUS Handle
  | .timerStart _ => Unit
  | .exAllocatePoolWithTag _ => Pointer
  | .rtlCopyMemory _ _ => Unit
  | .readPool _ _ => List BYTE
  | .exFreePoolWithTag _ => Unit
  | .sendControlRequest _ => NTSTATUS
  | .writeBulkPipe _ => NTSTATUS
  | .ioTargetStart _ => NTSTATUS
  | .ioTargetStop _ => Unit
  | .ioQueueRetrieveNextRequest _ => Except NTSTATUS Request
  | .requestRetrieveOutputBuffer _ _ => Except NTSTATUS (List BYTE)
  | .requestComplete _ _ => Unit
  | .requestCompleteWithInformation _ _ _ _ => Unit

def framework : Signature := ⟨Call, Call.Reply⟩

abbrev Driver := Program framework

def call (c : Call) : Driver c.Reply := Program.perform (S := framework) c

def getContext : Driver DeviceContext := call .getContext
def updateContext (update : DeviceContext → DeviceContext) : Driver Unit :=
  call (.updateContext update)
def getGlobalCid : Driver USHORT := call .getGlobalCid
def setGlobalCid (value : USHORT) : Driver Unit := call (.setGlobalCid value)
def getSignallingId : Driver BYTE := call .getSignallingId
def setSignallingId (value : BYTE) : Driver Unit := call (.setSignallingId value)
def localArray (size : Nat) : Driver { bytes : List BYTE // bytes.length = size } :=
  call (.localArray size)
def localAddressDescription : Driver BthDevice := call .localAddressDescription
def childListRetrieveAddressDescription (address : BdAddr) : Driver (Except NTSTATUS BthDevice) :=
  call (.childListRetrieveAddressDescription address)
def childListAddOrUpdateAsPresent (address : BdAddr) (device : BthDevice) : Driver NTSTATUS :=
  call (.childListAddOrUpdateAsPresent address device)
def childListUpdateAsMissing (address : BdAddr) : Driver NTSTATUS :=
  call (.childListUpdateAsMissing address)
def childListScan : Driver Unit := call .childListScan
def childListIterate : Driver (List (BdAddr × Bool)) := call .childListIterate
def pdoRetrieveAddressDescription (address : BdAddr) : Driver (Except NTSTATUS BthDevice) :=
  call (.pdoRetrieveAddressDescription address)
def pdoUpdateAddressDescription (address : BdAddr) (device : BthDevice) : Driver NTSTATUS :=
  call (.pdoUpdateAddressDescription address device)
def ioQueueCreate : Driver (Except NTSTATUS Handle) := call .ioQueueCreate
def timerCreate : Driver (Except NTSTATUS Handle) := call .timerCreate
def timerStart (timer : Option Handle) : Driver Unit := call (.timerStart timer)
def exAllocatePoolWithTag (size : Nat) : Driver Pointer := call (.exAllocatePoolWithTag size)
def rtlCopyMemory (destination : Pointer) (data : List BYTE) : Driver Unit :=
  call (.rtlCopyMemory destination data)
def readPool (source : Option Pointer) (size : Nat) : Driver (List BYTE) :=
  call (.readPool source size)
def exFreePoolWithTag (pointer : Pointer) : Driver Unit := call (.exFreePoolWithTag pointer)
def sendControlRequest (packet : List BYTE) : Driver NTSTATUS := call (.sendControlRequest packet)
def writeBulkPipe (packet : List BYTE) : Driver NTSTATUS := call (.writeBulkPipe packet)
def ioTargetStart (pipe : Pipe) : Driver NTSTATUS := call (.ioTargetStart pipe)
def ioTargetStop (pipe : Pipe) : Driver Unit := call (.ioTargetStop pipe)
def ioQueueRetrieveNextRequest (queue : Option Handle) : Driver (Except NTSTATUS Request) :=
  call (.ioQueueRetrieveNextRequest queue)
def requestRetrieveOutputBuffer (request : Request) (minimum : Nat) :
    Driver (Except NTSTATUS (List BYTE)) :=
  call (.requestRetrieveOutputBuffer request minimum)
def requestComplete (request : Request) (status : NTSTATUS) : Driver Unit :=
  call (.requestComplete request status)
def requestCompleteWithInformation (request : Request) (status : NTSTATUS) (information : Nat)
    (output : List BYTE) : Driver Unit :=
  call (.requestCompleteWithInformation request status information output)

def BthDevice.assign (device : BthDevice) (value : Assignment) : Driver BthDevice := do
  let _ ← call (.assign value)
  return value.apply device

def BthDevice.assignIf (device : BthDevice) (condition : Prop) [Decidable condition]
    (value : Assignment) : Driver BthDevice :=
  if condition then device.assign value else return device

end WireShock
