import WireShock.Driver.Framework

namespace WireShock
open Interaction

def statusPending : NTSTATUS := 0x00000103
def statusNotImplemented : NTSTATUS := 0xC0000002
def statusInvalidParameter : NTSTATUS := 0xC000000D
def statusNotSupported : NTSTATUS := 0xC00000BB
def statusInvalidDeviceState : NTSTATUS := 0xC0000184
def statusInvalidBufferSize : NTSTATUS := 0xC0000206

structure HidXferPacket where
  reportId : BYTE
  reportBufferLen : Nat
deriving DecidableEq, Repr

-- 64-bit: a report buffer pointer, its length and the report ID
def sizeofHidXferPacket : Nat := 16

structure RequestParameters where
  outputBufferLength : Nat
  inputBufferLength : Nat
  type3InputBuffer : BitVec 32
deriving DecidableEq, Repr

namespace DsHid

inductive Call where
  | getParentContext
  | pdoRetrieveAddressDescription (address : BdAddr)
  | pdoRetrieveIdentificationDescription (address : BdAddr)
  | requestForwardToIoQueue (request : Request) (queue : Option Handle)
  | requestGetParameters (request : Request)
  | requestUserBuffer (request : Request)
  | requestRetrieveOutputMemory (request : Request)
  | memoryGetBuffer (memory : Request)
  | memoryCopyFromBuffer (memory : Request) (data : List BYTE)
  | readReportBuffer (request : Request) (offset : Nat)
  | writeReportBuffer (request : Request) (offset : Nat) (data : List BYTE)
  | requestSetInformation (request : Request) (information : Nat)
  | requestComplete (request : Request) (status : NTSTATUS)

def Call.Reply : Call → Type
  | .getParentContext => DeviceContext
  | .pdoRetrieveAddressDescription _ => NTSTATUS × BthDevice
  | .pdoRetrieveIdentificationDescription _ => NTSTATUS × BdAddr
  | .requestForwardToIoQueue _ _ => NTSTATUS
  | .requestGetParameters _ => RequestParameters
  | .requestUserBuffer _ => HidXferPacket
  | .requestRetrieveOutputMemory _ => NTSTATUS
  | .memoryGetBuffer _ => Nat
  | .memoryCopyFromBuffer _ _ => NTSTATUS
  | .readReportBuffer _ _ => BYTE
  | .writeReportBuffer _ _ _ => Unit
  | .requestSetInformation _ _ => Unit
  | .requestComplete _ _ => Unit

def framework : Signature := ⟨Call, Call.Reply⟩

abbrev Driver := Program framework

def call (c : Call) : Driver c.Reply := Program.perform (S := framework) c

def getParentContext : Driver DeviceContext := call .getParentContext
def pdoRetrieveAddressDescription (address : BdAddr) : Driver (NTSTATUS × BthDevice) :=
  call (.pdoRetrieveAddressDescription address)
def pdoRetrieveIdentificationDescription (address : BdAddr) : Driver (NTSTATUS × BdAddr) :=
  call (.pdoRetrieveIdentificationDescription address)
def requestForwardToIoQueue (request : Request) (queue : Option Handle) : Driver NTSTATUS :=
  call (.requestForwardToIoQueue request queue)
def requestGetParameters (request : Request) : Driver RequestParameters :=
  call (.requestGetParameters request)
def requestUserBuffer (request : Request) : Driver HidXferPacket := call (.requestUserBuffer request)
def requestRetrieveOutputMemory (request : Request) : Driver NTSTATUS :=
  call (.requestRetrieveOutputMemory request)
def memoryGetBuffer (memory : Request) : Driver Nat := call (.memoryGetBuffer memory)
def memoryCopyFromBuffer (memory : Request) (data : List BYTE) : Driver NTSTATUS :=
  call (.memoryCopyFromBuffer memory data)
def readReportBuffer (request : Request) (offset : Nat) : Driver BYTE :=
  call (.readReportBuffer request offset)
def writeReportBuffer (request : Request) (offset : Nat) (data : List BYTE) : Driver Unit :=
  call (.writeReportBuffer request offset data)
def requestSetInformation (request : Request) (information : Nat) : Driver Unit :=
  call (.requestSetInformation request information)
def requestComplete (request : Request) (status : NTSTATUS) : Driver Unit :=
  call (.requestComplete request status)

end DsHid
end WireShock
