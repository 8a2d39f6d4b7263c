import WireShock.Driver.WireChild
import WireShock.Semantics.Exec

namespace WireShock
open Interaction

structure HidRequest where
  parameters : RequestParameters
  packet : HidXferPacket
  reportBuffer : Buffer
  information : Nat

-- requests are numbered as they enter a child's handler; inputQueue is the child's
-- HidInputReportQueue at that moment, forwarded and completed are what became of the requests
structure System where
  world : World
  requests : Request → HidRequest
  arrivals : Nat
  inputQueue : Request → Option Handle
  forwarded : Handle → List Request
  completed : List Request

def Output.completes : Output → Option Request
  | .complete request _ _ _ => some request
  | _ => none

def World.completions (w : World) : List Request := w.log.filterMap Output.completes

namespace System

def status (s : System) : NTSTATUS := s.world.environment.frameworkStatus 0

def nextFramework (s : System) : System := { s with world := s.world.nextFramework }

def describe (s : System) (a : BdAddr) : NTSTATUS × BthDevice :=
  match s.world.children.lookup a with
  | none => (statusNoSuchDevice, s.world.environment.unwritten)
  | some device =>
    (s.status, if ntSuccess s.status then device else s.world.environment.unwritten)

def forward (s : System) (r : Request) : Option Handle → NTSTATUS × System
  | none => (statusInvalidParameter, s)
  | some q =>
    if ntSuccess s.status then
      (s.status, { s with
        world := { s.world.nextFramework with
          queues := Function.update s.world.queues q (s.world.queues q ++ [r]) }
        forwarded := Function.update s.forwarded q (s.forwarded q ++ [r]) })
    else
      (s.status, s.nextFramework)

def setOutputBuffer (s : System) (r : Request) (data : List BYTE) : System :=
  { s with world := { s.world with
    outputBuffers := Function.update s.world.outputBuffers r data } }

def copyToMemory (s : System) (r : Request) (data : List BYTE) : NTSTATUS × System :=
  if (s.world.outputBuffers r).length < data.length then
    (statusBufferTooSmall, s)
  else if ntSuccess s.status then
    (s.status, s.nextFramework.setOutputBuffer r (overlay (s.world.outputBuffers r) 0 data))
  else
    (s.status, s.nextFramework)

def emit (s : System) (o : Output) : System := { s with world := s.world.emit o }

def updateRequest (s : System) (r : Request) (f : HidRequest → HidRequest) : System :=
  { s with requests := Function.update s.requests r (f (s.requests r)) }

end System

def Buffer.overlay (buffer : Buffer) (offset : Nat) (data : List BYTE) : Buffer := fun i =>
  if offset ≤ i ∧ i < offset + data.length then data.getD (i - offset) 0 else buffer i

namespace DsHid

def respond : Semantics framework System
  | .getParentContext, s => (s.world.context, s)
  | .pdoRetrieveAddressDescription a, s => (s.describe a, s.nextFramework)
  | .pdoRetrieveIdentificationDescription a, s => ((s.status, a), s.nextFramework)
  | .requestForwardToIoQueue r queue, s => s.forward r queue
  | .requestGetParameters r, s => ((s.requests r).parameters, s)
  | .requestUserBuffer r, s => ((s.requests r).packet, s)
  | .requestRetrieveOutputMemory _, s => (s.status, s.nextFramework)
  | .memoryGetBuffer r, s => ((s.world.outputBuffers r).length, s)
  | .memoryCopyFromBuffer r data, s => s.copyToMemory r data
  | .readReportBuffer r offset, s => ((s.requests r).reportBuffer offset, s)
  | .writeReportBuffer r offset data, s =>
    ((), s.updateRequest r fun q => { q with reportBuffer := q.reportBuffer.overlay offset data })
  | .requestSetInformation r information, s =>
    ((), s.updateRequest r fun q => { q with information := information })
  | .requestComplete r status, s =>
    ((), s.emit (.complete r status (s.requests r).information (s.world.outputBuffers r)))

def exec {α : Type} (p : Driver α) (s : System) : α × System := p.run respond s

end DsHid

inductive SystemEvent where
  | driver (event : Event)
  | ioctl (address : BdAddr) (code : DsHid.IoControlCode) (request : HidRequest)
      (output : List BYTE)

namespace System

def initial (environment : Environment) (requests : Request → HidRequest) : System :=
  ⟨.initial environment, requests, 0, fun _ => none, fun _ => [], []⟩

def queueOf (s : System) (a : BdAddr) : Option Handle :=
  (s.world.children.lookup a).bind BthDevice.hidInputReportQueue

def enter (s : System) (a : BdAddr) (request : HidRequest) (output : List BYTE) : System :=
  { s.setOutputBuffer s.arrivals output with
    requests := Function.update s.requests s.arrivals request
    arrivals := s.arrivals + 1
    inputQueue := Function.update s.inputQueue s.arrivals (s.queueOf a) }

def clearLog (s : System) : System := { s with world := s.world.clearLog }

def react (s : System) : SystemEvent → System
  | .driver e => { s with world := s.world.react e }
  | .ioctl a code request output =>
    (DsHid.exec (DsHid.wireChildEvtWdfIoQueueIoInternalDeviceControl a s.arrivals code)
      (s.enter a request output)).2

def record (s : System) : System := { s with completed := s.completed ++ s.world.completions }

def step (s : System) (e : SystemEvent) : System := (s.clearLog.react e).record

end System
end WireShock
