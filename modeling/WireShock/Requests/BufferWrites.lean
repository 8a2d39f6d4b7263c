import Mathlib.Data.List.Dedup
import WireShock.Interaction.Program
import WireShock.Requests.Conservation

namespace WireShock
open Interaction

namespace DsHid

def Call.writes : (c : Call) → c.Reply → List Nat
  | .writeReportBuffer _ offset data, _ => List.range' offset data.length
  | .memoryCopyFromBuffer _ data, status => if ntSuccess status then List.range data.length else []
  | _, _ => []

-- the offsets of the caller's buffer that a run writes, one for each byte store
def writes {α : Type} (p : Driver α) (s : System) : List Nat :=
  Program.gather respond Call.writes p s

section

variable {α β : Type}

@[simp] theorem exec_pure (a : α) (s : System) : exec (pure a) s = (a, s) := rfl

@[simp] theorem exec_bind (p : Driver α) (f : α → Driver β) (s : System) :
    exec (p >>= f) s = exec (f (exec p s).1) (exec p s).2 := Program.run_bind respond p f s

@[simp] theorem exec_ite (c : Prop) [Decidable c] (p q : Driver α) (s : System) :
    exec (if c then p else q) s = if c then exec p s else exec q s :=
  Program.run_ite respond c p q s

@[simp] theorem writes_pure (a : α) (s : System) : writes (pure a) s = [] := rfl

@[simp] theorem writes_bind (p : Driver α) (f : α → Driver β) (s : System) :
    writes (p >>= f) s = writes p s ++ writes (f (exec p s).1) (exec p s).2 :=
  Program.gather_bind respond Call.writes p f s

@[simp] theorem writes_ite (c : Prop) [Decidable c] (p q : Driver α) (s : System) :
    writes (if c then p else q) s = if c then writes p s else writes q s :=
  Program.gather_ite respond Call.writes c p q s

end

section

variable (s : System) (address : BdAddr) (request : Request) (offset : Nat) (data : List BYTE)

@[simp] theorem exec_getParentContext : exec getParentContext s = (s.world.context, s) := rfl

@[simp] theorem exec_pdoRetrieveAddressDescription :
    exec (pdoRetrieveAddressDescription address) s = (s.describe address, s.nextFramework) := rfl

@[simp] theorem exec_pdoRetrieveIdentificationDescription :
    exec (pdoRetrieveIdentificationDescription address) s =
      ((s.status, address), s.nextFramework) := rfl

@[simp] theorem exec_requestGetParameters :
    exec (requestGetParameters request) s = ((s.requests request).parameters, s) := rfl

@[simp] theorem exec_requestUserBuffer :
    exec (requestUserBuffer request) s = ((s.requests request).packet, s) := rfl

@[simp] theorem exec_requestRetrieveOutputMemory :
    exec (requestRetrieveOutputMemory request) s = (s.status, s.nextFramework) := rfl

@[simp] theorem exec_memoryGetBuffer :
    exec (memoryGetBuffer request) s = ((s.world.outputBuffers request).length, s) := rfl

@[simp] theorem exec_memoryCopyFromBuffer :
    exec (memoryCopyFromBuffer request data) s = s.copyToMemory request data := rfl

@[simp] theorem exec_requestSetInformation (information : Nat) :
    exec (requestSetInformation request information) s =
      ((), s.updateRequest request fun q => { q with information := information }) := rfl

@[simp] theorem exec_requestComplete (status : NTSTATUS) :
    exec (requestComplete request status) s =
      ((), s.emit (.complete request status (s.requests request).information
        (s.world.outputBuffers request))) := rfl

@[simp] theorem writes_getParentContext : writes getParentContext s = [] := rfl

@[simp] theorem writes_pdoRetrieveAddressDescription :
    writes (pdoRetrieveAddressDescription address) s = [] := rfl

@[simp] theorem writes_pdoRetrieveIdentificationDescription :
    writes (pdoRetrieveIdentificationDescription address) s = [] := rfl

@[simp] theorem writes_requestGetParameters : writes (requestGetParameters request) s = [] := rfl

@[simp] theorem writes_requestUserBuffer : writes (requestUserBuffer request) s = [] := rfl

@[simp] theorem writes_requestRetrieveOutputMemory :
    writes (requestRetrieveOutputMemory request) s = [] := rfl

@[simp] theorem writes_memoryGetBuffer : writes (memoryGetBuffer request) s = [] := rfl

@[simp] theorem writes_readReportBuffer : writes (readReportBuffer request offset) s = [] := rfl

@[simp] theorem writes_requestSetInformation (information : Nat) :
    writes (requestSetInformation request information) s = [] := rfl

@[simp] theorem writes_requestComplete (status : NTSTATUS) :
    writes (requestComplete request status) s = [] := rfl

@[simp] theorem writes_writeReportBuffer :
    writes (writeReportBuffer request offset data) s = List.range' offset data.length :=
  List.append_nil _

@[simp] theorem writes_memoryCopyFromBuffer :
    writes (memoryCopyFromBuffer request data) s =
      if ntSuccess (s.copyToMemory request data).1 then List.range data.length else [] :=
  List.append_nil _

end

end DsHid

namespace System

-- the state the child's handler starts in, and what it writes from there
def entered (s : System) (a : BdAddr) (request : HidRequest) (output : List BYTE) : System :=
  s.clearLog.enter a request output

def written (s : System) (a : BdAddr) (code : DsHid.IoControlCode) (request : HidRequest)
    (output : List BYTE) : List Nat :=
  DsHid.writes (DsHid.wireChildEvtWdfIoQueueIoInternalDeviceControl a s.arrivals code)
    (s.entered a request output)

-- the framework describes the child, so that the handler gets to the I/O control code
def Reaches (s : System) (a : BdAddr) (device : BthDevice) : Prop :=
  s.world.children.lookup a = some device ∧
    ntSuccess (s.world.environment.frameworkStatus 0) = true

section

variable {s : System} {a : BdAddr} {code : DsHid.IoControlCode} {request : HidRequest}
  {output : List BYTE} {device : BthDevice}

theorem requests_entered :
    (s.entered a request output).nextFramework.requests s.arrivals = request :=
  Function.update_self ..

theorem lookup_entered (h : s.Reaches a device) :
    (s.entered a request output).nextFramework.world.children.lookup a = some device := h.1

theorem describe_entered (h : s.Reaches a device) :
    (s.entered a request output).describe a = (s.world.environment.frameworkStatus 0, device) := by
  have hs : (s.entered a request output).status = s.world.environment.frameworkStatus 0 := rfl
  have hl : (s.entered a request output).world.children.lookup a = some device := h.1
  rw [describe_of_some hl, hs, if_pos h.2]

theorem describe_unreached (h : ¬ ∃ device, s.Reaches a device) :
    ntSuccess ((s.entered a request output).describe a).1 = false := by
  cases hl : s.world.children.lookup a with
  | none =>
    rw [describe_of_none (show (s.entered a request output).world.children.lookup a = none from hl)]
    exact (by decide : ntSuccess statusNoSuchDevice = false)
  | some device =>
    rw [describe_of_some
      (show (s.entered a request output).world.children.lookup a = some device from hl)]
    exact Bool.eq_false_iff.mpr fun hs => h ⟨device, hl, hs⟩

theorem written_of_unreached (h : ¬ ∃ device, s.Reaches a device) :
    s.written a code request output = [] := by
  simp [written, DsHid.wireChildEvtWdfIoQueueIoInternalDeviceControl, describe_unreached h]

theorem written_of_reaches (h : s.Reaches a device) :
    s.written a code request output =
      DsHid.writes (DsHid.dispatchIoControlCode s.world.context a device s.arrivals code)
        (s.entered a request output).nextFramework := by
  have hc : (s.entered a request output).world.context = s.world.context := rfl
  simp [written, DsHid.wireChildEvtWdfIoQueueIoInternalDeviceControl, describe_entered h, h.2, hc]

end

end System
end WireShock
