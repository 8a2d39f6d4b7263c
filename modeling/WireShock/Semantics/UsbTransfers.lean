import WireShock.Interaction.Leaks
import WireShock.Semantics.Exec
import WireShock.Semantics.UsbHost

namespace WireShock
open Interaction

namespace Usb

namespace Environment

def succeeds (environment : Environment) (call : Nat) : Bool :=
  ntSuccess (environment.frameworkStatus call)

-- once the request is made: its memory, its format and the target
def delivers (environment : Environment) : Bool :=
  environment.succeeds 1 && environment.succeeds 2 && environment.accepts

end Environment

-- what WriteBulkPipe and SendControlRequest have in common
def submit (device : Option Handle) (size : Nat) (data : List BYTE) (allowed : Prop)
    [Decidable allowed] (format : Request → Handle → Driver NTSTATUS)
    (routine : Option CompletionRoutine) : Driver NTSTATUS := do
  match ← requestCreate device with
  | .error status => return status
  | .ok request =>
    match ← memoryCreate request size with
    | .error status => return status
    | .ok memory =>
      rtlCopyMemory memory data
      if ¬ allowed then
        return statusInvalidParameter
      let status ← format request memory
      if !ntSuccess status then
        return status
      setRoutine request routine
      sendRequest request device status

theorem writeBulkPipe_eq (buffer : List BYTE) : writeBulkPipe buffer =
    getContext >>= fun context => submit context.usbDevice buffer.length buffer True
      (usbTargetPipeFormatRequestForWrite context.bulkWritePipe)
      (some .evtUsbRequestCompletionRoutine) := rfl

theorem sendControlRequest_eq (arguments : ControlRequest) : sendControlRequest arguments =
    submit arguments.usbDevice arguments.bufferLength arguments.data
      (arguments.type = .bmRequestClass)
      (fun request => usbTargetDeviceFormatRequestForControlTransfer arguments.usbDevice request
        arguments.setup)
      arguments.completionRoutine := rfl

theorem exec_setRoutine (request : Request) (routine : Option CompletionRoutine) (h : UsbHost) :
    exec (setRoutine request routine) h = ((), { h with
      routine :=
        routine.elim h.routine fun c => Function.update h.routine request (some c) }) := by
  cases routine <;> rfl

end Usb

namespace UsbHost

def ledger (h : UsbHost) : Ledger Unit := ⟨h.live, h.nextRequest, fun _ => h.pending⟩

-- the status of a request that no target took is documented to be a failure
structure Submits (h : UsbHost) (r : NTSTATUS × UsbHost) (allowed : Bool)
    (transfer : Usb.Transfer) : Prop where
  ledger : r.2.ledger = h.ledger.attempt () (h.environment.succeeds 0)
    (allowed && h.environment.delivers)
  sent : r.2.sent =
    if h.environment.succeeds 0 && (allowed && h.environment.delivers) then h.sent ++ [transfer]
    else h.sent
  status : (h.environment.accepts = false → h.environment.succeeds 3 = false) →
    ntSuccess r.1 = (h.environment.succeeds 0 && (allowed && h.environment.delivers))

variable {h : UsbHost}

theorem ledger_of_accepted {g : UsbHost} (hlive : g.live = h.nextRequest :: h.live)
    (hnext : g.nextRequest = h.nextRequest + 1)
    (hpending : g.pending = h.pending ++ [h.nextRequest]) :
    g.ledger = h.ledger.allocate.assign () h.ledger.next := by
  simp [ledger, Ledger.assign, Ledger.allocate, hlive, hnext, hpending, funext_iff]

section

variable {device : Option Handle} {size : Nat} {data : List BYTE} {allowed : Prop}
  [Decidable allowed] {format : Request → Handle → Usb.Driver NTSTATUS}
  {routine : Option Usb.CompletionRoutine} {transfer : List BYTE → Usb.Transfer}

attribute [local simp] status nextFramework createRequest createHandle UsbHost.format send
  Usb.submit Usb.exec_setRoutine Usb.sendRequest Usb.Environment.succeeds
  Usb.Environment.delivers Ledger.attempt

theorem submits_submit (hformat : ∀ (request : Request) (memory : Handle) (g : UsbHost),
      Usb.exec (format request memory) g = g.format request (transfer (g.memory memory))) :
    h.Submits (Usb.exec (Usb.submit device size data allowed format routine) h) allowed
      (transfer data) := by
  have hinvalid : ntSuccess statusInvalidParameter = false := by decide
  cases h₀ : ntSuccess (h.environment.frameworkStatus 0) with
  | false =>
    constructor <;> simp [h₀]
    rfl
  | true =>
    cases h₁ : ntSuccess (h.environment.frameworkStatus 1) with
    | false =>
      constructor <;> simp [h₀, h₁]
      rfl
    | true =>
      by_cases ha : allowed
      · cases h₂ : ntSuccess (h.environment.frameworkStatus 2) with
        | false =>
          constructor <;> simp [h₀, h₁, ha, hformat, h₂]
          rfl
        | true =>
          cases hs : h.environment.accepts with
          | false =>
            constructor <;> simp [h₀, h₁, ha, hformat, h₂, hs]
            rfl
          | true =>
            constructor <;> simp [h₀, h₁, ha, hformat, h₂, hs]
            exact ledger_of_accepted rfl rfl rfl
      · constructor <;> simp [h₀, h₁, ha, hinvalid]
        rfl

end

theorem submits_writeBulkPipe (h : UsbHost) (buffer : List BYTE) :
    h.Submits (Usb.exec (Usb.writeBulkPipe buffer) h) true
      (.write h.context.bulkWritePipe buffer) := by
  rw [Usb.writeBulkPipe_eq, Usb.exec_bind, Usb.exec_getContext]
  exact submits_submit fun _ _ _ => rfl

theorem submits_sendControlRequest (h : UsbHost) (arguments : Usb.ControlRequest) :
    h.Submits (Usb.exec (Usb.sendControlRequest arguments) h)
      (arguments.type = .bmRequestClass)
      (.control arguments.usbDevice arguments.setup arguments.data) := by
  rw [Usb.sendControlRequest_eq]
  exact submits_submit fun _ _ _ => rfl

theorem submits_hciControlRequest (h : UsbHost) (packet : List BYTE) :
    h.Submits (Usb.exec (Usb.sendControlRequest (Usb.hciControlRequest h.context packet)) h) true
      (.control h.context.usbDevice ⟨.bmRequestHostToDevice, .bmRequestToDevice, 0, 0, 0⟩
        packet) := by
  have hs := submits_sendControlRequest h (Usb.hciControlRequest h.context packet)
  rwa [show (Usb.hciControlRequest h.context packet).data = packet from List.take_length] at hs

end UsbHost
end WireShock
