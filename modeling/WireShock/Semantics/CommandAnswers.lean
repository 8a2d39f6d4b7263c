import WireShock.Semantics.Exec

namespace WireShock
open Interaction

def startupCommands : List HciCommand :=
  [.reset, .readBdAddr, .readBufferSize, .readLocalVersionInfo, .writeSimplePairingMode,
   .writeSimplePairingDebugMode, .writeAuthenticationEnable, .setEventMask, .writePageTimeout,
   .writePageScanActivity, .writePageScanType, .writeInquiryScanActivity, .writeInquiryScanType,
   .writeInquiryMode, .writeClassOfDevice, .writeExtendedInquiryResponse, .writeLocalName,
   .writeScanEnable]

def supportsPairing (c : HciCommand) : Bool :=
  c = .writeSimplePairingMode || c = .writeAuthenticationEnable || c = .setEventMask

def successor (disableSSP : Bool) : HciCommand → Option HciCommand
  | .readBdAddr => some .readBufferSize
  | .readBufferSize => some .readLocalVersionInfo
  | .readLocalVersionInfo => some (if disableSSP then .writeScanEnable else .writeSimplePairingMode)
  | .writeSimplePairingMode => some .writeSimplePairingDebugMode
  | .writeSimplePairingDebugMode => some .writeAuthenticationEnable
  | .writeAuthenticationEnable => some .setEventMask
  | .setEventMask => some .writePageTimeout
  | .writePageTimeout => some .writePageScanActivity
  | .writePageScanActivity => some .writePageScanType
  | .writePageScanType => some .writeInquiryScanActivity
  | .writeInquiryScanActivity => some .writeInquiryScanType
  | .writeInquiryScanType => some .writeInquiryMode
  | .writeInquiryMode => some .writeClassOfDevice
  | .writeClassOfDevice => some .writeExtendedInquiryResponse
  | .writeExtendedInquiryResponse => some .writeLocalName
  | .writeLocalName => some .writeScanEnable
  | _ => none

def oldVersion (buffer : Buffer) : Bool := buffer 6 < 3 || buffer 9 < 3

def startupBuilder : HciCommand → Driver NTSTATUS
  | .reset => hciCommandReset
  | .readBdAddr => hciCommandReadBdAddr
  | .readBufferSize => hciCommandReadBufferSize
  | .readLocalVersionInfo => hciCommandReadLocalVersionInfo
  | .writeSimplePairingMode => hciCommandWriteSimplePairingMode
  | .writeSimplePairingDebugMode => hciCommandWriteSimplePairingDebugMode
  | .writeAuthenticationEnable => hciCommandWriteAuthenticationEnable
  | .setEventMask => hciCommandSetEventMask
  | .writePageTimeout => hciCommandWritePageTimeout
  | .writePageScanActivity => hciCommandWritePageScanActivity
  | .writePageScanType => hciCommandWritePageScanType
  | .writeInquiryScanActivity => hciCommandWriteInquiryScanActivity
  | .writeInquiryScanType => hciCommandWriteInquiryScanType
  | .writeInquiryMode => hciCommandWriteInquiryMode
  | .writeClassOfDevice => hciCommandWriteClassOfDevice
  | .writeExtendedInquiryResponse => hciCommandWriteExtendedInquiryResponse
  | .writeLocalName => hciCommandWriteLocalName
  | .writeScanEnable => hciCommandWriteScanEnable
  | _ => return statusSuccess

theorem startupBuilder_eq {c : HciCommand} (h : c ∈ startupCommands) :
    ∃ size payload, 3 + payload.length ≤ size ∧
      startupBuilder c = hciCommandWith c size payload := by
  cases c <;> first
    | exact ⟨_, _, by decide, rfl⟩
    | exact absurd h (by decide)

def sendNext (c : HciCommand) : Driver Unit := do
  let _ ← startupBuilder c

def withoutPairing : Driver Unit := do
  updateContext fun c => { c with disableSSP := true }
  sendNext .writeScanEnable

def versionsRead (buffer : Buffer) : Driver Unit := do
  updateContext fun c => { c with hciVersionMajor := buffer 6 }
  updateContext fun c => { c with lmpVersionMajor := buffer 9 }
  let context ← getContext
  if context.hciVersionMajor < 3 || context.lmpVersionMajor < 3 then
    let status ← hciCommandReset
    if ntSuccess status then
      updateContext fun c => { c with started := false }
      return
  else if context.disableSSP then
    sendNext .writeScanEnable
  else
    sendNext .writeSimplePairingMode

-- at most one of the checks of a command in the handler is met, and it sends at most one command
def commandDone (buffer : Buffer) (context : DeviceContext) : HciCommand → Driver Unit
  | .reset =>
    if hciCommandSuccess buffer && !context.started then do
      childListScan
      updateContext fun c => { c with started := true }
      sendNext .readBdAddr
    else
      return
  | .readBdAddr =>
    if hciCommandSuccess buffer then do
      updateContext fun c => { c with bluetoothHostAddress := BdAddr.fromBuffer buffer 6 }
      sendNext .readBufferSize
    else
      return
  | .readLocalVersionInfo => if hciCommandSuccess buffer then versionsRead buffer else return
  | .writeSimplePairingDebugMode => sendNext .writeAuthenticationEnable
  | .writeScanEnable =>
    if hciCommandSuccess buffer then
      updateContext fun c => { c with initialized := true }
    else
      return
  | c =>
    if hciCommandSuccess buffer then
      (successor false c).elim (return) sendNext
    else if supportsPairing c then withoutPairing
    else
      return

theorem hciCommandCompleteEv_eq (buffer : Buffer) (command : Option HciCommand) :
    hciCommandCompleteEv buffer command =
      getContext >>= fun context => command.elim (return) (commandDone buffer context) := by
  cases command with
  | none => simp [hciCommandCompleteEv]
  | some c =>
    cases c <;> cases hs : hciCommandSuccess buffer <;>
      simp [hciCommandCompleteEv, commandDone, hs, successor, supportsPairing, withoutPairing,
        versionsRead, sendNext, startupBuilder]

theorem hciCommandStatusEv_eq (buffer : Buffer) (command : Option HciCommand) :
    hciCommandStatusEv buffer command =
      if buffer 2 ≠ 0 ∧ command.any supportsPairing = true then withoutPairing else return := by
  by_cases hb : buffer 2 = 0#8
  · simp [hciCommandStatusEv, hb]
  · cases command with
    | none => simp [hciCommandStatusEv, hb]
    | some c => cases c <;> simp [hciCommandStatusEv, hb, supportsPairing, withoutPairing, sendNext,
        startupBuilder]

-- the context after a completion; accepted tells of the reset that an old version is answered with
def DeviceContext.done (context : DeviceContext) (buffer : Buffer) (accepted : Bool) :
    HciCommand → DeviceContext
  | .reset => { context with started := context.started || hciCommandSuccess buffer }
  | .readBdAddr =>
    if hciCommandSuccess buffer then
      { context with bluetoothHostAddress := BdAddr.fromBuffer buffer 6 }
    else context
  | .readLocalVersionInfo =>
    if hciCommandSuccess buffer then
      { context with
        hciVersionMajor := buffer 6
        lmpVersionMajor := buffer 9
        started := context.started && !(oldVersion buffer && accepted) }
    else context
  | .writeScanEnable =>
    { context with initialized := context.initialized || hciCommandSuccess buffer }
  | c =>
    { context with disableSSP := context.disableSSP || supportsPairing c && !hciCommandSuccess buffer }

section

variable (w : World) (buffer : Buffer)

theorem context_remove (a : BdAddr) : (w.remove a).context = w.context :=
  World.remove_invariant (I := fun v => v.context = w.context) (fun _ _ hv => hv)
    (fun _ _ hv => hv) rfl a

@[simp] theorem context_removeAll : w.removeAll.context = w.context :=
  World.removeAll_invariant (I := fun v => v.context = w.context)
    (fun v a hv => (context_remove v a).trans hv) rfl

@[simp] theorem context_sendControl (packet : List BYTE) :
    (w.sendControl packet).context = w.context := rfl

theorem context_sendNext {c : HciCommand} (h : c ∈ startupCommands) :
    (exec (sendNext c) w).2.context = w.context := by
  obtain ⟨size, payload, -, he⟩ := startupBuilder_eq h
  simp [sendNext, he]

theorem context_versionsRead :
    (exec (versionsRead buffer) w).2.context =
      { w.context with
        hciVersionMajor := buffer 6
        lmpVersionMajor := buffer 9
        started := w.context.started &&
          !(oldVersion buffer && ntSuccess (w.environment.controlStatus 0)) } := by
  by_cases ho : buffer 6 < 3#8 ∨ buffer 9 < 3#8
  · have hv : oldVersion buffer = true := by simpa [oldVersion] using ho
    cases hr : ntSuccess (w.environment.controlStatus 0) <;>
      simp [versionsRead, ho, hv, hr, hciCommandReset]
  · have hv : oldVersion buffer = false := by simpa [oldVersion] using ho
    cases hd : w.context.disableSSP <;>
      simp (disch := first | decide | rfl) [versionsRead, ho, hv, hd, context_sendNext]

theorem context_withoutPairing :
    (exec withoutPairing w).2.context = { w.context with disableSSP := true } := by
  simp (disch := decide) [withoutPairing, context_sendNext]

theorem context_hciCommandCompleteEv (c : HciCommand) :
    (exec (hciCommandCompleteEv buffer (some c)) w).2.context =
      w.context.done buffer (ntSuccess (w.environment.controlStatus 0)) c := by
  rw [hciCommandCompleteEv_eq, exec_bind, exec_getContext, Option.elim_some]
  cases hs : hciCommandSuccess buffer with
  | false =>
    cases c <;>
      simp (disch := decide) [commandDone, DeviceContext.done, hs, supportsPairing,
        context_sendNext, context_withoutPairing]
  | true =>
    cases c with
    | reset =>
      have hsame (ht : w.context.started = true) :
          ({ w.context with started := true } : DeviceContext) = w.context := by rw [← ht]
      cases ht : w.context.started with
      | false => simp (disch := decide) [commandDone, DeviceContext.done, hs, ht, context_sendNext]
      | true => simp [commandDone, DeviceContext.done, hs, ht, hsame]
    | readLocalVersionInfo => simp [commandDone, DeviceContext.done, hs, context_versionsRead]
    | _ =>
      simp (disch := decide) [commandDone, DeviceContext.done, hs, supportsPairing, successor,
        context_sendNext]

theorem context_hciCommandStatusEv (command : Option HciCommand) :
    (exec (hciCommandStatusEv buffer command) w).2.context =
      if buffer 2 ≠ 0 ∧ command.any supportsPairing = true then
        { w.context with disableSSP := true }
      else w.context := by
  rw [hciCommandStatusEv_eq, exec_ite]
  split
  · exact context_withoutPairing w
  · rfl

end

end WireShock
