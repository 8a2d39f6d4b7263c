import WireShock.Driver.Hci
import WireShock.Driver.WireBus

namespace WireShock

def hciCommandCompleteEv (buffer : Buffer) (command : Option HciCommand) : Driver Unit := do
  let success := hciCommandSuccess buffer
  if command = some .reset && success && !(← getContext).started then
    childListScan
    updateContext fun c => { c with started := true }
    let _ ← hciCommandReadBdAddr
  if command = some .readBdAddr && success then
    updateContext fun c => { c with bluetoothHostAddress := BdAddr.fromBuffer buffer 6 }
    let _ ← hciCommandReadBufferSize
  if command = some .readBufferSize && success then
    let _ ← hciCommandReadLocalVersionInfo
  if command = some .readLocalVersionInfo && success then
    updateContext fun c => { c with hciVersionMajor := buffer 6 }
    updateContext fun c => { c with lmpVersionMajor := buffer 9 }
    let context ← getContext
    if context.hciVersionMajor < 3 || context.lmpVersionMajor < 3 then
      let status ← hciCommandReset
      if ntSuccess status then
        updateContext fun c => { c with started := false }
      return
    if context.disableSSP then
      let _ ← hciCommandWriteScanEnable
    else
      let _ ← hciCommandWriteSimplePairingMode
  if command = some .writeSimplePairingMode then
    if success then
      let _ ← hciCommandWriteSimplePairingDebugMode
    else
      updateContext fun c => { c with disableSSP := true }
      let _ ← hciCommandWriteScanEnable
  if command = some .writeSimplePairingDebugMode then
    let _ ← hciCommandWriteAuthenticationEnable
  if command = some .writeAuthenticationEnable then
    if success then
      let _ ← hciCommandSetEventMask
    else
      updateContext fun c => { c with disableSSP := true }
      let _ ← hciCommandWriteScanEnable
  if command = some .setEventMask then
    if success then
      let _ ← hciCommandWritePageTimeout
    else
      updateContext fun c => { c with disableSSP := true }
      let _ ← hciCommandWriteScanEnable
  if command = some .writePageTimeout && success then
    let _ ← hciCommandWritePageScanActivity
  if command = some .writePageScanActivity && success then
    let _ ← hciCommandWritePageScanType
  if command = some .writePageScanType && success then
    let _ ← hciCommandWriteInquiryScanActivity
  if command = some .writeInquiryScanActivity && success then
    let _ ← hciCommandWriteInquiryScanType
  if command = some .writeInquiryScanType && success then
    let _ ← hciCommandWriteInquiryMode
  if command = some .writeInquiryMode && success then
    let _ ← hciCommandWriteClassOfDevice
  if command = some .writeClassOfDevice && success then
    let _ ← hciCommandWriteExtendedInquiryResponse
  if command = some .writeExtendedInquiryResponse && success then
    let _ ← hciCommandWriteLocalName
  if command = some .writeLocalName && success then
    let _ ← hciCommandWriteScanEnable
  if command = some .writeScanEnable && success then
    updateContext fun c => { c with initialized := true }

def hciCommandStatusEv (buffer : Buffer) (command : Option HciCommand) : Driver Unit := do
  if buffer 2 ≠ 0x00 then
    match command with
    | some .writeSimplePairingMode | some .writeAuthenticationEnable | some .setEventMask =>
      updateContext fun c => { c with disableSSP := true }
      let _ ← hciCommandWriteScanEnable
    | _ => return

def hciConnectionRequestEv (buffer : Buffer) : Driver Unit := do
  let clientAddr := BdAddr.fromBuffer buffer 2
  let childAddrDesc ← localAddressDescription
  -- a failed retrieval is only traced: the unwritten local is stored for the new child
  let childAddrDesc := match ← childListRetrieveAddressDescription clientAddr with
    | .error _ => childAddrDesc
    | .ok device => device
  let status ← childListAddOrUpdateAsPresent clientAddr childAddrDesc
  if !ntSuccess status then
    return
  let status ← hciCommandDeleteStoredLinkKey clientAddr
  if !ntSuccess status then
    return
  let _ ← hciCommandAcceptConnectionRequest clientAddr 0x00

def hciConnectionCompleteEv (buffer : Buffer) : Driver Unit := do
  if buffer 2 = 0x00 then
    let clientHandle : BthHandle := ⟨buffer 3, buffer 4 ||| 0x20⟩
    let clientAddr := BdAddr.fromBuffer buffer 5
    wireBusSetChildHandle clientAddr clientHandle
    let _ ← hciCommandRemoteNameRequest clientAddr

def hciDisconnectionCompleteEv (buffer : Buffer) : Driver Unit := do
  if buffer 2 = 0x00 then
    let clientHandle : BthHandle := ⟨buffer 3, buffer 4 ||| 0x20⟩
    match ← wireBusGetPdoAddressDescriptionByHandle clientHandle with
    | none => return
    | some (clientAddr, _) =>
      let _ ← childListUpdateAsMissing clientAddr

def scanRemoteName (buffer : Buffer) (numBytesTransferred : Nat) : Nat → Nat → Nat
  | 0, length => length
  | fuel + 1, length =>
    if buffer (length + 8) ≠ 0x00 ∧ length + 8 < numBytesTransferred then
      scanRemoteName buffer numBytesTransferred fuel (length + 1)
    else
      length

def remoteNameLength (buffer : Buffer) (numBytesTransferred : Nat) : Nat :=
  scanRemoteName buffer numBytesTransferred numBytesTransferred 1

def deviceTypeOfRemoteName (letter : BYTE) : Option DsDeviceType :=
  if letter = 0x50 then some .ps3Dualshock
  else if letter = 0x4E then some .ps3Navigation
  else if letter = 0x4D then some .ps3Motion
  else if letter = 0x57 then some .ps4Dualshock
  else none

def setDeviceTypeOfRemoteName (clientAddr : BdAddr) (letter : BYTE) : Driver Unit :=
  match deviceTypeOfRemoteName letter with
  | some deviceType => wireBusSetChildDeviceType clientAddr deviceType
  | none => return

def hciRemoteNameRequestCompleteEv (buffer : Buffer) (numBytesTransferred : Nat) : Driver Unit := do
  if buffer 2 = 0x00 then
    let clientAddr := BdAddr.fromBuffer buffer 3
    let length := remoteNameLength buffer numBytesTransferred
    wireBusSetChildRemoteName clientAddr (buffer.bytes 9 length)
    setDeviceTypeOfRemoteName clientAddr (buffer 9)
    wireBusInitChildOutputReport clientAddr

def commandOf (buffer : Buffer) : Option HciCommand :=
  match HciEvent.ofCode (buffer 0) with
  | some .commandComplete => HciCommand.ofBytes (buffer 3) (buffer 4)
  | some .commandStatus => HciCommand.ofBytes (buffer 4) (buffer 5)
  | _ => none

def dispatchEvent (event : HciEvent) (buffer : Buffer) (numBytesTransferred : Nat) : Driver Unit :=
  match event with
  | .commandComplete => hciCommandCompleteEv buffer (commandOf buffer)
  | .commandStatus => hciCommandStatusEv buffer (commandOf buffer)
  | .connectionRequest => hciConnectionRequestEv buffer
  | .connectionComplete => hciConnectionCompleteEv buffer
  | .disconnectionComplete => hciDisconnectionCompleteEv buffer
  | .remoteNameRequestComplete => hciRemoteNameRequestCompleteEv buffer numBytesTransferred
  -- every other event is only traced
  | _ => return

def wireShockEvtUsbInterruptPipeReadComplete (buffer : Buffer) (numBytesTransferred : Nat) :
    Driver Unit := do
  if numBytesTransferred = 0 then
    return
  match HciEvent.ofCode (buffer 0) with
  | some event => dispatchEvent event buffer numBytesTransferred
  | none => return

end WireShock
