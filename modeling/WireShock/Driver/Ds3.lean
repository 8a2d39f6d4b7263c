import WireShock.Driver.Hci
import WireShock.Driver.HidReport
import WireShock.Driver.L2cap

namespace WireShock

def localCid : Driver L2capCid := do
  let bytes ← localArray 2
  return ⟨bytes.val.getD 0 0, bytes.val.getD 1 0⟩

def acceptConnection (handle : BthHandle) (identifier : BYTE) (scid dcid : L2capCid) :
    Driver NTSTATUS := do
  let status ← l2capCommandConnectionResponse handle identifier scid dcid .pending
  if !ntSuccess status then
    return status
  let status ← l2capCommandConnectionResponse handle identifier scid dcid .successful
  if !ntSuccess status then
    return status
  let id ← getSignallingId
  setSignallingId (id + 1)
  l2capCommandConfigurationRequest handle id scid true

def ds3ConnectionRequest (device : BthDevice) (buffer : Buffer) : Driver (NTSTATUS × BthDevice) := do
  let dcid ← localCid
  let data := SignallingConnectionRequest.read (buffer.shift 8)
  let scid := data.scid
  let (device, dcid) ← l2capSetConnectionType device (L2capPsm.ofUshort data.psm) scid dcid
  let status ← acceptConnection device.hciConnectionHandle data.identifier scid dcid
  return (status, device)

def ds3ConfigurationRequest (device : BthDevice) (buffer : Buffer) :
    Driver (NTSTATUS × BthDevice) := do
  let scid ← localCid
  let data := SignallingConfigurationRequest.read (buffer.shift 8)
  let dcid := data.dcid
  let scid := l2capDeviceGetScid device dcid scid
  let device ← device.assignIf (dcid = l2capDeviceGetDcidForType device .hidCommand)
    (.isHidCommandConfigured true)
  let device ← device.assignIf (dcid = l2capDeviceGetDcidForType device .hidInterrupt)
    (.isHidInterruptConfigured true)
  let status ← l2capCommandConfigurationResponse device.hciConnectionHandle data.identifier scid
  return (status, device)

def hidCommandEnable : List BYTE := [0x53, 0xF4, 0x42, 0x03, 0x00, 0x00]

def enableHid (device : BthDevice) : Driver NTSTATUS := do
  let scid := l2capDeviceGetScidForType device .hidCommand
  let status ← hidCommand device.hciConnectionHandle scid hidCommandEnable
  if !ntSuccess status then
    return status
  let status ← hidCommand device.hciConnectionHandle scid ds3HidOutputReport
  if !ntSuccess status then
    return status
  timerStart device.outputReportTimer
  return status

def ds3ConfigurationResponse (device : BthDevice) (buffer : Buffer) :
    Driver (NTSTATUS × BthDevice) := do
  let data := SignallingConfigurationResponse.read (buffer.shift 8)
  let scid := data.scid
  let device ← device.assignIf (scid = l2capDeviceGetDcidForType device .hidCommand)
    (.isHidCommandEstablished true)
  let device ← device.assignIf (scid = l2capDeviceGetDcidForType device .hidInterrupt)
    (.isHidInterruptEstablished true)
  if device.isHidCommandEstablished && device.isHidInterruptEstablished then
    let status ← enableHid device
    return (status, device)
  return (statusSuccess, device)

def ds3DisconnectionRequest (device : BthDevice) (buffer : Buffer) : Driver NTSTATUS := do
  let data := SignallingDisconnectionRequest.read (buffer.shift 8)
  let scid := data.scid
  let dcid := data.dcid
  let intDcid := l2capDeviceGetDcidForType device .hidInterrupt
  let comDcid := l2capDeviceGetDcidForType device .hidCommand
  if intDcid = dcid || comDcid = dcid then
    let _ ← hciCommandDisconnect device.hciConnectionHandle
  l2capCommandDisconnectionResponse device.hciConnectionHandle data.identifier dcid scid

-- an error here is the status of a request that was retrieved but whose buffer is too small: it
-- ends the caller, while a failed retrieval lets it go on
def completeHidInputReport (queue : Option Handle) (translate : List BYTE → List BYTE) :
    Driver (Except NTSTATUS NTSTATUS) := do
  match ← ioQueueRetrieveNextRequest queue with
  | .error failure => return .ok failure
  | .ok request =>
    match ← requestRetrieveOutputBuffer request ds3HidInputReportSize with
    | .error failure =>
      requestComplete request failure
      return .error failure
    | .ok outputBuffer =>
      let outputBuffer := translate outputBuffer
      requestCompleteWithInformation request statusSuccess outputBuffer.length outputBuffer
      return .ok statusSuccess

def translateHidInputReport (configuration : DsDriverConfiguration) (inputBuffer : Buffer)
    (outputBuffer : List BYTE) : List BYTE :=
  match configuration.hidDeviceMode with
  | .multi => ds3RawToSplitHidInputReport01 inputBuffer outputBuffer
      configuration.muteDigitalPressureButtons
  | .single => ds3RawToSingleHidInputReport inputBuffer outputBuffer
      configuration.muteDigitalPressureButtons
  | .other _ => outputBuffer

def completeSecondReport (device : BthDevice) (inputBuffer : Buffer) :
    Except NTSTATUS NTSTATUS → Driver NTSTATUS
  | .error status => return status
  | .ok status => do
    if device.configuration.hidDeviceMode = .multi then
      match ← completeHidInputReport device.hidInputReportQueue
          (ds3RawToSplitHidInputReport02 inputBuffer) with
      | .error status => return status
      | .ok status => return status
    else
      return status

def ds3ProcessHidInputReport (device : BthDevice) (buffer : Buffer) : Driver NTSTATUS := do
  if buffer 10 = 0xFF then
    return statusUnsuccessful
  let inputBuffer := buffer.shift 9
  let first ← completeHidInputReport device.hidInputReportQueue
    (translateHidInputReport device.configuration inputBuffer)
  completeSecondReport device inputBuffer first

end WireShock
