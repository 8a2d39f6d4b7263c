import WireShock.Driver.DsHid

namespace WireShock.DsHid

inductive IoControlCode where
  | hidGetDeviceDescriptor | hidGetReportDescriptor | hidGetDeviceAttributes | hidReadReport
  | hidGetFeature | hidSetFeature | hidGetString | hidGetIndexedString
  | other (code : BitVec 32)
deriving DecidableEq, Repr

-- a packed DS_FEATURE_HEADER, a report ID and a ULONG size, stands before the payload
def sizeofDsFeatureHeader : Nat := 5
def sizeofBdAddr : Nat := 6

def dsConnectionTypeBluetooth : BitVec 32 := 2

def ulongBytes (value : BitVec 32) : List BYTE :=
  [value.setWidth 8, (value >>> 8).setWidth 8, (value >>> 16).setWidth 8, (value >>> 24).setWidth 8]

def deviceTypeCode : DsDeviceType → BitVec 32
  | .unknown => 0
  | .ps3Dualshock => 1
  | .ps4Dualshock => 2
  | .ps3Navigation => 3
  | .ps3Motion => 4

def reverseBetween (request : Request) (lo hi : Nat) : Driver Unit :=
  if lo < hi then do
    let swap ← readReportBuffer request lo
    let last ← readReportBuffer request hi
    writeReportBuffer request lo [last]
    writeReportBuffer request hi [swap]
    reverseBetween request (lo + 1) (hi - 1)
  else
    return
termination_by hi - lo

def reverseByteArray (request : Request) (start size : Nat) : Driver Unit :=
  reverseBetween request start (start + size - 1)

def writeAddress (request : Request) (address : BdAddr) : Driver Unit := do
  writeReportBuffer request sizeofDsFeatureHeader address.address
  reverseByteArray request sizeofDsFeatureHeader sizeofBdAddr

def getFeature (context : DeviceContext) (address : BdAddr) (request : Request)
    (packet : HidXferPacket) : Driver NTSTATUS := do
  if packet.reportId = 0xC0 then
    writeAddress request context.bluetoothHostAddress
    return statusSuccess
  else if packet.reportId = 0xC2 then
    let (status, clientAddress) ← pdoRetrieveIdentificationDescription address
    if !ntSuccess status then
      return status
    writeAddress request clientAddress
    return status
  else if packet.reportId = 0xC3 then
    let (status, device) ← pdoRetrieveAddressDescription address
    if !ntSuccess status then
      return status
    writeReportBuffer request sizeofDsFeatureHeader (ulongBytes (deviceTypeCode device.deviceType))
    return status
  else if packet.reportId = 0xC4 then
    writeReportBuffer request sizeofDsFeatureHeader (ulongBytes dsConnectionTypeBluetooth)
    return statusSuccess
  else
    return statusSuccess

def setFeature (packet : HidXferPacket) : NTSTATUS :=
  if packet.reportId = 0xC1 then statusNotSupported else statusSuccess

def reportBytesCopied (request : Request) (result : NTSTATUS × Nat) : Driver NTSTATUS := do
  if !ntSuccess result.1 then
    return result.1
  requestSetInformation request result.2
  return result.1

def dispatchIoControlCode (context : DeviceContext) (address : BdAddr) (device : BthDevice)
    (request : Request) : IoControlCode → Driver NTSTATUS
  | .hidGetDeviceDescriptor => do
    let result ← dsHidGetDeviceDescriptor request device.configuration.hidDeviceMode
    reportBytesCopied request result
  | .hidGetReportDescriptor => do
    let result ← dsHidGetReportDescriptor request device.configuration.hidDeviceMode
    reportBytesCopied request result
  | .hidGetDeviceAttributes => return statusSuccess
  | .hidReadReport => do
    let status ← requestForwardToIoQueue request device.hidInputReportQueue
    if !ntSuccess status then
      return status
    return statusPending
  | .hidGetFeature => do
    match ← dsHidRequestGetHidXferPacketToReadFromDevice request with
    | .error status => return status
    | .ok packet =>
      let status ← getFeature context address request packet
      -- set after every inner break, a failed one included
      requestSetInformation request packet.reportBufferLen
      return status
  | .hidSetFeature => do
    match ← dsHidRequestGetHidXferPacketToWriteToDevice request with
    | .error status => return status
    | .ok packet => return setFeature packet
  | .hidGetString => do
    let (status, device) ← pdoRetrieveAddressDescription address
    if !ntSuccess status then
      return status
    dsHidGetString request device.deviceType
  | .hidGetIndexedString => do
    let (status, device) ← pdoRetrieveAddressDescription address
    if !ntSuccess status then
      return status
    dsHidGetIndexedString request device.deviceType
  -- the idle, activate, deactivate and physical descriptor codes fall through to the default
  | .other _ => return statusNotImplemented

def wireChildEvtWdfIoQueueIoInternalDeviceControl (address : BdAddr) (request : Request)
    (ioControlCode : IoControlCode) : Driver Unit := do
  let context ← getParentContext
  let (status, device) ← pdoRetrieveAddressDescription address
  if !ntSuccess status then
    requestComplete request status
    return
  let status ← dispatchIoControlCode context address device request ioControlCode
  if status ≠ statusPending then
    requestComplete request status

end WireShock.DsHid
