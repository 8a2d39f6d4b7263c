import WireShock.Driver.HidDescriptor
import WireShock.Driver.HidFramework

namespace WireShock.DsHid

structure HidDescriptor where
  bLength : BYTE
  bDescriptorType : BYTE
  bcdHID : USHORT
  bCountry : BYTE
  bNumDescriptors : BYTE
  bReportType : BYTE
  wReportLength : USHORT
deriving DecidableEq, Repr

def lowByte (value : USHORT) : BYTE := value.setWidth 8
def highByte (value : USHORT) : BYTE := (value >>> 8).setWidth 8

def HidDescriptor.bytes (d : HidDescriptor) : List BYTE :=
  [d.bLength, d.bDescriptorType, lowByte d.bcdHID, highByte d.bcdHID, d.bCountry, d.bNumDescriptors,
   d.bReportType, lowByte d.wReportLength, highByte d.wReportLength]

def hidDescriptorFor (reportDescriptor : List BYTE) : HidDescriptor where
  bLength := 0x09
  bDescriptorType := 0x21
  bcdHID := 0x0100
  bCountry := 0x00
  bNumDescriptors := 0x01
  bReportType := 0x22
  wReportLength := BitVec.ofNat 16 reportDescriptor.length

def ds3HidDescriptorSplitMode : HidDescriptor := hidDescriptorFor ds3HidReportDescriptorSplitMode
def ds3HidDescriptorSingleMode : HidDescriptor := hidDescriptorFor ds3HidReportDescriptorSingleMode

def wideString (text : String) : List BYTE :=
  text.toList.flatMap (fun c => [BitVec.ofNat 8 c.toNat, BitVec.ofNat 8 (c.toNat / 256)]) ++ [0, 0]

def dsxManufacturerString : List BYTE := wideString "Nefarius Software Solutions"
def ds3ProductString : List BYTE := wideString "DualShock 3 Controller"
def ds3DeviceStringIndex : BitVec 32 := 5
def ds3DeviceString : List BYTE := wideString "U.N. Owen"
def psMoveNavigationProductString : List BYTE := wideString "Navigation Controller"
def psMoveMotionProductString : List BYTE := wideString "Motion Controller"

def hidStringIdImanufacturer : BitVec 32 := 14
def hidStringIdIproduct : BitVec 32 := 15

def dsHidGetStringId (request : Request) : Driver (NTSTATUS × BitVec 32 × BitVec 32) := do
  let parameters ← requestGetParameters request
  let inputValue := parameters.type3InputBuffer
  return (statusSuccess, inputValue &&& 0x0ffff, inputValue >>> 16)

def dsHidRequestCopyFromBuffer (request : Request) (sourceBuffer : Option (List BYTE)) :
    Driver NTSTATUS := do
  match sourceBuffer with
  | none => return statusInvalidParameter
  | some data =>
    let status ← requestRetrieveOutputMemory request
    if !ntSuccess status then
      return status
    let outputBufferLength ← memoryGetBuffer request
    if outputBufferLength < data.length then
      return statusInvalidBufferSize
    let status ← memoryCopyFromBuffer request data
    if !ntSuccess status then
      return status
    requestSetInformation request data.length
    return status

def dsHidGetIndexedString (request : Request) (dsType : DsDeviceType) : Driver NTSTATUS := do
  let (status, stringIndex, _) ← dsHidGetStringId request
  if ntSuccess status then
    match dsType with
    | .ps3Dualshock =>
      if stringIndex ≠ ds3DeviceStringIndex then
        return statusInvalidParameter
      dsHidRequestCopyFromBuffer request (some ds3DeviceString)
    -- an unknown type is only traced: the status is still the success of the string ID
    | _ => return status
  else
    return status

def productString : DsDeviceType → Option (List BYTE)
  | .ps3Dualshock => some ds3ProductString
  | .ps3Navigation => some psMoveNavigationProductString
  | .ps3Motion => some psMoveMotionProductString
  | _ => none

def dsHidGetString (request : Request) (dsType : DsDeviceType) : Driver NTSTATUS := do
  let (status, stringId, _) ← dsHidGetStringId request
  if !ntSuccess status then
    return status
  if stringId = hidStringIdImanufacturer then
    dsHidRequestCopyFromBuffer request (some dsxManufacturerString)
  else if stringId = hidStringIdIproduct then
    dsHidRequestCopyFromBuffer request (productString dsType)
  else
    return statusInvalidParameter

def dsHidRequestGetHidXferPacket (request : Request) (bufferLength : RequestParameters → Nat) :
    Driver (Except NTSTATUS HidXferPacket) := do
  let params ← requestGetParameters request
  if bufferLength params < sizeofHidXferPacket then
    return .error statusBufferTooSmall
  let packet ← requestUserBuffer request
  return .ok packet

def dsHidRequestGetHidXferPacketToReadFromDevice (request : Request) :
    Driver (Except NTSTATUS HidXferPacket) :=
  dsHidRequestGetHidXferPacket request RequestParameters.outputBufferLength

def dsHidRequestGetHidXferPacketToWriteToDevice (request : Request) :
    Driver (Except NTSTATUS HidXferPacket) :=
  dsHidRequestGetHidXferPacket request RequestParameters.inputBufferLength

def copyDeviceDescriptor (request : Request) (descriptor : HidDescriptor) :
    Driver (NTSTATUS × Nat) := do
  let bytesCopied := descriptor.bLength.toNat
  let status ← memoryCopyFromBuffer request (descriptor.bytes.take bytesCopied)
  return (status, bytesCopied)

def dsHidGetDeviceDescriptor (request : Request) (hidDeviceMode : DsHidDeviceMode) :
    Driver (NTSTATUS × Nat) := do
  let status ← requestRetrieveOutputMemory request
  if !ntSuccess status then
    return (status, 0)
  match hidDeviceMode with
  | .multi => copyDeviceDescriptor request ds3HidDescriptorSplitMode
  | .single => copyDeviceDescriptor request ds3HidDescriptorSingleMode
  | .other _ => return (status, 0)

def copyReportDescriptor (request : Request) (descriptor : HidDescriptor)
    (reportDescriptor : List BYTE) : Driver (NTSTATUS × Nat) := do
  let bytesCopied := descriptor.wReportLength.toNat
  if bytesCopied = 0 then
    return (statusInvalidDeviceState, bytesCopied)
  let status ← memoryCopyFromBuffer request (reportDescriptor.take bytesCopied)
  return (status, bytesCopied)

def dsHidGetReportDescriptor (request : Request) (hidDeviceMode : DsHidDeviceMode) :
    Driver (NTSTATUS × Nat) := do
  let status ← requestRetrieveOutputMemory request
  if !ntSuccess status then
    return (status, 0)
  match hidDeviceMode with
  | .multi =>
    copyReportDescriptor request ds3HidDescriptorSplitMode ds3HidReportDescriptorSplitMode
  | .single =>
    copyReportDescriptor request ds3HidDescriptorSingleMode ds3HidReportDescriptorSingleMode
  | .other _ => return (status, 0)

end WireShock.DsHid
