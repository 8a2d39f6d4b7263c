import WireShock.Driver.Framework

namespace WireShock

inductive HciCommand where
  | acceptConnectionRequest | rejectConnectionRequest | remoteNameRequest | reset | writeScanEnable
  | readBufferSize | readBdAddr | readLocalVersionInfo | createConnection | disconnect
  | linkKeyRequestReply | linkKeyRequestNegativeReply | pinCodeRequestReply
  | pinCodeRequestNegativeReply | inquiry | inquiryCancel | writeInquiryTransmitPowerLevel
  | writeInquiryMode | writeSimplePairingMode | writeSimplePairingDebugMode
  | writeAuthenticationEnable | writePageTimeout | writePageScanActivity | writePageScanType
  | writeInquiryScanActivity | writeInquiryScanType | writeClassOfDevice
  | writeExtendedInquiryResponse | writeLocalName | setEventMask | ioCapabilityRequestReply
  | userConfirmationRequestReply | setConnectionEncryption | authenticationRequested
  | changeConnectionLinkKey | readStoredLinkKey | writeStoredLinkKey | deleteStoredLinkKey
deriving DecidableEq, Repr

namespace HciCommand

def code : HciCommand → USHORT
  | acceptConnectionRequest => 0x0409
  | rejectConnectionRequest => 0x040A
  | remoteNameRequest => 0x0419
  | reset => 0x0C03
  | writeScanEnable => 0x0C1A
  | readBufferSize => 0x1005
  | readBdAddr => 0x1009
  | readLocalVersionInfo => 0x1001
  | createConnection => 0x0405
  | disconnect => 0x0406
  | linkKeyRequestReply => 0x040B
  | linkKeyRequestNegativeReply => 0x040C
  | pinCodeRequestReply => 0x040D
  | pinCodeRequestNegativeReply => 0x040E
  | inquiry => 0x0401
  | inquiryCancel => 0x0402
  | writeInquiryTransmitPowerLevel => 0x0C59
  | writeInquiryMode => 0x0C45
  | writeSimplePairingMode => 0x0C56
  | writeSimplePairingDebugMode => 0x1804
  | writeAuthenticationEnable => 0x0C20
  | writePageTimeout => 0x0C18
  | writePageScanActivity => 0x0C1C
  | writePageScanType => 0x0C47
  | writeInquiryScanActivity => 0x0C1E
  | writeInquiryScanType => 0x0C43
  | writeClassOfDevice => 0x0C24
  | writeExtendedInquiryResponse => 0x0C52
  | writeLocalName => 0x0C13
  | setEventMask => 0x0C01
  | ioCapabilityRequestReply => 0x042B
  | userConfirmationRequestReply => 0x042C
  | setConnectionEncryption => 0x0413
  | authenticationRequested => 0x0411
  | changeConnectionLinkKey => 0x0415
  | readStoredLinkKey => 0x0C0D
  | writeStoredLinkKey => 0x0C11
  | deleteStoredLinkKey => 0x0C12

def all : List HciCommand :=
  [acceptConnectionRequest, rejectConnectionRequest, remoteNameRequest, reset, writeScanEnable,
   readBufferSize, readBdAddr, readLocalVersionInfo, createConnection, disconnect,
   linkKeyRequestReply, linkKeyRequestNegativeReply, pinCodeRequestReply,
   pinCodeRequestNegativeReply, inquiry, inquiryCancel, writeInquiryTransmitPowerLevel,
   writeInquiryMode, writeSimplePairingMode, writeSimplePairingDebugMode,
   writeAuthenticationEnable, writePageTimeout, writePageScanActivity, writePageScanType,
   writeInquiryScanActivity, writeInquiryScanType, writeClassOfDevice,
   writeExtendedInquiryResponse, writeLocalName, setEventMask, ioCapabilityRequestReply,
   userConfirmationRequestReply, setConnectionEncryption, authenticationRequested,
   changeConnectionLinkKey, readStoredLinkKey, writeStoredLinkKey, deleteStoredLinkKey]

def ofCode (value : USHORT) : Option HciCommand := all.find? fun c => c.code = value

@[simp] theorem ofCode_code (c : HciCommand) : ofCode c.code = some c := by
  cases c <;> decide

def ofBytes (lsb msb : BYTE) : Option HciCommand := ofCode (msb ++ lsb)

def lsb (c : HciCommand) : BYTE := c.code.truncate 8
def msb (c : HciCommand) : BYTE := (c.code >>> 8).truncate 8

@[simp] theorem ofBytes_lsb_msb (c : HciCommand) : ofBytes c.lsb c.msb = some c := by
  cases c <;> decide

end HciCommand

inductive HciEvent where
  | connectionComplete | connectionRequest | disconnectionComplete | remoteNameRequestComplete
  | commandComplete | commandStatus | roleChange | numberOfCompletedPackets | pinCodeRequest
  | linkKeyRequest | linkKeyNotification | pageScanRepetitionModeChange | ioCapabilityRequest
  | userConfirmationRequest
deriving DecidableEq, Repr

namespace HciEvent

def code : HciEvent → BYTE
  | connectionComplete => 0x03
  | connectionRequest => 0x04
  | disconnectionComplete => 0x05
  | remoteNameRequestComplete => 0x07
  | commandComplete => 0x0E
  | commandStatus => 0x0F
  | roleChange => 0x12
  | numberOfCompletedPackets => 0x13
  | pinCodeRequest => 0x16
  | linkKeyRequest => 0x17
  | linkKeyNotification => 0x18
  | pageScanRepetitionModeChange => 0x20
  | ioCapabilityRequest => 0x31
  | userConfirmationRequest => 0x33

def all : List HciEvent :=
  [connectionComplete, connectionRequest, disconnectionComplete, remoteNameRequestComplete,
   commandComplete, commandStatus, roleChange, numberOfCompletedPackets, pinCodeRequest,
   linkKeyRequest, linkKeyNotification, pageScanRepetitionModeChange, ioCapabilityRequest,
   userConfirmationRequest]

def ofCode (value : BYTE) : Option HciEvent := all.find? fun e => e.code = value

@[simp] theorem ofCode_code (e : HciEvent) : ofCode e.code = some e := by
  cases e <;> decide

end HciEvent

def hciCommandSuccess (buffer : Buffer) : Bool := buffer 5 = 0

def hciPacket (command : HciCommand) (buffer : List BYTE) : List BYTE :=
  ((buffer.set 0 command.lsb).set 1 command.msb).set 2 (BitVec.ofNat 8 (buffer.length - 3))

def hciCommand (command : HciCommand) (buffer : List BYTE) : Driver NTSTATUS :=
  sendControlRequest (hciPacket command buffer)

def overlay (buffer : List BYTE) (offset : Nat) (data : List BYTE) : List BYTE :=
  buffer.take offset ++ data ++ buffer.drop (offset + data.length)

@[simp] theorem length_overlay {buffer : List BYTE} {offset : Nat} {data : List BYTE}
    (h : offset + data.length ≤ buffer.length) :
    (overlay buffer offset data).length = buffer.length := by
  simp only [overlay, List.length_append, List.length_take, List.length_drop]
  omega

def commandOfPacket (packet : List BYTE) : Option HciCommand :=
  HciCommand.ofBytes (packet.getD 0 0) (packet.getD 1 0)

theorem commandOfPacket_hciPacket (c : HciCommand) {buffer : List BYTE} (h : 3 ≤ buffer.length) :
    commandOfPacket (hciPacket c buffer) = some c := by
  match buffer, h with
  | a :: b :: d :: rest, _ => simp [commandOfPacket, hciPacket]

def bdLink : List BYTE :=
  [0x56, 0xE8, 0x81, 0x38, 0x08, 0x06, 0x51, 0x41, 0xC0, 0x7F, 0x12, 0xAA, 0xD9, 0x66, 0x3C, 0xCE]

-- every builder fills its local array from offset 3 on; bytes past the payload stay unwritten
def hciCommandWith (command : HciCommand) (size : Nat) (payload : List BYTE) : Driver NTSTATUS := do
  let buffer ← localArray size
  hciCommand command (overlay buffer.val 3 payload)

def hciCommandReset : Driver NTSTATUS := hciCommandWith .reset 3 []
def hciCommandAcceptConnectionRequest (bdAddr : BdAddr) (role : BYTE) : Driver NTSTATUS :=
  hciCommandWith .acceptConnectionRequest 10 (bdAddr.address ++ [role])
def hciCommandRejectConnectionRequest (bdAddr : BdAddr) (reason : BYTE) : Driver NTSTATUS :=
  hciCommandWith .rejectConnectionRequest 10 (bdAddr.address ++ [reason])
def hciCommandRemoteNameRequest (bdAddr : BdAddr) : Driver NTSTATUS :=
  hciCommandWith .remoteNameRequest 13 (bdAddr.address ++ [0x01, 0x00, 0x00, 0x00])
def hciCommandWriteScanEnable : Driver NTSTATUS := hciCommandWith .writeScanEnable 4 [0x02]
def hciCommandReadLocalVersionInfo : Driver NTSTATUS := hciCommandWith .readLocalVersionInfo 3 []
def hciCommandReadBdAddr : Driver NTSTATUS := hciCommandWith .readBdAddr 3 []
def hciCommandReadBufferSize : Driver NTSTATUS := hciCommandWith .readBufferSize 3 []
def hciCommandLinkKeyRequestReply (bdAddr : BdAddr) : Driver NTSTATUS :=
  hciCommandWith .linkKeyRequestReply 25 (bdAddr.address ++ bdLink)
def hciCommandLinkKeyRequestNegativeReply (bdAddr : BdAddr) : Driver NTSTATUS :=
  hciCommandWith .linkKeyRequestNegativeReply 9 bdAddr.address
def hciCommandPinCodeRequestNegativeReply (bdAddr : BdAddr) : Driver NTSTATUS :=
  hciCommandWith .linkKeyRequestNegativeReply 16 bdAddr.address
def hciCommandSetConnectionEncryption (handle : BthHandle) : Driver NTSTATUS :=
  hciCommandWith .setConnectionEncryption 6 [handle.lsb, handle.msb ^^^ 0x20, 0x01]
def hciCommandUserConfirmationRequestReply (bdAddr : BdAddr) : Driver NTSTATUS :=
  hciCommandWith .userConfirmationRequestReply 9 bdAddr.address
def hciCommandIoCapabilityRequestReply (bdAddr : BdAddr) : Driver NTSTATUS :=
  hciCommandWith .ioCapabilityRequestReply 12 (bdAddr.address ++ [0x01, 0x00, 0x05])
def hciCommandSetEventMask : Driver NTSTATUS :=
  hciCommandWith .setEventMask 11 [0xFF, 0xFF, 0xFF, 0xFF, 0xFF, 0x5F, 0x25, 0x00]
def hciCommandWriteLocalName : Driver NTSTATUS :=
  hciCommandWith .writeLocalName 251 [0x45, 0x4E, 0x54, 0x52, 0x4F, 0x50, 0x59]
def hciCommandWriteExtendedInquiryResponse : Driver NTSTATUS :=
  hciCommandWith .writeExtendedInquiryResponse 244
    [0x00, 0x08, 0x09, 0x45, 0x4E, 0x54, 0x52, 0x4F, 0x50, 0x59, 0x02, 0x0A]
def hciCommandWriteClassOfDevice : Driver NTSTATUS :=
  hciCommandWith .writeClassOfDevice 6 [0x04, 0x02, 0x3E]
def hciCommandWriteInquiryScanType : Driver NTSTATUS :=
  hciCommandWith .writeInquiryScanType 4 [0x01]
def hciCommandWriteInquiryScanActivity : Driver NTSTATUS :=
  hciCommandWith .writeInquiryScanActivity 7 [0x00, 0x08, 0x12, 0x00]
def hciCommandWritePageScanType : Driver NTSTATUS := hciCommandWith .writePageScanType 4 [0x01]
def hciCommandWritePageScanActivity : Driver NTSTATUS :=
  hciCommandWith .writePageScanActivity 7 [0x00, 0x04, 0x12, 0x00]
def hciCommandWritePageTimeout : Driver NTSTATUS := hciCommandWith .writePageTimeout 5 [0x00, 0x20]
def hciCommandWriteAuthenticationEnable : Driver NTSTATUS :=
  hciCommandWith .writeAuthenticationEnable 4 [0x00]
def hciCommandWriteSimplePairingMode : Driver NTSTATUS :=
  hciCommandWith .writeSimplePairingMode 4 [0x01]
def hciCommandWriteSimplePairingDebugMode : Driver NTSTATUS :=
  hciCommandWith .writeSimplePairingDebugMode 4 [0x00]
def hciCommandWriteInquiryMode : Driver NTSTATUS := hciCommandWith .writeInquiryMode 4 [0x02]
def hciCommandWriteInquiryTransmitPowerLevel : Driver NTSTATUS :=
  hciCommandWith .writeInquiryTransmitPowerLevel 4 [0x00]
def hciCommandInquiry : Driver NTSTATUS :=
  hciCommandWith .inquiry 8 [0x33, 0x8B, 0x9E, 0x18, 0x00]
def hciCommandInquiryCancel : Driver NTSTATUS := hciCommandWith .inquiryCancel 3 []
def hciCommandDeleteStoredLinkKey (bdAddr : BdAddr) : Driver NTSTATUS :=
  hciCommandWith .deleteStoredLinkKey 10 (bdAddr.address ++ [0x00])
def hciCommandDisconnect (handle : BthHandle) : Driver NTSTATUS :=
  hciCommandWith .disconnect 6 [handle.lsb, handle.msb ^^^ 0x20, 0x13]

end WireShock
