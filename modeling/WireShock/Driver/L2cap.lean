import WireShock.Driver.Framework

namespace WireShock

inductive L2capSignallingCommandCode where
  | commandReject | connectionRequest | connectionResponse | configurationRequest
  | configurationResponse | disconnectionRequest | disconnectionResponse | echoRequest
  | echoResponse | informationRequest | informationResponse
deriving DecidableEq, Repr

namespace L2capSignallingCommandCode

def code : L2capSignallingCommandCode → BYTE
  | commandReject => 0x01
  | connectionRequest => 0x02
  | connectionResponse => 0x03
  | configurationRequest => 0x04
  | configurationResponse => 0x05
  | disconnectionRequest => 0x06
  | disconnectionResponse => 0x07
  | echoRequest => 0x08
  | echoResponse => 0x09
  | informationRequest => 0x0A
  | informationResponse => 0x0B

def all : List L2capSignallingCommandCode :=
  [commandReject, connectionRequest, connectionResponse, configurationRequest,
   configurationResponse, disconnectionRequest, disconnectionResponse, echoRequest, echoResponse,
   informationRequest, informationResponse]

def ofCode (value : BYTE) : Option L2capSignallingCommandCode := all.find? fun c => c.code = value

@[simp] theorem ofCode_code (c : L2capSignallingCommandCode) : ofCode c.code = some c := by
  cases c <;> decide

end L2capSignallingCommandCode

inductive L2capPsm where
  | hidCommand | hidInterrupt
deriving DecidableEq, Repr

def L2capPsm.ofUshort (value : USHORT) : Option L2capPsm :=
  if value = 0x11 then some .hidCommand else if value = 0x13 then some .hidInterrupt else none

inductive L2capConnectionResponseResult where
  | successful | pending | refusedPsmNotSupported | refusedSecurityBlock | refusedNoResources
deriving DecidableEq, Repr

def L2capConnectionResponseResult.code : L2capConnectionResponseResult → BYTE
  | successful => 0x00
  | pending => 0x01
  | refusedPsmNotSupported => 0x02
  | refusedSecurityBlock => 0x03
  | refusedNoResources => 0x04

def ushortAt (buffer : Buffer) (offset : Nat) : USHORT := buffer (offset + 1) ++ buffer offset

structure SignallingHeader where
  code : BYTE
  identifier : BYTE
  length : USHORT

def SignallingHeader.read (data : Buffer) : SignallingHeader := ⟨data 0, data 1, ushortAt data 2⟩

structure SignallingConnectionRequest where
  identifier : BYTE
  psm : USHORT
  scid : L2capCid

def SignallingConnectionRequest.read (data : Buffer) : SignallingConnectionRequest :=
  ⟨data 1, ushortAt data 4, BthHandle.fromBuffer data 6⟩

structure SignallingConnectionResponse where
  identifier : BYTE
  dcid : L2capCid
  scid : L2capCid
  result : USHORT

def SignallingConnectionResponse.read (data : Buffer) : SignallingConnectionResponse :=
  ⟨data 1, BthHandle.fromBuffer data 4, BthHandle.fromBuffer data 6, ushortAt data 8⟩

structure SignallingConfigurationRequest where
  identifier : BYTE
  dcid : L2capCid

def SignallingConfigurationRequest.read (data : Buffer) : SignallingConfigurationRequest :=
  ⟨data 1, BthHandle.fromBuffer data 4⟩

structure SignallingConfigurationResponse where
  scid : L2capCid
  result : USHORT

def SignallingConfigurationResponse.read (data : Buffer) : SignallingConfigurationResponse :=
  ⟨BthHandle.fromBuffer data 4, ushortAt data 8⟩

structure SignallingDisconnectionRequest where
  identifier : BYTE
  dcid : L2capCid
  scid : L2capCid

def SignallingDisconnectionRequest.read (data : Buffer) : SignallingDisconnectionRequest :=
  ⟨data 1, BthHandle.fromBuffer data 4, BthHandle.fromBuffer data 6⟩

structure SignallingDisconnectionResponse where
  identifier : BYTE
  dcid : L2capCid
  scid : L2capCid

def SignallingDisconnectionResponse.read (data : Buffer) : SignallingDisconnectionResponse :=
  ⟨data 1, BthHandle.fromBuffer data 4, BthHandle.fromBuffer data 6⟩

def l2capIsControlChannel (buffer : Buffer) : Bool := buffer 6 = 0x01 && buffer 7 = 0x00

def l2capIsHidInputReport (buffer : Buffer) : Bool := buffer 8 = 0xA1 && buffer 9 = 0x01

def l2capGetNewCid : Driver L2capCid := do
  let globalCid ← getGlobalCid
  let globalCid := if 0xFFFF ≤ globalCid then 0x40 else globalCid
  let cid : L2capCid := ⟨globalCid.truncate 8, (globalCid >>> 8).truncate 8⟩
  setGlobalCid (globalCid + 1)
  return cid

def l2capSetConnectionType (device : BthDevice) (type : Option L2capPsm) (sourceChannelId : L2capCid)
    (destinationChannelId : L2capCid) : Driver (BthDevice × L2capCid) := do
  match type with
  | some .hidCommand =>
    let destinationChannelId ← l2capGetNewCid
    let device ← device.assign (.l2capCommandHandleSource sourceChannelId)
    let device ← device.assign (.l2capCommandHandleDestination destinationChannelId)
    return (device, destinationChannelId)
  | some .hidInterrupt =>
    let destinationChannelId ← l2capGetNewCid
    let device ← device.assign (.l2capInterruptHandleSource sourceChannelId)
    let device ← device.assign (.l2capInterruptHandleDestination destinationChannelId)
    return (device, destinationChannelId)
  | none => return (device, destinationChannelId)

def l2capDeviceGetScid (device : BthDevice) (destinationChannelId sourceChannelId : L2capCid) :
    L2capCid :=
  let sourceChannelId := if device.l2capCommandHandle.destination = destinationChannelId then
    device.l2capCommandHandle.source else sourceChannelId
  if device.l2capInterruptHandle.destination = destinationChannelId then
    device.l2capInterruptHandle.source else sourceChannelId

def BthDevice.channel (device : BthDevice) : L2capPsm → BthHandlePair
  | .hidCommand => device.l2capCommandHandle
  | .hidInterrupt => device.l2capInterruptHandle

def l2capDeviceGetScidForType (device : BthDevice) (type : L2capPsm) : L2capCid :=
  (device.channel type).source

def l2capDeviceGetDcidForType (device : BthDevice) (type : L2capPsm) : L2capCid :=
  (device.channel type).destination

def byteOf (n : Nat) : BYTE := BitVec.ofNat 8 n

def l2capFrame (handle : BthHandle) (buffer : List BYTE) : List BYTE :=
  [handle.lsb, handle.msb ||| 0x20, byteOf (buffer.length + 4), byteOf ((buffer.length + 4) / 256),
   byteOf buffer.length, byteOf (buffer.length / 256), 0x01, 0x00] ++ buffer

def l2capCommand (handle : BthHandle) (buffer : List BYTE) : Driver NTSTATUS :=
  writeBulkPipe (l2capFrame handle buffer)

def l2capConnectionRequest (id : BYTE) (destinationChannelId : L2capCid)
    (protocolServiceMultiplexer : USHORT) : List BYTE :=
  [L2capSignallingCommandCode.connectionRequest.code, id, 0x04, 0x00,
   (protocolServiceMultiplexer &&& 0xFF).truncate 8,
   (protocolServiceMultiplexer >>> 8).truncate 8, destinationChannelId.lsb,
   destinationChannelId.msb]

def l2capCommandConnectionRequest (handle : BthHandle) (id : BYTE) (destinationChannelId : L2capCid)
    (protocolServiceMultiplexer : USHORT) : Driver NTSTATUS :=
  l2capCommand handle (l2capConnectionRequest id destinationChannelId protocolServiceMultiplexer)

def l2capConnectionResponse (id : BYTE) (destinationChannelId sourceChannelId : L2capCid)
    (result : L2capConnectionResponseResult) : List BYTE :=
  [L2capSignallingCommandCode.connectionResponse.code, id, 0x08, 0x00, sourceChannelId.lsb,
   sourceChannelId.msb, destinationChannelId.lsb, destinationChannelId.msb, result.code, 0x00, 0x00,
   0x00]

def l2capCommandConnectionResponse (handle : BthHandle) (id : BYTE)
    (destinationChannelId sourceChannelId : L2capCid) (result : L2capConnectionResponseResult) :
    Driver NTSTATUS :=
  l2capCommand handle (l2capConnectionResponse id destinationChannelId sourceChannelId result)

def l2capConfigurationRequest (id : BYTE) (destinationChannelId : L2capCid) (setMtu : Bool) :
    List BYTE :=
  [L2capSignallingCommandCode.configurationRequest.code, id, if setMtu then 0x08 else 0x04, 0x00,
   destinationChannelId.lsb, destinationChannelId.msb, 0x00, 0x00] ++
    if setMtu then [0x01, 0x02, 0xFF, 0xFF] else []

def l2capCommandConfigurationRequest (handle : BthHandle) (id : BYTE)
    (destinationChannelId : L2capCid) (setMtu : Bool) : Driver NTSTATUS :=
  l2capCommand handle (l2capConfigurationRequest id destinationChannelId setMtu)

def l2capConfigurationResponse (id : BYTE) (sourceChannelId : L2capCid) : List BYTE :=
  [L2capSignallingCommandCode.configurationResponse.code, id, 0x06, 0x00, sourceChannelId.lsb,
   sourceChannelId.msb, 0x00, 0x00, 0x00, 0x00, 0x01, 0x02, 0xA0, 0x02]

def l2capCommandConfigurationResponse (handle : BthHandle) (id : BYTE) (sourceChannelId : L2capCid) :
    Driver NTSTATUS :=
  l2capCommand handle (l2capConfigurationResponse id sourceChannelId)

def l2capDisconnectionRequest (id : BYTE) (destinationChannelId sourceChannelId : L2capCid) :
    List BYTE :=
  [L2capSignallingCommandCode.disconnectionRequest.code, id, 0x04, 0x00, destinationChannelId.lsb,
   destinationChannelId.msb, sourceChannelId.lsb, sourceChannelId.msb]

def l2capCommandDisconnectionRequest (handle : BthHandle) (id : BYTE)
    (destinationChannelId sourceChannelId : L2capCid) : Driver NTSTATUS :=
  l2capCommand handle (l2capDisconnectionRequest id destinationChannelId sourceChannelId)

def l2capDisconnectionResponse (id : BYTE) (destinationChannelId sourceChannelId : L2capCid) :
    List BYTE :=
  [L2capSignallingCommandCode.disconnectionResponse.code, id, 0x04, 0x00, destinationChannelId.lsb,
   destinationChannelId.msb, sourceChannelId.lsb, sourceChannelId.msb]

def l2capCommandDisconnectionResponse (handle : BthHandle) (id : BYTE)
    (destinationChannelId sourceChannelId : L2capCid) : Driver NTSTATUS :=
  l2capCommand handle (l2capDisconnectionResponse id destinationChannelId sourceChannelId)

def hidFrame (handle : BthHandle) (channel : L2capCid) (buffer : List BYTE) : List BYTE :=
  [handle.lsb, handle.msb, byteOf ((buffer.length + 4) % 256), byteOf ((buffer.length + 4) / 256),
   byteOf (buffer.length % 256), byteOf (buffer.length / 256), channel.lsb, channel.msb] ++ buffer

def hidCommand (handle : BthHandle) (channel : L2capCid) (data : List BYTE) : Driver NTSTATUS := do
  let buffer ← exAllocatePoolWithTag (data.length + 8)
  rtlCopyMemory buffer (hidFrame handle channel data)
  let status ← writeBulkPipe (hidFrame handle channel data)
  exFreePoolWithTag buffer
  return status

end WireShock
