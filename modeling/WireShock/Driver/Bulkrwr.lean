import WireShock.Driver.Ds3
import WireShock.Driver.WireBus

namespace WireShock

def dispatchSignalling (device : BthDevice) (buffer : Buffer) : Driver BthDevice := do
  match L2capSignallingCommandCode.ofCode (buffer 8) with
  | some .connectionRequest =>
    let (_, device) ← ds3ConnectionRequest device buffer
    return device
  | some .configurationRequest =>
    let (_, device) ← ds3ConfigurationRequest device buffer
    return device
  | some .configurationResponse =>
    let (_, device) ← ds3ConfigurationResponse device buffer
    return device
  | some .disconnectionRequest =>
    let _ ← ds3DisconnectionRequest device buffer
    return device
  -- Ds3ConnectionResponse, a reject and a Disconnection Response are only traced
  | _ => return device

def dispatchPacket (device : BthDevice) (buffer : Buffer) : Driver BthDevice := do
  if l2capIsControlChannel buffer then
    dispatchSignalling device buffer
  else if l2capIsHidInputReport buffer then
    match device.deviceType with
    | .ps3Dualshock =>
      let _ ← ds3ProcessHidInputReport device buffer
      return device
    | _ => return device
  else
    return device

def wireShockEvtUsbBulkReadPipeReadComplete (buffer : Buffer) (numBytesTransferred : Nat) :
    Driver Unit := do
  if numBytesTransferred = 0 then
    return
  let clientHandle := BthHandle.fromBuffer buffer 0
  match ← wireBusGetPdoAddressDescriptionByHandle clientHandle with
  | none => return
  | some (clientAddr, device) =>
    let device ← dispatchPacket device buffer
    let _ ← wireBusSetPdoAddressDescription clientAddr device

end WireShock
