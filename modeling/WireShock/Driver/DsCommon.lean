import WireShock.Driver.WireChild

namespace WireShock.DsHid

inductive DsFeatureType where
  | getHostBdAddr | getDeviceBdAddr | getDeviceType | getConnectionType | getDeviceConfig
deriving DecidableEq, Repr

namespace DsFeatureType

def code : DsFeatureType → BYTE
  | getHostBdAddr => 0xC0
  | getDeviceBdAddr => 0xC2
  | getDeviceType => 0xC3
  | getConnectionType => 0xC4
  | getDeviceConfig => 0xC5

-- what the packed structure holds behind its header: an address, an enumeration, or the mode and
-- the BOOLEAN of a DS_DRIVER_CONFIGURATION
def payloadSize : DsFeatureType → Nat
  | getHostBdAddr => sizeofBdAddr
  | getDeviceBdAddr => sizeofBdAddr
  | getDeviceType => 4
  | getConnectionType => 4
  | getDeviceConfig => 5

def size (feature : DsFeatureType) : Nat := sizeofDsFeatureHeader + feature.payloadSize

end DsFeatureType

def dsFeatureHeader (feature : DsFeatureType) : List BYTE :=
  feature.code :: ulongBytes (BitVec.ofNat 32 feature.size)

def dsFeatureInit (feature : DsFeatureType) : List BYTE :=
  dsFeatureHeader feature ++ List.replicate feature.payloadSize 0

def dsFeatureGetHostBdAddrInit : List BYTE := dsFeatureInit .getHostBdAddr
def dsFeatureGetDeviceBdAddrInit : List BYTE := dsFeatureInit .getDeviceBdAddr
def dsFeatureGetDeviceTypeInit : List BYTE := dsFeatureInit .getDeviceType
def dsFeatureGetConnectionTypeInit : List BYTE := dsFeatureInit .getConnectionType
def dsFeatureGetDeviceConfigInit : List BYTE := dsFeatureInit .getDeviceConfig

def DsFeatureType.init : DsFeatureType → List BYTE
  | getHostBdAddr => dsFeatureGetHostBdAddrInit
  | getDeviceBdAddr => dsFeatureGetDeviceBdAddrInit
  | getDeviceType => dsFeatureGetDeviceTypeInit
  | getConnectionType => dsFeatureGetConnectionTypeInit
  | getDeviceConfig => dsFeatureGetDeviceConfigInit

theorem DsFeatureType.init_eq (feature : DsFeatureType) : feature.init = dsFeatureInit feature := by
  cases feature <;> rfl

end WireShock.DsHid
