import WireShock.Driver.PdoSetup
import WireShock.Semantics.Exec

namespace WireShock
open Interaction

namespace Pdo

structure Init where
  deviceType : Option (BitVec 32)
  forwardsToParent : Bool
  deviceId : Option WideText
  hardwareIds : List WideText
  instanceId : Option WideText
  texts : List (WideText × WideText × BitVec 32)
  defaultLocale : Option (BitVec 32)
deriving DecidableEq

def Init.empty : Init := ⟨none, false, none, [], none, [], none⟩

structure Device where
  init : Init
  pnp : Option PnpCapabilities
  power : Option PowerCapabilities
  defaultQueue : Bool
deriving DecidableEq

-- the framework while a child's device is set up, with what it answers next
structure Setup where
  statuses : Nat → NTSTATUS
  init : Init
  device : Option Device

namespace Setup

def answer (s : Setup) (update : Setup → Setup) : NTSTATUS × Setup :=
  let later := { s with statuses := fun n => s.statuses (n + 1) }
  (s.statuses 0, if ntSuccess (s.statuses 0) then update later else later)

def setInit (f : Init → Init) (s : Setup) : Setup := { s with init := f s.init }

def setDevice (f : Device → Device) (s : Setup) : Setup := { s with device := s.device.map f }

def begin (s : Setup) : Setup := ⟨s.statuses, .empty, none⟩

end Setup

def respond : Semantics setup Setup
  | .initSetDeviceType type, s => ((), s.setInit fun i => { i with deviceType := some type })
  | .initAllowForwardingRequestToParent, s =>
    ((), s.setInit fun i => { i with forwardsToParent := true })
  | .initAssignDeviceID id, s => s.answer (.setInit fun i => { i with deviceId := some id })
  | .initAddHardwareID id, s =>
    s.answer (.setInit fun i => { i with hardwareIds := i.hardwareIds ++ [id] })
  | .initAssignInstanceID id, s => s.answer (.setInit fun i => { i with instanceId := some id })
  | .initAddDeviceText description location locale, s =>
    s.answer (.setInit fun i => { i with texts := i.texts ++ [(description, location, locale)] })
  | .initSetDefaultLocale locale, s =>
    ((), s.setInit fun i => { i with defaultLocale := some locale })
  | .deviceCreate, s => s.answer fun t => { t with device := some ⟨t.init, none, none, false⟩ }
  | .deviceSetPnpCapabilities caps, s => ((), s.setDevice fun d => { d with pnp := some caps })
  | .deviceSetPowerCapabilities caps, s => ((), s.setDevice fun d => { d with power := some caps })
  | .ioQueueCreateDefault, s => s.answer (.setDevice fun d => { d with defaultQueue := true })

def exec {α : Type} (p : Driver α) (s : Setup) (w : World) : α × Setup × World :=
  p.run (respond.sum WireShock.respond) (s, w)

end Pdo

namespace ChildList

def isCreated (list : ChildList) (a : BdAddr) : Bool :=
  list.entries.any fun c => c.address = a && c.created

end ChildList

-- the driver with the devices that its children have; a child that goes missing takes its along
structure Enumerator where
  world : World
  setup : Pdo.Setup
  pdos : BdAddr → Option Pdo.Device

namespace Enumerator

def initial (environment : Environment) (statuses : Nat → NTSTATUS) : Enumerator :=
  ⟨.initial environment, ⟨statuses, .empty, none⟩, fun _ => none⟩

def createDevice (t : Enumerator) (a : BdAddr) : Enumerator :=
  let (status, setup, world) :=
    Pdo.exec (Pdo.wireShockEvtWdfChildListCreateDevice a) t.setup.begin t.world
  if ntSuccess status then
    ⟨world.markCreated a, setup, Function.update t.pdos a setup.device⟩
  else
    ⟨world, setup, t.pdos⟩

def react (t : Enumerator) : Event → Enumerator
  | .createDevice a => t.createDevice a
  | e => { t with world := t.world.react e }

def settle (t : Enumerator) : Enumerator :=
  { t with pdos := fun a => if t.world.children.isCreated a then t.pdos a else none }

def clearLog (t : Enumerator) : Enumerator := { t with world := t.world.clearLog }

def step (t : Enumerator) (e : Event) : Enumerator := (t.clearLog.react e).settle

end Enumerator
end WireShock
