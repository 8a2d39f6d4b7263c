import WireShock.Semantics.Footprint
import WireShock.Semantics.Routing

namespace WireShock
open Interaction

def setHandle (handle : BthHandle) (device : BthDevice) : Driver BthDevice :=
  device.assign (.hciConnectionHandle handle)

def setDeviceType (deviceType : DsDeviceType) (device : BthDevice) : Driver BthDevice :=
  device.assign (.deviceType deviceType)

def setRemoteName (buffer : List BYTE) (device : BthDevice) : Driver BthDevice := do
  freeIfPresent device.remoteName
  let name ← exAllocatePoolWithTag buffer.length
  let device ← device.assign (.remoteName (some name))
  rtlCopyMemory name buffer
  return device

namespace World

def modify (w : World) (a : BdAddr) (g : BthDevice → Driver BthDevice) : World :=
  match w.children.lookup a with
  | none => w
  | some device => (exec (g device) w).2.addOrUpdate a (exec (g device) w).1

def request (w : World) (a : BdAddr) : World :=
  w.addOrUpdate a ((w.children.lookup a).getD w.environment.unwritten)

def rename (w : World) (a : BdAddr) (name : List BYTE) (letter : BYTE) : World :=
  let w := w.modify a (setRemoteName name)
  let w := (deviceTypeOfRemoteName letter).elim w fun type => w.modify a (setDeviceType type)
  w.modify a initOutputReport

def free? (w : World) (p : Option Pointer) : World := p.elim w w.free

end World

section

variable (w : World) (a : BdAddr)

@[simp] theorem exec_freeIfPresent (p : Option Pointer) :
    exec (freeIfPresent p) w = ((), w.free? p) := by
  cases p <;> rfl

@[simp] theorem exec_wireShockEvtWdfChildListAddressDescriptionCleanup (device : BthDevice) :
    exec (wireShockEvtWdfChildListAddressDescriptionCleanup device) w = ((), w.cleanup device) := by
  rw [wireShockEvtWdfChildListAddressDescriptionCleanup, exec_bind, exec_freeIfPresent,
    exec_freeIfPresent]
  rfl

theorem modify_of_none {g : BthDevice → Driver BthDevice} (h : w.children.lookup a = none) :
    w.modify a g = w := by
  simp [World.modify, h]

theorem modify_of_some {g : BthDevice → Driver BthDevice} {device : BthDevice}
    (h : w.children.lookup a = some device) :
    w.modify a g = (exec (g device) w).2.addOrUpdate a (exec (g device) w).1 := by
  simp [World.modify, h]

theorem exec_retrieveAndSet (g : BthDevice → Driver BthDevice) {f : BthDevice → Driver Unit}
    (hf : ∀ device v, exec (f device) v =
      ((), (exec (g device) v).2.addOrUpdate a (exec (g device) v).1)) :
    exec (do match ← wireBusGetPdoAddressDescription a with
        | none => return
        | some device => f device : Driver Unit) w = ((), w.modify a g) := by
  cases h : w.children.lookup a with
  | none => simp [modify_of_none w a h, h]
  | some device => simp [modify_of_some w a h, h, hf]

@[simp] theorem exec_wireBusSetChildHandle (handle : BthHandle) :
    exec (wireBusSetChildHandle a handle) w = ((), w.modify a (setHandle handle)) :=
  exec_retrieveAndSet w a (setHandle handle) fun _ _ => by simp [setHandle]

@[simp] theorem exec_wireBusSetChildDeviceType (deviceType : DsDeviceType) :
    exec (wireBusSetChildDeviceType a deviceType) w = ((), w.modify a (setDeviceType deviceType)) :=
  exec_retrieveAndSet w a (setDeviceType deviceType) fun _ _ => by simp [setDeviceType]

@[simp] theorem exec_wireBusSetChildRemoteName (buffer : List BYTE) :
    exec (wireBusSetChildRemoteName a buffer) w = ((), w.modify a (setRemoteName buffer)) :=
  exec_retrieveAndSet w a (setRemoteName buffer) fun _ _ => by simp [setRemoteName]

@[simp] theorem exec_wireBusInitChildOutputReport :
    exec (wireBusInitChildOutputReport a) w = ((), w.modify a initOutputReport) :=
  exec_retrieveAndSet w a initOutputReport fun _ _ => by simp

end

structure Memory where
  children : ChildList
  pool : Pool
  frees : List (Pointer × Bool)
  unwritten : BthDevice

def Output.freed : Output → Option (Pointer × Bool)
  | .free pointer valid => some (pointer, valid)
  | _ => none

def World.memory (w : World) : Memory :=
  ⟨w.children, w.pool, w.log.filterMap Output.freed, w.environment.unwritten⟩

section

variable (w : World)

@[simp] theorem memory_sendControl (packet : List BYTE) :
    (w.sendControl packet).memory = w.memory := by
  simp [World.memory, World.sendControl, Output.freed]

theorem memory_update_congr {v : World} (h : v.memory = w.memory) {a : BdAddr}
    {device : BthDevice} : (v.update a device).memory = (w.update a device).memory :=
  congrArg (fun m : Memory => { m with children := m.children.update a device }) h

theorem memory_createHandle : w.createHandle.2.memory = w.memory := by
  unfold World.createHandle
  split <;> rfl

end

section

variable {w : World} {I : Memory → Prop}

theorem setup_respond (hremove : ∀ v a, I v.memory → I (World.remove v a).memory) {c : Call}
    (hc : c.Setup) (hw : I w.memory) : I (respond c w).2.memory := by
  cases c with
  | childListScan => exact World.removeAll_invariant (I := fun v => I v.memory) hremove hw
  | sendControlRequest packet =>
    rw [respond, memory_sendControl]
    exact hw
  | _ => first | exact hw | exact hc.elim

theorem setup_exec (hremove : ∀ v a, I v.memory → I (World.remove v a).memory) {α : Type}
    {p : Driver α} (hp : p.Uses Call.Setup) (hw : I w.memory) : I (exec p w).2.memory :=
  exec_invariant (I := fun v => I v.memory) (fun _ _ hc hv => setup_respond hremove hc hv) hp hw

end

section

variable (w : World) (buffer : Buffer)

theorem memory_hciConnectionRequestEv :
    (exec (hciConnectionRequestEv buffer) w).2.memory =
      (w.request (BdAddr.fromBuffer buffer 2)).memory := by
  have hs : ∀ c : Prop, [Decidable c] →
      ntSuccess (if c then statusObjectNameExists else statusSuccess) = true := by
    intro c _
    split <;> decide
  cases hl : w.children.lookup (BdAddr.fromBuffer buffer 2) <;>
    by_cases hd : ntSuccess (w.environment.controlStatus 0) <;>
      simp [hciConnectionRequestEv, hciCommandDeleteStoredLinkKey, hciCommandAcceptConnectionRequest,
        World.retrieve, World.request, World.addOrUpdate, hl, hd, hs]

theorem memory_hciConnectionCompleteEv :
    (exec (hciConnectionCompleteEv buffer) w).2.memory =
      if buffer 2 = 0 then
        (w.modify (BdAddr.fromBuffer buffer 5) (setHandle ⟨buffer 3, buffer 4 ||| 0x20⟩)).memory
      else w.memory := by
  by_cases hb : buffer 2 = 0#8 <;>
    simp [hciConnectionCompleteEv, hciCommandRemoteNameRequest, hb]

theorem exec_hciDisconnectionCompleteEv :
    (exec (hciDisconnectionCompleteEv buffer) w).2 =
      if buffer 2 = 0 then
        (w.children.findByHandle ⟨buffer 3, buffer 4 ||| 0x20⟩).elim w fun entry => w.remove entry.1
      else w := by
  by_cases hb : buffer 2 = 0#8
  · cases hf : w.children.findByHandle ⟨buffer 3, buffer 4 ||| 0x20#8⟩ <;>
      simp [hciDisconnectionCompleteEv, hb, hf]
  · simp [hciDisconnectionCompleteEv, hb]

theorem exec_hciRemoteNameRequestCompleteEv (n : Nat) :
    (exec (hciRemoteNameRequestCompleteEv buffer n) w).2 =
      if buffer 2 = 0 then
        w.rename (BdAddr.fromBuffer buffer 3) (buffer.bytes 9 (remoteNameLength buffer n)) (buffer 9)
      else w := by
  by_cases hb : buffer 2 = 0#8
  · cases ht : deviceTypeOfRemoteName (buffer 9) <;>
      simp [hciRemoteNameRequestCompleteEv, setDeviceTypeOfRemoteName, World.rename, hb, ht]
  · simp [hciRemoteNameRequestCompleteEv, hb]

def BthDevice.created (device : BthDevice) (queue timer : Handle) : BthDevice :=
  { device with hidInputReportQueue := some queue, outputReportTimer := some timer }

theorem memory_wireShockEvtWdfChildListCreateDevice (a : BdAddr) :
    (exec (wireShockEvtWdfChildListCreateDevice a) w).2.memory = w.memory ∨
      ∃ device queue timer, w.children.lookup a = some device ∧
        (exec (wireShockEvtWdfChildListCreateDevice a) w).2.memory =
          (w.update a (device.created queue timer)).memory := by
  cases hl : w.children.lookup a with
  | none => simp [wireShockEvtWdfChildListCreateDevice, World.retrieve, hl]
  | some device =>
    cases hq : w.createHandle with
    | mk queue v =>
      cases ht : v.createHandle with
      | mk timer u =>
        have hv : v.memory = w.memory := by
          rw [← memory_createHandle w, hq]
        have hu : u.memory = w.memory := by
          rw [← hv, ← memory_createHandle v, ht]
        cases queue with
        | error status =>
          left
          simpa [wireShockEvtWdfChildListCreateDevice, World.retrieve, hl, hq] using hv
        | ok queue =>
          cases timer with
          | error status =>
            left
            simpa [wireShockEvtWdfChildListCreateDevice, World.retrieve, hl, hq, ht] using hu
          | ok timer =>
            right
            refine ⟨device, queue, timer, rfl, ?_⟩
            rw [← memory_update_congr w hu]
            simp [wireShockEvtWdfChildListCreateDevice, World.retrieve, hl, hq, ht,
              BthDevice.created]
            rfl

end

section

variable {w : World} {a b : BdAddr}

theorem children_cleanup {device : BthDevice} : (w.cleanup device).children = w.children :=
  World.cleanup_invariant (I := fun v => v.children = w.children) (fun _ _ hv => hv) rfl device

theorem lookup_remove_world :
    (w.remove a).children.lookup b = if b = a then none else w.children.lookup b := by
  unfold World.remove
  cases h : w.children.lookup a with
  | none =>
    by_cases hb : b = a
    · simp [hb, h]
    · simp [hb]
  | some device =>
    dsimp only
    rw [children_cleanup, ChildList.lookup_remove]

theorem lookup_foldl_remove (w : World) (addresses : List BdAddr) (b : BdAddr) :
    (addresses.foldl World.remove w).children.lookup b =
      if b ∈ addresses then none else w.children.lookup b := by
  induction addresses generalizing w with
  | nil => rfl
  | cons a rest ih =>
    rw [List.foldl_cons, ih, lookup_remove_world]
    by_cases hb : b = a
    · simp [hb]
    · simp [hb]

theorem lookup_removeAll (w : World) (b : BdAddr) : w.removeAll.children.lookup b = none := by
  rw [World.removeAll, lookup_foldl_remove]
  split
  · rfl
  · rename_i hb
    rw [ChildList.lookup_eq_none]
    intro c hc ha
    exact hb (ha ▸ List.mem_map_of_mem hc)

theorem not_present_removeAll : ¬ w.removeAll.children.Present a := by
  rw [ChildList.Present, lookup_removeAll]
  simp

theorem children_free? {p : Option Pointer} : (w.free? p).children = w.children := by
  cases p <;> rfl

end

section

variable {w : World}

theorem unwritten_remove {a : BdAddr} :
    (w.remove a).environment.unwritten = w.environment.unwritten :=
  World.remove_invariant (I := fun v => v.environment.unwritten = w.environment.unwritten)
    (fun _ _ hv => hv) (fun _ _ hv => hv) rfl a

theorem unwritten_respond (c : Call) (w : World) :
    (respond c w).2.environment.unwritten = w.environment.unwritten := by
  cases c with
  | childListUpdateAsMissing a => exact unwritten_remove
  | childListScan =>
    exact World.removeAll_invariant (I := fun v => v.environment.unwritten = w.environment.unwritten)
      (fun v a hv => unwritten_remove.trans hv) rfl
  | ioQueueCreate => exact congrArg Memory.unwritten (memory_createHandle w)
  | timerCreate => exact congrArg Memory.unwritten (memory_createHandle w)
  | ioQueueRetrieveNextRequest queue =>
    obtain ⟨queues, hq⟩ := w.retrieveNextRequest_world queue
    rw [respond, hq]
  | _ => rfl

theorem unwritten_exec {α : Type} (p : Driver α) :
    (exec p w).2.environment.unwritten = w.environment.unwritten :=
  exec_invariant (I := fun v => v.environment.unwritten = w.environment.unwritten)
    (fun c v _ hv => (unwritten_respond c v).trans hv) (Program.uses_true p) rfl

theorem unwritten_step (e : Event) : (w.step e).environment.unwritten = w.environment.unwritten :=
  step_invariant w (I := fun v => v.environment.unwritten = w.environment.unwritten)
    (fun p _ hv => (unwritten_exec p).trans hv) (fun p _ hv => (unwritten_exec p).trans hv)
    (fun _ _ hv => hv) rfl e

end

end WireShock
