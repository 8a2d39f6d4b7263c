import WireShock.Interaction.Episodes
import WireShock.Semantics.UsbHost

namespace WireShock
open Interaction

namespace Usb

def DeviceHandles.pipe (c : DeviceHandles) : Pipe → Option Handle
  | .interruptPipe => c.interruptPipe
  | .bulkReadPipe => c.bulkReadPipe
  | .bulkWritePipe => c.bulkWritePipe

-- which pipes the scan stores in a field
def PipeInformation.taken (i : PipeInformation) : Pipe → Bool
  | .interruptPipe => i.type = .interrupt
  | .bulkReadPipe => i.type = .bulk && i.direction = .input
  | .bulkWritePipe => i.type = .bulk && i.direction = .output

def DeviceHandles.store (c : DeviceHandles) (p : UsbPipe) : DeviceHandles where
  usbDevice := c.usbDevice
  usbInterface := c.usbInterface
  interruptPipe := if p.information.taken .interruptPipe then some p.handle else c.interruptPipe
  bulkReadPipe := if p.information.taken .bulkReadPipe then some p.handle else c.bulkReadPipe
  bulkWritePipe := if p.information.taken .bulkWritePipe then some p.handle else c.bulkWritePipe

section

variable {first : Handle} {l : List PipeInformation} {p q : UsbPipe}

theorem map_information_numbered (first : Handle) (l : List PipeInformation) :
    (numbered first l).map (·.information) = l := by
  refine List.ext_getElem? fun n => ?_
  simp [numbered, Function.comp_def]

theorem length_numbered : (numbered first l).length = l.length := by
  simp [numbered]

theorem handle_of_mem_numbered (h : p ∈ numbered first l) :
    first ≤ p.handle ∧ p.handle < first + l.length := by
  obtain ⟨n, hn, rfl⟩ := List.mem_mapIdx.mp h
  exact ⟨Nat.le_add_right _ _, Nat.add_lt_add_left hn _⟩

theorem eq_of_handle (hp : p ∈ numbered first l) (hq : q ∈ numbered first l)
    (h : p.handle = q.handle) : p = q := by
  obtain ⟨n, hn, rfl⟩ := List.mem_mapIdx.mp hp
  obtain ⟨m, hm, rfl⟩ := List.mem_mapIdx.mp hq
  obtain rfl : n = m := Nat.add_left_cancel h
  rfl

theorem pipe_foldl_store (l : List UsbPipe) (c : DeviceHandles) (role : Pipe) :
    (l.foldl DeviceHandles.store c).pipe role =
      ((lastMatch (·.information.taken role) l).map (some ·.handle)).getD (c.pipe role) := by
  rw [← foldl_lastMatch]
  refine (List.foldl_hom (fun c : DeviceHandles => c.pipe role) fun c p => ?_).symm
  cases role <;> rfl

end

end Usb

namespace UsbHost

variable {h : UsbHost} {first : Handle} {l : List Usb.PipeInformation} {p : Usb.UsbPipe}

def Succeeding (h : UsbHost) : Prop := ∀ n, ntSuccess (h.environment.frameworkStatus n)

-- g comes from h by calls that store no pipe
structure Kept (h g : UsbHost) : Prop where
  nextHandle : h.nextHandle ≤ g.nextHandle
  pipe : ∀ role, g.context.pipe role = h.context.pipe role
  configuration : g.environment.configuration = h.environment.configuration
  succeeding : h.Succeeding → g.Succeeding

-- g comes from h by a call that has scanned the pipes l, numbered from first on
structure Scanned (h g : UsbHost) (first : Handle) (l : List Usb.PipeInformation) : Prop where
  fresh : h.nextHandle ≤ first
  pipes : g.pipes = Usb.numbered first l
  nextHandle : g.nextHandle = first + l.length
  pipe : ∀ role, g.context.pipe role =
    ((lastMatch (·.information.taken role) g.pipes).map (some ·.handle)).getD (h.context.pipe role)

theorem isEndpoint_numbered (hl : h.pipes = Usb.numbered first l) (hp : p ∈ h.pipes)
    (direction : Usb.Direction) :
    h.isEndpoint (some p.handle) direction = decide (p.information.direction = direction) := by
  rw [Bool.eq_iff_iff]
  simp only [isEndpoint, List.any_eq_true, Bool.and_eq_true, decide_eq_true_eq, Option.some.injEq]
  constructor
  · rintro ⟨q, hq, hpq, hd⟩
    rw [hl] at hp hq
    rwa [Usb.eq_of_handle hp hq hpq]
  · exact fun hd => ⟨p, hp, rfl, hd⟩

theorem isEndpoint_withContext (c : Usb.DeviceHandles) (pipe : Option Handle)
    (direction : Usb.Direction) :
    { h with context := c }.isEndpoint pipe direction = h.isEndpoint pipe direction := rfl

theorem exec_scanPipe (hl : h.pipes = Usb.numbered first l) (interface : Option Handle) {n : Nat}
    (hp : h.pipes[n]? = some p) : Usb.exec (Usb.scanPipe interface n) h =
      ((), { h with context := h.context.store p }) := by
  have hend := isEndpoint_numbered hl (List.mem_of_getElem? hp)
  cases ht : p.information.type <;> cases hd : p.information.direction <;>
    simp [Usb.scanPipe, Usb.bulkAnd, Usb.updateContextIf, Usb.DeviceHandles.store,
      Usb.PipeInformation.taken, isEndpoint_withContext, pipeAt, hp, ht, hd, hend]

theorem exec_scanPipes (hl : h.pipes = Usb.numbered first l) (interface : Option Handle)
    {numberConfiguredPipes : BYTE} (hn : numberConfiguredPipes.toNat = h.pipes.length)
    {index : Nat} (hi : index ≤ h.pipes.length) :
    Usb.exec (Usb.scanPipes interface numberConfiguredPipes index) h =
      ((), { h with context := (h.pipes.drop index).foldl Usb.DeviceHandles.store h.context }) := by
  fun_induction Usb.scanPipes interface numberConfiguredPipes index generalizing h with
  | case1 index hlt ih =>
    rw [hn] at hlt
    have hp : h.pipes[index]? = some h.pipes[index] := List.getElem?_eq_getElem hlt
    rw [Usb.exec_bind, exec_scanPipe hl interface hp, List.drop_eq_getElem_cons hlt]
    exact ih (h := { h with context := h.context.store h.pipes[index] }) hl hn hlt
  | case2 index hge =>
    have he : index = h.pipes.length := by omega
    simp [he]

theorem Kept.trans {f g : UsbHost} (hf : h.Kept f) (hg : f.Kept g) : h.Kept g where
  nextHandle := Nat.le_trans hf.nextHandle hg.nextHandle
  pipe := fun role => (hg.pipe role).trans (hf.pipe role)
  configuration := hg.configuration.trans hf.configuration
  succeeding := fun h => hg.succeeding (hf.succeeding h)

theorem Kept.refl (h : UsbHost) : h.Kept h := ⟨Nat.le_refl _, fun _ => rfl, rfl, id⟩

theorem kept_nextFramework (h : UsbHost) : h.Kept h.nextFramework :=
  ⟨Nat.le_refl _, fun _ => rfl, rfl, fun h n => h (n + 1)⟩

theorem kept_createHandle (h : UsbHost) : h.Kept h.createHandle.2 := by
  unfold createHandle
  split
  · exact ⟨Nat.le_succ _, fun _ => rfl, rfl, fun h n => h (n + 1)⟩
  · exact kept_nextFramework h

theorem kept_selectConfig (h : UsbHost) : h.Kept h.selectConfig.2 := by
  unfold selectConfig
  split
  · exact ⟨Nat.le_add_right _ _, fun _ => rfl, rfl, fun h n => h (n + 1)⟩
  · exact kept_nextFramework h

theorem kept_createUsbDevice (h : UsbHost) : h.Kept (Usb.exec Usb.createUsbDevice h).2 := by
  rw [Usb.createUsbDevice, Usb.exec_bind, Usb.exec_getContext, Usb.exec_ite]
  split
  · exact .refl h
  · rw [Usb.exec_bind, Usb.exec_usbTargetDeviceCreateWithParameters]
    refine (kept_createHandle h).trans ?_
    cases h.createHandle.1 with
    | error status => exact .refl _
    | ok usbDevice => exact ⟨Nat.le_refl _, fun role => by cases role <;> rfl, rfl, id⟩

theorem ntSuccess_createUsbDevice (hs : h.Succeeding) :
    ntSuccess (Usb.exec Usb.createUsbDevice h).1 := by
  have hsuccess : ntSuccess statusSuccess := by decide
  have hstatus : ntSuccess h.status := hs 0
  rw [Usb.createUsbDevice, Usb.exec_bind, Usb.exec_getContext, Usb.exec_ite]
  split
  · exact hsuccess
  · rw [Usb.exec_bind, Usb.exec_usbTargetDeviceCreateWithParameters, createHandle, if_pos hstatus]
    exact hsuccess

theorem exec_configInterruptReader (h : UsbHost) :
    Usb.exec Usb.wireShockConfigContReaderForInterruptEndPoint h =
      (h.status, h.nextFramework) := rfl

theorem exec_startReaders (h : UsbHost) : ∃ environment,
    (Usb.exec Usb.startReaders h).2 = { h with environment := environment } := by
  rw [Usb.startReaders, Usb.exec_bind, Usb.exec_getContext, Usb.exec_ite]
  split
  · exact ⟨_, rfl⟩
  · rw [Usb.exec_bind, exec_configInterruptReader, Usb.exec_ite]
    split <;> exact ⟨_, rfl⟩

theorem pipes_missing_iff (c : Usb.DeviceHandles) :
    c.bulkWritePipe.isNone || c.bulkReadPipe.isNone || c.interruptPipe.isNone ↔
      ∃ role, c.pipe role = none := by
  simp only [Bool.or_eq_true, Option.isNone_iff_eq_none]
  constructor
  · rintro ((h | h) | h)
    · exact ⟨.bulkWritePipe, h⟩
    · exact ⟨.bulkReadPipe, h⟩
    · exact ⟨.interruptPipe, h⟩
  · rintro ⟨role, h⟩
    cases role with
    | interruptPipe => exact Or.inr h
    | bulkReadPipe => exact Or.inl (Or.inr h)
    | bulkWritePipe => exact Or.inl (Or.inl h)

theorem ntSuccess_startReaders (hs : h.Succeeding) :
    ntSuccess (Usb.exec Usb.startReaders h).1 ↔ ∀ role, (h.context.pipe role).isSome := by
  rw [Usb.startReaders, Usb.exec_bind, Usb.exec_getContext, Usb.exec_ite]
  split
  · rename_i hm
    obtain ⟨role, hr⟩ := (pipes_missing_iff h.context).mp hm
    have hfails : ¬ ntSuccess statusInvalidDeviceState := by decide
    exact iff_of_false hfails fun ha => absurd (ha role) (by simp [hr])
  · rename_i hm
    have hstatus : ntSuccess h.status := hs 0
    rw [Usb.exec_bind, exec_configInterruptReader, Usb.exec_ite, if_neg (by simp [hstatus])]
    refine iff_of_true (hs 1) fun role => Option.isSome_iff_ne_none.mpr fun hr => ?_
    exact hm ((pipes_missing_iff h.context).mpr ⟨role, hr⟩)

theorem selectConfig_of_success (hs : ntSuccess h.status) :
    h.selectConfig.2.pipes = Usb.numbered h.nextHandle h.environment.configuration.pipes ∧
      h.selectConfig.2.nextHandle = h.nextHandle + h.environment.configuration.pipes.length := by
  rw [selectConfig, if_pos hs]
  exact ⟨rfl, rfl⟩

theorem ntSuccess_selectConfig : ntSuccess h.selectConfig.1 = ntSuccess h.status := by
  unfold selectConfig
  split <;> rfl

def Prepares (h : UsbHost) (r : NTSTATUS × UsbHost) : Prop :=
  (h.Kept r.2 ∧ ¬ (h.Succeeding ∧ h.environment.configuration.interface.isSome)) ∨
  ∃ first, h.Scanned r.2 first h.environment.configuration.pipes ∧
    (h.Succeeding → (ntSuccess r.1 ↔ ∀ role, (r.2.context.pipe role).isSome))

def readPipes (interface : Option Handle) : Usb.Driver NTSTATUS := do
  let numberConfiguredPipes ← Usb.usbInterfaceGetNumConfiguredPipes interface
  Usb.scanPipes interface numberConfiguredPipes 0
  Usb.startReaders

def takeInterface (usbDevice : Option Handle) : Usb.Driver NTSTATUS := do
  let interface ← Usb.usbTargetDeviceGetInterface usbDevice 0
  Usb.updateContext fun c => { c with usbInterface := interface }
  if interface.isNone then
    return statusUnsuccessful
  readPipes interface

def configure : Usb.Driver NTSTATUS := do
  let context ← Usb.getContext
  let status ← Usb.usbTargetDeviceSelectConfig context.usbDevice
  if !ntSuccess status then
    return status
  takeInterface context.usbDevice

theorem prepareHardware_eq : Usb.wireShockEvtDevicePrepareHardware =
    Usb.createUsbDevice >>= fun status =>
      if !ntSuccess status then pure status else configure := rfl

variable {g : UsbHost}

theorem prepares_readPipes (hg : h.Kept g) (hfirst : h.nextHandle ≤ first)
    (hl : g.pipes = Usb.numbered first h.environment.configuration.pipes)
    (hnext : g.nextHandle = first + h.environment.configuration.pipes.length)
    (interface : Option Handle) : h.Prepares (Usb.exec (readPipes interface) g) := by
  have hlength : (BitVec.ofNat 8 g.pipes.length).toNat = g.pipes.length := by
    rw [hl, Usb.length_numbered, BitVec.toNat_ofNat]
    exact Nat.mod_eq_of_lt h.environment.configuration.size
  rw [readPipes, Usb.exec_bind, Usb.exec_usbInterfaceGetNumConfiguredPipes, Usb.exec_bind,
    exec_scanPipes hl interface hlength (Nat.zero_le _), List.drop_zero]
  have hs := ntSuccess_startReaders
    (h := { g with context := g.pipes.foldl Usb.DeviceHandles.store g.context })
  obtain ⟨environment, he⟩ :=
    exec_startReaders { g with context := g.pipes.foldl Usb.DeviceHandles.store g.context }
  generalize Usb.exec Usb.startReaders _ = r at hs he ⊢
  obtain ⟨status, f⟩ := r
  obtain rfl : f = _ := he
  refine Or.inr ⟨first, ⟨hfirst, hl, hnext, fun role => ?_⟩, fun h => hs (hg.succeeding h)⟩
  rw [← hg.pipe role]
  exact Usb.pipe_foldl_store g.pipes g.context role

theorem prepares_takeInterface (hg : h.Kept g) (hfirst : h.nextHandle ≤ first)
    (hl : g.pipes = Usb.numbered first h.environment.configuration.pipes)
    (hnext : g.nextHandle = first + h.environment.configuration.pipes.length)
    (usbDevice : Option Handle) : h.Prepares (Usb.exec (takeInterface usbDevice) g) := by
  rw [takeInterface, Usb.exec_bind, Usb.exec_usbTargetDeviceGetInterface, Usb.exec_bind,
    Usb.exec_updateContext, Usb.exec_ite]
  have hk : h.Kept { g with
      context := { g.context with usbInterface := g.environment.configuration.interface } } := by
    refine ⟨hg.nextHandle, fun role => ?_, hg.configuration, hg.succeeding⟩
    rw [← hg.pipe role]
    cases role <;> rfl
  split
  · rename_i hi
    refine Or.inl ⟨hk, fun hs => ?_⟩
    have hc : h.environment.configuration.interface.isNone := hg.configuration ▸ hi
    simp [Option.isNone_iff_eq_none.mp hc] at hs
  · exact prepares_readPipes hk hfirst hl hnext g.environment.configuration.interface

theorem prepares_configure (hg : h.Kept g) : h.Prepares (Usb.exec configure g) := by
  rw [configure, Usb.exec_bind, Usb.exec_getContext, Usb.exec_bind,
    Usb.exec_usbTargetDeviceSelectConfig, Usb.exec_ite]
  have hk := hg.trans (kept_selectConfig g)
  by_cases hs : ntSuccess g.status
  · obtain ⟨hl, hnext⟩ := selectConfig_of_success hs
    rw [hg.configuration] at hl hnext
    rw [if_neg (by simp [ntSuccess_selectConfig, hs])]
    exact prepares_takeInterface hk hg.nextHandle hl hnext g.context.usbDevice
  · rw [if_pos (by simp [ntSuccess_selectConfig, hs])]
    exact Or.inl ⟨hk, fun h => hs (hg.succeeding h.1 0)⟩

theorem prepares_prepareHardware (h : UsbHost) :
    h.Prepares (Usb.exec Usb.wireShockEvtDevicePrepareHardware h) := by
  rw [prepareHardware_eq, Usb.exec_bind, Usb.exec_ite]
  split
  · rename_i hfail
    refine Or.inl ⟨kept_createUsbDevice h, fun hs => ?_⟩
    simp [ntSuccess_createUsbDevice hs.1] at hfail
  · exact prepares_configure (kept_createUsbDevice h)

end UsbHost
end WireShock
