import WireShock.Semantics.Exec

namespace WireShock
open Interaction

def firstWithHandle (handle : BthHandle) : List Child → Option (BdAddr × BthDevice)
  | [] => none
  | c :: rest =>
    if !c.created then none
    else if c.device.hciConnectionHandle = handle then some (c.address, c.device)
    else firstWithHandle handle rest

def ChildList.findByHandle (list : ChildList) (handle : BthHandle) : Option (BdAddr × BthDevice) :=
  firstWithHandle handle list.entries

section

variable {handle : BthHandle} {list : ChildList} {a : BdAddr} {device : BthDevice}

theorem firstWithHandle_mem {children : List Child}
    (h : firstWithHandle handle children = some (a, device)) :
    ∃ c ∈ children, c.address = a ∧ c.device = device ∧ device.hciConnectionHandle = handle ∧
      c.created = true := by
  induction children with
  | nil => cases h
  | cons c rest ih =>
    unfold firstWithHandle at h
    split at h
    · cases h
    rename_i hcreated
    split at h
    · rename_i hc
      cases h
      exact ⟨c, List.mem_cons_self, rfl, rfl, hc, by simpa using hcreated⟩
    · obtain ⟨d, hd, hrest⟩ := ih h
      exact ⟨d, List.mem_cons_of_mem c hd, hrest⟩

theorem lookup_of_findByHandle (h : list.findByHandle handle = some (a, device)) :
    list.lookup a = some device ∧ device.hciConnectionHandle = handle := by
  obtain ⟨c, hc, ha, hd, hh, -⟩ := firstWithHandle_mem h
  exact ⟨ChildList.lookup_eq_some.mpr ⟨c, hc, ha, hd⟩, hh⟩

theorem firstWithHandle_of_mem {children : List Child} (hcreated : ∀ c ∈ children, c.created = true)
    {c : Child} (hc : c ∈ children) (hh : c.device.hciConnectionHandle = handle) :
    (firstWithHandle handle children).isSome = true := by
  induction children with
  | nil => cases hc
  | cons d rest ih =>
    have hd := hcreated d List.mem_cons_self
    rw [firstWithHandle, hd]
    by_cases hdh : d.device.hciConnectionHandle = handle
    · simp [hdh]
    · rcases List.mem_cons.mp hc with rfl | hc
      · exact absurd hh hdh
      · have hrest := ih (fun e he => hcreated e (List.mem_cons_of_mem d he)) hc
        simpa [hdh] using hrest

theorem findByHandle_of_lookup (hcreated : list.AllCreated) (h : list.lookup a = some device)
    (hh : device.hciConnectionHandle = handle) : (list.findByHandle handle).isSome = true := by
  obtain ⟨c, hc, -, hd⟩ := ChildList.lookup_eq_some.mp h
  exact firstWithHandle_of_mem hcreated hc (hd ▸ hh)

end

section

variable (w : World)

@[simp] theorem exec_wireBusGetPdoAddressDescription (a : BdAddr) :
    exec (wireBusGetPdoAddressDescription a) w = (w.children.lookup a, w) := by
  simp only [wireBusGetPdoAddressDescription, exec_bind, exec_childListRetrieveAddressDescription,
    World.retrieve]
  cases w.children.lookup a <;> rfl

theorem exec_retrieveNextDevice (handle : BthHandle) {children : List Child}
    (hc : ∀ c ∈ children, w.children.lookup c.address = some c.device) :
    exec (retrieveNextDevice handle (children.map fun c => (c.address, c.created))) w =
      (firstWithHandle handle children, w) := by
  induction children with
  | nil => rfl
  | cons c rest ih =>
    have hl := hc c List.mem_cons_self
    have hr := ih fun d hd => hc d (List.mem_cons_of_mem c hd)
    rw [List.map_cons, retrieveNextDevice, firstWithHandle]
    cases hcreated : c.created with
    | false => simp
    | true =>
      by_cases hh : c.device.hciConnectionHandle = handle
      · simp [hl, hh]
      · simp [hl, hh, hr]

@[simp] theorem exec_wireBusGetPdoAddressDescriptionByHandle (handle : BthHandle) :
    exec (wireBusGetPdoAddressDescriptionByHandle handle) w =
      (w.children.findByHandle handle, w) := by
  have hc : ∀ c ∈ w.children.entries, w.children.lookup c.address = some c.device := fun c hc =>
    ChildList.lookup_eq_some.mpr ⟨c, hc, rfl, rfl⟩
  simpa [wireBusGetPdoAddressDescriptionByHandle, ChildList.findByHandle] using
    exec_retrieveNextDevice w handle hc

@[simp] theorem exec_wireBusSetPdoAddressDescription (a : BdAddr) (device : BthDevice) :
    exec (wireBusSetPdoAddressDescription a device) w = (true, w.addOrUpdate a device) := by
  by_cases h : w.children.Present a <;>
    simp [wireBusSetPdoAddressDescription, h] <;> decide

theorem step_acl (buffer : Buffer) (n : Nat) :
    w.step (.acl buffer n) =
      if n = 0 then w.clearLog
      else match w.children.findByHandle (BthHandle.fromBuffer buffer 0) with
        | none => w.clearLog
        | some (a, device) => (exec (dispatchPacket device buffer) w.clearLog).2.addOrUpdate a
            (exec (dispatchPacket device buffer) w.clearLog).1 := by
  have hc : w.clearLog.children = w.children := rfl
  by_cases hn : n = 0
  · simp [World.step, World.react, wireShockEvtUsbBulkReadPipeReadComplete, hn]
  · rw [if_neg hn]
    cases hf : w.children.findByHandle (BthHandle.fromBuffer buffer 0) <;>
      simp [World.step, World.react, wireShockEvtUsbBulkReadPipeReadComplete, hn, hc, hf]

end

abbrev AclPacket := Buffer × Nat

namespace World

def received (w : World) (a : BdAddr) (p : AclPacket) : Option BthDevice :=
  if p.2 = 0 then none
  else (w.children.findByHandle (BthHandle.fromBuffer p.1 0)).bind fun entry =>
    if entry.1 = a then some entry.2 else none

section

variable {w : World} {a : BdAddr} {p : AclPacket} {device : BthDevice}

theorem findByHandle_of_received (h : w.received a p = some device) :
    p.2 ≠ 0 ∧ w.children.findByHandle (BthHandle.fromBuffer p.1 0) = some (a, device) := by
  unfold received at h
  split at h
  · cases h
  · rename_i hn
    obtain ⟨⟨b, d⟩, hf, hb⟩ := Option.bind_eq_some_iff.mp h
    split at hb
    · rename_i hba
      cases hb
      cases hba
      exact ⟨hn, hf⟩
    · cases hb

theorem lookup_of_received (h : w.received a p = some device) :
    w.children.lookup a = some device :=
  (lookup_of_findByHandle (findByHandle_of_received h).2).1

theorem received_of_findByHandle (hn : p.2 ≠ 0)
    (h : w.children.findByHandle (BthHandle.fromBuffer p.1 0) = some (a, device)) :
    w.received a p = some device := by
  simp [received, hn, h]

theorem step_acl_of_received (h : w.received a p = some device) :
    w.step (.acl p.1 p.2) = (exec (dispatchPacket device p.1) w.clearLog).2.addOrUpdate a
      (exec (dispatchPacket device p.1) w.clearLog).1 := by
  obtain ⟨hn, hf⟩ := findByHandle_of_received h
  rw [step_acl, if_neg hn, hf]

theorem step_acl_of_not_received (h : ∀ a, w.received a p = none) :
    w.step (.acl p.1 p.2) = w.clearLog := by
  rw [step_acl]
  split
  · rfl
  · rename_i hn
    cases hf : w.children.findByHandle (BthHandle.fromBuffer p.1 0) with
    | none => rfl
    | some entry => cases (h entry.1).symm.trans (received_of_findByHandle hn hf)

end

end World
end WireShock
