import WireShock.Connections.Handles
import WireShock.Requests.Conservation

namespace WireShock
open Interaction

namespace ChildList

def Created (list : ChildList) (a : BdAddr) : Prop :=
  ∃ c ∈ list.entries, c.address = a ∧ c.created = true

-- every created child of the later list was created before, with the queue it has now
def KeepsQueues (list later : ChildList) : Prop :=
  ∀ c ∈ later.entries, c.created = true → ∃ d ∈ list.entries, d.created = true ∧
    d.address = c.address ∧ d.device.hidInputReportQueue = c.device.hidInputReportQueue

section

variable {list later : ChildList} {a : BdAddr} {device : BthDevice}

theorem keepsQueues_refl (list : ChildList) : list.KeepsQueues list :=
  fun c hc hcreated => ⟨c, hc, hcreated, rfl, rfl⟩

theorem KeepsQueues.trans {last : ChildList} (h : list.KeepsQueues later)
    (hl : later.KeepsQueues last) : list.KeepsQueues last := by
  intro c hc hcreated
  obtain ⟨d, hd, hdcreated, hda, hdq⟩ := hl c hc hcreated
  obtain ⟨e, he, hecreated, hea, heq⟩ := h d hd hdcreated
  exact ⟨e, he, hecreated, hea.trans hda, heq.trans hdq⟩

theorem mem_update {c : Child} (h : c ∈ (list.update a device).entries) :
    ∃ d ∈ list.entries, d.address = c.address ∧ d.created = c.created ∧
      c.device = if d.address = a then device else d.device := by
  obtain ⟨d, hd, rfl⟩ := List.mem_map.mp h
  refine ⟨d, hd, ?_⟩
  split <;> exact ⟨rfl, rfl, rfl⟩

theorem mem_markCreated {c : Child} (h : c ∈ (list.markCreated a).entries) :
    ∃ d ∈ list.entries, d.address = c.address ∧ d.device = c.device ∧
      (c.created = d.created ∨ c.address = a) := by
  obtain ⟨d, hd, rfl⟩ := List.mem_map.mp h
  refine ⟨d, hd, ?_⟩
  split
  · rename_i ha
    exact ⟨rfl, rfl, .inr ha⟩
  · exact ⟨rfl, rfl, .inl rfl⟩

theorem mem_add {c : Child} (h : c ∈ (list.add a device).entries) :
    c ∈ list.entries ∨ c.created = false := by
  unfold add at h
  split at h
  · exact .inl h
  · rcases List.mem_append.mp h with h | h
    · exact .inl h
    · exact .inr (List.mem_singleton.mp h ▸ rfl)

theorem device_of_mem {c : Child} (hc : c ∈ list.entries) :
    list.lookup c.address = some c.device := lookup_eq_some.mpr ⟨c, hc, rfl, rfl⟩

theorem keepsQueues_addOrUpdate
    (h : ∀ old, list.lookup a = some old → device.hidInputReportQueue = old.hidInputReportQueue) :
    list.KeepsQueues (list.addOrUpdate a device) := by
  intro c hc hcreated
  unfold addOrUpdate at hc
  split at hc
  · obtain ⟨d, hd, hda, hdcreated, hcd⟩ := mem_update hc
    refine ⟨d, hd, hdcreated.trans hcreated, hda, ?_⟩
    rw [hcd]
    split
    · rename_i ha
      exact (h d.device (ha ▸ device_of_mem hd)).symm
    · rfl
  · rcases mem_add hc with hc | hn
    · exact ⟨c, hc, hcreated, rfl, rfl⟩
    · exact absurd (hn.symm.trans hcreated) Bool.false_ne_true

-- a created child of the later list is the one at a, with this record, or was created before
def Admits (list later : ChildList) (a : BdAddr) (device : BthDevice) : Prop :=
  ∀ c ∈ later.entries, c.created = true → (c.address = a ∧ c.device = device) ∨
    ∃ d ∈ list.entries, d.created = true ∧ d.address = c.address ∧ d.device = c.device

theorem admits_update : list.Admits (list.update a device) a device := by
  intro c hc hcreated
  obtain ⟨d, hd, hda, hdc, hcd⟩ := mem_update hc
  split at hcd
  · rename_i ha
    exact .inl ⟨hda.symm.trans ha, hcd⟩
  · exact .inr ⟨d, hd, hdc.trans hcreated, hda, hcd.symm⟩

theorem admits_markCreated :
    list.Admits ((list.update a device).markCreated a) a device := by
  intro c hc hcreated
  obtain ⟨e, he, hea, hed, hec⟩ := mem_markCreated hc
  obtain ⟨d, hd, hda, hdc, hed'⟩ := mem_update he
  split at hed'
  · rename_i ha
    exact .inl ⟨hea.symm.trans (hda.symm.trans ha), hed.symm.trans hed'⟩
  · rename_i ha
    have hca : c.address ≠ a := fun h => ha (hda.trans (hea.trans h))
    exact .inr ⟨d, hd, hdc.trans ((hec.resolve_right hca).symm.trans hcreated), hda.trans hea,
      hed'.symm.trans hed⟩

theorem keepsQueues_remove (list : ChildList) (a : BdAddr) : list.KeepsQueues (list.remove a) :=
  fun c hc hcreated => ⟨c, List.mem_of_mem_filter hc, hcreated, rfl, rfl⟩

end
end ChildList

structure KeepsQueue (g : BthDevice → Driver BthDevice) : Prop where
  children : ∀ device v, (exec (g device) v).2.children = v.children
  queue : ∀ device v,
    (exec (g device) v).1.hidInputReportQueue = device.hidInputReportQueue

theorem keepsQueue_setHandle {handle : BthHandle} : KeepsQueue (setHandle handle) :=
  ⟨fun _ _ => rfl, fun _ _ => rfl⟩

theorem keepsQueue_setDeviceType {type : DsDeviceType} : KeepsQueue (setDeviceType type) :=
  ⟨fun _ _ => rfl, fun _ _ => rfl⟩

theorem keepsQueue_setRemoteName {name : List BYTE} : KeepsQueue (setRemoteName name) := by
  refine ⟨keeps_setRemoteName.children, fun device v => ?_⟩
  simp [setRemoteName, Assignment.apply]

theorem keepsQueue_initOutputReport : KeepsQueue initOutputReport := by
  refine ⟨keeps_initOutputReport.children, fun device v => ?_⟩
  cases ht : device.deviceType <;> simp [initOutputReport, ht, Assignment.apply]

namespace World

def KeepsQueues (w v : World) : Prop := w.children.KeepsQueues v.children

-- each created child has an input report queue of its own
structure Wired (w : World) : Prop where
  issued : ∀ c ∈ w.children.entries, c.created = true →
    ∃ q, c.device.hidInputReportQueue = some q ∧ q < w.nextHandle
  apart : ∀ c ∈ w.children.entries, ∀ d ∈ w.children.entries, c.created = true →
    d.created = true → c.device.hidInputReportQueue = d.device.hidInputReportQueue →
      c.address = d.address

end World

section

variable {w v : World} {a : BdAddr}

theorem keepsQueues_of_eq (h : v.children = w.children) : w.KeepsQueues v := by
  rw [World.KeepsQueues, h]
  exact ChildList.keepsQueues_refl _

theorem wired_of_keepsQueues (h : w.Wired) (hk : w.KeepsQueues v)
    (hn : w.nextHandle ≤ v.nextHandle) : v.Wired := by
  refine ⟨fun c hc hcreated => ?_, fun c hc d hd hcc hdc hq => ?_⟩
  · obtain ⟨e, he, hecreated, -, heq⟩ := hk c hc hcreated
    obtain ⟨q, hq, hlt⟩ := h.issued e he hecreated
    exact ⟨q, heq ▸ hq, Nat.lt_of_lt_of_le hlt hn⟩
  · obtain ⟨e, he, hecreated, hea, heq⟩ := hk c hc hcc
    obtain ⟨f, hf, hfcreated, hfa, hfq⟩ := hk d hd hdc
    rw [← hea, ← hfa]
    exact h.apart e he f hf hecreated hfcreated (heq.trans (hq.trans hfq.symm))

theorem wired_of_eq (h : w.Wired) (hc : v.children = w.children)
    (hn : v.nextHandle = w.nextHandle) : v.Wired :=
  wired_of_keepsQueues h (keepsQueues_of_eq hc) (Nat.le_of_eq hn.symm)

theorem keepsQueues_modify {g : BthDevice → Driver BthDevice} (hg : KeepsQueue g) :
    w.KeepsQueues (w.modify a g) := by
  cases hl : w.children.lookup a with
  | none =>
    rw [modify_of_none w a hl]
    exact ChildList.keepsQueues_refl _
  | some device =>
    rw [modify_of_some w a hl, World.KeepsQueues, World.addOrUpdate, hg.children]
    refine ChildList.keepsQueues_addOrUpdate fun old ho => ?_
    rw [hg.queue, ← Option.some.inj (hl.symm.trans ho)]

theorem keepsQueues_request : w.KeepsQueues (w.request a) := by
  refine ChildList.keepsQueues_addOrUpdate fun old ho => ?_
  rw [ho]
  rfl

theorem keepsQueues_rename {name : List BYTE} {letter : BYTE} :
    w.KeepsQueues (w.rename a name letter) := by
  have hn : w.KeepsQueues (w.modify a (setRemoteName name)) :=
    keepsQueues_modify keepsQueue_setRemoteName
  rw [World.rename]
  cases deviceTypeOfRemoteName letter with
  | none => exact hn.trans (keepsQueues_modify keepsQueue_initOutputReport)
  | some type =>
    exact (hn.trans (keepsQueues_modify keepsQueue_setDeviceType)).trans
      (keepsQueues_modify keepsQueue_initOutputReport)

theorem keepsQueues_remove : w.KeepsQueues (w.remove a) := by
  unfold World.remove
  cases w.children.lookup a with
  | none => exact ChildList.keepsQueues_refl _
  | some device =>
    rw [World.KeepsQueues, children_cleanup]
    exact ChildList.keepsQueues_remove _ _

theorem keepsQueues_setup {α : Type} {p : Driver α} (hp : p.Uses Call.Setup) :
    w.KeepsQueues (exec p w).2 :=
  setup_exec (I := fun m => w.children.KeepsQueues m.children)
    (fun _ _ hv => hv.trans keepsQueues_remove) hp (ChildList.keepsQueues_refl _)

theorem keepsQueues_of_memory {u : World} (h : v.memory = u.memory) (hu : w.KeepsQueues u) :
    w.KeepsQueues v := by
  rw [World.KeepsQueues, show v.children = u.children from congrArg Memory.children h]
  exact hu

theorem keepsQueues_dispatchEvent {event : HciEvent} {buffer : Buffer} {n : Nat} :
    w.KeepsQueues (exec (dispatchEvent event buffer n) w).2 := by
  cases event with
  | commandComplete => exact keepsQueues_setup setup_hciCommandCompleteEv
  | commandStatus => exact keepsQueues_setup setup_hciCommandStatusEv
  | connectionRequest =>
    exact keepsQueues_of_memory (memory_hciConnectionRequestEv w buffer) keepsQueues_request
  | connectionComplete =>
    have hm := memory_hciConnectionCompleteEv w buffer
    split at hm
    · exact keepsQueues_of_memory hm (keepsQueues_modify keepsQueue_setHandle)
    · exact keepsQueues_of_memory hm (ChildList.keepsQueues_refl _)
  | disconnectionComplete =>
    rw [dispatchEvent, exec_hciDisconnectionCompleteEv]
    split
    · cases w.children.findByHandle ⟨buffer 3, buffer 4 ||| 0x20⟩ with
      | none => exact ChildList.keepsQueues_refl _
      | some entry => exact keepsQueues_remove
    · exact ChildList.keepsQueues_refl _
  | remoteNameRequestComplete =>
    rw [dispatchEvent, exec_hciRemoteNameRequestCompleteEv]
    split
    · exact keepsQueues_rename
    · exact ChildList.keepsQueues_refl _
  | _ => exact ChildList.keepsQueues_refl _

theorem nextHandle_createHandle (w : World) : w.nextHandle ≤ w.createHandle.2.nextHandle := by
  unfold World.createHandle
  split
  · exact Nat.le_succ _
  · exact Nat.le_refl _

theorem nextHandle_remove : (w.remove a).nextHandle = w.nextHandle :=
  World.remove_invariant (I := fun v => v.nextHandle = w.nextHandle) (fun _ _ hv => hv)
    (fun _ _ hv => hv) rfl a

theorem nextHandle_respond (c : Call) (w : World) : w.nextHandle ≤ (respond c w).2.nextHandle := by
  cases c with
  | childListUpdateAsMissing a => exact Nat.le_of_eq nextHandle_remove.symm
  | childListScan =>
    exact World.removeAll_invariant (I := fun v => w.nextHandle ≤ v.nextHandle)
      (fun _ _ hv => Nat.le_trans hv (Nat.le_of_eq nextHandle_remove.symm)) (Nat.le_refl _)
  | ioQueueCreate => exact nextHandle_createHandle w
  | timerCreate => exact nextHandle_createHandle w
  | ioQueueRetrieveNextRequest queue =>
    obtain ⟨queues, hq⟩ := w.retrieveNextRequest_world queue
    exact Nat.le_of_eq (congrArg World.nextHandle hq).symm
  | _ => exact Nat.le_refl _

theorem nextHandle_exec {α : Type} (p : Driver α) : w.nextHandle ≤ (exec p w).2.nextHandle :=
  exec_invariant (I := fun v => w.nextHandle ≤ v.nextHandle)
    (fun c v _ hv => Nat.le_trans hv (nextHandle_respond c v)) (Program.uses_true p)
    (Nat.le_refl _)

theorem createDevice_cases (w : World) (a : BdAddr) :
    (ntSuccess (exec (wireShockEvtWdfChildListCreateDevice a) w).1 = false ∧
      (exec (wireShockEvtWdfChildListCreateDevice a) w).2.children = w.children) ∨
    ∃ (device : BthDevice) (timer : Handle),
      (exec (wireShockEvtWdfChildListCreateDevice a) w).2.children =
          w.children.update a (device.created w.nextHandle timer) ∧
        w.nextHandle < (exec (wireShockEvtWdfChildListCreateDevice a) w).2.nextHandle := by
  cases hl : w.children.lookup a with
  | none =>
    have hn : ntSuccess statusNoSuchDevice = false := by decide
    exact .inl (by simp [wireShockEvtWdfChildListCreateDevice, World.retrieve, hl, hn])
  | some device =>
    by_cases hq : ntSuccess (w.environment.frameworkStatus 0) = true
    · by_cases ht : ntSuccess (w.environment.frameworkStatus 1) = true
      · refine .inr ⟨device, w.nextHandle + 1, ?_⟩
        have hlt : w.nextHandle < w.nextHandle + 1 + 1 := Nat.lt_succ_of_lt (Nat.lt_succ_self _)
        simp [wireShockEvtWdfChildListCreateDevice, World.retrieve, hl, World.createHandle, hq, ht,
          World.nextFramework, World.update, Assignment.apply, BthDevice.created, hlt]
      · refine .inl ?_
        simp [wireShockEvtWdfChildListCreateDevice, World.retrieve, hl, World.createHandle, hq, ht,
          World.nextFramework]
    · refine .inl ?_
      simp [wireShockEvtWdfChildListCreateDevice, World.retrieve, hl, World.createHandle, hq,
        World.nextFramework]

theorem wired_of_admits (device : BthDevice) (h : w.Wired)
    (hv : w.children.Admits v.children a device)
    (hq : device.hidInputReportQueue = some w.nextHandle) (hn : w.nextHandle < v.nextHandle) :
    v.Wired := by
  have hfresh : ∀ c ∈ w.children.entries, c.created = true →
      c.device.hidInputReportQueue ≠ device.hidInputReportQueue := by
    intro c hc hcreated hcq
    obtain ⟨q, hq', hlt⟩ := h.issued c hc hcreated
    rw [hq', hq] at hcq
    exact Nat.ne_of_lt hlt (Option.some.inj hcq)
  refine ⟨fun c hc hcreated => ?_, fun c hc d hd hcc hdc hcd => ?_⟩
  · rcases hv c hc hcreated with ⟨-, hcd⟩ | ⟨e, he, hecreated, -, hed⟩
    · exact ⟨w.nextHandle, hcd ▸ hq, hn⟩
    · obtain ⟨q, heq, hlt⟩ := h.issued e he hecreated
      exact ⟨q, hed ▸ heq, Nat.lt_trans hlt hn⟩
  · rcases hv c hc hcc with ⟨hca, hce⟩ | ⟨e, he, hecreated, hea, hed⟩ <;>
      rcases hv d hd hdc with ⟨hda, hdf⟩ | ⟨f, hf, hfcreated, hfa, hfd⟩
    · exact hca.trans hda.symm
    · rw [hce, ← hfd] at hcd
      exact absurd hcd.symm (hfresh f hf hfcreated)
    · rw [hdf, ← hed] at hcd
      exact absurd hcd (hfresh e he hecreated)
    · rw [← hed, ← hfd] at hcd
      rw [← hea, ← hfa]
      exact h.apart e he f hf hecreated hfcreated hcd

theorem wired_step_createDevice (h : w.Wired) (a : BdAddr) : (w.step (.createDevice a)).Wired := by
  have hn : w.nextHandle ≤ (exec (wireShockEvtWdfChildListCreateDevice a) w.clearLog).2.nextHandle :=
    nextHandle_exec (w := w.clearLog) _
  rw [World.step, World.react]
  dsimp only
  rcases createDevice_cases w.clearLog a with ⟨hs, hc⟩ | ⟨device, timer, hc, hlt⟩
  · rw [hs, if_neg Bool.false_ne_true]
    exact wired_of_keepsQueues h (keepsQueues_of_eq hc) hn
  · split
    · refine wired_of_admits (a := a) (device.created w.nextHandle timer) h ?_ rfl hlt
      rw [World.markCreated, hc]
      exact ChildList.admits_markCreated
    · refine wired_of_admits (a := a) (device.created w.nextHandle timer) h ?_ rfl hlt
      rw [hc]
      exact ChildList.admits_update

theorem keepsQueues_step_acl (w : World) (buffer : Buffer) (n : Nat) :
    w.KeepsQueues (w.step (.acl buffer n)) := by
  rw [step_acl]
  split
  · exact ChildList.keepsQueues_refl _
  · cases hf : w.children.findByHandle (BthHandle.fromBuffer buffer 0) with
    | none => exact ChildList.keepsQueues_refl _
    | some entry =>
      obtain ⟨a, device⟩ := entry
      have hl := (lookup_of_findByHandle hf).1
      have hs : device.SameUpToChannels (exec (dispatchPacket device buffer) w.clearLog).1 :=
        Program.run_result traffic_dispatchPacket w.clearLog
      have hc : (exec (dispatchPacket device buffer) w.clearLog).2.children = w.children :=
        children_exec (Program.ensures_uses traffic_dispatchPacket) w.clearLog
      refine (keepsQueues_of_eq hc).trans (ChildList.keepsQueues_addOrUpdate fun old ho => ?_)
      rw [hc] at ho
      rw [Option.some.inj (ho.symm.trans hl)]
      exact (congrArg BthDevice.hidInputReportQueue hs :)

theorem nextHandle_step (w : World) (e : Event) : w.nextHandle ≤ (w.step e).nextHandle :=
  step_invariant w (I := fun v => w.nextHandle ≤ v.nextHandle)
    (fun _ _ hv => Nat.le_trans hv (nextHandle_exec _))
    (fun _ _ hv => Nat.le_trans hv (nextHandle_exec _)) (fun _ _ hv => hv) (Nat.le_refl _) e

theorem wired_step (e : Event) (h : w.Wired) : (w.step e).Wired := by
  have hn := nextHandle_step w e
  cases e with
  | hci buffer n =>
    refine wired_of_keepsQueues h ?_ hn
    rw [step_hci]
    cases receivedEvent buffer n with
    | none => exact ChildList.keepsQueues_refl _
    | some event => exact keepsQueues_dispatchEvent
  | acl buffer n => exact wired_of_keepsQueues h (keepsQueues_step_acl w buffer n) hn
  | createDevice a => exact wired_step_createDevice h a
  | timer a => exact wired_of_keepsQueues h (keepsQueues_of_eq (children_step_timer w a)) hn
  | d0Entry =>
    exact wired_of_keepsQueues h (keepsQueues_setup (w := w.clearLog)
      setup_wireShockEvtDeviceD0Entry) hn
  | d0Exit =>
    exact wired_of_keepsQueues h (keepsQueues_setup (w := w.clearLog)
      setup_wireShockEvtDeviceD0Exit) hn

end

namespace System

-- a queued request waits where its child's requests waited when it came in
structure Routed (s : System) : Prop where
  wired : s.world.Wired
  home : ∀ q, ∀ r ∈ s.world.queues q, r < s.arrivals ∧ s.inputQueue r = some q

structure Forwarding (a : BdAddr) (queue : Option Handle) (r : Request) (s : System) : Prop where
  routed : s.Routed
  entered : r < s.arrivals
  inputQueue : s.inputQueue r = queue
  queueOf : s.queueOf a = queue

section

variable {s s' : System} {a : BdAddr} {r : Request} {queue : Option Handle}

theorem Forwarding.congr (h : s.Forwarding a queue r)
    (hc : s'.world.children = s.world.children) (hn : s'.world.nextHandle = s.world.nextHandle)
    (ha : s'.arrivals = s.arrivals) (hi : s'.inputQueue = s.inputQueue)
    (hq : ∀ q, ∀ t ∈ s'.world.queues q, t ∈ s.world.queues q ∨ (t = r ∧ queue = some q)) :
    s'.Forwarding a queue r := by
  refine ⟨⟨wired_of_eq h.routed.wired hc hn, fun q t ht => ?_⟩, ha ▸ h.entered,
    hi ▸ h.inputQueue, ?_⟩
  · rw [ha, hi]
    rcases hq q t ht with ht | ⟨rfl, hqueue⟩
    · exact h.routed.home q t ht
    · exact ⟨h.entered, h.inputQueue.trans hqueue⟩
  · have hqueueOf := h.queueOf
    rwa [System.queueOf, ← hc] at hqueueOf

theorem Forwarding.same (h : s.Forwarding a queue r)
    (hc : s'.world.children = s.world.children) (hn : s'.world.nextHandle = s.world.nextHandle)
    (ha : s'.arrivals = s.arrivals) (hi : s'.inputQueue = s.inputQueue)
    (hq : s'.world.queues = s.world.queues) : s'.Forwarding a queue r :=
  h.congr hc hn ha hi fun _ _ ht => .inl (hq ▸ ht)

theorem Forwarding.forward (h : s.Forwarding a queue r) :
    (s.forward r queue).2.Forwarding a queue r := by
  cases queue with
  | none => exact h
  | some q =>
    unfold System.forward
    dsimp only
    split
    · refine h.congr rfl rfl rfl rfl fun q' t ht => ?_
      rcases eq_or_ne q' q with rfl | hne
      · simpa using ht
      · simp only [Function.update_of_ne hne] at ht
        exact .inl ht
    · exact h.same rfl rfl rfl rfl rfl

theorem Forwarding.copyToMemory (h : s.Forwarding a queue r) (t : Request) (data : List BYTE) :
    (s.copyToMemory t data).2.Forwarding a queue r := by
  unfold System.copyToMemory
  split
  · exact h
  · split <;> exact h.same rfl rfl rfl rfl rfl

theorem forwarding_respond {m : Option Request} (c : DsHid.Call)
    (ha : (DsHid.requestMonitor False a queue r).allowed c m) (h : s.Forwarding a queue r) :
    (DsHid.requestMonitor False a queue r).admits c (DsHid.respond c s).1 ∧
      (DsHid.respond c s).2.Forwarding a queue r := by
  cases c with
  | pdoRetrieveAddressDescription b =>
    refine ⟨⟨False.elim, ?_⟩, h.same rfl rfl rfl rfl rfl⟩
    rintro rfl hs
    exact (hidInputReportQueue_describe hs).trans h.queueOf
  | pdoRetrieveIdentificationDescription b => exact ⟨False.elim, h.same rfl rfl rfl rfl rfl⟩
  | requestForwardToIoQueue t q =>
    obtain ⟨⟨rfl, rfl⟩, -⟩ := ha
    exact ⟨trivial, h.forward⟩
  | requestRetrieveOutputMemory t => exact ⟨False.elim, h.same rfl rfl rfl rfl rfl⟩
  | memoryCopyFromBuffer t data => exact ⟨False.elim, h.copyToMemory t data⟩
  | writeReportBuffer t offset data => exact ⟨trivial, h.same rfl rfl rfl rfl rfl⟩
  | requestSetInformation t information => exact ⟨trivial, h.same rfl rfl rfl rfl rfl⟩
  | requestComplete t status => exact ⟨trivial, h.same rfl rfl rfl rfl rfl⟩
  | _ => exact ⟨trivial, h⟩

theorem forwarding_enter (h : s.Routed) (a : BdAddr) (request : HidRequest) (output : List BYTE) :
    (s.enter a request output).Forwarding a (s.queueOf a) s.arrivals := by
  refine ⟨⟨wired_of_eq h.wired rfl rfl, fun q t ht => ?_⟩, Nat.lt_succ_self _,
    Function.update_self .., rfl⟩
  obtain ⟨hlt, hi⟩ := h.home q t ht
  exact ⟨Nat.lt_succ_of_lt hlt, (Function.update_of_ne (Nat.ne_of_lt hlt) ..).trans hi⟩

theorem routed_ioctl (h : s.Routed) (a : BdAddr) (code : DsHid.IoControlCode)
    (request : HidRequest) (output : List BYTE) :
    (s.react (.ioctl a code request output)).Routed := by
  obtain ⟨m, -, hs⟩ := Monitor.run_follows (h := DsHid.respond)
    (I := fun _ (s' : System) => s'.Forwarding a (s.queueOf a) s.arrivals)
    (fun c _ _ ha hv => forwarding_respond c ha hv) (DsHid.follows_handler code)
    (forwarding_enter h a request output)
  exact hs.routed

theorem draws_step (w : World) (e : Event) :
    w.clearLog.Draws (fun _ => True) none (w.step e) :=
  react_of_finishes (I := fun v => w.clearLog.Draws (fun _ => True) none v) (fun _ => trivial)
    (fun hp => draws_exec hp w.clearLog) (fun _ _ hv => hv) e

theorem routed_step (e : SystemEvent) (h : s.Routed) : (s.step e).Routed := by
  cases e with
  | driver e =>
    exact ⟨wired_of_eq (wired_step e h.wired) rfl rfl, fun q r hr =>
      h.home q r ((draws_step s.world e).remaining q r hr)⟩
  | ioctl a code request output =>
    have hc : s.clearLog.Routed := ⟨wired_of_eq h.wired rfl rfl, h.home⟩
    have hr := routed_ioctl hc a code request output
    exact ⟨wired_of_eq hr.wired rfl rfl, hr.home⟩

theorem routed_initial (environment : Environment) (requests : Request → HidRequest) :
    (initial environment requests).Routed where
  wired := ⟨fun _ hc => (nomatch hc), fun _ hc => (nomatch hc)⟩
  home _ _ hr := nomatch hr

theorem routed_runs (environment : Environment) (requests : Request → HidRequest)
    (es : List SystemEvent) : (runs step (initial environment requests) es).Routed :=
  runs_invariant (L := fun _ _ => True) (fun _ e h _ => routed_step e h)
    (routed_initial environment requests) (along_of_forall fun _ _ => trivial)

end
end System
end WireShock
