import WireShock.Semantics.Bus

namespace WireShock
open Interaction

inductive LinkEvent where
  | requested (address : BdAddr)
  | opened (address : BdAddr) (handle : BthHandle)
  | closed (handle : BthHandle)
deriving DecidableEq

def hciLinkEvent (buffer : Buffer) : HciEvent → Option LinkEvent
  | .connectionRequest => some (.requested (BdAddr.fromBuffer buffer 2))
  | .connectionComplete =>
    if buffer 2 = 0 then some (.opened (BdAddr.fromBuffer buffer 5) ⟨buffer 3, buffer 4⟩) else none
  | .disconnectionComplete => if buffer 2 = 0 then some (.closed ⟨buffer 3, buffer 4⟩) else none
  | _ => none

def Event.linkEvent : Event → Option LinkEvent
  | .hci buffer n => (receivedEvent buffer n).bind (hciLinkEvent buffer)
  | _ => none

def BthHandle.flagged (handle : BthHandle) : BthHandle := ⟨handle.lsb, handle.msb ||| 0x20⟩

def BthHandle.unset : BthHandle := ⟨0x00, 0x00⟩

def World.handle (w : World) (a : BdAddr) : Option BthHandle :=
  (w.children.lookup a).map BthDevice.hciConnectionHandle

def World.unwrittenHandle (w : World) : BthHandle := w.environment.unwritten.hciConnectionHandle

section

variable {w v : World} {a b : BdAddr}

theorem handle_of_lookup {device : BthDevice} (h : w.children.lookup a = some device) :
    w.handle a = some device.hciConnectionHandle := by
  simp [World.handle, h]

theorem handle_congr (h : v.children = w.children) : v.handle a = w.handle a := by
  rw [World.handle, h]
  rfl

theorem handle_of_memory (h : v.memory = w.memory) : v.handle a = w.handle a :=
  handle_congr (congrArg Memory.children h)

@[simp] theorem handle_addOrUpdate {device : BthDevice} :
    (w.addOrUpdate a device).handle b =
      if b = a then some device.hciConnectionHandle else w.handle b := by
  rw [World.handle, World.addOrUpdate, ChildList.lookup_addOrUpdate]
  split <;> rfl

structure Keeps (g : BthDevice → Driver BthDevice) : Prop where
  children : ∀ device v, (exec (g device) v).2.children = v.children
  handle : ∀ device v, (exec (g device) v).1.hciConnectionHandle = device.hciConnectionHandle

theorem keeps_setDeviceType {type : DsDeviceType} : Keeps (setDeviceType type) :=
  ⟨fun _ _ => rfl, fun _ _ => rfl⟩

theorem keeps_setRemoteName {name : List BYTE} : Keeps (setRemoteName name) := by
  constructor
  · intro device v
    simpa [setRemoteName, World.copy, World.allocate] using children_free?
  · intro device v
    simp [setRemoteName, Assignment.apply]

theorem keeps_initOutputReport : Keeps initOutputReport := by
  constructor
  · intro device v
    cases ht : device.deviceType <;>
      simpa [initOutputReport, ht, World.copy, World.allocate] using children_free?
  · intro device v
    cases ht : device.deviceType <;> simp [initOutputReport, ht, Assignment.apply]

theorem handle_modify {g : BthDevice → Driver BthDevice} (hg : Keeps g) :
    (w.modify a g).handle b = w.handle b := by
  cases h : w.children.lookup a with
  | none => rw [modify_of_none w a h]
  | some device =>
    rw [modify_of_some w a h, handle_addOrUpdate, hg.handle]
    split
    · rename_i hb
      rw [hb, handle_of_lookup h]
    · exact handle_congr (hg.children device w)

theorem handle_modify_setHandle {handle : BthHandle} :
    (w.modify a (setHandle handle)).handle b =
      if b = a then (w.handle a).map fun _ => handle else w.handle b := by
  cases h : w.children.lookup a with
  | none =>
    rw [modify_of_none w a h]
    by_cases hb : b = a
    · simp [hb, World.handle, h]
    · simp [hb]
  | some device =>
    rw [modify_of_some w a h, handle_addOrUpdate, handle_of_lookup h]
    rfl

theorem handle_rename {name : List BYTE} {letter : BYTE} :
    (w.rename a name letter).handle b = w.handle b := by
  rw [World.rename, handle_modify keeps_initOutputReport]
  cases deviceTypeOfRemoteName letter with
  | none => exact handle_modify keeps_setRemoteName
  | some type => exact (handle_modify keeps_setDeviceType).trans (handle_modify keeps_setRemoteName)

end

section

variable (w : World)

theorem step_timer (a : BdAddr) :
    w.step (.timer a) =
      match w.children.lookup a with
      | none => w.clearLog
      | some device =>
        if device.deviceType = .ps3Dualshock then
          (exec (hidCommand device.hciConnectionHandle (l2capDeviceGetScidForType device .hidCommand)
            ((device.outputReportBuffer.elim [] w.pool.bytes ++
              List.replicate ds3HidOutputReportSize 0).take ds3HidOutputReportSize)) w.clearLog).2
        else w.clearLog := by
  have hc : w.clearLog.children = w.children := rfl
  have hp : w.clearLog.pool = w.pool := rfl
  cases hl : w.children.lookup a with
  | none =>
    simp [World.step, World.react, wireChildOutputReportEvtTimerFunc, World.retrieve, hc, hl]
  | some device =>
    cases ht : device.deviceType <;>
      simp [World.step, World.react, wireChildOutputReportEvtTimerFunc, World.retrieve, hc, hl, ht,
        hp]

theorem children_step_timer (a : BdAddr) : (w.step (.timer a)).children = w.children := by
  rw [step_timer]
  split
  · rfl
  · split
    · exact children_exec (traffic_of_transmit (transmit_of_signal signal_hidCommand)) w.clearLog
    · rfl

theorem handle_step_createDevice (a b : BdAddr) :
    (w.step (.createDevice a)).handle b = w.handle b := by
  have hm : (exec (wireShockEvtWdfChildListCreateDevice a) w.clearLog).2.handle b = w.handle b := by
    rcases memory_wireShockEvtWdfChildListCreateDevice w.clearLog a with h | ⟨d, q, t, hd, h⟩
    · exact (handle_of_memory h).trans rfl
    · rw [handle_of_memory h]
      have hl : w.children.lookup a = some d := hd
      by_cases hb : b = a <;>
        simp [World.handle, World.update, ChildList.lookup_update, hb, hl, BthDevice.created,
          World.clearLog]
  refine step_createDevice_invariant w (I := fun v => v.handle b = w.handle b) (fun v hv => ?_) hm
  rw [← hv, World.handle, World.markCreated, ChildList.lookup_markCreated]
  rfl

theorem handle_step_acl (buffer : Buffer) (n : Nat) (b : BdAddr) :
    (w.step (.acl buffer n)).handle b = w.handle b := by
  rw [step_acl]
  split
  · rfl
  · cases hf : w.children.findByHandle (BthHandle.fromBuffer buffer 0) with
    | none => rfl
    | some entry =>
      obtain ⟨a, device⟩ := entry
      have hd : device.SameUpToChannels (exec (dispatchPacket device buffer) w.clearLog).1 :=
        Program.run_result traffic_dispatchPacket w.clearLog
      rw [handle_addOrUpdate, hd.handle]
      split
      · rename_i hb
        rw [hb, handle_of_lookup (lookup_of_findByHandle hf).1]
      · exact handle_congr (children_exec (Program.ensures_uses traffic_dispatchPacket) w.clearLog)

def World.Shrinks (w v : World) : Prop :=
  ∀ b handle, v.handle b = some handle → w.handle b = some handle

theorem shrinks_of_eq {w v : World} (h : ∀ b, v.handle b = w.handle b) : w.Shrinks v :=
  fun b _ hb => (h b).symm.trans hb

theorem shrinks_exec_setup {α : Type} {p : Driver α} (hp : p.Uses Call.Setup) :
    w.Shrinks (exec p w.clearLog).2 := by
  have hremove : ∀ (v : World) (a : BdAddr),
      (∀ b handle, (v.memory.children.lookup b).map BthDevice.hciConnectionHandle = some handle →
        w.handle b = some handle) →
      ∀ b handle, ((v.remove a).memory.children.lookup b).map BthDevice.hciConnectionHandle =
        some handle → w.handle b = some handle := by
    intro v a hv b handle hb
    refine hv b handle ?_
    rw [show (v.remove a).memory.children = (v.remove a).children from rfl,
      lookup_remove_world] at hb
    split at hb
    · cases hb
    · exact hb
  exact setup_exec (I := fun m => ∀ b handle, (m.children.lookup b).map
    BthDevice.hciConnectionHandle = some handle → w.handle b = some handle) hremove hp
    (fun _ _ h => h)

theorem shrinks_step_of_none {e : Event} (h : e.linkEvent = none) : w.Shrinks (w.step e) := by
  have hrefl : w.Shrinks w.clearLog := fun _ _ h => h
  cases e with
  | hci buffer n =>
    rw [step_hci]
    cases he : receivedEvent buffer n with
    | none => exact hrefl
    | some event =>
      have hl : hciLinkEvent buffer event = none := by simpa [Event.linkEvent, he] using h
      dsimp only [Option.elim]
      cases event with
      | commandComplete => exact shrinks_exec_setup w setup_hciCommandCompleteEv
      | commandStatus => exact shrinks_exec_setup w setup_hciCommandStatusEv
      | connectionRequest => cases hl
      | connectionComplete =>
        have hb : buffer 2 ≠ 0 := fun hb => by simp [hciLinkEvent, hb] at hl
        refine shrinks_of_eq fun b => ?_
        rw [dispatchEvent, handle_of_memory ((memory_hciConnectionCompleteEv w.clearLog buffer).trans
          (if_neg hb))]
        rfl
      | disconnectionComplete =>
        have hb : buffer 2 ≠ 0 := fun hb => by simp [hciLinkEvent, hb] at hl
        rw [dispatchEvent, exec_hciDisconnectionCompleteEv, if_neg hb]
        exact hrefl
      | remoteNameRequestComplete =>
        refine shrinks_of_eq fun b => ?_
        rw [dispatchEvent, exec_hciRemoteNameRequestCompleteEv]
        split
        · exact handle_rename
        · rfl
      | _ => exact hrefl
  | acl buffer n => exact shrinks_of_eq (handle_step_acl w buffer n)
  | createDevice a => exact shrinks_of_eq (handle_step_createDevice w a)
  | timer a => exact shrinks_of_eq fun _ => handle_congr (children_step_timer w a)
  | d0Entry => exact shrinks_exec_setup w setup_wireShockEvtDeviceD0Entry
  | d0Exit => exact shrinks_exec_setup w setup_wireShockEvtDeviceD0Exit

end

section

variable {buffer : Buffer} {event : HciEvent} {a : BdAddr} {handle : BthHandle}

theorem requested_of_hciLinkEvent (h : hciLinkEvent buffer event = some (.requested a)) :
    event = .connectionRequest ∧ a = BdAddr.fromBuffer buffer 2 := by
  cases event <;> simp [hciLinkEvent] at h ⊢
  exact h.symm

theorem opened_of_hciLinkEvent (h : hciLinkEvent buffer event = some (.opened a handle)) :
    event = .connectionComplete ∧ buffer 2 = 0 ∧ a = BdAddr.fromBuffer buffer 5 ∧
      handle = ⟨buffer 3, buffer 4⟩ := by
  cases event <;> simp [hciLinkEvent] at h ⊢
  exact ⟨h.1, h.2.1.symm, h.2.2.symm⟩

theorem closed_of_hciLinkEvent (h : hciLinkEvent buffer event = some (.closed handle)) :
    event = .disconnectionComplete ∧ buffer 2 = 0 ∧ handle = ⟨buffer 3, buffer 4⟩ := by
  cases event <;> simp [hciLinkEvent] at h ⊢
  exact ⟨h.1, h.2.symm⟩

end

section

variable (w : World)

theorem step_of_linkEvent {e : Event} {link : LinkEvent} (h : e.linkEvent = some link) :
    ∃ buffer n event, hciLinkEvent buffer event = some link ∧
      w.step e = (exec (dispatchEvent event buffer n) w.clearLog).2 := by
  cases e with
  | hci buffer n =>
    obtain ⟨event, he, hl⟩ := Option.bind_eq_some_iff.mp h
    refine ⟨buffer, n, event, hl, ?_⟩
    rw [step_hci, he]
    rfl
  | _ => cases h

theorem handle_step_requested {e : Event} {a : BdAddr} (h : e.linkEvent = some (.requested a))
    (b : BdAddr) : (w.step e).handle b =
      if b = a then some ((w.handle a).getD w.unwrittenHandle) else w.handle b := by
  obtain ⟨buffer, n, event, hl, hs⟩ := step_of_linkEvent w h
  obtain ⟨rfl, rfl⟩ := requested_of_hciLinkEvent hl
  rw [hs, dispatchEvent, handle_of_memory (memory_hciConnectionRequestEv w.clearLog buffer),
    World.request, handle_addOrUpdate]
  split
  · rw [World.handle]
    cases hd : w.children.lookup (BdAddr.fromBuffer buffer 2) <;>
      simp [World.clearLog, hd, World.unwrittenHandle]
  · rfl

theorem handle_step_opened {e : Event} {a : BdAddr} {handle : BthHandle}
    (h : e.linkEvent = some (.opened a handle)) (b : BdAddr) : (w.step e).handle b =
      if b = a then (w.handle a).map fun _ => handle.flagged else w.handle b := by
  obtain ⟨buffer, n, event, hl, hs⟩ := step_of_linkEvent w h
  obtain ⟨rfl, hb, rfl, rfl⟩ := opened_of_hciLinkEvent hl
  rw [hs, dispatchEvent, handle_of_memory ((memory_hciConnectionCompleteEv w.clearLog buffer).trans
    (if_pos hb)), handle_modify_setHandle]
  rfl

theorem step_closed {e : Event} {handle : BthHandle} (h : e.linkEvent = some (.closed handle)) :
    w.step e = (w.children.findByHandle handle.flagged).elim w.clearLog
      fun entry => w.clearLog.remove entry.1 := by
  obtain ⟨buffer, n, event, hl, hs⟩ := step_of_linkEvent w h
  obtain ⟨rfl, hb, rfl⟩ := closed_of_hciLinkEvent hl
  rw [hs, dispatchEvent, exec_hciDisconnectionCompleteEv, if_pos hb]
  rfl

end

end WireShock
