import WireShock.Connections.Handles

namespace WireShock
open Interaction

-- the type that the first letter of a controller's reported name stands for
def Event.namedType (a : BdAddr) : Event → Option DsDeviceType
  | .hci buffer n =>
    if receivedEvent buffer n = some .remoteNameRequestComplete ∧ buffer 2 = 0 ∧
        a = BdAddr.fromBuffer buffer 3 then
      deviceTypeOfRemoteName (buffer 9)
    else none
  | _ => none

-- a part of a child's record that connecting, naming and creating the child leave alone, but for
-- the type a name stands for
structure ChildView (β : Type) where
  of : BthDevice → β
  retype : DsDeviceType → β → β
  handle : ∀ device handle, of { device with hciConnectionHandle := handle } = of device
  deviceType : ∀ device type, of { device with deviceType := type } = retype type (of device)
  remoteName : ∀ device name, of { device with remoteName := name } = of device
  report : ∀ device report, of { device with outputReportBuffer := report } = of device
  created : ∀ device queue timer, of (device.created queue timer) = of device

variable {β : Type} (V : ChildView β)

namespace ChildView

def named (type : Option DsDeviceType) (value : β) : β := type.elim value fun t => V.retype t value

def look (w : World) (a : BdAddr) : Option β := (w.children.lookup a).map V.of

end ChildView

section

variable {w v : World} {a b : BdAddr}

theorem look_of_lookup {device : BthDevice} (h : w.children.lookup a = some device) :
    V.look w a = some (V.of device) := by
  rw [ChildView.look, h]
  rfl

theorem look_congr (h : v.children = w.children) : V.look v a = V.look w a := by
  rw [ChildView.look, h]
  rfl

theorem look_of_memory (h : v.memory = w.memory) : V.look v a = V.look w a :=
  look_congr V (congrArg Memory.children h)

theorem look_addOrUpdate {device : BthDevice} :
    V.look (w.addOrUpdate a device) b = if b = a then some (V.of device) else V.look w b := by
  rw [ChildView.look, World.addOrUpdate, ChildList.lookup_addOrUpdate]
  split <;> rfl

structure Shows (g : BthDevice → Driver BthDevice) (type : Option DsDeviceType) : Prop where
  children : ∀ device v, (exec (g device) v).2.children = v.children
  shown : ∀ device v, V.of (exec (g device) v).1 = V.named type (V.of device)

theorem shows_setHandle {handle : BthHandle} : Shows V (setHandle handle) none :=
  ⟨fun _ _ => rfl, fun device _ => V.handle device handle⟩

theorem shows_setDeviceType {type : DsDeviceType} : Shows V (setDeviceType type) (some type) :=
  ⟨fun _ _ => rfl, fun device _ => V.deviceType device type⟩

theorem shows_setRemoteName {name : List BYTE} : Shows V (setRemoteName name) none := by
  refine ⟨keeps_setRemoteName.children, fun device v => ?_⟩
  simpa [setRemoteName, Assignment.apply, ChildView.named] using V.remoteName device _

theorem shows_initOutputReport : Shows V initOutputReport none := by
  refine ⟨keeps_initOutputReport.children, fun device v => ?_⟩
  cases ht : device.deviceType with
  | ps3Dualshock => simpa [initOutputReport, ht, Assignment.apply, ChildView.named] using V.report device _
  | _ =>
    simp [initOutputReport, ht]
    rfl

theorem look_modify {g : BthDevice → Driver BthDevice} {type : Option DsDeviceType}
    (hg : Shows V g type) : V.look (w.modify a g) b =
      if b = a then (V.look w a).map (V.named type) else V.look w b := by
  cases h : w.children.lookup a with
  | none =>
    rw [modify_of_none w a h]
    split
    · rename_i hb
      rw [hb, ChildView.look, h]
      rfl
    · rfl
  | some device =>
    rw [modify_of_some w a h, look_addOrUpdate, hg.shown, look_of_lookup V h]
    split
    · rfl
    · exact look_congr V (hg.children device w)

theorem map_named_none (value : Option β) : value.map (V.named none) = value := by
  cases value <;> rfl

theorem look_modify_none {g : BthDevice → Driver BthDevice} (hg : Shows V g none) :
    V.look (w.modify a g) b = V.look w b := by
  rw [look_modify V hg, map_named_none]
  split
  · rename_i hb
    rw [hb]
  · rfl

theorem look_rename {name : List BYTE} {letter : BYTE} : V.look (w.rename a name letter) b =
    if b = a then (V.look w a).map (V.named (deviceTypeOfRemoteName letter)) else V.look w b := by
  have hname : ∀ c, V.look (w.modify a (setRemoteName name)) c = V.look w c :=
    fun c => look_modify_none V (shows_setRemoteName V)
  rw [World.rename, look_modify_none V (shows_initOutputReport V)]
  cases deviceTypeOfRemoteName letter with
  | none =>
    rw [Option.elim_none, hname, map_named_none]
    split
    · rename_i hb
      rw [hb]
    · rfl
  | some type => rw [Option.elim_some, look_modify V (shows_setDeviceType V), hname, hname]

end

section

variable (w : World)

-- a child that is there afterwards was there before, and shows the same
def Recalls (v : World) : Prop := ∀ b value, V.look v b = some value → V.look w b = some value

variable {V w}

theorem recalls_of_eq {v : World} (h : ∀ b, V.look v b = V.look w b) : Recalls V w v :=
  fun b _ hb => (h b).symm.trans hb

theorem recalls_remove {v : World} {a : BdAddr} (h : Recalls V w v) : Recalls V w (v.remove a) := by
  intro b value hb
  refine h b value ?_
  rw [ChildView.look, lookup_remove_world] at hb
  split at hb
  · cases hb
  · exact hb

theorem recalls_exec_setup {α : Type} {p : Driver α} (hp : p.Uses Call.Setup) :
    Recalls V w (exec p w.clearLog).2 :=
  setup_exec (I := fun m => ∀ b value, (m.children.lookup b).map V.of = some value →
    V.look w b = some value) (fun _ _ hv => recalls_remove hv) hp fun _ _ h => h

variable (V w)

theorem look_step_createDevice (a b : BdAddr) :
    V.look (w.step (.createDevice a)) b = V.look w b := by
  have hm : V.look (exec (wireShockEvtWdfChildListCreateDevice a) w.clearLog).2 b = V.look w b := by
    rcases memory_wireShockEvtWdfChildListCreateDevice w.clearLog a with h | ⟨d, q, t, hd, h⟩
    · exact (look_of_memory V h).trans rfl
    · rw [look_of_memory V h]
      have hl : w.children.lookup a = some d := hd
      by_cases hb : b = a
      · simp [ChildView.look, World.update, ChildList.lookup_update, hb, hl, World.clearLog, V.created]
      · simp [ChildView.look, World.update, ChildList.lookup_update, hb, World.clearLog]
  refine step_createDevice_invariant w (I := fun v => V.look v b = V.look w b) (fun v hv => ?_) hm
  rw [← hv, ChildView.look, World.markCreated, ChildList.lookup_markCreated]
  rfl

theorem look_step_named {buffer : Buffer} {n : Nat} (b : BdAddr)
    (he : receivedEvent buffer n = some .remoteNameRequestComplete) :
    V.look (w.step (.hci buffer n)) b =
      (V.look w b).map (V.named (Event.namedType b (.hci buffer n))) := by
  have hkeep : V.look w.clearLog b = (V.look w b).map (V.named none) := by
    rw [map_named_none]
    rfl
  rw [step_hci, he, Option.elim_some, dispatchEvent, exec_hciRemoteNameRequestCompleteEv,
    Event.namedType]
  by_cases hb : buffer 2 = 0
  · rw [if_pos hb, look_rename]
    by_cases ha : b = BdAddr.fromBuffer buffer 3
    · rw [if_pos ha, if_pos ⟨he, hb, ha⟩, ← ha]
      rfl
    · rw [if_neg ha, if_neg fun h => ha h.2.2, hkeep]
  · rw [if_neg hb, if_neg fun h => hb h.2.1, hkeep]

theorem look_step_requested {e : Event} {a : BdAddr} (h : e.linkEvent = some (.requested a))
    (b : BdAddr) : V.look (w.step e) b =
      if b = a then some ((V.look w a).getD (V.of w.environment.unwritten)) else V.look w b := by
  obtain ⟨buffer, n, event, hl, hs⟩ := step_of_linkEvent w h
  obtain ⟨rfl, rfl⟩ := requested_of_hciLinkEvent hl
  rw [hs, dispatchEvent, look_of_memory V (memory_hciConnectionRequestEv w.clearLog buffer),
    World.request, look_addOrUpdate]
  split
  · rw [ChildView.look]
    cases hd : w.children.lookup (BdAddr.fromBuffer buffer 2) <;> simp [World.clearLog, hd]
  · rfl

theorem recalls_step_hci {buffer : Buffer} {n : Nat} {event : HciEvent}
    (he : receivedEvent buffer n = some event) (hn : event ≠ .remoteNameRequestComplete)
    (hr : event ≠ .connectionRequest) : Recalls V w (w.step (.hci buffer n)) := by
  have hrefl : Recalls V w w.clearLog := fun _ _ h => h
  rw [step_hci, he, Option.elim_some]
  cases event with
  | commandComplete => exact recalls_exec_setup setup_hciCommandCompleteEv
  | commandStatus => exact recalls_exec_setup setup_hciCommandStatusEv
  | connectionRequest => exact absurd rfl hr
  | remoteNameRequestComplete => exact absurd rfl hn
  | connectionComplete =>
    refine recalls_of_eq fun b => ?_
    rw [dispatchEvent]
    have hm := memory_hciConnectionCompleteEv w.clearLog buffer
    split at hm
    · exact (look_of_memory V hm).trans (look_modify_none V (shows_setHandle V))
    · exact (look_of_memory V hm).trans rfl
  | disconnectionComplete =>
    rw [dispatchEvent, exec_hciDisconnectionCompleteEv]
    split
    · cases w.clearLog.children.findByHandle ⟨buffer 3, buffer 4 ||| 0x20⟩ with
      | none => exact hrefl
      | some entry => exact recalls_remove hrefl
    · exact hrefl
  | _ => exact hrefl

theorem namedType_of_received {buffer : Buffer} {n : Nat} {a : BdAddr}
    (h : receivedEvent buffer n ≠ some .remoteNameRequestComplete) :
    (Event.hci buffer n).namedType a = none := if_neg fun hn => h hn.1

-- a listed child shows the same but for the type a name gives it; a new child shows what the
-- record it was listed with does
def Knows (e : Event) (a : BdAddr) (later : β) : Prop :=
  (∃ value, V.look w a = some value ∧ later = V.named (e.namedType a) value) ∨
    (V.look w a = none ∧ e.linkEvent = some (.requested a) ∧ later = V.of w.environment.unwritten)

variable {V w} {e : Event} {a : BdAddr} {later : β}

theorem knows_of_recalls (hr : Recalls V w (w.step e)) (hn : e.namedType a = none)
    (h : V.look (w.step e) a = some later) : Knows V w e a later := by
  refine .inl ⟨later, hr a later h, ?_⟩
  rw [hn]
  rfl

theorem knows_step_hci {buffer : Buffer} {n : Nat}
    (h : V.look (w.step (.hci buffer n)) a = some later) : Knows V w (.hci buffer n) a later := by
  cases he : receivedEvent buffer n with
  | none =>
    refine knows_of_recalls ?_ (namedType_of_received (by simp [he])) h
    rw [step_hci, he]
    exact fun _ _ hb => hb
  | some event =>
    by_cases hname : event = .remoteNameRequestComplete
    · rw [look_step_named V w a (hname ▸ he)] at h
      obtain ⟨value, hv, hl⟩ := Option.map_eq_some_iff.mp h
      exact .inl ⟨value, hv, hl.symm⟩
    have hn : (Event.hci buffer n).namedType a = none :=
      namedType_of_received (by simpa [he] using hname)
    by_cases hr : event = .connectionRequest
    · have hl : (Event.hci buffer n).linkEvent = some (.requested (BdAddr.fromBuffer buffer 2)) := by
        simp [Event.linkEvent, he, hr, hciLinkEvent]
      rw [look_step_requested V w hl] at h
      split at h
      · rename_i ha
        rw [← ha] at h
        cases hv : V.look w a with
        | none => exact .inr ⟨hv, ha ▸ hl, by simpa [hv] using h.symm⟩
        | some value => exact .inl ⟨value, hv, by simpa [hv, hn, ChildView.named] using h.symm⟩
      · exact .inl ⟨later, h, by rw [hn]; rfl⟩
    · exact knows_of_recalls (recalls_step_hci V w he hname hr) hn h

def Event.isAcl : Event → Bool
  | .acl .. => true
  | _ => false

theorem knows_step_of_ne_acl (he : e.isAcl = false) (h : V.look (w.step e) a = some later) :
    Knows V w e a later := by
  cases e with
  | hci buffer n => exact knows_step_hci h
  | acl buffer n => cases he
  | createDevice b => exact knows_of_recalls (recalls_of_eq (look_step_createDevice V w b)) rfl h
  | timer b =>
    exact knows_of_recalls (recalls_of_eq fun _ => look_congr V (children_step_timer w b)) rfl h
  | d0Entry => exact knows_of_recalls (recalls_exec_setup setup_wireShockEvtDeviceD0Entry) rfl h
  | d0Exit => exact knows_of_recalls (recalls_exec_setup setup_wireShockEvtDeviceD0Exit) rfl h

theorem look_step_acl (htraffic : ∀ device other, device.SameUpToChannels other →
    V.of other = V.of device) (w : World) (buffer : Buffer) (n : Nat) (b : BdAddr) :
    V.look (w.step (.acl buffer n)) b = V.look w b := by
  rw [step_acl]
  split
  · rfl
  · cases hf : w.children.findByHandle (BthHandle.fromBuffer buffer 0) with
    | none => rfl
    | some entry =>
      obtain ⟨a, device⟩ := entry
      have hd : device.SameUpToChannels (exec (dispatchPacket device buffer) w.clearLog).1 :=
        Program.run_result traffic_dispatchPacket w.clearLog
      rw [look_addOrUpdate, htraffic device _ hd]
      split
      · rename_i hb
        rw [hb, look_of_lookup V (lookup_of_findByHandle hf).1]
      · exact look_congr V
          (children_exec (Program.ensures_uses traffic_dispatchPacket) w.clearLog)

end
end WireShock
