import WireShock.Interaction.Run
import WireShock.Ownership.Blocks

namespace WireShock
open Interaction

def Event.isManagement : Event → Bool
  | .hci _ _ => true
  | .createDevice _ => true
  | .d0Entry => true
  | .d0Exit => true
  | _ => false

def hciRename (buffer : Buffer) : HciEvent → Option (BdAddr × BYTE)
  | .remoteNameRequestComplete =>
    if buffer 2 = 0 then some (BdAddr.fromBuffer buffer 3, buffer 9) else none
  | _ => none

def Event.rename : Event → Option (BdAddr × BYTE)
  | .hci buffer n => (receivedEvent buffer n).bind (hciRename buffer)
  | _ => none

def World.KeepsType (w : World) (a : BdAddr) (letter : BYTE) : Prop :=
  ∀ device, w.children.lookup a = some device → device.outputReportBuffer.isSome →
    (deviceTypeOfRemoteName letter).getD device.deviceType = .ps3Dualshock

def World.Reallocates (w : World) (e : Event) : Prop :=
  ∀ a letter, e.rename = some (a, letter) → w.KeepsType a letter

section

variable {w : World} {a : BdAddr} {e : Event}

theorem lookup_modify_self (g : BthDevice → Driver BthDevice) :
    (w.modify a g).children.lookup a =
      (w.children.lookup a).map fun device => (exec (g device) w).1 := by
  cases hd : w.children.lookup a with
  | none =>
    rw [modify_of_none w a hd, hd]
    rfl
  | some device =>
    rw [modify_of_some w a hd, World.addOrUpdate, ChildList.lookup_addOrUpdate, if_pos rfl]
    rfl

theorem managed_modify_setRemoteName {name : List BYTE} (h : w.Managed) :
    (w.modify a (setRemoteName name)).Managed := by
  have hm := managed_exec (wireBusSetChildRemoteName a name) h
  rwa [exec_wireBusSetChildRemoteName] at hm

theorem managed_modify_setDeviceType {type : DsDeviceType} (h : w.Managed) :
    (w.modify a (setDeviceType type)).Managed := by
  have hm := managed_exec (wireBusSetChildDeviceType a type) h
  rwa [exec_wireBusSetChildDeviceType] at hm

theorem owned_rename {name : List BYTE} {letter : BYTE} (hw : w.Owned) (hm : w.Managed) :
    (w.rename a name letter).Owned ↔ w.KeepsType a letter := by
  cases hd : w.children.lookup a with
  | none =>
    have hr : w.rename a name letter = w := by
      rw [World.rename, modify_of_none w a hd]
      cases deviceTypeOfRemoteName letter <;> simp [modify_of_none w a hd]
    rw [hr]
    refine iff_of_true hw fun device h => ?_
    rw [hd] at h
    cases h
  | some device =>
    have hk : w.KeepsType a letter ↔ (device.outputReportBuffer.isSome →
        (deviceTypeOfRemoteName letter).getD device.deviceType = .ps3Dualshock) := by
      simp [World.KeepsType, hd]
    rw [hk, World.rename]
    have hw₁ : (w.modify a (setRemoteName name)).Owned := owned_setRemoteName hw hm.fresh
    have hm₁ : (w.modify a (setRemoteName name)).Managed := managed_modify_setRemoteName hm
    have hd₁ := lookup_modify_self (w := w) (a := a) (setRemoteName name)
    rw [hd] at hd₁
    cases deviceTypeOfRemoteName letter with
    | none =>
      rw [Option.elim, owned_initOutputReport hw₁ hm₁.fresh hd₁]
      simp [setRemoteName, Assignment.apply]
    | some type =>
      have hw₂ := owned_modify (a := a) (g := setDeviceType type) hw₁ fun _ => ⟨rfl, rfl⟩
      have hm₂ : ((w.modify a (setRemoteName name)).modify a (setDeviceType type)).Managed :=
        managed_modify_setDeviceType hm₁
      have hd₂ := lookup_modify_self (w := w.modify a (setRemoteName name)) (a := a)
        (setDeviceType type)
      rw [hd₁] at hd₂
      rw [Option.elim, owned_initOutputReport hw₂ hm₂.fresh hd₂]
      simp [setRemoteName, setDeviceType, Assignment.apply]

theorem owned_clearLog (hw : w.Owned) : w.clearLog.Owned := by
  refine ⟨fun p valid h => ?_, hw.sound.congr rfl rfl⟩
  cases h

theorem managed_clearLog (hm : w.Managed) : w.clearLog.Managed :=
  ⟨⟨hm.fresh.nodup, hm.fresh.below⟩, hm.remoteName, hm.outputReportBuffer⟩

theorem owned_exec_setup {α : Type} {p : Driver α} (hp : p.Uses Call.Setup) (hw : w.Owned)
    (hm : w.Managed) : (exec p w).2.Owned := by
  have h : (exec p w).2.Owned ∧ (exec p w).2.ledger.Fresh := by
    refine exec_invariant (I := fun v => v.Owned ∧ v.ledger.Fresh) (fun c v hc hv => ?_) hp
      ⟨hw, hm.fresh⟩
    refine ⟨?_, fresh_respond c hv.2⟩
    cases c with
    | childListScan =>
      have hr : v.removeAll.Owned ∧ v.removeAll.ledger.Fresh :=
        World.removeAll_invariant (I := fun v => v.Owned ∧ v.ledger.Fresh)
          (fun _ _ hv => ⟨owned_remove hv.1 hv.2, fresh_remove hv.2⟩) hv
      exact hr.1
    | sendControlRequest packet => exact owned_of_memory (memory_sendControl v packet) hv.1
    | _ => first | exact owned_congr hv.1 rfl rfl rfl | exact hc.elim
  exact h.1

theorem owned_update {device : BthDevice} {queue timer : Handle}
    (hd : w.children.lookup a = some device) (hw : w.Owned) :
    (w.update a (device.created queue timer)).Owned := by
  refine owned_congr hw rfl rfl ?_
  funext b
  rw [World.blocks, World.update, ChildList.lookup_update, hd]
  split
  · rename_i hb
    rw [hb, blocks_of_lookup hd]
    rfl
  · rfl

theorem owned_createDevice (hw : w.Owned) : (w.step (.createDevice a)).Owned := by
  have hc : (exec (wireShockEvtWdfChildListCreateDevice a) w.clearLog).2.Owned := by
    have hw := owned_clearLog hw
    rcases memory_wireShockEvtWdfChildListCreateDevice w.clearLog a with h | ⟨d, q, t, hd, h⟩
    · exact owned_of_memory h hw
    · exact owned_of_memory h (owned_update hd hw)
  refine step_createDevice_invariant w (fun v hv => owned_congr hv rfl rfl ?_) hc
  funext b
  rw [World.blocks, World.markCreated, ChildList.lookup_markCreated]
  rfl

theorem owned_dispatchEvent {event : HciEvent} {buffer : Buffer} {n : Nat} (hw : w.Owned)
    (hm : w.Managed) : (exec (dispatchEvent event buffer n) w).2.Owned ↔
      ∀ a letter, hciRename buffer event = some (a, letter) → w.KeepsType a letter := by
  cases event with
  | commandComplete =>
    exact iff_of_true (owned_exec_setup setup_hciCommandCompleteEv hw hm) fun _ _ h => nomatch h
  | commandStatus =>
    exact iff_of_true (owned_exec_setup setup_hciCommandStatusEv hw hm) fun _ _ h => nomatch h
  | connectionRequest =>
    refine iff_of_true ?_ fun _ _ h => nomatch h
    exact owned_of_memory (memory_hciConnectionRequestEv w buffer) (owned_request hw hm)
  | connectionComplete =>
    refine iff_of_true ?_ fun _ _ h => nomatch h
    have hmem := memory_hciConnectionCompleteEv w buffer
    split at hmem
    · exact owned_of_memory hmem (owned_modify hw fun _ => ⟨rfl, rfl⟩)
    · exact owned_of_memory hmem hw
  | disconnectionComplete =>
    refine iff_of_true ?_ fun _ _ h => nomatch h
    rw [dispatchEvent, exec_hciDisconnectionCompleteEv]
    split
    · cases w.children.findByHandle ⟨buffer 3, buffer 4 ||| 0x20⟩ with
      | none => exact hw
      | some entry => exact owned_remove hw hm.fresh
    · exact hw
  | remoteNameRequestComplete =>
    rw [dispatchEvent, exec_hciRemoteNameRequestCompleteEv]
    by_cases hb : buffer 2 = 0
    · rw [if_pos hb, owned_rename hw hm]
      simp [hciRename, hb]
    · rw [if_neg hb]
      refine iff_of_true hw fun _ _ h => ?_
      rw [hciRename, if_neg hb] at h
      cases h
  | _ => exact iff_of_true hw fun _ _ h => nomatch h

theorem owned_step (hw : w.Owned) (hm : w.Managed) (he : e.isManagement = true) :
    (w.step e).Owned ↔ w.Reallocates e := by
  have hw₀ := owned_clearLog hw
  have hm₀ := managed_clearLog hm
  cases e with
  | hci buffer n =>
    rw [step_hci, World.Reallocates, Event.rename]
    cases receivedEvent buffer n with
    | none => exact iff_of_true hw₀ fun _ _ h => nomatch h
    | some event => exact owned_dispatchEvent hw₀ hm₀
  | createDevice a => exact iff_of_true (owned_createDevice hw) fun _ _ h => nomatch h
  | d0Entry =>
    exact iff_of_true (owned_exec_setup setup_wireShockEvtDeviceD0Entry hw₀ hm₀)
      fun _ _ h => nomatch h
  | d0Exit =>
    exact iff_of_true (owned_exec_setup setup_wireShockEvtDeviceD0Exit hw₀ hm₀)
      fun _ _ h => nomatch h
  | acl => cases he
  | timer => cases he

theorem managed_step (hm : w.Managed) : (w.step e).Managed :=
  step_invariant w (fun p _ hv => managed_exec p hv) (fun p _ hv => managed_exec p hv)
    (fun _ _ hv => ⟨⟨hv.fresh.nodup, hv.fresh.below⟩, hv.remoteName, hv.outputReportBuffer⟩)
    (managed_clearLog hm) e

theorem owned_initial {environment : Environment} : (World.initial environment).Owned := by
  refine ⟨fun p valid h => ?_, fun k p hp => ?_, fun _ => List.nodup_nil, fun j k _ p hp => ?_⟩
  · cases h
  · cases hp
  · cases hp

end

namespace World

theorem owned_always_iff (environment : Environment)
    (hr : environment.unwritten.remoteName = none)
    (ho : environment.unwritten.outputReportBuffer = none) (es : List Event)
    (he : ∀ e ∈ es, e.isManagement = true) :
    Always step Owned (initial environment) es ↔
      Along step Reallocates (initial environment) es := by
  have hm : (initial environment).Managed := ⟨⟨List.nodup_nil, fun _ h => nomatch h⟩, hr, ho⟩
  exact always_iff_along_of_invariant (L := fun _ e => e.isManagement = true)
    (fun _ _ hs _ => managed_step hs) (fun _ _ hs he hw => owned_step hw hs he) hm
    (along_of_mem fun _ => he) owned_initial

def remoteNameEvent (letter : BYTE) : Event :=
  .hci (Buffer.ofList [0x07, 0xFF, 0x00, 0x01, 0x02, 0x03, 0x04, 0x05, 0x06, letter, 0x00]) 11

def renamedEvents : List Event :=
  [.hci (Buffer.ofList [0x04, 0x0A, 0x01, 0x02, 0x03, 0x04, 0x05, 0x06]) 12,
   .createDevice someAddress, remoteNameEvent 0x50, remoteNameEvent 0x4E]

theorem owned_always_iff_renamed :
    Always step Owned (initial .succeeding) renamedEvents ↔
      Along step Reallocates (initial .succeeding) renamedEvents :=
  owned_always_iff .succeeding rfl rfl renamedEvents (by decide)

theorem report_released_by_rename :
    ¬ ∀ (environment : Environment) (es : List Event),
      environment.unwritten.remoteName = none → environment.unwritten.outputReportBuffer = none →
        (∀ e ∈ es, e.isManagement = true) → Always step Owned (initial environment) es := by
  intro h
  have hs := always_runs (h .succeeding renamedEvents rfl rfl (by decide))
  have hl : ∀ p ∈ (runs step (initial .succeeding) renamedEvents).blocks someAddress,
      p ∈ (runs step (initial .succeeding) renamedEvents).pool.live := hs.sound.live someAddress
  revert hl
  decide +kernel

end World
end WireShock
