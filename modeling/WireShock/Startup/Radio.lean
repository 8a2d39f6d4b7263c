import WireShock.Semantics.CommandAnswers

namespace WireShock
open Interaction

structure Radio where
  started : Bool
  disableSSP : Bool
  issued : List (HciCommand × NTSTATUS)
  status : Nat → NTSTATUS

namespace Radio

def issue (r : Radio) (c : HciCommand) : Radio :=
  { r with issued := r.issued ++ [(c, r.status 0)], status := fun n => r.status (n + 1) }

@[simp] theorem issue_started (r : Radio) (c : HciCommand) : (r.issue c).started = r.started := rfl
@[simp] theorem issue_disableSSP (r : Radio) (c : HciCommand) :
    (r.issue c).disableSSP = r.disableSSP := rfl
@[simp] theorem issue_issued (r : Radio) (c : HciCommand) :
    (r.issue c).issued = r.issued ++ [(c, r.status 0)] := rfl

end Radio

def Output.issued : Output → Option (HciCommand × NTSTATUS)
  | .control packet status => (commandOfPacket packet).map fun c => (c, status)
  | _ => none

def World.radio (w : World) : Radio :=
  ⟨w.context.started, w.context.disableSSP, w.log.filterMap Output.issued,
    w.environment.controlStatus⟩

namespace Radio

def fallBack (r : Radio) : Radio := { r with disableSSP := true }.issue .writeScanEnable

def start (r : Radio) : Radio := { r with started := true }.issue .readBdAddr

def reject (r : Radio) : Radio :=
  if ntSuccess (r.status 0) then { r.issue .reset with started := false } else r.issue .reset

def completed (r : Radio) (c : HciCommand) (success oldVersion : Bool) : Radio :=
  if c = .reset then
    if success && !r.started then r.start else r
  else if supportsPairing c && !success then
    r.fallBack
  else if success || c = .writeSimplePairingDebugMode then
    if c = .readLocalVersionInfo && oldVersion then r.reject
    else (successor r.disableSSP c).elim r r.issue
  else
    r

def failed (r : Radio) (c : HciCommand) : Radio := if supportsPairing c then r.fallBack else r

end Radio

@[simp] theorem radio_sendControl (w : World) (c : HciCommand) {size : Nat} {payload : List BYTE}
    (h : 3 + payload.length ≤ size) :
    (w.sendControl (hciPacket c (overlay (w.uninitialised size).val 3 payload))).radio =
      w.radio.issue c := by
  simp [World.radio, World.sendControl, Radio.issue, Output.issued, commandOfPacket_overlay w c h]

theorem radio_updateContext (w : World) (update : DeviceContext → DeviceContext) :
    (w.updateContext update).radio =
      { w.radio with
        started := (update w.context).started
        disableSSP := (update w.context).disableSSP } := rfl

@[simp] theorem radio_updateContext_of_eq (w : World) {update : DeviceContext → DeviceContext}
    (hs : (update w.context).started = w.context.started)
    (hd : (update w.context).disableSSP = w.context.disableSSP) :
    (w.updateContext update).radio = w.radio := by
  rw [radio_updateContext, hs, hd]
  rfl

section

variable (w : World)

@[simp] theorem radio_started : w.radio.started = w.context.started := rfl
@[simp] theorem radio_disableSSP : w.radio.disableSSP = w.context.disableSSP := rfl
@[simp] theorem radio_status : w.radio.status = w.environment.controlStatus := rfl

theorem radio_setDisableSSP :
    (w.updateContext fun c => { c with disableSSP := true }).radio =
      { w.radio with disableSSP := true } := rfl

theorem radio_setStarted (started : Bool) :
    (w.updateContext fun c => { c with started := started }).radio =
      { w.radio with started := started } := rfl

end

@[simp] theorem radio_free (w : World) (p : Pointer) : (w.free p).radio = w.radio := by
  simp [World.radio, World.free, Output.issued]

@[simp] theorem radio_remove (w : World) (a : BdAddr) : (w.remove a).radio = w.radio :=
  World.remove_invariant (I := fun v => v.radio = w.radio)
    (fun v p hv => (radio_free v p).trans hv) (fun _ _ hv => hv) rfl a

@[simp] theorem radio_removeAll (w : World) : w.removeAll.radio = w.radio :=
  World.removeAll_invariant (I := fun v => v.radio = w.radio)
    (fun v a hv => (radio_remove v a).trans hv) rfl

section

variable (w : World) (buffer : Buffer)

theorem radio_sendNext {c : HciCommand} (h : c ∈ startupCommands) :
    (exec (sendNext c) w).2.radio = w.radio.issue c := by
  obtain ⟨size, payload, hp, he⟩ := startupBuilder_eq h
  simp [sendNext, he, hp]

theorem radio_withoutPairing : (exec withoutPairing w).2.radio = w.radio.fallBack := by
  simp (disch := decide) [withoutPairing, radio_sendNext, Radio.fallBack, radio_setDisableSSP]

theorem radio_versionsRead :
    (exec (versionsRead buffer) w).2.radio =
      if oldVersion buffer then w.radio.reject
      else w.radio.issue (if w.context.disableSSP then .writeScanEnable
        else .writeSimplePairingMode) := by
  by_cases ho : buffer 6 < 3#8 ∨ buffer 9 < 3#8
  · by_cases hr : ntSuccess (w.environment.controlStatus 0) <;>
      simp [versionsRead, oldVersion, ho, hr, hciCommandReset, Radio.reject, radio_setStarted]
  · cases hd : w.context.disableSSP <;>
      simp (disch := first | decide | rfl) [versionsRead, oldVersion, ho, hd, radio_sendNext]

theorem radio_commandDone (c : HciCommand) :
    (exec (commandDone buffer w.context c) w).2.radio =
      w.radio.completed c (hciCommandSuccess buffer) (oldVersion buffer) := by
  cases hs : hciCommandSuccess buffer with
  | false =>
    cases c <;>
      simp (disch := decide) [commandDone, hs, Radio.completed, supportsPairing, successor,
        radio_sendNext, radio_withoutPairing]
  | true =>
    cases c with
    | reset =>
      cases ht : w.context.started <;>
        simp (disch := decide) [commandDone, hs, ht, Radio.completed, Radio.start, radio_sendNext,
          radio_setStarted]
    | readLocalVersionInfo =>
      cases ho : oldVersion buffer <;> cases hd : w.context.disableSSP <;>
        simp [commandDone, hs, ho, hd, Radio.completed, supportsPairing, successor, radio_versionsRead]
    | _ =>
      simp (disch := first | decide | rfl) [commandDone, hs, Radio.completed, supportsPairing,
        successor, radio_sendNext]

theorem radio_hciCommandCompleteEv (c : HciCommand) :
    (exec (hciCommandCompleteEv buffer (some c)) w).2.radio =
      w.radio.completed c (hciCommandSuccess buffer) (oldVersion buffer) := by
  rw [hciCommandCompleteEv_eq, exec_bind, exec_getContext]
  exact radio_commandDone w buffer c

theorem radio_hciCommandCompleteEv_none :
    (exec (hciCommandCompleteEv buffer none) w).2.radio = w.radio := by
  rw [hciCommandCompleteEv_eq]
  rfl

theorem radio_hciCommandStatusEv (c : HciCommand) :
    (exec (hciCommandStatusEv buffer (some c)) w).2.radio =
      if buffer 2 = 0 then w.radio else w.radio.failed c := by
  by_cases hb : buffer 2 = 0#8 <;> cases hc : supportsPairing c <;>
    simp [hciCommandStatusEv_eq, hb, hc, Radio.failed, radio_withoutPairing]

theorem radio_hciCommandStatusEv_none :
    (exec (hciCommandStatusEv buffer none) w).2.radio = w.radio := by
  simp [hciCommandStatusEv_eq]

theorem radio_wireShockEvtDeviceD0Entry :
    (exec wireShockEvtDeviceD0Entry w).2.radio = w.radio.issue .reset := by
  have h (v : World) : (exec startTargets v).2.radio = v.radio := by
    by_cases h₁ : ntSuccess (v.environment.frameworkStatus 0) <;>
      by_cases h₂ : ntSuccess (v.environment.frameworkStatus 1) <;>
        simp [startTargets, World.nextFramework, h₁, h₂] <;> rfl
  simp [wireShockEvtDeviceD0Entry, hciCommandReset, h]

theorem radio_wireShockEvtDeviceD0Exit :
    (exec wireShockEvtDeviceD0Exit w).2.radio = w.radio.issue .reset := by
  simp [wireShockEvtDeviceD0Exit, hciCommandReset]

end

end WireShock
