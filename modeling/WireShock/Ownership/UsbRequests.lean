import WireShock.Interaction.Run
import WireShock.Semantics.UsbTransfers

namespace WireShock
open Interaction

def UsbEvent.creates : UsbEvent → Bool
  | .writeBulkPipe environment _ => environment.succeeds 0
  | .sendControlRequest environment _ => environment.succeeds 0
  | _ => false

def UsbEvent.delivers : UsbEvent → Bool
  | .writeBulkPipe environment _ => environment.delivers
  | .sendControlRequest environment arguments =>
    arguments.type = .bmRequestClass && environment.delivers
  | _ => true

namespace UsbHost

def Balanced (h : UsbHost) : Prop := ∀ r, r ∈ h.live ↔ r ∈ h.pending

def Clean (h : UsbHost) : UsbEvent → Prop
  | .requestCompleted r => r ∈ h.pending → (h.routine r).isSome
  | e => e.creates → e.delivers

structure Sound (h : UsbHost) : Prop where
  fresh : h.ledger.Fresh
  sound : h.ledger.Sound

def booked (h : UsbHost) : UsbEvent → Ledger Unit
  | .requestCompleted r =>
    if r ∈ h.pending then h.ledger.settle () r (h.routine r).isSome else h.ledger
  | e => h.ledger.attempt () e.creates e.delivers

variable {h : UsbHost} {environment : Usb.Environment} {r : Request}

def KeepsRequests (c : Usb.Call) : Prop := ∀ h, (Usb.respond c h).2.ledger = h.ledger

theorem keepsRequests_call {c : Usb.Call} (h : KeepsRequests c) :
    (Usb.call c).Uses KeepsRequests := ⟨h, fun _ => trivial⟩

theorem keepsRequests_createUsbDevice : Usb.createUsbDevice.Uses KeepsRequests := by
  refine Program.uses_bind (keepsRequests_call fun _ => rfl) fun context => ?_
  refine Program.uses_ite (fun _ => trivial) fun _ => ?_
  refine Program.uses_bind (keepsRequests_call fun h => ?_) fun reply => ?_
  · show h.createHandle.2.ledger = h.ledger
    unfold createHandle
    split <;> rfl
  · cases reply with
    | error status => trivial
    | ok usbDevice =>
      exact Program.uses_bind (keepsRequests_call fun _ => rfl) fun _ => trivial

theorem keepsRequests_updateContextIf (condition : Bool)
    (update : Usb.DeviceHandles → Usb.DeviceHandles) :
    (Usb.updateContextIf condition update).Uses KeepsRequests :=
  Program.uses_ite (fun _ => keepsRequests_call fun _ => rfl) fun _ => trivial

theorem keepsRequests_bulkAnd (type : Usb.PipeType) {isEndpoint : Usb.Driver Bool}
    (h : isEndpoint.Uses KeepsRequests) : (Usb.bulkAnd type isEndpoint).Uses KeepsRequests :=
  Program.uses_ite (fun _ => h) fun _ => trivial

theorem keepsRequests_scanPipe (interface : Option Handle) (index : Nat) :
    (Usb.scanPipe interface index).Uses KeepsRequests := by
  refine Program.uses_bind (keepsRequests_call fun _ => rfl) fun pipe => ?_
  refine Program.uses_bind (keepsRequests_call fun _ => rfl) fun _ => ?_
  refine Program.uses_bind (keepsRequests_updateContextIf _ _) fun _ => ?_
  refine Program.uses_bind (keepsRequests_bulkAnd _ (keepsRequests_call fun _ => rfl)) fun _ => ?_
  refine Program.uses_bind (keepsRequests_updateContextIf _ _) fun _ => ?_
  refine Program.uses_bind (keepsRequests_bulkAnd _ (keepsRequests_call fun _ => rfl)) fun _ => ?_
  exact keepsRequests_updateContextIf _ _

theorem keepsRequests_scanPipes (interface : Option Handle) (numberConfiguredPipes : BYTE)
    (index : Nat) : (Usb.scanPipes interface numberConfiguredPipes index).Uses KeepsRequests := by
  fun_induction Usb.scanPipes interface numberConfiguredPipes index with
  | case1 index _ ih => exact Program.uses_bind (keepsRequests_scanPipe interface index) fun _ => ih
  | case2 => trivial

theorem keepsRequests_configContinuousReader (pipe : Option Handle) (size : Nat) :
    (Usb.usbTargetPipeConfigContinuousReader pipe size).Uses KeepsRequests :=
  keepsRequests_call fun _ => rfl

theorem keepsRequests_startReaders : Usb.startReaders.Uses KeepsRequests := by
  refine Program.uses_bind (keepsRequests_call fun _ => rfl) fun context => ?_
  refine Program.uses_ite (fun _ => trivial) fun _ => ?_
  refine Program.uses_bind (Program.uses_bind (keepsRequests_call fun _ => rfl)
    fun _ => keepsRequests_configContinuousReader _ _) fun _ => ?_
  refine Program.uses_ite (fun _ => trivial) fun _ => ?_
  exact Program.uses_bind (keepsRequests_call fun _ => rfl)
    fun _ => keepsRequests_configContinuousReader _ _

theorem keepsRequests_prepareHardware :
    Usb.wireShockEvtDevicePrepareHardware.Uses KeepsRequests := by
  refine Program.uses_bind keepsRequests_createUsbDevice fun _ => ?_
  refine Program.uses_ite (fun _ => trivial) fun _ => ?_
  refine Program.uses_bind (keepsRequests_call fun _ => rfl) fun context => ?_
  refine Program.uses_bind (keepsRequests_call fun h => ?_) fun _ => ?_
  · show h.selectConfig.2.ledger = h.ledger
    unfold selectConfig
    split <;> rfl
  · refine Program.uses_ite (fun _ => trivial) fun _ => ?_
    refine Program.uses_bind (keepsRequests_call fun _ => rfl) fun interface => ?_
    refine Program.uses_bind (keepsRequests_call fun _ => rfl) fun _ => ?_
    refine Program.uses_ite (fun _ => trivial) fun _ => ?_
    refine Program.uses_bind (keepsRequests_call fun _ => rfl) fun _ => ?_
    exact Program.uses_bind (keepsRequests_scanPipes _ _ _) fun _ => keepsRequests_startReaders

theorem ledger_prepareHardware :
    (h.step (.prepareHardware environment)).ledger = h.ledger :=
  Program.run_invariant (I := fun g => g.ledger = h.ledger) (fun _ g hc hg => (hc g).trans hg)
    keepsRequests_prepareHardware (s := h.enter environment) rfl

theorem ledger_requestCompleted :
    (h.step (.requestCompleted r)).ledger = h.booked (.requestCompleted r) := by
  by_cases hr : r ∈ h.pending
  · rw [booked, if_pos hr]
    cases hc : h.routine r with
    | none =>
      simp [step, complete, hr, hc, runRoutine, Ledger.settle, Ledger.drop, ledger, funext_iff]
    | some routine =>
      cases routine
      simp [step, complete, hr, hc, runRoutine, Usb.evtUsbRequestCompletionRoutine, Ledger.settle,
        Ledger.drop, Ledger.release, ledger, funext_iff]
  · rw [booked, if_neg hr, step, complete, if_neg hr]

theorem ledger_step (e : UsbEvent) : (h.step e).ledger = h.booked e := by
  cases e with
  | prepareHardware environment => exact ledger_prepareHardware
  | writeBulkPipe environment buffer =>
    exact (submits_writeBulkPipe (h.enter environment) buffer).ledger
  | sendControlRequest environment arguments =>
    exact (submits_sendControlRequest (h.enter environment) arguments).ledger
  | requestCompleted r => exact ledger_requestCompleted

theorem sound_initial (environment : Usb.Environment) : (initial environment).Sound where
  fresh := ⟨List.nodup_nil, nofun⟩
  sound := ⟨nofun, fun _ => List.nodup_nil, nofun⟩

theorem Sound.step (hs : h.Sound) (e : UsbEvent) : (h.step e).Sound := by
  suffices hb : (h.booked e).Fresh ∧ (h.booked e).Sound by
    rw [← ledger_step] at hb
    exact ⟨hb.1, hb.2⟩
  cases e with
  | requestCompleted r =>
    by_cases hr : r ∈ h.pending
    · rw [booked, if_pos hr]
      exact ⟨hs.fresh.settle _, hs.sound.settle hs.fresh hr _⟩
    · rw [booked, if_neg hr]
      exact ⟨hs.fresh, hs.sound⟩
  | _ => exact ⟨hs.fresh.attempt _ _, hs.sound.attempt hs.fresh _ _⟩

theorem Sound.balanced_iff (hs : h.Sound) : h.Balanced ↔ h.ledger.Balanced := by
  constructor
  · exact fun hb r hr => ⟨(), (hb r).mp hr⟩
  · intro hb r
    constructor
    · intro hr
      obtain ⟨_, hr⟩ := hb r hr
      exact hr
    · exact hs.sound.live () r

theorem balanced_step (hs : h.Sound) (hb : h.Balanced) (e : UsbEvent) :
    (h.step e).Balanced ↔ h.Clean e := by
  rw [(hs.step e).balanced_iff, ledger_step]
  have hl := hs.balanced_iff.mp hb
  cases e with
  | requestCompleted r =>
    by_cases hr : r ∈ h.pending
    · rw [booked, if_pos hr, Ledger.balanced_settle hs.sound hs.fresh hl hr]
      exact ⟨fun h _ => h, fun h => h hr⟩
    · rw [booked, if_neg hr]
      exact iff_of_true hl fun h => absurd h hr
  | _ => exact Ledger.balanced_attempt hs.sound hs.fresh hl _ _

theorem stranded_step (hs : h.Sound) (e : UsbEvent) (hr : h.ledger.Stranded r) :
    (h.step e).ledger.Stranded r := by
  rw [ledger_step]
  cases e with
  | requestCompleted q =>
    by_cases hq : q ∈ h.pending
    · rw [booked, if_pos hq]
      exact hr.settle hs.sound hq _
    · rwa [booked, if_neg hq]
  | _ => exact hr.attempt hs.fresh _ _

theorem stranded_runs (hs : h.Sound) (es : List UsbEvent) (hr : h.ledger.Stranded r) :
    (runs step h es).ledger.Stranded r := by
  have hi : (runs step h es).Sound ∧ (runs step h es).ledger.Stranded r :=
    runs_invariant (I := fun g : UsbHost => g.Sound ∧ g.ledger.Stranded r) (L := fun _ _ => True)
      (fun _ e hg _ => ⟨hg.1.step e, stranded_step hg.1 e hg.2⟩) ⟨hs, hr⟩
      (along_of_forall fun _ _ => trivial)
  exact hi.2

theorem stranded_of_undelivered (hs : h.Sound) {e : UsbEvent} (hc : e.creates = true)
    (hd : e.delivers = false) : (h.step e).ledger.Stranded h.nextRequest := by
  have hb : h.booked e = h.ledger.allocate := by
    cases e with
    | prepareHardware environment => cases hc
    | requestCompleted r => cases hc
    | _ => simp [booked, Ledger.attempt, hc, hd]
  rw [ledger_step, hb]
  exact hs.sound.stranded_allocate hs.fresh

theorem undelivered_never_deleted (hs : h.Sound) {e : UsbEvent} (hc : e.creates = true)
    (hd : e.delivers = false) (es : List UsbEvent) :
    h.nextRequest ∈ (runs step (h.step e) es).live ∧
      h.nextRequest ∉ (runs step (h.step e) es).pending := by
  obtain ⟨hlive, howned⟩ := stranded_runs (hs.step e) es (stranded_of_undelivered hs hc hd)
  exact ⟨hlive, howned ()⟩

theorem requests_balanced_iff (environment : Usb.Environment) (es : List UsbEvent) :
    Always step Balanced (initial environment) es ↔ Along step Clean (initial environment) es :=
  always_iff_along_of_invariant (I := Sound) (L := fun _ _ => True) (fun _ e hs _ => hs.step e)
    (fun _ e hs _ hb => balanced_step hs hb e) (sound_initial environment)
    (along_of_forall fun _ _ => trivial) (fun _ => Iff.rfl)

theorem requests_left_behind : ¬ Always step Balanced (initial (.failing .dongle none))
    [.prepareHardware (.failing .dongle none),
      .writeBulkPipe (.failing .dongle (some 1)) [0xA2]] := by
  intro h
  have hs := (sound_initial (.failing .dongle none)).step (.prepareHardware (.failing .dongle none))
  have hlost := undelivered_never_deleted hs
    (e := .writeBulkPipe (.failing .dongle (some 1)) [0xA2]) (by decide) (by decide) []
  exact hlost.2 ((always_runs h _).mp hlost.1)

end UsbHost
end WireShock
