import WireShock.Semantics.Footprint
import WireShock.Startup.Radio

namespace WireShock
open Interaction

inductive Answer where
  | complete (command : HciCommand) (success oldVersion : Bool)
  | status (command : HciCommand)
deriving DecidableEq, Repr

def Answer.command : Answer → HciCommand
  | complete c _ _ => c
  | status c => c

def Answer.success : Answer → Bool
  | complete _ s _ => s
  | status _ => false

def hciAnswer (buffer : Buffer) : HciEvent → Option Answer
  | .commandComplete =>
    (commandOf buffer).map fun c => .complete c (hciCommandSuccess buffer) (oldVersion buffer)
  | .commandStatus => if buffer 2 = 0 then none else (commandOf buffer).map .status
  | _ => none

def Event.answer : Event → Option Answer
  | .hci buffer n => (receivedEvent buffer n).bind (hciAnswer buffer)
  | _ => none

def Event.isPower : Event → Bool
  | .d0Entry => true
  | .d0Exit => true
  | _ => false

namespace Radio

def fresh (r : Radio) : Radio := { r with issued := [] }

def answered (r : Radio) : Answer → Radio
  | .complete c success oldVersion => r.completed c success oldVersion
  | .status c => r.failed c

def Consumed (r s : Radio) : Prop := ∃ k, ∀ n, s.status n = r.status (n + k)

structure Undisturbed (r s : Radio) : Prop where
  started : s.started = r.started
  disableSSP : s.disableSSP = r.disableSSP
  issued : ∀ x ∈ s.issued, x.1 ∉ startupCommands
  status : r.Consumed s

theorem consumed_refl (r : Radio) : r.Consumed r := ⟨0, fun _ => rfl⟩

theorem consumed_issue {r s : Radio} (h : r.Consumed s) (c : HciCommand) :
    r.Consumed (s.issue c) := by
  obtain ⟨k, hk⟩ := h
  refine ⟨k + 1, fun n => ?_⟩
  have hs : (s.issue c).status n = s.status (n + 1) := rfl
  rw [hs, hk, Nat.add_assoc, Nat.add_comm 1 k]

theorem consumed_reject (r : Radio) : r.Consumed r.reject := by
  unfold reject
  split
  · exact consumed_issue (consumed_refl r) .reset
  · exact consumed_issue (consumed_refl r) .reset

theorem consumed_answered (r : Radio) (a : Answer) : r.Consumed (r.answered a) := by
  have hr := consumed_refl r
  cases a with
  | complete c success oldVersion =>
    simp only [answered, completed]
    split_ifs
    · exact consumed_issue hr .readBdAddr
    · exact hr
    · exact consumed_issue hr .writeScanEnable
    · exact consumed_reject r
    · cases successor r.disableSSP c with
      | none => exact hr
      | some d => exact consumed_issue hr d
    · exact hr
  | status c =>
    simp only [answered, failed]
    split_ifs
    · exact consumed_issue hr .writeScanEnable
    · exact hr

end Radio

def Call.Quiet : Call → Prop
  | .updateContext _ => False
  | .sendControlRequest packet => ∃ c, commandOfPacket packet = some c ∧ c ∉ startupCommands
  | _ => True

section

variable {buffer : Buffer} {address : BdAddr}

theorem quiet_of_bus {c : Call} (h : c.Bus) : c.Quiet := by
  cases c with
  | sendControlRequest packet =>
    obtain ⟨d, hd, hm⟩ := h
    have hn : ∀ d ∈ connectionCommands, d ∉ startupCommands := by decide
    exact ⟨d, hd, hn d hm⟩
  | updateContext => exact h
  | _ => trivial

theorem quiet_of_uses_link {α : Type} {p : Driver α} (h : p.Uses (Call.Link fun _ => True)) :
    p.Uses Call.Quiet :=
  Program.uses_mono (fun _ hc => quiet_of_bus (bus_of_link hc)) h

theorem quiet_of_traffic {handle : BthHandle} {c : Call} (h : c.Traffic handle) : c.Quiet := by
  rcases h with h | ⟨value, rfl⟩
  · cases c with
    | sendControlRequest packet => exact ⟨.disconnect, h.1, by decide⟩
    | updateContext => exact h
    | _ => trivial
  · trivial

theorem quiet_wireChildOutputReportEvtTimerFunc :
    (wireChildOutputReportEvtTimerFunc address).Uses Call.Quiet := by
  refine Program.uses_bind (uses_call trivial) fun r => ?_
  cases r with
  | error => trivial
  | ok device =>
    dsimp only
    cases device.deviceType with
    | ps3Dualshock =>
      exact Program.uses_bind (uses_call trivial) fun _ =>
        Program.uses_bind (Program.uses_mono (fun _ => quiet_of_traffic)
          (traffic_of_transmit (transmit_of_signal signal_hidCommand))) fun _ =>
          trivial
    | _ => trivial

theorem quiet_dispatchPacket {device : BthDevice} :
    (dispatchPacket device buffer).Uses Call.Quiet :=
  Program.uses_mono (fun _ => quiet_of_traffic) (Program.ensures_uses traffic_dispatchPacket)

theorem quiet_wireShockEvtUsbBulkReadPipeReadComplete {n : Nat} :
    (wireShockEvtUsbBulkReadPipeReadComplete buffer n).Uses Call.Quiet := by
  refine Program.uses_ite (fun _ => trivial) fun _ => ?_
  refine Program.uses_bind
    (quiet_of_uses_link link_wireBusGetPdoAddressDescriptionByHandle) fun r => ?_
  cases r with
  | none => trivial
  | some entry =>
    exact Program.uses_bind quiet_dispatchPacket fun _ =>
      Program.uses_bind (quiet_of_uses_link (link_wireBusSetPdoAddressDescription trivial)) fun _ => trivial

end

section

variable {r : Radio} {w : World}

theorem undisturbed_of_eq {v : World} (h : v.radio = w.radio) (hw : r.Undisturbed w.radio) :
    r.Undisturbed v.radio := by rwa [h]

theorem undisturbed_sendControl {packet : List BYTE} {c : HciCommand}
    (h : commandOfPacket packet = some c) (hc : c ∉ startupCommands)
    (hw : r.Undisturbed w.radio) : r.Undisturbed (w.sendControl packet).radio := by
  refine ⟨hw.started, hw.disableSSP, ?_, ?_⟩
  · intro x hx
    have hx : x ∈ w.radio.issued ∨ x = (c, w.environment.controlStatus 0) := by
      simpa [World.radio, World.sendControl, Output.issued, h] using hx
    rcases hx with hx | rfl
    · exact hw.issued x hx
    · exact hc
  · exact Radio.consumed_issue hw.status c

theorem radio_emit {o : Output} (h : o.issued = none) : (w.emit o).radio = w.radio := by
  simp [World.radio, World.emit, h]

theorem radio_createHandle : w.createHandle.2.radio = w.radio := by
  unfold World.createHandle
  split <;> rfl

theorem radio_retrieveNextRequest {queue : Option Handle} :
    (w.retrieveNextRequest queue).2.radio = w.radio := by
  obtain ⟨queues, hq⟩ := w.retrieveNextRequest_world queue
  rw [hq]
  rfl

theorem undisturbed_respond {c : Call} (hc : c.Quiet) (hw : r.Undisturbed w.radio) :
    r.Undisturbed (respond c w).2.radio := by
  cases c with
  | updateContext => exact hc.elim
  | sendControlRequest packet =>
    obtain ⟨d, hd, hn⟩ := hc
    exact undisturbed_sendControl hd hn hw
  | childListUpdateAsMissing a => exact undisturbed_of_eq (radio_remove w a) hw
  | childListScan => exact undisturbed_of_eq (radio_removeAll w) hw
  | ioQueueCreate => exact undisturbed_of_eq radio_createHandle hw
  | timerCreate => exact undisturbed_of_eq radio_createHandle hw
  | timerStart timer => exact undisturbed_of_eq (radio_emit rfl) hw
  | exFreePoolWithTag p => exact undisturbed_of_eq (radio_free w p) hw
  | writeBulkPipe packet =>
    exact undisturbed_of_eq (by simp [respond, World.radio, World.sendBulk, Output.issued]) hw
  | ioQueueRetrieveNextRequest queue => exact undisturbed_of_eq radio_retrieveNextRequest hw
  | requestComplete request status => exact undisturbed_of_eq (radio_emit rfl) hw
  | requestCompleteWithInformation request status information output =>
    exact undisturbed_of_eq (radio_emit rfl) hw
  | _ => exact hw

theorem undisturbed_exec {α : Type} {p : Driver α} (hp : p.Uses Call.Quiet)
    (hw : r.Undisturbed w.radio) : r.Undisturbed (exec p w).2.radio :=
  exec_invariant (I := fun w => r.Undisturbed w.radio) (fun _ _ => undisturbed_respond) hp hw

end

section

variable (w : World)

theorem undisturbed_clearLog : w.radio.Undisturbed w.clearLog.radio :=
  ⟨rfl, rfl, by simp [World.radio, World.clearLog], w.radio.consumed_refl⟩

theorem radio_step_d0Entry : (w.step .d0Entry).radio = w.radio.fresh.issue .reset :=
  radio_wireShockEvtDeviceD0Entry w.clearLog

theorem radio_step_d0Exit : (w.step .d0Exit).radio = w.radio.fresh.issue .reset :=
  radio_wireShockEvtDeviceD0Exit w.clearLog

theorem radio_dispatchEvent_of_answer {event : HciEvent} {buffer : Buffer} {n : Nat} {a : Answer}
    (h : hciAnswer buffer event = some a) :
    (exec (dispatchEvent event buffer n) w).2.radio = w.radio.answered a := by
  cases event with
  | commandComplete =>
    obtain ⟨c, hc, rfl⟩ := Option.map_eq_some_iff.mp h
    rw [dispatchEvent, hc, radio_hciCommandCompleteEv]
    rfl
  | commandStatus =>
    by_cases hb : buffer 2 = 0
    · simp [hciAnswer, hb] at h
    · rw [hciAnswer, if_neg hb] at h
      obtain ⟨c, hc, rfl⟩ := Option.map_eq_some_iff.mp h
      rw [dispatchEvent, hc, radio_hciCommandStatusEv, if_neg hb]
      rfl
  | _ => cases h

theorem radio_step_of_answer {e : Event} {a : Answer} (h : e.answer = some a) :
    (w.step e).radio = w.radio.fresh.answered a := by
  cases e with
  | hci buffer n =>
    obtain ⟨event, he, ha⟩ := Option.bind_eq_some_iff.mp h
    rw [step_hci, he]
    exact radio_dispatchEvent_of_answer w.clearLog ha
  | _ => cases h

theorem undisturbed_dispatchEvent {event : HciEvent} {buffer : Buffer} {n : Nat}
    (h : hciAnswer buffer event = none) :
    w.radio.Undisturbed (exec (dispatchEvent event buffer n) w.clearLog).2.radio := by
  have h₀ := undisturbed_clearLog w
  cases event with
  | commandComplete =>
    have hc : commandOf buffer = none := Option.map_eq_none_iff.mp h
    rw [dispatchEvent, hc]
    exact undisturbed_of_eq (radio_hciCommandCompleteEv_none _ _) h₀
  | commandStatus =>
    cases hc : commandOf buffer with
    | none =>
      rw [dispatchEvent, hc]
      exact undisturbed_of_eq (radio_hciCommandStatusEv_none _ _) h₀
    | some c =>
      have hb : buffer 2 = 0 := by simpa [hciAnswer, hc] using h
      rw [dispatchEvent, hc]
      refine undisturbed_of_eq ?_ h₀
      rw [radio_hciCommandStatusEv, if_pos hb]
  | connectionRequest => exact undisturbed_exec (quiet_of_uses_link (link_hciConnectionRequestEv trivial)) h₀
  | connectionComplete => exact undisturbed_exec (quiet_of_uses_link (link_hciConnectionCompleteEv trivial)) h₀
  | disconnectionComplete =>
    exact undisturbed_exec (quiet_of_uses_link (link_hciDisconnectionCompleteEv fun _ => trivial)) h₀
  | remoteNameRequestComplete =>
    exact undisturbed_exec (quiet_of_uses_link (link_hciRemoteNameRequestCompleteEv trivial)) h₀
  | _ => exact h₀

theorem undisturbed_step {e : Event} (h : e.answer = none) (hp : e.isPower = false) :
    w.radio.Undisturbed (w.step e).radio := by
  have h₀ := undisturbed_clearLog w
  cases e with
  | hci buffer n =>
    rw [step_hci]
    cases he : receivedEvent buffer n with
    | none => exact h₀
    | some event =>
      have ha : hciAnswer buffer event = none := by simpa [Event.answer, he] using h
      exact undisturbed_dispatchEvent w ha
  | acl buffer n => exact undisturbed_exec quiet_wireShockEvtUsbBulkReadPipeReadComplete h₀
  | createDevice a =>
    have hq : (wireShockEvtWdfChildListCreateDevice a).Uses Call.Quiet :=
      quiet_of_uses_link (link_wireShockEvtWdfChildListCreateDevice trivial)
    exact step_createDevice_invariant w (I := fun v => w.radio.Undisturbed v.radio)
      (fun _ hv => hv) (undisturbed_exec hq h₀)
  | timer a => exact undisturbed_exec quiet_wireChildOutputReportEvtTimerFunc h₀
  | d0Entry => cases hp
  | d0Exit => cases hp

end

end WireShock
