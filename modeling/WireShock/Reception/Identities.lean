import WireShock.Connections.ChildViews
import WireShock.Interaction.Episodes
import WireShock.Startup.Reaction

namespace WireShock
open Interaction

structure Identity where
  deviceType : DsDeviceType
  configuration : DsDriverConfiguration
deriving DecidableEq, Repr

def identityView : ChildView Identity where
  of device := ⟨device.deviceType, device.configuration⟩
  retype type i := { i with deviceType := type }
  handle _ _ := rfl
  deviceType _ _ := rfl
  remoteName _ _ := rfl
  report _ _ := rfl
  created _ _ _ := rfl

theorem knows_identity {w : World} {e : Event} {a : BdAddr} {later : Identity}
    (h : identityView.look (w.step e) a = some later) : Knows identityView w e a later := by
  cases e with
  | acl buffer n =>
    have hd : ∀ device other : BthDevice, device.SameUpToChannels other →
        identityView.of other = identityView.of device :=
      fun _ _ hs => (congrArg identityView.of hs :)
    exact knows_of_recalls (recalls_of_eq (look_step_acl hd w buffer n)) rfl h
  | _ => exact knows_step_of_ne_acl rfl h

-- the address that a radio reports as its own
def Event.hostAddress : Event → Option BdAddr
  | .hci buffer n =>
    if receivedEvent buffer n = some .commandComplete ∧ commandOf buffer = some .readBdAddr ∧
        hciCommandSuccess buffer = true then
      some (BdAddr.fromBuffer buffer 6)
    else none
  | _ => none

def Call.KeepsHostAddress : Call → Prop
  | .updateContext update => ∀ c, (update c).bluetoothHostAddress = c.bluetoothHostAddress
  | _ => True

section

variable (w : World)

theorem hostAddress_respond {c : Call} (hc : c.KeepsHostAddress) :
    (respond c w).2.context.bluetoothHostAddress = w.context.bluetoothHostAddress := by
  cases c with
  | updateContext update => exact hc w.context
  | childListUpdateAsMissing a =>
    exact congrArg DeviceContext.bluetoothHostAddress (context_remove w a)
  | childListScan => exact congrArg DeviceContext.bluetoothHostAddress (context_removeAll w)
  | ioQueueCreate =>
    rw [respond, World.createHandle]
    split <;> rfl
  | timerCreate =>
    rw [respond, World.createHandle]
    split <;> rfl
  | ioQueueRetrieveNextRequest queue =>
    obtain ⟨queues, hq⟩ := w.retrieveNextRequest_world queue
    rw [respond, hq]
  | _ => rfl

theorem hostAddress_exec {α : Type} {p : Driver α} (hp : p.Uses Call.KeepsHostAddress) :
    (exec p w).2.context.bluetoothHostAddress = w.context.bluetoothHostAddress :=
  exec_invariant (I := fun v => v.context.bluetoothHostAddress = w.context.bluetoothHostAddress)
    (fun _ v hc hv => (hostAddress_respond v hc).trans hv) hp rfl

theorem hostAddress_quiet {α : Type} {p : Driver α} (hp : p.Uses Call.Quiet) :
    (exec p w).2.context.bluetoothHostAddress = w.context.bluetoothHostAddress := by
  refine hostAddress_exec w (Program.uses_mono (fun c hc => ?_) hp)
  cases c with
  | updateContext update => exact hc.elim
  | _ => trivial

theorem hostAddress_commandComplete (buffer : Buffer) (command : Option HciCommand) :
    (exec (hciCommandCompleteEv buffer command) w).2.context.bluetoothHostAddress =
      if command = some .readBdAddr ∧ hciCommandSuccess buffer = true then
        BdAddr.fromBuffer buffer 6
      else w.context.bluetoothHostAddress := by
  cases command with
  | none => rfl
  | some c =>
    rw [context_hciCommandCompleteEv]
    cases hs : hciCommandSuccess buffer <;> cases c <;> simp [DeviceContext.done, hs]

theorem hostAddress_commandStatus (buffer : Buffer) (command : Option HciCommand) :
    (exec (hciCommandStatusEv buffer command) w).2.context.bluetoothHostAddress =
      w.context.bluetoothHostAddress := by
  rw [context_hciCommandStatusEv]
  split <;> rfl

theorem hostAddress_d0Entry : (exec wireShockEvtDeviceD0Entry w).2.context.bluetoothHostAddress =
    w.context.bluetoothHostAddress := by
  refine hostAddress_exec w (Program.uses_bind ?_ fun _ => Program.uses_bind ?_ fun _ => trivial)
  · refine Program.uses_bind (uses_call trivial) fun _ => Program.uses_ite (fun _ => trivial) fun _ => ?_
    refine Program.uses_bind (uses_call trivial) fun _ => Program.uses_ite (fun _ => trivial) fun _ => ?_
    exact uses_call trivial
  · exact Program.uses_bind (uses_call trivial) fun _ => uses_call trivial

theorem hostAddress_d0Exit : (exec wireShockEvtDeviceD0Exit w).2.context.bluetoothHostAddress =
    w.context.bluetoothHostAddress := by
  refine hostAddress_exec w (Program.uses_bind (uses_call trivial) fun _ => ?_)
  refine Program.uses_bind ?_ fun _ => Program.uses_bind (uses_call trivial) fun _ => ?_
  · exact Program.uses_bind (uses_call trivial) fun _ => uses_call trivial
  · exact Program.uses_bind (uses_call trivial) fun _ =>
      Program.uses_bind (uses_call trivial) fun _ => trivial

theorem hostAddress_dispatchEvent {buffer : Buffer} {n : Nat} {event : HciEvent}
    (he : event ≠ .commandComplete) :
    (exec (dispatchEvent event buffer n) w).2.context.bluetoothHostAddress =
      w.context.bluetoothHostAddress := by
  cases event with
  | commandComplete => exact absurd rfl he
  | commandStatus => exact hostAddress_commandStatus w buffer _
  | connectionRequest =>
    exact hostAddress_quiet w (quiet_of_uses_link (link_hciConnectionRequestEv trivial))
  | connectionComplete =>
    exact hostAddress_quiet w (quiet_of_uses_link (link_hciConnectionCompleteEv trivial))
  | disconnectionComplete =>
    exact hostAddress_quiet w (quiet_of_uses_link (link_hciDisconnectionCompleteEv fun _ => trivial))
  | remoteNameRequestComplete =>
    exact hostAddress_quiet w (quiet_of_uses_link (link_hciRemoteNameRequestCompleteEv trivial))
  | _ => rfl

theorem hostAddress_step (e : Event) : (w.step e).context.bluetoothHostAddress =
    e.hostAddress.getD w.context.bluetoothHostAddress := by
  cases e with
  | hci buffer n =>
    rw [step_hci, Event.hostAddress]
    cases he : receivedEvent buffer n with
    | none => rfl
    | some event =>
      rw [Option.elim_some]
      by_cases hc : event = .commandComplete
      · rw [hc, dispatchEvent, hostAddress_commandComplete]
        by_cases hs : commandOf buffer = some .readBdAddr ∧ hciCommandSuccess buffer = true
        · rw [if_pos hs, if_pos ⟨rfl, hs⟩]
          rfl
        · rw [if_neg hs, if_neg fun h => hs h.2]
          rfl
      · rw [hostAddress_dispatchEvent _ hc, if_neg fun h => hc (Option.some.inj h.1)]
        rfl
  | acl buffer n =>
    exact hostAddress_quiet w.clearLog quiet_wireShockEvtUsbBulkReadPipeReadComplete
  | createDevice a =>
    exact step_createDevice_invariant w
      (I := fun v => v.context.bluetoothHostAddress = w.context.bluetoothHostAddress)
      (fun _ hv => hv) (hostAddress_quiet w.clearLog
        (quiet_of_uses_link (link_wireShockEvtWdfChildListCreateDevice trivial)))
  | timer a => exact hostAddress_quiet w.clearLog quiet_wireChildOutputReportEvtTimerFunc
  | d0Entry => exact hostAddress_d0Entry w.clearLog
  | d0Exit => exact hostAddress_d0Exit w.clearLog

end

end WireShock
