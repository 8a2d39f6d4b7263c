import WireShock.Concurrency.Interleaving

namespace WireShock
open Interaction

def Handler.requests : Handler → Option BdAddr
  | .interruptPipe buffer n =>
    if receivedEvent buffer n = some .connectionRequest then some (BdAddr.fromBuffer buffer 2)
    else none
  | _ => none

def storeMonitor (requested : Option BdAddr) : Monitor framework (Option BdAddr) where
  allowed
    | .childListAddOrUpdateAsPresent a _, m => m = some a ∨ requested = some a
    | _, _ => True
  admits _ _ := True
  observe
    | .childListRetrieveAddressDescription a, r, _ => r.toOption.map fun _ => a
    | _, _, m => m

def Call.Recordless : Call → Prop
  | .childListAddOrUpdateAsPresent _ _ => False
  | .childListRetrieveAddressDescription _ => False
  | _ => True

section

variable {requested : Option BdAddr} {m : Option BdAddr} {a : BdAddr} {device : BthDevice}
  {buffer : Buffer}

theorem neutral_of_recordless {c : Call} (h : c.Recordless) :
    (storeMonitor requested).Neutral c := by
  cases c <;> first | exact fun _ => ⟨trivial, fun _ => rfl⟩ | exact h.elim

theorem recordless_of_traffic {handle : BthHandle} {c : Call} (h : c.Traffic handle) :
    c.Recordless := by
  rcases h with h | ⟨value, rfl⟩
  · cases c <;> trivial
  · trivial

theorem recordless_of_setup {c : Call} (h : c.Setup) : c.Recordless := by
  cases c <;> trivial

theorem recordless_of_send {c : Call} (h : c.Send) : c.Recordless := by
  cases c <;> trivial

theorem follows_recordless {α : Type} {p : Driver α} (hp : p.Uses Call.Recordless) :
    (storeMonitor requested).Follows p (fun _ n => n = m) m :=
  Monitor.follows_of_uses (fun _ => neutral_of_recordless) hp

theorem follows_any {α : Type} {p : Driver α} (hp : p.Uses Call.Recordless) :
    (storeMonitor requested).Follows p (fun _ _ => True) m :=
  Monitor.follows_mono (fun _ _ _ => trivial) (follows_recordless hp)

theorem retrieved_wireBusGetPdoAddressDescription :
    (storeMonitor requested).Follows (wireBusGetPdoAddressDescription a)
      (fun r n => r.isSome → n = some a) m := by
  refine Monitor.follows_bind
    (Q := fun (r : Except NTSTATUS BthDevice) n => n = r.toOption.map fun _ => a)
    (Monitor.follows_perform trivial fun _ _ => rfl) fun r n hn => ?_
  cases r with
  | error status => exact Monitor.follows_pure fun h => nomatch h
  | ok device => exact Monitor.follows_pure fun _ => hn

theorem stores_wireBusSetPdoAddressDescription (h : m = some a) :
    (storeMonitor requested).Follows (wireBusSetPdoAddressDescription a device) (fun _ _ => True)
      m :=
  Monitor.follows_bind (Q := fun _ _ => True)
    (Monitor.follows_perform (Or.inl h) fun _ _ => trivial) fun _ _ _ =>
      Monitor.follows_pure trivial

theorem stores_withDevice {f : BthDevice → Driver Unit}
    (hf : ∀ device, (storeMonitor requested).Follows (f device) (fun _ _ => True) (some a)) :
    (storeMonitor requested).Follows (do match ← wireBusGetPdoAddressDescription a with
        | none => return
        | some device => f device : Driver Unit) (fun _ _ => True) m := by
  refine Monitor.follows_bind retrieved_wireBusGetPdoAddressDescription fun r n hn => ?_
  cases r with
  | none => exact Monitor.follows_pure trivial
  | some device =>
    rw [hn rfl]
    exact hf device

theorem follows_then {α β : Type} {p : Driver α} {f : α → Driver β} (hp : p.Uses Call.Recordless)
    (hf : ∀ r, (storeMonitor requested).Follows (f r) (fun _ _ => True) m) :
    (storeMonitor requested).Follows (p >>= f) (fun _ _ => True) m :=
  Monitor.follows_bind (follows_recordless hp) fun r _ hn => hn ▸ hf r

theorem stores_setAndReturn :
    (storeMonitor requested).Follows
      (do let _ ← wireBusSetPdoAddressDescription a device : Driver Unit) (fun _ _ => True)
      (some a) :=
  Monitor.follows_bind (stores_wireBusSetPdoAddressDescription rfl) fun _ _ _ =>
    Monitor.follows_pure trivial

theorem recordless_assign {value : Assignment} : (device.assign value).Uses Call.Recordless :=
  Program.uses_bind (uses_call trivial) fun _ => trivial

theorem recordless_freeIfPresent {p : Option Pointer} : (freeIfPresent p).Uses Call.Recordless := by
  cases p with
  | none => trivial
  | some p => exact uses_call trivial

theorem stores_wireBusSetChildHandle {handle : BthHandle} :
    (storeMonitor requested).Follows (wireBusSetChildHandle a handle) (fun _ _ => True) m :=
  stores_withDevice fun _ => follows_then recordless_assign fun _ => stores_setAndReturn

theorem stores_wireBusSetChildDeviceType {deviceType : DsDeviceType} :
    (storeMonitor requested).Follows (wireBusSetChildDeviceType a deviceType) (fun _ _ => True) m :=
  stores_withDevice fun _ => follows_then recordless_assign fun _ => stores_setAndReturn

theorem stores_wireBusSetChildRemoteName {name : List BYTE} :
    (storeMonitor requested).Follows (wireBusSetChildRemoteName a name) (fun _ _ => True) m := by
  refine stores_withDevice fun _ => follows_then recordless_freeIfPresent fun _ => ?_
  refine follows_then (uses_call trivial) fun _ => follows_then recordless_assign fun _ => ?_
  exact follows_then (uses_call trivial) fun _ => stores_setAndReturn

theorem stores_wireBusInitChildOutputReport :
    (storeMonitor requested).Follows (wireBusInitChildOutputReport a) (fun _ _ => True) m := by
  refine stores_withDevice fun device => follows_then ?_ fun _ => stores_setAndReturn
  refine Program.uses_bind recordless_freeIfPresent fun _ => ?_
  cases device.deviceType with
  | ps3Dualshock =>
    exact Program.uses_bind (uses_call trivial) fun _ =>
      Program.uses_bind recordless_assign fun _ =>
        Program.uses_bind (uses_call trivial) fun _ => trivial
  | _ => trivial

theorem retrieved_retrieveNextDevice {handle : BthHandle} {list : List (BdAddr × Bool)} :
    (storeMonitor requested).Follows (retrieveNextDevice handle list)
      (fun r n => ∀ entry ∈ r, n = some entry.1) m := by
  induction list generalizing m with
  | nil => exact Monitor.follows_pure fun _ h => nomatch h
  | cons entry rest ih =>
    obtain ⟨address, created⟩ := entry
    refine Monitor.follows_ite (fun _ => Monitor.follows_pure fun _ h => nomatch h) fun _ => ?_
    refine Monitor.follows_bind retrieved_wireBusGetPdoAddressDescription fun r n hn => ?_
    cases r with
    | none => exact Monitor.follows_pure fun _ h => nomatch h
    | some device =>
      refine Monitor.follows_ite (fun _ => Monitor.follows_pure ?_) fun _ => ih
      rintro entry he
      cases he
      exact hn rfl

theorem retrieved_wireBusGetPdoAddressDescriptionByHandle {handle : BthHandle} :
    (storeMonitor requested).Follows (wireBusGetPdoAddressDescriptionByHandle handle)
      (fun r n => ∀ entry ∈ r, n = some entry.1) m :=
  Monitor.follows_bind (follows_any (uses_call trivial)) fun _ _ _ => retrieved_retrieveNextDevice

theorem stores_wireShockEvtUsbBulkReadPipeReadComplete {n : Nat} :
    (storeMonitor requested).Follows (wireShockEvtUsbBulkReadPipeReadComplete buffer n)
      (fun _ _ => True) m := by
  refine Monitor.follows_ite (fun _ => Monitor.follows_pure trivial) fun _ => ?_
  refine Monitor.follows_bind retrieved_wireBusGetPdoAddressDescriptionByHandle fun r n hn => ?_
  cases r with
  | none => exact Monitor.follows_pure trivial
  | some entry =>
    rw [hn entry rfl]
    exact follows_then (Program.uses_mono (fun _ => recordless_of_traffic)
      (Program.ensures_uses traffic_dispatchPacket)) fun _ => stores_setAndReturn

theorem stores_hciConnectionCompleteEv :
    (storeMonitor requested).Follows (hciConnectionCompleteEv buffer) (fun _ _ => True) m := by
  refine Monitor.follows_ite (fun _ => ?_) fun _ => Monitor.follows_pure trivial
  refine Monitor.follows_bind stores_wireBusSetChildHandle fun _ _ _ => ?_
  exact follows_then (Program.uses_mono (fun _ => recordless_of_send) send_hciCommandWith) fun _ =>
    Monitor.follows_pure trivial

theorem stores_hciDisconnectionCompleteEv :
    (storeMonitor requested).Follows (hciDisconnectionCompleteEv buffer) (fun _ _ => True) m := by
  refine Monitor.follows_ite (fun _ => ?_) fun _ => Monitor.follows_pure trivial
  refine Monitor.follows_bind retrieved_wireBusGetPdoAddressDescriptionByHandle fun r n _ => ?_
  cases r with
  | none => exact Monitor.follows_pure trivial
  | some entry =>
    exact follows_then (uses_call trivial) fun _ => Monitor.follows_pure trivial

theorem stores_hciRemoteNameRequestCompleteEv {n : Nat} :
    (storeMonitor requested).Follows (hciRemoteNameRequestCompleteEv buffer n) (fun _ _ => True)
      m := by
  refine Monitor.follows_ite (fun _ => ?_) fun _ => Monitor.follows_pure trivial
  refine Monitor.follows_bind stores_wireBusSetChildRemoteName fun _ _ _ => ?_
  refine Monitor.follows_bind (Q := fun _ _ => True) ?_ fun _ _ _ =>
    stores_wireBusInitChildOutputReport
  unfold setDeviceTypeOfRemoteName
  cases deviceTypeOfRemoteName (buffer 9) with
  | none => exact Monitor.follows_pure trivial
  | some type => exact stores_wireBusSetChildDeviceType

theorem stores_hciConnectionRequestEv :
    (storeMonitor (some (BdAddr.fromBuffer buffer 2))).Follows (hciConnectionRequestEv buffer)
      (fun _ _ => True) m := by
  have hsend : ∀ {c : HciCommand} {size : Nat} {payload : List BYTE},
      (hciCommandWith c size payload).Uses Call.Recordless :=
    Program.uses_mono (fun _ => recordless_of_send) send_hciCommandWith
  refine follows_then (uses_call trivial) fun unwritten => ?_
  refine Monitor.follows_bind (Q := fun _ _ => True)
    (Monitor.follows_perform trivial fun _ _ => trivial) fun r n _ => ?_
  refine Monitor.follows_bind (Q := fun _ _ => True)
    (Monitor.follows_perform (Or.inr rfl) fun _ _ => trivial) fun status n _ => ?_
  refine Monitor.follows_ite (fun _ => Monitor.follows_pure trivial) fun _ => ?_
  refine follows_then hsend fun status => ?_
  refine Monitor.follows_ite (fun _ => Monitor.follows_pure trivial) fun _ => ?_
  exact follows_then hsend fun _ => Monitor.follows_pure trivial

theorem stores_dispatchEvent {event : HciEvent} {n : Nat} (h : event ≠ .connectionRequest) :
    (storeMonitor requested).Follows (dispatchEvent event buffer n) (fun _ _ => True) m := by
  cases event with
  | commandComplete =>
    exact follows_any (Program.uses_mono (fun _ => recordless_of_setup) setup_hciCommandCompleteEv)
  | commandStatus =>
    exact follows_any (Program.uses_mono (fun _ => recordless_of_setup) setup_hciCommandStatusEv)
  | connectionRequest => exact absurd rfl h
  | connectionComplete => exact stores_hciConnectionCompleteEv
  | disconnectionComplete => exact stores_hciDisconnectionCompleteEv
  | remoteNameRequestComplete => exact stores_hciRemoteNameRequestCompleteEv
  | _ => exact Monitor.follows_pure trivial

theorem recordless_wireShockEvtWdfChildListCreateDevice :
    (wireShockEvtWdfChildListCreateDevice a).Uses Call.Recordless := by
  refine Program.uses_bind (uses_call trivial) fun r => ?_
  cases r with
  | error => trivial
  | ok device =>
    refine Program.uses_bind (uses_call trivial) fun r => ?_
    cases r with
    | error => trivial
    | ok queue =>
      refine Program.uses_bind recordless_assign fun device => ?_
      refine Program.uses_bind (uses_call trivial) fun r => ?_
      cases r with
      | error => trivial
      | ok timer => exact Program.uses_bind recordless_assign fun _ => uses_call trivial

theorem stores_program (handler : Handler) :
    (storeMonitor handler.requests).Follows handler.program (fun _ _ => True) m := by
  cases handler with
  | interruptPipe buffer n =>
    rw [Handler.program, wireShockEvtUsbInterruptPipeReadComplete, Handler.requests]
    refine Monitor.follows_ite (fun _ => Monitor.follows_pure trivial) fun hn => ?_
    rw [receivedEvent, if_neg hn]
    cases HciEvent.ofCode (buffer 0) with
    | none => exact Monitor.follows_pure trivial
    | some event =>
      by_cases he : event = .connectionRequest
      · subst he
        exact stores_hciConnectionRequestEv
      · exact stores_dispatchEvent he
  | bulkReadPipe buffer n => exact stores_wireShockEvtUsbBulkReadPipeReadComplete
  | createDevice a =>
    exact follows_then recordless_wireShockEvtWdfChildListCreateDevice fun _ =>
      Monitor.follows_pure trivial

end

end WireShock
