import WireShock.Requests.BufferWrites
import WireShock.Semantics.Routing

namespace WireShock
open Interaction

namespace DsHid

-- the calls that reach no request but the one in the handler's hands, and forward none
def Call.For (r : Request) : Call → Prop
  | .requestForwardToIoQueue _ _ => False
  | .memoryCopyFromBuffer t _ => t = r
  | .requestComplete t _ => t = r
  | _ => True

section

variable {r : Request} {address : BdAddr}

theorem for_call {c : Call} (hc : c.For r) : (call c).Uses (Call.For r) :=
  Program.ensures_perform hc fun _ => trivial

theorem for_dsHidRequestCopyFromBuffer (source : Option (List BYTE)) :
    (dsHidRequestCopyFromBuffer r source).Uses (Call.For r) := by
  cases source with
  | none => trivial
  | some data =>
    refine Program.uses_bind (for_call trivial) fun _ => ?_
    refine Program.uses_ite (fun _ => trivial) fun _ => ?_
    refine Program.uses_bind (for_call trivial) fun (length : Nat) => ?_
    refine Program.uses_ite (fun _ => trivial) fun _ => ?_
    refine Program.uses_bind (for_call rfl) fun _ => ?_
    refine Program.uses_ite (fun _ => trivial) fun _ => ?_
    exact Program.uses_bind (for_call trivial) fun _ => trivial

theorem for_dsHidGetStringId : (dsHidGetStringId r).Uses (Call.For r) :=
  Program.uses_bind (for_call trivial) fun _ => trivial

theorem for_dsHidGetIndexedString (dsType : DsDeviceType) :
    (dsHidGetIndexedString r dsType).Uses (Call.For r) := by
  refine Program.uses_bind for_dsHidGetStringId fun id => ?_
  refine Program.uses_ite (fun _ => ?_) fun _ => trivial
  cases dsType with
  | ps3Dualshock =>
    exact Program.uses_ite (fun _ => trivial) fun _ => for_dsHidRequestCopyFromBuffer _
  | _ => trivial

theorem for_dsHidGetString (dsType : DsDeviceType) :
    (dsHidGetString r dsType).Uses (Call.For r) := by
  refine Program.uses_bind for_dsHidGetStringId fun id => ?_
  refine Program.uses_ite (fun _ => trivial) fun _ => ?_
  refine Program.uses_ite (fun _ => for_dsHidRequestCopyFromBuffer _) fun _ => ?_
  exact Program.uses_ite (fun _ => for_dsHidRequestCopyFromBuffer _) fun _ => trivial

theorem for_dsHidGetDeviceDescriptor (mode : DsHidDeviceMode) :
    (dsHidGetDeviceDescriptor r mode).Uses (Call.For r) := by
  refine Program.uses_bind (for_call trivial) fun _ => ?_
  refine Program.uses_ite (fun _ => trivial) fun _ => ?_
  cases mode with
  | other value => trivial
  | _ => exact Program.uses_bind (for_call rfl) fun _ => trivial

theorem for_copyReportDescriptor (descriptor : HidDescriptor) (reportDescriptor : List BYTE) :
    (copyReportDescriptor r descriptor reportDescriptor).Uses (Call.For r) :=
  Program.uses_ite (fun _ => trivial) fun _ => Program.uses_bind (for_call rfl) fun _ => trivial

theorem for_dsHidGetReportDescriptor (mode : DsHidDeviceMode) :
    (dsHidGetReportDescriptor r mode).Uses (Call.For r) := by
  refine Program.uses_bind (for_call trivial) fun _ => ?_
  refine Program.uses_ite (fun _ => trivial) fun _ => ?_
  -- the descriptors are named, or the check of their lengths is evaluated
  generalize ds3HidDescriptorSplitMode = split, ds3HidDescriptorSingleMode = single
  cases mode with
  | single => exact for_copyReportDescriptor single _
  | multi => exact for_copyReportDescriptor split _
  | other value => trivial

theorem for_reportBytesCopied (result : NTSTATUS × Nat) :
    (reportBytesCopied r result).Uses (Call.For r) :=
  Program.uses_ite (fun _ => trivial) fun _ => Program.uses_bind (for_call trivial) fun _ => trivial

theorem for_reverseBetween (lo hi : Nat) : (reverseBetween r lo hi).Uses (Call.For r) := by
  induction lo, hi using reverseBetween.induct with
  | case1 lo hi h ih =>
    rw [reverseBetween, if_pos h]
    refine Program.uses_bind (for_call trivial) fun _ => ?_
    refine Program.uses_bind (for_call trivial) fun _ => ?_
    refine Program.uses_bind (for_call trivial) fun _ => ?_
    exact Program.uses_bind (for_call trivial) fun _ => ih
  | case2 lo hi h =>
    rw [reverseBetween, if_neg h]
    trivial

theorem for_writeAddress (a : BdAddr) : (writeAddress r a).Uses (Call.For r) :=
  Program.uses_bind (for_call trivial) fun _ => for_reverseBetween _ _

theorem for_getFeature (context : DeviceContext) (packet : HidXferPacket) :
    (getFeature context address r packet).Uses (Call.For r) := by
  refine Program.uses_ite (fun _ => ?_) fun _ => ?_
  · exact Program.uses_bind (for_writeAddress _) fun _ => trivial
  refine Program.uses_ite (fun _ => Program.uses_bind (for_call trivial) fun reply => ?_) fun _ => ?_
  · exact Program.uses_ite (fun _ => trivial) fun _ =>
      Program.uses_bind (for_writeAddress _) fun _ => trivial
  refine Program.uses_ite (fun _ => Program.uses_bind (for_call trivial) fun reply => ?_) fun _ => ?_
  · exact Program.uses_ite (fun _ => trivial) fun _ =>
      Program.uses_bind (for_call trivial) fun _ => trivial
  · exact Program.uses_ite (fun _ => Program.uses_bind (for_call trivial) fun _ => trivial)
      fun _ => trivial

theorem for_withTransferPacket {length : RequestParameters → Nat}
    {f : HidXferPacket → Driver NTSTATUS} (hf : ∀ packet, (f packet).Uses (Call.For r)) :
    (do match ← dsHidRequestGetHidXferPacket r length with
        | .error status => return status
        | .ok packet => f packet : Driver NTSTATUS).Uses (Call.For r) := by
  refine Program.uses_bind ?_ fun result => ?_
  · refine Program.uses_bind (for_call trivial) fun params => ?_
    exact Program.uses_ite (fun _ => trivial) fun _ =>
      Program.uses_bind (for_call trivial) fun _ => trivial
  · cases result with
    | error status => trivial
    | ok packet => exact hf packet

theorem for_dispatchIoControlCode (context : DeviceContext) (device : BthDevice)
    {code : IoControlCode} (hc : code ≠ .hidReadReport) :
    (dispatchIoControlCode context address device r code).Uses (Call.For r) := by
  cases code with
  | hidReadReport => exact absurd rfl hc
  | hidGetDeviceDescriptor =>
    exact Program.uses_bind (for_dsHidGetDeviceDescriptor _) fun _ => for_reportBytesCopied _
  | hidGetReportDescriptor =>
    exact Program.uses_bind (for_dsHidGetReportDescriptor _) fun _ => for_reportBytesCopied _
  | hidGetFeature =>
    refine for_withTransferPacket fun packet => Program.uses_bind (for_getFeature _ _) fun _ => ?_
    exact Program.uses_bind (for_call trivial) fun _ => trivial
  | hidSetFeature => exact for_withTransferPacket fun _ => trivial
  | hidGetString =>
    refine Program.uses_bind (for_call trivial) fun reply => ?_
    exact Program.uses_ite (fun _ => trivial) fun _ => for_dsHidGetString _
  | hidGetIndexedString =>
    refine Program.uses_bind (for_call trivial) fun reply => ?_
    exact Program.uses_ite (fun _ => trivial) fun _ => for_dsHidGetIndexedString _
  | hidGetDeviceAttributes => trivial
  | other code => trivial

theorem for_handler {code : IoControlCode} (hc : code ≠ .hidReadReport) :
    (wireChildEvtWdfIoQueueIoInternalDeviceControl address r code).Uses (Call.For r) := by
  refine Program.uses_bind (for_call trivial) fun context => ?_
  refine Program.uses_bind (for_call trivial) fun reply => ?_
  refine Program.uses_ite (fun _ => Program.uses_bind (for_call rfl) fun _ => trivial) fun _ => ?_
  refine Program.uses_bind (for_dispatchIoControlCode context _ hc) fun status => ?_
  exact Program.uses_ite (fun _ => for_call rfl) fun _ => trivial

end
end DsHid
namespace System

-- the state is what it was, but for what became of request r
structure Leaves (r : Request) (s t : System) : Prop where
  queues : t.world.queues = s.world.queues
  outputBuffers : ∀ u, u ≠ r → t.world.outputBuffers u = s.world.outputBuffers u
  completions : ∀ u ∈ t.world.completions, u ∈ s.world.completions ∨ u = r
  arrivals : t.arrivals = s.arrivals

section

variable {r : Request} {s t u : System} {a : BdAddr}

theorem leaves_of_eq (hq : t.world.queues = s.world.queues)
    (ho : t.world.outputBuffers = s.world.outputBuffers) (hl : t.world.log = s.world.log)
    (ha : t.arrivals = s.arrivals) : Leaves r s t where
  queues := hq
  outputBuffers u _ := congrFun ho u
  completions u hu := by
    rw [World.completions, hl] at hu
    exact .inl hu
  arrivals := ha

theorem leaves_refl : Leaves r s s := leaves_of_eq rfl rfl rfl rfl

theorem leaves_nextFramework : Leaves r s s.nextFramework := leaves_of_eq rfl rfl rfl rfl

theorem Leaves.trans (h : Leaves r s t) (hu : Leaves r t u) : Leaves r s u where
  queues := hu.queues.trans h.queues
  outputBuffers v hv := (hu.outputBuffers v hv).trans (h.outputBuffers v hv)
  completions v hv := (hu.completions v hv).elim (h.completions v) .inr
  arrivals := hu.arrivals.trans h.arrivals

theorem leaves_setOutputBuffer (data : List BYTE) : Leaves r s (s.setOutputBuffer r data) :=
  ⟨rfl, fun _ hu => Function.update_of_ne hu .., fun _ h => .inl h, rfl⟩

theorem leaves_copyToMemory (data : List BYTE) : Leaves r s (s.copyToMemory r data).2 := by
  unfold copyToMemory
  split
  · exact leaves_refl
  split
  · exact leaves_nextFramework.trans (leaves_setOutputBuffer _)
  · exact leaves_nextFramework

theorem leaves_complete (status : NTSTATUS) (information : Nat) (output : List BYTE) :
    Leaves r s (s.emit (.complete r status information output)) where
  queues := rfl
  outputBuffers _ _ := rfl
  completions u hu := by
    have he : (s.emit (.complete r status information output)).world.completions =
        s.world.completions ++ [r] := completions_emit s.world _
    rw [he] at hu
    exact (List.mem_append.mp hu).imp_right List.mem_singleton.mp
  arrivals := rfl

theorem leaves_respond {c : DsHid.Call} (hc : c.For r) : Leaves r s (DsHid.respond c s).2 := by
  cases c with
  | requestForwardToIoQueue t q => exact hc.elim
  | memoryCopyFromBuffer t data =>
    cases (hc : t = r)
    exact leaves_copyToMemory data
  | requestComplete t status =>
    cases (hc : t = r)
    exact leaves_complete status _ _
  | _ => exact leaves_of_eq rfl rfl rfl rfl

theorem leaves_exec {α : Type} {p : DsHid.Driver α} (hp : p.Uses (DsHid.Call.For r)) :
    Leaves r s (DsHid.exec p s).2 :=
  Program.run_invariant (h := DsHid.respond) (I := Leaves r s)
    (fun _ _ hc ht => ht.trans (leaves_respond hc)) hp leaves_refl

theorem exec_handler (code : DsHid.IoControlCode) :
    (DsHid.exec (DsHid.wireChildEvtWdfIoQueueIoInternalDeviceControl a r code) s).2 =
      if ntSuccess (s.describe a).1 then
        (DsHid.exec (do
          let status ← DsHid.dispatchIoControlCode s.world.context a (s.describe a).2 r code
          if status ≠ statusPending then
            DsHid.requestComplete r status) s.nextFramework).2
      else (DsHid.exec (DsHid.requestComplete r (s.describe a).1) s.nextFramework).2 := by
  cases h : ntSuccess (s.describe a).1 <;>
    simp [DsHid.wireChildEvtWdfIoQueueIoInternalDeviceControl, h]

theorem leaves_forward {queue : Option Handle} (h : ¬ ntSuccess (s.forward r queue).1 = true) :
    Leaves r s (s.forward r queue).2 := by
  cases queue with
  | none => exact leaves_refl
  | some q =>
    by_cases hs : ntSuccess s.status = true
    · simp [forward, hs] at h
    · rw [forward, if_neg hs]
      exact leaves_nextFramework

theorem exec_requestForwardToIoQueue (queue : Option Handle) :
    DsHid.exec (DsHid.requestForwardToIoQueue r queue) s = s.forward r queue := rfl

theorem exec_hidReadReport (context : DeviceContext) (device : BthDevice) :
    DsHid.exec (DsHid.dispatchIoControlCode context a device r .hidReadReport) s =
      (if ntSuccess (s.forward r device.hidInputReportQueue).1 then statusPending
        else (s.forward r device.hidInputReportQueue).1,
        (s.forward r device.hidInputReportQueue).2) := by
  cases h : ntSuccess (s.forward r device.hidInputReportQueue).1 <;>
    simp [DsHid.dispatchIoControlCode, exec_requestForwardToIoQueue, h]

-- a read joins its child's line, or is completed at once
theorem read_joins {device : BthDevice} (hd : s.describe a = (s.status, device))
    (hs : ntSuccess s.status = true)
    (hf : ntSuccess (s.nextFramework.forward r device.hidInputReportQueue).1 = true) :
    (DsHid.exec (DsHid.wireChildEvtWdfIoQueueIoInternalDeviceControl a r .hidReadReport) s).2 =
      (s.nextFramework.forward r device.hidInputReportQueue).2 := by
  rw [exec_handler, hd, if_pos hs, DsHid.exec_bind, exec_hidReadReport, if_pos hf]
  rfl

theorem read_refused {status : NTSTATUS} {device : BthDevice} (hd : s.describe a = (status, device))
    (hn : ¬ (ntSuccess status = true ∧
      ntSuccess (s.nextFramework.forward r device.hidInputReportQueue).1 = true)) :
    Leaves r s (DsHid.exec (DsHid.wireChildEvtWdfIoQueueIoInternalDeviceControl a r
      .hidReadReport) s).2 := by
  rw [exec_handler, hd]
  cases hs : ntSuccess status with
  | false => exact leaves_nextFramework.trans (leaves_complete _ _ _)
  | true =>
    have hf : ¬ ntSuccess (s.nextFramework.forward r device.hidInputReportQueue).1 = true :=
      fun hf => hn ⟨hs, hf⟩
    rw [if_pos rfl, DsHid.exec_bind, exec_hidReadReport, if_neg hf]
    have hforward := leaves_nextFramework.trans (leaves_forward hf)
    dsimp only
    rw [DsHid.exec_ite]
    split
    · exact hforward.trans (leaves_complete _ _ _)
    · exact hforward

end

end System
namespace World

-- the controller whose raw report a packet is
def inputReport (w : World) (buffer : Buffer) (n : Nat) : Option BthDevice :=
  if n = 0 || l2capIsControlChannel buffer || !l2capIsHidInputReport buffer then none
  else ((w.children.findByHandle (BthHandle.fromBuffer buffer 0)).map Prod.snd).filter
    fun device => device.deviceType = .ps3Dualshock

section

variable {w : World} {n : Nat} {forwarded : Handle → List Request} {completed : List Request}
  {m : Option Request} {buffer : Buffer}

theorem outputBuffers_createHandle : w.createHandle.2.outputBuffers = w.outputBuffers := by
  unfold createHandle
  split <;> rfl

theorem outputBuffers_respond (c : Call) : (respond c w).2.outputBuffers = w.outputBuffers := by
  have hremove : ∀ (v : World) a, v.outputBuffers = w.outputBuffers →
      (v.remove a).outputBuffers = w.outputBuffers := fun v a hv =>
    remove_invariant (I := fun v => v.outputBuffers = w.outputBuffers) (fun _ _ h => h)
      (fun _ _ h => h) hv a
  cases c with
  | childListUpdateAsMissing a => exact hremove w a rfl
  | childListScan =>
    exact removeAll_invariant (I := fun v => v.outputBuffers = w.outputBuffers) hremove rfl
  | ioQueueCreate => exact outputBuffers_createHandle
  | timerCreate => exact outputBuffers_createHandle
  | ioQueueRetrieveNextRequest queue =>
    obtain ⟨queues, hq⟩ := w.retrieveNextRequest_world queue
    rw [respond, hq]
  | _ => rfl

theorem outputBuffers_exec {α : Type} (p : Driver α) (v : World)
    (hv : v.outputBuffers = w.outputBuffers) : (exec p v).2.outputBuffers = w.outputBuffers :=
  exec_invariant (I := fun u => u.outputBuffers = w.outputBuffers)
    (fun c _ _ hu => (outputBuffers_respond c).trans hu) p.uses_true hv

theorem outputBuffers_step (w : World) (e : Event) : (w.step e).outputBuffers = w.outputBuffers :=
  step_invariant w (I := fun v => v.outputBuffers = w.outputBuffers)
    (fun p v hv => outputBuffers_exec p v hv) (fun p v hv => outputBuffers_exec p v hv)
    (fun _ _ hv => hv) rfl e

theorem custody_exec {α : Type} {p : Driver α} (hp : p.Uses Call.Unqueued) :
    (exec p w).2.custody n forwarded completed m = w.custody n forwarded completed m :=
  exec_invariant
    (I := fun v => v.custody n forwarded completed m = w.custody n forwarded completed m)
    (fun _ _ hc hv => (custody_respond hc).trans hv) hp rfl

theorem unqueued_dispatchEvent {event : HciEvent} :
    (dispatchEvent event buffer n).Uses Call.Unqueued := by
  have hlink {p : Driver Unit} {P : BdAddr → Prop} (hp : p.Uses (Call.Link P)) :
      p.Uses Call.Unqueued := Program.uses_mono (fun _ => unqueued_of_link) hp
  have hsetup {p : Driver Unit} (hp : p.Uses Call.Setup) : p.Uses Call.Unqueued :=
    Program.uses_mono (fun _ => unqueued_of_setup) hp
  cases event with
  | commandComplete => exact hsetup setup_hciCommandCompleteEv
  | commandStatus => exact hsetup setup_hciCommandStatusEv
  | connectionRequest => exact hlink (link_hciConnectionRequestEv (P := (· = _)) rfl)
  | connectionComplete => exact hlink (link_hciConnectionCompleteEv (P := (· = _)) rfl)
  | disconnectionComplete => exact hlink (link_hciDisconnectionCompleteEv fun _ => trivial)
  | remoteNameRequestComplete =>
    exact hlink (link_hciRemoteNameRequestCompleteEv (P := (· = _)) rfl)
  | _ => trivial

theorem unqueued_wireChildOutputReportEvtTimerFunc {a : BdAddr} :
    (wireChildOutputReportEvtTimerFunc a).Uses Call.Unqueued := by
  refine Program.uses_bind (uses_call trivial) fun r => ?_
  cases r with
  | error status => trivial
  | ok device =>
    dsimp only
    cases device.deviceType with
    | ps3Dualshock =>
      refine Program.uses_bind (uses_call trivial) fun report => ?_
      exact Program.uses_bind (Program.uses_mono (fun _ => And.right) signal_hidCommand) fun _ =>
        trivial
    | _ => trivial

theorem unqueued_dispatchPacket {device : BthDevice}
    (hn : l2capIsControlChannel buffer = false → l2capIsHidInputReport buffer = true →
      device.deviceType ≠ .ps3Dualshock) : (dispatchPacket device buffer).Uses Call.Unqueued := by
  refine Program.uses_ite (fun _ => ?_) fun hc => Program.uses_ite (fun hi => ?_) fun _ => trivial
  · exact Program.uses_mono (fun _ => unqueued_of_exchange)
      (Program.ensures_uses exchange_dispatchSignalling)
  · have ht := hn (eq_false_of_ne_true hc) hi
    cases h : device.deviceType with
    | ps3Dualshock => exact absurd h ht
    | _ => trivial

theorem custody_step_acl (h : w.inputReport buffer n = none) :
    (w.step (.acl buffer n)).custody 0 forwarded completed m =
      w.clearLog.custody 0 forwarded completed m := by
  rw [step_acl]
  split
  · rfl
  rename_i hn
  cases hf : w.children.findByHandle (BthHandle.fromBuffer buffer 0) with
  | none => rfl
  | some entry =>
    refine custody_exec (unqueued_dispatchPacket fun hc hi ht => ?_)
    simp [inputReport, hn, hc, hi, hf, ht] at h

theorem custody_step (e : Event)
    (h : ∀ buffer n, e = .acl buffer n → w.inputReport buffer n = none) :
    (w.step e).custody 0 forwarded completed m = w.clearLog.custody 0 forwarded completed m := by
  cases e with
  | hci buffer n =>
    rw [step_hci]
    cases receivedEvent buffer n with
    | none => rfl
    | some event => exact custody_exec unqueued_dispatchEvent
  | acl buffer n => exact custody_step_acl (h buffer n rfl)
  | createDevice a =>
    have hl : (wireShockEvtWdfChildListCreateDevice a).Uses (Call.Link (· = a)) :=
      link_wireShockEvtWdfChildListCreateDevice rfl
    exact step_createDevice_invariant w (I := fun v => v.custody 0 forwarded completed m =
      w.clearLog.custody 0 forwarded completed m) (fun _ hv => hv)
      (custody_exec (Program.uses_mono (fun _ => unqueued_of_link) hl))
  | timer a => exact custody_exec unqueued_wireChildOutputReportEvtTimerFunc
  | d0Entry =>
    exact custody_exec (Program.uses_mono (fun _ => unqueued_of_setup)
      setup_wireShockEvtDeviceD0Entry)
  | d0Exit =>
    exact custody_exec (Program.uses_mono (fun _ => unqueued_of_setup)
      setup_wireShockEvtDeviceD0Exit)

end

end World
end WireShock
