import WireShock.Ownership.UsbRequests
import WireShock.Semantics.UsbTransfers
import WireShock.Transport.Stack

namespace WireShock
open Interaction

namespace Usb

-- the framework gives the failure of a send that no target took as the request's status
def Environment.Documented (environment : Environment) : Prop :=
  environment.accepts = false → environment.succeeds 3 = false

def Call.KeepsContext (c : Call) : Prop := ∀ update, c ≠ .updateContext update

theorem keepsContext_call {c : Call} (h : c.KeepsContext) : (call c).Uses Call.KeepsContext :=
  ⟨h, fun _ => trivial⟩

theorem keepsContext_setRoutine (request : Request) (routine : Option CompletionRoutine) :
    (setRoutine request routine).Uses Call.KeepsContext := by
  cases routine with
  | none => trivial
  | some routine => exact keepsContext_call fun _ => nofun

theorem keepsContext_submit {device : Option Handle} {size : Nat} {data : List BYTE}
    {allowed : Prop} [Decidable allowed] {format : Request → Handle → Driver NTSTATUS}
    {routine : Option CompletionRoutine}
    (hformat : ∀ request memory, (format request memory).Uses Call.KeepsContext) :
    (submit device size data allowed format routine).Uses Call.KeepsContext := by
  refine Program.uses_bind (keepsContext_call fun _ => nofun) fun request => ?_
  cases request with
  | error status => trivial
  | ok request =>
    refine Program.uses_bind (keepsContext_call fun _ => nofun) fun memory => ?_
    cases memory with
    | error status => trivial
    | ok memory =>
      refine Program.uses_bind (keepsContext_call fun _ => nofun) fun _ => ?_
      refine Program.uses_ite (fun _ => trivial) fun _ => ?_
      refine Program.uses_bind (hformat request memory) fun status => ?_
      refine Program.uses_ite (fun _ => trivial) fun _ => ?_
      refine Program.uses_bind (keepsContext_setRoutine request routine) fun _ => ?_
      refine Program.uses_bind (keepsContext_call fun _ => nofun) fun sent => ?_
      exact Program.uses_ite (fun _ => trivial) fun _ => keepsContext_call fun _ => nofun

theorem keepsContext_writeBulkPipe (buffer : List BYTE) :
    (writeBulkPipe buffer).Uses Call.KeepsContext := by
  rw [writeBulkPipe_eq]
  exact Program.uses_bind (keepsContext_call fun _ => nofun) fun context =>
    keepsContext_submit fun _ _ => keepsContext_call fun _ => nofun

theorem keepsContext_sendControlRequest (arguments : ControlRequest) :
    (sendControlRequest arguments).Uses Call.KeepsContext := by
  rw [sendControlRequest_eq]
  exact keepsContext_submit fun _ _ => keepsContext_call fun _ => nofun

theorem context_respond {c : Call} (hc : c.KeepsContext) (h : UsbHost) :
    (respond c h).2.context = h.context := by
  cases c with
  | updateContext update => exact absurd rfl (hc update)
  | usbTargetDeviceCreateWithParameters | memoryCreate =>
    simp only [respond, UsbHost.createHandle]
    split <;> rfl
  | usbTargetDeviceSelectConfig =>
    simp only [respond, UsbHost.selectConfig]
    split <;> rfl
  | requestCreate =>
    simp only [respond, UsbHost.createRequest]
    split <;> rfl
  | usbTargetPipeFormatRequestForWrite | usbTargetDeviceFormatRequestForControlTransfer =>
    simp only [respond, UsbHost.format]
    split <;> rfl
  | requestSend =>
    simp only [respond, UsbHost.send]
    split <;> rfl
  | _ => rfl

theorem context_exec {α : Type} {p : Driver α} (hp : p.Uses Call.KeepsContext) (h : UsbHost) :
    (exec p h).2.context = h.context :=
  Program.run_invariant (I := fun g => g.context = h.context)
    (fun _ g hc hg => (context_respond hc g).trans hg) hp rfl

end Usb

namespace UsbHost

variable {h : UsbHost}

theorem sent_respond {c : Usb.Call} (hc : KeepsRequests c) : (Usb.respond c h).2.sent = h.sent := by
  cases c with
  | requestSend request device =>
    have hk := congrArg (fun l => l.owned ()) (hc h)
    simp only [Usb.respond, send] at hk ⊢
    split
    · rename_i ha
      simp [ha, ledger] at hk
    · rfl
  | usbTargetDeviceCreateWithParameters | memoryCreate =>
    simp only [Usb.respond, createHandle]
    split <;> rfl
  | usbTargetDeviceSelectConfig =>
    simp only [Usb.respond, selectConfig]
    split <;> rfl
  | requestCreate =>
    simp only [Usb.respond, createRequest]
    split <;> rfl
  | usbTargetPipeFormatRequestForWrite | usbTargetDeviceFormatRequestForControlTransfer =>
    simp only [Usb.respond, format]
    split <;> rfl
  | _ => rfl

theorem sent_prepareHardware (environment : Usb.Environment) :
    (h.step (.prepareHardware environment)).sent = h.sent :=
  Program.run_invariant (I := fun g => g.sent = h.sent) (fun _ _ hc hg => (sent_respond hc).trans hg)
    keepsRequests_prepareHardware (s := h.enter environment) rfl

theorem sent_requestCompleted (request : Request) :
    (h.step (.requestCompleted request)).sent = h.sent := by
  simp only [step, complete]
  split
  · cases h.routine request with
    | none => rfl
    | some routine =>
      cases routine
      rfl
  · rfl

end UsbHost

-- the transfer that a packet of the log is, once its send has succeeded
def Output.transfer? (handles : Usb.DeviceHandles) : Output → Option Usb.Transfer
  | .control packet status =>
    if ntSuccess status then
      some (.control handles.usbDevice (Usb.hciControlRequest handles packet).setup packet)
    else none
  | .bulk packet status =>
    if ntSuccess status then some (.write handles.bulkWritePipe packet) else none
  | _ => none

-- a packet that a send took, without the handle it went to
inductive Sent where
  | control (packet : List BYTE)
  | bulk (packet : List BYTE)
deriving DecidableEq, Repr

def Usb.Transfer.packet : Usb.Transfer → Sent
  | .control _ _ data => .control data
  | .write _ data => .bulk data

def Output.sent? : Output → Option Sent
  | .control packet status => if ntSuccess status then some (.control packet) else none
  | .bulk packet status => if ntSuccess status then some (.bulk packet) else none
  | _ => none

def World.delivered (w : World) (e : Event) : List Sent := (w.step e).log.filterMap Output.sent?

theorem packet_transfer? (handles : Usb.DeviceHandles) (o : Output) :
    (o.transfer? handles).map Usb.Transfer.packet = o.sent? := by
  cases o with
  | control packet status | bulk packet status =>
    rw [Output.transfer?, Output.sent?]
    split <;> rfl
  | _ => rfl

theorem filterMap_one {α β : Type} (f : α → Option β) (a : α) : [a].filterMap f = (f a).toList := by
  cases h : f a <;> simp [h]

theorem transfers_remove {w : World} {handles : Usb.DeviceHandles} {transfers : List Usb.Transfer}
    {a : BdAddr} (h : w.log.filterMap (Output.transfer? handles) = transfers) :
    (w.remove a).log.filterMap (Output.transfer? handles) = transfers :=
  World.remove_invariant (I := fun v => v.log.filterMap (Output.transfer? handles) = transfers)
    (fun _ _ hv => List.filterMap_append.trans ((List.append_nil _).trans hv)) (fun _ _ hv => hv) h a

namespace Stack

def submitted (t : Stack) : List Usb.Transfer :=
  t.world.log.filterMap (Output.transfer? t.usb.context)

def submissions : Stack → List StackEvent → List Usb.Transfer
  | _, [] => []
  | t, .driver e :: es => (t.step (.driver e)).submitted ++ submissions (t.step (.driver e)) es
  | t, e :: es => submissions (t.step e) es

-- from t on, what the target took is what the log tells of successful sends
structure Carries (t : Stack) (u : Stack) : Prop where
  context : u.usb.context = t.usb.context
  documented : ∀ n, (u.environments n).Documented
  sent : u.usb.sent = t.usb.sent ++ u.submitted

variable {t u : Stack}

theorem carries_carried {o : NTSTATUS → Output} {r : NTSTATUS × UsbHost}
    {transfer : Usb.Transfer} (h : t.Carries u)
    (hs : (u.usb.enter (u.environments 0)).Submits r true transfer)
    (hc : r.2.context = u.usb.context)
    (ho : ∀ status, (o status).transfer? u.usb.context =
      if ntSuccess status then some transfer else none) : t.Carries (u.carried o r).2 := by
  refine ⟨hc.trans h.context, fun n => h.documented (n + 1), ?_⟩
  have hsent : r.2.sent = u.usb.sent ++ ((o r.1).transfer? u.usb.context).toList := by
    rw [ho, hs.status (h.documented 0), hs.sent]
    split
    · rfl
    · exact (List.append_nil _).symm
  show r.2.sent = t.usb.sent ++ (u.world.log ++ [o r.1]).filterMap (Output.transfer? r.2.context)
  rw [hsent, h.sent, hc, List.filterMap_append, List.append_assoc, submitted, filterMap_one]

theorem carries_world {w : World} (h : t.Carries u)
    (hw : w.log.filterMap (Output.transfer? u.usb.context) = u.submitted) :
    t.Carries { u with world := w } := by
  refine ⟨h.context, h.documented, ?_⟩
  rw [h.sent]
  exact congrArg (t.usb.sent ++ ·) hw.symm

theorem carries_emit (h : t.Carries u) {o : Output} (ho : o.transfer? u.usb.context = none) :
    t.Carries { u with world := u.world.emit o } := by
  refine carries_world h ?_
  rw [World.emit, List.filterMap_append, filterMap_one, ho]
  exact List.append_nil _

theorem carries_respond (c : Call) (h : t.Carries u) : t.Carries (respond c u).2 := by
  cases c with
  | sendControlRequest packet =>
    exact carries_carried h (UsbHost.submits_hciControlRequest _ packet)
      (Usb.context_exec (Usb.keepsContext_sendControlRequest _) _) fun _ => rfl
  | writeBulkPipe packet =>
    exact carries_carried h (UsbHost.submits_writeBulkPipe _ packet)
      (Usb.context_exec (Usb.keepsContext_writeBulkPipe _) _) fun _ => rfl
  | childListUpdateAsMissing a => exact carries_world h (transfers_remove rfl)
  | childListScan =>
    exact carries_world h (World.removeAll_invariant
      (I := fun v => v.log.filterMap (Output.transfer? u.usb.context) = u.submitted)
      (fun _ _ hv => transfers_remove hv) rfl)
  | ioQueueCreate | timerCreate =>
    refine carries_world h ?_
    simp only [WireShock.respond, World.createHandle]
    split <;> rfl
  | ioQueueRetrieveNextRequest queue =>
    obtain ⟨queues, hq⟩ := u.world.retrieveNextRequest_world queue
    refine carries_world h ?_
    rw [WireShock.respond, hq]
    rfl
  | timerStart timer => exact carries_emit h rfl
  | exFreePoolWithTag p => exact carries_world h (List.filterMap_append.trans (List.append_nil _))
  | requestComplete request status => exact carries_emit h rfl
  | requestCompleteWithInformation request status information output => exact carries_emit h rfl
  | _ => exact carries_world h rfl

theorem carries_exec {α : Type} (p : Driver α) (h : t.Carries u) : t.Carries (exec p u).2 :=
  Program.run_invariant (I := fun v => t.Carries v) (fun c _ _ hv => carries_respond c hv)
    (Program.uses_true p) h

theorem carries_react (e : Event) (h : t.Carries u) : t.Carries (u.react e) := by
  cases e with
  | createDevice a =>
    have hc := carries_exec (wireShockEvtWdfChildListCreateDevice a) h
    rw [react]
    dsimp only
    split
    · exact carries_world hc rfl
    · exact hc
  | _ => exact carries_exec _ h

theorem carries_clearLog (h : ∀ n, (t.environments n).Documented) : t.Carries t.clearLog :=
  ⟨rfl, h, (List.append_nil _).symm⟩

def submission (t : Stack) (e : StackEvent) : List Usb.Transfer :=
  e.driver?.elim [] fun _ => (t.step e).submitted

theorem submissions_eq (t : Stack) (es : List StackEvent) :
    submissions t es = outputs step submission t es := by
  induction es generalizing t with
  | nil => rfl
  | cons e es ih =>
    rw [outputs, ← ih]
    cases e <;> rfl

theorem sent_step (e : StackEvent) (h : ∀ n, (t.environments n).Documented) :
    (∀ n, ((t.step e).environments n).Documented) ∧ (t.step e).usb.sent =
      t.usb.sent ++ t.submission e := by
  cases e with
  | driver e =>
    have hc := carries_react e (carries_clearLog h)
    exact ⟨hc.documented, hc.sent⟩
  | prepareHardware environment =>
    exact ⟨h, (UsbHost.sent_prepareHardware environment).trans (List.append_nil _).symm⟩
  | requestCompleted request =>
    exact ⟨h, (UsbHost.sent_requestCompleted request).trans (List.append_nil _).symm⟩

theorem sent_runs (es : List StackEvent) (h : ∀ n, (t.environments n).Documented) :
    (runs step t es).usb.sent = t.usb.sent ++ outputs step submission t es := by
  induction es generalizing t with
  | nil => exact (List.append_nil _).symm
  | cons e es ih =>
    obtain ⟨hdocumented, hsent⟩ := sent_step e h
    rw [runs, List.foldl_cons, ← runs, ih hdocumented, hsent, List.append_assoc]
    rfl

-- whatever the framework refuses on the way, the target takes the packets that the handlers were
-- told were sent, each unchanged and in the order of the sends
theorem transfers_in_order (t : Stack) (es : List StackEvent)
    (h : ∀ n, (t.environments n).Documented) :
    (runs step t es).usb.sent = t.usb.sent ++ submissions t es := by
  rw [submissions_eq, sent_runs es h]

def initial (environments : Nat → Usb.Environment) : Stack :=
  ⟨.initial .succeeding, .initial (environments 0), environments⟩

-- the second send finds a target that does not take it
def refusingSecond : Nat → Usb.Environment
  | 1 => { Usb.Environment.failing .dongle (some 3) with accepts := false }
  | _ => .failing .dongle none

theorem documented_refusingSecond (n : Nat) : (refusingSecond n).Documented := by
  rcases n with _ | _ | n
  · exact nofun
  · exact fun _ => by decide
  · exact nofun

theorem transfers_past_refusal :
    (runs step (initial refusingSecond)
        [.prepareHardware (.failing .dongle none), .driver .d0Entry, .driver .d0Exit,
          .driver .d0Entry]).usb.sent =
      [] ++ submissions (initial refusingSecond)
        [.prepareHardware (.failing .dongle none), .driver .d0Entry, .driver .d0Exit,
          .driver .d0Entry] :=
  transfers_in_order (initial refusingSecond) _ documented_refusingSecond

theorem packet_submission (u : Stack) (e : StackEvent) :
    (u.submission e).map Usb.Transfer.packet =
      e.driver?.elim [] fun _ => (u.step e).world.log.filterMap Output.sent? := by
  cases e with
  | driver e =>
    simp only [submission, submitted, List.map_filterMap, packet_transfer?, StackEvent.driver?,
      Option.elim_some]
  | _ => rfl

-- the handlers alone, over statuses given in advance, pass through the same states and tell of the
-- packets that the target takes
theorem runs_as_world (t : Stack) (es : List StackEvent) : ∃ s : Statuses, ∀ fs, fs <+: es →
    (∃ rest : Statuses,
      runs World.step (t.world.withStatuses s) (fs.filterMap StackEvent.driver?) =
        (runs step t fs).world.withStatuses rest) ∧
    ((∀ n, (t.environments n).Documented) →
      (runs step t fs).usb.sent.map Usb.Transfer.packet = t.usb.sent.map Usb.Transfer.packet ++
        outputs World.step World.delivered (t.world.withStatuses s)
          (fs.filterMap StackEvent.driver?)) := by
  obtain ⟨s, hs⟩ := runs_explained explains t es ⟨fun _ => statusSuccess, fun _ => statusSuccess⟩
  refine ⟨s, fun fs hfs => ⟨hs fs hfs, fun h => ?_⟩⟩
  have hlog (s : Statuses) (u : Stack) : (seen s u).log.filterMap Output.sent? =
      u.world.log.filterMap Output.sent? := rfl
  have hsame := outputs_explained (fun w => w.log.filterMap Output.sent?)
    (fun u => u.world.log.filterMap Output.sent?) hlog fun gs hgs => hs gs (hgs.trans hfs)
  rw [sent_runs fs h, List.map_append, map_outputs, funext₂ packet_submission]
  exact congrArg (_ ++ ·) hsame.symm

theorem runs_past_refusal : ∃ s : Statuses, ∀ fs,
    fs <+: [.prepareHardware (.failing .dongle none), .driver .d0Entry, .driver .d0Exit,
      .driver .d0Entry] →
    (∃ rest : Statuses,
      runs World.step ((initial refusingSecond).world.withStatuses s)
        (fs.filterMap StackEvent.driver?) =
          (runs step (initial refusingSecond) fs).world.withStatuses rest) ∧
    (runs step (initial refusingSecond) fs).usb.sent.map Usb.Transfer.packet =
      outputs World.step World.delivered ((initial refusingSecond).world.withStatuses s)
        (fs.filterMap StackEvent.driver?) := by
  obtain ⟨s, hs⟩ := runs_as_world (initial refusingSecond)
    [.prepareHardware (.failing .dongle none), .driver .d0Entry, .driver .d0Exit, .driver .d0Entry]
  exact ⟨s, fun fs hfs => ⟨(hs fs hfs).1, (hs fs hfs).2 documented_refusingSecond⟩⟩

end Stack
end WireShock
