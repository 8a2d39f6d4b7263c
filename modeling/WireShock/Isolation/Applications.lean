import Mathlib.Order.Monotone.Basic
import WireShock.Interaction.Backward
import WireShock.Semantics.OwnCalls
import WireShock.Semantics.System
import WireShock.Semantics.Views

namespace WireShock
open Interaction

-- which of the framework's answers the calls of the driver itself get, in their order
structure Picks where
  pick : Nat → Nat
  increasing : StrictMono pick

namespace Picks

def all : Picks := ⟨id, strictMono_id⟩

def skip (p : Picks) : Picks where
  pick n := p.pick n + 1
  increasing _ _ h := Nat.succ_lt_succ (p.increasing h)

def firstThen (p : Picks) : Nat → Nat
  | 0 => 0
  | n + 1 => p.pick n + 1

def take (p : Picks) : Picks where
  pick := p.firstThen
  increasing := strictMono_nat_of_lt_succ fun n => by
    cases n with
    | zero => exact Nat.succ_pos _
    | succ n => exact Nat.succ_lt_succ (p.increasing (Nat.lt_succ_self n))

end Picks

def Output.own (o : Output) : Bool := o.completes.isNone

def World.ownLog (w : World) : List Output := w.log.filter Output.own

-- the driver as it is with no application about: no request waits, none has a buffer
def World.unasked (p : Picks) (w : World) : World :=
  { w with
    queues := fun _ => []
    outputBuffers := fun _ => []
    environment :=
      { w.environment with frameworkStatus := fun n => w.environment.frameworkStatus (p.pick n) }
    log := w.ownLog }

section

variable {w : World} {p : Picks}

theorem filter_own {log : List Output} {o : Output} (ho : o.own = true) :
    (log ++ [o]).filter Output.own = log.filter Output.own ++ [o] := by
  simp [ho]

theorem unasked_emit {o : Output} (ho : o.own = true) :
    (w.emit o).unasked p = (w.unasked p).emit o :=
  congrArg (fun log => { w.unasked p with log := log }) (filter_own ho)

theorem unasked_emit_completion {o : Output} (ho : o.own = false) :
    (w.emit o).unasked p = w.unasked p := by
  have hl : (w.log ++ [o]).filter Output.own = w.log.filter Output.own := by simp [ho]
  exact congrArg (fun log => { w.unasked p with log := log }) hl

theorem unasked_free (pointer : Pointer) :
    (w.free pointer).unasked p = (w.unasked p).free pointer :=
  congrArg (fun log => { (w.unasked p).free pointer with log := log }) (filter_own rfl)

theorem unasked_sendControl (packet : List BYTE) :
    (w.sendControl packet).unasked p = (w.unasked p).sendControl packet :=
  congrArg (fun log => { (w.unasked p).sendControl packet with log := log }) (filter_own rfl)

theorem unasked_sendBulk (packet : List BYTE) :
    (w.sendBulk packet).unasked p = (w.unasked p).sendBulk packet :=
  congrArg (fun log => { (w.unasked p).sendBulk packet with log := log }) (filter_own rfl)

theorem clear_unasked : World.Clear (World.unasked p) :=
  ⟨fun _ => rfl, fun _ _ => rfl, fun _ pointer => (unasked_free pointer).symm⟩

theorem unasked_createHandle :
    (w.unasked p.take).createHandle = (w.createHandle.1, w.createHandle.2.unasked p) := by
  have hs : (w.unasked p.take).environment.frameworkStatus 0 = w.environment.frameworkStatus 0 := rfl
  unfold World.createHandle
  rw [hs]
  split <;> rfl

theorem unasked_retrieveNextRequest (queue : Option Handle) :
    (w.unasked p).retrieveNextRequest queue = (.error statusNoMoreEntries, w.unasked p) := by
  cases queue <;> rfl

theorem exec_unasked_completeHidInputReport {queue : Option Handle} {f : List BYTE → List BYTE} :
    exec (completeHidInputReport queue f) (w.unasked p) = (.ok statusNoMoreEntries, w.unasked p) := by
  simp [completeHidInputReport, unasked_retrieveNextRequest]

theorem exec_unasked_ds3ProcessHidInputReport {device : BthDevice} {buffer : Buffer} :
    (exec (ds3ProcessHidInputReport device buffer) (w.unasked p)).2 = w.unasked p := by
  simp only [ds3ProcessHidInputReport, completeSecondReport, exec_ite, exec_pure, exec_bind,
    exec_unasked_completeHidInputReport]
  split
  · rfl
  · split <;> rfl

theorem unasked_onRequests (c : Call) (hc : c.OnRequests) (w : World) :
    (respond c w).2.unasked p = w.unasked p := by
  cases c with
  | ioQueueRetrieveNextRequest queue =>
    obtain ⟨queues, hq⟩ := w.retrieveNextRequest_world queue
    rw [respond, hq]
    rfl
  | requestRetrieveOutputBuffer request minimum => rfl
  | requestComplete request status => exact unasked_emit_completion rfl
  | requestCompleteWithInformation request status information output =>
    exact unasked_emit_completion rfl
  | _ => exact hc.elim

end

theorem answers_own : Answers World.unasked respond respond Call.Own := by
  intro c hc w p
  cases c with
  | childListUpdateAsMissing a => exact ⟨p, congrArg (Prod.mk _) (clear_unasked.remove w a)⟩
  | childListScan => exact ⟨p, congrArg (Prod.mk _) (clear_unasked.removeAll w)⟩
  | ioQueueCreate => exact ⟨p.take, unasked_createHandle⟩
  | timerCreate => exact ⟨p.take, unasked_createHandle⟩
  | ioTargetStart target => exact ⟨p.take, rfl⟩
  | timerStart timer => exact ⟨p, congrArg (Prod.mk _) (unasked_emit rfl).symm⟩
  | exFreePoolWithTag pointer => exact ⟨p, congrArg (Prod.mk _) (unasked_free pointer).symm⟩
  | sendControlRequest packet => exact ⟨p, congrArg (Prod.mk _) (unasked_sendControl packet).symm⟩
  | writeBulkPipe packet => exact ⟨p, congrArg (Prod.mk _) (unasked_sendBulk packet).symm⟩
  | ioQueueRetrieveNextRequest queue => exact absurd trivial hc
  | requestRetrieveOutputBuffer request minimum => exact absurd trivial hc
  | requestComplete request status => exact absurd trivial hc
  | requestCompleteWithInformation request status information output => exact absurd trivial hc
  | _ => exact ⟨p, rfl⟩

abbrev Unaffected {α : Type} (p : Driver α) : Prop := p.Answered World.unasked respond respond

theorem unaffected_of_owns {α : Type} {p : Driver α} (hp : p.Uses Call.Own) : Unaffected p :=
  Program.answered_of_uses answers_own hp

section

variable {device : BthDevice} {buffer : Buffer}

-- the requests that an input report completes are the applications' alone
theorem unaffected_dispatchPacket : Unaffected (dispatchPacket device buffer) := by
  refine Program.answered_ite (fun _ => unaffected_of_owns owns_dispatchSignalling) fun _ => ?_
  refine Program.answered_ite (fun _ => ?_) fun _ => Program.answered_pure _
  cases device.deviceType with
  | ps3Dualshock =>
    intro w p
    have hc : (exec (ds3ProcessHidInputReport device buffer) w).2.unasked p = w.unasked p :=
      exec_invariant (I := fun v => v.unasked p = w.unasked p)
        (fun c v hc hv => (unasked_onRequests c hc v).trans hv) onRequests_ds3ProcessHidInputReport rfl
    refine ⟨p, ?_⟩
    rw [Program.run_bind, Program.run_bind]
    exact congrArg (Prod.mk device) (exec_unasked_ds3ProcessHidInputReport.trans hc.symm)
  | _ => exact Program.answered_pure _

theorem unaffected_wireShockEvtUsbBulkReadPipeReadComplete {n : Nat} :
    Unaffected (wireShockEvtUsbBulkReadPipeReadComplete buffer n) := by
  refine Program.answered_ite (fun _ => Program.answered_pure _) fun _ => ?_
  refine Program.answered_bind (unaffected_of_owns (owns_of_records
    (records_wireBusGetPdoAddressDescriptionByHandle))) fun r => ?_
  cases r with
  | none => exact Program.answered_pure _
  | some entry =>
    exact Program.answered_bind unaffected_dispatchPacket fun device =>
      unaffected_of_owns (owns_of_records records_writtenBack)

theorem unasked_react (w : World) (p : Picks) (e : Event) :
    ∃ p', (w.unasked p').react e = (w.react e).unasked p := by
  have hexec {α : Type} {q : Driver α} (hq : Unaffected q) :
      ∃ p', (exec q (w.unasked p')).2 = (exec q w).2.unasked p := by
    obtain ⟨p', hp⟩ := hq w p
    exact ⟨p', congrArg Prod.snd hp⟩
  cases e with
  | hci buffer n => exact hexec (unaffected_of_owns (owns_of_commands
      commands_wireShockEvtUsbInterruptPipeReadComplete))
  | acl buffer n => exact hexec unaffected_wireShockEvtUsbBulkReadPipeReadComplete
  | createDevice a =>
    obtain ⟨p', hp⟩ := unaffected_of_owns
      (owns_of_records records_wireShockEvtWdfChildListCreateDevice) w p
    refine ⟨p', ?_⟩
    have hp : exec (wireShockEvtWdfChildListCreateDevice a) (w.unasked p') =
        ((exec (wireShockEvtWdfChildListCreateDevice a) w).1,
          (exec (wireShockEvtWdfChildListCreateDevice a) w).2.unasked p) := hp
    rw [World.react, hp, World.react]
    dsimp only
    split <;> rfl
  | timer a => exact hexec (unaffected_of_owns owns_wireChildOutputReportEvtTimerFunc)
  | d0Entry => exact hexec (unaffected_of_owns (owns_of_setup setup_wireShockEvtDeviceD0Entry))
  | d0Exit => exact hexec (unaffected_of_owns (owns_of_setup setup_wireShockEvtDeviceD0Exit))

end

namespace DsHid

theorem unseen_request :
    Unseen (fun (p : Picks) (s : System) => s.world.unasked p) respond fun _ => True := by
  intro c _ s p
  cases c with
  | pdoRetrieveAddressDescription a => exact ⟨p.skip, rfl⟩
  | pdoRetrieveIdentificationDescription a => exact ⟨p.skip, rfl⟩
  | requestForwardToIoQueue r queue =>
    cases queue with
    | none => exact ⟨p, rfl⟩
    | some q =>
      refine ⟨p.skip, ?_⟩
      rw [respond, System.forward]
      split <;> rfl
  | requestRetrieveOutputMemory r => exact ⟨p.skip, rfl⟩
  | memoryCopyFromBuffer r data =>
    by_cases hl : (s.world.outputBuffers r).length < data.length
    · refine ⟨p, ?_⟩
      rw [respond, System.copyToMemory, if_pos hl]
    · refine ⟨p.skip, ?_⟩
      rw [respond, System.copyToMemory, if_neg hl]
      split <;> rfl
  | requestComplete r status => exact ⟨p, (unasked_emit_completion rfl).symm⟩
  | _ => exact ⟨p, rfl⟩

end DsHid

def SystemEvent.driver? : SystemEvent → Option Event
  | .driver e => some e
  | .ioctl .. => none

def World.shown (w : World) (e : Event) : List Output := (w.step e).log

namespace System

-- what a step puts out other than the completion of requests
def shown (s : System) (e : SystemEvent) : List Output := (s.step e).world.ownLog

def seen (p : Picks) (x : System × List Output) : World × List Output :=
  ((x.1.world.unasked p).clearLog, x.2)

def settled (w : World) (e : Event) : World := (w.step e).clearLog

theorem runs_settled (w : World) (es : List Event) :
    runs settled w.clearLog es = (runs World.step w es).clearLog := by
  induction es generalizing w with
  | nil => rfl
  | cons e es ih => exact ih (w.step e)

theorem outputs_settled (w : World) (es : List Event) :
    outputs settled World.shown w.clearLog es = outputs World.step World.shown w es := by
  induction es generalizing w with
  | nil => rfl
  | cons e es ih => exact congrArg ((w.step e).log ++ ·) (ih (w.step e))

theorem explains : Explains seen (recorded settled World.shown) (recorded step shown)
    SystemEvent.driver? := by
  intro x d p
  obtain ⟨s, sofar⟩ := x
  cases d with
  | driver e =>
    obtain ⟨p', hp⟩ := unasked_react s.world.clearLog p e
    have hp : (s.world.unasked p').step e = (s.step (.driver e)).world.unasked p := hp
    refine ⟨p', ?_⟩
    have hs : runs (recorded settled World.shown) (seen p' (s, sofar)) [e] =
        (((s.world.unasked p').step e).clearLog, sofar ++ ((s.world.unasked p').step e).log) := rfl
    exact hs.trans (by rw [hp]; rfl)
  | ioctl a code request output =>
    obtain ⟨p', hp⟩ := Program.run_unseen DsHid.unseen_request
      (DsHid.wireChildEvtWdfIoQueueIoInternalDeviceControl a s.arrivals code).uses_true
      (s.clearLog.enter a request output) p
    have hp : (s.world.unasked p').clearLog = (s.step (.ioctl a code request output)).world.unasked p :=
      hp
    have hc : (s.world.unasked p').clearLog =
        ((s.step (.ioctl a code request output)).world.unasked p).clearLog :=
      (congrArg World.clearLog hp :)
    have hl : s.shown (.ioctl a code request output) = [] := (congrArg World.log hp).symm
    refine ⟨p', ?_⟩
    have hs : runs (recorded settled World.shown) (seen p' (s, sofar)) [] =
        ((s.world.unasked p').clearLog, sofar) := rfl
    refine hs.trans ?_
    rw [seen, recorded, hl, List.append_nil]
    exact congrArg (Prod.mk · sofar) hc

-- whatever applications ask of its children, the driver goes the way it would have gone without
-- them: it sends the same packets, and knows the same radio and the same children
theorem applications_unseen (s : System) (es : List SystemEvent) : ∃ p : Picks, ∀ fs, fs <+: es →
    ∃ rest : Picks,
      (runs World.step (s.world.unasked p) (fs.filterMap SystemEvent.driver?)).clearLog =
          ((runs step s fs).world.unasked rest).clearLog ∧
        outputs World.step World.shown (s.world.unasked p) (fs.filterMap SystemEvent.driver?) =
          outputs step shown s fs := by
  obtain ⟨p, hp⟩ := runs_explained explains (s, []) es .all
  refine ⟨p, fun fs hfs => ?_⟩
  obtain ⟨rest, hr⟩ := hp fs hfs
  refine ⟨rest, ?_⟩
  rw [seen, runs_recorded, runs_recorded, runs_settled, outputs_settled] at hr
  obtain ⟨hw, ho⟩ := Prod.mk.inj hr
  exact ⟨hw, ho⟩

end System
end WireShock
