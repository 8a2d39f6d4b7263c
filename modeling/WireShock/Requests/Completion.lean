import WireShock.Interaction.Custody
import WireShock.Interaction.Monitor
import WireShock.Semantics.Footprint
import WireShock.Semantics.System

namespace WireShock
open Interaction

-- requests are taken from the queues in P only, one at a time, and completed before the next
def completionMonitor (P : Option Handle → Prop) : Monitor framework (Option Request) where
  allowed
    | .ioQueueRetrieveNextRequest queue, m => P queue ∧ m = none
    | .requestComplete r _, m => m = some r
    | .requestCompleteWithInformation r _ _ _, m => m = some r
    | _, _ => True
  admits _ _ := True
  observe
    | .ioQueueRetrieveNextRequest _, r, _ => r.toOption
    | .requestComplete _ _, _, _ => none
    | .requestCompleteWithInformation _ _ _ _, _, _ => none
    | _, _, m => m

def Finishes (P : Option Handle → Prop) {α : Type} (p : Driver α) : Prop :=
  (completionMonitor P).Follows p (fun _ n => n = none) none

section

variable {P : Option Handle → Prop} {α : Type} {p : Driver α} {buffer : Buffer} {device : BthDevice}

theorem neutral_of_unqueued {c : Call} (h : c.Unqueued) : (completionMonitor P).Neutral c := by
  cases c <;> first | exact fun _ => ⟨trivial, fun _ => rfl⟩ | exact h.elim

theorem finishes_of_uses {R : Call → Prop} (hR : ∀ c, R c → c.Unqueued) (hp : p.Uses R) :
    Finishes P p :=
  Monitor.follows_of_uses (fun _ => neutral_of_unqueued) (Program.uses_mono hR hp)

theorem finishes_bind {β : Type} {f : α → Driver β} (hp : Finishes P p)
    (hf : ∀ a, Finishes P (f a)) : Finishes P (p >>= f) := by
  refine Monitor.follows_bind hp fun a n hn => ?_
  subst hn
  exact hf a

theorem finishes_pure (a : α) : Finishes P (pure a : Driver α) := Monitor.follows_pure rfl

theorem finishes_completeHidInputReport {queue : Option Handle} (hq : P queue)
    (f : List BYTE → List BYTE) : Finishes P (completeHidInputReport queue f) := by
  refine Monitor.follows_bind (Q := fun r n => n = r.toOption)
    (Monitor.follows_perform ⟨hq, rfl⟩ fun r _ => rfl) fun r n hn => ?_
  cases r with
  | error failure => exact Monitor.follows_pure hn
  | ok request =>
    refine Monitor.follows_bind (Q := fun _ n => n = some request)
      (Monitor.follows_perform trivial fun r _ => hn) fun r n hn => ?_
    cases r <;>
      exact Monitor.follows_bind (Q := fun _ n => n = none)
        (Monitor.follows_perform hn fun _ _ => rfl) fun _ _ hn => Monitor.follows_pure hn

theorem finishes_completeSecondReport (hq : P device.hidInputReportQueue)
    (r : Except NTSTATUS NTSTATUS) : Finishes P (completeSecondReport device buffer r) := by
  cases r with
  | error status => exact finishes_pure status
  | ok status =>
    refine Monitor.follows_ite (fun _ => ?_) fun _ => finishes_pure status
    refine finishes_bind (finishes_completeHidInputReport hq _) fun r => ?_
    cases r <;> exact finishes_pure _

theorem finishes_ds3ProcessHidInputReport (hq : P device.hidInputReportQueue) :
    Finishes P (ds3ProcessHidInputReport device buffer) :=
  Monitor.follows_ite (fun _ => finishes_pure _) fun _ =>
    finishes_bind (finishes_completeHidInputReport hq _) (finishes_completeSecondReport hq)

theorem finishes_dispatchPacket (hq : P device.hidInputReportQueue) :
    Finishes P (dispatchPacket device buffer) := by
  refine Monitor.follows_ite (fun _ => ?_) fun _ => ?_
  · exact finishes_of_uses (fun _ => unqueued_of_exchange)
      (Program.ensures_uses exchange_dispatchSignalling)
  · refine Monitor.follows_ite (fun _ => ?_) fun _ => finishes_pure device
    cases device.deviceType with
    | ps3Dualshock =>
      exact finishes_bind (finishes_ds3ProcessHidInputReport hq) fun _ => finishes_pure device
    | _ => exact finishes_pure device

theorem finishes_link {R : BdAddr → Prop} (hp : p.Uses (Call.Link R)) : Finishes P p :=
  finishes_of_uses (fun _ => unqueued_of_link) hp

theorem finishes_setup (hp : p.Uses Call.Setup) : Finishes P p :=
  finishes_of_uses (fun _ => unqueued_of_setup) hp

theorem finishes_wireShockEvtUsbBulkReadPipeReadComplete (hP : ∀ queue, P queue) {n : Nat} :
    Finishes P (wireShockEvtUsbBulkReadPipeReadComplete buffer n) := by
  refine Monitor.follows_ite (fun _ => finishes_pure ()) fun _ => ?_
  refine finishes_bind (finishes_link (R := fun _ => True)
    link_wireBusGetPdoAddressDescriptionByHandle) fun r => ?_
  cases r with
  | none => exact finishes_pure ()
  | some entry =>
    refine finishes_bind (finishes_dispatchPacket (hP _)) fun _ => ?_
    exact finishes_bind (finishes_link (R := fun _ => True)
      (link_wireBusSetPdoAddressDescription trivial)) fun _ => finishes_pure ()

theorem finishes_dispatchEvent {event : HciEvent} {n : Nat} :
    Finishes P (dispatchEvent event buffer n) := by
  cases event with
  | commandComplete => exact finishes_setup setup_hciCommandCompleteEv
  | commandStatus => exact finishes_setup setup_hciCommandStatusEv
  | connectionRequest => exact finishes_link (link_hciConnectionRequestEv (P := (· = _)) rfl)
  | connectionComplete => exact finishes_link (link_hciConnectionCompleteEv (P := (· = _)) rfl)
  | disconnectionComplete =>
    exact finishes_link (R := fun _ => True) (link_hciDisconnectionCompleteEv fun _ => trivial)
  | remoteNameRequestComplete =>
    exact finishes_link (link_hciRemoteNameRequestCompleteEv (P := (· = _)) rfl)
  | _ => exact finishes_pure ()

theorem finishes_wireChildOutputReportEvtTimerFunc {a : BdAddr} :
    Finishes P (wireChildOutputReportEvtTimerFunc a) := by
  refine finishes_bind (finishes_of_uses (R := Call.Unqueued) (fun _ h => h) (uses_call trivial))
    fun r => ?_
  cases r with
  | error status => exact finishes_pure ()
  | ok device =>
    dsimp only
    cases device.deviceType with
    | ps3Dualshock =>
      refine finishes_bind (finishes_of_uses (R := Call.Unqueued) (fun _ h => h)
        (uses_call trivial)) fun report => ?_
      exact finishes_bind (finishes_of_uses (fun _ => And.right) signal_hidCommand) fun _ =>
        finishes_pure ()
    | _ => exact finishes_pure ()

theorem react_of_finishes {I : World → Prop} (hP : ∀ queue, P queue) {w : World}
    (hexec : ∀ {β : Type} {p : Driver β}, Finishes P p → I (exec p w).2)
    (hmark : ∀ v a, I v → I (World.markCreated v a)) (e : Event) : I (w.react e) := by
  cases e with
  | hci buffer k =>
    refine hexec (Monitor.follows_ite (fun _ => finishes_pure ()) fun _ => ?_)
    cases HciEvent.ofCode (buffer 0) with
    | none => exact finishes_pure ()
    | some event => exact finishes_dispatchEvent
  | acl buffer k => exact hexec (finishes_wireShockEvtUsbBulkReadPipeReadComplete hP)
  | createDevice a =>
    have hl : (wireShockEvtWdfChildListCreateDevice a).Uses (Call.Link (· = a)) :=
      link_wireShockEvtWdfChildListCreateDevice rfl
    rw [World.react]
    dsimp only
    split
    · exact hmark _ a (hexec (finishes_link hl))
    · exact hexec (finishes_link hl)
  | timer a => exact hexec finishes_wireChildOutputReportEvtTimerFunc
  | d0Entry => exact hexec (finishes_setup setup_wireShockEvtDeviceD0Entry)
  | d0Exit => exact hexec (finishes_setup setup_wireShockEvtDeviceD0Exit)

end

def World.custody (w : World) (arrivals : Nat) (forwarded : Handle → List Request)
    (completed : List Request) (held : Option Request) : Custody Handle :=
  ⟨arrivals, w.queues, forwarded, completed ++ w.completions, held⟩

section

variable {w : World} {n : Nat} {forwarded : Handle → List Request} {completed : List Request}
  {m : Option Request}

theorem completions_emit (w : World) (o : Output) :
    (w.emit o).completions = w.completions ++ o.completes.toList := by
  simp only [World.completions, World.emit, List.filterMap_append, List.filterMap_cons,
    List.filterMap_nil]
  cases o.completes <;> rfl

theorem custody_append (o : Output) (ho : o.completes = none) {v : World}
    (hq : v.queues = w.queues) (hl : v.log = w.log ++ [o]) :
    v.custody n forwarded completed m = w.custody n forwarded completed m := by
  have hc : v.completions = (w.emit o).completions := by rw [World.completions, hl]; rfl
  rw [World.custody, World.custody, hq, hc, completions_emit, ho, Option.toList_none,
    List.append_nil]

theorem custody_free (w : World) (p : Pointer) :
    (w.free p).custody n forwarded completed m = w.custody n forwarded completed m :=
  custody_append (.free p (p ∈ w.pool.live)) rfl rfl rfl

theorem custody_remove {a : BdAddr} :
    (w.remove a).custody n forwarded completed m = w.custody n forwarded completed m :=
  World.remove_invariant
    (I := fun v => v.custody n forwarded completed m = w.custody n forwarded completed m)
    (fun v p hv => (custody_free v p).trans hv)
    (fun _ _ hv => hv) rfl a

theorem custody_createHandle :
    w.createHandle.2.custody n forwarded completed m = w.custody n forwarded completed m := by
  unfold World.createHandle
  split <;> rfl

theorem custody_respond {c : Call} (hc : c.Unqueued) :
    (respond c w).2.custody n forwarded completed m = w.custody n forwarded completed m := by
  cases c with
  | childListUpdateAsMissing a => exact custody_remove
  | childListScan =>
    exact World.removeAll_invariant
      (I := fun v => v.custody n forwarded completed m = w.custody n forwarded completed m)
      (fun _ _ hv => custody_remove.trans hv) rfl
  | ioQueueCreate => exact custody_createHandle
  | timerCreate => exact custody_createHandle
  | timerStart timer => exact custody_append _ rfl rfl rfl
  | exFreePoolWithTag p => exact custody_append _ rfl rfl rfl
  | sendControlRequest packet => exact custody_append _ rfl rfl rfl
  | writeBulkPipe packet => exact custody_append _ rfl rfl rfl
  | _ => first | rfl | exact hc.elim

theorem custody_complete (r : Request) (status : NTSTATUS) (information : Nat)
    (output : List BYTE) : (w.emit (.complete r status information output)).custody n forwarded
      completed none = (w.custody n forwarded completed m).complete r := by
  rw [World.custody, completions_emit, ← List.append_assoc]
  rfl

theorem sound_retrieve {queue : Option Handle} (h : (w.custody n forwarded completed none).Sound) :
    ((w.retrieveNextRequest queue).2.custody n forwarded completed
      (w.retrieveNextRequest queue).1.toOption).Sound := by
  cases queue with
  | none => exact h
  | some q =>
    unfold World.retrieveNextRequest
    dsimp only
    cases hq : w.queues q with
    | nil => exact h
    | cons r rest => exact h.retrieve rfl hq

theorem sound_respond {P : Option Handle → Prop} (c : Call)
    (ha : (completionMonitor P).allowed c m) (h : (w.custody n forwarded completed m).Sound) :
    ((respond c w).2.custody n forwarded completed
      ((completionMonitor P).observe c (respond c w).1 m)).Sound := by
  cases c with
  | ioQueueRetrieveNextRequest queue =>
    have hm : m = none := ha.2
    subst hm
    exact sound_retrieve h
  | requestComplete r status => exact custody_complete r status 0 [] ▸ h.complete ha
  | requestCompleteWithInformation r status information output =>
    exact custody_complete r status information output ▸ h.complete ha
  | _ =>
    rw [custody_respond]
    · exact h
    · trivial

theorem sound_exec {P : Option Handle → Prop} {α : Type} {p : Driver α} (hp : Finishes P p)
    (h : (w.custody n forwarded completed none).Sound) :
    ((exec p w).2.custody n forwarded completed none).Sound := by
  obtain ⟨m, rfl, hs⟩ := Monitor.run_follows (h := respond)
    (I := fun m v => (v.custody n forwarded completed m).Sound)
    (fun c _ _ ha hv => ⟨trivial, sound_respond c ha hv⟩) hp h
  exact hs

theorem sound_react (e : Event) (h : (w.custody n forwarded completed none).Sound) :
    ((w.react e).custody n forwarded completed none).Sound :=
  react_of_finishes (P := fun _ => True) (I := fun v => (v.custody n forwarded completed none).Sound)
    (fun _ => trivial) (fun hp => sound_exec hp h) (fun _ _ hv => hv) e

end

section

variable {P : Option Handle → Prop} {w v : World} {m : Option Request}

-- the queues a world has lost requests from since w, and those it has completed
def World.Draws (w : World) (P : Option Handle → Prop) (m : Option Request) (v : World) : Prop :=
  (w.custody 0 (fun _ => []) [] none).Drawn (v.custody 0 (fun _ => []) [] m) fun q => P (some q)

theorem draws_retrieve {queue : Option Handle} (hq : P queue) (h : w.Draws P none v) :
    w.Draws P (v.retrieveNextRequest queue).1.toOption (v.retrieveNextRequest queue).2 := by
  cases queue with
  | none => exact h
  | some q =>
    unfold World.retrieveNextRequest
    dsimp only
    cases hv : v.queues q with
    | nil => exact h
    | cons r rest => exact h.retrieve rfl hq hv

theorem draws_respond (c : Call) (ha : (completionMonitor P).allowed c m) (h : w.Draws P m v) :
    w.Draws P ((completionMonitor P).observe c (respond c v).1 m) (respond c v).2 := by
  cases c with
  | ioQueueRetrieveNextRequest queue =>
    obtain ⟨hq, rfl⟩ := ha
    exact draws_retrieve hq h
  | requestComplete r status =>
    rw [World.Draws, respond, completionMonitor, custody_complete r status 0 []]
    exact Custody.Drawn.complete h ha
  | requestCompleteWithInformation r status information output =>
    rw [World.Draws, respond, completionMonitor, custody_complete r status information output]
    exact Custody.Drawn.complete h ha
  | _ =>
    rw [World.Draws, custody_respond]
    · exact h
    · trivial

theorem draws_exec {α : Type} {p : Driver α} (hp : Finishes P p) (w : World) :
    w.Draws P none (exec p w).2 := by
  obtain ⟨m, rfl, hs⟩ := Monitor.run_follows (h := respond) (I := fun m v => w.Draws P m v)
    (fun c _ _ ha hv => ⟨trivial, draws_respond c ha hv⟩) hp (Custody.Drawn.refl _ _)
  exact hs

end

end WireShock
