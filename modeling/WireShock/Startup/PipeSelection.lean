import WireShock.Interaction.Run
import WireShock.Semantics.UsbTransfers
import WireShock.Startup.PipeScan

namespace WireShock
open Interaction

namespace Usb

-- which pipes the driver can use there
def PipeInformation.serves (i : PipeInformation) : Pipe → Bool
  | .interruptPipe => i.type = .interrupt && i.direction = .input
  | .bulkReadPipe => i.type = .bulk && i.direction = .input
  | .bulkWritePipe => i.type = .bulk && i.direction = .output

def Environment.Smooth (environment : Environment) : Prop :=
  (∀ n, ntSuccess (environment.frameworkStatus n)) ∧ environment.configuration.interface.isSome

theorem taken_of_serves {i : PipeInformation} {role : Pipe} (h : i.serves role) : i.taken role := by
  cases role with
  | interruptPipe =>
    simp only [PipeInformation.serves, Bool.and_eq_true] at h
    exact h.1
  | bulkReadPipe => exact h
  | bulkWritePipe => exact h

def Call.Unassigning : Call → Prop
  | .updateContext _ => False
  | _ => True

theorem unassigning_call {c : Call} (h : c.Unassigning) : (call c).Uses Call.Unassigning :=
  ⟨h, fun _ => trivial⟩

theorem unassigning_sendRequest (request : Request) (device : Option Handle) (status : NTSTATUS) :
    (sendRequest request device status).Uses Call.Unassigning := by
  refine Program.uses_bind (unassigning_call trivial) fun accepted => ?_
  exact Program.uses_ite (fun _ => trivial) fun _ => unassigning_call trivial

theorem unassigning_setRoutine (request : Request) (routine : Option CompletionRoutine) :
    (setRoutine request routine).Uses Call.Unassigning := by
  cases routine with
  | none => trivial
  | some routine => exact unassigning_call trivial

theorem unassigning_submit {device : Option Handle} {size : Nat} {data : List BYTE}
    {allowed : Prop} [Decidable allowed] {format : Request → Handle → Driver NTSTATUS}
    {routine : Option CompletionRoutine}
    (hformat : ∀ request memory, (format request memory).Uses Call.Unassigning) :
    (submit device size data allowed format routine).Uses Call.Unassigning := by
  refine Program.uses_bind (unassigning_call trivial) fun reply => ?_
  cases reply with
  | error status => trivial
  | ok request =>
    refine Program.uses_bind (unassigning_call trivial) fun reply => ?_
    cases reply with
    | error status => trivial
    | ok memory =>
      refine Program.uses_bind (unassigning_call trivial) fun _ => ?_
      refine Program.uses_ite (fun _ => trivial) fun _ => ?_
      refine Program.uses_bind (hformat request memory) fun status => ?_
      refine Program.uses_ite (fun _ => trivial) fun _ => ?_
      exact Program.uses_bind (unassigning_setRoutine _ _) fun _ => unassigning_sendRequest _ _ _

theorem unassigning_writeBulkPipe (buffer : List BYTE) :
    (writeBulkPipe buffer).Uses Call.Unassigning := by
  rw [writeBulkPipe_eq]
  exact Program.uses_bind (unassigning_call trivial) fun _ =>
    unassigning_submit fun _ _ => unassigning_call trivial

theorem unassigning_sendControlRequest (arguments : ControlRequest) :
    (sendControlRequest arguments).Uses Call.Unassigning := by
  rw [sendControlRequest_eq]
  exact unassigning_submit fun _ _ => unassigning_call trivial

end Usb

namespace UsbHost

variable {h g : UsbHost} {first : Handle} {l : List Usb.PipeInformation}

-- no field holds a handle that is still to be given out
def Bounded (h : UsbHost) : Prop :=
  ∀ role handle, h.context.pipe role = some handle → handle < h.nextHandle

theorem Bounded.kept (hb : h.Bounded) (hk : h.Kept g) : g.Bounded := by
  intro role handle hp
  rw [hk.pipe role] at hp
  exact Nat.lt_of_lt_of_le (hb role handle hp) hk.nextHandle

theorem Scanned.map_information (hs : h.Scanned g first l) : g.pipes.map (·.information) = l := by
  rw [hs.pipes, Usb.map_information_numbered]

theorem Scanned.lastMatch_map (hs : h.Scanned g first l) (role : Pipe) :
    (lastMatch (·.information.taken role) g.pipes).map (·.information) =
      lastMatch (·.taken role) l := by
  rw [← hs.map_information, Interaction.lastMatch_map]
  rfl

theorem Scanned.pipe_of_none (hs : h.Scanned g first l) {role : Pipe}
    (hl : lastMatch (·.taken role) l = none) : g.context.pipe role = h.context.pipe role := by
  rw [← hs.lastMatch_map, Option.map_eq_none_iff] at hl
  rw [hs.pipe, hl]
  rfl

theorem Scanned.pipe_of_some (hs : h.Scanned g first l) {role : Pipe} {i : Usb.PipeInformation}
    (hl : lastMatch (·.taken role) l = some i) :
    ∃ p ∈ g.pipes, p.information = i ∧ g.context.pipe role = some p.handle := by
  rw [← hs.lastMatch_map, Option.map_eq_some_iff] at hl
  obtain ⟨p, hp, hi⟩ := hl
  refine ⟨p, mem_of_lastMatch hp, hi, ?_⟩
  rw [hs.pipe, hp]
  rfl

theorem Scanned.bounded (hs : h.Scanned g first l) (hb : h.Bounded) : g.Bounded := by
  intro role handle hp
  rw [hs.nextHandle]
  cases hl : lastMatch (·.taken role) l with
  | none =>
    rw [hs.pipe_of_none hl] at hp
    exact Nat.lt_add_right _ (Nat.lt_of_lt_of_le (hb role handle hp) hs.fresh)
  | some i =>
    obtain ⟨p, hmem, -, he⟩ := hs.pipe_of_some hl
    rw [he, Option.some.injEq] at hp
    rw [hs.pipes] at hmem
    exact hp ▸ (Usb.handle_of_mem_numbered hmem).2

theorem Scanned.isSome_iff (hs : h.Scanned g first l) (role : Pipe) :
    (g.context.pipe role).isSome ↔
      ¬ (h.context.pipe role = none ∧ ∀ i ∈ l, i.taken role = false) := by
  rw [← lastMatch_eq_none]
  cases hl : lastMatch (·.taken role) l with
  | none => simp [hs.pipe_of_none hl, Option.isSome_iff_ne_none]
  | some i =>
    obtain ⟨p, -, -, he⟩ := hs.pipe_of_some hl
    simp [he]

-- a field that still holds an old handle names no pipe of the list
theorem Scanned.serves_iff (hs : h.Scanned g first l) (hb : h.Bounded) (role : Pipe) :
    (∃ p ∈ g.pipes, p.information.serves role ∧ g.context.pipe role = some p.handle) ↔
      ∃ i, lastMatch (·.taken role) l = some i ∧ i.serves role := by
  constructor
  · rintro ⟨p, hp, hserves, he⟩
    rw [hs.pipes] at hp
    cases hl : lastMatch (·.taken role) l with
    | none =>
      have hlt := Nat.lt_of_lt_of_le (hb role p.handle (hs.pipe_of_none hl ▸ he)) hs.fresh
      exact absurd hlt (Nat.not_lt.mpr (Usb.handle_of_mem_numbered hp).1)
    | some i =>
      obtain ⟨q, hq, rfl, hqe⟩ := hs.pipe_of_some hl
      rw [hs.pipes] at hq
      rw [he, Option.some.injEq] at hqe
      exact ⟨q.information, rfl, Usb.eq_of_handle hp hq hqe ▸ hserves⟩
  · rintro ⟨i, hl, hserves⟩
    obtain ⟨p, hp, rfl, he⟩ := hs.pipe_of_some hl
    exact ⟨p, hp, hserves, he⟩

def prepare (h : UsbHost) (environment : Usb.Environment) : NTSTATUS × UsbHost :=
  Usb.exec Usb.wireShockEvtDevicePrepareHardware (h.enter environment)

structure StartsRight (h : UsbHost) (environment : Usb.Environment) : Prop where
  succeeds : ntSuccess (h.prepare environment).1 ↔
    ∀ role, ∃ i ∈ environment.configuration.pipes, i.serves role
  own : ntSuccess (h.prepare environment).1 →
    (h.prepare environment).2.pipes.map (·.information) = environment.configuration.pipes
  current : ntSuccess (h.prepare environment).1 → ∀ role,
    ∃ p ∈ (h.prepare environment).2.pipes, p.information.serves role ∧
      (h.prepare environment).2.context.pipe role = some p.handle

-- a field that is still NULL stays so, or the last pipe taken for each serves
def Selects (h : UsbHost) (l : List Usb.PipeInformation) : Prop :=
  (∃ role, h.context.pipe role = none ∧ ∀ i ∈ l, i.taken role = false) ∨
  ∀ role, ∃ i, lastMatch (·.taken role) l = some i ∧ i.serves role

def StartsOnCurrentPipes (h : UsbHost) : UsbEvent → Prop
  | .prepareHardware environment => environment.Smooth → h.StartsRight environment
  | _ => True

def SelectsPipes (h : UsbHost) : UsbEvent → Prop
  | .prepareHardware environment => environment.Smooth → h.Selects environment.configuration.pipes
  | _ => True

variable {environment : Usb.Environment}

theorem scanned_prepare (hsmooth : environment.Smooth) : ∃ first,
    (h.enter environment).Scanned (h.prepare environment).2 first
        environment.configuration.pipes ∧
      (ntSuccess (h.prepare environment).1 ↔
        ∀ role, ((h.prepare environment).2.context.pipe role).isSome) := by
  rcases prepares_prepareHardware (h.enter environment) with ⟨-, hn⟩ | ⟨first, hs, hr⟩
  · exact absurd hsmooth hn
  · exact ⟨first, hs, hr hsmooth.1⟩

theorem selects_of_startsRight (hb : h.Bounded) (hsmooth : environment.Smooth)
    (hstarts : h.StartsRight environment) : h.Selects environment.configuration.pipes := by
  obtain ⟨first, hs, hr⟩ := scanned_prepare (h := h) hsmooth
  by_cases hsuccess : ntSuccess (h.prepare environment).1
  · exact Or.inr fun role => (hs.serves_iff hb role).mp (hstarts.current hsuccess role)
  · obtain ⟨role, hrole⟩ := not_forall.mp fun ha => hsuccess (hr.mpr ha)
    rw [hs.isSome_iff role, not_not] at hrole
    exact Or.inl ⟨role, hrole⟩

theorem startsRight_of_selects (hb : h.Bounded) (hsmooth : environment.Smooth)
    (hselects : h.Selects environment.configuration.pipes) : h.StartsRight environment := by
  obtain ⟨first, hs, hr⟩ := scanned_prepare (h := h) hsmooth
  rcases hselects with ⟨role, hnone, huntaken⟩ | hall
  · have hfails : ¬ ntSuccess (h.prepare environment).1 := fun ha =>
      (hs.isSome_iff role).mp (hr.mp ha role) ⟨hnone, huntaken⟩
    refine ⟨iff_of_false hfails fun ha => ?_, fun ha => absurd ha hfails,
      fun ha => absurd ha hfails⟩
    obtain ⟨i, hi, hserves⟩ := ha role
    exact Bool.false_ne_true ((huntaken i hi).symm.trans (Usb.taken_of_serves hserves))
  · have hserved := fun role => (hs.serves_iff hb role).mpr (hall role)
    have hsuccess : ntSuccess (h.prepare environment).1 := by
      refine hr.mpr fun role => ?_
      obtain ⟨p, -, -, hp⟩ := hserved role
      rw [hp]
      rfl
    refine ⟨iff_of_true hsuccess fun role => ?_, fun _ => hs.map_information, fun _ => hserved⟩
    obtain ⟨i, hl, hserves⟩ := hall role
    exact ⟨i, mem_of_lastMatch hl, hserves⟩

theorem startsRight_iff (hb : h.Bounded) (hsmooth : environment.Smooth) :
    h.StartsRight environment ↔ h.Selects environment.configuration.pipes :=
  ⟨selects_of_startsRight hb hsmooth, startsRight_of_selects hb hsmooth⟩

theorem kept_createRequest (h : UsbHost) : h.Kept h.createRequest.2 := by
  unfold createRequest
  split <;> exact ⟨Nat.le_refl _, fun _ => rfl, rfl, fun h n => h (n + 1)⟩

theorem kept_format (h : UsbHost) (request : Request) (transfer : Usb.Transfer) :
    h.Kept (h.format request transfer).2 := by
  unfold format
  split <;> exact ⟨Nat.le_refl _, fun _ => rfl, rfl, fun h n => h (n + 1)⟩

theorem kept_send (h : UsbHost) (request : Request) : h.Kept (h.send request).2 := by
  unfold send
  split <;> exact ⟨Nat.le_refl _, fun _ => rfl, rfl, id⟩

theorem kept_respond {c : Usb.Call} (hc : c.Unassigning) : h.Kept (Usb.respond c h).2 := by
  cases c with
  | updateContext => exact hc.elim
  | usbTargetDeviceCreateWithParameters => exact kept_createHandle h
  | usbTargetDeviceSelectConfig => exact kept_selectConfig h
  | usbTargetPipeConfigContinuousReader => exact kept_nextFramework h
  | requestCreate => exact kept_createRequest h
  | memoryCreate => exact kept_createHandle h
  | usbTargetPipeFormatRequestForWrite => exact kept_format h _ _
  | usbTargetDeviceFormatRequestForControlTransfer => exact kept_format h _ _
  | requestSend => exact kept_send h _
  | requestGetStatus => exact kept_nextFramework h
  | _ => exact ⟨Nat.le_refl _, fun _ => rfl, rfl, id⟩

theorem kept_exec {α : Type} {p : Usb.Driver α} (hp : p.Uses Usb.Call.Unassigning) :
    h.Kept (Usb.exec p h).2 :=
  Program.run_invariant (I := h.Kept) (fun _ _ hc hk => hk.trans (kept_respond hc)) hp (.refl h)

theorem Bounded.enter (hb : h.Bounded) (environment : Usb.Environment) :
    (h.enter environment).Bounded := hb

theorem Bounded.prepare (hb : h.Bounded) (environment : Usb.Environment) :
    (h.prepare environment).2.Bounded := by
  rcases prepares_prepareHardware (h.enter environment) with ⟨hk, -⟩ | ⟨first, hs, -⟩
  · exact Bounded.kept (hb.enter environment) hk
  · exact hs.bounded (hb.enter environment)

theorem Bounded.complete (hb : h.Bounded) (request : Request) : (h.complete request).Bounded := by
  unfold UsbHost.complete
  split
  · cases h.routine request with
    | none => exact hb
    | some routine => cases routine; exact hb
  · exact hb

theorem Bounded.step (hb : h.Bounded) (e : UsbEvent) : (h.step e).Bounded := by
  cases e with
  | prepareHardware environment => exact hb.prepare environment
  | writeBulkPipe environment buffer =>
    exact (hb.enter environment).kept (kept_exec (Usb.unassigning_writeBulkPipe buffer))
  | sendControlRequest environment arguments =>
    exact (hb.enter environment).kept (kept_exec (Usb.unassigning_sendControlRequest arguments))
  | requestCompleted request => exact hb.complete request

theorem bounded_initial (environment : Usb.Environment) : (initial environment).Bounded := by
  intro role handle hp
  cases role <;> cases hp

theorem starts_on_current_pipes_iff (environment : Usb.Environment) (es : List UsbEvent) :
    Along step StartsOnCurrentPipes (initial environment) es ↔
      Along step SelectsPipes (initial environment) es := by
  refine along_congr (I := Bounded) (L := fun _ _ => True) (fun _ e hb _ => hb.step e)
    (fun h e hb _ => ?_) (bounded_initial environment) (along_of_forall fun _ _ => trivial)
  cases e with
  | prepareHardware environment => exact forall_congr' fun hsmooth => startsRight_iff hb hsmooth
  | _ => exact Iff.rfl

theorem smooth_failing {configuration : Usb.Configuration}
    (hi : configuration.interface.isSome) : (Usb.Environment.failing configuration none).Smooth :=
  ⟨fun _ => by simp [Usb.Environment.failing, ntSuccess, statusSuccess], hi⟩

theorem isSome_of_taken (hsmooth : environment.Smooth) {role : Pipe}
    (ht : ∃ i ∈ environment.configuration.pipes, i.taken role) :
    ((h.prepare environment).2.context.pipe role).isSome := by
  obtain ⟨first, hs, -⟩ := scanned_prepare (h := h) hsmooth
  refine (hs.isSome_iff role).mpr fun hnone => ?_
  obtain ⟨i, hi, htaken⟩ := ht
  exact Bool.false_ne_true ((hnone.2 i hi).symm.trans htaken)

-- the second configuration has lost its bulk OUT pipe
theorem starts_without_bulk_out : ¬ Along step StartsOnCurrentPipes
    (initial (.failing .dongle none)) [.prepareHardware (.failing .dongle none),
      .prepareHardware (.failing ⟨some 0, [⟨.interrupt, .input⟩, ⟨.bulk, .input⟩], by decide⟩
        none)] := by
  rintro ⟨-, hstarts, -⟩
  have hb := (bounded_initial (.failing .dongle none)).step
    (.prepareHardware (.failing .dongle none))
  have hfilled : ∀ role, ∃ i ∈ Usb.Configuration.dongle.pipes, i.taken role := by
    intro role
    cases role <;> decide
  rcases (startsRight_iff hb (smooth_failing rfl)).mp (hstarts (smooth_failing rfl)) with
    ⟨role, hnone, -⟩ | hall
  · have hsome : (((initial (.failing .dongle none)).prepare
        (.failing .dongle none)).2.context.pipe role).isSome :=
      isSome_of_taken (smooth_failing rfl) (hfilled role)
    exact absurd hnone (Option.isSome_iff_ne_none.mp hsome)
  · obtain ⟨i, hlast, -⟩ := hall .bulkWritePipe
    have hnone : lastMatch (·.taken .bulkWritePipe)
      [(⟨.interrupt, .input⟩ : Usb.PipeInformation), ⟨.bulk, .input⟩] = none := by decide
    cases hnone.symm.trans hlast

end UsbHost
end WireShock
