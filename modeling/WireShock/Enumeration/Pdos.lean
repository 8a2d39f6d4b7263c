import WireShock.Interaction.Backward
import WireShock.Isolation.Queues
import WireShock.Semantics.Enumerator
import WireShock.Semantics.Views

namespace WireShock
open Interaction

namespace Pdo

def deviceId : WideText := rtlInitUnicodeString hardwareIds

-- the device that the callback sets up for the child at an address
def deviceOf (a : BdAddr) : Device where
  init :=
    { deviceType := some fileDeviceBusExtender
      forwardsToParent := true
      deviceId := some deviceId
      hardwareIds := [deviceId]
      instanceId := some (addressText a)
      texts := [(deviceDescription, deviceLocation, 0x409)]
      defaultLocale := some 0x409 }
  pnp := some pnpCaps
  power := some powerCaps
  defaultQueue := true

section

variable {s : Setup} {w : World} {p rest : Driver NTSTATUS} {a : BdAddr}

def Setup.next (s : Setup) : Setup := { s with statuses := fun n => s.statuses (n + 1) }

-- a call of the set-up refuses and nothing else happens, or all of them are carried out
inductive Outcome (a : BdAddr) (w : World) : NTSTATUS × Setup × World → Prop
  | refused {status : NTSTATUS} (s : Setup) (h : ntSuccess status = false) : Outcome a w (status, s, w)
  | carriedOut (s : Setup) (h : s.device = some (deviceOf a)) : Outcome a w
      ((WireShock.exec (WireShock.wireShockEvtWdfChildListCreateDevice a) w).1, s,
        (WireShock.exec (WireShock.wireShockEvtWdfChildListCreateDevice a) w).2)

theorem exec_createDevice : exec (wireShockEvtWdfChildListCreateDevice a) s w =
    exec (attempt (initAssignDeviceID deviceId) <| attempt (initAddHardwareID deviceId) <|
      identifyChild a <| describeChild <| createChild a)
      ((s.setInit fun i => { i with deviceType := some fileDeviceBusExtender }).setInit
        fun i => { i with forwardsToParent := true }) w := rfl

theorem exec_setLocale : exec (do initSetDefaultLocale 0x409; rest) s w =
    exec rest (s.setInit fun i => { i with defaultLocale := some 0x409 }) w := rfl

theorem exec_setCapabilities :
    exec (do deviceSetPnpCapabilities pnpCaps; deviceSetPowerCapabilities powerCaps; rest) s w =
      exec rest ((s.setDevice fun d => { d with pnp := some pnpCaps }).setDevice
        fun d => { d with power := some powerCaps }) w := rfl

theorem outcome_attempt {update : Setup → Setup}
    (hp : exec p s w = ((s.answer update).1, (s.answer update).2, w))
    (hr : Outcome a w (exec rest (update s.next) w)) : Outcome a w (exec (attempt p rest) s w) := by
  have he : exec (attempt p rest) s w = exec (if !ntSuccess (exec p s w).1 then
      return (exec p s w).1 else rest) (exec p s w).2.1 (exec p s w).2.2 := Program.run_bind _ _ _ _
  rw [he, hp]
  cases h : ntSuccess (s.statuses 0) with
  | false =>
    have ha : s.answer update = (s.statuses 0, s.next) := by rw [Setup.answer, h]; rfl
    simp only [ha, h]
    exact .refused s.next h
  | true =>
    have ha : s.answer update = (s.statuses 0, update s.next) := by rw [Setup.answer, h]; rfl
    simp only [ha, h]
    exact hr

theorem length_addressText (a : BdAddr) : (addressText a).length = 17 := Text.length_joined _ _

theorem printf_address (a : BdAddr) :
    rtlUnicodeStringPrintf maxDeviceIdLen (addressText a) = .ok (addressText a) := by
  have hl : (addressText a).length ≤ maxDeviceIdLen := by
    rw [length_addressText]
    decide
  rw [rtlUnicodeStringPrintf, if_pos hl]

theorem printf_description :
    rtlUnicodeStringPrintf maxDeviceIdLen deviceDescription = .ok deviceDescription := by
  have hl : deviceDescription.length ≤ maxDeviceIdLen := by decide
  rw [rtlUnicodeStringPrintf, if_pos hl]

theorem outcome_createDevice (s : Setup) (w : World) (a : BdAddr) :
    Outcome a w (exec (wireShockEvtWdfChildListCreateDevice a) s.begin w) := by
  rw [exec_createDevice]
  refine outcome_attempt rfl (outcome_attempt rfl ?_)
  rw [identifyChild, printf_address]
  refine outcome_attempt rfl ?_
  rw [describeChild, printf_description]
  refine outcome_attempt rfl ?_
  rw [exec_setLocale, createChild]
  refine outcome_attempt rfl ?_
  rw [exec_setCapabilities]
  refine outcome_attempt rfl ?_
  rw [exec, Program.run_inr]
  exact .carriedOut _ rfl

end
end Pdo
section

variable {list later : ChildList} {a b : BdAddr} {device : BthDevice}

theorem isCreated_iff : list.isCreated a = true ↔ list.Created a := by
  simp [ChildList.isCreated, ChildList.Created]

theorem isCreated_of_keepsQueues (h : list.KeepsQueues later) (ha : later.isCreated a = true) :
    list.isCreated a = true := by
  obtain ⟨c, hc, rfl, hcreated⟩ := isCreated_iff.mp ha
  obtain ⟨d, hd, hdcreated, hda, -⟩ := h c hc hcreated
  exact isCreated_iff.mpr ⟨d, hd, hda, hdcreated⟩

theorem isCreated_of_update (h : (list.update a device).isCreated b = true) :
    list.isCreated b = true := by
  obtain ⟨c, hc, rfl, hcreated⟩ := isCreated_iff.mp h
  obtain ⟨d, hd, hda, hdc, -⟩ := ChildList.mem_update hc
  exact isCreated_iff.mpr ⟨d, hd, hda, hdc.trans hcreated⟩

theorem isCreated_of_markCreated (h : (list.markCreated a).isCreated b = true) :
    b = a ∨ list.isCreated b = true := by
  obtain ⟨c, hc, rfl, hcreated⟩ := isCreated_iff.mp h
  obtain ⟨d, hd, hda, -, hdc⟩ := ChildList.mem_markCreated hc
  rcases hdc with hdc | hca
  · exact .inr (isCreated_iff.mpr ⟨d, hd, hda, hdc.symm.trans hcreated⟩)
  · exact .inl hca

end

theorem keepsQueues_step (w : World) (e : Event) (he : ∀ a, e ≠ .createDevice a) :
    w.KeepsQueues (w.step e) := by
  cases e with
  | hci buffer n =>
    rw [step_hci]
    cases receivedEvent buffer n with
    | none => exact ChildList.keepsQueues_refl _
    | some event => exact keepsQueues_dispatchEvent
  | acl buffer n => exact keepsQueues_step_acl w buffer n
  | createDevice a => exact absurd rfl (he a)
  | timer a => exact keepsQueues_of_eq (children_step_timer w a)
  | d0Entry => exact keepsQueues_setup (w := w.clearLog) setup_wireShockEvtDeviceD0Entry
  | d0Exit => exact keepsQueues_setup (w := w.clearLog) setup_wireShockEvtDeviceD0Exit

theorem isCreated_createDevice {w : World} {a b : BdAddr}
    (h : (exec (wireShockEvtWdfChildListCreateDevice a) w).2.children.isCreated b = true) :
    w.children.isCreated b = true := by
  rcases createDevice_cases w a with ⟨-, hc⟩ | ⟨device, timer, hc, -⟩
  · rwa [hc] at h
  · rw [hc] at h
    exact isCreated_of_update h

namespace Enumerator

def Mirrors (t : Enumerator) : Prop :=
  ∀ a, t.pdos a = if t.world.children.isCreated a then some (Pdo.deviceOf a) else none

section

variable {t : Enumerator} {a b : BdAddr}

theorem pdo_of_created (h : t.Mirrors) (ha : t.world.children.isCreated a = true) :
    t.pdos a = some (Pdo.deviceOf a) := (h a).trans (if_pos ha)

theorem mirrors_settle
    (h : ∀ a, t.world.children.isCreated a = true → t.pdos a = some (Pdo.deviceOf a)) :
    t.settle.Mirrors := by
  intro a
  rw [settle]
  dsimp only
  split
  · rename_i ha
    exact h a ha
  · rfl

theorem mirrors_createDevice (h : t.Mirrors)
    (hb : (t.createDevice a).world.children.isCreated b = true) :
    (t.createDevice a).pdos b = some (Pdo.deviceOf b) := by
  have ho := Pdo.outcome_createDevice t.setup t.world a
  revert hb
  rw [createDevice]
  generalize Pdo.exec (Pdo.wireShockEvtWdfChildListCreateDevice a) t.setup.begin t.world = r at ho
  cases ho with
  | refused s hs =>
    dsimp only
    rw [if_neg (by simp [hs])]
    exact fun hb => pdo_of_created h hb
  | carriedOut s hs =>
    dsimp only
    split
    · intro hb
      dsimp only
      rw [Function.update_apply, hs]
      split
      · rename_i hba
        rw [hba]
      · rename_i hba
        have hcreated := (isCreated_of_markCreated hb).resolve_left hba
        exact pdo_of_created h (isCreated_createDevice hcreated)
    · intro hb
      have hcreated : t.world.children.isCreated b = true := isCreated_createDevice hb
      exact pdo_of_created (t := t) h hcreated

theorem mirrors_step (e : Event) (h : t.Mirrors) : (t.step e).Mirrors := by
  refine mirrors_settle fun b hb => ?_
  have hkeep (he : ∀ a, e ≠ .createDevice a) (hb : (t.world.step e).children.isCreated b = true) :
      t.pdos b = some (Pdo.deviceOf b) :=
    pdo_of_created h (isCreated_of_keepsQueues (keepsQueues_step t.world e he) hb)
  cases e with
  | createDevice a => exact mirrors_createDevice (t := t.clearLog) h hb
  | _ => exact hkeep nofun hb

end

end Enumerator

theorem addressText_eq (a : BdAddr) : Pdo.addressText a = Text.joined ':' a.address.reverse := by
  obtain ⟨address, size⟩ := a
  obtain ⟨_, _, _, _, _, _, rfl⟩ : ∃ u v w x y z, address = [u, v, w, x, y, z] := by
    rcases address with _ | ⟨u, _ | ⟨v, _ | ⟨w, _ | ⟨x, _ | ⟨y, _ | ⟨z, _ | ⟨r, rest⟩⟩⟩⟩⟩⟩⟩ <;>
      simp at size
    exact ⟨u, v, w, x, y, z, rfl⟩
  rfl

theorem addressText_injective {a b : BdAddr} (h : Pdo.addressText a = Pdo.addressText b) : a = b := by
  rw [addressText_eq, addressText_eq] at h
  have ha : a.address = b.address := List.reverse_injective (Text.joined_injective ':' h)
  obtain ⟨address, size⟩ := a
  obtain ⟨address', size'⟩ := b
  cases ha
  rfl

namespace Enumerator

-- each created child has a device, set up with all that the driver gives it, and no other child
-- has: the framework tells the children apart by instance IDs that spell their addresses
structure Identified (t : Enumerator) : Prop where
  mirrors : t.Mirrors
  reads : ∀ a d, t.pdos a = some d →
    d.init.instanceId.bind (Text.separated ':') = some a.address.reverse
  apart : ∀ a b d e, t.pdos a = some d → t.pdos b = some e →
    d.init.instanceId = e.init.instanceId → a = b

theorem identified_of_mirrors {t : Enumerator} (h : t.Mirrors) : t.Identified := by
  have hid : ∀ a d, t.pdos a = some d → d.init.instanceId = some (Pdo.addressText a) := by
    intro a d hd
    rw [h a] at hd
    split at hd
    · cases hd
      rfl
    · cases hd
  refine ⟨h, fun a d hd => ?_, fun a b d e hd he hsame => ?_⟩
  · rw [hid a d hd, addressText_eq]
    exact Text.separated_joined ':' _
  · rw [hid a d hd, hid b e he] at hsame
    exact addressText_injective (Option.some.inj hsame)

theorem identified_always (environment : Environment) (statuses : Nat → NTSTATUS)
    (es : List Event) : Always step Identified (initial environment statuses) es :=
  always_of_invariant (L := fun _ _ => True) (fun _ e h _ => mirrors_step e h)
    (fun _ => identified_of_mirrors) (fun _ => rfl) (along_of_forall fun _ _ => trivial)

end Enumerator

def World.withFramework (w : World) (frameworkStatus : Nat → NTSTATUS) : World :=
  { w with environment := { w.environment with frameworkStatus := frameworkStatus } }

section

variable {w : World} {statuses : Nat → NTSTATUS}

theorem clear_withFramework : World.Clear (World.withFramework · statuses) :=
  ⟨fun _ => rfl, fun _ _ => rfl, fun _ _ => rfl⟩

theorem withFramework_createHandle :
    (w.withFramework (statusThen (w.environment.frameworkStatus 0) statuses)).createHandle =
      (w.createHandle.1, w.createHandle.2.withFramework statuses) := by
  have hs : (w.withFramework (statusThen (w.environment.frameworkStatus 0)
      statuses)).environment.frameworkStatus 0 = w.environment.frameworkStatus 0 := rfl
  unfold World.createHandle
  rw [hs]
  split <;> rfl

theorem withFramework_retrieveNextRequest (queue : Option Handle) :
    (w.withFramework statuses).retrieveNextRequest queue =
      ((w.retrieveNextRequest queue).1, (w.retrieveNextRequest queue).2.withFramework statuses) := by
  cases queue with
  | none => rfl
  | some q =>
    have hq : (w.withFramework statuses).queues q = w.queues q := rfl
    simp only [World.retrieveNextRequest, hq]
    cases w.queues q <;> rfl

end

def framedBy (statuses : Nat → NTSTATUS) (w : World) : World := w.withFramework statuses

theorem answers_framework : Answers framedBy respond respond fun _ => True := by
  intro c _ w statuses
  cases c with
  | ioQueueCreate => exact ⟨_, withFramework_createHandle⟩
  | timerCreate => exact ⟨_, withFramework_createHandle⟩
  | ioTargetStart pipe => exact ⟨statusThen (w.environment.frameworkStatus 0) statuses, rfl⟩
  | childListUpdateAsMissing a =>
    exact ⟨statuses, congrArg (Prod.mk _) (clear_withFramework.remove w a)⟩
  | childListScan => exact ⟨statuses, congrArg (Prod.mk _) (clear_withFramework.removeAll w)⟩
  | ioQueueRetrieveNextRequest queue =>
    exact ⟨statuses, withFramework_retrieveNextRequest queue⟩
  | _ => exact ⟨statuses, rfl⟩

theorem exec_framework {α : Type} (p : Driver α) (w : World) (statuses : Nat → NTSTATUS) :
    ∃ statuses', exec p (w.withFramework statuses') =
      ((exec p w).1, (exec p w).2.withFramework statuses) :=
  Program.answered_of_uses answers_framework p.uses_true w statuses

-- a set-up that is refused leaves the driver as a queue that cannot be created does
theorem createDevice_refused (w : World) (a : BdAddr) (statuses : Nat → NTSTATUS) :
    ∃ statuses', (w.withFramework statuses').react (.createDevice a) = w.withFramework statuses := by
  cases hl : w.children.lookup a with
  | none =>
    refine ⟨statuses, ?_⟩
    have hn : ntSuccess statusNoSuchDevice = false := by decide
    simp [World.react, wireShockEvtWdfChildListCreateDevice, World.retrieve, World.withFramework, hl,
      hn]
  | some device =>
    refine ⟨statusThen statusUnsuccessful statuses, ?_⟩
    have hn : ntSuccess statusUnsuccessful = false := by decide
    simp [World.react, wireShockEvtWdfChildListCreateDevice, World.retrieve, World.createHandle,
      World.withFramework, World.nextFramework, statusThen, hl, hn]

namespace Enumerator

def seen (statuses : Nat → NTSTATUS) (t : Enumerator) : World := t.world.withFramework statuses

theorem createDevice_explained (t : Enumerator) (a : BdAddr) (statuses : Nat → NTSTATUS) :
    ∃ statuses', (t.world.withFramework statuses').react (.createDevice a) =
      (t.createDevice a).world.withFramework statuses := by
  have ho := Pdo.outcome_createDevice t.setup t.world a
  rw [createDevice]
  generalize Pdo.exec (Pdo.wireShockEvtWdfChildListCreateDevice a) t.setup.begin t.world = r at ho
  cases ho with
  | refused s hs =>
    dsimp only
    rw [if_neg (by simp [hs])]
    exact createDevice_refused t.world a statuses
  | carriedOut s hs =>
    obtain ⟨statuses', h⟩ :=
      exec_framework (wireShockEvtWdfChildListCreateDevice a) t.world statuses
    refine ⟨statuses', ?_⟩
    rw [World.react, h]
    dsimp only
    split <;> rfl

theorem explains : Explains seen World.step step some := by
  intro t e statuses
  have hexec {α : Type} (p : Driver α) : ∃ statuses', (exec p
      (t.world.clearLog.withFramework statuses')).2 =
        (exec p t.world.clearLog).2.withFramework statuses := by
    obtain ⟨statuses', h⟩ := exec_framework p t.world.clearLog statuses
    exact ⟨statuses', congrArg Prod.snd h⟩
  cases e with
  | createDevice a =>
    obtain ⟨statuses', h⟩ := createDevice_explained t.clearLog a statuses
    exact ⟨statuses', h⟩
  | hci buffer n => exact hexec (wireShockEvtUsbInterruptPipeReadComplete buffer n)
  | acl buffer n => exact hexec (wireShockEvtUsbBulkReadPipeReadComplete buffer n)
  | timer a => exact hexec (wireChildOutputReportEvtTimerFunc a)
  | d0Entry => exact hexec wireShockEvtDeviceD0Entry
  | d0Exit => exact hexec wireShockEvtDeviceD0Exit

theorem runs_as_driver (t : Enumerator) (es : List Event) : ∃ statuses, ∀ fs, fs <+: es →
    ∃ rest, runs World.step (t.world.withFramework statuses) fs =
      (runs step t fs).world.withFramework rest := by
  obtain ⟨statuses, h⟩ := runs_explained explains t es fun _ => statusSuccess
  refine ⟨statuses, fun fs hfs => ?_⟩
  obtain ⟨rest, hr⟩ := h fs hfs
  rw [List.filterMap_some] at hr
  exact ⟨rest, hr⟩

end Enumerator
end WireShock
