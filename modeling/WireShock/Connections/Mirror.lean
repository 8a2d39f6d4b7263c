import WireShock.Connections.Piconet
import WireShock.Connections.Presence
import WireShock.Interaction.Run

namespace WireShock
open Interaction

inductive ConnectionEvent where
  | requested (address : BdAddr)
  | completed (address : BdAddr) (handle : Option BthHandle)
  | disconnected (handle : BthHandle)

def LinkEvent.connectionEvent : LinkEvent → ConnectionEvent
  | .requested a => .requested a
  | .opened a handle => .completed a (some handle)
  | .closed handle => .disconnected handle

def Event.failedConnection : Event → Option BdAddr
  | .hci buffer n =>
    if receivedEvent buffer n = some .connectionComplete ∧ buffer 2 ≠ 0 then
      some (BdAddr.fromBuffer buffer 5)
    else none
  | _ => none

def Event.connectionEvent (e : Event) : Option ConnectionEvent :=
  match e.linkEvent with
  | some link => some link.connectionEvent
  | none => e.failedConnection.map fun a => .completed a none

def Output.accepts : Output → Bool
  | .control packet status =>
    commandOfPacket packet = some .acceptConnectionRequest && ntSuccess status
  | _ => false

def World.accepts (w : World) (e : Event) : Bool := (w.step e).log.any Output.accepts

structure Mirror where
  world : World
  awaiting : BdAddr → Nat
  links : List (BdAddr × BthHandle)

namespace Mirror

def initial (environment : Environment) : Mirror := ⟨World.initial environment, fun _ => 0, []⟩

def observe (s : Mirror) (accepted : Bool) : ConnectionEvent → Mirror
  | .requested a =>
    if accepted then { s with awaiting := Function.update s.awaiting a (s.awaiting a + 1) } else s
  | .completed a handle =>
    { s with
      awaiting := Function.update s.awaiting a (s.awaiting a - 1)
      links := handle.elim s.links fun handle => (a, handle) :: s.links }
  | .disconnected handle => { s with links := s.links.filter fun link => link.2 ≠ handle }

def step (s : Mirror) (e : Event) : Mirror :=
  let observed := e.connectionEvent.elim s (s.observe (s.world.accepts e))
  { observed with world := s.world.step e }

def Linked (s : Mirror) (a : BdAddr) : Prop := a ∈ s.links.map Prod.fst

def Connected (s : Mirror) (a : BdAddr) : Prop := 0 < s.awaiting a ∨ s.Linked a

instance (s : Mirror) (a : BdAddr) : Decidable (s.Connected a) :=
  inferInstanceAs (Decidable (_ ∨ _ ∈ _))

def Mirrors (s : Mirror) : Prop := ∀ a, s.world.children.Present a ↔ s.Connected a

def Answers (s : Mirror) : Option ConnectionEvent → Prop
  | some (.completed a _) => 0 < s.awaiting a
  | _ => True

def Legal (s : Mirror) (e : Event) : Prop := s.Answers e.connectionEvent

instance (s : Mirror) (e : Event) : Decidable (s.Legal e) := by
  unfold Legal
  cases e.connectionEvent with
  | none => exact isTrue trivial
  | some c => cases c <;> unfold Answers <;> infer_instance

def LastLink (s : Mirror) (a : BdAddr) (handle : BthHandle) : Prop :=
  s.awaiting a = 0 ∧ (a, handle) ∈ s.links ∧ ∀ other, (a, other) ∈ s.links → other = handle

def Undone (s : Mirror) : ConnectionEvent → Prop
  | .requested a => s.Connected a ∨
      ntSuccess (s.world.environment.controlStatus 0) ∧
        ntSuccess (s.world.environment.controlStatus 1)
  | .completed a none => 1 < s.awaiting a ∨ s.Linked a
  | .completed _ (some _) => True
  | .disconnected handle => ∀ a,
      (∃ device, s.world.children.findByHandle handle.flagged = some (a, device)) ↔
        s.LastLink a handle

structure Undoes (s : Mirror) (e : Event) : Prop where
  connection : ∀ c ∈ e.connectionEvent, s.Undone c
  cleared : s.world.clears e = true → ∀ a, ¬ s.Connected a

section

variable {s : Mirror} {e : Event} {a : BdAddr} {w : World}

theorem connectionEvent_of_linkEvent {link : LinkEvent} (h : e.linkEvent = some link) :
    e.connectionEvent = some link.connectionEvent := by
  rw [Event.connectionEvent, h]

theorem clears_of_connectionEvent {c : ConnectionEvent} (h : e.connectionEvent = some c) :
    w.clears e = false := by
  cases hl : e.linkEvent with
  | some link => exact clears_of_linkEvent hl
  | none =>
    rw [Event.connectionEvent, hl] at h
    obtain ⟨b, hb, -⟩ := Option.map_eq_some_iff.mp h
    cases e with
    | hci buffer n =>
      rw [Event.failedConnection] at hb
      split at hb
      · rename_i he
        simp [World.clears, he.1]
      · cases hb
    | _ => cases hb

theorem accepted_step (h : e.linkEvent = some (.requested a)) :
    w.accepts e =
      (ntSuccess (w.environment.controlStatus 0) && ntSuccess (w.environment.controlStatus 1)) := by
  obtain ⟨buffer, n, event, hl, hs⟩ := step_of_linkEvent w h
  obtain ⟨rfl, rfl⟩ := requested_of_hciLinkEvent hl
  have hdelete : ∀ v : World, commandOfPacket (hciPacket .deleteStoredLinkKey
      (overlay (v.uninitialised 10).val 3 ((BdAddr.fromBuffer buffer 2).address ++ [0#8]))) =
        some .deleteStoredLinkKey := fun v =>
    commandOfPacket_overlay v _ (by simp [BdAddr.size])
  have haccept : ∀ v : World, commandOfPacket (hciPacket .acceptConnectionRequest
      (overlay (v.uninitialised 10).val 3 ((BdAddr.fromBuffer buffer 2).address ++ [0#8]))) =
        some .acceptConnectionRequest := fun v =>
    commandOfPacket_overlay v _ (by simp [BdAddr.size])
  have hadd : ∀ c : Prop, [Decidable c] →
      ntSuccess (if c then statusObjectNameExists else statusSuccess) = true := by
    intro c _
    split <;> decide
  rw [World.accepts, hs, dispatchEvent]
  cases hd : ntSuccess (w.environment.controlStatus 0) <;>
    simp [hciConnectionRequestEv, hciCommandDeleteStoredLinkKey, hciCommandAcceptConnectionRequest,
      World.clearLog, World.addOrUpdate, World.sendControl, hadd, hd, Output.accepts, hdelete,
      haccept]

theorem connected_requested {accepted : Bool} {b : BdAddr} :
    (s.observe accepted (.requested a)).Connected b ↔
      accepted = true ∧ b = a ∨ s.Connected b := by
  cases accepted with
  | false => simp [observe]
  | true =>
    by_cases hb : b = a
    · simp [observe, Connected, hb]
    · simp [observe, Connected, hb, Linked]

theorem connected_completed {accepted : Bool} {handle : Option BthHandle} {b : BdAddr} :
    (s.observe accepted (.completed a handle)).Connected b ↔
      if b = a then 1 < s.awaiting a ∨ handle.isSome = true ∨ s.Linked a else s.Connected b := by
  have hlinked : (s.observe accepted (.completed a handle)).Linked b ↔
      (handle.isSome = true ∧ b = a) ∨ s.Linked b := by
    cases handle <;> simp [observe, Linked]
  have hawaiting : (s.observe accepted (.completed a handle)).awaiting b =
      if b = a then s.awaiting a - 1 else s.awaiting b := Function.update_apply ..
  rw [Connected, hlinked, hawaiting]
  split
  · rename_i hb
    have hpos : 0 < s.awaiting a - 1 ↔ 1 < s.awaiting a := by omega
    rw [hb, hpos]
    simp
  · rename_i hb
    simp [hb, Connected]

theorem linked_iff {b : BdAddr} : s.Linked b ↔ ∃ handle, (b, handle) ∈ s.links := by
  simp [Linked]

theorem linked_disconnected {accepted : Bool} {handle : BthHandle} {b : BdAddr} :
    (s.observe accepted (.disconnected handle)).Linked b ↔
      ∃ other, (b, other) ∈ s.links ∧ other ≠ handle := by
  rw [linked_iff]
  simp [observe]

theorem lastLink_iff (accepted : Bool) {handle : BthHandle} {b : BdAddr} :
    s.LastLink b handle ↔
      s.Connected b ∧ ¬ (s.observe accepted (.disconnected handle)).Connected b := by
  rw [Connected, Connected, linked_disconnected, linked_iff, LastLink]
  have haw : (s.observe accepted (.disconnected handle)).awaiting b = s.awaiting b := rfl
  rw [haw]
  constructor
  · rintro ⟨hzero, hmem, honly⟩
    refine ⟨Or.inr ⟨handle, hmem⟩, ?_⟩
    rintro (hpos | ⟨other, ho, hne⟩)
    · omega
    · exact hne (honly other ho)
  · rintro ⟨hc, hn⟩
    push Not at hn
    obtain ⟨hzero, honly⟩ := hn
    rcases hc with hpos | ⟨other, ho⟩
    · omega
    · exact ⟨by omega, honly other ho ▸ ho, honly⟩

theorem connected_of_observe {handle : BthHandle} {b : BdAddr} {accepted : Bool}
    (h : (s.observe accepted (.disconnected handle)).Connected b) : s.Connected b := by
  rcases h with h | h
  · exact Or.inl h
  · obtain ⟨other, ho, -⟩ := linked_disconnected.mp h
    exact Or.inr (linked_iff.mpr ⟨other, ho⟩)

theorem mirrors_of_connectionEvent {c : ConnectionEvent} (h : e.connectionEvent = some c) :
    (s.step e).Mirrors ↔ ∀ b, (s.world.step e).children.Present b ↔
      (s.observe (s.world.accepts e) c).Connected b := by
  rw [step, h]
  exact Iff.rfl

theorem mirrors_of_none (h : e.connectionEvent = none) :
    (s.step e).Mirrors ↔ ∀ b, (s.world.step e).children.Present b ↔ s.Connected b := by
  rw [step, h]
  exact Iff.rfl

theorem mirrors_requested (hm : s.Mirrors) (h : e.linkEvent = some (.requested a)) :
    (s.step e).Mirrors ↔ s.Undone (.requested a) := by
  have haccepted := accepted_step (w := s.world) h
  rw [mirrors_of_connectionEvent (connectionEvent_of_linkEvent h), Undone, ← Bool.and_eq_true,
    ← haccepted]
  constructor
  · intro hall
    have ha := (hall a).mp ((present_step_requested h).mpr (Or.inl rfl))
    exact (connected_requested.mp ha).elim (fun h => Or.inr h.1) Or.inl
  · intro hu b
    refine (present_step_requested h).trans (Iff.trans ?_ connected_requested.symm)
    rw [hm b]
    constructor
    · rintro (rfl | hb)
      · exact hu.elim Or.inr fun ha => Or.inl ⟨ha, rfl⟩
      · exact Or.inr hb
    · rintro (⟨-, hb⟩ | hb)
      · exact Or.inl hb
      · exact Or.inr hb

theorem mirrors_completed {handle : Option BthHandle} (hm : s.Mirrors) (hl : 0 < s.awaiting a)
    (h : e.connectionEvent = some (.completed a handle))
    (hp : ∀ b, (s.world.step e).children.Present b ↔ s.world.children.Present b) :
    (s.step e).Mirrors ↔ 1 < s.awaiting a ∨ handle.isSome = true ∨ s.Linked a := by
  rw [mirrors_of_connectionEvent h]
  constructor
  · intro hall
    have ha := (hall a).mp ((hp a).mpr ((hm a).mpr (Or.inl hl)))
    simpa using connected_completed.mp ha
  · intro hu b
    refine (hp b).trans ((hm b).trans (Iff.trans ?_ connected_completed.symm))
    split
    · rename_i hb
      rw [hb]
      exact iff_of_true (Or.inl hl) hu
    · exact Iff.rfl

theorem kept_iff_removed {found connected kept : Prop} (hf : found → connected)
    (hk : kept → connected) :
    ((¬ found ∧ connected) ↔ kept) ↔ (found ↔ connected ∧ ¬ kept) := by
  by_cases hc : connected
  · by_cases hfound : found <;> by_cases hkept : kept <;> simp [hc, hfound, hkept]
  · simp [hc, mt hf hc, mt hk hc]

theorem mirrors_disconnected {handle : BthHandle} (hm : s.Mirrors)
    (h : e.linkEvent = some (.closed handle)) :
    (s.step e).Mirrors ↔ s.Undone (.disconnected handle) := by
  rw [mirrors_of_connectionEvent (connectionEvent_of_linkEvent h), Undone]
  refine forall_congr' fun b => ?_
  have hfound : (∃ device, s.world.children.findByHandle handle.flagged = some (b, device)) →
      s.Connected b := by
    rintro ⟨device, hd⟩
    refine (hm b).mp ?_
    rw [ChildList.Present, (lookup_of_findByHandle hd).1]
    rfl
  have hpresent := present_step_closed (w := s.world) (b := b) h
  rw [← not_exists, hm b] at hpresent
  rw [hpresent, lastLink_iff (s.world.accepts e)]
  exact kept_iff_removed hfound connected_of_observe

theorem mirrors_step_iff (hm : s.Mirrors) (hl : s.Legal e) :
    (s.step e).Mirrors ↔ s.Undoes e := by
  have hundoes : ∀ {c}, e.connectionEvent = some c → (s.Undoes e ↔ s.Undone c) := by
    intro c hc
    refine ⟨fun hu => hu.connection c hc, fun hu => ⟨fun d hd => ?_, fun ht => ?_⟩⟩
    · cases hc.symm.trans hd
      exact hu
    · rw [clears_of_connectionEvent hc] at ht
      cases ht
  cases hlink : e.linkEvent with
  | some link =>
    have hc := connectionEvent_of_linkEvent hlink
    rw [hundoes hc]
    cases link with
    | requested a => exact mirrors_requested hm hlink
    | opened a handle =>
      have ha : 0 < s.awaiting a := by
        rw [Legal, hc] at hl
        exact hl
      rw [mirrors_completed hm ha hc fun b => present_step_opened hlink]
      exact iff_of_true (Or.inr (Or.inl rfl)) trivial
    | closed handle => exact mirrors_disconnected hm hlink
  | none =>
    have hpresent : ∀ b, (s.world.step e).children.Present b ↔
        s.world.clears e = false ∧ s.world.children.Present b := fun b =>
      present_step_of_none hlink
    cases hf : e.failedConnection with
    | some a =>
      have hc : e.connectionEvent = some (.completed a none) := by
        rw [Event.connectionEvent, hlink, hf]
        rfl
      have ha : 0 < s.awaiting a := by
        rw [Legal, hc] at hl
        exact hl
      rw [hundoes hc, mirrors_completed hm ha hc fun b => ?_]
      · simp [Undone]
      · rw [hpresent, clears_of_connectionEvent hc]
        simp
    | none =>
      have hc : e.connectionEvent = none := by
        rw [Event.connectionEvent, hlink, hf]
        rfl
      rw [mirrors_of_none hc]
      constructor
      · intro hall
        refine ⟨fun c h => ?_, fun ht a ha => ?_⟩
        · rw [hc] at h
          cases h
        · have hp := (hpresent a).mp ((hall a).mpr ha)
          rw [ht] at hp
          cases hp.1
      · intro hu b
        refine (hpresent b).trans (Iff.trans ?_ (hm b))
        cases ht : s.world.clears e with
        | false => simp
        | true =>
          have hn : ¬ s.world.children.Present b := fun hp =>
            hu.cleared ht b ((hm b).mp hp)
          simp [hn]

theorem mirrors_initial {environment : Environment} : (initial environment).Mirrors := by
  intro a
  refine iff_of_false (by simp [initial, World.initial, ChildList.Present, ChildList.lookup,
    ChildList.empty]) ?_
  rintro (h | h)
  · exact Nat.lt_irrefl 0 h
  · cases h

end

theorem mirrors_always_iff (environment : Environment) {es : List Event}
    (hl : Along step Legal (initial environment) es) :
    Always step Mirrors (initial environment) es ↔
      Along step Undoes (initial environment) es :=
  always_iff_along_of_invariant (I := fun _ => True) (fun _ _ _ _ => trivial)
    (fun _ _ _ hl hm => mirrors_step_iff hm hl) trivial hl mirrors_initial

def connectionRequestEvent : Event :=
  .hci (Buffer.ofList [0x04, 0x0A, 0x01, 0x02, 0x03, 0x04, 0x05, 0x06]) 12

def connectionCompleteEvent (status : BYTE) : Event :=
  .hci (Buffer.ofList [0x03, 0x0B, status, 0x2A, 0x00, 0x01, 0x02, 0x03, 0x04, 0x05, 0x06]) 13

def disconnectionCompleteEvent : Event :=
  .hci (Buffer.ofList [0x05, 0x04, 0x00, 0x2A, 0x00, 0x13]) 6

def connectionEvents : List Event :=
  [connectionRequestEvent, .createDevice someAddress, connectionCompleteEvent 0x00,
   disconnectionCompleteEvent]

theorem mirrors_always_iff_connection :
    Always step Mirrors (initial .succeeding) connectionEvents ↔
      Along step Undoes (initial .succeeding) connectionEvents :=
  mirrors_always_iff .succeeding (by decide +kernel)

theorem failed_connection_stays :
    ¬ ∀ (environment : Environment) (es : List Event),
      Along step Legal (initial environment) es →
        Always step Mirrors (initial environment) es := by
  intro h
  have hm := always_runs (h .succeeding
    [connectionRequestEvent, .createDevice someAddress, connectionCompleteEvent 0x04]
    (by decide +kernel)) someAddress
  revert hm
  decide +kernel

def linkOf (links : List (BdAddr × BthHandle)) : Links := fun a =>
  (links.find? fun link => link.1 = a).map Prod.snd

def piconet (s : Mirror) : Piconet := ⟨s.world, linkOf s.links⟩

-- no address has two links, two requests, or one of each
structure Settled (s : Mirror) : Prop where
  single : ∀ a handle other, (a, handle) ∈ s.links → (a, other) ∈ s.links → other = handle
  awaiting : ∀ a, s.awaiting a ≤ 1
  settled : ∀ a, s.Linked a → s.awaiting a = 0

structure Orderly (s : Mirror) : Prop extends Settled s where
  tracked : s.piconet.Tracked

structure Valid (s : Mirror) (e : Event) : Prop where
  legal : s.Legal e
  piconet : s.piconet.Legal e
  fresh : ∀ a, e.linkEvent = some (.requested a) → s.awaiting a = 0

-- no failure exit of the handlers is taken, and the list is not cleared under a connection
structure Succeeds (s : Mirror) (e : Event) : Prop where
  requested : ∀ a, e.connectionEvent = some (.requested a) →
    ntSuccess (s.world.environment.controlStatus 0) ∧
      ntSuccess (s.world.environment.controlStatus 1)
  completed : ∀ a, e.connectionEvent ≠ some (.completed a none)
  cleared : s.world.clears e = true → ∀ a, ¬ s.Connected a

section

variable {s : Mirror} {e : Event} {a : BdAddr} {handle : BthHandle}

theorem linked_of_mem (h : (a, handle) ∈ s.links) : s.Linked a := linked_iff.mpr ⟨handle, h⟩

theorem linkOf_isSome : (linkOf s.links a).isSome = true ↔ s.Linked a := by
  simp [linkOf, Linked]

theorem not_linked (h : linkOf s.links a = none) : ¬ s.Linked a := by
  rw [← linkOf_isSome, h]
  exact Bool.false_ne_true

theorem linkOf_eq_some (hs : s.Settled) : linkOf s.links a = some handle ↔ (a, handle) ∈ s.links := by
  have hmem (other : BthHandle) (h : linkOf s.links a = some other) : (a, other) ∈ s.links := by
    obtain ⟨⟨b, handle⟩, hf, rfl⟩ := Option.map_eq_some_iff.mp h
    have hb : b = a := by simpa using List.find?_some hf
    exact hb ▸ List.mem_of_find?_eq_some hf
  refine ⟨hmem handle, fun h => ?_⟩
  obtain ⟨other, ho⟩ := Option.isSome_iff_exists.mp (linkOf_isSome.mpr (linked_of_mem h))
  rw [ho, hs.single a handle other h (hmem other ho)]

-- the lookup finds the child whose link has ended, and no other
theorem undone_disconnected (hs : s.Orderly) (hc : s.world.children.AllCreated) (hm : s.Mirrors)
    (hl : s.piconet.links a = some handle) : s.Undone (.disconnected handle) := by
  have hmem := (linkOf_eq_some hs.toSettled).mp hl
  have hlinked := linked_of_mem hmem
  obtain ⟨device, hd⟩ := Option.isSome_iff_exists.mp ((hm a).mpr (Or.inr hlinked))
  have hf : s.world.children.findByHandle handle.flagged = some (a, device) := by
    refine (Piconet.findByHandle_of_linked hs.tracked hc hl).trans ?_
    exact congrArg (Option.map fun device => (a, device)) hd
  intro b
  constructor
  · rintro ⟨other, hb⟩
    cases hf.symm.trans hb
    exact ⟨hs.settled a hlinked, hmem, fun other ho => hs.single a handle other hmem ho⟩
  · rintro ⟨-, hb, -⟩
    have hab := hs.tracked.injective b a handle ((linkOf_eq_some hs.toSettled).mpr hb) hl
    exact ⟨device, hab ▸ hf⟩

theorem linkEvent_of_connectionEvent (link : LinkEvent)
    (h : e.connectionEvent = some link.connectionEvent) : e.linkEvent = some link := by
  cases hl : e.linkEvent with
  | some other =>
    rw [connectionEvent_of_linkEvent hl] at h
    cases other <;> cases link <;> cases h <;> rfl
  | none =>
    rw [Event.connectionEvent, hl] at h
    obtain ⟨b, -, hb⟩ := Option.map_eq_some_iff.mp h
    cases link <;> cases hb

theorem undoes_iff_succeeds (hs : s.Orderly) (hv : s.Valid e) (hm : s.Mirrors) :
    s.Undoes e ↔ s.Succeeds e := by
  have hnone (b : BdAddr) (hb : 0 < s.awaiting b) : ¬ (1 < s.awaiting b ∨ s.Linked b) := by
    rintro (h | h)
    · exact absurd (hs.awaiting b) (Nat.not_le_of_lt h)
    · exact absurd (hs.settled b h) (Nat.ne_of_gt hb)
  constructor
  · intro hu
    refine ⟨fun b hb => ?_, fun b hb => ?_, hu.cleared⟩
    · have hl := linkEvent_of_connectionEvent (.requested b) hb
      refine (hu.connection _ hb).resolve_left ?_
      rintro (h | h)
      · exact absurd (hv.fresh b hl) (Nat.ne_of_gt h)
      · exact not_linked (hv.piconet.reports _ hl) h
    · have hpos : 0 < s.awaiting b := by
        have hl := hv.legal
        rwa [Legal, hb] at hl
      exact hnone b hpos (hu.connection _ hb)
  · intro hx
    refine ⟨fun c hc => ?_, hx.cleared⟩
    cases c with
    | requested b => exact Or.inr (hx.requested b hc)
    | completed b handle =>
      cases handle with
      | none => exact absurd hc (hx.completed b)
      | some handle => trivial
    | disconnected handle =>
      have hl := linkEvent_of_connectionEvent (.closed handle) hc
      obtain ⟨b, hb⟩ := hv.piconet.reports _ hl
      have hcreated := hv.piconet.created (Piconet.isTransfer_of_linkEvent hl)
      exact undone_disconnected hs hcreated hm hb

theorem step_of_connectionEvent {c : ConnectionEvent} (h : e.connectionEvent = some c) :
    s.step e = { s.observe (s.world.accepts e) c with world := s.world.step e } := by
  rw [step, h]
  rfl

theorem settled_requested (accepted : Bool) (hs : s.Settled) (hzero : s.awaiting a = 0)
    (hn : ¬ s.Linked a) : (s.observe accepted (.requested a)).Settled := by
  cases accepted with
  | false => exact hs
  | true =>
    have hawaiting (b : BdAddr) : (s.observe true (.requested a)).awaiting b =
        if b = a then s.awaiting a + 1 else s.awaiting b := Function.update_apply ..
    refine ⟨hs.single, fun b => ?_, fun b hb => ?_⟩
    · rw [hawaiting, hzero]
      split
      · exact Nat.le_refl 1
      · exact hs.awaiting b
    · rw [hawaiting, if_neg fun h : b = a => hn (h ▸ hb)]
      exact hs.settled b hb

theorem link_completed (accepted : Bool) (hn : ¬ s.Linked a) {answer : Option BthHandle} {b : BdAddr}
    (h : (b, handle) ∈ (s.observe accepted (.completed a answer)).links) :
    (b = a ∧ answer = some handle) ∨ b ≠ a ∧ (b, handle) ∈ s.links := by
  have hne (h : (b, handle) ∈ s.links) : b ≠ a := fun hb => hn (linked_of_mem (hb ▸ h))
  cases answer with
  | none => exact Or.inr ⟨hne h, h⟩
  | some other =>
    rcases List.mem_cons.mp h with h | h
    · cases h
      exact Or.inl ⟨rfl, rfl⟩
    · exact Or.inr ⟨hne h, h⟩

theorem settled_completed (accepted : Bool) (hs : s.Settled) (hpos : 0 < s.awaiting a)
    (answer : Option BthHandle) : (s.observe accepted (.completed a answer)).Settled := by
  have hn : ¬ s.Linked a := fun h => absurd (hs.settled a h) (Nat.ne_of_gt hpos)
  have hawaiting (b : BdAddr) : (s.observe accepted (.completed a answer)).awaiting b =
      if b = a then 0 else s.awaiting b := by
    rw [← Nat.sub_eq_zero_of_le (hs.awaiting a)]
    exact Function.update_apply ..
  refine ⟨fun b handle other hh ho => ?_, fun b => ?_, fun b hb => ?_⟩
  · rcases link_completed accepted hn hh with ⟨hba, hh⟩ | ⟨hba, hh⟩
    · rcases link_completed accepted hn ho with ⟨-, ho⟩ | ⟨hne, -⟩
      · exact Option.some.inj (ho.symm.trans hh)
      · exact absurd hba hne
    · rcases link_completed accepted hn ho with ⟨heq, -⟩ | ⟨-, ho⟩
      · exact absurd heq hba
      · exact hs.single b handle other hh ho
  · rw [hawaiting]
    split
    · exact Nat.zero_le 1
    · exact hs.awaiting b
  · rw [hawaiting]
    split
    · rfl
    · rename_i hba
      obtain ⟨other, ho⟩ := linked_iff.mp hb
      rcases link_completed accepted hn ho with ⟨heq, -⟩ | ⟨-, ho⟩
      · exact absurd heq hba
      · exact hs.settled b (linked_of_mem ho)

theorem settled_disconnected (accepted : Bool) (hs : s.Settled) (handle : BthHandle) :
    (s.observe accepted (.disconnected handle)).Settled := by
  refine ⟨fun b handle other hh ho => ?_, hs.awaiting, fun b hb => ?_⟩
  · exact hs.single b handle other (List.mem_of_mem_filter hh) (List.mem_of_mem_filter ho)
  · obtain ⟨other, ho, -⟩ := linked_disconnected.mp hb
    exact hs.settled b (linked_of_mem ho)

theorem linkOf_opened : linkOf ((a, handle) :: s.links) =
    (linkOf s.links).after (.opened a handle) := by
  funext b
  rw [Links.after_opened, linkOf, List.find?_cons]
  by_cases hb : b = a
  · simp [hb]
  · simp [hb, Ne.symm hb, linkOf]

theorem linkOf_closed (accepted : Bool) (hs : s.Settled) :
    linkOf (s.observe accepted (.disconnected handle)).links =
      (linkOf s.links).after (.closed handle) := by
  funext b
  refine Option.ext fun other => ?_
  rw [linkOf_eq_some (settled_disconnected accepted hs handle), Links.after_closed]
  have hmem : (b, other) ∈ (s.observe accepted (.disconnected handle)).links ↔
      (b, other) ∈ s.links ∧ other ≠ handle := by simp [observe]
  rw [hmem]
  split
  · rename_i hb
    have hb' := (linkOf_eq_some hs).mp hb
    exact iff_of_false (fun h => h.2 (hs.single b handle other hb' h.1)) nofun
  · rename_i hb
    rw [← linkOf_eq_some hs]
    exact ⟨And.left, fun h => ⟨h, fun heq => hb (heq ▸ h)⟩⟩

theorem piconet_step (hs : s.Settled) : (s.step e).piconet = s.piconet.step e := by
  cases hl : e.linkEvent with
  | some link =>
    have hc := connectionEvent_of_linkEvent hl
    rw [step_of_connectionEvent hc, Piconet.step, hl]
    cases link with
    | requested a =>
      rw [LinkEvent.connectionEvent, observe]
      split <;> rfl
    | opened a handle => exact congrArg (Piconet.mk _) linkOf_opened
    | closed handle => exact congrArg (Piconet.mk _) (linkOf_closed (s.world.accepts e) hs)
  | none =>
    have hlinks : (s.step e).links = s.links := by
      rw [step, Event.connectionEvent, hl]
      cases e.failedConnection <;> rfl
    rw [piconet, hlinks, Piconet.step, hl]
    rfl

theorem orderly_step (hs : s.Orderly) (hv : s.Valid e) : (s.step e).Orderly := by
  have htracked : (s.step e).piconet.Tracked := by
    rw [piconet_step hs.toSettled]
    exact Piconet.tracked_step hs.tracked hv.piconet
  cases hc : e.connectionEvent with
  | none =>
    have hstep : s.step e = { s with world := s.world.step e } := by
      rw [step, hc]
      rfl
    rw [hstep] at htracked ⊢
    exact ⟨⟨hs.single, hs.awaiting, hs.settled⟩, htracked⟩
  | some c =>
    have hsettled : (s.observe (s.world.accepts e) c).Settled := by
      cases c with
      | requested a =>
        have hl := linkEvent_of_connectionEvent (.requested a) hc
        exact settled_requested _ hs.toSettled (hv.fresh a hl) (not_linked (hv.piconet.reports _ hl))
      | completed a answer =>
        have hpos : 0 < s.awaiting a := by
          have hl := hv.legal
          rwa [Legal, hc] at hl
        exact settled_completed _ hs.toSettled hpos answer
      | disconnected handle => exact settled_disconnected _ hs.toSettled handle
    rw [step_of_connectionEvent hc] at htracked ⊢
    exact ⟨⟨hsettled.single, hsettled.awaiting, hsettled.settled⟩, htracked⟩

theorem orderly_initial {environment : Environment}
    (h : environment.unwritten.hciConnectionHandle = .unset) : (initial environment).Orderly :=
  ⟨⟨nofun, fun _ => Nat.zero_le 1, fun _ _ => rfl⟩, Piconet.tracked_initial h⟩

end

-- for a controller that reports its links as they are, a failure exit or a cleared list is all that
-- lets the children and the links come apart: the lookup of an ended link always finds its child
theorem mirrors_always_iff_succeeds (environment : Environment)
    (h : environment.unwritten.hciConnectionHandle = .unset) {es : List Event}
    (hv : Along step Valid (initial environment) es) :
    Always step Mirrors (initial environment) es ↔ Along step Succeeds (initial environment) es :=
  always_iff_along_of_invariant (fun _ _ => orderly_step)
    (fun _ _ hs hv hm => (mirrors_step_iff hm hv.legal).trans (undoes_iff_succeeds hs hv hm))
    (orderly_initial h) hv mirrors_initial

theorem mirrors_always_iff_succeeds_connection :
    Always step Mirrors (initial .succeeding) connectionEvents ↔
      Along step Succeeds (initial .succeeding) connectionEvents := by
  have hopened : (connectionCompleteEvent 0x00).linkEvent =
      some (.opened someAddress ⟨0x2A, 0x00⟩) := by decide +kernel
  have hclosed : disconnectionCompleteEvent.linkEvent = some (.closed ⟨0x2A, 0x00⟩) := by
    decide +kernel
  refine mirrors_always_iff_succeeds .succeeding rfl
    ⟨⟨by decide +kernel, ?_, fun _ _ => rfl⟩, ⟨by decide +kernel, ?_, nofun⟩,
      ⟨by decide +kernel, ?_, fun a h => ?_⟩, ⟨by decide +kernel, ?_, fun a h => ?_⟩, trivial⟩
  · exact Piconet.legal_of_link (.requested someAddress) (by decide +kernel) rfl (by decide +kernel)
  · exact Piconet.legal_of_none rfl nofun
  · exact Piconet.legal_of_link _ hopened ⟨rfl, by decide +kernel, nofun⟩ (by decide +kernel)
  · cases hopened.symm.trans h
  · refine Piconet.legal_of_link _ hclosed ⟨someAddress, ?_⟩ (by decide +kernel)
    decide +kernel
  · cases hclosed.symm.trans h

end Mirror

end WireShock
