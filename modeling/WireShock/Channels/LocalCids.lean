import WireShock.Channels.Allocation

namespace WireShock
open Interaction

structure Allocation where
  world : World
  calls : Nat
  served : L2capPsm → Option Nat

namespace Allocation

def initial (w : World) : Allocation := ⟨w, 0, fun _ => none⟩

def serve (s : Allocation) : Packet → L2capPsm → Option Nat
  | .connectionRequest (some type) _ => Function.update s.served type (some s.calls)
  | _ => s.served

def step (a : BdAddr) (s : Allocation) (p : AclPacket) : Allocation where
  world := s.world.stepAcl p
  calls := if s.world.allocates p then s.calls + 1 else s.calls
  served := if (s.world.received a p).isSome then s.serve (packetOf p.1) else s.served

def Distinct (a : BdAddr) (s : Allocation) : Prop :=
  ∀ device ∈ s.world.children.lookup a,
    (s.served .hidCommand).isSome → (s.served .hidInterrupt).isSome →
      (device.channel .hidCommand).destination ≠ (device.channel .hidInterrupt).destination

def Unwrapped (s : Allocation) : Packet → Prop
  | .connectionRequest (some type) _ =>
    ∀ other ≠ type, ∀ n ∈ s.served other, ¬ n ≡ s.calls [MOD 65471]
  | _ => True

def Fresh (a : BdAddr) (s : Allocation) (p : AclPacket) : Prop :=
  (s.world.received a p).isSome → s.Unwrapped (packetOf p.1)

structure Counted (a : BdAddr) (start : USHORT) (s : Allocation) : Prop where
  counter : s.world.globalCid = nextGlobalCid^[s.calls] start
  below : ∀ psm, ∀ n ∈ s.served psm, n < s.calls
  apart : ∀ psm other, psm ≠ other → ∀ m ∈ s.served psm, ∀ n ∈ s.served other, m ≠ n
  assigned : ∀ device ∈ s.world.children.lookup a, ∀ psm, ∀ n ∈ s.served psm,
    (device.channel psm).destination = cidAt start n

section

variable {s : Allocation} {a : BdAddr} {p : AclPacket} {device : BthDevice} {start : USHORT}

theorem served_of_received (h : s.world.received a p = some device) :
    (s.step a p).served = s.serve (packetOf p.1) := by
  rw [step, h]
  rfl

theorem served_of_none (h : s.world.received a p = none) : (s.step a p).served = s.served := by
  rw [step, h]
  rfl

theorem calls_le_step : s.calls ≤ (s.step a p).calls := by
  rw [step]
  dsimp only
  split
  · exact Nat.le_succ s.calls
  · exact Nat.le_refl s.calls

theorem counter_step (h : s.Counted a start) :
    (s.step a p).world.globalCid = nextGlobalCid^[(s.step a p).calls] start := by
  rw [step]
  dsimp only
  rw [World.globalCid_stepAcl, h.counter]
  split
  · exact (Function.iterate_succ_apply' nextGlobalCid s.calls start).symm
  · rfl

theorem serve_connectionRequest (type psm : L2capPsm) (scid : L2capCid) :
    s.serve (.connectionRequest (some type) scid) psm =
      if psm = type then some s.calls else s.served psm := Function.update_apply ..

theorem mem_serve {packet : Packet} {psm : L2capPsm} {n : Nat} (h : n ∈ s.serve packet psm) :
    (∃ scid, packet = .connectionRequest (some psm) scid ∧ n = s.calls) ∨
      (∀ scid, packet ≠ .connectionRequest (some psm) scid) ∧ n ∈ s.served psm := by
  cases packet with
  | connectionRequest type scid =>
    cases type with
    | none => exact Or.inr ⟨by simp, h⟩
    | some type =>
      rw [serve_connectionRequest] at h
      split at h
      · rename_i ht
        exact Or.inl ⟨scid, by rw [ht], (Option.some.inj h).symm⟩
      · rename_i ht
        exact Or.inr ⟨fun _ he => ht (by cases he; rfl), h⟩
  | _ => exact Or.inr ⟨by simp, h⟩

theorem channel_after_of_ne {cid : L2capCid} {packet : Packet} {psm : L2capPsm}
    (h : ∀ scid, packet ≠ .connectionRequest (some psm) scid) :
    (device.after cid packet).channel psm = device.channel psm := by
  rw [channel_after]
  cases packet with
  | connectionRequest type scid =>
    cases type with
    | none => rfl
    | some type =>
      exact if_neg fun ht => h scid (by rw [ht])
  | _ => rfl

theorem serve_of_ne {packet : Packet} {psm : L2capPsm}
    (h : ∀ scid, packet ≠ .connectionRequest (some psm) scid) :
    s.serve packet psm = s.served psm := by
  cases packet with
  | connectionRequest type scid =>
    cases type with
    | none => rfl
    | some type =>
      rw [serve_connectionRequest]
      exact if_neg fun ht => h scid (by rw [ht])
  | _ => rfl

theorem newCid_eq (h : s.Counted a start) : newCid s.world.globalCid = cidAt start s.calls := by
  rw [h.counter, cidAt]

theorem below_step (h : s.Counted a start) (psm : L2capPsm) (n : Nat)
    (hn : n ∈ (s.step a p).served psm) : n < (s.step a p).calls := by
  cases hr : s.world.received a p with
  | none =>
    rw [served_of_none hr] at hn
    exact Nat.lt_of_lt_of_le (h.below psm n hn) calls_le_step
  | some device =>
    rw [served_of_received hr] at hn
    rcases mem_serve hn with ⟨scid, hp, rfl⟩ | ⟨-, hn⟩
    · have hcalls : (s.step a p).calls = s.calls + 1 := by
        rw [step]
        exact if_pos ((World.allocates_of_received hr).trans (by rw [hp]; rfl))
      exact hcalls ▸ Nat.lt_succ_self s.calls
    · exact Nat.lt_of_lt_of_le (h.below psm n hn) calls_le_step

theorem apart_step (h : s.Counted a start) {psm other : L2capPsm} (hne : psm ≠ other) {m n : Nat}
    (hm : m ∈ (s.step a p).served psm) (hn : n ∈ (s.step a p).served other) : m ≠ n := by
  cases hr : s.world.received a p with
  | none =>
    rw [served_of_none hr] at hm hn
    exact h.apart psm other hne m hm n hn
  | some device =>
    rw [served_of_received hr] at hm hn
    rcases mem_serve hm with ⟨scid, hp, rfl⟩ | ⟨-, hm⟩
    · rcases mem_serve hn with ⟨_, hp', -⟩ | ⟨-, hn⟩
      · rw [hp] at hp'
        cases hp'
        exact absurd rfl hne
      · exact Nat.ne_of_gt (h.below other n hn)
    · rcases mem_serve hn with ⟨_, -, rfl⟩ | ⟨-, hn⟩
      · exact Nat.ne_of_lt (h.below psm m hm)
      · exact h.apart psm other hne m hm n hn

theorem assigned_step (h : s.Counted a start)
    (hd : device ∈ (s.step a p).world.children.lookup a) (psm : L2capPsm) (n : Nat)
    (hn : n ∈ (s.step a p).served psm) : (device.channel psm).destination = cidAt start n := by
  cases hr : s.world.received a p with
  | none =>
    have hd : device ∈ (s.world.stepAcl p).children.lookup a := hd
    rw [World.lookup_stepAcl_of_none hr] at hd
    rw [served_of_none hr] at hn
    exact h.assigned device hd psm n hn
  | some before =>
    cases (World.lookup_stepAcl_of_received hr).symm.trans hd
    rw [served_of_received hr] at hn
    rcases mem_serve hn with ⟨scid, hp, rfl⟩ | ⟨hp, hn⟩
    · rw [hp, channel_after]
      dsimp only
      rw [if_pos rfl, newCid_eq h]
    · rw [channel_after_of_ne hp]
      exact h.assigned before (World.lookup_of_received hr) psm n hn

theorem counted_step (h : s.Counted a start) : (s.step a p).Counted a start :=
  ⟨counter_step h, below_step h, fun _ _ hne _ hm _ hn => apart_step h hne hm hn,
    fun _ hd => assigned_step h hd⟩

theorem counted_initial {w : World} : (initial w).Counted a w.globalCid := by
  refine ⟨rfl, fun _ _ hn => ?_, fun _ _ _ _ hm => ?_, fun _ _ _ _ hn => ?_⟩
  · cases hn
  · cases hm
  · cases hn

theorem distinct_of_served (hd : 0x40 ≤ start) (hc : s.Counted a start)
    (hl : device ∈ s.world.children.lookup a) {psm other : L2capPsm} {m n : Nat}
    (hm : m ∈ s.served psm) (hn : n ∈ s.served other) :
    (device.channel psm).destination = (device.channel other).destination ↔
      m ≡ n [MOD 65471] := by
  rw [hc.assigned device hl psm m hm, hc.assigned device hl other n hn]
  exact cidAt_eq_iff hd m n

theorem distinct_iff (hd : 0x40 ≤ start) (hc : s.Counted a start)
    (hl : s.world.children.lookup a = some device) :
    s.Distinct a ↔ ∀ psm other, psm ≠ other → ∀ m ∈ s.served psm, ∀ n ∈ s.served other,
      ¬ m ≡ n [MOD 65471] := by
  have hpair : s.Distinct a ↔ ∀ m ∈ s.served .hidCommand, ∀ n ∈ s.served .hidInterrupt,
      ¬ m ≡ n [MOD 65471] := by
    constructor
    · intro h m hm n hn he
      exact h device hl (Option.isSome_of_mem hm) (Option.isSome_of_mem hn)
        ((distinct_of_served hd hc hl hm hn).mpr he)
    · intro h d hdev hm hn he
      cases hl.symm.trans hdev
      obtain ⟨m, hm⟩ := Option.isSome_iff_exists.mp hm
      obtain ⟨n, hn⟩ := Option.isSome_iff_exists.mp hn
      exact h m hm n hn ((distinct_of_served hd hc hl hm hn).mp he)
  rw [hpair]
  constructor
  · intro h psm other hne m hm n hn he
    cases psm <;> cases other
    · exact hne rfl
    · exact h m hm n hn he
    · exact h n hn m hm he.symm
    · exact hne rfl
  · intro h
    exact h .hidCommand .hidInterrupt (by decide)

theorem distinct_congr (hlookup : (s.step a p).world.children.lookup a =
    s.world.children.lookup a) (hserved : (s.step a p).served = s.served) :
    (s.step a p).Distinct a ↔ s.Distinct a := by
  rw [Distinct, Distinct, hlookup, hserved]

theorem distinct_step_iff (hd : 0x40 ≤ start) (hc : s.Counted a start) (h : s.Distinct a) :
    (s.step a p).Distinct a ↔ s.Fresh a p := by
  cases hr : s.world.received a p with
  | none =>
    rw [distinct_congr (World.lookup_stepAcl_of_none hr) (served_of_none hr)]
    exact iff_of_true h (by simp [Fresh, hr])
  | some device =>
    have hold := (distinct_iff hd hc (World.lookup_of_received hr)).mp h
    have hf : s.Fresh a p ↔ s.Unwrapped (packetOf p.1) := by simp [Fresh, hr]
    rw [distinct_iff hd (counted_step hc) (World.lookup_stepAcl_of_received hr),
      served_of_received hr, hf]
    constructor
    · intro hnew
      cases hp : packetOf p.1 with
      | connectionRequest type scid =>
        cases type with
        | none => trivial
        | some type =>
          rw [hp] at hnew
          intro other hne n hn
          refine hnew other type hne n ?_ s.calls ?_
          · simpa [serve_connectionRequest, hne] using hn
          · simp [serve_connectionRequest]
      | _ => trivial
    · intro hu psm other hne m hm n hn
      rcases mem_serve hm with ⟨scid, hp, rfl⟩ | ⟨hp, hm⟩
      · rw [hp] at hu
        rcases mem_serve hn with ⟨_, hp', rfl⟩ | ⟨-, hn⟩
        · rw [hp] at hp'
          cases hp'
          exact absurd rfl hne
        · exact fun he => hu other (Ne.symm hne) n hn he.symm
      · rcases mem_serve hn with ⟨scid, hp', rfl⟩ | ⟨-, hn⟩
        · rw [hp'] at hu
          exact hu psm hne m hm
        · exact hold psm other hne m hm n hn

end

theorem distinct_always_iff (a : BdAddr) {w : World} (h : 0x40 ≤ w.globalCid)
    (ps : List AclPacket) :
    Always (step a) (Distinct a) (initial w) ps ↔ Along (step a) (Fresh a) (initial w) ps :=
  always_iff_along_of_invariant (I := Counted a w.globalCid) (L := fun _ _ => True)
    (fun _ _ hc _ => counted_step hc) (fun _ _ hc _ hp => distinct_step_iff h hc hp)
    counted_initial (along_of_forall fun _ _ => trivial) (fun _ _ hm => nomatch hm)

theorem distinct_always_two :
    Always (step someAddress) (Distinct someAddress) (initial (.connected someAddress freshDevice))
        [connectionRequestPacket 0x11 ⟨0x70, 0x00⟩, connectionRequestPacket 0x13 ⟨0x71, 0x00⟩] ↔
      Along (step someAddress) (Fresh someAddress) (initial (.connected someAddress freshDevice))
        [connectionRequestPacket 0x11 ⟨0x70, 0x00⟩, connectionRequestPacket 0x13 ⟨0x71, 0x00⟩] :=
  distinct_always_iff someAddress (by decide) _

def Lone (a : BdAddr) (handle : BthHandle) (w : World) : Prop :=
  ∃ device, w.children.entries = [⟨a, device, true⟩] ∧ device.hciConnectionHandle = handle

section

variable {a : BdAddr} {handle : BthHandle} {p : AclPacket}

theorem received_of_lone {w : World} (h : Lone a handle w) (hn : p.2 ≠ 0)
    (hp : BthHandle.fromBuffer p.1 0 = handle) : ∃ device, w.received a p = some device := by
  obtain ⟨device, he, hh⟩ := h
  refine ⟨device, World.received_of_findByHandle hn ?_⟩
  rw [ChildList.findByHandle, he, hp]
  simp [firstWithHandle, hh]

theorem lone_stepAcl {w : World} (h : Lone a handle w) : Lone a handle (w.stepAcl p) := by
  obtain ⟨device, he, hh⟩ := h
  have hl : w.children.lookup a = some device := by simp [ChildList.lookup, he]
  cases hr : w.received a p with
  | none =>
    refine ⟨device, ?_, hh⟩
    rw [World.stepAcl, step_acl]
    split
    · exact he
    · rename_i hn
      have hf : w.children.findByHandle (BthHandle.fromBuffer p.1 0) = none := by
        by_cases hb : device.hciConnectionHandle = BthHandle.fromBuffer p.1 0
        · obtain ⟨other, hother⟩ := received_of_lone ⟨device, he, hh⟩ hn (hb.symm.trans hh)
          cases hr.symm.trans hother
        · simp [ChildList.findByHandle, he, firstWithHandle, hb]
      rw [hf]
      exact he
  | some other =>
    cases hl.symm.trans (World.lookup_of_received hr)
    have hc := children_exec (Program.ensures_uses traffic_dispatchPacket) w.clearLog
      (p := dispatchPacket device p.1)
    have hs : device.SameUpToChannels (exec (dispatchPacket device p.1) w.clearLog).1 :=
      Program.run_result traffic_dispatchPacket w.clearLog
    refine ⟨_, ?_, hs.handle.trans hh⟩
    rw [World.stepAcl_of_received hr, World.addOrUpdate, hc]
    simp [World.clearLog, ChildList.addOrUpdate, ChildList.Present, hl, ChildList.update, he]

theorem served_replicate {p : AclPacket} {psm : L2capPsm} {scid : L2capCid} (hn : p.2 ≠ 0)
    (hh : BthHandle.fromBuffer p.1 0 = handle)
    (hp : packetOf p.1 = .connectionRequest (some psm) scid) (n : Nat) {s : Allocation}
    (hl : Lone a handle s.world) :
    (runs (step a) s (List.replicate (n + 1) p)).served =
      Function.update s.served psm (some (s.calls + n)) := by
  have hone : ∀ {s : Allocation}, Lone a handle s.world →
      (s.step a p).served = Function.update s.served psm (some s.calls) ∧
        (s.step a p).calls = s.calls + 1 := by
    intro s hl
    obtain ⟨device, hr⟩ := received_of_lone hl hn hh
    constructor
    · rw [served_of_received hr, hp]
      rfl
    · rw [step]
      exact if_pos ((World.allocates_of_received hr).trans (by rw [hp]; rfl))
  induction n generalizing s with
  | zero => exact (hone hl).1
  | succ n ih =>
    obtain ⟨hserved, hcalls⟩ := hone hl
    rw [List.replicate_succ, runs, List.foldl_cons]
    refine (ih (lone_stepAcl hl)).trans ?_
    rw [hserved, hcalls, Function.update_idem]
    congr 2
    omega

end

theorem wrapped_of_distinct (n : Nat)
    (h : Always (step someAddress) (Distinct someAddress)
      (initial (.connected someAddress freshDevice))
      (connectionRequestPacket 0x11 ⟨0x70, 0x00⟩ ::
        List.replicate (n + 1) (connectionRequestPacket 0x13 ⟨0x71, 0x00⟩))) :
    ¬ 0 ≡ 1 + n [MOD 65471] := by
  let w := World.connected someAddress freshDevice
  let again := connectionRequestPacket 0x13 ⟨0x71, 0x00⟩
  let s := (initial w).step someAddress (connectionRequestPacket 0x11 ⟨0x70, 0x00⟩)
  have hlone : Lone someAddress freshDevice.hciConnectionHandle s.world :=
    lone_stepAcl ⟨freshDevice, rfl, rfl⟩
  have hp : packetOf again.1 = .connectionRequest (some .hidInterrupt) ⟨0x71, 0x00⟩ := by
    decide +kernel
  have hcommand : s.served .hidCommand = some 0 := by decide +kernel
  have hcalls : s.calls = 1 := by decide +kernel
  have hserved := served_replicate (by decide) rfl hp n hlone
  have hcounted : (runs (step someAddress) s (List.replicate (n + 1) again)).Counted
      someAddress w.globalCid :=
    runs_invariant (L := fun _ _ => True) (fun _ _ hc _ => counted_step hc)
      (counted_step counted_initial) (along_of_forall fun _ _ => trivial)
  have hpresent : Lone someAddress freshDevice.hciConnectionHandle
      (runs (step someAddress) s (List.replicate (n + 1) again)).world :=
    runs_invariant (I := fun t : Allocation => Lone someAddress freshDevice.hciConnectionHandle t.world)
      (L := fun _ _ => True) (fun _ _ ht _ => lone_stepAcl ht) hlone
      (along_of_forall fun _ _ => trivial)
  obtain ⟨device, he, -⟩ := hpresent
  have hl := ChildList.lookup_eq_some.mpr ⟨_, he ▸ List.mem_cons_self, rfl, rfl⟩
  refine (distinct_iff (by decide) hcounted hl).mp (always_runs h.2) .hidCommand .hidInterrupt
    (by decide) 0 ?_ (1 + n) ?_
  · rw [hserved, Function.update_of_ne (by decide)]
    exact hcommand
  · rw [hserved, hcalls, Function.update_self]
    rfl

theorem cid_shared_after_wrap :
    ¬ ∀ (a : BdAddr) (w : World) (ps : List AclPacket), 0x40 ≤ w.globalCid →
      Always (step a) (Distinct a) (initial w) ps :=
  fun h => wrapped_of_distinct 65470 (h _ _ _ (by decide)) (by decide)

end Allocation

end WireShock
