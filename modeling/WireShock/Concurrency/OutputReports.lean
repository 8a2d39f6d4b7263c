import WireShock.Channels.Link
import WireShock.Concurrency.Departure
import WireShock.Concurrency.Workspaces

namespace WireShock
open Interaction

inductive Task where
  | remoteName (buffer : Buffer) (numBytesTransferred : Nat)
  | bulkReadPipe (buffer : Buffer) (numBytesTransferred : Nat)
  | timer (address : BdAddr)

def Task.program : Task → Driver Unit
  | .remoteName buffer n => hciRemoteNameRequestCompleteEv buffer n
  | .bulkReadPipe buffer n => wireShockEvtUsbBulkReadPipeReadComplete buffer n
  | .timer a => wireChildOutputReportEvtTimerFunc a

def World.outputReport (w : World) (a : BdAddr) : Option Pointer :=
  (w.children.lookup a).bind BthDevice.outputReportBuffer

def World.remoteName (w : World) (a : BdAddr) : Option Pointer :=
  (w.children.lookup a).bind BthDevice.remoteName

def World.HoldsReport (w : World) (q : Pointer) : Prop :=
  q ∈ w.pool.live ∧ w.pool.bytes q = ds3HidOutputReport

structure Reporting (P : Type) where
  world : World
  program : P → Driver Unit
  work : P → Workspace
  ready : BdAddr → Bool

inductive Turn (P : Type) where
  | start (process : P) (task : Task)
  | step (process : P)

def Workspace.renews (m : Workspace) : Bool :=
  match m.draft.map Draft.report with
  | some (.filled _) => true
  | _ => false

def Call.source : Call → Option (Option Pointer × Nat)
  | .readPool source size => some (source, size)
  | _ => none

def Call.ticked : Call → Option BdAddr
  | .pdoRetrieveAddressDescription a => some a
  | _ => none

def Call.freed : Call → Option Pointer
  | .exFreePoolWithTag q => some q
  | _ => none

def nextCall : Driver Unit → Option Call
  | .done _ => none
  | .call o _ => some o

namespace Reporting

variable {P : Type}

def initial (w : World) : Reporting P := ⟨w, fun _ => return, fun _ => .empty, fun _ => false⟩

section

variable [DecidableEq P]

-- a child is ready from the write-back of a new output report until its buffer is freed or an
-- older copy of its record, with another buffer, is written back
def readyAfter (s : Reporting P) (p : P) : Call → BdAddr → Bool
  | .exFreePoolWithTag q => fun b => s.ready b && !decide (s.world.outputReport b = some q)
  | .childListAddOrUpdateAsPresent a device => Function.update s.ready a
      ((s.work p).renews || s.ready a && decide (s.world.outputReport a = device.outputReportBuffer))
  | _ => s.ready

def perform (s : Reporting P) (p : P) : Driver Unit → Reporting P
  | .done _ => s
  | .call o next =>
    { world := (respond o s.world).2
      program := Function.update s.program p (next (respond o s.world).1)
      work := Function.update s.work p
        (workspaceMonitor.observe o (respond o s.world).1 (s.work p))
      ready := s.readyAfter p o }

def step (s : Reporting P) : Turn P → Reporting P
  | .start p task =>
    if Finished (s.program p) then
      { s with
        program := Function.update s.program p task.program
        work := Function.update s.work p .empty }
    else s
  | .step p => s.perform p (s.program p)

end

def inTime (s : Reporting P) (o : Call) : Prop :=
  (∀ a ∈ o.ticked, ∀ device ∈ s.world.children.lookup a,
    device.deviceType = .ps3Dualshock → s.ready a = true) ∧
  ∀ q ∈ o.freed, ∀ p, (s.work p).pending ≠ some (some q)

def InTime (s : Reporting P) : Turn P → Prop
  | .start _ _ => True
  | .step p => ∀ o ∈ nextCall (s.program p), s.inTime o

def SendsReports (s : Reporting P) : Prop :=
  ∀ p, ∀ r ∈ (nextCall (s.program p)).bind Call.source,
    r.2 = ds3HidOutputReportSize ∧ ∃ q, r.1 = some q ∧ s.world.HoldsReport q

end Reporting

inductive Role (P : Type) where
  | unused
  | block (process : P)
  | renewal (process : P)
  | name
  | report

def Role.VisibleTo {P : Type} (p : P) : Role P → Prop
  | .unused => False
  | .block q => q = p
  | .renewal q => q = p
  | .name => True
  | .report => True

section

variable {P : Type}

def DraftReport.Plays (role : Pointer → Role P) (w : World) (p : P) : DraftReport → Prop
  | .kept pointer => ∀ x ∈ pointer, role x = .report
  | .allocated x => role x = .renewal p ∧ x ∈ w.pool.live
  | .filled x => role x = .renewal p ∧ w.HoldsReport x

structure Workspace.Plays (role : Pointer → Role P) (w : World) (p : P) (m : Workspace) : Prop where
  block : ∀ x ∈ m.block, role x = .block p ∧ x ∈ w.pool.live
  name : ∀ d ∈ m.draft, ∀ x ∈ d.name, role x = .name
  report : ∀ d ∈ m.draft, d.report.Plays role w p
  pending : ∀ source ∈ m.pending, ∃ x, source = some x ∧ role x = .report ∧ w.HoldsReport x

structure Published (role : Pointer → Role P) (w : World) (ready : BdAddr → Bool) : Prop where
  fresh : ∀ x, w.pool.next ≤ x → role x = .unused
  names : ∀ a, ∀ x ∈ w.remoteName a, role x = .name
  reports : ∀ a, ∀ x ∈ w.outputReport a, role x = .report
  ready : ∀ a, ready a = true → ∃ x, w.outputReport a = some x ∧ w.HoldsReport x

structure World.Keeps (w v : World) (x : Pointer) : Prop where
  live : x ∈ w.pool.live → x ∈ v.pool.live
  bytes : v.pool.bytes x = w.pool.bytes x

theorem World.Keeps.holds {w v : World} {x : Pointer} (h : w.Keeps v x) (hx : w.HoldsReport x) :
    v.HoldsReport x := ⟨h.live hx.1, h.bytes.trans hx.2⟩

theorem keeps_of_pool {w v : World} (h : v.pool = w.pool) (x : Pointer) : w.Keeps v x := by
  constructor <;> rw [h]
  exact id

section

variable {role role' : Pointer → Role P} {w v : World} {p : P} {m : Workspace}

theorem DraftReport.Plays.frame {r : DraftReport} (h : r.Plays role w p)
    (hrole : ∀ x, role x = .report ∨ role x = .renewal p → role' x = role x)
    (hkeep : ∀ x, role x = .renewal p → w.Keeps v x) : r.Plays role' v p := by
  cases r with
  | kept pointer => exact fun x hx => (hrole x (Or.inl (h x hx))).trans (h x hx)
  | allocated x => exact ⟨(hrole x (Or.inr h.1)).trans h.1, (hkeep x h.1).live h.2⟩
  | filled x => exact ⟨(hrole x (Or.inr h.1)).trans h.1, (hkeep x h.1).holds h.2⟩

theorem Workspace.Plays.frame (h : m.Plays role w p)
    (hrole : ∀ x, role x = .name ∨ role x = .report ∨ role x = .renewal p → role' x = role x)
    (hblock : ∀ x ∈ m.block, role' x = role x)
    (hkeep : ∀ x, role x = .block p ∨ role x = .renewal p ∨ m.pending = some (some x) →
      w.Keeps v x) : m.Plays role' v p where
  block x hx := by
    obtain ⟨hr, hl⟩ := h.block x hx
    exact ⟨(hblock x hx).trans hr, (hkeep x (Or.inl hr)).live hl⟩
  name d hd x hx := (hrole x (Or.inl (h.name d hd x hx))).trans (h.name d hd x hx)
  report d hd :=
    (h.report d hd).frame (fun x hx => hrole x (Or.inr hx)) fun x hr => hkeep x (Or.inr (Or.inl hr))
  pending source hs := by
    obtain ⟨x, rfl, hr, hx⟩ := h.pending source hs
    exact ⟨x, rfl, (hrole x (Or.inr (Or.inl hr))).trans hr, (hkeep x (Or.inr (Or.inr hs))).holds hx⟩

theorem Published.frame {ready ready' : BdAddr → Bool} (h : Published role w ready)
    (hchildren : ∀ a, v.children.lookup a = w.children.lookup a)
    (hfresh : ∀ x, v.pool.next ≤ x → role' x = .unused)
    (hrole : ∀ x, role x = .name ∨ role x = .report → role' x = role x)
    (hready : ∀ a, ready' a = true → ready a = true)
    (hkeep : ∀ a x, ready' a = true → w.outputReport a = some x → role x = .report → w.Keeps v x) :
    Published role' v ready' where
  fresh := hfresh
  names a x hx := by
    have hr : role x = .name := h.names a x (by simpa [World.remoteName, hchildren] using hx)
    rw [hrole x (Or.inl hr), hr]
  reports a x hx := by
    have hr : role x = .report := h.reports a x (by simpa [World.outputReport, hchildren] using hx)
    rw [hrole x (Or.inr hr), hr]
  ready a ha := by
    obtain ⟨x, hx, hh⟩ := h.ready a (hready a ha)
    exact ⟨x, by rw [World.outputReport, hchildren]; exact hx,
      (hkeep a x ha hx (h.reports a x hx)).holds hh⟩

theorem outputReport_addOrUpdate {a b : BdAddr} {device : BthDevice} :
    (w.addOrUpdate a device).outputReport b =
      if b = a then device.outputReportBuffer else w.outputReport b := by
  rw [World.outputReport, World.addOrUpdate, ChildList.lookup_addOrUpdate]
  split <;> rfl

theorem remoteName_addOrUpdate {a b : BdAddr} {device : BthDevice} :
    (w.addOrUpdate a device).remoteName b =
      if b = a then device.remoteName else w.remoteName b := by
  rw [World.remoteName, World.addOrUpdate, ChildList.lookup_addOrUpdate]
  split <;> rfl

theorem Published.store {ready ready' : BdAddr → Bool} {a : BdAddr} {device : BthDevice}
    (h : Published role w ready)
    (hrole : ∀ x, role x = .unused ∨ role x = .name ∨ role x = .report → role' x = role x)
    (hname : ∀ x ∈ device.remoteName, role' x = .name)
    (hreport : ∀ x ∈ device.outputReportBuffer, role' x = .report)
    (hready : ∀ b, b ≠ a → ready' b = true → ready b = true)
    (hnew : ready' a = true → ∃ x, device.outputReportBuffer = some x ∧ w.HoldsReport x) :
    Published role' (w.addOrUpdate a device) ready' where
  fresh x hx := (hrole x (Or.inl (h.fresh x hx))).trans (h.fresh x hx)
  names b x hx := by
    rw [remoteName_addOrUpdate] at hx
    split at hx
    · exact hname x hx
    · exact (hrole x (Or.inr (Or.inl (h.names b x hx)))).trans (h.names b x hx)
  reports b x hx := by
    rw [outputReport_addOrUpdate] at hx
    split at hx
    · exact hreport x hx
    · exact (hrole x (Or.inr (Or.inr (h.reports b x hx)))).trans (h.reports b x hx)
  ready b hb := by
    rw [outputReport_addOrUpdate]
    split
    · rename_i hba
      exact hnew (hba ▸ hb)
    · rename_i hba
      exact h.ready b (hready b hba hb)

end

theorem role_update {role : Pointer → Role P} {x y : Pointer} {ρ : Role P} {Q : Role P → Prop}
    (hx : ¬ Q (role x)) (hy : Q (role y)) : Function.update role x ρ y = role y := by
  refine Function.update_of_ne ?_ ..
  rintro rfl
  exact hx hy

structure Partition (role : Pointer → Role P) (w : World) (work : P → Workspace)
    (ready : BdAddr → Bool) : Prop where
  plays : ∀ p, (work p).Plays role w p
  published : Published role w ready

section

variable [DecidableEq P] {role role' : Pointer → Role P} {w v : World} {work : P → Workspace}
  {ready ready' : BdAddr → Bool} {p : P} {m : Workspace}

theorem Partition.update (h : Partition role w work ready)
    (hrole : ∀ q, q ≠ p → ∀ x, (role x).VisibleTo q → role' x = role x)
    (hkeep : ∀ q, q ≠ p → ∀ x, role x = .block q ∨ role x = .renewal q ∨
      (work q).pending = some (some x) → w.Keeps v x)
    (hm : m.Plays role' v p) (hp : Published role' v ready') :
    Partition role' v (Function.update work p m) ready' := by
  refine ⟨fun q => ?_, hp⟩
  by_cases hq : q = p
  · subst hq
    rwa [Function.update_self]
  · rw [Function.update_of_ne hq]
    refine (h.plays q).frame (fun x hx => hrole q hq x ?_) (fun x hx => hrole q hq x ?_)
      (hkeep q hq)
    · rcases hx with hx | hx | hx <;> rw [hx] <;> trivial
    · rw [((h.plays q).block x hx).1]
      trivial

omit [DecidableEq P] in
theorem Partition.plays_unblocked (h : Partition role w work ready) :
    ({ work p with block := none } : Workspace).Plays role w p :=
  { h.plays p with block := fun _ hm => nomatch hm }

theorem Partition.local (h : Partition role w work ready) (hpool : v.pool = w.pool)
    (hchildren : ∀ a, v.children.lookup a = w.children.lookup a) (hm : m.Plays role v p) :
    Partition role v (Function.update work p m) ready :=
  h.update (fun _ _ _ _ => rfl) (fun _ _ x _ => keeps_of_pool hpool x) hm
    (h.published.frame hchildren (by rw [hpool]; exact h.published.fresh) (fun _ _ => rfl)
      (fun _ ha => ha) fun _ x _ _ _ => keeps_of_pool hpool x)

theorem Partition.still (h : Partition role w work ready) (hpool : v.pool = w.pool)
    (hchildren : v.children = w.children) :
    Partition role v (Function.update work p (work p)) ready :=
  h.local hpool (fun a => by rw [hchildren])
    ((h.plays p).frame (fun _ _ => rfl) (fun _ _ => rfl) fun x _ => keeps_of_pool hpool x)

theorem Partition.retrieve (h : Partition role w work ready) (a : BdAddr) :
    Partition role w (Function.update work p ((work p).retrieve a (w.retrieve a))) ready := by
  refine h.local rfl (fun _ => rfl) ?_
  have hp := h.plays p
  have hd : ∀ d ∈ ((work p).retrieve a (w.retrieve a)).draft,
      d.name = w.remoteName a ∧ d.report = .kept (w.outputReport a) := by
    intro d hd
    obtain ⟨device, hl, rfl⟩ := Option.map_eq_some_iff.mp hd
    rw [Running.toOption_retrieve] at hl
    simp [Draft.of, World.remoteName, World.outputReport, hl]
  exact {
    block := hp.block
    name := fun d hm x hx => h.published.names a x ((hd d hm).1 ▸ hx)
    report := fun d hm => by
      rw [(hd d hm).2]
      exact h.published.reports a
    pending := hp.pending }

theorem Partition.tick (h : Partition role w work ready) {a : BdAddr}
    (ha : ∀ device, w.children.lookup a = some device → device.deviceType = .ps3Dualshock →
      ready a = true) :
    Partition role w (Function.update work p ((work p).tick (w.retrieve a))) ready := by
  refine h.local rfl (fun _ => rfl) ?_
  have hp := h.plays p
  refine ⟨hp.block, hp.name, hp.report, fun source hs => ?_⟩
  obtain ⟨device, hl, hd⟩ := Option.bind_eq_some_iff.mp hs
  rw [Running.toOption_retrieve] at hl
  split at hd
  · rename_i ht
    cases hd
    obtain ⟨x, hx, hh⟩ := h.published.ready a (ha device hl ht)
    refine ⟨x, ?_, h.published.reports a x hx, hh⟩
    simpa [World.outputReport, hl] using hx
  · cases hd

theorem Partition.send (h : Partition role w work ready) :
    Partition role w (Function.update work p { work p with pending := none }) ready :=
  have hp := h.plays p
  h.local rfl (fun _ => rfl) ⟨hp.block, hp.name, hp.report, fun _ hs => nomatch hs⟩

theorem Partition.allocate (h : Partition role w work ready) :
    Partition (Function.update role w.pool.next (.block p)) w.allocate
      (Function.update work p { work p with block := some w.pool.next }) ready := by
  have hu : role w.pool.next = .unused := h.published.fresh _ (Nat.le_refl _)
  have hv : ∀ q, ¬ (role w.pool.next).VisibleTo q := by
    intro q
    rw [hu]
    exact id
  have hk : ∀ x, w.Keeps w.allocate x := fun _ => ⟨List.mem_cons_of_mem _, rfl⟩
  have hvisible : ∀ q x, (role x).VisibleTo q →
      Function.update role w.pool.next (.block p) x = role x := fun q _ => role_update (hv q)
  have hp : ({ work p with block := none } : Workspace).Plays
      (Function.update role w.pool.next (.block p)) w.allocate p := by
    refine h.plays_unblocked.frame (fun x hx => hvisible p x ?_) ?_ fun x _ => hk x
    · rcases hx with hx | hx | hx <;> rw [hx] <;> trivial
    · exact fun _ hm => nomatch hm
  refine h.update (fun q _ _ => role_update (hv q)) (fun _ _ x _ => hk x)
    { hp with block := ?_ } ?_
  · rintro x hx
    cases hx
    exact ⟨Function.update_self .., List.mem_cons_self⟩
  · refine h.published.frame (fun _ => rfl) (fun x hx => ?_) (fun x hx => ?_) (fun _ ha => ha)
      fun _ x _ _ _ => hk x
    · have hx : w.pool.next + 1 ≤ x := hx
      rw [Function.update_of_ne (Nat.ne_of_gt hx)]
      exact h.published.fresh x (Nat.le_of_succ_le hx)
    · exact role_update (Q := fun ρ => ρ = .name ∨ ρ = .report) (by simp [hu]) hx

theorem Partition.handOn (h : Partition role w work ready) {x : Pointer} {ρ : Role P}
    (hx : (work p).block = some x)
    (hm : ({ work p with block := none } : Workspace).Plays (Function.update role x ρ) w p →
      m.Plays (Function.update role x ρ) w p) :
    Partition (Function.update role x ρ) w (Function.update work p m) ready := by
  have hb : role x = .block p := ((h.plays p).block x hx).1
  have hv : ∀ q, q ≠ p → ¬ (role x).VisibleTo q := by
    rintro q hq hr
    rw [hb] at hr
    exact hq hr.symm
  have hself : ∀ y, role y = .name ∨ role y = .report ∨ role y = .renewal p →
      Function.update role x ρ y = role y := fun y hy =>
    role_update (Q := fun ρ => ρ = .name ∨ ρ = .report ∨ ρ = .renewal p) (by simp [hb]) hy
  refine h.update (fun q hq _ => role_update (hv q hq)) (fun _ _ y _ => keeps_of_pool rfl y)
    (hm ?_) ?_
  · exact h.plays_unblocked.frame hself (fun _ hm => nomatch hm) fun y _ => keeps_of_pool rfl y
  · refine h.published.frame (fun _ => rfl) (fun y hy => ?_)
      (fun y hy => hself y (hy.imp_right Or.inl)) (fun _ ha => ha)
      fun _ y _ _ _ => keeps_of_pool rfl y
    have hu := h.published.fresh y hy
    exact (role_update (Q := fun ρ => ρ = .unused) (by simp [hb]) hu).trans hu

theorem Partition.name (h : Partition role w work ready) {x : Pointer}
    (hx : (work p).block = some x) :
    Partition (Function.update role x .name) w (Function.update work p ((work p).name x))
      ready := by
  refine h.handOn hx fun hp => { hp with name := fun d hd y hy => ?_, report := fun d hd => ?_ }
  · obtain ⟨e, -, rfl⟩ := Option.map_eq_some_iff.mp hd
    cases hy
    exact Function.update_self ..
  · obtain ⟨e, he, rfl⟩ := Option.map_eq_some_iff.mp hd
    exact hp.report e he

theorem Partition.renew (h : Partition role w work ready) {x : Pointer}
    (hx : (work p).block = some x) :
    Partition (Function.update role x (.renewal p)) w
      (Function.update work p ((work p).renew x)) ready := by
  refine h.handOn hx fun hp => { hp with name := fun d hd => ?_, report := fun d hd => ?_ }
  · obtain ⟨e, he, rfl⟩ := Option.map_eq_some_iff.mp hd
    exact hp.name e he
  · obtain ⟨e, -, rfl⟩ := Option.map_eq_some_iff.mp hd
    exact ⟨Function.update_self .., ((h.plays p).block x hx).2⟩

theorem keeps_copy {x y : Pointer} {data : List BYTE} (h : y ≠ x) : w.Keeps (w.copy x data) y :=
  ⟨id, Function.update_of_ne h ..⟩

theorem keeps_free {x y : Pointer} (h : y ≠ x) : w.Keeps (w.free x) y :=
  ⟨(List.mem_erase_of_ne h).mpr, rfl⟩

theorem Partition.write (h : Partition role w work ready) {x : Pointer} {data : List BYTE}
    (hx : (work p).MayWrite x data) :
    Partition role (w.copy x data) (Function.update work p ((work p).write x)) ready := by
  have hp := h.plays p
  have hr : role x = .block p ∨ role x = .name ∨ role x = .renewal p := by
    rcases hx with hb | ⟨d, hd, hn | ⟨ha, -⟩⟩
    · exact Or.inl (hp.block x hb).1
    · exact Or.inr (Or.inl (hp.name d hd x hn))
    · have hx := hp.report d hd
      rw [ha] at hx
      exact Or.inr (Or.inr hx.1)
  have hreport : ∀ y, role y = .report → w.Keeps (w.copy x data) y := by
    intro y hy
    refine keeps_copy ?_
    rintro rfl
    simp [hy] at hr
  have hpending : ∀ q y, (work q).pending = some (some y) → w.Keeps (w.copy x data) y := by
    intro q y hy
    obtain ⟨z, hz, hr, -⟩ := (h.plays q).pending _ hy
    cases hz
    exact hreport y hr
  refine h.update (fun _ _ _ _ => rfl) (fun q hq y hy => ?_) ?_
    (h.published.frame (fun _ => rfl) h.published.fresh (fun _ _ => rfl) (fun _ ha => ha)
      fun _ y _ _ hy => hreport y hy)
  · rcases hy with hy | hy | hy
    · refine keeps_copy ?_
      rintro rfl
      simp [hy, hq] at hr
    · refine keeps_copy ?_
      rintro rfl
      simp [hy, hq] at hr
    · exact hpending q y hy
  · refine ⟨fun y hy => hp.block y hy, fun d hd => ?_, fun d hd => ?_, fun source hs => ?_⟩
    · obtain ⟨e, he, rfl⟩ := Option.map_eq_some_iff.mp hd
      unfold Draft.fill
      split
      · exact hp.name e he
      · exact hp.name e he
    · obtain ⟨e, he, rfl⟩ := Option.map_eq_some_iff.mp hd
      have hre := hp.report e he
      unfold Draft.fill
      split
      · rename_i ha
        rw [ha] at hre
        have hrole : role x = .renewal p := hre.1
        refine ⟨hrole, hre.2, (Function.update_self ..).trans ?_⟩
        rcases hx with hb | ⟨d, hd, hn | ⟨-, hdata⟩⟩
        · simp [(hp.block x hb).1] at hrole
        · simp [hp.name d hd x hn] at hrole
        · exact hdata
      · rename_i hna
        refine hre.frame (fun _ _ => rfl) fun y hy => keeps_copy ?_
        rintro rfl
        rcases hx with hb | ⟨d, hd, hn | ⟨ha, -⟩⟩
        · simp [(hp.block y hb).1] at hy
        · simp [hp.name d hd y hn] at hy
        · exact hna (Option.mem_unique hd he ▸ ha)
    · obtain ⟨y, rfl, hr, hh⟩ := hp.pending source hs
      exact ⟨y, rfl, hr, (hreport y hr).holds hh⟩

theorem Partition.free (h : Partition role w work ready) {x : Pointer} (hx : (work p).MayFree x)
    (ht : ∀ q, (work q).pending ≠ some (some x))
    (hready : ∀ a, ready' a = true → ready a = true ∧ w.outputReport a ≠ some x) :
    Partition role (w.free x) (Function.update work p ((work p).free x)) ready' := by
  have hp := h.plays p
  have hr : role x = .block p ∨ role x = .name ∨ role x = .report := by
    rcases hx with hb | ⟨d, hd, hn | hk⟩
    · exact Or.inl (hp.block x hb).1
    · exact Or.inr (Or.inl (hp.name d hd x hn))
    · have hx := hp.report d hd
      rw [hk] at hx
      exact Or.inr (Or.inr (hx x rfl))
  have hpending : ∀ q y, (work q).pending = some (some y) → w.Keeps (w.free x) y := by
    intro q y hy
    refine keeps_free ?_
    rintro rfl
    exact ht q hy
  have hrenewal : ∀ q y, role y = .renewal q → w.Keeps (w.free x) y := by
    intro q y hy
    refine keeps_free ?_
    rintro rfl
    simp [hy] at hr
  refine h.update (fun _ _ _ _ => rfl) (fun q hq y hy => ?_) ?_
    (h.published.frame (fun _ => rfl) h.published.fresh (fun _ _ => rfl)
      (fun a ha => (hready a ha).1) fun a y ha hy _ => keeps_free ?_)
  · rcases hy with hy | hy | hy
    · refine keeps_free ?_
      rintro rfl
      simp [hy, hq] at hr
    · exact hrenewal q y hy
    · exact hpending q y hy
  · have hframe : ({ work p with block := none } : Workspace).Plays role (w.free x) p := {
      block := fun _ hm => nomatch hm
      name := hp.name
      report := fun d hd => (hp.report d hd).frame (fun _ _ => rfl) (hrenewal p)
      pending := fun source hs => by
        obtain ⟨y, rfl, hr, hh⟩ := hp.pending source hs
        exact ⟨y, rfl, hr, (hpending p y hs).holds hh⟩ }
    unfold Workspace.free
    split
    · exact hframe
    · rename_i hb
      refine { hframe with block := fun y hy => ?_ }
      refine ⟨(hp.block y hy).1, (keeps_free ?_).live (hp.block y hy).2⟩
      rintro rfl
      exact hb hy
  · rintro rfl
    exact (hready a ha).2 hy

theorem Partition.keep (h : Partition role w work ready) {a : BdAddr} {device : BthDevice}
    {d : Draft} (hd : (work p).draft = some d) (hname : d.name = device.remoteName)
    (hreport : d.report = .kept device.outputReportBuffer)
    (hready : ∀ b, b ≠ a → ready' b = true → ready b = true)
    (hold : ready' a = true → ready a = true ∧ w.outputReport a = device.outputReportBuffer) :
    Partition role (w.addOrUpdate a device) (Function.update work p { work p with draft := none })
      ready' := by
  have hp := h.plays p
  have hr := hp.report d hd
  rw [hreport] at hr
  refine h.update (fun _ _ _ _ => rfl)
    (fun _ _ x _ => keeps_of_pool (w := w) (v := w.addOrUpdate a device) rfl x)
    ⟨hp.block, fun _ hm => (nomatch hm), fun _ hm => (nomatch hm), hp.pending⟩
    (h.published.store (fun _ _ => rfl) (fun x hx => hp.name d hd x (hname ▸ hx)) hr hready ?_)
  intro ha
  obtain ⟨ha, hb⟩ := hold ha
  exact hb ▸ h.published.ready a ha

theorem Partition.publish (h : Partition role w work ready) {a : BdAddr} {device : BthDevice}
    {d : Draft} {x : Pointer} (hd : (work p).draft = some d) (hname : d.name = device.remoteName)
    (hreport : d.report = .filled x) (hx : device.outputReportBuffer = some x)
    (hready : ∀ b, b ≠ a → ready' b = true → ready b = true) :
    Partition (Function.update role x .report) (w.addOrUpdate a device)
      (Function.update work p { work p with draft := none }) ready' := by
  have hp := h.plays p
  have hr := hp.report d hd
  rw [hreport] at hr
  obtain ⟨hr, hh⟩ := hr
  have hself : ∀ (P' : Role P → Prop) y, ¬ P' (.renewal p) → P' (role y) →
      Function.update role x .report y = role y := fun P' y hn => role_update (hr ▸ hn)
  refine h.update (fun q hq y => hself _ y ?_)
    (fun _ _ y _ => keeps_of_pool (w := w) (v := w.addOrUpdate a device) rfl y) ?_
    (h.published.store (fun y => hself (fun ρ => ρ = .unused ∨ ρ = .name ∨ ρ = .report) y (by simp))
      (fun y hy => ?_) (fun y hy => ?_) hready fun _ => ⟨x, hx, hh⟩)
  · exact fun h => hq h.symm
  · refine ⟨fun y hy => ?_, fun _ hm => (nomatch hm), fun _ hm => (nomatch hm),
      fun source hs => ?_⟩
    · obtain ⟨hb, hl⟩ := hp.block y hy
      exact ⟨(hself (fun ρ => ρ = .block p) y (by simp) hb).trans hb, hl⟩
    · obtain ⟨y, rfl, hy, hl⟩ := hp.pending source hs
      exact ⟨y, rfl, (hself (fun ρ => ρ = .report) y (by simp) hy).trans hy, hl⟩
  · have hn := hp.name d hd y (hname ▸ hy)
    exact (hself (fun ρ => ρ = .name) y (by simp) hn).trans hn
  · cases hx.symm.trans hy
    exact Function.update_self ..

end

end

namespace Reporting

variable {P : Type}

structure Sound (s : Reporting P) : Prop where
  follows : ∀ p, workspaceMonitor.Follows (s.program p) (fun _ _ => True) (s.work p)
  partition : ∃ role, Partition role s.world s.work s.ready

theorem sendsReports_of_sound {s : Reporting P} (hs : s.Sound) : s.SendsReports := by
  intro p r hsend
  obtain ⟨role, h⟩ := hs.partition
  have hf := hs.follows p
  cases hp : s.program p with
  | done u =>
    rw [hp] at hsend
    cases hsend
  | call o next =>
    rw [hp] at hsend hf
    have ha := (Monitor.follows_call.mp hf).1
    cases o with
    | readPool source size =>
      cases hsend
      obtain ⟨hpending, hsize⟩ := ha
      obtain ⟨q, hq, -, hh⟩ := (h.plays p).pending _ hpending
      exact ⟨hsize, q, hq, hh⟩
    | _ => cases hsend

theorem sound_initial {w : World}
    (hw : ∀ a device, w.children.lookup a = some device →
      device.remoteName = none ∧ device.outputReportBuffer = none) :
    (initial w : Reporting P).Sound := by
  refine ⟨fun _ => Monitor.follows_pure trivial, fun _ => .unused, fun p => ?_, ?_⟩
  · constructor <;> exact fun _ hm => nomatch hm
  · refine ⟨fun _ _ => rfl, fun a x hx => ?_, fun a x hx => ?_, fun _ ha => nomatch ha⟩
    · obtain ⟨device, hl, hx⟩ := Option.bind_eq_some_iff.mp hx
      rw [(hw a device hl).1] at hx
      cases hx
    · obtain ⟨device, hl, hx⟩ := Option.bind_eq_some_iff.mp hx
      rw [(hw a device hl).2] at hx
      cases hx

section

variable [DecidableEq P] {s : Reporting P} {p : P} {role : Pointer → Role P}

theorem partition_store {a : BdAddr} {device : BthDevice}
    (h : Partition role s.world s.work s.ready) (ha : (s.work p).MayPublish a device) :
    ∃ role', Partition role' (s.world.addOrUpdate a device)
      (Function.update s.work p { s.work p with draft := none })
      (s.readyAfter p (.childListAddOrUpdateAsPresent a device)) := by
  obtain ⟨d, hd, -, hname, hreport⟩ := ha
  have hready : ∀ b, b ≠ a → s.readyAfter p (.childListAddOrUpdateAsPresent a device) b = true →
      s.ready b = true := by
    intro b hb hr
    rwa [readyAfter, Function.update_of_ne hb] at hr
  rcases hreport with hk | ⟨x, hf, hx⟩
  · refine ⟨role, h.keep hd hname hk hready fun hr => ?_⟩
    rw [readyAfter, Function.update_self, Workspace.renews, Option.mem_def.mp hd] at hr
    simpa [hk] using hr
  · exact ⟨_, h.publish hd hname hf hx hready⟩

theorem partition_call (h : Partition role s.world s.work s.ready) {o : Call}
    (ha : workspaceMonitor.allowed o (s.work p)) (ht : s.inTime o) :
    ∃ role', Partition role' (respond o s.world).2
      (Function.update s.work p
        (workspaceMonitor.observe o (respond o s.world).1 (s.work p)))
      (s.readyAfter p o) := by
  cases o with
  | childListRetrieveAddressDescription a => exact ⟨role, h.retrieve a⟩
  | childListAddOrUpdateAsPresent a device => exact partition_store h ha
  | pdoRetrieveAddressDescription a => exact ⟨role, h.tick (ht.1 a rfl)⟩
  | readPool source size => exact ⟨role, h.send⟩
  | exAllocatePoolWithTag size => exact ⟨_, h.allocate⟩
  | rtlCopyMemory x data => exact ⟨role, h.write ha⟩
  | exFreePoolWithTag x =>
    refine ⟨role, h.free ha (ht.2 x rfl) fun a hr => ?_⟩
    simpa [readyAfter] using hr
  | assign value =>
    cases value with
    | remoteName x =>
      cases x with
      | none => exact absurd ha.1 (by simp)
      | some x => exact ⟨_, h.name ha.2.symm⟩
    | outputReportBuffer x =>
      cases x with
      | none => exact absurd ha.1 (by simp)
      | some x => exact ⟨_, h.renew ha.2.symm⟩
    | _ => exact ⟨role, h.still rfl rfl⟩
  | childListUpdateAsMissing | childListScan | pdoUpdateAddressDescription => exact ha.elim
  | ioQueueCreate | timerCreate =>
    have hm := memory_createHandle s.world
    exact ⟨role, h.still (congrArg Memory.pool hm) (congrArg Memory.children hm)⟩
  | ioQueueRetrieveNextRequest queue =>
    obtain ⟨queues, hq⟩ := s.world.retrieveNextRequest_world queue
    exact ⟨role, h.still (congrArg World.pool hq :) (congrArg World.children hq :)⟩
  | _ => exact ⟨role, h.still rfl rfl⟩

theorem follows_perform {o : Call} {next : o.Reply → Driver Unit} (hs : s.Sound)
    (hp : s.program p = .call o next) (q : P) :
    workspaceMonitor.Follows
      (Function.update s.program p (next (respond o s.world).1) q) (fun _ _ => True)
      (Function.update s.work p
        (workspaceMonitor.observe o (respond o s.world).1 (s.work p)) q) := by
  by_cases hq : q = p
  · subst hq
    have hf := hs.follows q
    rw [hp] at hf
    rw [Function.update_self, Function.update_self]
    exact (Monitor.follows_call.mp hf).2 _ trivial
  · rw [Function.update_of_ne hq, Function.update_of_ne hq]
    exact hs.follows q

theorem follows_program (task : Task) :
    workspaceMonitor.Follows task.program (fun _ _ => True) .empty := by
  cases task with
  | remoteName buffer n => exact follows_remoteNameEvent
  | bulkReadPipe buffer n => exact follows_bulkReadPipe
  | timer a => exact follows_timer

theorem sound_start (hs : s.Sound) (task : Task) : (s.step (.start p task)).Sound := by
  rw [step]
  split
  · obtain ⟨role, h⟩ := hs.partition
    refine ⟨fun q => ?_, role, h.local rfl (fun _ => rfl) ?_⟩
    · by_cases hq : q = p
      · subst hq
        simpa using follows_program task
      · simpa [hq] using hs.follows q
    · constructor <;> exact fun _ hm => nomatch hm
  · exact hs

theorem sound_step (hs : s.Sound) {turn : Turn P} (ht : s.InTime turn) : (s.step turn).Sound := by
  cases turn with
  | start p task => exact sound_start hs task
  | step p =>
    cases hp : s.program p with
    | done u =>
      rw [step, hp]
      exact hs
    | call o next =>
      have hf := hs.follows p
      rw [hp] at hf
      have ht : s.inTime o := ht o (by rw [hp]; rfl)
      rw [step, hp]
      obtain ⟨role, h⟩ := hs.partition
      exact ⟨follows_perform hs hp, partition_call h (Monitor.follows_call.mp hf).1 ht⟩

end

theorem sends_reports_in_time [DecidableEq P] {w : World} {turns : List (Turn P)}
    (hw : ∀ a device, w.children.lookup a = some device →
      device.remoteName = none ∧ device.outputReportBuffer = none)
    (ht : Along step InTime (initial w) turns) : Always step SendsReports (initial w) turns :=
  always_of_invariant (fun _ _ hs ht => sound_step hs ht) (fun _ => sendsReports_of_sound)
    (sound_initial hw) ht

inductive Callback where
  | interruptPipe | bulkReadPipe | timer
deriving DecidableEq, Repr

instance {Q : Callback → Prop} [DecidablePred Q] : Decidable (∀ p, Q p) :=
  decidable_of_iff (Q .interruptPipe ∧ Q .bulkReadPipe ∧ Q .timer)
    ⟨fun h p => by cases p; exacts [h.1, h.2.1, h.2.2], fun h => ⟨h _, h _, h _⟩⟩

instance (s : Reporting Callback) (o : Call) : Decidable (s.inTime o) := instDecidableAnd

instance (s : Reporting Callback) : ∀ turn, Decidable (s.InTime turn)
  | .start _ _ => isTrue trivial
  | .step p => inferInstanceAs (Decidable (∀ o ∈ nextCall (s.program p), s.inTime o))

def uninterrupted (p : Callback) (task : Task) (calls : Nat) : List (Turn Callback) :=
  .start p task :: List.replicate calls (.step p)

def remoteNameTask : Task :=
  .remoteName
    (Buffer.ofList [0x07, 0xFF, 0x00, 0x01, 0x02, 0x03, 0x04, 0x05, 0x06, 0x50, 0x00]) 11

def unnamedDevice : BthDevice := { BthDevice.zero with hciConnectionHandle := ⟨0x2A, 0x20⟩ }

def establishTurns : List (Turn Callback) :=
  ([connectionRequestPacket 0x11 ⟨0x70, 0x00⟩, connectionRequestPacket 0x13 ⟨0x71, 0x00⟩,
    configurationResponsePacket ⟨0x40, 0x00⟩ 0x00,
    configurationResponsePacket ⟨0x41, 0x00⟩ 0x00].map fun packet =>
      uninterrupted .bulkReadPipe (.bulkReadPipe packet.1 packet.2) 20).flatten

theorem unnamed_connected (a : BdAddr) (device : BthDevice)
    (hd : (World.connected someAddress unnamedDevice).children.lookup a = some device) :
    device.remoteName = none ∧ device.outputReportBuffer = none := by
  obtain ⟨c, hc, -, rfl⟩ := ChildList.lookup_eq_some.mp hd
  rw [List.mem_singleton.mp hc]
  exact ⟨rfl, rfl⟩

theorem sends_reports_renamed :
    Along step InTime (initial (World.connected someAddress unnamedDevice))
        (establishTurns ++ uninterrupted .interruptPipe remoteNameTask 13 ++
          uninterrupted .timer (.timer someAddress) 1) ∧
      Always step SendsReports (initial (World.connected someAddress unnamedDevice))
        (establishTurns ++ uninterrupted .interruptPipe remoteNameTask 13 ++
          uninterrupted .timer (.timer someAddress) 1) := by
  have ht : Along step InTime (initial (World.connected someAddress unnamedDevice))
      (establishTurns ++ uninterrupted .interruptPipe remoteNameTask 13 ++
        uninterrupted .timer (.timer someAddress) 1) := by decide +kernel
  exact ⟨ht, sends_reports_in_time unnamed_connected ht⟩

def earlyTick : List (Turn Callback) :=
  establishTurns ++ uninterrupted .interruptPipe remoteNameTask 8 ++
    uninterrupted .timer (.timer someAddress) 1

theorem missing_buffer_sent :
    ¬ ∀ (w : World) (turns : List (Turn Callback)),
      (∀ a, ∀ device ∈ w.children.lookup a,
        device.remoteName = none ∧ device.outputReportBuffer = none) →
      Always step SendsReports (initial w) turns := by
  intro h
  have hs := always_runs (h (World.connected someAddress unnamedDevice) earlyTick unnamed_connected)
  obtain ⟨-, q, hq, -⟩ := hs .timer (none, ds3HidOutputReportSize) (by decide +kernel)
  cases hq

end Reporting

end WireShock
