import WireShock.Concurrency.Discipline
import WireShock.Interaction.Run
import WireShock.Semantics.Bus

namespace WireShock
open Interaction

inductive Handler where
  | interruptPipe (buffer : Buffer) (numBytesTransferred : Nat)
  | bulkReadPipe (buffer : Buffer) (numBytesTransferred : Nat)
  | createDevice (address : BdAddr)

def Handler.program : Handler → Driver Unit
  | .interruptPipe buffer n => wireShockEvtUsbInterruptPipeReadComplete buffer n
  | .bulkReadPipe buffer n => wireShockEvtUsbBulkReadPipeReadComplete buffer n
  | .createDevice a => do let _ ← wireShockEvtWdfChildListCreateDevice a

inductive Move (P : Type) where
  | start (process : P) (handler : Handler)
  | step (process : P)
  | created (address : BdAddr)

abbrev DeviceRecords (P : Type) := Records BdAddr BthDevice P

structure Running (P : Type) where
  world : World
  program : P → Driver Unit
  records : DeviceRecords P

def Finished (p : Driver Unit) : Prop := ∃ a, p = .done a

instance (p : Driver Unit) : Decidable (Finished p) :=
  match p with
  | .done a => isTrue ⟨a, rfl⟩
  | .call _ _ => isFalse fun ⟨_, h⟩ => nomatch h

namespace Running

variable {P : Type}

def initial (environment : Environment) : Running P :=
  ⟨World.initial environment, fun _ => return, Records.initial⟩

section

variable [DecidableEq P]

def tracked (s : Running P) (p : P) : Call → DeviceRecords P
  | .childListRetrieveAddressDescription a => s.records.fetch p a
  | .pdoRetrieveAddressDescription a => s.records.fetch p a
  | .assign value => s.records.assign p value.apply
  | .childListAddOrUpdateAsPresent a device => s.records.store p a device
  | .pdoUpdateAddressDescription a device =>
    if s.world.children.Present a then s.records.store p a device else s.records.drop p
  | .childListUpdateAsMissing a => s.records.remove a
  | .childListScan => s.records.clear
  | _ => s.records

def perform (s : Running P) (p : P) : Driver Unit → Running P
  | .done _ => s
  | .call o next =>
    { world := (respond o s.world).2
      program := Function.update s.program p (next (respond o s.world).1)
      records := s.tracked p o }

def step (s : Running P) : Move P → Running P
  | .start p handler =>
    if Finished (s.program p) then
      { s with program := Function.update s.program p handler.program }
    else s
  | .step p => s.perform p (s.program p)
  | .created a => { s with world := s.world.markCreated a }

def uncontended (s : Running P) (p : P) : Call → Bool
  | .childListAddOrUpdateAsPresent a _ => s.records.base p = s.records.version a
  | .pdoUpdateAddressDescription a _ =>
    !decide (s.world.children.Present a) || s.records.base p = s.records.version a
  | .timerCreate => ntSuccess (s.world.environment.frameworkStatus 0)
  | _ => true

def meets (s : Running P) : Move P → Bool
  | .step p => match s.program p with
    | .done _ => true
    | .call o _ => s.uncontended p o
  | _ => true

def Meets (s : Running P) (m : Move P) : Prop := s.meets m = true

instance (s : Running P) (m : Move P) : Decidable (s.Meets m) := inferInstanceAs (Decidable (_ = _))

end

def UpToDate (s : Running P) : Prop :=
  (∀ p, Finished (s.program p)) →
    ∀ a device, s.world.children.lookup a = some device → s.records.latest a = some device

structure Consistent (s : Running P) : Prop where
  stored : ∀ a, s.records.stored a = s.world.children.lookup a
  valid : s.records.Valid
  follows : ∀ p, copyMonitor.Follows (s.program p) (fun _ => Idle) (s.records.held p)

theorem upToDate_of_consistent {s : Running P} (hs : s.Consistent) : s.UpToDate := by
  intro hf a device hd
  have hclean : ∀ p, s.records.Clean p := by
    intro p
    obtain ⟨u, hu⟩ := hf p
    have h := hs.follows p
    rw [hu] at h
    exact h
  exact Records.latest_of_clean hs.valid hclean ((hs.stored a).trans hd)

theorem consistent_initial {environment : Environment} :
    (initial environment : Running P).Consistent :=
  ⟨fun _ => rfl, Records.valid_initial, fun _ => Monitor.follows_pure idle_none⟩

section

variable (w : World)

theorem toOption_retrieve (a : BdAddr) : (w.retrieve a).toOption = w.children.lookup a := by
  unfold World.retrieve
  cases w.children.lookup a <;> rfl

end

theorem admits_respond {s : Running P} {p : P} {o : Call} (hu : s.uncontended p o = true) :
    copyMonitor.admits o (respond o s.world).1 := by
  cases o with
  | timerCreate =>
    have hu : ntSuccess (s.world.environment.frameworkStatus 0) = true := hu
    simp [copyMonitor, respond, World.createHandle, hu]
    rfl
  | _ => trivial

variable [DecidableEq P]

section

variable {s : Running P} {p q : P} {o : Call}

theorem stored_tracked (hs : ∀ a, s.records.stored a = s.world.children.lookup a) (a : BdAddr) :
    (s.tracked p o).stored a = (respond o s.world).2.children.lookup a := by
  cases o with
  | assign value => exact (congrFun Records.stored_assign a).trans (hs a)
  | childListAddOrUpdateAsPresent b device =>
    refine (Records.stored_store b a).trans ?_
    rw [respond, World.addOrUpdate, ChildList.lookup_addOrUpdate, hs]
  | childListUpdateAsMissing b =>
    refine (Records.stored_remove b a).trans ?_
    rw [respond, lookup_remove_world, hs]
  | childListScan => exact (lookup_removeAll s.world a).symm
  | pdoUpdateAddressDescription b device =>
    rw [tracked, respond, World.update, ChildList.lookup_update]
    by_cases hp : s.world.children.Present b
    · obtain ⟨old, hold⟩ := Option.isSome_iff_exists.mp hp
      rw [if_pos hp, Records.stored_store, hold, hs]
      rfl
    · have hn : s.world.children.lookup b = none := by simpa [ChildList.Present] using hp
      rw [if_neg hp, hn]
      split
      · rename_i hb
        exact (hs a).trans (hb ▸ hn)
      · exact hs a
  | ioQueueCreate => exact (hs a).trans (by rw [respond, children_createHandle])
  | timerCreate => exact (hs a).trans (by rw [respond, children_createHandle])
  | ioQueueRetrieveNextRequest queue =>
    exact (hs a).trans (by rw [respond, children_retrieveNextRequest])
  | _ => exact hs a

theorem held_tracked_of_ne (hq : q ≠ p) : (s.tracked p o).held q = s.records.held q := by
  cases o with
  | childListRetrieveAddressDescription a => exact Function.update_of_ne hq ..
  | pdoRetrieveAddressDescription a => exact Function.update_of_ne hq ..
  | assign value => exact Records.held_assign_of_ne hq
  | childListAddOrUpdateAsPresent a device => exact Function.update_of_ne hq ..
  | pdoUpdateAddressDescription a device =>
    rw [tracked]
    split
    · exact Function.update_of_ne hq ..
    · exact Function.update_of_ne hq ..
  | _ => rfl

theorem held_tracked_self (hs : ∀ a, s.records.stored a = s.world.children.lookup a)
    (ha : copyMonitor.allowed o (s.records.held p)) : (s.tracked p o).held p =
      copyMonitor.observe o (respond o s.world).1 (s.records.held p) := by
  have hfetch : ∀ a, (s.records.fetch p a).held p =
      some ⟨a, (s.world.retrieve a).toOption, false⟩ := by
    intro a
    rw [toOption_retrieve, ← hs]
    exact Function.update_self ..
  cases o with
  | childListRetrieveAddressDescription a => exact hfetch a
  | pdoRetrieveAddressDescription a => exact hfetch a
  | assign value =>
    obtain ⟨c, hc, -⟩ := ha
    refine ((Records.held_assign hc p).trans (if_pos rfl)).trans ?_
    rw [Option.mem_def.mp hc]
    rfl
  | childListAddOrUpdateAsPresent a device => exact Function.update_self ..
  | pdoUpdateAddressDescription a device =>
    rw [tracked]
    split
    · exact Function.update_self ..
    · exact Function.update_self ..
  | _ => rfl

theorem valid_tracked (hs : s.Consistent) (ha : copyMonitor.allowed o (s.records.held p))
    (hu : s.uncontended p o = true) : (s.tracked p o).Valid := by
  cases o with
  | childListRetrieveAddressDescription a => exact Records.valid_fetch hs.valid ha
  | pdoRetrieveAddressDescription a => exact Records.valid_fetch hs.valid ha
  | assign value =>
    obtain ⟨c, hc, hv⟩ := ha
    exact Records.valid_assign hs.valid hc hv
  | childListAddOrUpdateAsPresent a device =>
    obtain ⟨c, hc, hk, he⟩ := ha
    exact Records.valid_store hs.valid ⟨hc, hk⟩ (of_decide_eq_true hu) he
  | pdoUpdateAddressDescription a device =>
    obtain ⟨c, hc, hk, he⟩ := ha
    rw [tracked]
    by_cases hp : s.world.children.Present a
    · have hb : s.records.base p = s.records.version a := by simpa [uncontended, hp] using hu
      rw [if_pos hp]
      exact Records.valid_store hs.valid ⟨hc, hk⟩ hb he
    · have hn : s.world.children.lookup a = none := by simpa [ChildList.Present] using hp
      rw [if_neg hp]
      exact Records.valid_drop hs.valid hc (hk ▸ (hs.stored a).trans hn)
  | childListUpdateAsMissing a => exact Records.valid_remove hs.valid
  | childListScan => exact Records.valid_clear hs.valid
  | _ => exact hs.valid

theorem consistent_perform (hs : s.Consistent) {program : Driver Unit}
    (hp : s.program p = program)
    (hu : ∀ o next, program = .call o next → s.uncontended p o = true) :
    (s.perform p program).Consistent := by
  cases program with
  | done u => exact hs
  | call o next =>
    have hfollows := hs.follows p
    rw [hp, Monitor.follows_call] at hfollows
    have hu := hu o next rfl
    refine ⟨stored_tracked hs.stored, valid_tracked hs hfollows.1 hu, fun q => ?_⟩
    by_cases hq : q = p
    · have hr := hfollows.2 (respond o s.world).1 (admits_respond hu)
      rw [← held_tracked_self hs.stored hfollows.1, ← hq] at hr
      simpa [perform, hq] using hr
    · have hh : (s.tracked p o).held q = s.records.held q := held_tracked_of_ne hq
      simpa [perform, hq, hh] using hs.follows q

theorem follows_program (handler : Handler) {m : Option DeviceCopy} (hm : Idle m) :
    copyMonitor.Follows handler.program (fun _ => Idle) m := by
  cases handler with
  | interruptPipe buffer n => exact follows_wireShockEvtUsbInterruptPipeReadComplete hm
  | bulkReadPipe buffer n => exact follows_wireShockEvtUsbBulkReadPipeReadComplete hm
  | createDevice a =>
    exact Monitor.follows_bind (follows_wireShockEvtWdfChildListCreateDevice hm)
      fun _ _ hn => Monitor.follows_pure hn

theorem consistent_step (hs : s.Consistent) {move : Move P} (hm : s.Meets move) :
    (s.step move).Consistent := by
  cases move with
  | start p handler =>
    rw [step]
    split
    · rename_i hf
      refine ⟨hs.stored, hs.valid, fun q => ?_⟩
      by_cases hq : q = p
      · have hi : Idle (s.records.held q) := by
          obtain ⟨u, hu⟩ := hf
          have h := hs.follows p
          rw [hu] at h
          exact hq ▸ h
        simpa [hq] using follows_program handler hi
      · simpa [hq] using hs.follows q
    · exact hs
  | step p =>
    refine consistent_perform hs rfl fun o next hp => ?_
    have hm : s.meets (.step p) = true := hm
    rw [meets, hp] at hm
    exact hm
  | created a =>
    refine ⟨fun b => ?_, hs.valid, hs.follows⟩
    rw [step, World.markCreated, ChildList.lookup_markCreated]
    exact hs.stored b

end

theorem upToDate_always (environment : Environment) (moves : List (Move P))
    (hm : Along step Meets (initial environment) moves) :
    Always step UpToDate (initial environment) moves :=
  always_of_invariant (fun _ _ hs hm => consistent_step hs hm) (fun _ => upToDate_of_consistent)
    consistent_initial hm

inductive Callback where
  | interruptPipe | bulkReadPipe | createDevice
deriving DecidableEq, Repr

def uninterrupted (p : Callback) (handler : Handler) (calls : Nat) : List (Move Callback) :=
  .start p handler :: List.replicate calls (.step p)

def connectionRequestHandler : Handler :=
  .interruptPipe (Buffer.ofList [0x04, 0x0A, 0x01, 0x02, 0x03, 0x04, 0x05, 0x06]) 12

def connectionCompleteHandler : Handler :=
  .interruptPipe
    (Buffer.ofList [0x03, 0x0B, 0x00, 0x2A, 0x00, 0x01, 0x02, 0x03, 0x04, 0x05, 0x06]) 13

def remoteNameHandler : Handler :=
  .interruptPipe
    (Buffer.ofList [0x07, 0xFF, 0x00, 0x01, 0x02, 0x03, 0x04, 0x05, 0x06, 0x50, 0x00]) 11

def inputReportHandler : Handler :=
  .bulkReadPipe (Buffer.ofList [0x2A, 0x20, 0x08, 0x00, 0x04, 0x00, 0x41, 0x00, 0xA1, 0x01]) 10

def connectMoves : List (Move Callback) :=
  uninterrupted .interruptPipe connectionRequestHandler 7 ++
    uninterrupted .createDevice (.createDevice someAddress) 6 ++ [.created someAddress] ++
      uninterrupted .interruptPipe connectionCompleteHandler 5

def sequentialMoves : List (Move Callback) :=
  connectMoves ++ uninterrupted .bulkReadPipe inputReportHandler 3 ++
    uninterrupted .interruptPipe remoteNameHandler 13

def overlappingMoves : List (Move Callback) :=
  connectMoves ++ uninterrupted .bulkReadPipe inputReportHandler 2 ++
    uninterrupted .interruptPipe remoteNameHandler 13 ++ [.step .bulkReadPipe]

theorem upToDate_always_sequential :
    Always step UpToDate (initial .succeeding) sequentialMoves :=
  upToDate_always .succeeding sequentialMoves (by decide +kernel)

theorem remoteName_overwritten :
    ¬ ∀ (environment : Environment) (moves : List (Move Callback)),
      Always step UpToDate (initial environment) moves := by
  intro h
  have hu := always_runs (h .succeeding overlappingMoves)
  have hf : ∀ p, Finished ((runs step (initial .succeeding) overlappingMoves).program p) := by
    intro p
    cases p <;> decide +kernel
  have hs : ((runs step (initial .succeeding) overlappingMoves).world.children.lookup
      someAddress).isSome = true := by decide +kernel
  obtain ⟨device, hd⟩ := Option.isSome_iff_exists.mp hs
  have hl := (hu hf someAddress device hd).trans hd.symm
  revert hl
  decide +kernel

end Running
end WireShock
