import WireShock.Concurrency.Stores

namespace WireShock
open Interaction

structure Departure (P : Type) where
  running : Running P
  requesting : P → Option BdAddr
  retrieved : P → Option BdAddr
  overtaken : P → Bool
  gone : BdAddr → Bool

namespace Departure

variable {P : Type}

def initial (environment : Environment) : Departure P :=
  ⟨Running.initial environment, fun _ => none, fun _ => none, fun _ => false, fun _ => false⟩

def departs (s : Departure P) (a : BdAddr) : Departure P :=
  { s with
    gone := Function.update s.gone a true
    overtaken := fun q => s.overtaken q || s.retrieved q = some a }

def returns (s : Departure P) (a : BdAddr) : Departure P :=
  { s with
    gone := Function.update s.gone a false
    overtaken := fun q => s.overtaken q && s.retrieved q ≠ some a }

section

variable [DecidableEq P]

def retrieves (s : Departure P) (p : P) (a : BdAddr) : Departure P :=
  { s with
    retrieved := Function.update s.retrieved p
      (if s.running.world.children.Present a then some a else none)
    overtaken := Function.update s.overtaken p false }

def observe (s : Departure P) (p : P) : Call → Departure P
  | .childListRetrieveAddressDescription a => s.retrieves p a
  | .childListUpdateAsMissing a => s.departs a
  | .childListAddOrUpdateAsPresent a _ => if s.requesting p = some a then s.returns a else s
  | _ => s

def begin (s : Departure P) (p : P) (handler : Handler) : Departure P :=
  { s with
    requesting := Function.update s.requesting p handler.requests
    retrieved := Function.update s.retrieved p none
    overtaken := Function.update s.overtaken p false }

def observed (s : Departure P) : Move P → Departure P
  | .start p handler => if Finished (s.running.program p) then s.begin p handler else s
  | .step p => match s.running.program p with
    | .done _ => s
    | .call o _ => s.observe p o
  | .created _ => s

def step (s : Departure P) (m : Move P) : Departure P :=
  { s.observed m with running := s.running.step m }

end

def StaysGone (s : Departure P) : Prop :=
  ∀ a, s.gone a = true → ¬ s.running.world.children.Present a

def inTime (s : Departure P) (p : P) : Call → Bool
  | .childListAddOrUpdateAsPresent a _ => s.requesting p = some a || !s.overtaken p
  | _ => true

def storesInTime (s : Departure P) : Move P → Bool
  | .step p => match s.running.program p with
    | .done _ => true
    | .call o _ => s.inTime p o
  | _ => true

def StoresInTime (s : Departure P) (m : Move P) : Prop := s.storesInTime m = true

instance (s : Departure P) (m : Move P) : Decidable (s.StoresInTime m) :=
  inferInstanceAs (Decidable (_ = _))

structure Sound (s : Departure P) : Prop where
  follows : ∀ p, (storeMonitor (s.requesting p)).Follows (s.running.program p) (fun _ _ => True)
    (s.retrieved p)
  linked : ∀ p a, s.retrieved p = some a → s.overtaken p = s.gone a

theorem sound_initial {environment : Environment} : (initial environment : Departure P).Sound :=
  ⟨fun _ => Monitor.follows_pure trivial, fun _ _ h => nomatch h⟩

section

variable {w : World} {a : BdAddr}

theorem present_congr {v : World} (h : v.children.lookup a = w.children.lookup a) :
    v.children.Present a ↔ w.children.Present a := by
  rw [ChildList.Present, ChildList.Present, h]

theorem present_update {b : BdAddr} {device : BthDevice} :
    (w.update b device).children.Present a ↔ w.children.Present a := by
  rw [ChildList.Present, ChildList.Present, World.update, ChildList.lookup_update]
  split
  · rename_i hb
    rw [hb, Option.isSome_map]
  · exact Iff.rfl

theorem present_addOrUpdate {b : BdAddr} {device : BthDevice} :
    (w.addOrUpdate b device).children.Present a ↔ a = b ∨ w.children.Present a := by
  rw [ChildList.Present, ChildList.Present, World.addOrUpdate, ChildList.lookup_addOrUpdate]
  split
  · rename_i hb
    simp [hb]
  · rename_i hb
    simp [hb]

theorem present_remove {b : BdAddr} :
    (w.remove b).children.Present a ↔ a ≠ b ∧ w.children.Present a := by
  rw [ChildList.Present, ChildList.Present, lookup_remove_world]
  split
  · rename_i hb
    simp [hb]
  · rename_i hb
    simp [hb]

end

section

variable [DecidableEq P] {s : Departure P} {p : P}

theorem linked_observe (hs : s.Sound) (hg : s.StaysGone) (o : Call) (q : P) (a : BdAddr)
    (h : (s.observe p o).retrieved q = some a) :
    (s.observe p o).overtaken q = (s.observe p o).gone a := by
  cases o with
  | childListRetrieveAddressDescription b =>
    simp only [observe, retrieves, Function.update_apply] at h ⊢
    split at h
    · rename_i hq
      rw [if_pos hq]
      split at h
      · rename_i hp
        cases h
        by_contra hne
        exact hg a (by simpa using Ne.symm hne) hp
      · cases h
    · rename_i hq
      rw [if_neg hq]
      exact hs.linked q a h
  | childListUpdateAsMissing b =>
    have hr : s.retrieved q = some a := h
    have hl := hs.linked q a hr
    by_cases hb : a = b
    · subst hb
      simp [observe, departs, hr]
    · simp [observe, departs, hr, hb, hl]
  | childListAddOrUpdateAsPresent b device =>
    rw [observe] at h ⊢
    split at h
    · rename_i hreq
      have hr : s.retrieved q = some a := h
      have hl := hs.linked q a hr
      rw [if_pos hreq]
      by_cases hb : a = b
      · subst hb
        simp [returns, hr]
      · simp [returns, hr, hb, hl]
    · rename_i hreq
      rw [if_neg hreq]
      exact hs.linked q a h
  | _ => exact hs.linked q a h

theorem requesting_observe (o : Call) : (s.observe p o).requesting = s.requesting := by
  cases o with
  | childListAddOrUpdateAsPresent b device =>
    rw [observe]
    split <;> rfl
  | _ => rfl

theorem retrieved_observe_of_ne {q : P} (hq : q ≠ p) (o : Call) :
    (s.observe p o).retrieved q = s.retrieved q := by
  cases o with
  | childListRetrieveAddressDescription b => exact Function.update_of_ne hq ..
  | childListAddOrUpdateAsPresent b device =>
    rw [observe]
    split <;> rfl
  | _ => rfl

theorem retrieved_observe_self (requested : Option BdAddr) (o : Call) :
    (s.observe p o).retrieved p = (storeMonitor requested).observe o
      (respond o s.running.world).1 (s.retrieved p) := by
  cases o with
  | childListRetrieveAddressDescription b =>
    have hr : (s.running.world.retrieve b).toOption.map (fun _ => b) =
        if s.running.world.children.Present b then some b else none := by
      rw [Running.toOption_retrieve]
      by_cases hp : s.running.world.children.Present b
      · rw [if_pos hp]
        obtain ⟨device, hd⟩ := Option.isSome_iff_exists.mp hp
        rw [hd]
        rfl
      · rw [if_neg hp]
        simpa [ChildList.Present] using hp
    exact (Function.update_self ..).trans hr.symm
  | childListAddOrUpdateAsPresent b device =>
    rw [observe]
    split <;> rfl
  | _ => rfl

theorem follows_observe (hs : s.Sound) {o : Call}
    {next : o.Reply → Driver Unit} (hp : s.running.program p = .call o next) (q : P) :
    (storeMonitor ((s.observe p o).requesting q)).Follows ((s.running.step (.step p)).program q)
      (fun _ _ => True) ((s.observe p o).retrieved q) := by
  have hprogram : (s.running.step (.step p)).program =
      Function.update s.running.program p (next (respond o s.running.world).1) := by
    rw [Running.step, hp]
    rfl
  rw [hprogram, requesting_observe]
  by_cases hq : q = p
  · subst hq
    have hf := hs.follows q
    rw [hp] at hf
    rw [Function.update_self, retrieved_observe_self (s.requesting q)]
    exact (Monitor.follows_call.mp hf).2 _ trivial
  · rw [Function.update_of_ne hq, retrieved_observe_of_ne hq]
    exact hs.follows q

theorem step_of_done {u : Unit} (hp : s.running.program p = .done u) : s.step (.step p) = s := by
  have hobs : s.observed (.step p) = s := by rw [observed, hp]
  have hrun : s.running.step (.step p) = s.running := by
    rw [Running.step, hp]
    rfl
  rw [step, hobs, hrun]

theorem step_of_call {o : Call} {next : o.Reply → Driver Unit}
    (hp : s.running.program p = .call o next) :
    s.step (.step p) = { s.observe p o with running := s.running.step (.step p) } := by
  rw [step, observed, hp]

theorem sound_step (hs : s.Sound) (hg : s.StaysGone) (m : Move P) : (s.step m).Sound := by
  cases m with
  | start p handler =>
    by_cases hf : Finished (s.running.program p)
    · have hobs : s.observed (.start p handler) = s.begin p handler := if_pos hf
      have hprogram : (s.running.step (.start p handler)).program =
          Function.update s.running.program p handler.program := by
        rw [Running.step, if_pos hf]
      refine ⟨fun q => ?_, fun q a h => ?_⟩
      · rw [step, hobs, hprogram]
        by_cases hq : q = p
        · subst hq
          simpa [begin] using stores_program handler
        · simpa [begin, hq] using hs.follows q
      · rw [step, hobs] at h ⊢
        simp only [begin, Function.update_apply] at h ⊢
        split at h
        · cases h
        · rename_i hq
          rw [if_neg hq]
          exact hs.linked q a h
    · have hobs : s.observed (.start p handler) = s := if_neg hf
      have hrun : s.running.step (.start p handler) = s.running := by
        rw [Running.step, if_neg hf]
      rw [step, hobs, hrun]
      exact hs
  | step p =>
    cases hp : s.running.program p with
    | done u =>
      rw [step_of_done hp]
      exact hs
    | call o next =>
      rw [step_of_call hp]
      exact ⟨follows_observe hs hp, linked_observe hs hg o⟩
  | created a => exact ⟨hs.follows, hs.linked⟩

theorem present_respond (o : Call) (w : World) (a : BdAddr)
    (ha : ∀ b device, o ≠ .childListAddOrUpdateAsPresent b device)
    (hp : (respond o w).2.children.Present a) : w.children.Present a := by
  cases o with
  | childListAddOrUpdateAsPresent b device => exact absurd rfl (ha b device)
  | childListUpdateAsMissing b => exact (present_remove.mp hp).2
  | childListScan => exact absurd hp not_present_removeAll
  | pdoUpdateAddressDescription b device => exact present_update.mp hp
  | ioQueueCreate => exact (congrArg (fun l : ChildList => l.Present a) children_createHandle).mp hp
  | timerCreate => exact (congrArg (fun l : ChildList => l.Present a) children_createHandle).mp hp
  | ioQueueRetrieveNextRequest queue =>
    exact (congrArg (fun l : ChildList => l.Present a) children_retrieveNextRequest).mp hp
  | _ => exact hp

theorem staysGone_call (hs : s.Sound) (hg : s.StaysGone) {o : Call} {next : o.Reply → Driver Unit}
    (hp : s.running.program p = .call o next) :
    (∀ a, (s.observe p o).gone a = true → ¬ (respond o s.running.world).2.children.Present a) ↔
      s.inTime p o = true := by
  cases o with
  | childListAddOrUpdateAsPresent b device =>
    have hf := hs.follows p
    rw [hp] at hf
    have hallowed := (Monitor.follows_call.mp hf).1
    have hkeep : ∀ a, a = b ∨ s.running.world.children.Present a ↔
        (s.running.world.addOrUpdate b device).children.Present a := fun a =>
      present_addOrUpdate.symm
    by_cases hreq : s.requesting p = some b
    · refine iff_of_true (fun a ha hpres => ?_) (by simp [inTime, hreq])
      rw [observe, if_pos hreq] at ha
      rcases (hkeep a).mpr hpres with rfl | hpres
      · simp [returns] at ha
      · by_cases hab : a = b
        · simp [returns, hab] at ha
        · exact hg a (by simpa [returns, hab] using ha) hpres
    · have hl := hs.linked p b (hallowed.resolve_right hreq)
      rw [observe, if_neg hreq]
      constructor
      · intro h
        have hn : s.gone b = false := by
          by_contra hne
          exact h b (by simpa using hne) ((hkeep b).mp (Or.inl rfl))
        simp [inTime, hl, hn]
      · intro h a ha hpres
        have hn : s.gone b = false := by simpa [inTime, hreq, hl] using h
        rcases (hkeep a).mpr hpres with rfl | hpres
        · rw [hn] at ha
          cases ha
        · exact hg a ha hpres
  | childListUpdateAsMissing b =>
    refine iff_of_true (fun a ha hpres => ?_) rfl
    obtain ⟨hab, hpres⟩ := present_remove.mp hpres
    exact hg a (by simpa [observe, departs, hab] using ha) hpres
  | _ =>
    refine iff_of_true (fun a ha hpres => hg a ha ?_) rfl
    exact present_respond _ s.running.world a (by simp) hpres

theorem staysGone_step_iff (hs : s.Sound) (hg : s.StaysGone) (m : Move P) :
    (s.step m).StaysGone ↔ s.StoresInTime m := by
  cases m with
  | start p handler =>
    refine iff_of_true (fun a ha hpres => hg a ?_ ?_) rfl
    · rw [step, observed] at ha
      split at ha <;> exact ha
    · rw [step, Running.step] at hpres
      split at hpres <;> exact hpres
  | step p =>
    cases hp : s.running.program p with
    | done u =>
      rw [step_of_done hp]
      exact iff_of_true hg (by rw [StoresInTime, storesInTime, hp])
    | call o next =>
      have hworld : (s.running.step (.step p)).world = (respond o s.running.world).2 := by
        rw [Running.step, hp]
        rfl
      rw [step_of_call hp, StaysGone, StoresInTime, storesInTime, hp]
      dsimp only
      rw [hworld]
      exact staysGone_call hs hg hp
  | created b =>
    refine iff_of_true (fun a ha hpres => hg a ha ?_) rfl
    have hl := ChildList.lookup_markCreated s.running.world.children b a
    exact (present_congr (w := s.running.world) hl).mp hpres

end

theorem stays_gone_iff [DecidableEq P] (environment : Environment) (moves : List (Move P)) :
    Always step StaysGone (initial environment) moves ↔
      Along step StoresInTime (initial environment) moves :=
  always_iff_along_of_preserved (I := Sound) (L := fun _ _ => True)
    (fun _ m hs _ hg => sound_step hs hg m) (fun _ m hs _ hg => staysGone_step_iff hs hg m)
    sound_initial (along_of_forall fun _ _ => trivial) (fun _ h => nomatch h)

def disconnectionHandler : Handler :=
  .interruptPipe (Buffer.ofList [0x05, 0x04, 0x00, 0x2A, 0x00, 0x13]) 6

def overlappingDisconnection : List (Move Running.Callback) :=
  Running.connectMoves ++
    Running.uninterrupted .bulkReadPipe Running.inputReportHandler 2 ++
    Running.uninterrupted .interruptPipe disconnectionHandler 3 ++ [.step .bulkReadPipe]

theorem departed_returns :
    ¬ ∀ (environment : Environment) (moves : List (Move Running.Callback)),
      Always step StaysGone (initial environment) moves := by
  intro h
  have hg := always_runs (h .succeeding overlappingDisconnection) someAddress
  revert hg
  decide +kernel

end Departure

end WireShock
