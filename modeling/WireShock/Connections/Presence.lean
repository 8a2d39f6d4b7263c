import WireShock.Connections.Handles

namespace WireShock
open Interaction

def World.clears (w : World) : Event → Bool
  | .hci buffer n => receivedEvent buffer n = some .commandComplete && commandOf buffer = some .reset &&
      hciCommandSuccess buffer && !w.context.started
  | .d0Exit => true
  | _ => false

section

variable {w v : World} {a b : BdAddr} {e : Event}

theorem present_iff_handle : w.children.Present a ↔ (w.handle a).isSome = true := by
  rw [ChildList.Present, World.handle, Option.isSome_map]

theorem present_of_handle (h : v.handle a = w.handle a) :
    v.children.Present a ↔ w.children.Present a := by
  rw [present_iff_handle, present_iff_handle, h]

theorem present_step_requested (h : e.linkEvent = some (.requested a)) :
    (w.step e).children.Present b ↔ b = a ∨ w.children.Present b := by
  rw [present_iff_handle, handle_step_requested w h, present_iff_handle]
  split <;> simp_all

theorem present_step_opened {handle : BthHandle} (h : e.linkEvent = some (.opened a handle)) :
    (w.step e).children.Present b ↔ w.children.Present b := by
  rw [present_iff_handle, handle_step_opened w h, present_iff_handle]
  split
  · rename_i hb
    rw [Option.isSome_map, hb]
  · exact Iff.rfl

theorem present_step_closed {handle : BthHandle} (h : e.linkEvent = some (.closed handle)) :
    (w.step e).children.Present b ↔
      (∀ device, w.children.findByHandle handle.flagged ≠ some (b, device)) ∧
        w.children.Present b := by
  rw [step_closed w h]
  cases hf : w.children.findByHandle handle.flagged with
  | none => simp [World.clearLog]
  | some entry =>
    obtain ⟨c, device⟩ := entry
    rw [Option.elim_some, ChildList.Present, lookup_remove_world]
    by_cases hb : b = c
    · subst hb
      simp
    · simp [hb, Ne.symm hb, World.clearLog, ChildList.Present]

theorem clears_of_linkEvent {link : LinkEvent} (h : e.linkEvent = some link) :
    w.clears e = false := by
  cases e with
  | hci buffer n =>
    obtain ⟨event, he, hl⟩ := Option.bind_eq_some_iff.mp h
    by_cases hc : event = .commandComplete
    · subst hc
      cases hl
    · simp [World.clears, he, hc]
  | _ => cases h

theorem present_dispatchEvent_of_none {buffer : Buffer} {event : HciEvent} {n : Nat}
    (h : hciLinkEvent buffer event = none) (hc : event ≠ .commandComplete) :
    (exec (dispatchEvent event buffer n) w).2.children.Present a ↔ w.children.Present a := by
  cases event with
  | commandComplete => exact absurd rfl hc
  | commandStatus =>
    rw [dispatchEvent, children_exec_steady steady_hciCommandStatusEv]
  | connectionRequest => cases h
  | connectionComplete =>
    have hb : buffer 2 ≠ 0 := fun hb => by simp [hciLinkEvent, hb] at h
    have hm := (memory_hciConnectionCompleteEv w buffer).trans (if_neg hb)
    exact present_of_handle (handle_of_memory hm)
  | disconnectionComplete =>
    have hb : buffer 2 ≠ 0 := fun hb => by simp [hciLinkEvent, hb] at h
    rw [dispatchEvent, exec_hciDisconnectionCompleteEv, if_neg hb]
  | remoteNameRequestComplete =>
    rw [dispatchEvent, exec_hciRemoteNameRequestCompleteEv]
    split
    · exact present_of_handle handle_rename
    · exact Iff.rfl
  | _ => exact Iff.rfl

theorem present_step_of_none (h : e.linkEvent = none) :
    (w.step e).children.Present a ↔ w.clears e = false ∧ w.children.Present a := by
  cases e with
  | hci buffer n =>
    rw [step_hci]
    cases he : receivedEvent buffer n with
    | none => simp [World.clears, he, World.clearLog]
    | some event =>
      have hl : hciLinkEvent buffer event = none := by simpa [Event.linkEvent, he] using h
      by_cases hc : event = .commandComplete
      · subst hc
        rw [Option.elim_some, dispatchEvent, children_hciCommandCompleteEv]
        split
        · rename_i hr
          have hs : w.context.started = false := hr.2.2
          refine iff_of_false not_present_removeAll fun hp => ?_
          simp [World.clears, he, hr, hs] at hp
        · rename_i hr
          have hn : w.clears (.hci buffer n) = false := by
            by_contra hne
            refine hr ?_
            simpa [World.clears, he, and_assoc, World.clearLog] using hne
          simp [hn, World.clearLog]
      · have hn : w.clears (.hci buffer n) = false := by simp [World.clears, he, hc]
        rw [Option.elim_some, present_dispatchEvent_of_none hl hc]
        simp [hn, World.clearLog]
  | acl buffer n =>
    simpa [World.clears] using present_of_handle (handle_step_acl w buffer n a)
  | createDevice b =>
    simpa [World.clears] using present_of_handle (handle_step_createDevice w b a)
  | timer b =>
    have hc := children_step_timer w b
    simp [World.clears, hc]
  | d0Entry =>
    have hc : (w.step .d0Entry).children = w.children :=
      children_exec_steady steady_wireShockEvtDeviceD0Entry w.clearLog
    simp [World.clears, hc]
  | d0Exit =>
    refine iff_of_false ?_ fun hp => by cases hp.1
    exact not_present_removeAll (w := w.clearLog)

end

end WireShock
