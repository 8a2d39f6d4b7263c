import WireShock.Startup.Order

namespace WireShock
open Interaction

def Answer.refusesPairing (a : Answer) : Bool := supportsPairing a.command && !a.success

def Event.refusesPairing (e : Event) : Bool := e.answer.any Answer.refusesPairing

-- a radio of a version the driver supports has told it
def Event.reportsVersion (e : Event) : Prop :=
  e.answer = some (.complete .readLocalVersionInfo true false)

namespace World

def commandsSent (w : World) (e : Event) : List HciCommand :=
  (w.step e).radio.issued.map Prod.fst

end World

section

variable {w : World} {e : Event} {a : Answer}

theorem disableSSP_reject (r : Radio) : r.reject.disableSSP = r.disableSSP := by
  unfold Radio.reject
  split <;> rfl

theorem disableSSP_answered (r : Radio) (a : Answer) :
    (r.answered a).disableSSP = (r.disableSSP || a.refusesPairing) := by
  cases a with
  | status c =>
    simp only [Radio.answered, Radio.failed, Answer.refusesPairing, Answer.command, Answer.success]
    cases supportsPairing c with
    | false => simp
    | true => simp [Radio.fallBack]
  | complete c success old =>
    simp only [Radio.answered, Radio.completed, Answer.refusesPairing, Answer.command,
      Answer.success]
    split_ifs with hc hs hp hg hv
    · subst hc
      simp [Radio.start, supportsPairing]
    · subst hc
      simp [supportsPairing]
    · simp [Radio.fallBack, hp]
    · simp [disableSSP_reject, hp]
    · cases successor r.disableSSP c <;> simp [hp]
    · simp [hp]

theorem disableSSP_step (w : World) (e : Event) :
    (w.step e).context.disableSSP = (w.context.disableSSP || e.refusesPairing) := by
  cases ha : e.answer with
  | some a =>
    rw [← radio_disableSSP, radio_step_of_answer w ha, disableSSP_answered, Event.refusesPairing, ha]
    rfl
  | none =>
    have hr : e.refusesPairing = false := by simp [Event.refusesPairing, ha]
    rw [hr, Bool.or_false, ← radio_disableSSP]
    cases hp : e.isPower with
    | false => exact (undisturbed_step w ha hp).disableSSP
    | true =>
      cases e with
      | d0Entry => exact congrArg Radio.disableSSP (radio_step_d0Entry w)
      | d0Exit => exact congrArg Radio.disableSSP (radio_step_d0Exit w)
      | _ => cases hp

theorem disableSSP_runs (w : World) (es : List Event) :
    (runs World.step w es).context.disableSSP =
      (w.context.disableSSP || es.any Event.refusesPairing) := by
  induction es generalizing w with
  | nil => simp [runs]
  | cons e es ih =>
    have hs := ih (w.step e)
    rw [disableSSP_step, Bool.or_assoc] at hs
    exact hs

theorem commandsSent_of_answer (ha : e.answer = some a) :
    w.commandsSent e = (next w.context.disableSSP w.context.started a).toList := by
  have hi : w.radio.fresh.issued = [] := rfl
  have hd : w.radio.fresh.disableSSP = w.context.disableSSP := rfl
  have hs : w.radio.fresh.started = w.context.started := rfl
  rw [World.commandsSent, radio_step_of_answer w ha, issued_answered, hi, hd, hs]
  cases next w.context.disableSSP w.context.started a <;> rfl

theorem commandsSent_power (hp : e.isPower = true) : w.commandsSent e = [.reset] := by
  cases e with
  | d0Entry => rw [World.commandsSent, radio_step_d0Entry]; rfl
  | d0Exit => rw [World.commandsSent, radio_step_d0Exit]; rfl
  | _ => cases hp

theorem next_eq_pairing {d started : Bool} {a : Answer} :
    next d started a = some .writeSimplePairingMode ↔
      a = .complete .readLocalVersionInfo true false ∧ d = false := by
  cases a with
  | status c => cases hp : supportsPairing c <;> simp [next, hp]
  | complete c success old =>
    cases c <;> cases success <;> cases old <;> cases d <;> cases started <;> decide

theorem pairing_sent_iff : .writeSimplePairingMode ∈ w.commandsSent e ↔
    e.reportsVersion ∧ w.context.disableSSP = false := by
  cases ha : e.answer with
  | some a =>
    rw [commandsSent_of_answer ha, Option.mem_toList, next_eq_pairing,
      Event.reportsVersion, ha, Option.some.injEq]
  | none =>
    have hv : ¬ e.reportsVersion := by simp [Event.reportsVersion, ha]
    refine iff_of_false (fun hm => ?_) fun h => hv h.1
    cases hp : e.isPower with
    | true =>
      rw [commandsSent_power hp] at hm
      exact absurd hm (by decide)
    | false =>
      obtain ⟨x, hx, hc⟩ := List.mem_map.mp hm
      exact (undisturbed_step w ha hp).issued x hx (hc ▸ by decide)

-- whether pairing is asked for in a power cycle, or scanning enabled at once
structure PairsUnlessRefused (w : World) (es : List Event) (e : Event) : Prop where
  asks : .writeSimplePairingMode ∈ (runs World.step w es).commandsSent e ↔
    e.reportsVersion ∧ ∀ f ∈ es, f.refusesPairing = false
  skips : e.reportsVersion → (∃ f ∈ es, f.refusesPairing = true) →
    (runs World.step w es).commandsSent e = [.writeScanEnable]

-- once a radio has refused pairing the driver never asks for it again, in no later power cycle
theorem pairing_refused_for_good (environment : Environment) (es : List Event) (e : Event) :
    PairsUnlessRefused (.initial environment) es e := by
  have hd := disableSSP_runs (.initial environment) es
  have hf : (World.initial environment).context.disableSSP = false := rfl
  rw [hf, Bool.false_or] at hd
  refine ⟨?_, fun hv hr => ?_⟩
  · rw [pairing_sent_iff, hd, List.any_eq_false]
    simp
  · have ht : es.any Event.refusesPairing = true := List.any_eq_true.mpr hr
    rw [commandsSent_of_answer hv, hd, ht]
    rfl

end
end WireShock
