import WireShock.Interaction.Backward

namespace Interaction

variable {κ δ ω ι : Type}

-- clients wait in line; a delivery answers the first of them, one with each of its parts, and ends
-- with one that it has to refuse
structure Service (κ δ ω : Type) where
  parts : δ → Nat
  accepts : κ → Bool
  answer : δ → Nat → κ → ω
  refuse : κ → ω

inductive Arrival (κ δ : Type) where
  | client (c : κ)
  | delivery (d : δ)

def Arrival.client? : Arrival κ δ → Option κ
  | .client c => some c
  | .delivery _ => none

namespace Service

variable (V : Service κ δ ω)

def serve (d : δ) : Nat → Nat → List κ → List ω × List κ
  | 0, _, line => ([], line)
  | _ + 1, _, [] => ([], [])
  | n + 1, i, c :: line =>
    if V.accepts c then (V.answer d i c :: (serve d n (i + 1) line).1, (serve d n (i + 1) line).2)
    else ([V.refuse c], line)

def step (line : List κ) : Arrival κ δ → List κ
  | .client c => line ++ [c]
  | .delivery d => (V.serve d (V.parts d) 0 line).2

def out (line : List κ) : Arrival κ δ → List ω
  | .client _ => []
  | .delivery d => (V.serve d (V.parts d) 0 line).1

-- every client is told apart by what it is answered
structure Names (name : κ → ι) (who : ω → ι) : Prop where
  answer : ∀ d i c, who (V.answer d i c) = name c
  refuse : ∀ c, who (V.refuse c) = name c

section

variable {V} {name : κ → ι} {who : ω → ι}

theorem serve_suffix (d : δ) (n i : Nat) (line : List κ) : (V.serve d n i line).2 <:+ line := by
  induction n generalizing i line with
  | zero => exact List.suffix_rfl
  | succ n ih =>
    cases line with
    | nil => exact List.suffix_rfl
    | cons c line =>
      rw [serve]
      split
      · exact (ih (i + 1) line).trans (List.suffix_cons c line)
      · exact List.suffix_cons c line

theorem serve_names (h : V.Names name who) (d : δ) (n i : Nat) (line : List κ) :
    (V.serve d n i line).1.map who ++ (V.serve d n i line).2.map name = line.map name := by
  induction n generalizing i line with
  | zero => rfl
  | succ n ih =>
    cases line with
    | nil => rfl
    | cons c line =>
      rw [serve]
      split
      · rw [List.map_cons, h.answer, List.cons_append, ih, List.map_cons]
      · rw [List.map_singleton, h.refuse, List.map_cons]
        rfl

theorem step_names (h : V.Names name who) (line : List κ) (a : Arrival κ δ) :
    (V.out line a).map who ++ (V.step line a).map name =
      line.map name ++ (a.client?.map name).toList := by
  cases a with
  | client c => exact List.map_append
  | delivery d => exact (serve_names h d (V.parts d) 0 line).trans (List.append_nil _).symm

-- who has been answered and who still waits are those who have come, in the order they came
theorem runs_names (h : V.Names name who) (line : List κ) (as : List (Arrival κ δ)) :
    (outputs V.step V.out line as).map who ++ (runs V.step line as).map name =
      line.map name ++ (as.filterMap Arrival.client?).map name := by
  induction as generalizing line with
  | nil => exact (List.append_nil _).symm
  | cons a as ih =>
    have ha := step_names h line a
    have hs := ih (V.step line a)
    calc (outputs V.step V.out line (a :: as)).map who ++ (runs V.step line (a :: as)).map name
        = (V.out line a).map who ++ ((outputs V.step V.out (V.step line a) as).map who ++
            (runs V.step (V.step line a) as).map name) := by
          rw [outputs, List.map_append, List.append_assoc]
          rfl
      _ = (V.out line a).map who ++ (V.step line a).map name ++
            (as.filterMap Arrival.client?).map name := by rw [hs, List.append_assoc]
      _ = line.map name ++ ((a :: as).filterMap Arrival.client?).map name := by
          rw [ha, List.append_assoc]
          cases a <;> rfl

end
end Service

-- a step is for the line what one arrival would be, or nothing at all
structure Service.Accounts {σ ε : Type} (V : Service κ δ ω) (line : σ → List κ)
    (step : σ → ε → σ) (out : σ → ε → List ω) (arrival : σ → ε → Option (Arrival κ δ)) (s : σ)
    (e : ε) : Prop where
  waiting : line (step s e) = runs V.step (line s) (arrival s e).toList
  answered : out s e = outputs V.step V.out (line s) (arrival s e).toList

theorem Service.runs_accounted {σ ε : Type} {V : Service κ δ ω} {line : σ → List κ}
    {step : σ → ε → σ} {out : σ → ε → List ω} {arrival : σ → ε → Option (Arrival κ δ)}
    {I : σ → Prop} (hi : ∀ s e, I s → I (step s e))
    (h : ∀ s e, I s → V.Accounts line step out arrival s e) {s : σ} (hs : I s) (es : List ε) :
    line (runs step s es) =
        runs V.step (line s) (outputs step (fun s e => (arrival s e).toList) s es) ∧
      outputs step out s es =
        outputs V.step V.out (line s) (outputs step (fun s e => (arrival s e).toList) s es) := by
  induction es generalizing s with
  | nil => exact ⟨rfl, rfl⟩
  | cons e es ih =>
    obtain ⟨hl, ho⟩ := ih (hi s e hs)
    have he := h s e hs
    constructor
    · rw [outputs, runs, List.foldl_cons, runs, List.foldl_append]
      exact hl.trans (congrArg (runs V.step · _) he.waiting)
    · rw [outputs, ho, he.answered, outputs, outputs_append, he.waiting]

end Interaction
