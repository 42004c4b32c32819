import SourceGate.Proofs.Gate.Balance

/-! # One request among others

A request stays the same one while others come before it and after it. What takes part in a deed is
one request, one guard or nothing yet, so a deed of the process is a deed of the request that is
followed, or one of others on either side of it.
-/

namespace SourceGate

/-- A list of one member or none stands on one side of a member, or is that member. -/
theorem amid_cases {α : Type} {first second before after l : List α} {x : α} (short : l.length ≤ 1)
    (h : first ++ l ++ second = before ++ [x] ++ after) :
    (∃ between, before = first ++ l ++ between ∧ second = between ++ [x] ++ after) ∨
      (∃ between, first = before ++ [x] ++ between ∧ after = between ++ l ++ second) ∨
        (first = before ∧ l = [x] ∧ second = after) := by
  induction first generalizing before with
  | nil =>
    match l, before, short with
    | [], before, _ => exact .inl ⟨before, rfl, h⟩
    | [y], [], _ =>
      cases h
      exact .inr (.inr ⟨rfl, rfl, rfl⟩)
    | [y], z :: before, _ =>
      cases h
      exact .inl ⟨before, rfl, rfl⟩
  | cons y first ih =>
    cases before with
    | nil =>
      cases h
      exact .inr (.inl ⟨first, rfl, rfl⟩)
    | cons z before =>
      simp only [List.cons_append, List.cons.injEq] at h
      obtain ⟨rfl, h⟩ := h
      rcases ih h with ⟨between, rfl, rfl⟩ | ⟨between, rfl, rfl⟩ | ⟨rfl, rfl, rfl⟩
      · exact .inl ⟨between, rfl, rfl⟩
      · exact .inr (.inl ⟨between, rfl, rfl⟩)
      · exact .inr (.inr ⟨rfl, rfl, rfl⟩)

theorem Deed.length_le {γ α : Type} [DecidableEq γ] {s s' : Premises γ}
    {involved involved' : List (Activity γ α)} (h : Deed s involved s' involved') :
    involved'.length ≤ 1 := by
  cases h <;> simp

/-- A process with one of its requests singled out. -/
structure Focus (γ α : Type) extends Premises γ where
  before : List (Activity γ α)
  deadline : Duration
  stage : Stage α
  after : List (Activity γ α)

namespace Focus

variable {γ α : Type} {k : γ}

def process (k : γ) (f : Focus γ α) : Process γ α :=
  ⟨f.toPremises, f.before ++ [.admission k f.deadline f.stage] ++ f.after⟩

variable [DecidableEq γ]

/-- How far the other requests at the gate have come. -/
def others (k : γ) (f : Focus γ α) : List (Stage α) :=
  (f.before ++ f.after).filterMap (·.stageAt? k)

/-- A deed of the request, or a deed of others that leaves it where it is. -/
inductive Step (k : γ) : Focus γ α → Focus γ α → Prop where
  | own (before after) {deadline s stage s' stage'} (h : Advance k deadline s stage s' stage') :
    Step k ⟨s, before, deadline, stage, after⟩ ⟨s', before, deadline, stage', after⟩
  | before (first second deadline stage after) {s involved s' involved'}
      (deed : Deed s involved s' involved') :
    Step k ⟨s, first ++ involved ++ second, deadline, stage, after⟩
      ⟨s', first ++ involved' ++ second, deadline, stage, after⟩
  | after (before deadline stage first second) {s involved s' involved'}
      (deed : Deed s involved s' involved') :
    Step k ⟨s, before, deadline, stage, first ++ involved ++ second⟩
      ⟨s', before, deadline, stage, first ++ involved' ++ second⟩

/-- What comes of a process in any number of deeds, the request and the others in any order. -/
def Reaches (k : γ) : Focus γ α → Focus γ α → Prop := Relation.ReflTransGen (Step k)

theorem step_process {f g : Focus γ α} (h : Step k f g) :
    Process.Step (f.process k) (g.process k) := by
  cases h with
  | own before after h => exact .turn before after (.advance h)
  | before first second deadline stage after deed =>
    have turn := Process.Step.turn first (second ++ [.admission k deadline stage] ++ after) deed
    simpa [process] using turn
  | after before deadline stage first second deed =>
    have turn := Process.Step.turn (before ++ [.admission k deadline stage] ++ first) second deed
    simpa [process] using turn

theorem reaches_process {f g : Focus γ α} (h : Reaches k f g) :
    Process.Reaches (f.process k) (g.process k) :=
  Relation.ReflTransGen.lift (process k) (fun _ _ => step_process) _ _ h

/-- A request that is there after a deed was there before it and the deed went by it, or it has only
been asked for. -/
theorem exists_step {p : Process γ α} {g : Focus γ α} (h : Process.Step p (g.process k)) :
    (∃ f, p = f.process k ∧ Step k f g) ∨ ∃ isInside body, g.stage = .asked isInside body := by
  obtain ⟨s', before, deadline, stage, after⟩ := g
  generalize same : process k ⟨s', before, deadline, stage, after⟩ = q at h
  obtain @⟨s, s'', involved, involved', first, second, deed⟩ := h
  simp only [process, Process.mk.injEq] at same
  obtain ⟨rfl, amid⟩ := same
  rcases amid_cases deed.length_le amid.symm with
    ⟨between, rfl, rfl⟩ | ⟨between, rfl, rfl⟩ | ⟨rfl, rfl, rfl⟩
  · refine .inl ⟨⟨s, first ++ involved ++ between, deadline, stage, after⟩, ?_,
      .before _ _ _ _ _ deed⟩
    simp [process]
  · refine .inl ⟨⟨s, before, deadline, stage, between ++ involved ++ second⟩, ?_,
      .after _ _ _ _ _ deed⟩
    simp [process]
  · generalize alone : [Activity.admission k deadline stage] = involved' at deed
    cases deed with
    | ask _ gate _ isInside body =>
      cases alone
      exact .inr ⟨isInside, body, rfl⟩
    | advance h =>
      cases alone
      exact .inl ⟨⟨s, _, _, _, _⟩, rfl, .own _ _ h⟩
    | _ => cases alone

end Focus

end SourceGate
