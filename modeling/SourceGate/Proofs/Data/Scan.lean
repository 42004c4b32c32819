import SourceGate.Data.Scan

/-! # What a scan yields

A property of the values that a scan takes off a text, whatever the text. A sequence of scans, a
choice between two and a repetition keep what their parts yield.
-/

namespace SourceGate.Scan

variable {α β : Type}

/-- A property of all values that a scan can take off a text. -/
structure Yields (scan : Scan α) (P : α → Prop) : Prop where
  of_run {text a rest} (run : scan text = some (a, rest)) : P a

variable {P : α → Prop} {Q : β → Prop} {scan : Scan α}

theorem yields_pure {a : α} (h : P a) : Yields (pure a) P where
  of_run := by
    rintro _ _ _ ⟨⟩
    exact h

theorem yields_failure : Yields failure P where
  of_run := by
    rintro _ _ _ ⟨⟩

theorem yields_true (scan : Scan α) : Yields scan fun _ => True where
  of_run _ := trivial

theorem Yields.bind {f : α → Scan β} (h : Yields scan P) (hf : ∀ a, P a → Yields (f a) Q) :
    Yields (scan >>= f) Q where
  of_run run := by
    obtain ⟨⟨a, between⟩, first, second⟩ := Option.bind_eq_some_iff.1 run
    exact (hf a (h.of_run first)).of_run second

/-- Of what a scan yields nothing may be needed. -/
theorem Yields.behind {f : α → Scan β} (hf : ∀ a, Yields (f a) Q) : Yields (scan >>= f) Q :=
  (yields_true scan).bind fun a _ => hf a

theorem Yields.orElse {other : Scan α} (h : Yields scan P) (h' : Yields other P) :
    Yields (scan <|> other) P where
  of_run {text a rest} run := by
    change (scan text <|> other text) = some (a, rest) at run
    cases first : scan text with
    | none =>
      rw [first] at run
      exact h'.of_run run
    | some found =>
      rw [first] at run
      exact h.of_run (first.trans run)

theorem Yields.manyUpTo (h : Yields scan P) (fuel : Nat) :
    Yields (manyUpTo scan fuel) fun as => ∀ a ∈ as, P a := by
  induction fuel with
  | zero => exact yields_pure (by simp)
  | succ fuel ih =>
    refine ⟨fun {text as rest} run => ?_⟩
    simp only [Scan.manyUpTo] at run
    split at run
    · next a after found =>
      split at run
      · obtain ⟨⟨more, last⟩, later, same⟩ := Option.map_eq_some_iff.1 run
        cases same
        exact List.forall_mem_cons.2 ⟨h.of_run found, ih.of_run later⟩
      · cases run
        simp
    · cases run
      simp

theorem Yields.many (h : Yields scan P) : Yields (many scan) fun as => ∀ a ∈ as, P a where
  of_run run := (h.manyUpTo _).of_run run

theorem Yields.sepBy1 (h : Yields scan P) (separator : Scan β) :
    Yields (sepBy1 scan separator) fun as => ∀ a ∈ as, P a := by
  apply h.bind
  intro first hfirst
  have next : Yields (do discard separator; scan) P := .behind fun _ => h
  exact next.many.bind fun rest hrest => yields_pure (List.forall_mem_cons.2 ⟨hfirst, hrest⟩)

theorem Yields.sepBy (h : Yields scan P) (separator : Scan β) :
    Yields (sepBy scan separator) fun as => ∀ a ∈ as, P a :=
  (h.sepBy1 separator).orElse (yields_pure (by simp))

theorem Yields.ofText (h : Yields scan P) {text : String} {a : α}
    (found : ofText scan text = some a) : P a := by
  obtain ⟨⟨b, rest⟩, run, rfl⟩ := Option.map_eq_some_iff.1 found
  have whole : Yields (do let a ← scan; finish; return a : Scan α) P :=
    h.bind fun a ha => .behind fun _ => yields_pure ha
  exact whole.of_run run

end SourceGate.Scan
