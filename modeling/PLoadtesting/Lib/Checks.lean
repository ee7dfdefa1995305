import Mathlib.Init

/-!
Computations that check their input step by step, and the exceptions that they
may end with.

Some exceptions are clean refusals, reported to whoever sent the input; any
other one is a failure of the program. A `Check` says of one step when it raises
no other exception (`safe`) and when the input passes it. A computation that
makes a list of checks in order (`Makes`) ends cleanly if and only if the first
check that the input does not pass is a safe one (`SafeInOrder`), and returns if
and only if the input passes all of them. The rules follow the shape of the
computation: `makes_bind`, `makes_cons`, `makes_map`, `makes_forM`. Where the value
that is returned is known as well and every refusal is clean, the rules for
`Gives` follow both at once.
-/

namespace Checks

/-- One check of an input. -/
structure Check where
  safe : Prop
  passes : Prop

/-- A check that is always safe. -/
def Check.of (passes : Prop) : Check := ⟨True, passes⟩

/-- The first check that is not passed, if there is one, is safe, and so are all
before it. -/
def SafeInOrder : List Check → Prop
  | [] => True
  | check :: checks => check.safe ∧ (check.passes → SafeInOrder checks)

/-- All checks are passed. -/
def AllPass : List Check → Prop
  | [] => True
  | check :: checks => check.passes ∧ AllPass checks

theorem allPass_append {checks checks' : List Check} :
    AllPass (checks ++ checks') ↔ AllPass checks ∧ AllPass checks' := by
  induction checks with
  | nil => simp [AllPass]
  | cons check checks ih => simp [AllPass, ih, and_assoc]

theorem safeInOrder_append {checks checks' : List Check} :
    SafeInOrder (checks ++ checks') ↔
      SafeInOrder checks ∧ (AllPass checks → SafeInOrder checks') := by
  induction checks with
  | nil => simp [SafeInOrder, AllPass]
  | cons check checks ih =>
      rw [List.cons_append, SafeInOrder, SafeInOrder, AllPass, ih]
      constructor
      · rintro ⟨safe, rest⟩
        exact ⟨⟨safe, fun pass => (rest pass).1⟩, fun all => (rest all.1).2 all.2⟩
      · rintro ⟨⟨safe, rest⟩, later⟩
        exact ⟨safe, fun pass => ⟨rest pass, fun all => later ⟨pass, all⟩⟩⟩

theorem allPass_flatMap {α : Type} {checks : α → List Check} {xs : List α} :
    AllPass (xs.flatMap checks) ↔ ∀ x ∈ xs, AllPass (checks x) := by
  induction xs with
  | nil => exact iff_of_true trivial fun _ mem => absurd mem List.not_mem_nil
  | cons x xs ih => rw [List.flatMap_cons, allPass_append, ih, List.forall_mem_cons]

section Computations

variable {ε α β : Type} {clean : ε → Prop}

/-- The computation returns or refuses cleanly. -/
def IsClean (clean : ε → Prop) : Except ε α → Prop
  | .ok _ => True
  | .error e => clean e

/-- The computation refuses cleanly. -/
def IsRefused (clean : ε → Prop) : Except ε α → Prop
  | .ok _ => False
  | .error e => clean e

theorem isClean_bind {x : Except ε α} {f : α → Except ε β} (first : IsClean clean x)
    (rest : ∀ a, x = .ok a → IsClean clean (f a)) : IsClean clean (x >>= f) := by
  cases x with
  | error e => exact first
  | ok a => exact rest a rfl

/-- The computation makes the checks in order. -/
structure Makes (clean : ε → Prop) (x : Except ε α) (checks : List Check) : Prop where
  clean_iff : IsClean clean x ↔ SafeInOrder checks
  ok_iff : (∃ a, x = .ok a) ↔ AllPass checks

/-- A computation that makes one check. -/
theorem makes_one {x : Except ε α} {check : Check} (clean_iff : IsClean clean x ↔ check.safe)
    (ok_iff : (∃ a, x = .ok a) ↔ check.passes) : Makes clean x [check] := by
  refine ⟨?_, ?_⟩
  · rw [clean_iff]
    simp [SafeInOrder]
  · rw [ok_iff]
    simp [AllPass]

theorem makes_ok (a : α) : Makes clean (.ok a : Except ε α) [] := by
  constructor
  · exact Iff.rfl
  · exact ⟨fun _ => trivial, fun _ => ⟨a, rfl⟩⟩

theorem makes_bind {x : Except ε α} {f : α → Except ε β} {checks checks' : List Check}
    (first : Makes clean x checks) (rest : ∀ a, x = .ok a → Makes clean (f a) checks') :
    Makes clean (x >>= f) (checks ++ checks') := by
  have clean_iff := first.clean_iff
  have ok_iff := first.ok_iff
  cases x with
  | error e =>
      have stops : ¬ AllPass checks := fun all => by simpa using ok_iff.mpr all
      refine ⟨?_, ?_⟩
      · rw [safeInOrder_append, ← clean_iff]
        exact ⟨fun refused => ⟨refused, fun all => absurd all stops⟩, fun safe => safe.1⟩
      · rw [allPass_append]
        exact ⟨fun ⟨_, returned⟩ => (nomatch returned), fun all => absurd all.1 stops⟩
  | ok a =>
      have all : AllPass checks := ok_iff.mp ⟨a, rfl⟩
      have safe : SafeInOrder checks := clean_iff.mp trivial
      have next := rest a rfl
      refine ⟨?_, ?_⟩
      · rw [safeInOrder_append]
        exact next.clean_iff.trans ⟨fun later => ⟨safe, fun _ => later⟩, fun both => both.2 all⟩
      · rw [allPass_append]
        exact next.ok_iff.trans ⟨fun later => ⟨all, later⟩, fun both => both.2⟩

theorem makes_cons {x : Except ε α} {f : α → Except ε β} {check : Check} {checks : List Check}
    (first : Makes clean x [check]) (rest : ∀ a, x = .ok a → Makes clean (f a) checks) :
    Makes clean (x >>= f) (check :: checks) :=
  makes_bind first rest

theorem makes_map {x : Except ε α} {f : α → β} {checks : List Check}
    (made : Makes clean x checks) : Makes clean (x.map f) checks := by
  have clean_iff := made.clean_iff
  have ok_iff := made.ok_iff
  cases x with
  | error e => exact ⟨clean_iff, by simpa [Except.map] using ok_iff⟩
  | ok a => exact ⟨clean_iff, by simpa [Except.map] using ok_iff⟩

/-- A clean refusal by the first check. -/
theorem makes_refused {e : ε} {check : Check} (checks : List Check) (refusal : clean e)
    (safe : check.safe) (fails : ¬ check.passes) :
    Makes clean (.error e : Except ε α) (check :: checks) := by
  refine ⟨iff_of_true refusal ⟨safe, fun pass => absurd pass fails⟩, iff_of_false ?_ ?_⟩
  · rintro ⟨_, returned⟩
    cases returned
  · exact fun all => fails all.1

/-- A check that is known to be passed may be left out. -/
theorem makes_passed {x : Except ε α} {check : Check} {checks : List Check} (safe : check.safe)
    (passed : check.passes) (made : Makes clean x checks) : Makes clean x (check :: checks) := by
  refine ⟨made.clean_iff.trans ?_, made.ok_iff.trans ?_⟩
  · exact ⟨fun later => ⟨safe, fun _ => later⟩, fun both => both.2 passed⟩
  · exact ⟨fun later => ⟨passed, later⟩, fun both => both.2⟩

/-- Two checks in a row that are one. -/
theorem makes_merged {x : Except ε α} {first second check : Check}
    (made : Makes clean x [first, second])
    (safe : first.safe ∧ (first.passes → second.safe) ↔ check.safe)
    (passes : first.passes ∧ second.passes ↔ check.passes) : Makes clean x [check] := by
  refine makes_one (made.clean_iff.trans ?_) (made.ok_iff.trans ?_)
  · simpa [SafeInOrder] using safe
  · simpa [AllPass] using passes

/-- The computation refuses cleanly if and only if it does not return and the
checks are safe in order. -/
theorem Makes.isRefused_iff {x : Except ε α} {checks : List Check}
    (made : Makes clean x checks) :
    IsRefused clean x ↔ SafeInOrder checks ∧ ¬ AllPass checks := by
  rw [← made.clean_iff, ← made.ok_iff]
  cases x with
  | error e => simp [IsRefused, IsClean]
  | ok a => simp [IsRefused, IsClean]

/-- A loop makes the checks of its elements, one after another. -/
theorem makes_forM {f : α → Except ε PUnit} {checks : α → List Check} {xs : List α}
    (steps : ∀ x ∈ xs, Makes clean (f x) (checks x)) :
    Makes clean (xs.forM f) (xs.flatMap checks) := by
  induction xs with
  | nil => exact makes_ok _
  | cons x xs ih =>
      obtain ⟨here, later⟩ := List.forall_mem_cons.mp steps
      rw [List.flatMap_cons]
      exact makes_bind here fun _ _ => ih later

/-! ### Computations of a known value -/

/-- The computation returns the value if the input passes, and refuses cleanly
otherwise. -/
structure Gives (clean : ε → Prop) (x : Except ε α) (passes : Prop) (value : α) : Prop where
  returns : passes → x = .ok value
  refuses : ¬ passes → IsRefused clean x

theorem gives_ok (value : α) : Gives clean (.ok value : Except ε α) True value :=
  ⟨fun _ => rfl, fun fails => absurd trivial fails⟩

theorem gives_pure (value : α) : Gives clean (pure value : Except ε α) True value :=
  gives_ok value

theorem gives_bind {x : Except ε α} {f : α → Except ε β} {passes passes' : Prop} {value : α}
    {value' : β} (first : Gives clean x passes value)
    (rest : passes → Gives clean (f value) passes' value') :
    Gives clean (x >>= f) (passes ∧ passes') value' := by
  by_cases pass : passes
  · rw [first.returns pass]
    exact ⟨fun both => (rest pass).returns both.2,
      fun fails => (rest pass).refuses fun pass' => fails ⟨pass, pass'⟩⟩
  · refine ⟨fun both => absurd both.1 pass, fun _ => ?_⟩
    have refused := first.refuses pass
    cases x with
    | error e => exact refused
    | ok a => cases refused

theorem gives_map {x : Except ε α} {f : α → β} {passes : Prop} {value : α}
    (given : Gives clean x passes value) : Gives clean (x.map f) passes (f value) := by
  refine ⟨fun pass => by rw [given.returns pass]; rfl, fun fails => ?_⟩
  have refused := given.refuses fails
  cases x with
  | error e => exact refused
  | ok a => cases refused

theorem Gives.congr {x : Except ε α} {passes passes' : Prop} {value : α}
    (given : Gives clean x passes value) (same : passes ↔ passes') :
    Gives clean x passes' value :=
  ⟨fun pass => given.returns (same.mpr pass), fun fails => given.refuses fun pass =>
    fails (same.mp pass)⟩

theorem Gives.eq_ok_iff {x : Except ε α} {passes : Prop} {value a : α}
    (given : Gives clean x passes value) : x = .ok a ↔ passes ∧ a = value := by
  constructor
  · intro returned
    by_cases pass : passes
    · exact ⟨pass, Except.ok.inj (returned.symm.trans (given.returns pass))⟩
    · have refused := given.refuses pass
      rw [returned] at refused
      cases refused
  · rintro ⟨pass, rfl⟩
    exact given.returns pass

/-- Such a computation makes a single check, which is safe. -/
theorem Gives.makes {x : Except ε α} {passes : Prop} {value : α}
    (given : Gives clean x passes value) : Makes clean x [.of passes] := by
  by_cases pass : passes
  · rw [given.returns pass]
    exact makes_one (iff_of_true trivial trivial) (iff_of_true ⟨value, rfl⟩ pass)
  · have refused := given.refuses pass
    cases x with
    | error e => exact makes_one (iff_of_true refused trivial) (iff_of_false nofun pass)
    | ok a => cases refused

end Computations

end Checks
