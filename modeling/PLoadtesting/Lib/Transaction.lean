import Mathlib.Data.List.Basic

/-!
Computations on a store that can raise, and transactions.

An `Action` gives its outcome together with the store it leaves. An exception
keeps what was written before it: a loop that raises leaves the steps that it
took (`execute_forEach_error`). `atomic` gives the store back as it was instead.
-/

namespace Transaction

/-- A computation that reads and writes a store of type `S` and can raise an
`E`. -/
def Action (S E A : Type) := S → Except E A × S

namespace Action

variable {S E A B : Type}

/-- The outcome and the store that is left. -/
def execute (a : Action S E A) (s : S) : Except E A × S := a s

instance : Monad (Action S E) where
  pure x := fun s => (.ok x, s)
  bind a f := fun s =>
    match a s with
    | (.ok x, t) => f x t
    | (.error e, t) => (.error e, t)

/-- The value of a computation that leaves the store alone. -/
def ofExcept (x : Except E A) : Action S E A := fun s => (x, s)

/-- Read the store. -/
def read (f : S → A) : Action S E A := fun s => (.ok (f s), s)

/-- Write the store. -/
def write (f : S → S) : Action S E Unit := fun s => (.ok (), f s)

/-- `with transaction.atomic():` an exception undoes every write. -/
def atomic (a : Action S E A) : Action S E A := fun s =>
  match a s with
  | (.ok x, t) => (.ok x, t)
  | (.error e, _) => (.error e, s)

/-- `for x in xs: f(x)`. -/
def forEach (f : A → Action S E Unit) : List A → Action S E Unit
  | [] => pure ()
  | x :: xs => do
      f x
      forEach f xs

variable {s t : S} {e : E}

/-- After a step that returns, a sequence goes on with its second part. -/
theorem execute_bind_of_ok {a : Action S E A} {f : A → Action S E B} {x : A}
    (ran : a.execute s = (.ok x, t)) : (a >>= f).execute s = (f x).execute t := by
  show (match a s with
    | (.ok x, t) => f x t
    | (.error e, t) => (.error e, t)) = f x t
  rw [show a s = (.ok x, t) from ran]

/-- A step that raises ends the sequence. -/
theorem execute_bind_of_error {a : Action S E A} {f : A → Action S E B}
    (raised : a.execute s = (.error e, t)) : (a >>= f).execute s = (.error e, t) := by
  show (match a s with
    | (.ok x, t) => f x t
    | (.error e, t) => (.error e, t)) = (.error e, t)
  rw [show a s = (.error e, t) from raised]

/-- A sequence succeeds if both parts do. -/
theorem execute_bind_ok_iff {a : Action S E A} {f : A → Action S E B} {y : B} :
    (a >>= f).execute s = (.ok y, t) ↔
      ∃ x u, a.execute s = (.ok x, u) ∧ (f x).execute u = (.ok y, t) := by
  show (match a s with
    | (.ok x, t) => f x t
    | (.error e, t) => (.error e, t)) = (.ok y, t) ↔ ∃ x u, a s = (.ok x, u) ∧ f x u = (.ok y, t)
  cases a s with
  | mk outcome u =>
      cases outcome with
      | error e => simp
      | ok x => simp

/-- A sequence raises in its first part, or in its second on the store that the
first leaves. -/
theorem execute_bind_error_iff {a : Action S E A} {f : A → Action S E B} :
    (a >>= f).execute s = (.error e, t) ↔
      a.execute s = (.error e, t) ∨
        ∃ x u, a.execute s = (.ok x, u) ∧ (f x).execute u = (.error e, t) := by
  show (match a s with
    | (.ok x, t) => f x t
    | (.error e, t) => (.error e, t)) = (.error e, t) ↔
      a s = (.error e, t) ∨ ∃ x u, a s = (.ok x, u) ∧ f x u = (.error e, t)
  cases a s with
  | mk outcome u =>
      cases outcome with
      | error e => simp
      | ok x => simp

/-! ### Transactions -/

theorem execute_atomic_ok_iff {a : Action S E A} {x : A} :
    (atomic a).execute s = (.ok x, t) ↔ a.execute s = (.ok x, t) := by
  unfold execute atomic
  cases a s with
  | mk outcome u =>
      cases outcome with
      | error e => simp
      | ok y => simp

/-- A transaction that raises leaves the store as it was. -/
theorem execute_atomic_error_iff {a : Action S E A} :
    (atomic a).execute s = (.error e, t) ↔ t = s ∧ ∃ u, a.execute s = (.error e, u) := by
  unfold execute atomic
  cases a s with
  | mk outcome u =>
      cases outcome with
      | error e =>
          simp only [Prod.mk.injEq, Except.error.injEq, exists_eq_right']
          exact ⟨fun h => ⟨h.2.symm, h.1⟩, fun h => ⟨h.2, h.1.symm⟩⟩
      | ok y => simp

/-! ### Loops -/

/-- A loop whose steps each succeed and write what `g` says of the value that
belongs to the step. -/
theorem execute_forEach_ok {f : A → Action S E Unit} {g : B → S → S} {xs : List A} {ys : List B}
    (steps : List.Forall₂ (fun x y => ∀ s, (f x).execute s = (.ok (), g y s)) xs ys) (s : S) :
    (forEach f xs).execute s = (.ok (), ys.foldl (fun s y => g y s) s) := by
  induction steps generalizing s with
  | nil => rfl
  | cons step _ ih => exact (execute_bind_of_ok (step s)).trans (ih _)

/-- A loop whose steps have outcomes that do not depend on the store, and keep a
view of it. -/
theorem execute_forEach_of_outcome {f : A → Action S E Unit} {outcome : A → Except E Unit}
    {view : S → B}
    (steps : ∀ x s, ∃ t, (f x).execute s = (outcome x, t) ∧ view t = view s) (xs : List A)
    (s : S) : ∃ t, (forEach f xs).execute s = (xs.forM outcome, t) ∧ view t = view s := by
  induction xs generalizing s with
  | nil => exact ⟨s, rfl, rfl⟩
  | cons x xs ih =>
      obtain ⟨t, ran, kept⟩ := steps x s
      cases stepped : outcome x with
      | error e =>
          rw [stepped] at ran
          refine ⟨t, ?_, kept⟩
          show (f x >>= fun _ => forEach f xs).execute s =
            (outcome x >>= fun _ => xs.forM outcome, t)
          rw [execute_bind_of_error ran, stepped]
          rfl
      | ok _ =>
          rw [stepped] at ran
          obtain ⟨u, rest, keptRest⟩ := ih t
          refine ⟨u, ?_, keptRest.trans kept⟩
          show (f x >>= fun _ => forEach f xs).execute s =
            (outcome x >>= fun _ => xs.forM outcome, u)
          rw [execute_bind_of_ok ran, rest, stepped]
          rfl

/-- What every step preserves, whatever its outcome, the loop preserves. -/
theorem preserves_forEach {f : A → Action S E Unit} {P : S → Prop}
    (steps : ∀ x s, P s → P ((f x).execute s).2) (xs : List A) {s : S} (holds : P s) :
    P ((forEach f xs).execute s).2 := by
  induction xs generalizing s with
  | nil => exact holds
  | cons x xs ih =>
      have here := steps x s holds
      show P ((f x >>= fun _ => forEach f xs).execute s).2
      cases ran : (f x).execute s with
      | mk outcome t =>
          rw [ran] at here
          cases outcome with
          | error e => rwa [execute_bind_of_error ran]
          | ok _ =>
              rw [execute_bind_of_ok ran]
              exact ih here

/-- A loop that raises has run every step before the one that raised, and leaves
what they wrote. -/
theorem execute_forEach_error {f : A → Action S E Unit} {xs : List A}
    (raised : (forEach f xs).execute s = (.error e, t)) :
    ∃ before x after u, xs = before ++ x :: after ∧
      (forEach f before).execute s = (.ok (), u) ∧ (f x).execute u = (.error e, t) := by
  induction xs generalizing s with
  | nil => cases raised
  | cons y xs ih =>
      rcases execute_bind_error_iff.mp raised with here | ⟨_, u, ran, later⟩
      · exact ⟨[], y, xs, s, rfl, rfl, here⟩
      · obtain ⟨before, x, after, v, rfl, ranBefore, raises⟩ := ih later
        exact ⟨y :: before, x, after, v, rfl,
          execute_bind_ok_iff.mpr ⟨(), u, ran, ranBefore⟩, raises⟩

/-! ### Views of the store -/

section Views

variable {T : Type} {view : S → T}

/-- `a'` does to the view of a store what `a` does to the store. -/
def Simulates (view : S → T) (a : Action S E A) (a' : Action T E A) : Prop :=
  ∀ s, a'.execute (view s) = ((a.execute s).1, view (a.execute s).2)

theorem simulates_ofExcept (x : Except E A) : Simulates view (ofExcept x) (ofExcept x) :=
  fun _ => rfl

theorem simulates_write {f : S → S} {g : T → T} (commutes : ∀ s, g (view s) = view (f s)) :
    Simulates view (write f : Action S E Unit) (write g) :=
  fun s => congrArg (Prod.mk (Except.ok ())) (commutes s)

theorem simulates_bind {a : Action S E A} {a' : Action T E A} {f : A → Action S E B}
    {f' : A → Action T E B} (first : Simulates view a a')
    (rest : ∀ x, Simulates view (f x) (f' x)) : Simulates view (a >>= f) (a' >>= f') := by
  intro s
  cases ran : a.execute s with
  | mk outcome t =>
      have ran' := first s
      rw [ran] at ran'
      cases outcome with
      | error e => rw [execute_bind_of_error ran, execute_bind_of_error ran']
      | ok x => rw [execute_bind_of_ok ran, execute_bind_of_ok ran', rest x t]

theorem simulates_forEach {f : A → Action S E Unit} {f' : A → Action T E Unit}
    (steps : ∀ x, Simulates view (f x) (f' x)) (xs : List A) :
    Simulates view (forEach f xs) (forEach f' xs) := by
  induction xs with
  | nil => exact fun _ => rfl
  | cons x xs ih => exact simulates_bind (steps x) fun _ => ih

end Views

end Action

end Transaction
