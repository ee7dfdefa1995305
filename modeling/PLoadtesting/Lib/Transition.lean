import Mathlib.Algebra.GroupWithZero.Nat
import Mathlib.Data.List.Basic

/-!
Runs of a partial step function.

`step s e` is the state after event `e`, or `none` when `e` is not enabled in
`s`. A `Run` records that every step of it meets a condition on the state it is
taken in; `exec` replays a list of events. The two agree (`run_iff_exec`), so a
counterexample can be computed by `exec` and a safety property proved by
`Run.preserves`: what one admitted step preserves, a whole run preserves.
-/

namespace Transition

variable {S E : Type} {step : S → E → Option S} {ok ok' : S → E → Prop}

/-- Replay the events in order; `none` as soon as one is not enabled. -/
def exec (step : S → E → Option S) : S → List E → Option S
  | s, [] => some s
  | s, e :: es => (step s e).bind (exec step · es)

/-- `Run step ok s es u`: the events `es` lead from `s` to `u`, and each of them
is taken in a state where `ok` admits it. -/
inductive Run (step : S → E → Option S) (ok : S → E → Prop) : S → List E → S → Prop where
  | done (s : S) : Run step ok s [] s
  | next {s t u : S} {e : E} {es : List E} (admitted : ok s e) (moves : step s e = some t)
      (rest : Run step ok t es u) : Run step ok s (e :: es) u

/-- A run replays: its events execute to its last state. -/
theorem Run.exec {s u : S} {es : List E} (h : Run step ok s es u) :
    exec step s es = some u := by
  induction h with
  | done s => rfl
  | next _ moves _ ih => rw [Transition.exec, moves, Option.bind_some, ih]

/-- Executions are the runs without a condition. -/
theorem run_iff_exec {s u : S} {es : List E} :
    Run step (fun _ _ => True) s es u ↔ exec step s es = some u := by
  refine ⟨Run.exec, ?_⟩
  intro h
  induction es generalizing s with
  | nil =>
      cases h
      exact .done _
  | cons e es ih =>
      obtain ⟨t, moves, rest⟩ := Option.bind_eq_some_iff.mp h
      exact .next trivial moves (ih rest)

/-- Runs with a condition are runs with any weaker one. -/
theorem Run.mono {s u : S} {es : List E} (weaker : ∀ s e, ok s e → ok' s e)
    (h : Run step ok s es u) : Run step ok' s es u := by
  induction h with
  | done s => exact .done s
  | next admitted moves _ ih => exact .next (weaker _ _ admitted) moves ih

/-- Runs compose. -/
theorem Run.append {s t u : S} {es fs : List E} (h : Run step ok s es t)
    (k : Run step ok t fs u) : Run step ok s (es ++ fs) u := by
  induction h with
  | done s => exact k
  | next admitted moves _ ih => exact .next admitted moves (ih k)

/-- A run has one end. -/
theorem Run.unique {s t u : S} {es : List E} (h : Run step ok s es t)
    (k : Run step ok' s es u) : t = u :=
  Option.some.inj (h.exec.symm.trans k.exec)

/-- A run goes on with a step that its condition admits. -/
theorem Run.concat_iff {s t u : S} {es : List E} {e : E} (h : Run step ok' s es t)
    (moves : step t e = some u) :
    Run step ok s (es ++ [e]) u ↔ Run step ok s es t ∧ ok t e := by
  constructor
  · intro run
    induction h with
    | done s =>
        cases run with
        | next admitted _ _ => exact ⟨.done _, admitted⟩
    | next _ first rest ih =>
        cases run with
        | next admitted first' run =>
            cases first.symm.trans first'
            obtain ⟨run, last⟩ := ih moves run
            exact ⟨.next admitted first run, last⟩
  · rintro ⟨run, admitted⟩
    exact run.append (.next admitted moves (.done u))

/-- What every admitted step preserves, a run preserves. Prefixes of runs are
runs, so the conclusion holds in every state a run passes through. -/
theorem Run.preserves {I : S → Prop}
    (preserved : ∀ s e t, ok s e → step s e = some t → I s → I t) {s u : S} {es : List E}
    (h : Run step ok s es u) (init : I s) : I u := by
  induction h with
  | done s => exact init
  | next admitted moves _ ih => exact ih (preserved _ _ _ admitted moves init)

/-- Induction on a run from its end, for a property of the events so far and the
state they lead to. -/
theorem Run.history {P : List E → S → Prop} {s u : S} {es : List E} (init : P [] s)
    (next : ∀ past t e v, P past t → ok t e → step t e = some v → P (past ++ [e]) v)
    (h : Run step ok s es u) : P es u := by
  suffices from_past : ∀ past, P past s → P (past ++ es) u by
    simpa using from_past [] init
  clear init
  induction h with
  | done s =>
      intro past holds
      simpa using holds
  | @next s t u e es admitted moves _ ih =>
      intro past holds
      have step := ih (past ++ [e]) (next past s e t holds admitted moves)
      simpa using step

/-- A run that goes on as long as the goal is not met, and always lowers a potential,
meets the goal. -/
theorem exists_run_to {I goal : S → Prop} (potential : S → Nat)
    (progress : ∀ s, I s → ¬ goal s →
      ∃ e t, ok s e ∧ step s e = some t ∧ I t ∧ potential t < potential s)
    {s : S} (init : I s) : ∃ es t, Run step ok s es t ∧ I t ∧ goal t := by
  induction bound : potential s using Nat.strongRecOn generalizing s with
  | _ n ih =>
      by_cases reached : goal s
      · exact ⟨[], s, .done s, init, reached⟩
      · obtain ⟨e, t, admitted, moves, next, less⟩ := progress s init reached
        obtain ⟨es, u, run, last, met⟩ := ih (potential t) (bound ▸ less) next rfl
        exact ⟨e :: es, u, .next admitted moves run, last, met⟩

/-! ### What a log records -/

/-- Some event of the log is described by `p` and the events before it. -/
def Occurs (p : List E → E → Prop) (es : List E) : Prop :=
  ∃ before e later, es = before ++ e :: later ∧ p before e

theorem not_occurs_nil {p : List E → E → Prop} : ¬ Occurs p [] := by
  rintro ⟨before, e, later, split, _⟩
  simp at split

theorem occurs_concat {p : List E → E → Prop} {es : List E} {e : E} :
    Occurs p (es ++ [e]) ↔ Occurs p es ∨ p es e := by
  constructor
  · rintro ⟨before, f, later, split, holds⟩
    rcases List.eq_nil_or_concat later with rfl | ⟨later, g, rfl⟩
    · obtain ⟨rfl, same⟩ := List.append_inj' split rfl
      cases same
      exact .inr holds
    · refine .inl ⟨before, f, later, ?_, holds⟩
      have split : es ++ [e] = (before ++ f :: later) ++ [g] := by simpa using split
      exact (List.append_inj' split rfl).1
  · rintro (⟨before, f, later, rfl, holds⟩ | holds)
    · exact ⟨before, f, later ++ [e], by simp, holds⟩
    · exact ⟨es, e, [], rfl, holds⟩

theorem Occurs.append {p : List E → E → Prop} {es : List E} (h : Occurs p es) (fs : List E) :
    Occurs p (es ++ fs) := by
  obtain ⟨before, e, later, rfl, holds⟩ := h
  exact ⟨before, e, later ++ fs, by simp, holds⟩

/-- Every event of the log is described by `p` and the events before it. -/
def Always (p : List E → E → Prop) (es : List E) : Prop :=
  ∀ before e later, es = before ++ e :: later → p before e

theorem always_iff_not_occurs {p : List E → E → Prop} {es : List E} :
    Always p es ↔ ¬ Occurs (fun before e => ¬ p before e) es := by
  simp only [Always, Occurs, not_exists, not_and, not_not]

theorem always_nil {p : List E → E → Prop} : Always p [] :=
  always_iff_not_occurs.mpr not_occurs_nil

theorem always_concat {p : List E → E → Prop} {es : List E} {e : E} :
    Always p (es ++ [e]) ↔ Always p es ∧ p es e := by
  simp only [always_iff_not_occurs, occurs_concat, not_or, not_not]

/-! ### Replaying runs with a condition -/

/-- The step function that also refuses what the condition does not admit. -/
def restrict (step : S → E → Option S) (ok : S → E → Prop) [∀ s e, Decidable (ok s e)] (s : S)
    (e : E) : Option S :=
  if ok s e then step s e else none

/-- Runs with a decidable condition are executions of the restricted step. -/
theorem run_iff_exec_restrict [∀ s e, Decidable (ok s e)] {s u : S} {es : List E} :
    Run step ok s es u ↔ exec (restrict step ok) s es = some u := by
  constructor
  · intro h
    induction h with
    | done s => rfl
    | next admitted moves _ ih =>
        rw [Transition.exec, restrict, if_pos admitted, moves, Option.bind_some, ih]
  · intro h
    induction es generalizing s with
    | nil =>
        cases h
        exact .done _
    | cons e es ih =>
        obtain ⟨t, moves, rest⟩ := Option.bind_eq_some_iff.mp h
        unfold restrict at moves
        split at moves
        · rename_i admitted
          exact .next admitted moves (ih rest)
        · cases moves

/-! ### Operations on a clock

A system whose requests each take effect as one step, at an instant of a clock
that never goes back. -/

/-- A state and the instant of the last step. -/
structure Timed (S : Type) where
  state : S
  clock : Int

/-- The operation `e.2` takes effect at the instant `e.1`. -/
def Timed.take {O : Type} (apply : S → Int → O → S) (s : Timed S) (e : Int × O) :
    Option (Timed S) :=
  if s.clock ≤ e.1 then some ⟨apply s.state e.1 e.2, e.1⟩ else none

section Timed

variable {O : Type} {apply : S → Int → O → S} {s t : Timed S} {admits : Timed S → Int × O → Prop}

theorem Timed.take_eq_some_iff {e : Int × O} :
    Timed.take apply s e = some t ↔ s.clock ≤ e.1 ∧ t = ⟨apply s.state e.1 e.2, e.1⟩ := by
  unfold Timed.take
  split
  · rename_i later
    simp [later, eq_comm]
  · rename_i earlier
    simp [earlier]

/-- An invariant of the state and the clock: the operations preserve it at every
later instant. -/
theorem Run.invariant {I : S → Int → Prop} {es : List (Int × O)}
    (preserved : ∀ (x : S) (clock now : Int) (o : O), clock ≤ now → I x clock →
      I (apply x now o) now)
    (h : Run (Timed.take apply) admits s es t) (init : I s.state s.clock) :
    I t.state t.clock := by
  refine h.preserves (I := fun u => I u.state u.clock) ?_ init
  intro u e v _ moves inv
  obtain ⟨later, rfl⟩ := Timed.take_eq_some_iff.mp moves
  exact preserved u.state u.clock e.1 e.2 later inv

/-- A relation between the first and the last state: it is reflexive and
transitive and holds across every operation in a state that meets the
invariant. -/
theorem Run.relates {I : S → Int → Prop} {R : S → S → Prop} {es : List (Int × O)}
    (refl : ∀ x, R x x) (trans : ∀ x y z, R x y → R y z → R x z)
    (preserved : ∀ (x : S) (clock now : Int) (o : O), clock ≤ now → I x clock →
      I (apply x now o) now)
    (related : ∀ (x : S) (clock now : Int) (o : O), clock ≤ now → I x clock → R x (apply x now o))
    (h : Run (Timed.take apply) admits s es t) (init : I s.state s.clock) :
    R s.state t.state := by
  induction h with
  | done s => exact refl s.state
  | @next s u t e es _ moves _ ih =>
      obtain ⟨later, rfl⟩ := Timed.take_eq_some_iff.mp moves
      refine trans _ _ _ (related s.state s.clock e.1 e.2 later init) ?_
      exact ih (preserved s.state s.clock e.1 e.2 later init)

end Timed

/-! ### Parties in a list

The parties of a system stand in a list at fixed indices. A step replaces one of
them, an arrival appends one. -/

section Parties

variable {A K : Type} {key : A → Option K} {xs : List A} {i : Nat} {x y : A}

/-- A replacement keeps every party but the one replaced. -/
theorem mem_set_of_ne {z : A} (current : xs[i]? = some x) (mem : z ∈ xs) (ne : z ≠ x) :
    z ∈ xs.set i y := by
  obtain ⟨j, hj⟩ := List.mem_iff_getElem?.mp mem
  have other : i ≠ j := by
    rintro rfl
    exact ne (Option.some.inj (hj.symm.trans current))
  exact List.mem_iff_getElem?.mpr ⟨j, by rw [List.getElem?_set_ne other, hj]⟩

/-- A party after an arrival is an old one or the one that arrived. -/
theorem getElem?_concat_cases (h : (xs ++ [y])[i]? = some x) : xs[i]? = some x ∨ y = x := by
  by_cases inside : i < xs.length
  · rw [List.getElem?_append_left inside] at h
    exact .inl h
  · rw [List.getElem?_append_right (by omega)] at h
    exact .inr (List.mem_singleton.mp (List.mem_of_getElem? h)).symm

/-- A count of parties after a replacement. -/
theorem countP_set {p : A → Bool} (current : xs[i]? = some x) :
    (xs.set i y).countP p + (if p x then 1 else 0) = xs.countP p + (if p y then 1 else 0) := by
  induction xs generalizing i with
  | nil => simp at current
  | cons z xs ih =>
      cases i with
      | zero =>
          cases current
          simp only [List.set_cons_zero, List.countP_cons]
          omega
      | succ i =>
          have rest := ih (i := i) (by simpa using current)
          simp only [List.set_cons_succ, List.countP_cons]
          omega

/-- A sum over the parties after a replacement. -/
theorem sum_map_set {f : A → Nat} (current : xs[i]? = some x) :
    ((xs.set i y).map f).sum + f x = (xs.map f).sum + f y := by
  induction xs generalizing i with
  | nil => simp at current
  | cons z xs ih =>
      cases i with
      | zero =>
          cases current
          simp only [List.set_cons_zero, List.map_cons, List.sum_cons]
          omega
      | succ i =>
          have rest := ih (i := i) (by simpa using current)
          simp only [List.set_cons_succ, List.map_cons, List.sum_cons]
          omega

/-- What a party owns, no other party owns. -/
def Apart (owns : A → K → Prop) (xs : List A) : Prop :=
  ∀ (i j : Nat) (x y : A) (k : K), xs[i]? = some x → xs[j]? = some y → owns x k → owns y k → i = j

/-- A party may replace itself by one that owns what it owned, or what nobody
owns. -/
theorem Apart.set {owns : A → K → Prop} (h : Apart owns xs) (current : xs[i]? = some x)
    (takes : ∀ k, owns y k → owns x k ∨ ∀ z ∈ xs, ¬ owns z k) : Apart owns (xs.set i y) := by
  have clash : ∀ (j : Nat) (z : A) (k : K), i ≠ j → xs[j]? = some z → owns y k → ¬ owns z k := by
    intro j z k ne hz hy hk
    rcases takes k hy with owned | free
    · exact ne (h i j x z k current hz owned hk)
    · exact free z (List.mem_of_getElem? hz) hk
  have inside : i < xs.length := (List.getElem?_eq_some_iff.mp current).1
  intro j j' z z' k hz hz' hk hk'
  by_cases hj : i = j
  · by_cases hj' : i = j'
    · omega
    · subst hj
      rw [List.getElem?_set_self inside] at hz
      rw [List.getElem?_set_ne hj'] at hz'
      cases hz
      exact absurd hk' (clash j' z' k hj' hz' hk)
  · rw [List.getElem?_set_ne hj] at hz
    by_cases hj' : i = j'
    · subst hj'
      rw [List.getElem?_set_self inside] at hz'
      cases hz'
      exact absurd hk (clash j z k hj hz hk')
    · rw [List.getElem?_set_ne hj'] at hz'
      exact h j j' z z' k hz hz' hk hk'

/-- A party that owns nothing may arrive. -/
theorem Apart.concat {owns : A → K → Prop} (h : Apart owns xs) (nothing : ∀ k, ¬ owns x k) :
    Apart owns (xs ++ [x]) := by
  have old : ∀ (j : Nat) (z : A) (k : K), (xs ++ [x])[j]? = some z → owns z k →
      xs[j]? = some z := by
    intro j z k hz hk
    rcases getElem?_concat_cases hz with old | rfl
    · exact old
    · exact absurd hk (nothing k)
  intro i j z z' k hz hz' hk hk'
  exact h i j z z' k (old i z k hz hk) (old j z' k hz' hk') hk hk'

theorem apart_nil {owns : A → K → Prop} : Apart owns [] := by
  intro i j x y k hx
  simp at hx

/-- What a party holds, no other party holds. -/
def Sole (key : A → Option K) (xs : List A) : Prop :=
  ∀ (i j : Nat) (x y : A) (k : K), xs[i]? = some x → xs[j]? = some y →
    key x = some k → key y = some k → i = j

/-- A party may replace itself by one that holds what it held, or what nobody
holds. -/
theorem Sole.set (h : Sole key xs) (current : xs[i]? = some x)
    (takes : ∀ k, key y = some k → key x = some k ∨ ∀ z ∈ xs, key z ≠ some k) :
    Sole key (xs.set i y) := by
  have apart : Apart (fun x k => key x = some k) xs := h
  exact apart.set current takes

/-- A party that holds nothing may arrive. -/
theorem Sole.concat (h : Sole key xs) (holds : key x = none) : Sole key (xs ++ [x]) := by
  have apart : Apart (fun x k => key x = some k) xs := h
  refine apart.concat ?_
  intro k held
  rw [holds] at held
  cases held

theorem sole_nil : Sole key [] := apart_nil

end Parties

end Transition
