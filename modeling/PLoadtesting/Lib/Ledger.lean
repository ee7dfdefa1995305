import Mathlib.Data.List.Basic
import PLoadtesting.Lib.Transition

/-!
Accounts with a budget, kept beside a log of what was asked and answered.

An account is opened once with a budget, each use takes one unit, and a closed
account is used no more. A `Reading` says which entries of a log open, spend from
and close an account; `Move` is what a lawful entry does to one account.
`Balanced` relates the log to the account it has led to: the uses in the log and
the units left make up the budget, and nothing is spent after a closing. Every
lawful entry keeps it (`Balanced.next`), so it holds in every state of a system
whose steps are moves.
-/

namespace Ledger

open Transition

/-- Who an account belongs to, what is left on it, and whether it is closed. -/
structure Account (O : Type) where
  owner : O
  left : Int
  closed : Bool

/-- Which accounts an entry opens, after the earlier entries of the log, and which
ones it spends from and closes. -/
structure Reading (E K O : Type) where
  opens : List E → E → K → O → Int → Prop
  spends : E → K → Bool
  closes : E → K → Bool

variable {E K O : Type} {r : Reading E K O} {log : List E} {e : E} {k : K} {owner : O}
  {budget : Int} {stored stored' : Option (Account O)}

namespace Reading

/-- The account was opened for the owner with the budget. -/
def Opened (r : Reading E K O) (log : List E) (k : K) (owner : O) (budget : Int) : Prop :=
  Occurs (fun before e => r.opens before e k owner budget) log

/-- How often the log spends from the account. -/
def uses (r : Reading E K O) (log : List E) (k : K) : Nat := log.countP (r.spends · k)

/-- The entry neither spends from the account nor closes it. -/
def Quiet (r : Reading E K O) (e : E) (k : K) : Prop :=
  r.spends e k = false ∧ r.closes e k = false

theorem opened_concat : r.Opened (log ++ [e]) k owner budget ↔
    r.Opened log k owner budget ∨ r.opens log e k owner budget :=
  occurs_concat

theorem uses_concat_of_spends (spends : r.spends e k = true) :
    r.uses (log ++ [e]) k = r.uses log k + 1 := by
  simp [uses, List.countP_append, spends]

theorem uses_concat_of_not_spends (spends : r.spends e k = false) :
    r.uses (log ++ [e]) k = r.uses log k := by
  simp [uses, List.countP_append, spends]

end Reading

/-- What a lawful entry does to one account. -/
inductive Move (r : Reading E K O) (log : List E) (e : E) (k : K) :
    Option (Account O) → Option (Account O) → Prop where
  | quiet {stored : Option (Account O)} (opens : ∀ owner budget, ¬ r.opens log e k owner budget)
      (quiet : r.Quiet e k) : Move r log e k stored stored
  | opened {owner : O} {budget : Int} (funded : 0 ≤ budget)
      (opens : ∀ owner' budget', r.opens log e k owner' budget' ↔
        owner' = owner ∧ budget' = budget)
      (quiet : r.Quiet e k) : Move r log e k none (some ⟨owner, budget, false⟩)
  | spent {a : Account O} (usable : a.closed = false) (funds : 0 < a.left)
      (opens : ∀ owner budget, ¬ r.opens log e k owner budget) (spends : r.spends e k = true)
      (closes : r.closes e k = false) :
      Move r log e k (some a) (some { a with left := a.left - 1 })
  | closed {a : Account O} (opens : ∀ owner budget, ¬ r.opens log e k owner budget)
      (spends : r.spends e k = false) : Move r log e k (some a) (some { a with closed := true })

/-- The account is what the log makes of it. -/
structure Balanced (r : Reading E K O) (log : List E) (k : K) (stored : Option (Account O)) :
    Prop where
  /-- Uses and units left make up the budget. -/
  account : ∀ owner budget, r.Opened log k owner budget → ∃ a, stored = some a ∧
    a.owner = owner ∧ (r.uses log k : Int) + a.left = budget ∧ 0 ≤ a.left
  /-- An account was opened. -/
  backed : ∀ a, stored = some a → ∃ budget, r.Opened log k a.owner budget
  /-- There is no use and no closing without an account. -/
  unknown : stored = none → ∀ e ∈ log, r.Quiet e k
  /-- A closing lasts. -/
  shut : ∀ a, stored = some a → ∀ e ∈ log, r.closes e k = true → a.closed = true
  /-- A closed account is not used. -/
  silent : log.Pairwise fun e e' => r.closes e k = true → r.spends e' k = false

theorem balanced_nil : Balanced r [] k none where
  account _ _ opened := absurd opened not_occurs_nil
  backed _ stored := by cases stored
  unknown _ _ mem := absurd mem List.not_mem_nil
  shut _ stored := by cases stored
  silent := .nil

namespace Balanced

/-- Without an account nothing was opened. -/
theorem not_opened (h : Balanced r log k none) : ¬ r.Opened log k owner budget := by
  intro opened
  obtain ⟨a, stored, _⟩ := h.account owner budget opened
  cases stored

/-- Without an account nothing was spent. -/
theorem uses_eq_zero (h : Balanced r log k none) : r.uses log k = 0 := by
  refine List.countP_eq_zero.mpr ?_
  intro e mem
  rw [(h.unknown rfl e mem).1]
  exact Bool.false_ne_true

/-- An account has one owner. -/
theorem owner_unique (h : Balanced r log k stored) {owner' : O} {budget' : Int}
    (opened : r.Opened log k owner budget) (opened' : r.Opened log k owner' budget') :
    owner = owner' := by
  obtain ⟨a, found, rfl, _⟩ := h.account owner budget opened
  obtain ⟨b, found', rfl, _⟩ := h.account owner' budget' opened'
  rw [found] at found'
  cases found'
  rfl

/-- The last entry may spend only from an account that is not closed. -/
theorem silent_concat (h : Balanced r log k stored)
    (last : r.spends e k = true → ∃ a, stored = some a ∧ a.closed = false) :
    (log ++ [e]).Pairwise fun e e' => r.closes e k = true → r.spends e' k = false := by
  refine List.pairwise_append.mpr ⟨h.silent, List.pairwise_singleton _ _, ?_⟩
  intro old mem new newMem closes
  rw [List.mem_singleton] at newMem
  subst newMem
  cases spends : r.spends new k with
  | false => rfl
  | true =>
      obtain ⟨a, found, usable⟩ := last spends
      rw [h.shut a found old mem closes] at usable
      cases usable

/-- A lawful entry keeps the account in balance. -/
theorem next (h : Balanced r log k stored) (move : Move r log e k stored stored') :
    Balanced r (log ++ [e]) k stored' := by
  cases move with
  | quiet opens quiet =>
      refine ⟨?_, ?_, ?_, ?_, h.silent_concat ?_⟩
      · intro owner budget opened
        rw [Reading.uses_concat_of_not_spends quiet.1]
        exact h.account owner budget
          ((Reading.opened_concat.mp opened).resolve_right (opens owner budget))
      · intro a found
        obtain ⟨budget, opened⟩ := h.backed a found
        exact ⟨budget, opened.append [e]⟩
      · intro none
        exact List.forall_mem_append.mpr
          ⟨h.unknown none, List.forall_mem_singleton.mpr quiet⟩
      · intro a found
        refine List.forall_mem_append.mpr ⟨h.shut a found, List.forall_mem_singleton.mpr ?_⟩
        intro closes
        rw [quiet.2] at closes
        cases closes
      · intro spends
        rw [quiet.1] at spends
        cases spends
  | @opened owner budget funded opens quiet =>
      refine ⟨?_, ?_, ?_, ?_, h.silent_concat ?_⟩
      · intro owner' budget' opened
        have now := (Reading.opened_concat.mp opened).resolve_left h.not_opened
        obtain ⟨rfl, rfl⟩ := (opens owner' budget').mp now
        rw [Reading.uses_concat_of_not_spends quiet.1, h.uses_eq_zero]
        exact ⟨_, rfl, rfl, by simp, funded⟩
      · rintro a ⟨⟩
        exact ⟨budget, Reading.opened_concat.mpr (.inr ((opens owner budget).mpr ⟨rfl, rfl⟩))⟩
      · rintro ⟨⟩
      · rintro a ⟨⟩
        refine List.forall_mem_append.mpr ⟨?_, List.forall_mem_singleton.mpr ?_⟩
        · intro old mem closes
          rw [(h.unknown rfl old mem).2] at closes
          cases closes
        · intro closes
          rw [quiet.2] at closes
          cases closes
      · intro spends
        rw [quiet.1] at spends
        cases spends
  | @spent a usable funds opens spends closes =>
      refine ⟨?_, ?_, ?_, ?_, h.silent_concat fun _ => ⟨a, rfl, usable⟩⟩
      · intro owner budget opened
        have past := (Reading.opened_concat.mp opened).resolve_right (opens owner budget)
        obtain ⟨b, found, sameOwner, balance, _⟩ := h.account owner budget past
        cases found
        refine ⟨_, rfl, sameOwner, ?_, by dsimp only; omega⟩
        rw [Reading.uses_concat_of_spends spends]
        dsimp only
        omega
      · rintro b ⟨⟩
        obtain ⟨budget, opened⟩ := h.backed a rfl
        exact ⟨budget, opened.append [e]⟩
      · rintro ⟨⟩
      · rintro b ⟨⟩
        refine List.forall_mem_append.mpr ⟨h.shut a rfl, List.forall_mem_singleton.mpr ?_⟩
        intro closing
        rw [closes] at closing
        cases closing
  | @closed a opens spends =>
      refine ⟨?_, ?_, ?_, ?_, h.silent_concat ?_⟩
      · intro owner budget opened
        have past := (Reading.opened_concat.mp opened).resolve_right (opens owner budget)
        obtain ⟨b, found, sameOwner, balance, rest⟩ := h.account owner budget past
        cases found
        rw [Reading.uses_concat_of_not_spends spends]
        exact ⟨_, rfl, sameOwner, balance, rest⟩
      · rintro b ⟨⟩
        obtain ⟨budget, opened⟩ := h.backed a rfl
        exact ⟨budget, opened.append [e]⟩
      · rintro ⟨⟩
      · rintro b ⟨⟩
        exact fun _ _ _ => rfl
      · intro spending
        rw [spends] at spending
        cases spending

end Balanced

end Ledger
