import Mathlib.Data.List.Count

/-!
# Ledgers of counted references

A client of reference-counted objects acquires and releases references; the
ledger records both in order.  `Holds` is the question whether a reference may
still be used, `ReturnedOnce` the bookkeeping of a pair of phases in which the
second gives back what the first has taken, and `balance` how many references
of a kind are still held.
-/

namespace DeviceInfoPlugin
namespace ReferenceLedger

variable {ρ : Type}

inductive Entry (ρ : Type) where
  | acquired (reference : ρ)
  | released (reference : ρ)
  deriving DecidableEq, Repr

abbrev Ledger (ρ : Type) := List (Entry ρ)

/-- The reference was acquired and has not been released since. -/
def Holds (ledger : Ledger ρ) (reference : ρ) : Prop :=
  ∃ before after, ledger = before ++ .acquired reference :: after ∧
    .released reference ∉ after

theorem holds_acquired (ledger : Ledger ρ) (reference : ρ) :
    Holds (ledger ++ [.acquired reference]) reference := by
  have hafter : Entry.released reference ∉ ([] : Ledger ρ) := by simp
  exact ⟨ledger, [], rfl, hafter⟩

theorem Holds.append {ledger : Ledger ρ} {reference : ρ}
    (hholds : Holds ledger reference) {later : Ledger ρ}
    (hkept : .released reference ∉ later) :
    Holds (ledger ++ later) reference := by
  rcases hholds with ⟨before, after, hsplit, hafter⟩
  have hlater : ledger ++ later =
      before ++ .acquired reference :: (after ++ later) := by
    simp [hsplit]
  have hnone : Entry.released reference ∉ after ++ later := by
    simp [hafter, hkept]
  exact ⟨before, after ++ later, hlater, hnone⟩

theorem not_holds_released (ledger : Ledger ρ) (reference : ρ) :
    ¬ Holds (ledger ++ [.released reference]) reference := by
  intro hholds
  rcases hholds with ⟨before, after, hsplit, hafter⟩
  rcases List.eq_nil_or_concat after with rfl | ⟨init, last, rfl⟩
  · have hlast := (List.append_inj' hsplit rfl).2
    simp at hlast
  · have hconcat : ledger ++ [Entry.released reference] =
        (before ++ .acquired reference :: init) ++ [last] := by
      simpa using hsplit
    have hlast := (List.append_inj' hconcat rfl).2
    simp only [List.cons.injEq, and_true] at hlast
    exact hafter (by simp [hlast])

section ReturnedOnce

variable [DecidableEq ρ]

def acquisitions (ledger : Ledger ρ) (reference : ρ) : ℕ :=
  ledger.count (.acquired reference)

def releases (ledger : Ledger ρ) (reference : ρ) : ℕ :=
  ledger.count (.released reference)

/-- Every reference in `taken` was acquired there once and released once by
the end of `given`. -/
def ReturnedOnce (taken given : Ledger ρ) : Prop :=
  ∀ reference, .acquired reference ∈ taken →
    acquisitions taken reference = 1 ∧
      releases (taken ++ given) reference = 1

end ReturnedOnce

section Balance

def Entry.change (counted : ρ → Bool) : Entry ρ → Int
  | acquired reference => if counted reference then 1 else 0
  | released reference => if counted reference then -1 else 0

/-- The counted references acquired, less those released. -/
def balance (counted : ρ → Bool) : Ledger ρ → Int
  | [] => 0
  | entry :: ledger => entry.change counted + balance counted ledger

@[simp] theorem balance_nil (counted : ρ → Bool) :
    balance counted [] = 0 := rfl

@[simp] theorem balance_cons (counted : ρ → Bool) (entry : Entry ρ)
    (ledger : Ledger ρ) :
    balance counted (entry :: ledger) =
      entry.change counted + balance counted ledger := rfl

end Balance

end ReferenceLedger
end DeviceInfoPlugin
