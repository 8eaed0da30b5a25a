import Mathlib.Data.List.Basic

/-!
# Runs of a machine that may stop

`next input s` is the state after one input, or `none` when the machine stops
there and consumes no further input.  `Along` lifts a property of single
inputs to every input that a run really reaches.
-/

namespace DeviceInfoPlugin
namespace InputRun

variable {ι σ : Type} {next : ι → σ → Option σ} {P : ι → σ → Prop}

/-- `P` holds at every input of the run, in the state the run feeds it. -/
def Along (next : ι → σ → Option σ) (P : ι → σ → Prop) :
    List ι → σ → Prop
  | [], _ => True
  | input :: rest, s =>
      P input s ∧ ∀ s', next input s = some s' → Along next P rest s'

theorem along_cons (input : ι) (rest : List ι) (s : σ) :
    Along next P (input :: rest) s ↔
      P input s ∧ ∀ s', next input s = some s' → Along next P rest s' :=
  Iff.rfl

def runInputs (next : ι → σ → Option σ) : List ι → σ → Option σ
  | [], s => some s
  | input :: rest, s => (next input s).bind (runInputs next rest)

/-- `Along` unfolded: whatever inputs come first, `P` holds at the next one in
the state they lead to. -/
theorem along_iff_forall_reached (inputs : List ι) (s : σ) :
    Along next P inputs s ↔
      ∀ before input after s',
        inputs = before ++ input :: after →
          runInputs next before s = some s' → P input s' := by
  induction inputs generalizing s with
  | nil => simp [Along]
  | cons first rest ih =>
      rw [along_cons]
      constructor
      · intro halong before input after s' hsplit hreach
        have hfirst := halong.1
        have hrest := halong.2
        cases before with
        | nil =>
            simp only [List.nil_append, List.cons.injEq] at hsplit
            simp only [runInputs, Option.some.injEq] at hreach
            rw [← hsplit.1, ← hreach]
            exact hfirst
        | cons head before =>
            simp only [List.cons_append, List.cons.injEq] at hsplit
            rw [← hsplit.1] at hreach
            simp only [runInputs, Option.bind_eq_some_iff] at hreach
            rcases hreach with ⟨middle, hmiddle, hreach⟩
            have hlater := (ih middle).mp (hrest middle hmiddle)
            exact hlater before input after s' hsplit.2 hreach
      · intro h
        constructor
        · exact h [] first rest s rfl rfl
        · intro middle hmiddle
          rw [ih middle]
          intro before input after s' hsplit hreach
          apply h (first :: before) input after s'
          · simp [hsplit]
          · simp [runInputs, hmiddle, hreach]

theorem runInputs_invariant {invariant : σ → Prop}
    (hnext : ∀ input s s', invariant s → next input s = some s' →
      invariant s')
    (inputs : List ι) {s s' : σ} (hs : invariant s)
    (hreach : runInputs next inputs s = some s') :
    invariant s' := by
  induction inputs generalizing s with
  | nil =>
      simp only [runInputs, Option.some.injEq] at hreach
      rwa [← hreach]
  | cons first rest ih =>
      simp only [runInputs, Option.bind_eq_some_iff] at hreach
      rcases hreach with ⟨middle, hmiddle, hreach⟩
      exact ih (hnext first s middle hs hmiddle) hreach

theorem along_of_invariant (invariant : σ → Prop)
    (hP : ∀ input s, invariant s → P input s)
    (hnext : ∀ input s s', invariant s → next input s = some s' →
      invariant s')
    (inputs : List ι) {s : σ} (hs : invariant s) :
    Along next P inputs s := by
  rw [along_iff_forall_reached]
  intro before input after s' _ hreach
  have hs' := runInputs_invariant hnext before hs hreach
  exact hP input s' hs'

/-- When an input shows `P` exactly if it is `good`, a run shows `P`
throughout exactly if all its inputs are good: a good input leads on inside
the invariant, and the first bad input is itself reached. -/
theorem along_iff_forall_good {good : ι → Prop} (invariant : σ → Prop)
    {inputs : List ι}
    (hP : ∀ input ∈ inputs, ∀ s, invariant s → (P input s ↔ good input))
    (hnext : ∀ input ∈ inputs, ∀ s, invariant s → good input →
      ∃ s', next input s = some s' ∧ invariant s')
    {s : σ} (hs : invariant s) :
    Along next P inputs s ↔ ∀ input ∈ inputs, good input := by
  induction inputs generalizing s with
  | nil => simp [Along]
  | cons first rest ih =>
      have hfirst := hP first List.mem_cons_self s hs
      have hrest : ∀ s', invariant s' →
          (Along next P rest s' ↔ ∀ input ∈ rest, good input) := by
        intro s'
        apply ih
        · intro input hinput
          exact hP input (List.mem_cons_of_mem _ hinput)
        · intro input hinput
          exact hnext input (List.mem_cons_of_mem _ hinput)
      rw [along_cons, hfirst, List.forall_mem_cons]
      apply and_congr_right
      intro hgood
      obtain ⟨s', hstep, hs'⟩ := hnext first List.mem_cons_self s hs hgood
      rw [hstep, ← hrest s' hs']
      constructor
      · intro h
        exact h s' rfl
      · intro h s'' hs''
        rwa [← Option.some.inj hs'']

end InputRun
end DeviceInfoPlugin
