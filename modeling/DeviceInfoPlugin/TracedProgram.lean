import Mathlib.Data.List.Basic

/-!
# Programs that leave a trace

A program acts on a state, records observations as it goes, and either returns
a value or is cut short by an exception.  The state and the trace survive an
exception, as the variables of an imperative caller do.  What to observe is
left to the user: the calls made to an unreliable callee together with their
answers, or the state after every statement.

The second half is a weakest-precondition calculus.  Its rules are
equivalences, so a straight-line program is executed by rewriting with them.
-/

namespace DeviceInfoPlugin
namespace Traced

variable {τ ε σ α β : Type}

structure Outcome (τ ε σ α : Type) where
  trace : List τ
  result : Except ε α
  state : σ

def Outcome.after (earlier : List τ) (outcome : Outcome τ ε σ α) :
    Outcome τ ε σ α :=
  { outcome with trace := earlier ++ outcome.trace }

def Program (τ ε σ α : Type) := σ → Outcome τ ε σ α

namespace Program

def andThen (first : Program τ ε σ α) (second : α → Program τ ε σ β) :
    Program τ ε σ β :=
  fun s =>
    match first s with
    | ⟨trace, .ok a, s'⟩ => (second a s').after trace
    | ⟨trace, .error e, s'⟩ => ⟨trace, .error e, s'⟩

instance : Monad (Program τ ε σ) where
  pure a := fun s => ⟨[], .ok a, s⟩
  bind := andThen

def current : Program τ ε σ σ :=
  fun s => ⟨[], .ok s, s⟩

def assign (update : σ → σ) : Program τ ε σ Unit :=
  fun s => ⟨[], .ok (), update s⟩

def raise (e : ε) : Program τ ε σ α :=
  fun s => ⟨[], .error e, s⟩

def observe (event : τ) : Program τ ε σ Unit :=
  fun s => ⟨[event], .ok (), s⟩

/-- `handler e` is `none` for an exception that is not caught here. -/
def guarded (body : Program τ ε σ α)
    (handler : ε → Option (Program τ ε σ α)) : Program τ ε σ α :=
  fun s =>
    match body s with
    | ⟨trace, .ok a, s'⟩ => ⟨trace, .ok a, s'⟩
    | ⟨trace, .error e, s'⟩ =>
        match handler e with
        | some recovery => (recovery s').after trace
        | none => ⟨trace, .error e, s'⟩

def forEach (body : α → Program τ ε σ Unit) : List α → Program τ ε σ Unit
  | [] => pure ()
  | a :: rest => do
      body a
      forEach body rest

end Program

theorem state_bind (first : Program τ ε σ α) (second : α → Program τ ε σ β)
    (s : σ) :
    ((first >>= second) s).state =
      match (first s).result with
      | .ok a => (second a (first s).state).state
      | .error _ => (first s).state := by
  change (first.andThen second s).state = _
  unfold Program.andThen
  rcases first s with ⟨trace, result, s'⟩
  cases result <;> rfl

theorem trace_bind (first : Program τ ε σ α) (second : α → Program τ ε σ β)
    (s : σ) :
    ((first >>= second) s).trace =
      (first s).trace ++
        match (first s).result with
        | .ok a => (second a (first s).state).trace
        | .error _ => [] := by
  change (first.andThen second s).trace = _
  unfold Program.andThen
  rcases first s with ⟨trace, result, s'⟩
  cases result with
  | ok a => rfl
  | error e => simp

/-- What a program leaves behind that begins as another one does after some
earlier observations. -/
theorem bind_after {first first' : Program τ ε σ α}
    (second : α → Program τ ε σ β) {s s' : σ} {earlier : List τ}
    (hfirst : first s = (first' s').after earlier) :
    (first >>= second) s = ((first' >>= second) s').after earlier := by
  change first.andThen second s = (first'.andThen second s').after earlier
  unfold Program.andThen
  rw [hfirst]
  rcases first' s' with ⟨trace, result, t⟩
  cases result with
  | ok a => simp [Outcome.after]
  | error e => rfl

theorem guarded_after {body body' : Program τ ε σ α}
    (handler : ε → Option (Program τ ε σ α)) {s s' : σ} {earlier : List τ}
    (hbody : body s = (body' s').after earlier) :
    body.guarded handler s = (body'.guarded handler s').after earlier := by
  unfold Program.guarded
  rw [hbody]
  rcases body' s' with ⟨trace, result, t⟩
  cases result with
  | ok a => rfl
  | error e =>
      simp only [Outcome.after]
      cases handler e with
      | none => rfl
      | some recovery => simp

/-! ## Weakest preconditions -/

/-- Started in `s`, the program ends in a state that satisfies `returned` or,
when cut short, `raised`; both also speak about the trace left by the run. -/
def Wp (program : Program τ ε σ α)
    (returned : α → List τ → σ → Prop) (raised : ε → List τ → σ → Prop)
    (s : σ) : Prop :=
  match (program s).result with
  | .ok a => returned a (program s).trace (program s).state
  | .error e => raised e (program s).trace (program s).state

section Rules

variable {returned : α → List τ → σ → Prop} {raised : ε → List τ → σ → Prop}
  {s : σ}

@[simp] theorem wp_pure (a : α) :
    Wp (pure a : Program τ ε σ α) returned raised s ↔ returned a [] s := Iff.rfl

@[simp] theorem wp_current {returned : σ → List τ → σ → Prop} :
    Wp (Program.current : Program τ ε σ σ) returned raised s ↔
      returned s [] s := Iff.rfl

@[simp] theorem wp_assign {returned : Unit → List τ → σ → Prop}
    (update : σ → σ) :
    Wp (Program.assign update : Program τ ε σ Unit) returned raised s ↔
      returned () [] (update s) := Iff.rfl

@[simp] theorem wp_raise (e : ε) :
    Wp (Program.raise e : Program τ ε σ α) returned raised s ↔
      raised e [] s := Iff.rfl

@[simp] theorem wp_observe {returned : Unit → List τ → σ → Prop} (event : τ) :
    Wp (Program.observe event : Program τ ε σ Unit) returned raised s ↔
      returned () [event] s := Iff.rfl

@[simp] theorem wp_bind (first : Program τ ε σ β)
    (second : β → Program τ ε σ α) :
    Wp (first >>= second) returned raised s ↔
      Wp first
        (fun b trace s' =>
          Wp (second b)
            (fun a later => returned a (trace ++ later))
            (fun e later => raised e (trace ++ later)) s')
        raised s := by
  change Wp (first.andThen second) returned raised s ↔ _
  rcases hfirst : first s with ⟨trace, result, s'⟩
  cases result with
  | error e => simp [Wp, Program.andThen, hfirst]
  | ok b =>
      rcases hsecond : second b s' with ⟨later, result, s''⟩
      cases result <;>
        simp [Wp, Program.andThen, Outcome.after, hfirst, hsecond]

theorem wp_guarded (body : Program τ ε σ α)
    (handler : ε → Option (Program τ ε σ α)) :
    Wp (body.guarded handler) returned raised s ↔
      Wp body returned
        (fun e trace s' =>
          match handler e with
          | some recovery =>
              Wp recovery
                (fun a later => returned a (trace ++ later))
                (fun e' later => raised e' (trace ++ later)) s'
          | none => raised e trace s') s := by
  rcases hbody : body s with ⟨trace, result, s'⟩
  cases result with
  | ok a => simp [Wp, Program.guarded, hbody]
  | error e =>
      cases hcaught : handler e with
      | none => simp [Wp, Program.guarded, hbody, hcaught]
      | some recovery =>
          rcases hrecovery : recovery s' with ⟨later, result, s''⟩
          cases result <;>
            simp [Wp, Program.guarded, Outcome.after, hbody, hcaught,
              hrecovery]

theorem Wp.mono {program : Program τ ε σ α}
    {returned' : α → List τ → σ → Prop} {raised' : ε → List τ → σ → Prop}
    (hwp : Wp program returned raised s)
    (hreturned : ∀ a trace s', returned a trace s' → returned' a trace s')
    (hraised : ∀ e trace s', raised e trace s' → raised' e trace s') :
    Wp program returned' raised' s := by
  unfold Wp at hwp ⊢
  cases hresult : (program s).result with
  | ok a =>
      rw [hresult] at hwp
      exact hreturned _ _ _ hwp
  | error e =>
      rw [hresult] at hwp
      exact hraised _ _ _ hwp

theorem Wp.returns {program : Program τ ε σ α}
    (hwp : Wp program returned (fun _ _ _ => False) s) :
    ∃ a, (program s).result = .ok a ∧
      returned a (program s).trace (program s).state := by
  unfold Wp at hwp
  cases hresult : (program s).result with
  | ok a =>
      rw [hresult] at hwp
      exact ⟨a, rfl, hwp⟩
  | error e =>
      rw [hresult] at hwp
      exact hwp.elim

theorem Wp.of_ok {program : Program τ ε σ α} {a : α}
    (hwp : Wp program returned raised s)
    (hresult : (program s).result = .ok a) :
    returned a (program s).trace (program s).state := by
  unfold Wp at hwp
  rwa [hresult] at hwp

theorem Wp.of_error {program : Program τ ε σ α} {e : ε}
    (hwp : Wp program returned raised s)
    (hresult : (program s).result = .error e) :
    raised e (program s).trace (program s).state := by
  unfold Wp at hwp
  rwa [hresult] at hwp

theorem Wp.final {program : Program τ ε σ α} {Q : σ → Prop}
    (hwp : Wp program (fun _ _ => Q) (fun _ _ => Q) s) :
    Q (program s).state := by
  cases hresult : (program s).result with
  | ok a => exact hwp.of_ok hresult
  | error e => exact hwp.of_error hresult

theorem wp_and_const {program : Program τ ε σ α} (p : Prop) :
    Wp program (fun a trace s' => p ∧ returned a trace s')
        (fun e trace s' => p ∧ raised e trace s') s ↔
      p ∧ Wp program returned raised s := by
  unfold Wp
  cases (program s).result <;> rfl

end Rules

/-! ## Properties of every observation -/

section Always

variable {Q : τ → Prop} {s : σ}

/-- Every observation of the run satisfies `Q`, whether it returns or is cut
short, and a run that returns ends in `post`. -/
def Always (Q : τ → Prop) (program : Program τ ε σ α) (post : α → σ → Prop)
    (s : σ) : Prop :=
  Wp program (fun a trace s' => (∀ x ∈ trace, Q x) ∧ post a s')
    (fun _ trace _ => ∀ x ∈ trace, Q x) s

@[simp] theorem always_pure (a : α) (post : α → σ → Prop) :
    Always Q (pure a : Program τ ε σ α) post s ↔ post a s := by
  simp [Always]

@[simp] theorem always_current (post : σ → σ → Prop) :
    Always Q (Program.current : Program τ ε σ σ) post s ↔ post s s := by
  simp [Always]

@[simp] theorem always_bind (first : Program τ ε σ β)
    (second : β → Program τ ε σ α) (post : α → σ → Prop) :
    Always Q (first >>= second) post s ↔
      Always Q first (fun b s' => Always Q (second b) post s') s := by
  simp only [Always, wp_bind, List.mem_append, or_imp, forall_and, and_assoc,
    wp_and_const]

theorem Always.mono {program : Program τ ε σ α} {post post' : α → σ → Prop}
    (halways : Always Q program post s)
    (hpost : ∀ a s', post a s' → post' a s') :
    Always Q program post' s := by
  apply Wp.mono halways
  · intro a trace s' h
    exact ⟨h.1, hpost a s' h.2⟩
  · intro e trace s' h
    exact h

theorem Always.trace {program : Program τ ε σ α} {post : α → σ → Prop}
    (halways : Always Q program post s) :
    ∀ x ∈ (program s).trace, Q x := by
  cases hresult : (program s).result with
  | ok a => exact (halways.of_ok hresult).1
  | error e => exact halways.of_error hresult

/-- A state invariant that every iteration restores carries `Q` through a
whole loop, also when the loop is cut short. -/
theorem always_forEach {body : β → Program τ ε σ Unit} {invariant : σ → Prop}
    (hbody : ∀ b s, invariant s →
      Always Q (body b) (fun _ s' => invariant s') s)
    (xs : List β) (hs : invariant s) :
    Always Q (Program.forEach body xs) (fun _ s' => invariant s') s := by
  induction xs generalizing s with
  | nil => simpa [Program.forEach] using hs
  | cons b rest ih =>
      have hfirst := hbody b s hs
      rw [Program.forEach, always_bind]
      apply hfirst.mono
      intro _ s' hs'
      exact ih hs'

end Always

end Traced
end DeviceInfoPlugin
