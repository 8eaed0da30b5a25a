import DeviceInfoPlugin.TracedProgram
import Mathlib.Data.List.Forall2

/-!
# Two runs side by side

What can be said of one program started in two states.  The programs differ
in the rules, since what one has read makes the rest of the other a different
program; they are still to leave traces of the same length.
-/

namespace DeviceInfoPlugin
namespace Traced

variable {τ ε σ α β : Type}

/-- The traces agree entry by entry, and both runs return, with `post` of what
they return and of the states they end in, or both are cut short by the same
exception. -/
def Paired (agree : τ → τ → Prop) (left right : Program τ ε σ α)
    (post : α → α → σ → σ → Prop) (s s' : σ) : Prop :=
  List.Forall₂ agree (left s).trace (right s').trace ∧
    match (left s).result, (right s').result with
    | .ok a, .ok a' => post a a' (left s).state (right s').state
    | .error e, .error e' => e = e'
    | .ok _, .error _ => False
    | .error _, .ok _ => False

section Rules

variable {agree : τ → τ → Prop} {s s' : σ}

@[simp] theorem paired_pure {post : α → α → σ → σ → Prop} (a a' : α) :
    Paired agree (pure a : Program τ ε σ α) (pure a') post s s' ↔
      post a a' s s' := by
  constructor
  · intro hpaired
    exact hpaired.2
  · intro hpost
    exact ⟨.nil, hpost⟩

@[simp] theorem paired_current {post : σ → σ → σ → σ → Prop} :
    Paired agree (Program.current : Program τ ε σ σ) .current post s s' ↔
      post s s' s s' := by
  constructor
  · intro hpaired
    exact hpaired.2
  · intro hpost
    exact ⟨.nil, hpost⟩

@[simp] theorem paired_raise {post : α → α → σ → σ → Prop} (e : ε) :
    Paired agree (Program.raise e : Program τ ε σ α) (.raise e) post s s' :=
  ⟨.nil, rfl⟩

theorem Paired.bind {left right : Program τ ε σ β}
    {left' right' : β → Program τ ε σ α}
    {middle : β → β → σ → σ → Prop} {post : α → α → σ → σ → Prop}
    (hfirst : Paired agree left right middle s s')
    (hsecond : ∀ b b' t t', middle b b' t t' →
      Paired agree (left' b) (right' b') post t t') :
    Paired agree (left >>= left') (right >>= right') post s s' := by
  change Paired agree (left.andThen left') (right.andThen right') post s s'
  unfold Paired Program.andThen at *
  rcases hleft : left s with ⟨trace, result, t⟩
  rcases hright : right s' with ⟨trace', result', t'⟩
  rw [hleft, hright] at hfirst
  rcases hfirst with ⟨htrace, hended⟩
  cases result with
  | ok b =>
      cases result' with
      | ok b' =>
          obtain ⟨htrace', hended'⟩ := hsecond b b' t t' hended
          exact ⟨List.rel_append htrace htrace', hended'⟩
      | error e' => exact hended.elim
  | error e =>
      cases result' with
      | ok b' => exact hended.elim
      | error e' => exact ⟨htrace, hended⟩

theorem Paired.pure_bind {left right : β → Program τ ε σ α}
    {post : α → α → σ → σ → Prop} {b b' : β}
    (hrest : Paired agree (left b) (right b') post s s') :
    Paired agree (pure b >>= left) (pure b' >>= right) post s s' :=
  hrest

/-- What is to hold at the end may use that these are the ends of the two
runs. -/
theorem Paired.mono {left right : Program τ ε σ α}
    {post post' : α → α → σ → σ → Prop}
    (hpaired : Paired agree left right post s s')
    (hpost : ∀ a a', (left s).result = .ok a → (right s').result = .ok a' →
      post a a' (left s).state (right s').state →
      post' a a' (left s).state (right s').state) :
    Paired agree left right post' s s' := by
  refine ⟨hpaired.1, ?_⟩
  have hended := hpaired.2
  cases hleft : (left s).result with
  | ok a =>
      cases hright : (right s').result with
      | ok a' =>
          rw [hleft, hright] at hended
          exact hpost a a' hleft hright hended
      | error e' => simp [hleft, hright] at hended
  | error e =>
      cases hright : (right s').result with
      | ok a' => simp [hleft, hright] at hended
      | error e' => simpa [hleft, hright] using hended

/-- A loop over the same list keeps what each of its steps keeps. -/
theorem paired_forEach {body : β → Program τ ε σ Unit}
    {invariant : σ → σ → Prop} (xs : List β)
    (hbody : ∀ b ∈ xs, ∀ t t', invariant t t' →
      Paired agree (body b) (body b) (fun _ _ => invariant) t t')
    (hinvariant : invariant s s') :
    Paired agree (Program.forEach body xs) (Program.forEach body xs)
      (fun _ _ => invariant) s s' := by
  induction xs generalizing s s' with
  | nil => exact (paired_pure () ()).mpr hinvariant
  | cons b rest ih =>
      have hfirst := hbody b List.mem_cons_self s s' hinvariant
      apply hfirst.bind
      intro _ _ t t' ht
      apply ih ?_ ht
      intro b' hb'
      exact hbody b' (List.mem_cons_of_mem _ hb')

end Rules

end Traced
end DeviceInfoPlugin
