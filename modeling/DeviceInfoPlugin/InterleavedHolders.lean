import DeviceInfoPlugin.CountedObjects
import DeviceInfoPlugin.InputRun
import Mathlib.Algebra.BigOperators.Group.List.Basic
import Mathlib.Logic.Relation

/-!
# A program and other holders on one heap

The program is a list of labels with an effect each.  Before every one of its
calls the other holders may take a reference on any object that is there and
give back what they hold.  A program that is disciplined on its own account is
safe in every such interleaving, and its account ends the same in all of them.
-/

namespace DeviceInfoPlugin
namespace CountedObjects

open InputRun
open Relation

variable {α ο κ : Type} [DecidableEq ο] [DecidableEq κ]

structure System (α ο κ : Type) where
  program : List α
  heap : Heap ο κ
  account : Account ο κ
  others : ο → ℕ

def System.start (program : List α) : System α ο κ :=
  ⟨program, .empty, .empty, fun _ => 0⟩

inductive Step (effect : α → Call ο κ) : System α ο κ → System α ο κ → Prop
  | call {label : α} {rest : List α} {heap heap' : Heap ο κ}
      {account : Account ο κ} {others : ο → ℕ}
      (hperform : heap.perform (effect label) = some heap') :
      Step effect ⟨label :: rest, heap, account, others⟩
        ⟨rest, heap', account.after (effect label), others⟩
  | join {program : List α} {heap heap' : Heap ο κ} {account : Account ο κ}
      {others : ο → ℕ} {object : ο}
      (hperform : heap.perform (.addRef object) = some heap') :
      Step effect ⟨program, heap, account, others⟩
        ⟨program, heap', account,
          Function.update others object (others object + 1)⟩
  | leave {program : List α} {heap heap' : Heap ο κ} {account : Account ο κ}
      {others : ο → ℕ} {object : ο} (hholds : 0 < others object)
      (hperform : heap.perform (.release object) = some heap') :
      Step effect ⟨program, heap, account, others⟩
        ⟨program, heap', account,
          Function.update others object (others object - 1)⟩

abbrev Reaches (effect : α → Call ο κ) :
    System α ο κ → System α ο κ → Prop :=
  ReflTransGen (Step effect)

/-- A choice of who moves next. -/
inductive Move (ο : Type) where
  | call
  | join (object : ο)
  | leave (object : ο)
  deriving DecidableEq, Repr

def System.play (effect : α → Call ο κ) (move : Move ο)
    (system : System α ο κ) : Option (System α ο κ) :=
  match move with
  | .call =>
      match system.program with
      | [] => none
      | label :: rest =>
          (system.heap.perform (effect label)).map fun heap =>
            { system with
              program := rest
              heap
              account := system.account.after (effect label) }
  | .join object =>
      (system.heap.perform (.addRef object)).map fun heap =>
        { system with
          heap
          others := Function.update system.others object
            (system.others object + 1) }
  | .leave object =>
      if 0 < system.others object then
        (system.heap.perform (.release object)).map fun heap =>
          { system with
            heap
            others := Function.update system.others object
              (system.others object - 1) }
      else none

theorem step_of_play {effect : α → Call ο κ} {move : Move ο}
    {system system' : System α ο κ}
    (hplay : system.play effect move = some system') :
    Step effect system system' := by
  rcases system with ⟨program, heap, account, others⟩
  cases move with
  | call =>
      cases program with
      | nil => simp [System.play] at hplay
      | cons label rest =>
          simp only [System.play, Option.map_eq_some_iff] at hplay
          rcases hplay with ⟨heap', hperform, rfl⟩
          exact .call hperform
  | join object =>
      simp only [System.play, Option.map_eq_some_iff] at hplay
      rcases hplay with ⟨heap', hperform, rfl⟩
      exact .join hperform
  | leave object =>
      unfold System.play at hplay
      dsimp only at hplay
      split at hplay
      next hholds =>
        simp only [Option.map_eq_some_iff] at hplay
        rcases hplay with ⟨heap', hperform, rfl⟩
        exact .leave hholds hperform
      next => contradiction

theorem reaches_of_runInputs (effect : α → Call ο κ)
    (system : System α ο κ) {system' : System α ο κ} (moves : List (Move ο))
    (hplayed : runInputs (System.play effect) moves system = some system') :
    Reaches effect system system' := by
  induction moves generalizing system with
  | nil =>
      rw [← Option.some.inj hplayed]
  | cons move rest ih =>
      simp only [runInputs, Option.bind_eq_some_iff] at hplayed
      rcases hplayed with ⟨middle, hplay, hplayed⟩
      exact .head (step_of_play hplay) (ih middle hplayed)

section Calls

variable {heap heap' : Heap ο κ} {account : Account ο κ} {others : ο → ℕ}

theorem Accounted.create (haccounted : Accounted heap account others)
    {object : ο} (hperform : heap.perform (.create object) = some heap') :
    account.held object = 0 ∧
      Accounted heap' (account.after (.create object)) others := by
  have hgone : heap.count object = 0 := by
    by_contra hthere
    simp [Heap.perform, hthere] at hperform
  have hcount := haccounted.count object
  have hnone : heap.kept object = none := by
    by_contra hkept
    have halive := haccounted.alive object hkept
    omega
  simp only [Heap.perform, hgone, if_true, Option.some.injEq] at hperform
  have hkeepers : ∀ resource, heap'.keepers resource = heap.keepers resource := by
    intro resource
    rw [← hperform, keepers_update_none,
      Set.sdiff_singleton_eq_self (notMem_keepers hnone resource)]
  refine ⟨by omega, ?_⟩
  constructor
  · intro x
    have hx := haccounted.count x
    by_cases heq : x = object
    · subst heq
      simp [← hperform, Account.after]
      omega
    · simpa [← hperform, Account.after, heq] using hx
  · intro resource
    rw [hkeepers, ← hperform]
    exact haccounted.resource resource
  · intro resource
    rw [hkeepers]
    exact haccounted.finite resource
  · intro x hx
    rw [← hperform] at hx ⊢
    by_cases heq : x = object
    · simp [heq] at hx
    · simp only [Function.update_of_ne heq] at hx ⊢
      exact haccounted.alive x hx
  · intro x hx
    rw [← hperform]
    by_cases heq : x = object
    · simp [heq, Account.after]
    · simp only [Account.after, Function.update_of_ne heq] at hx ⊢
      exact haccounted.given x hx

/-- A reference added by anybody. -/
theorem Accounted.addRef (haccounted : Accounted heap account others)
    {object : ο} (hperform : heap.perform (.addRef object) = some heap')
    {held : ο → ℕ} {others' : ο → ℕ}
    (hcount : ∀ x, held x + others' x =
      Function.update heap.count object (heap.count object + 1) x)
    (hgiven : ∀ x, 0 < held x → heap.kept x = account.given x) :
    Accounted heap' { account with held } others' := by
  have hthere : heap.count object ≠ 0 := by
    intro hgone
    simp [Heap.perform, hgone] at hperform
  simp only [Heap.perform, hthere, if_false, Option.some.injEq] at hperform
  constructor
  · intro x
    rw [← hperform, hcount]
  · intro resource
    rw [← hperform]
    exact haccounted.resource resource
  · intro resource
    rw [← hperform]
    exact haccounted.finite resource
  · intro x hx
    rw [← hperform] at hx ⊢
    have halive := haccounted.alive x hx
    by_cases heq : x = object
    · simp [heq]
    · simpa [heq] using halive
  · intro x hx
    rw [← hperform]
    exact hgiven x hx

theorem Accounted.keep (haccounted : Accounted heap account others)
    {object : ο} {resource : κ} (hheld : 0 < account.held object)
    (hnone : account.given object = none)
    (hperform : heap.perform (.keep object resource) = some heap') :
    Accounted heap' (account.after (.keep object resource)) others := by
  have hcount := haccounted.count object
  have hthere : heap.count object ≠ 0 := by omega
  have hkept : heap.kept object = none := by
    rw [haccounted.given object hheld, hnone]
  simp only [Heap.perform, hthere, if_false, Option.some.injEq] at hperform
  have hkeepers : ∀ other, heap'.keepers other =
      if other = resource then insert object (heap.keepers other)
      else heap.keepers other := by
    intro other
    rw [← hperform, keepers_update_some hkept]
  constructor
  · intro x
    rw [← hperform]
    exact haccounted.count x
  · intro other
    have hother := haccounted.resource other
    rw [hkeepers, ← hperform]
    by_cases heq : other = resource
    · subst heq
      have hmore := Set.ncard_insert_of_notMem (notMem_keepers hkept other)
        (haccounted.finite other)
      simp only [Function.update_self, if_true, hmore, Account.after]
      omega
    · simpa [heq, Account.after] using hother
  · intro other
    rw [hkeepers]
    split
    · exact (haccounted.finite other).insert object
    · exact haccounted.finite other
  · intro x hx
    rw [← hperform] at hx ⊢
    by_cases heq : x = object
    · rw [heq]
      dsimp only
      omega
    · simp only [Function.update_of_ne heq] at hx
      exact haccounted.alive x hx
  · intro x hx
    rw [← hperform]
    by_cases heq : x = object
    · simp [heq, Account.after]
    · simpa [Account.after, heq] using haccounted.given x hx

/-- An allowed call that succeeds was fresh, and the books are right again. -/
theorem Accounted.after (haccounted : Accounted heap account others)
    {call : Call ο κ} (hallows : account.Allows call)
    (hperform : heap.perform call = some heap') :
    account.Fresh call ∧ Accounted heap' (account.after call) others := by
  cases call with
  | create object => exact haccounted.create hperform
  | addRef object =>
      have hcount := haccounted.count object
      refine ⟨trivial, haccounted.addRef hperform (haccounted.moved ?_ ?_) ?_⟩
      · simp only [Function.update_self]
        omega
      · intro x hx
        simp [hx]
      · intro x hx
        by_cases heq : x = object
        · subst heq
          exact haccounted.given x hallows
        · simp only [Function.update_of_ne heq] at hx
          exact haccounted.given x hx
  | release object =>
      have hcount := haccounted.count object
      have hheld : 0 < account.held object := hallows
      refine ⟨trivial, haccounted.release hperform (haccounted.moved ?_ ?_) ?_⟩
      · simp only [Function.update_self]
        omega
      · intro x hx
        simp [hx]
      · intro x
        by_cases heq : x = object
        · subst heq
          simp
        · simp [heq]
  | keep object resource =>
      exact ⟨trivial, haccounted.keep hallows.1 hallows.2 hperform⟩
  | addRefResource resource =>
      simp only [Heap.perform, Option.some.injEq] at hperform
      rw [← hperform]
      refine ⟨trivial, haccounted.recount ?_⟩
      intro other
      by_cases heq : other = resource
      · subst heq
        simp only [Function.update_self]
        omega
      · simp [heq]
  | releaseResource resource =>
      have hheld : 0 < account.resourceHeld resource := hallows
      have hcount := haccounted.resource resource
      have henough : heap.resourceCount resource ≠ 0 := by omega
      simp only [Heap.perform, Heap.releaseResource, henough, if_false,
        Option.some.injEq] at hperform
      rw [← hperform]
      refine ⟨trivial, haccounted.recount ?_⟩
      intro other
      by_cases heq : other = resource
      · subst heq
        simp only [Function.update_self]
        omega
      · simp [heq]
  | other =>
      simp only [Heap.perform, Option.some.injEq] at hperform
      subst hperform
      exact ⟨trivial, haccounted⟩

/-- An allowed call succeeds, unless it creates where an object still is. -/
theorem Accounted.exists_perform (haccounted : Accounted heap account others)
    {call : Call ο κ} (hallows : account.Allows call)
    (hfree : ∀ object, call = .create object → heap.count object = 0) :
    ∃ heap', heap.perform call = some heap' := by
  cases call with
  | create object => simp [Heap.perform, hfree object rfl]
  | addRef object =>
      have hcount := haccounted.count object
      have hheld : 0 < account.held object := hallows
      have hthere : heap.count object ≠ 0 := by omega
      simp [Heap.perform, hthere]
  | release object =>
      have hcount := haccounted.count object
      have hheld : 0 < account.held object := hallows
      obtain ⟨heap', hperform, _⟩ :=
        haccounted.exists_release object (by omega)
      exact ⟨heap', hperform⟩
  | keep object resource =>
      have hcount := haccounted.count object
      have hheld := hallows.1
      have hthere : heap.count object ≠ 0 := by omega
      simp [Heap.perform, hthere]
  | addRefResource resource => exact ⟨_, rfl⟩
  | releaseResource resource =>
      have hcount := haccounted.resource resource
      have hheld : 0 < account.resourceHeld resource := hallows
      have henough : heap.resourceCount resource ≠ 0 := by omega
      simp [Heap.perform, Heap.releaseResource, henough]
  | other => exact ⟨heap, rfl⟩

theorem Accounted.join (haccounted : Accounted heap account others)
    {object : ο} (hperform : heap.perform (.addRef object) = some heap') :
    Accounted heap' account
      (Function.update others object (others object + 1)) := by
  have hcount := haccounted.count object
  apply haccounted.addRef hperform (haccounted.moved ?_ ?_) haccounted.given
  · simp only [Function.update_self]
    omega
  · intro x hx
    simp [hx]

theorem Accounted.leave (haccounted : Accounted heap account others)
    {object : ο} (hholds : 0 < others object)
    (hperform : heap.perform (.release object) = some heap') :
    Accounted heap' account
      (Function.update others object (others object - 1)) := by
  have hcount := haccounted.count object
  apply haccounted.release hperform (haccounted.moved ?_ ?_) fun _ => le_refl _
  · simp only [Function.update_self]
    omega
  · intro x hx
    simp [hx]

end Calls

/-! ## Balances -/

def Call.objectChange (x : ο) : Call ο κ → ℤ
  | .create object | .addRef object => if x = object then 1 else 0
  | .release object => if x = object then -1 else 0
  | _ => 0

def Call.resourceChange (x : κ) : Call ο κ → ℤ
  | .addRefResource resource => if x = resource then 1 else 0
  | .releaseResource resource => if x = resource then -1 else 0
  | _ => 0

theorem Account.held_after_of_allows {call : Call ο κ} {account : Account ο κ}
    (hallows : account.Allows call) (x : ο) :
    ((account.after call).held x : ℤ) =
      account.held x + call.objectChange x := by
  rw [Account.held_after]
  cases call with
  | release object =>
      have hheld : 0 < account.held object := hallows
      by_cases heq : x = object
      · subst heq
        simp only [Call.objectChange, if_true]
        omega
      · simp [Call.objectChange, heq]
  | create object | addRef object =>
      by_cases heq : x = object <;> simp [Call.objectChange, heq]
  | _ => simp [Call.objectChange]

theorem Account.resourceHeld_after_of_allows {call : Call ο κ}
    {account : Account ο κ} (hallows : account.Allows call) (x : κ) :
    ((account.after call).resourceHeld x : ℤ) =
      account.resourceHeld x + call.resourceChange x := by
  rw [Account.resourceHeld_after]
  cases call with
  | releaseResource resource =>
      have hheld : 0 < account.resourceHeld resource := hallows
      by_cases heq : x = resource
      · subst heq
        simp only [Call.resourceChange, if_true]
        omega
      · simp [Call.resourceChange, heq]
  | addRefResource resource =>
      by_cases heq : x = resource <;> simp [Call.resourceChange, heq]
  | _ => simp [Call.resourceChange]

/-! ## Runs -/

section Runs

variable {effect : α → Call ο κ} {P : α → Account ο κ → Prop}

def System.Disciplined (effect : α → Call ο κ) (P : α → Account ο κ → Prop)
    (system : System α ο κ) : Prop :=
  Accounted system.heap system.account system.others ∧
    Along (fun label => Account.next (effect label)) P system.program
      system.account

theorem Step.disciplined
    (hP : ∀ label account, P label account → account.Allows (effect label))
    {system system' : System α ο κ} (hstep : Step effect system system')
    (hdisciplined : system.Disciplined effect P) :
    system'.Disciplined effect P ∧
      runInputs (fun label => Account.next (effect label)) system'.program
          system'.account =
        runInputs (fun label => Account.next (effect label)) system.program
          system.account := by
  rcases hdisciplined with ⟨haccounted, halong⟩
  cases hstep with
  | @call label rest heap heap' account others hperform =>
      rw [along_cons] at halong
      have hallows := hP label account halong.1
      obtain ⟨hfresh, haccounted'⟩ := haccounted.after hallows hperform
      have hnext : account.next (effect label) =
          some (account.after (effect label)) := if_pos hfresh
      refine ⟨⟨haccounted', halong.2 _ hnext⟩, ?_⟩
      simp [runInputs, hnext]
  | join hperform => exact ⟨⟨haccounted.join hperform, halong⟩, rfl⟩
  | leave hholds hperform =>
      exact ⟨⟨haccounted.leave hholds hperform, halong⟩, rfl⟩

/-- A disciplined program stays so in every interleaving, and all of them
lead its account to the same end. -/
theorem Reaches.disciplined
    (hP : ∀ label account, P label account → account.Allows (effect label))
    {system system' : System α ο κ} (hreaches : Reaches effect system system')
    (hdisciplined : system.Disciplined effect P) :
    system'.Disciplined effect P ∧
      runInputs (fun label => Account.next (effect label)) system'.program
          system'.account =
        runInputs (fun label => Account.next (effect label)) system.program
          system.account := by
  induction hreaches with
  | refl => exact ⟨hdisciplined, rfl⟩
  | tail _ hstep ih =>
      obtain ⟨hmiddle, hsame⟩ := ih
      obtain ⟨hlast, hstep⟩ := hstep.disciplined hP hmiddle
      exact ⟨hlast, hstep.trans hsame⟩

theorem along_cons_call (label : α) (rest : List α) (account : Account ο κ) :
    Along (fun label => Account.next (effect label)) P (label :: rest) account ↔
      P label account ∧ (account.Fresh (effect label) →
        Along (fun label => Account.next (effect label)) P rest
          (account.after (effect label))) := by
  rw [along_cons]
  apply and_congr_right
  intro _
  unfold Account.next
  by_cases hfresh : account.Fresh (effect label) <;> simp [hfresh]

/-- The account at the end is the one at the start with all changes added
up. -/
theorem runInputs_balance
    (hP : ∀ label account, P label account → account.Allows (effect label))
    {program : List α} {account account' : Account ο κ}
    (halong : Along (fun label => Account.next (effect label)) P program account)
    (hend : runInputs (fun label => Account.next (effect label)) program account =
      some account') :
    (∀ x, (account'.held x : ℤ) = account.held x +
        (program.map fun label => (effect label).objectChange x).sum) ∧
      ∀ x, (account'.resourceHeld x : ℤ) = account.resourceHeld x +
        (program.map fun label => (effect label).resourceChange x).sum := by
  induction program generalizing account with
  | nil =>
      simp only [runInputs, Option.some.injEq] at hend
      simp [hend]
  | cons label rest ih =>
      rw [along_cons] at halong
      simp only [runInputs, Option.bind_eq_some_iff] at hend
      rcases hend with ⟨middle, hnext, hend⟩
      have hallows := hP label account halong.1
      have hmiddle : middle = account.after (effect label) := by
        unfold Account.next at hnext
        split at hnext
        next => exact (Option.some.inj hnext).symm
        next => contradiction
      obtain ⟨hheld, hresource⟩ := ih (halong.2 middle hnext) hend
      constructor
      · intro x
        rw [hheld, hmiddle, Account.held_after_of_allows hallows, List.map_cons,
          List.sum_cons, add_assoc]
      · intro x
        rw [hresource, hmiddle, Account.resourceHeld_after_of_allows hallows,
          List.map_cons, List.sum_cons, add_assoc]

end Runs

end CountedObjects
end DeviceInfoPlugin
