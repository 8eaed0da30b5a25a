import Mathlib.Data.Set.Card

/-!
# Objects that live as long as they are referenced

A heap of reference-counted objects.  An object may keep a reference on a
resource, which its destructor gives back; the resources are counted as well.
One program works on the heap call by call, and between any two of its calls
other holders may join and leave.

The program is judged alone, on the account of the references it holds itself.
`Accounted` relates this account to the heap, whatever the others do.
-/

namespace DeviceInfoPlugin
namespace CountedObjects

variable {ο κ : Type}

inductive Call (ο κ : Type) where
  | create (object : ο)
  | addRef (object : ο)
  | release (object : ο)
  /-- The object takes a reference on the resource and keeps it. -/
  | keep (object : ο) (resource : κ)
  | addRefResource (resource : κ)
  | releaseResource (resource : κ)
  | other
  deriving DecidableEq, Repr

/-! ## The heap -/

structure Heap (ο κ : Type) where
  count : ο → ℕ
  kept : ο → Option κ
  resourceCount : κ → ℕ

namespace Heap

def empty : Heap ο κ := ⟨fun _ => 0, fun _ => none, fun _ => 0⟩

def keepers (heap : Heap ο κ) (resource : κ) : Set ο :=
  { object | heap.kept object = some resource }

variable [DecidableEq ο] [DecidableEq κ]

def releaseResource (resource : κ) (heap : Heap ο κ) : Option (Heap ο κ) :=
  if heap.resourceCount resource = 0 then none
  else some { heap with
    resourceCount := Function.update heap.resourceCount resource
      (heap.resourceCount resource - 1) }

def destroy (object : ο) (heap : Heap ο κ) : Option (Heap ο κ) :=
  let destroyed : Heap ο κ := { heap with
    count := Function.update heap.count object 0
    kept := Function.update heap.kept object none }
  match heap.kept object with
  | some resource => destroyed.releaseResource resource
  | none => some destroyed

/-- `none` is a call on an object that is not there, a creation where one
still is, or a reference given back too often. -/
def perform (call : Call ο κ) (heap : Heap ο κ) : Option (Heap ο κ) :=
  match call with
  | .create object =>
      if heap.count object = 0 then
        some { heap with
          count := Function.update heap.count object 1
          kept := Function.update heap.kept object none }
      else none
  | .addRef object =>
      if heap.count object = 0 then none
      else some { heap with
        count := Function.update heap.count object (heap.count object + 1) }
  | .release object =>
      if heap.count object = 0 then none
      else if heap.count object = 1 then heap.destroy object
      else some { heap with
        count := Function.update heap.count object (heap.count object - 1) }
  | .keep object resource =>
      if heap.count object = 0 then none
      else some { heap with
        kept := Function.update heap.kept object (some resource)
        resourceCount := Function.update heap.resourceCount resource
          (heap.resourceCount resource + 1) }
  | .addRefResource resource =>
      some { heap with
        resourceCount := Function.update heap.resourceCount resource
          (heap.resourceCount resource + 1) }
  | .releaseResource resource => heap.releaseResource resource
  | .other => some heap

end Heap

/-! ## The account of the program -/

structure Account (ο κ : Type) where
  held : ο → ℕ
  /-- What the objects it holds have been given to keep. -/
  given : ο → Option κ
  resourceHeld : κ → ℕ

namespace Account

def empty : Account ο κ := ⟨fun _ => 0, fun _ => none, fun _ => 0⟩

variable [DecidableEq ο] [DecidableEq κ]

def after (call : Call ο κ) (account : Account ο κ) : Account ο κ :=
  match call with
  | .create object =>
      { account with
        held := Function.update account.held object (account.held object + 1)
        given := Function.update account.given object none }
  | .addRef object =>
      { account with
        held := Function.update account.held object (account.held object + 1) }
  | .release object =>
      { account with
        held := Function.update account.held object (account.held object - 1) }
  | .keep object resource =>
      { account with
        given := Function.update account.given object (some resource) }
  | .addRefResource resource =>
      { account with
        resourceHeld := Function.update account.resourceHeld resource
          (account.resourceHeld resource + 1) }
  | .releaseResource resource =>
      { account with
        resourceHeld := Function.update account.resourceHeld resource
          (account.resourceHeld resource - 1) }
  | .other => account

theorem held_after (call : Call ο κ) (account : Account ο κ) (x : ο) :
    (account.after call).held x =
      match call with
      | .create object | .addRef object =>
          if x = object then account.held x + 1 else account.held x
      | .release object =>
          if x = object then account.held x - 1 else account.held x
      | _ => account.held x := by
  cases call with
  | create object => by_cases heq : x = object <;> simp [after, heq]
  | addRef object => by_cases heq : x = object <;> simp [after, heq]
  | release object => by_cases heq : x = object <;> simp [after, heq]
  | _ => rfl

theorem given_after (call : Call ο κ) (account : Account ο κ) (x : ο) :
    (account.after call).given x =
      match call with
      | .create object => if x = object then none else account.given x
      | .keep object resource =>
          if x = object then some resource else account.given x
      | _ => account.given x := by
  cases call with
  | create object => by_cases heq : x = object <;> simp [after, heq]
  | keep object resource => by_cases heq : x = object <;> simp [after, heq]
  | _ => rfl

theorem resourceHeld_after (call : Call ο κ) (account : Account ο κ) (x : κ) :
    (account.after call).resourceHeld x =
      match call with
      | .addRefResource resource =>
          if x = resource then account.resourceHeld x + 1
          else account.resourceHeld x
      | .releaseResource resource =>
          if x = resource then account.resourceHeld x - 1
          else account.resourceHeld x
      | _ => account.resourceHeld x := by
  cases call with
  | addRefResource resource => by_cases heq : x = resource <;> simp [after, heq]
  | releaseResource resource => by_cases heq : x = resource <;> simp [after, heq]
  | _ => rfl

/-- No object is created where the program still holds one. -/
def Fresh (call : Call ο κ) (account : Account ο κ) : Prop :=
  match call with
  | .create object => account.held object = 0
  | _ => True

instance (call : Call ο κ) (account : Account ο κ) :
    Decidable (account.Fresh call) := by
  unfold Fresh
  cases call <;> infer_instance

def next (call : Call ο κ) (account : Account ο κ) : Option (Account ο κ) :=
  if account.Fresh call then some (account.after call) else none

/-- The program calls only objects it holds, gives back only what it has
taken, and gives an object something to keep once. -/
def Allows (account : Account ο κ) : Call ο κ → Prop
  | .addRef object | .release object => 0 < account.held object
  | .keep object _ => 0 < account.held object ∧ account.given object = none
  | .releaseResource resource => 0 < account.resourceHeld resource
  | .create _ | .addRefResource _ | .other => True

end Account

/-! ## Counts and accounts -/

structure Accounted (heap : Heap ο κ) (account : Account ο κ) (others : ο → ℕ) :
    Prop where
  count : ∀ object, heap.count object = account.held object + others object
  resource : ∀ resource, heap.resourceCount resource =
    account.resourceHeld resource + (heap.keepers resource).ncard
  finite : ∀ resource, (heap.keepers resource).Finite
  alive : ∀ object, heap.kept object ≠ none → 0 < heap.count object
  given : ∀ object, 0 < account.held object →
    heap.kept object = account.given object

theorem accounted_empty :
    Accounted (Heap.empty : Heap ο κ) Account.empty fun _ => 0 := by
  have hkeepers : ∀ resource, (Heap.empty : Heap ο κ).keepers resource = ∅ := by
    simp [Heap.keepers, Heap.empty]
  constructor
  · simp [Heap.empty, Account.empty]
  · intro resource
    rw [hkeepers, Set.ncard_empty]
    rfl
  · intro resource
    rw [hkeepers]
    exact Set.finite_empty
  · simp [Heap.empty]
  · simp [Account.empty]

theorem Accounted.recount {heap : Heap ο κ} {account : Account ο κ}
    {others : ο → ℕ} (haccounted : Accounted heap account others)
    {resourceCount resourceHeld : κ → ℕ}
    (hcount : ∀ resource, resourceCount resource + account.resourceHeld resource =
      heap.resourceCount resource + resourceHeld resource) :
    Accounted { heap with resourceCount } { account with resourceHeld }
      others := by
  constructor
  · exact haccounted.count
  · intro resource
    have hbefore := haccounted.resource resource
    have hmoved := hcount resource
    change resourceCount resource = resourceHeld resource +
      (heap.keepers resource).ncard
    omega
  · exact haccounted.finite
  · exact haccounted.alive
  · exact haccounted.given

/-- Counts that differ at one object only add up to the updated count. -/
theorem Accounted.moved [DecidableEq ο] {heap : Heap ο κ}
    {account : Account ο κ} {others : ο → ℕ}
    (haccounted : Accounted heap account others) {object : ο}
    {held others' : ο → ℕ} {count : ℕ}
    (hobject : held object + others' object = count)
    (helsewhere : ∀ x, x ≠ object →
      held x = account.held x ∧ others' x = others x) (x : ο) :
    held x + others' x = Function.update heap.count object count x := by
  by_cases heq : x = object
  · rw [heq, Function.update_self, hobject]
  · obtain ⟨hheld, hothers⟩ := helsewhere x heq
    rw [Function.update_of_ne heq, hheld, hothers, haccounted.count]

/-- Only live objects keep a resource. -/
theorem Accounted.keepers_eq_empty {heap : Heap ο κ} {account : Account ο κ}
    {others : ο → ℕ} (haccounted : Accounted heap account others)
    (hgone : ∀ object, heap.count object = 0) (resource : κ) :
    heap.keepers resource = ∅ := by
  rw [Set.eq_empty_iff_forall_notMem]
  intro object hkept
  have hkept' : heap.kept object = some resource := hkept
  have halive := haccounted.alive object (by simp [hkept'])
  rw [hgone object] at halive
  exact absurd halive (lt_irrefl 0)

section Keepers

variable {heap : Heap ο κ} {object : ο} {resource : κ}

theorem notMem_keepers (hnone : heap.kept object = none) (other : κ) :
    object ∉ heap.keepers other := by
  simp [Heap.keepers, hnone]

variable [DecidableEq ο]

/-- The keepers after an object that keeps nothing is given a resource. -/
theorem keepers_update_some [DecidableEq κ] (hnone : heap.kept object = none)
    (other : κ) (count : ο → ℕ) (resourceCount : κ → ℕ) :
    Heap.keepers ⟨count, Function.update heap.kept object (some resource),
        resourceCount⟩ other =
      if other = resource then insert object (heap.keepers other)
      else heap.keepers other := by
  ext x
  by_cases hx : x = object
  · subst hx
    by_cases hother : other = resource
    · simp [Heap.keepers, hother]
    · have hother' : resource ≠ other := fun h => hother h.symm
      simp [Heap.keepers, hother, hother', hnone]
  · by_cases hother : other = resource <;> simp [Heap.keepers, hx, hother]

theorem keepers_update_none (heap : Heap ο κ) (object : ο) (other : κ)
    (count : ο → ℕ) (resourceCount : κ → ℕ) :
    Heap.keepers ⟨count, Function.update heap.kept object none, resourceCount⟩
        other =
      heap.keepers other \ {object} := by
  ext x
  by_cases hx : x = object
  · subst hx
    simp [Heap.keepers]
  · simp [Heap.keepers, hx]

end Keepers

/-! ## Releasing an object -/

/-- What a release does to the heap: the count falls by one, and with the last
reference the kept resource goes back. -/
structure Released [DecidableEq ο] (object : ο) (heap heap' : Heap ο κ) : Prop where
  count : heap'.count = Function.update heap.count object (heap.count object - 1)
  kept : heap'.kept = if heap.count object = 1 then
    Function.update heap.kept object none else heap.kept
  resource : ∀ resource,
    heap'.resourceCount resource + (heap.keepers resource).ncard =
      heap.resourceCount resource + (heap'.keepers resource).ncard

theorem Released.keepers_subset [DecidableEq ο] {object : ο} {heap heap' : Heap ο κ}
    (hreleased : Released object heap heap') (resource : κ) :
    heap'.keepers resource ⊆ heap.keepers resource := by
  intro x hx
  unfold Heap.keepers at hx ⊢
  simp only [Set.mem_ofPred_eq, hreleased.kept] at hx ⊢
  split at hx
  next =>
    by_cases heq : x = object
    · simp [heq] at hx
    · simpa [heq] using hx
  next => exact hx

section Release

variable [DecidableEq ο] [DecidableEq κ] {heap : Heap ο κ}
  {account : Account ο κ} {others : ο → ℕ}

theorem Accounted.exists_destroy (haccounted : Accounted heap account others)
    {object : ο} (hlast : heap.count object = 1) :
    ∃ heap', heap.destroy object = some heap' ∧ Released object heap heap' := by
  unfold Heap.destroy
  cases hkept : heap.kept object with
  | none =>
      refine ⟨_, rfl, ?_, ?_, ?_⟩
      · simp [hlast]
      · simp [hlast]
      · intro resource
        have hsame := keepers_update_none heap object resource
          (Function.update heap.count object 0) heap.resourceCount
        rw [hsame, Set.sdiff_singleton_eq_self (notMem_keepers hkept resource)]
  | some resource =>
      have hmem : object ∈ heap.keepers resource := hkept
      have hpos : 0 < (heap.keepers resource).ncard :=
        (Set.ncard_pos (haccounted.finite resource)).mpr ⟨object, hmem⟩
      have hcount := haccounted.resource resource
      have henough : heap.resourceCount resource ≠ 0 := by omega
      unfold Heap.releaseResource
      dsimp only
      rw [if_neg henough]
      refine ⟨_, rfl, ?_, ?_, ?_⟩
      · simp [hlast]
      · simp [hlast]
      · intro other
        rw [keepers_update_none]
        by_cases hother : other = resource
        · subst hother
          have hless := Set.ncard_sdiff_singleton_add_one hmem
            (haccounted.finite other)
          simp only [Function.update_self]
          omega
        · have habsent : object ∉ heap.keepers other := by
            unfold Heap.keepers
            simp [hkept, Ne.symm hother]
          rw [Set.sdiff_singleton_eq_self habsent]
          simp [hother]

theorem Accounted.exists_release (haccounted : Accounted heap account others)
    (object : ο) (halive : 0 < heap.count object) :
    ∃ heap', heap.perform (.release object) = some heap' ∧
      Released object heap heap' := by
  have hcount : heap.count object ≠ 0 := by omega
  unfold Heap.perform
  dsimp only
  rw [if_neg hcount]
  by_cases hlast : heap.count object = 1
  · rw [if_pos hlast]
    exact haccounted.exists_destroy hlast
  · rw [if_neg hlast]
    refine ⟨_, rfl, rfl, ?_, ?_⟩
    · rw [if_neg hlast]
    · intro resource
      rfl

theorem Accounted.released (haccounted : Accounted heap account others)
    {object : ο} {heap' : Heap ο κ}
    (hperform : heap.perform (.release object) = some heap') :
    0 < heap.count object ∧ Released object heap heap' := by
  have halive : 0 < heap.count object := by
    by_contra hnot
    have hzero : heap.count object = 0 := by omega
    simp [Heap.perform, hzero] at hperform
  obtain ⟨done, hdone, hreleased⟩ := haccounted.exists_release object halive
  rw [hperform, Option.some.injEq] at hdone
  rw [hdone]
  exact ⟨halive, hreleased⟩

/-- Whoever gives the reference back, the books stay right if one entry falls
by one. -/
theorem Accounted.release (haccounted : Accounted heap account others)
    {object : ο} {heap' : Heap ο κ}
    (hperform : heap.perform (.release object) = some heap')
    {held : ο → ℕ} {others' : ο → ℕ}
    (hcount : ∀ x, held x + others' x =
      Function.update heap.count object (heap.count object - 1) x)
    (hheld : ∀ x, held x ≤ account.held x) :
    Accounted heap' { account with held } others' := by
  obtain ⟨halive, hreleased⟩ := haccounted.released hperform
  have hcount' : ∀ x, heap'.count x = held x + others' x := by
    intro x
    rw [hreleased.count, hcount]
  constructor
  · exact hcount'
  · intro resource
    have hbefore := haccounted.resource resource
    have hafter := hreleased.resource resource
    dsimp only
    omega
  · intro resource
    exact (haccounted.finite resource).subset (hreleased.keepers_subset resource)
  · intro x hx
    rw [hreleased.kept] at hx
    rw [hreleased.count]
    by_cases heq : x = object
    · subst heq
      split at hx
      next => simp at hx
      next hmore =>
        rw [Function.update_self]
        omega
    · rw [Function.update_of_ne heq]
      split at hx
      next =>
        rw [Function.update_of_ne heq] at hx
        exact haccounted.alive x hx
      next => exact haccounted.alive x hx
  · intro x hx
    have hle := hheld x
    have hgiven := haccounted.given x (by dsimp only at hx; omega)
    rw [hreleased.kept]
    split
    next hlast =>
      have hne : x ≠ object := by
        intro heq
        have hnone := hcount x
        rw [heq, Function.update_self, hlast] at hnone
        rw [heq] at hx
        dsimp only at hx
        omega
      rw [Function.update_of_ne hne]
      exact hgiven
    next => exact hgiven

/-- A holder with one reference left destroys the object exactly if nobody
else holds one, and then what the object kept is given back. -/
theorem Accounted.last_release (haccounted : Accounted heap account others)
    {object : ο} (hown : account.held object = 1) :
    ∃ heap', heap.perform (.release object) = some heap' ∧
      (heap'.count object = 0 ↔ others object = 0) ∧
      ∀ resource, heap.kept object = some resource →
        heap'.resourceCount resource +
            (if others object = 0 then 1 else 0) =
          heap.resourceCount resource := by
  have hcount := haccounted.count object
  obtain ⟨heap', hperform, hreleased⟩ :=
    haccounted.exists_release object (by omega)
  refine ⟨heap', hperform, ?_, ?_⟩
  · rw [hreleased.count, Function.update_self]
    omega
  · intro resource hkept
    have hconserved := hreleased.resource resource
    have hmem : object ∈ heap.keepers resource := hkept
    have hkeepers : (heap'.keepers resource).ncard +
        (if others object = 0 then 1 else 0) =
          (heap.keepers resource).ncard := by
      have hkept' := hreleased.kept
      by_cases hlast : heap.count object = 1
      · rw [if_pos hlast] at hkept'
        have hdiff : heap'.keepers resource = heap.keepers resource \ {object} := by
          have hsame := keepers_update_none heap object resource heap'.count
            heap'.resourceCount
          rw [← hkept'] at hsame
          exact hsame
        have hnone : others object = 0 := by omega
        rw [hdiff, if_pos hnone]
        exact Set.ncard_sdiff_singleton_add_one hmem (haccounted.finite resource)
      · rw [if_neg hlast] at hkept'
        have hsome : ¬ others object = 0 := by omega
        rw [if_neg hsome]
        unfold Heap.keepers
        rw [hkept']
        rfl
    omega

end Release

end CountedObjects
end DeviceInfoPlugin
