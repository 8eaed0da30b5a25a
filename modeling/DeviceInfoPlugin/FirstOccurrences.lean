import Mathlib.Data.List.Basic
import Mathlib.Data.List.Induction
import Mathlib.Data.List.Nodup

/-!
# Keeping first occurrences

A loop that appends an element unless the list it builds already has it.  The
list has every element of the input once, in the order in which they first
appear, and that determines it.
-/

namespace DeviceInfoPlugin
namespace FirstOccurrences

variable {α : Type} [DecidableEq α]

def addNew (a : α) (list : List α) : List α :=
  if a ∈ list then list else list ++ [a]

def distinct (items : List α) : List α :=
  items.foldl (fun list a => addNew a list) []

/-- `list` has the elements of `items`, each once and in the order of their
first occurrences. -/
structure ListsOnce (items list : List α) : Prop where
  nodup : list.Nodup
  mem_iff : ∀ a, a ∈ list ↔ a ∈ items
  order : ∀ a ∈ list, ∀ b ∈ list,
    list.idxOf a < list.idxOf b ↔ items.idxOf a < items.idxOf b

variable {items list : List α} {a : α}

theorem distinct_append (items later : List α) :
    distinct (items ++ later) =
      later.foldl (fun list a => addNew a list) (distinct items) :=
  List.foldl_append

theorem addNew_of_mem (ha : a ∈ list) : addNew a list = list :=
  if_pos ha

theorem addNew_of_notMem (ha : a ∉ list) : addNew a list = list ++ [a] :=
  if_neg ha

/-! ## The loop invariant -/

theorem listsOnce_nil : ListsOnce ([] : List α) [] :=
  ⟨by simp, by simp, by simp⟩

theorem ListsOnce.addNew_seen (honce : ListsOnce items list) (ha : a ∈ list) :
    ListsOnce (items ++ [a]) list := by
  have hitems : a ∈ items := (honce.mem_iff a).mp ha
  constructor
  · exact honce.nodup
  · intro b
    rw [honce.mem_iff, List.mem_append, List.mem_singleton]
    constructor
    · exact Or.inl
    · intro hb
      rcases hb with hb | rfl
      · exact hb
      · exact hitems
  · intro b hb c hc
    rw [List.idxOf_append_of_mem ((honce.mem_iff b).mp hb),
      List.idxOf_append_of_mem ((honce.mem_iff c).mp hc)]
    exact honce.order b hb c hc

theorem ListsOnce.addNew_unseen (honce : ListsOnce items list)
    (ha : a ∉ list) : ListsOnce (items ++ [a]) (list ++ [a]) := by
  have hitems : a ∉ items := by
    rwa [← honce.mem_iff]
  constructor
  · rw [List.nodup_append_comm]
    exact List.nodup_cons.mpr ⟨ha, honce.nodup⟩
  · intro b
    rw [List.mem_append, List.mem_append, honce.mem_iff]
  · -- an element of the list stands before the new one, in either list
    have hold : ∀ b ∈ list, (list ++ [a]).idxOf b = list.idxOf b ∧
        (items ++ [a]).idxOf b = items.idxOf b ∧
        list.idxOf b < list.length ∧ items.idxOf b < items.length := by
      intro b hb
      have hb' := (honce.mem_iff b).mp hb
      exact ⟨List.idxOf_append_of_mem hb, List.idxOf_append_of_mem hb',
        List.idxOf_lt_length_of_mem hb, List.idxOf_lt_length_of_mem hb'⟩
    have hnew : (list ++ [a]).idxOf a = list.length ∧
        (items ++ [a]).idxOf a = items.length := by
      rw [List.idxOf_append_of_notMem ha, List.idxOf_append_of_notMem hitems]
      simp
    intro b hb c hc
    rw [List.mem_append, List.mem_singleton] at hb hc
    rcases hb with hb | rfl <;> rcases hc with hc | rfl
    · obtain ⟨hb₁, hb₂, -, -⟩ := hold b hb
      obtain ⟨hc₁, hc₂, -, -⟩ := hold c hc
      rw [hb₁, hb₂, hc₁, hc₂]
      exact honce.order b hb c hc
    · have hbound := hold b hb
      omega
    · have hbound := hold c hc
      omega
    · simp

theorem listsOnce_distinct (items : List α) :
    ListsOnce items (distinct items) := by
  induction items using List.reverseRecOn with
  | nil => exact listsOnce_nil
  | append_singleton items a ih =>
      rw [distinct_append, List.foldl_cons, List.foldl_nil]
      by_cases ha : a ∈ distinct items
      · rw [addNew_of_mem ha]
        exact ih.addNew_seen ha
      · rw [addNew_of_notMem ha]
        exact ih.addNew_unseen ha

theorem mem_distinct : a ∈ distinct items ↔ a ∈ items :=
  (listsOnce_distinct items).mem_iff a

/-! ## Copies behind an element -/

/-- `items'` is `items` with more occurrences of elements, each behind an
earlier one. -/
inductive Repeats (items : List α) : List α → Prop
  | refl : Repeats items items
  | insert {before after : List α} {a : α}
      (hrepeats : Repeats items (before ++ after)) (ha : a ∈ before) :
      Repeats items (before ++ a :: after)

theorem distinct_insert {before : List α} (after : List α)
    (ha : a ∈ before) :
    distinct (before ++ a :: after) = distinct (before ++ after) := by
  rw [distinct_append, distinct_append, List.foldl_cons,
    addNew_of_mem (mem_distinct.mpr ha)]

theorem Repeats.distinct_eq {items' : List α} (hrepeats : Repeats items items') :
    distinct items' = distinct items := by
  induction hrepeats with
  | refl => rfl
  | insert _ ha ih => rw [distinct_insert _ ha, ih]

/-! ## Lists without duplicates -/

theorem foldl_addNew_of_nodup (list : List α) (hnodup : (list ++ items).Nodup) :
    items.foldl (fun list a => addNew a list) list = list ++ items := by
  induction items generalizing list with
  | nil => simp
  | cons a items ih =>
      have ha : a ∉ list := by
        intro hmem
        exact (List.nodup_append.mp hnodup).2.2 a hmem a List.mem_cons_self rfl
      rw [List.foldl_cons, addNew_of_notMem ha, ih]
      · simp
      · simpa using hnodup

theorem distinct_of_nodup (hnodup : items.Nodup) : distinct items = items :=
  foldl_addNew_of_nodup [] hnodup

theorem distinct_distinct (items : List α) :
    distinct (distinct items) = distinct items :=
  distinct_of_nodup (listsOnce_distinct items).nodup

end FirstOccurrences
end DeviceInfoPlugin
