import Mathlib.Data.List.Basic
import Mathlib.Logic.Relation

/-!
# The first hit in a list

A search that stops at its first success passes over the elements it rejects
and remembers nothing of them.  Such elements can come, go and move, and the
others need only keep their order.
-/

namespace DeviceInfoPlugin
namespace FirstHit

variable {α β : Type} {hit : α → Option β} {items items' : List α}

theorem findSome?_skip (before after : List α) {a : α} (ha : hit a = none) :
    (before ++ a :: after).findSome? hit = (before ++ after).findSome? hit := by
  rw [List.findSome?_append, List.findSome?_cons, ha, List.findSome?_append]

theorem findSome?_filter {relevant : α → Bool}
    (hirrelevant : ∀ a, relevant a = false → hit a = none) (items : List α) :
    (items.filter relevant).findSome? hit = items.findSome? hit := by
  induction items with
  | nil => rfl
  | cons a items ih =>
      by_cases ha : relevant a = true
      · rw [List.filter_cons_of_pos ha, List.findSome?_cons, ih,
          List.findSome?_cons]
      · have hnone : hit a = none := hirrelevant a (by simpa using ha)
        rw [List.filter_cons_of_neg ha, ih]
        exact (findSome?_skip [] items hnone).symm

theorem findSome?_eq_of_filter_eq {relevant : α → Bool}
    (hirrelevant : ∀ a, relevant a = false → hit a = none)
    (hsame : items.filter relevant = items'.filter relevant) :
    items.findSome? hit = items'.findSome? hit := by
  rw [← findSome?_filter hirrelevant items, hsame,
    findSome?_filter hirrelevant items']

/-- One irrelevant element comes, goes, or moves. -/
inductive Edit (relevant : α → Prop) : List α → List α → Prop
  | insert (before after : List α) {a : α} (ha : ¬ relevant a) :
      Edit relevant (before ++ after) (before ++ a :: after)
  | delete (before after : List α) {a : α} (ha : ¬ relevant a) :
      Edit relevant (before ++ a :: after) (before ++ after)
  | moveDown (before between after : List α) {a : α} (ha : ¬ relevant a) :
      Edit relevant (before ++ a :: (between ++ after))
        (before ++ (between ++ a :: after))
  | moveUp (before between after : List α) {a : α} (ha : ¬ relevant a) :
      Edit relevant (before ++ (between ++ a :: after))
        (before ++ a :: (between ++ after))

theorem Edit.findSome? {relevant : α → Prop}
    (hirrelevant : ∀ a, ¬ relevant a → hit a = none)
    (hedit : Edit relevant items items') :
    items'.findSome? hit = items.findSome? hit := by
  have hmove : ∀ (before between after : List α) (a : α), hit a = none →
      (before ++ (between ++ a :: after)).findSome? hit =
        (before ++ a :: (between ++ after)).findSome? hit := by
    intro before between after a ha
    rw [findSome?_skip before _ ha, ← List.append_assoc,
      findSome?_skip (before ++ between) after ha, List.append_assoc]
  cases hedit with
  | insert before after ha => exact findSome?_skip before after (hirrelevant _ ha)
  | delete before after ha =>
      exact (findSome?_skip before after (hirrelevant _ ha)).symm
  | moveDown before between after ha =>
      exact hmove before between after _ (hirrelevant _ ha)
  | moveUp before between after ha =>
      exact (hmove before between after _ (hirrelevant _ ha)).symm

theorem edits_findSome? {relevant : α → Prop}
    (hirrelevant : ∀ a, ¬ relevant a → hit a = none)
    (hedits : Relation.ReflTransGen (Edit relevant) items items') :
    items'.findSome? hit = items.findSome? hit := by
  induction hedits with
  | refl => rfl
  | tail _ hlast ih => exact (hlast.findSome? hirrelevant).trans ih

end FirstHit
end DeviceInfoPlugin
