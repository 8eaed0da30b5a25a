import DeviceInfoPlugin.BacktrackingRegex

/-!
# Searching for a match

A search tries the matcher at one position of the input after the other and
stops at the first one from which a match starts.  Among the matches from
there it takes the one the matcher prefers.
-/

namespace DeviceInfoPlugin
namespace Regex

variable {α : Type}

def search (pattern : Pattern α) : Bool → List α → Option (Match α)
  | atStart, [] => (run pattern atStart []).head?
  | atStart, a :: rest =>
      (run pattern atStart (a :: rest)).head?.or (search pattern false rest)

/-- The pattern matches as `m` behind the first part of the input. -/
structure Occurs (pattern : Pattern α) (atStart : Bool) (input : List α)
    (skipped : List α) (m : Match α) : Prop where
  derives : Derives pattern (atStart && skipped.isEmpty) m
  input_eq : skipped ++ (m.consumed ++ m.rest) = input

variable {pattern : Pattern α} {atStart : Bool} {a : α} {input skipped : List α}
  {m : Match α}

theorem occurs_nil_iff :
    Occurs pattern atStart input [] m ↔ m ∈ run pattern atStart input := by
  rw [mem_run_iff]
  constructor
  · intro hoccurs
    exact ⟨by simpa using hoccurs.derives, hoccurs.input_eq⟩
  · intro hderives
    exact ⟨by simpa using hderives.1, hderives.2⟩

theorem occurs_cons_iff {b : α} :
    Occurs pattern atStart (a :: input) (b :: skipped) m ↔
      b = a ∧ Occurs pattern false input skipped m := by
  constructor
  · intro hoccurs
    obtain ⟨hb, hinput⟩ := List.cons.inj hoccurs.input_eq
    exact ⟨hb, by simpa using hoccurs.derives, hinput⟩
  · intro hoccurs
    rcases hoccurs with ⟨rfl, hderives, hinput⟩
    exact ⟨by simpa using hderives, by rw [List.cons_append, hinput]⟩

theorem not_occurs_cons_nil {b : α} :
    ¬ Occurs pattern atStart [] (b :: skipped) m := by
  intro hoccurs
  have hinput := hoccurs.input_eq
  simp at hinput

theorem search_eq_none_iff :
    search pattern atStart input = none ↔
      ∀ skipped m, ¬ Occurs pattern atStart input skipped m := by
  induction input generalizing atStart with
  | nil =>
      rw [search, List.head?_eq_none_iff]
      constructor
      · intro hnone skipped m
        cases skipped with
        | nil => simp [occurs_nil_iff, hnone]
        | cons b skipped => exact not_occurs_cons_nil
      · intro hnone
        apply List.eq_nil_iff_forall_not_mem.mpr
        intro m hm
        exact hnone [] m (occurs_nil_iff.mpr hm)
  | cons a input ih =>
      rw [search, Option.or_eq_none_iff, List.head?_eq_none_iff, ih]
      constructor
      · intro hnone skipped m
        cases skipped with
        | nil => simp [occurs_nil_iff, hnone.1]
        | cons b skipped =>
            rw [occurs_cons_iff]
            intro hoccurs
            exact hnone.2 skipped m hoccurs.2
      · intro hnone
        constructor
        · apply List.eq_nil_iff_forall_not_mem.mpr
          intro m hm
          exact hnone [] m (occurs_nil_iff.mpr hm)
        · intro skipped m hoccurs
          exact hnone (a :: skipped) m (occurs_cons_iff.mpr ⟨rfl, hoccurs⟩)

/-- What a search reports starts at no later position than any other match. -/
theorem occurs_of_search (hsearch : search pattern atStart input = some m) :
    ∃ skipped, Occurs pattern atStart input skipped m ∧
      ∀ skipped' m', Occurs pattern atStart input skipped' m' →
        skipped.length ≤ skipped'.length := by
  induction input generalizing atStart with
  | nil =>
      rw [search] at hsearch
      have hmem := List.mem_of_head? hsearch
      exact ⟨[], occurs_nil_iff.mpr hmem, by simp⟩
  | cons a input ih =>
      rw [search, Option.or_eq_some_iff] at hsearch
      rcases hsearch with hhere | ⟨hnone, hlater⟩
      · have hmem := List.mem_of_head? hhere
        exact ⟨[], occurs_nil_iff.mpr hmem, by simp⟩
      · rcases ih hlater with ⟨skipped, hoccurs, hfirst⟩
        use a :: skipped, occurs_cons_iff.mpr ⟨rfl, hoccurs⟩
        intro skipped' m' hoccurs'
        cases skipped' with
        | nil =>
            have hmem := occurs_nil_iff.mp hoccurs'
            rw [List.head?_eq_none_iff.mp hnone] at hmem
            contradiction
        | cons b skipped' =>
            have htail := (occurs_cons_iff.mp hoccurs').2
            exact Nat.succ_le_succ (hfirst skipped' m' htail)

end Regex
end DeviceInfoPlugin
