import Mathlib.Data.List.Basic

/-!
# Words of flags

A word whose bits stand for features is reported as the list of the features
it has, with an entry of its own for no feature at all.  The list and the word
tell the same if that entry is there exactly when no other is.
-/

namespace DeviceInfoPlugin
namespace FlagWord

variable {α : Type} {w : Nat}

structure Flags (α : Type) (w : Nat) where
  none : α
  known : List α
  bit : α → BitVec w
  none_notMem : none ∉ known
  nodup : known.Nodup

namespace Flags

variable {flags : Flags α w} {word : BitVec w}

/-- Every feature has one bit to itself. -/
structure DistinctBits (flags : Flags α w) : Prop where
  none_zero : flags.bit flags.none = 0#w
  single : ∀ a ∈ flags.known, ∃ k < w, flags.bit a = BitVec.twoPow w k
  distinct : ∀ a ∈ flags.known, ∀ b ∈ flags.known,
    flags.bit a = flags.bit b → a = b

/-- The entry for no feature is decided from the whole word, the others from
their bits. -/
def listed (flags : Flags α w) (word : BitVec w) : List α :=
  (if word = 0#w then [flags.none] else []) ++
    flags.known.filter fun a => word &&& flags.bit a ≠ 0#w

/-- What a reader of the list makes of it. -/
def combined (flags : Flags α w) (items : List α) : BitVec w :=
  items.foldr (fun a word => flags.bit a ||| word) 0#w

structure Reports (flags : Flags α w) (word : BitVec w) (list : List α) :
    Prop where
  nodup : list.Nodup
  nonempty : list ≠ []
  mem_iff : ∀ a ∈ flags.known, a ∈ list ↔ word &&& flags.bit a ≠ 0#w
  none_mem_iff : flags.none ∈ list ↔ ∀ a ∈ flags.known, a ∉ list
  combined_eq : flags.combined list = word &&& flags.combined flags.known

/-- The word is zero or has the bit of a known feature. -/
def Recognised (flags : Flags α w) (word : BitVec w) : Prop :=
  word = 0#w ∨ ∃ a ∈ flags.known, word &&& flags.bit a ≠ 0#w

@[simp] theorem listed_zero : flags.listed 0#w = [flags.none] := by
  simp [listed]

theorem listed_of_ne_zero (hword : word ≠ 0#w) :
    flags.listed word =
      flags.known.filter fun a => word &&& flags.bit a ≠ 0#w := by
  rw [listed, if_neg hword, List.nil_append]

theorem mem_listed_of_known {a : α} (ha : a ∈ flags.known) :
    a ∈ flags.listed word ↔ word &&& flags.bit a ≠ 0#w := by
  by_cases hzero : word = 0#w
  · have hne : a ≠ flags.none := by
      intro heq
      subst heq
      exact flags.none_notMem ha
    simp [hzero, hne]
  · rw [listed_of_ne_zero hzero, List.mem_filter]
    simp [ha]

theorem none_mem_listed : flags.none ∈ flags.listed word ↔ word = 0#w := by
  by_cases hzero : word = 0#w
  · simp [hzero]
  · rw [listed_of_ne_zero hzero, List.mem_filter]
    simp [hzero, flags.none_notMem]

theorem listed_nodup : (flags.listed word).Nodup := by
  by_cases hzero : word = 0#w
  · simp [hzero]
  · rw [listed_of_ne_zero hzero]
    exact flags.nodup.filter _

theorem and_bit_eq (hbits : flags.DistinctBits) {a : α} (ha : a ∈ flags.known)
    (hword : word &&& flags.bit a ≠ 0#w) : word &&& flags.bit a = flags.bit a := by
  rcases hbits.single a ha with ⟨k, hk, hbit⟩
  rw [hbit, BitVec.and_twoPow] at hword ⊢
  split at hword
  next hset => rw [if_pos hset]
  next => exact absurd rfl hword

theorem combined_filter (hbits : flags.DistinctBits) (word : BitVec w)
    {items : List α} (hitems : ∀ a ∈ items, a ∈ flags.known) :
    flags.combined (items.filter fun a => word &&& flags.bit a ≠ 0#w) =
      word &&& flags.combined items := by
  induction items with
  | nil => simp [combined]
  | cons a items ih =>
      rcases List.forall_mem_cons.mp hitems with ⟨ha, hrest⟩
      have hstep : flags.combined (a :: items) =
          flags.bit a ||| flags.combined items := rfl
      rw [hstep, BitVec.and_or_distrib_left, ← ih hrest, List.filter_cons]
      by_cases hset : word &&& flags.bit a ≠ 0#w
      · rw [if_pos (by simpa using hset), and_bit_eq hbits ha hset]
        rfl
      · have hclear : word &&& flags.bit a = 0#w := not_not.mp hset
        rw [if_neg (by simpa using hclear), hclear]
        exact BitVec.zero_or.symm

/-- The reader gets the known part of every word back. -/
theorem combined_listed (hbits : flags.DistinctBits) (word : BitVec w) :
    flags.combined (flags.listed word) =
      word &&& flags.combined flags.known := by
  by_cases hzero : word = 0#w
  · simp [hzero, combined, hbits.none_zero]
  · rw [listed_of_ne_zero hzero, combined_filter hbits word fun _ ha => ha]

/-- The list tells what the word does unless all bits of the word are
unknown. -/
theorem reports_listed_iff (hbits : flags.DistinctBits) (word : BitVec w) :
    flags.Reports word (flags.listed word) ↔ flags.Recognised word := by
  constructor
  · intro hreports
    by_contra hunknown
    rw [Recognised, not_or] at hunknown
    rcases hunknown with ⟨hword, hnone⟩
    have hempty : flags.listed word = [] := by
      rw [List.eq_nil_iff_forall_not_mem]
      intro a ha
      rw [listed_of_ne_zero hword, List.mem_filter, decide_eq_true_eq] at ha
      exact hnone ⟨a, ha⟩
    exact hreports.nonempty hempty
  · intro hrecognised
    have hnone : flags.none ∈ flags.listed word ↔
        ∀ a ∈ flags.known, a ∉ flags.listed word := by
      rw [none_mem_listed]
      constructor
      · intro hzero a ha
        rw [mem_listed_of_known ha, hzero]
        simp
      · intro hall
        rcases hrecognised with hzero | ⟨a, ha, hset⟩
        · exact hzero
        · exact absurd ((mem_listed_of_known ha).mpr hset) (hall a ha)
    have hnonempty : flags.listed word ≠ [] := by
      rcases hrecognised with hzero | ⟨a, ha, hset⟩
      · exact List.ne_nil_of_mem (none_mem_listed.mpr hzero)
      · exact List.ne_nil_of_mem ((mem_listed_of_known ha).mpr hset)
    exact ⟨listed_nodup, hnonempty, fun _ => mem_listed_of_known, hnone,
      combined_listed hbits word⟩

end Flags

end FlagWord
end DeviceInfoPlugin
