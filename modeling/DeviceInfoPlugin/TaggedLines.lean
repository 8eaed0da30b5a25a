import DeviceInfoPlugin.FirstHit
import DeviceInfoPlugin.PropertyFiles

/-!
# Lines that begin with a tag

`^TAG([^\n]+)$` matches a line that consists of the tag and at least one more
character, and its group is everything behind the tag.  Lines with different
tags do not meet in a lookup, so a lookup sees only the order of the lines with
its own tag.
-/

namespace DeviceInfoPlugin
namespace DeviceInfo

open Regex

def Tagged (tag : String) (value line : Text) : Prop :=
  value ≠ [] ∧ line = tag.toList ++ value

def HasTag (tag : String) (lines : List Text) : Prop :=
  ∃ line ∈ lines, ∃ value, Tagged tag value line

/-- `value` stands behind the tag in the first line that has one there. -/
def FirstTagged (tag : String) (value : Text) (lines : List Text) : Prop :=
  ∃ before line after, lines = before ++ line :: after ∧
    (∀ earlier ∈ before, ∀ value, ¬ Tagged tag value earlier) ∧
    Tagged tag value line

/-- The first line that is not empty. -/
def FirstLine (value : Text) (lines : List Text) : Prop :=
  value ≠ [] ∧ ∃ before after, lines = before ++ value :: after ∧
    ∀ earlier ∈ before, earlier = []

def hasPrefix (tag : String) (line : Text) : Bool :=
  tag.toList.isPrefixOf line

def taggedValue (tag : String) (line : Text) : Option Text :=
  (fullMatch (taggedLine tag) line).map (·.group 1)

theorem tagged_of_taggedValue {tag : String} {value line : Text}
    (hvalue : taggedValue tag line = some value) : Tagged tag value line := by
  rcases Option.map_eq_some_iff.mp hvalue with ⟨m, hmatch, rfl⟩
  obtain ⟨groups, rfl, hderives⟩ := derives_of_fullMatch hmatch
  rcases derives_taggedLine.mp hderives with ⟨value, hnonempty, -, hline, rfl⟩
  exact ⟨hnonempty, hline⟩

theorem taggedValue_eq_some_iff {tag : String} {value line : Text}
    (hbreak : '\n' ∉ line) :
    taggedValue tag line = some value ↔ Tagged tag value line := by
  constructor
  · exact tagged_of_taggedValue
  · intro htagged
    have hplain : ∀ c ∈ value, c ≠ '\n' := by
      intro c hc heq
      subst heq
      exact hbreak (by simp [htagged.2, hc])
    have hsome : (taggedValue tag line).isSome := by
      rw [taggedValue, Option.isSome_map, fullMatch_isSome_iff]
      exact ⟨_, derives_taggedLine.mpr
        ⟨value, htagged.1, hplain, htagged.2, rfl⟩⟩
    rcases Option.isSome_iff_exists.mp hsome with ⟨found, hfound⟩
    -- the tag leaves only one value
    have hsame := (tagged_of_taggedValue hfound).2
    rw [htagged.2, List.append_cancel_left_eq] at hsame
    rw [hfound, hsame]

theorem taggedValue_eq_none_of_not_hasPrefix {tag : String} {line : Text}
    (hother : hasPrefix tag line = false) : taggedValue tag line = none := by
  rw [← Option.not_isSome_iff_eq_none]
  intro hsome
  rcases Option.isSome_iff_exists.mp hsome with ⟨value, hvalue⟩
  have htagged := tagged_of_taggedValue hvalue
  have hline : tag.toList <+: line := by
    rw [htagged.2]
    exact List.prefix_append _ _
  rw [hasPrefix, List.isPrefixOf_iff_prefix.mpr hline] at hother
  contradiction

section Lookup

variable {tag : String} {value : Text} {lines : List Text}

theorem findSome?_taggedValue_eq_some_iff
    (hlines : ∀ line ∈ lines, '\n' ∉ line) :
    lines.findSome? (taggedValue tag) = some value ↔
      FirstTagged tag value lines := by
  have hnone : ∀ line ∈ lines,
      taggedValue tag line = none ↔ ∀ value, ¬ Tagged tag value line := by
    intro line hline
    simp only [← taggedValue_eq_some_iff (hlines line hline)]
    exact Option.eq_none_iff_forall_ne_some
  rw [List.findSome?_eq_some_iff]
  constructor
  · intro hfirst
    rcases hfirst with ⟨before, line, after, hsplit, hvalue, hbefore⟩
    have hearlier : ∀ earlier ∈ before, ∀ value, ¬ Tagged tag value earlier := by
      intro earlier hmem
      exact (hnone earlier (by simp [hsplit, hmem])).mp (hbefore earlier hmem)
    exact ⟨before, line, after, hsplit, hearlier, tagged_of_taggedValue hvalue⟩
  · intro hfirst
    rcases hfirst with ⟨before, line, after, hsplit, hbefore, htagged⟩
    have hvalue : taggedValue tag line = some value :=
      (taggedValue_eq_some_iff (hlines line (by simp [hsplit]))).mpr htagged
    have hearlier : ∀ earlier ∈ before, taggedValue tag earlier = none := by
      intro earlier hmem
      exact (hnone earlier (by simp [hsplit, hmem])).mpr (hbefore earlier hmem)
    exact ⟨before, line, after, hsplit, hvalue, hearlier⟩

theorem findSome?_taggedValue_isSome_iff
    (hlines : ∀ line ∈ lines, '\n' ∉ line) :
    (lines.findSome? (taggedValue tag)).isSome ↔ HasTag tag lines := by
  rw [List.findSome?_isSome_iff]
  constructor
  · intro hsome
    rcases hsome with ⟨line, hline, hvalue⟩
    rcases Option.isSome_iff_exists.mp hvalue with ⟨value, hvalue⟩
    exact ⟨line, hline, value, tagged_of_taggedValue hvalue⟩
  · intro hhas
    rcases hhas with ⟨line, hline, value, htagged⟩
    have hvalue := (taggedValue_eq_some_iff (hlines line hline)).mpr htagged
    exact ⟨line, hline, by simp [hvalue]⟩

end Lookup

theorem lookup_taggedLine_eq_some_iff {files : FileSystem} {filename tag : String}
    {value : Text} :
    lookup files filename (taggedLine tag) = some value ↔
      FirstTagged tag value (fileLines files filename) := by
  rw [lookup_eq_findSome?]
  exact findSome?_taggedValue_eq_some_iff fun _ hline =>
    newline_notMem_of_mem_fileLines hline

theorem lookup_taggedLine_eq_none_iff {files : FileSystem}
    {filename tag : String} :
    lookup files filename (taggedLine tag) = none ↔
      ¬ HasTag tag (fileLines files filename) := by
  have hsome : (lookup files filename (taggedLine tag)).isSome ↔
      HasTag tag (fileLines files filename) := by
    rw [lookup_eq_findSome?]
    exact findSome?_taggedValue_isSome_iff fun _ hline =>
      newline_notMem_of_mem_fileLines hline
  rw [← hsome, Option.not_isSome_iff_eq_none]

theorem not_tagged_empty_iff {line : Text} :
    (∀ value, ¬ Tagged "" value line) ↔ line = [] := by
  constructor
  · intro huntagged
    by_contra hline
    exact huntagged line ⟨hline, rfl⟩
  · rintro rfl value ⟨hvalue, hline⟩
    exact hvalue hline.symm

theorem firstTagged_empty_iff {value : Text} {lines : List Text} :
    FirstTagged "" value lines ↔ FirstLine value lines := by
  simp only [FirstTagged, FirstLine, not_tagged_empty_iff]
  constructor
  · rintro ⟨before, line, after, hsplit, hbefore, hvalue, rfl⟩
    exact ⟨hvalue, before, after, hsplit, hbefore⟩
  · rintro ⟨hvalue, before, after, hsplit, hbefore⟩
    exact ⟨before, value, after, hsplit, hbefore, hvalue, rfl⟩

/-- `^([^\n]+)$` has no tag, so it finds the first line with anything in it. -/
theorem lookup_wholeLine_eq_some_iff {files : FileSystem} {filename : String}
    {value : Text} :
    lookup files filename wholeLine = some value ↔
      FirstLine value (fileLines files filename) := by
  rw [← firstTagged_empty_iff]
  exact lookup_taggedLine_eq_some_iff

/-- The other lines, and where they stand, do not matter. -/
theorem lookup_taggedLine_eq_of_filter_eq {files files' : FileSystem}
    {filename tag : String}
    (hsame : (fileLines files filename).filter (hasPrefix tag) =
      (fileLines files' filename).filter (hasPrefix tag)) :
    lookup files filename (taggedLine tag) =
      lookup files' filename (taggedLine tag) := by
  rw [lookup_eq_findSome?, lookup_eq_findSome?]
  have hmiss : ∀ line, hasPrefix tag line = false → taggedValue tag line = none :=
    fun _ hline => taggedValue_eq_none_of_not_hasPrefix hline
  exact FirstHit.findSome?_eq_of_filter_eq hmiss hsame

end DeviceInfo
end DeviceInfoPlugin
