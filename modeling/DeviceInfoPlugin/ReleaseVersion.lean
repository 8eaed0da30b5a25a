import DeviceInfoPlugin.RegexSearch
import DeviceInfoPlugin.TaggedLines

/-!
# The release version

`ReleaseVersion` searches the image name for two numbers with a dot between
them and `s` or `p` behind.  The search is not anchored, so it could begin in
the middle of a number; it never does, because the match that begins at the
start of that number comes first.
-/

namespace DeviceInfoPlugin
namespace DeviceInfo

open Regex

/-- `\d` -/
def isDigit (c : Char) : Bool :=
  '0' ≤ c && c ≤ '9'

/-- `[sp]` -/
def isStage (c : Char) : Bool :=
  c = 's' || c = 'p'

/-- `(\d+)\.(\d+)[sp]` -/
def versionPattern : Pattern Char :=
  .seq (.group 1 (.some (.symbol isDigit))) (.seq (.literal ['.'])
    (.seq (.group 2 (.some (.symbol isDigit))) (.symbol isStage)))

def defaultVersion : Text := "99.99.0.0".toList

/-- What the caller passes is overwritten in every case. -/
def releaseVersion (files : FileSystem) : Hresult × Text :=
  let (result, imagename) :=
    getFileRegex files "/version.txt" (taggedLine "imagename:") []
  if result = ERROR_NONE then
    match search versionPattern true imagename with
    | some m =>
        let major := m.group 1
        let minor := m.group 2
        (ERROR_NONE, major ++ ".".toList ++ minor ++ ".0.0".toList)
    | none => (ERROR_NONE, defaultVersion)
  else
    (ERROR_NONE, defaultVersion)

/-! ## Version numbers in a name -/

def Digits (text : Text) : Prop :=
  text ≠ [] ∧ ∀ c ∈ text, isDigit c = true

def VersionAt (name before major minor : Text) : Prop :=
  ∃ c after, Digits major ∧ Digits minor ∧ isStage c = true ∧
    name = before ++ (major ++ '.' :: (minor ++ c :: after))

/-- Both numbers are maximal runs of digits: the dot and the letter end them,
and the first one does not continue a number either. -/
structure VersionPlace (name before major minor : Text) : Prop where
  versionAt : VersionAt name before major minor
  maximal : ∀ c ∈ before.getLast?, isDigit c = false

def FirstPlace (name major minor : Text) : Prop :=
  ∃ before, VersionPlace name before major minor ∧
    ∀ before' major' minor', VersionPlace name before' major' minor' →
      before.length ≤ before'.length

theorem isDigit_dot : isDigit '.' = false := by decide

theorem isDigit_of_isStage {c : Char} (hc : isStage c = true) :
    isDigit c = false := by
  simp only [isStage, Bool.or_eq_true, decide_eq_true_eq] at hc
  rcases hc with rfl | rfl <;> decide

theorem VersionAt.unique {name before before' major major' minor minor' : Text}
    (hat : VersionAt name before major minor)
    (hat' : VersionAt name before' major' minor')
    (hlength : before.length = before'.length) :
    major = major' ∧ minor = minor' := by
  rcases hat with ⟨c, after, hmajor, hminor, hc, hname⟩
  rcases hat' with ⟨c', after', hmajor', hminor', hc', hname'⟩
  rw [hname] at hname'
  obtain ⟨-, hrest⟩ := List.append_inj hname' hlength
  obtain ⟨hsame, -, hrest⟩ := taken_inj hmajor.2 hmajor'.2 isDigit_dot
    isDigit_dot hrest
  obtain ⟨hsame', -, -⟩ := taken_inj hminor.2 hminor'.2
    (isDigit_of_isStage hc) (isDigit_of_isStage hc') hrest
  exact ⟨hsame, hsame'⟩

/-- A number that begins in the middle of a run of digits can be begun one
digit earlier. -/
theorem VersionAt.extend {name before major minor : Text} {d : Char}
    (hat : VersionAt name (before ++ [d]) major minor)
    (hd : isDigit d = true) : VersionAt name before (d :: major) minor := by
  rcases hat with ⟨c, after, hmajor, hminor, hc, hname⟩
  have hdigits : Digits (d :: major) :=
    ⟨by simp, List.forall_mem_cons.mpr ⟨hd, hmajor.2⟩⟩
  exact ⟨c, after, hdigits, hminor, hc, by simp [hname]⟩

/-! ## What the search finds -/

theorem derives_versionPattern {atStart : Bool} {consumed rest : Text}
    {groups : List (Nat × Text)} :
    Derives versionPattern atStart ⟨consumed, rest, groups⟩ ↔
      ∃ major minor c, Digits major ∧ Digits minor ∧ isStage c = true ∧
        consumed = major ++ '.' :: (minor ++ [c]) ∧
        groups = [(2, minor), (1, major)] := by
  have hdigits := takes_some_symbol isDigit
  have hdot := takes_literal ['.']
  have hstage := takes_symbol isStage
  simp only [versionPattern, hdigits.derives_group_seq, hdot.derives_seq]
  constructor
  · intro hparts
    rcases hparts with ⟨major, _, later, rfl, hmajor, hgroups, _, _, rfl, rfl,
      minor, back, last, rfl, hminor, hlater, hback⟩
    rcases (hstage _ _ _ _).mp hback with ⟨⟨c, hc, rfl⟩, rfl⟩
    rw [hlater] at hgroups
    exact ⟨major, minor, c, hmajor, hminor, hc, by simp, by simpa using hgroups⟩
  · intro hparts
    rcases hparts with ⟨major, minor, c, hmajor, hminor, hc, rfl, rfl⟩
    have hlast : Derives (.symbol isStage)
        (((atStart && major.isEmpty) && ['.'].isEmpty) && minor.isEmpty)
        ⟨[c], rest, []⟩ :=
      .symbol hc
    exact ⟨major, '.' :: (minor ++ [c]), [(2, minor)], rfl, hmajor, rfl, ['.'],
      minor ++ [c], rfl, rfl, minor, [c], [], rfl, hminor, rfl, hlast⟩

theorem versionAt_of_occurs {name skipped : Text} {m : Match Char}
    (hoccurs : Occurs versionPattern true name skipped m) :
    VersionAt name skipped (m.group 1) (m.group 2) := by
  rcases m with ⟨consumed, rest, groups⟩
  rcases derives_versionPattern.mp hoccurs.derives with
    ⟨major, minor, c, hmajor, hminor, hc, rfl, rfl⟩
  have hname := hoccurs.input_eq
  change VersionAt name skipped major minor
  exact ⟨c, rest, hmajor, hminor, hc, by simpa using hname.symm⟩

theorem occurs_of_versionAt {name before major minor : Text}
    (hat : VersionAt name before major minor) :
    ∃ m, Occurs versionPattern true name before m := by
  rcases hat with ⟨c, after, hmajor, hminor, hc, hname⟩
  have hderives : Derives versionPattern (true && before.isEmpty)
      ⟨major ++ '.' :: (minor ++ [c]), after, [(2, minor), (1, major)]⟩ :=
    derives_versionPattern.mpr ⟨major, minor, c, hmajor, hminor, hc, rfl, rfl⟩
  exact ⟨_, hderives, by simp [hname]⟩

/-- The search reports the leftmost place, with both numbers whole. -/
theorem firstPlace_of_search {name : Text} {m : Match Char}
    (hsearch : search versionPattern true name = some m) :
    FirstPlace name (m.group 1) (m.group 2) := by
  rcases occurs_of_search hsearch with ⟨skipped, hoccurs, hfirst⟩
  have hat := versionAt_of_occurs hoccurs
  have hleast : ∀ before major minor, VersionAt name before major minor →
      skipped.length ≤ before.length := by
    intro before major minor hbefore
    rcases occurs_of_versionAt hbefore with ⟨m', hoccurs'⟩
    exact hfirst before m' hoccurs'
  have hmaximal : ∀ c ∈ skipped.getLast?, isDigit c = false := by
    intro c hc
    obtain ⟨front, hfront⟩ := List.getLast?_eq_some_iff.mp hc
    by_contra hdigit
    rw [Bool.not_eq_false] at hdigit
    rw [hfront] at hat
    -- the match would have begun one digit earlier
    have hearlier := hleast front _ _ (hat.extend hdigit)
    rw [hfront, List.length_append, List.length_singleton] at hearlier
    omega
  use skipped, ⟨hat, hmaximal⟩
  intro before major minor hplace
  exact hleast before major minor hplace.versionAt

theorem search_isSome_of_versionAt {name before major minor : Text}
    (hat : VersionAt name before major minor) :
    (search versionPattern true name).isSome := by
  rw [← Option.ne_none_iff_isSome]
  intro hnone
  rcases occurs_of_versionAt hat with ⟨m, hoccurs⟩
  exact search_eq_none_iff.mp hnone before m hoccurs

theorem FirstPlace.unique {name major major' minor minor' : Text}
    (hfirst : FirstPlace name major minor)
    (hfirst' : FirstPlace name major' minor') :
    major = major' ∧ minor = minor' := by
  rcases hfirst with ⟨before, hplace, hleast⟩
  rcases hfirst' with ⟨before', hplace', hleast'⟩
  apply hplace.versionAt.unique hplace'.versionAt
  exact Nat.le_antisymm (hleast _ _ _ hplace') (hleast' _ _ _ hplace)

/-! ## The accessor -/

def imageName (files : FileSystem) : Option Text :=
  lookup files "/version.txt" (taggedLine "imagename:")

theorem releaseVersion_of_found {files : FileSystem} {name : Text}
    {m : Match Char} (hname : imageName files = some name)
    (hsearch : search versionPattern true name = some m) :
    releaseVersion files =
      (ERROR_NONE, m.group 1 ++ '.' :: (m.group 2 ++ ".0.0".toList)) := by
  rw [imageName] at hname
  simp [releaseVersion, getFileRegex_eq_reported, hname, reported, hsearch]

theorem releaseVersion_of_not_found {files : FileSystem}
    (hnone : ∀ name, imageName files = some name →
      search versionPattern true name = none) :
    releaseVersion files = (ERROR_NONE, defaultVersion) := by
  unfold releaseVersion
  rw [getFileRegex_eq_reported]
  cases hname : imageName files with
  | none =>
      rw [imageName] at hname
      simp [hname, reported]
  | some name =>
      have hsearch := hnone name hname
      rw [imageName] at hname
      simp [hname, reported, hsearch]

/-- The release version of a device: two numbers out of its image name, or the
default. -/
structure ReportsRelease (files : FileSystem) (major minor : Text) : Prop where
  result_eq : releaseVersion files =
    (ERROR_NONE, major ++ '.' :: (minor ++ ".0.0".toList))
  major_digits : Digits major
  minor_digits : Digits minor
  found : ∀ name major' minor',
    FirstTagged "imagename:" name (fileLines files "/version.txt") →
    FirstPlace name major' minor' → major = major' ∧ minor = minor'
  not_found : (∀ name before major' minor',
      FirstTagged "imagename:" name (fileLines files "/version.txt") →
      ¬ VersionPlace name before major' minor') →
    major = "99".toList ∧ minor = "99".toList

theorem releaseVersion_reports (files : FileSystem) :
    ∃ major minor, ReportsRelease files major minor := by
  have htagged : ∀ name, imageName files = some name ↔
      FirstTagged "imagename:" name (fileLines files "/version.txt") :=
    fun _ => lookup_taggedLine_eq_some_iff
  by_cases hfound : ∃ name m, imageName files = some name ∧
      search versionPattern true name = some m
  · rcases hfound with ⟨name, m, hname, hsearch⟩
    have hfirst := firstPlace_of_search hsearch
    have hplace := hfirst
    rcases hplace with ⟨before, hplace, -⟩
    rcases hplace.versionAt with ⟨c, after, hmajor, hminor, -, -⟩
    refine ⟨m.group 1, m.group 2, releaseVersion_of_found hname hsearch, hmajor,
      hminor, ?_, ?_⟩
    · intro name' major' minor' hname' hfirst'
      have hsame : name' = name := by
        rw [← htagged, hname, Option.some.injEq] at hname'
        exact hname'.symm
      rw [hsame] at hfirst'
      exact hfirst.unique hfirst'
    · intro hno
      exact absurd hplace (hno name before _ _ ((htagged name).mp hname))
  · have hnone : ∀ name, imageName files = some name →
        search versionPattern true name = none := by
      intro name hname
      rw [← Option.not_isSome_iff_eq_none]
      intro hsome
      rcases Option.isSome_iff_exists.mp hsome with ⟨m, hsearch⟩
      exact hfound ⟨name, m, hname, hsearch⟩
    have hdigits : Digits "99".toList := by
      change Digits ['9', '9']
      simp [Digits, isDigit]
    refine ⟨"99".toList, "99".toList, releaseVersion_of_not_found hnone, hdigits,
      hdigits, ?_, fun _ => ⟨rfl, rfl⟩⟩
    intro name major' minor' hname hfirst
    rcases hfirst with ⟨before, hplace, -⟩
    have hsome := search_isSome_of_versionAt hplace.versionAt
    rw [hnone name ((htagged name).mpr hname)] at hsome
    contradiction

example : releaseVersion (fun _ => some "imagename:X_1.22.03s_4.5p\n".toList) =
    (ERROR_NONE, "22.03.0.0".toList) := by
  decide

end DeviceInfo
end DeviceInfoPlugin
