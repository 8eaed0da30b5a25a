import DeviceInfoPlugin.FirmwareVersion

/-!
# Writing a version file

`FirmwareVersion` reads back what was written into version.txt, and what it
reads is always something that can be written there: an image name that is not
empty, and no line break in any field.
-/

namespace DeviceInfoPlugin
namespace DeviceInfo

/-! ## The file -/

structure VersionFile where
  imagename : Text
  sdk : Text
  mediarite : Text
  yocto : Text
  named : imagename ≠ []
  plain : ∀ field ∈ [imagename, sdk, mediarite, yocto], '\n' ∉ field

namespace VersionFile

def entries (file : VersionFile) : List (String × Text) :=
  [("imagename:", file.imagename), ("SDK_VERSION=", file.sdk),
    ("MEDIARITE=", file.mediarite), ("YOCTO_VERSION=", file.yocto)]

def lines (file : VersionFile) : List Text :=
  file.entries.map fun entry => entry.1.toList ++ entry.2

/-- The lines with a tag are those of the file; others may stand between. -/
def WrittenIn (file : VersionFile) (lines : List Text) : Prop :=
  ∀ entry ∈ file.entries,
    lines.filter (hasPrefix entry.1) = [entry.1.toList ++ entry.2]

def info (file : VersionFile) (pdri : Text) : FirmwareversionInfo where
  imagename := file.imagename
  sdk := file.sdk
  mediarite := file.mediarite
  yocto := file.yocto
  pdri := pdri

/-- The lines of the file and nothing else. -/
def content (file : VersionFile) : Text :=
  putlines file.lines

theorem newline_notMem_of_mem_lines (file : VersionFile) {line : Text}
    (hline : line ∈ file.lines) : '\n' ∉ line := by
  have hplain := file.plain
  simp only [lines, entries, List.map_cons, List.map_nil, List.mem_cons,
    List.not_mem_nil, or_false] at hline hplain
  rcases hline with rfl | rfl | rfl | rfl <;> simp [hplain]

theorem writtenIn_lines (file : VersionFile) : file.WrittenIn file.lines := by
  intro entry hentry
  simp only [entries, List.mem_cons, List.not_mem_nil, or_false] at hentry
  rcases hentry with rfl | rfl | rfl | rfl <;>
    simp [hasPrefix, lines, entries]

end VersionFile

/-! ## Reading it -/

section Reading

variable {files : FileSystem} {filename tag : String} {value : Text}

/-- A tag with nothing behind it is not found. -/
theorem lookup_of_written
    (hwritten : (fileLines files filename).filter (hasPrefix tag) =
      [tag.toList ++ value]) :
    lookup files filename (taggedLine tag) =
      if value = [] then none else some value := by
  have hmiss : ∀ line, hasPrefix tag line = false → taggedValue tag line = none :=
    fun _ hline => taggedValue_eq_none_of_not_hasPrefix hline
  have hmem : tag.toList ++ value ∈ fileLines files filename := by
    have hlast : tag.toList ++ value ∈
        (fileLines files filename).filter (hasPrefix tag) := by
      rw [hwritten]
      exact List.mem_cons_self
    exact List.mem_of_mem_filter hlast
  have hbreak := newline_notMem_of_mem_fileLines hmem
  have hlookup : lookup files filename (taggedLine tag) =
      taggedValue tag (tag.toList ++ value) := by
    have hfound := FirstHit.findSome?_filter hmiss (fileLines files filename)
    rw [hwritten] at hfound
    rw [lookup_eq_findSome?]
    change (fileLines files filename).findSome? (taggedValue tag) = _
    rw [← hfound]
    simp
  rw [hlookup]
  split
  next hempty =>
      rw [Option.eq_none_iff_forall_ne_some]
      intro found hfound
      have htagged := (taggedValue_eq_some_iff hbreak).mp hfound
      have hsame : value = found := List.append_cancel_left htagged.2
      exact htagged.1 (hsame.symm.trans hempty)
  next hvalue => exact (taggedValue_eq_some_iff hbreak).mpr ⟨hvalue, rfl⟩

theorem firmwareVersion_of_written (device : Device) {file : VersionFile}
    (hwritten : file.WrittenIn (versionLines device))
    (hcopyable : (device.mfr .pdriVersion).Copyable)
    (prior : FirmwareversionInfo) :
    firmwareVersion device prior = .ok (ERROR_NONE,
      file.info ((device.mfr .pdriVersion).offered.getD [])) := by
  have hfield : ∀ entry ∈ file.entries,
      versionField device entry.1 =
        if entry.2 = [] then none else some entry.2 := by
    intro entry hentry
    exact lookup_of_written (hwritten entry hentry)
  simp only [VersionFile.entries, List.forall_mem_cons] at hfield
  rcases hfield with ⟨hname, hsdk, hmediarite, hyocto, -⟩
  rw [if_neg file.named] at hname
  rw [firmwareVersion_of_named hname hcopyable prior]
  have hgetD : ∀ field : Text,
      (if field = [] then none else some field : Option Text).getD [] = field := by
    intro field
    split
    next h => exact h.symm
    next => rfl
  simp only [reportedFirmware, hsdk, hmediarite, hyocto, hgetD]
  rfl

end Reading

/-! ## What can be read -/

theorem FirstTagged.ne_nil {tag : String} {value : Text} {lines : List Text}
    (hfirst : FirstTagged tag value lines) : value ≠ [] := by
  rcases hfirst with ⟨before, line, after, hsplit, hbefore, htagged⟩
  exact htagged.1

theorem FirstTagged.newline_notMem {device : Device} {tag : String}
    {value : Text} (hfirst : FirstTagged tag value (versionLines device)) :
    '\n' ∉ value := by
  rcases hfirst with ⟨before, line, after, hsplit, hbefore, htagged⟩
  have hmem : line ∈ versionLines device := by
    rw [hsplit]
    simp
  have hbreak := newline_notMem_of_mem_fileLines hmem
  intro hvalue
  exact hbreak (by simp [htagged.2, hvalue])

theorem OptionalTagged.newline_notMem {device : Device} {tag : String}
    {value : Text} (htagged : OptionalTagged tag value (versionLines device)) :
    '\n' ∉ value := by
  rcases htagged with hfirst | hnone
  · exact hfirst.newline_notMem
  · simp [hnone.2]

theorem exists_versionFile_of_readFrom {device : Device}
    {info : FirmwareversionInfo} {reply : MfrReply}
    (hread : info.ReadFrom (versionLines device) reply) :
    ∃ file : VersionFile, info = file.info (reply.offered.getD []) := by
  have hplain : ∀ field ∈ [info.imagename, info.sdk, info.mediarite, info.yocto],
      '\n' ∉ field := by
    simp [hread.imagename.newline_notMem, hread.sdk.newline_notMem,
      hread.mediarite.newline_notMem, hread.yocto.newline_notMem]
  use ⟨info.imagename, info.sdk, info.mediarite, info.yocto,
    hread.imagename.ne_nil, hplain⟩
  simp [VersionFile.info, ← hread.pdri]

/-- A call succeeds only if there is an image name and the reply about the pdri
version could be copied. -/
theorem exists_versionFile_of_ok {device : Device}
    {prior info : FirmwareversionInfo}
    (hcall : firmwareVersion device prior = .ok (ERROR_NONE, info)) :
    (device.mfr .pdriVersion).Copyable ∧ ∃ file : VersionFile,
      info = file.info ((device.mfr .pdriVersion).offered.getD []) := by
  cases hname : versionField device "imagename:" with
  | none =>
      rw [firmwareVersion_of_unnamed hname, Except.ok.injEq,
        Prod.mk.injEq] at hcall
      exact absurd hcall.1 ERROR_GENERAL_ne_ERROR_NONE
  | some imagename =>
      by_cases hcopyable : (device.mfr .pdriVersion).Copyable
      · rw [firmwareVersion_of_named hname hcopyable, Except.ok.injEq,
          Prod.mk.injEq] at hcall
        have hread := reportedFirmware_readFrom hname
        rw [hcall.2] at hread
        exact ⟨hcopyable, exists_versionFile_of_readFrom hread⟩
      · rcases firmwareVersion_fails hname hcopyable prior with ⟨fault, hfault⟩
        rw [hfault] at hcall
        contradiction

/-- For a given manufacturer library, a successful call reads exactly what can
be written into version.txt, and it reads back each such file, also when its
lines are in another order and have others between them. -/
theorem firmwareVersion_reads_written (device : Device) :
    (∀ info, (∃ files prior, firmwareVersion { device with files } prior =
        .ok (ERROR_NONE, info)) ↔
      (device.mfr .pdriVersion).Copyable ∧ ∃ file : VersionFile,
        info = file.info ((device.mfr .pdriVersion).offered.getD [])) ∧
    ∀ (file : VersionFile) files,
      file.WrittenIn (fileLines files "/version.txt") →
        (device.mfr .pdriVersion).Copyable → ∀ prior,
          firmwareVersion { device with files } prior = .ok (ERROR_NONE,
            file.info ((device.mfr .pdriVersion).offered.getD [])) := by
  have hback : ∀ (file : VersionFile) files,
      file.WrittenIn (fileLines files "/version.txt") →
        (device.mfr .pdriVersion).Copyable → ∀ prior,
          firmwareVersion { device with files } prior = .ok (ERROR_NONE,
            file.info ((device.mfr .pdriVersion).offered.getD [])) := by
    intro file files hwritten hcopyable prior
    exact firmwareVersion_of_written { device with files } hwritten hcopyable
      prior
  refine ⟨?_, hback⟩
  intro info
  constructor
  · intro hread
    rcases hread with ⟨files, prior, hcall⟩
    have hwritten := exists_versionFile_of_ok hcall
    exact hwritten
  · intro hwritten
    rcases hwritten with ⟨hcopyable, file, rfl⟩
    use fun _ => some file.content, file.info []
    apply hback _ _ ?_ hcopyable
    have hlines : fileLines (fun _ => some file.content) "/version.txt" =
        file.lines :=
      getlines_putlines fun _ hline => file.newline_notMem_of_mem_lines hline
    rw [hlines]
    exact file.writtenIn_lines

end DeviceInfo
end DeviceInfoPlugin
