import Mathlib.Data.Option.Basic
import Mathlib.Logic.ExistsUnique
import ScriptRunner.Proofs.Text.Ascii
import ScriptRunner.Proofs.Text.Span
import ScriptRunner.Shell.Flavor

namespace ScriptRunner.ShellFlavor

open Text (lowerAscii toList_lowerAscii)

/-- A text to put in front of a path: it is empty, or it ends with a separator. -/
def Directory (dir : String) : Prop := ∀ c ∈ dir.toList.getLast?, isSeparator c = true

/-- What stands behind the last separator of a path, or all of a path that has none. -/
structure FileName (path name : String) : Prop where
  plain : ∀ c ∈ name.toList, ¬ isSeparator c = true
  split : ∃ dir, path = dir ++ name ∧ Directory dir

section Lists

variable {path name dir : List Char}

theorem fileName_eq_iff :
    fileName path = name ↔ ∃ dir, path = dir ++ name ∧ (∀ c ∈ name, ¬ isSeparator c = true) ∧
      ∀ c ∈ dir.getLast?, isSeparator c = true := by
  constructor
  · rintro rfl
    obtain ⟨whole, plain, ends⟩ := (Text.span_iff (!isSeparator ·) path.reverse _ _).1 ⟨rfl, rfl⟩
    refine ⟨(path.reverse.dropWhile (!isSeparator ·)).reverse, ?_, ?_, ?_⟩
    · rw [fileName, ← List.reverse_append, ← whole, List.reverse_reverse]
    · intro c member
      simpa using plain c (by simpa [fileName] using member)
    · intro c last
      rw [List.getLast?_reverse] at last
      simpa using ends c last
  · rintro ⟨dir, rfl, plain, ends⟩
    rw [fileName, List.reverse_eq_iff]
    refine ((Text.span_iff (!isSeparator ·) _ _ dir.reverse).2 ⟨List.reverse_append, ?_, ?_⟩).1
    · intro c member
      simpa using plain c (List.mem_reverse.1 member)
    · intro c last
      rw [List.head?_reverse] at last
      simpa using ends c last

theorem fileName_append_left (ends : ∀ c ∈ dir.getLast?, isSeparator c = true) (path : List Char) :
    fileName (dir ++ path) = fileName path := by
  obtain ⟨front, whole, plain, last⟩ := fileName_eq_iff.1 (rfl : fileName path = _)
  refine fileName_eq_iff.2 ⟨dir ++ front, ?_, plain, ?_⟩
  · rw [List.append_assoc, ← whole]
  · intro c found
    rw [List.getLast?_append] at found
    cases behind : front.getLast? with
    | none => exact ends c (by simpa [behind] using found)
    | some d => exact last c (by simpa [behind] using found)

theorem fileName_append_right (plain : ∀ c ∈ name, ¬ isSeparator c = true) (path : List Char) :
    fileName (path ++ name) = fileName path ++ name := by
  obtain ⟨front, whole, clear, last⟩ := fileName_eq_iff.1 (rfl : fileName path = _)
  refine fileName_eq_iff.2 ⟨front, ?_, ?_, last⟩
  · rw [← List.append_assoc, ← whole]
  · intro c member
    exact (List.mem_append.1 member).elim (clear c) (plain c)

theorem isSeparator_toLower (c : Char) : isSeparator c.toLower = isSeparator c := by
  have slash : c.toLower = '/' ↔ c = '/' := Text.toLower_eq_iff rfl
  have backslash : c.toLower = '\\' ↔ c = '\\' := Text.toLower_eq_iff rfl
  rw [Bool.eq_iff_iff]
  simp only [isSeparator, Bool.or_eq_true, beq_iff_eq, slash, backslash]

theorem fileName_toLower (path : List Char) :
    fileName (path.map Char.toLower) = (fileName path).map Char.toLower := by
  obtain ⟨front, whole, plain, last⟩ := fileName_eq_iff.1 (rfl : fileName path = _)
  refine fileName_eq_iff.2 ⟨front.map Char.toLower, ?_, ?_, ?_⟩
  · rw [← List.map_append, ← whole]
  · intro c member
    obtain ⟨d, inside, rfl⟩ := List.mem_map.1 member
    rw [isSeparator_toLower]
    exact plain d inside
  · intro c found
    rw [List.getLast?_map, Option.mem_map] at found
    obtain ⟨d, ends, rfl⟩ := found
    rw [isSeparator_toLower]
    exact last d ends

theorem fileName_suffix (path : List Char) : fileName path <:+ path := by
  obtain ⟨front, whole, -⟩ := fileName_eq_iff.1 (rfl : fileName path = _)
  exact ⟨front, whole.symm⟩

end Lists

theorem fileName_iff {path name : String} : FileName path name ↔ fileName path.toList = name.toList := by
  rw [fileName_eq_iff]
  constructor
  · rintro ⟨plain, dir, rfl, ends⟩
    exact ⟨dir.toList, String.toList_append, plain, ends⟩
  · rintro ⟨dir, whole, plain, ends⟩
    refine ⟨plain, String.ofList dir, String.toList_injective ?_, ?_⟩
    · rw [String.toList_append, String.toList_ofList, whole]
    · rwa [Directory, String.toList_ofList]

theorem existsUnique_fileName (path : String) : ∃! name, FileName path name := by
  refine ⟨String.ofList (fileName path.toList), fileName_iff.2 String.toList_ofList.symm, ?_⟩
  intro name named
  rw [fileName_iff.1 named, String.ofList_toList]

def programEnding : String := ".exe"

def bare (file : List Char) : List Char :=
  if programEnding.toList.isSuffixOf file then file.take (file.length - 4) else file

theorem stem_eq_bare (shell : String) : stem shell = bare ((fileName shell.toList).map Char.toLower) := rfl

theorem bare_append_programEnding (word : List Char) : bare (word ++ programEnding.toList) = word := by
  have ends : programEnding.toList.isSuffixOf (word ++ programEnding.toList) = true :=
    List.isSuffixOf_iff_suffix.2 (List.suffix_append _ _)
  have length : (word ++ programEnding.toList).length - 4 = word.length := by
    rw [List.length_append]
    exact Nat.add_sub_cancel word.length 4
  rw [bare, if_pos ends, length, List.take_left' rfl]

theorem bare_of_not_suffix {file : List Char} (free : ¬ programEnding.toList <:+ file) : bare file = file := by
  rw [bare, if_neg (by rwa [List.isSuffixOf_iff_suffix])]

theorem bare_eq_iff {file word : List Char} (free : ¬ programEnding.toList <:+ word) :
    bare file = word ↔ file = word ∨ file = word ++ programEnding.toList := by
  constructor
  · rintro rfl
    by_cases ends : programEnding.toList <:+ file
    · obtain ⟨front, rfl⟩ := ends
      rw [bare_append_programEnding]
      exact .inr rfl
    · exact .inl (bare_of_not_suffix ends).symm
  · rintro (rfl | rfl)
    · exact bare_of_not_suffix free
    · exact bare_append_programEnding word

theorem stem_eq_iff {shell name word : String} (named : FileName shell name)
    (free : ¬ programEnding.toList <:+ word.toList) :
    stem shell = word.toList ↔ lowerAscii name = word ∨ lowerAscii name = word ++ programEnding := by
  rw [stem_eq_bare, fileName_iff.1 named, ← toList_lowerAscii, bare_eq_iff free, ← String.toList_append,
    String.toList_inj, String.toList_inj]

theorem of_eq_cmd_iff_stem {shell : String} : of shell = .cmd ↔ stem shell = "cmd".toList := by
  unfold of
  split
  · next same => exact iff_of_true rfl same
  · next other =>
    refine iff_of_false ?_ other
    split <;> nofun

theorem of_eq_powershell_iff_stem {shell : String} :
    of shell = .powershell ↔ stem shell = "pwsh".toList ∨ stem shell = "powershell".toList := by
  unfold of
  split
  · next same =>
    refine iff_of_false nofun ?_
    rw [same]
    decide
  · split
    · next same => exact iff_of_true rfl same
    · next other => exact iff_of_false nofun other

theorem of_eq_posix_iff {shell : String} : of shell = .posix ↔ of shell ≠ .cmd ∧ of shell ≠ .powershell := by
  cases of shell <;> decide

def cmdNames : List String := ["cmd", "cmd.exe"]

def powershellNames : List String := ["pwsh", "pwsh.exe", "powershell", "powershell.exe"]

variable {shell name : String}

theorem of_eq_cmd_iff (named : FileName shell name) : of shell = .cmd ↔ lowerAscii name ∈ cmdNames := by
  rw [of_eq_cmd_iff_stem, stem_eq_iff named (by decide)]
  simp [cmdNames, programEnding]

theorem of_eq_powershell_iff (named : FileName shell name) :
    of shell = .powershell ↔ lowerAscii name ∈ powershellNames := by
  rw [of_eq_powershell_iff_stem, stem_eq_iff named (by decide), stem_eq_iff named (by decide)]
  simp [powershellNames, programEnding, or_assoc]

theorem of_eq_of_stem_eq {shell shell' : String} (same : stem shell = stem shell') : of shell = of shell' := by
  rw [of, of, same]

theorem of_append_left {dir : String} (ends : Directory dir) (shell : String) : of (dir ++ shell) = of shell := by
  apply of_eq_of_stem_eq
  rw [stem_eq_bare, stem_eq_bare, String.toList_append, fileName_append_left ends]

theorem of_eq_of_lowerAscii_eq {shell shell' : String} (same : lowerAscii shell = lowerAscii shell') :
    of shell = of shell' := by
  apply of_eq_of_stem_eq
  rw [stem_eq_bare, stem_eq_bare, ← fileName_toLower, ← fileName_toLower, ← toList_lowerAscii, ← toList_lowerAscii,
    same]

theorem of_append_right {ending : String} (lower : lowerAscii ending = programEnding)
    (free : ¬ programEnding.toList <:+ (lowerAscii shell).toList) : of (shell ++ ending) = of shell := by
  have spelled : ending.toList.map Char.toLower = programEnding.toList := by rw [← toList_lowerAscii, lower]
  have plain : ∀ c ∈ ending.toList, ¬ isSeparator c = true := by
    intro c member
    rw [← isSeparator_toLower]
    have free : ∀ d ∈ programEnding.toList, ¬ isSeparator d = true := by simp [programEnding, isSeparator]
    exact free c.toLower (spelled ▸ List.mem_map_of_mem member)
  have once : ¬ programEnding.toList <:+ (fileName shell.toList).map Char.toLower := by
    intro ends
    apply free
    rw [toList_lowerAscii]
    exact ends.trans ((fileName_suffix shell.toList).map Char.toLower)
  apply of_eq_of_stem_eq
  rw [stem_eq_bare, stem_eq_bare, String.toList_append, fileName_append_right plain, List.map_append, spelled,
    bare_append_programEnding, bare_of_not_suffix once]

end ScriptRunner.ShellFlavor
