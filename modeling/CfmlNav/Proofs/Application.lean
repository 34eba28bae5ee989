import CfmlNav.Application
import CfmlNav.Proofs.FileSet
import CfmlNav.Proofs.LetterCase.Key

/-!
# Locating and loading application files

An application file is located by its path on disk, but loaded by its number, and in between stands
the set of known files, for which all spellings of a path are one file. The file keeps the spelling
by which it was first known (`FileSet.path?_intern`, `FileSet.known?_ofPaths`), so it is this
spelling that is loaded, whatever the path that was found (`loads_first_spelling_iff`). On a file
system that tells spellings apart it may lead to nothing or to another file. The dialect at least is
the same for all spellings, because the key of a path shows its extension (`ofFile_eq_of_key_eq`).
-/

namespace CfmlNav

open Text

/-! ### The dialect of an application file -/

theorem Path.exists_join_eq_append (directory : Path) {name : Path} (h : name.isAbsolute = false) :
    ∃ front, directory.join name = front ++ name := by
  rw [join, h]
  split
  next habsolute => contradiction
  next =>
    split
    next => exact ⟨directory, rfl⟩
    next => exact ⟨directory ++ ['/'], by simp⟩

namespace ApplicationFiles

variable {disk : FileSystem} {root : Option Path} {path found other : Path}

/-- The names of application files are spellings of two names. -/
theorem exists_extension_of_mem_names : ∀ name ∈ names,
    ∃ extension ∈ ["cfc".toList, "cfm".toList],
      asciiLowercase name = "applicatio".toList ++ 'n' :: '.' :: extension := by
  decide

/-- An application file that is found has one of the names, behind the path of a directory. -/
theorem exists_append_of_findAbove (h : findAbove disk root path = some found) :
    ∃ front, ∃ name ∈ names, found = front ++ name := by
  rw [findAbove] at h
  split at h
  next =>
    obtain ⟨directory, -, hfound⟩ := List.mem_flatMap.mp (List.mem_of_find?_eq_some h)
    obtain ⟨name, hname, rfl⟩ := List.mem_map.mp hfound
    have hrelative : ∀ name ∈ names, Path.isAbsolute name = false := by decide
    obtain ⟨front, hfront⟩ := Path.exists_join_eq_append directory (hrelative name hname)
    exact ⟨front, name, hname, hfront⟩
  next => simp at h

/-- **All spellings of an application file have one dialect.** -/
theorem ofFile_eq_of_key_eq (h : findAbove disk root path = some found)
    (hkey : FileSet.key other = FileSet.key found) (text : Text) :
    ApplicationSource.ofFile other text = .ofFile found text := by
  obtain ⟨front, name, hname, hfound⟩ := exists_append_of_findAbove h
  obtain ⟨extension, hextension, hlower⟩ := exists_extension_of_mem_names name hname
  have hascii : ∀ name ∈ names, isAscii name = true ∧ '\\' ∉ name := by decide
  obtain ⟨out, hout⟩ := FileSet.exists_key_append front (hascii name hname).1 (hascii name hname).2
  rw [← hfound, hlower, ← List.append_assoc] at hout
  -- the key of any spelling ends with the extension
  have hshows : ∀ extension ∈ ["cfc".toList, "cfm".toList],
      List.all ('n' :: '.' :: extension) Character.isPlainLower = true ∧
        '/' ∉ 'n' :: extension ∧ '.' ∉ extension := by
    decide
  obtain ⟨hplain, hslash, hdot⟩ := hshows extension hextension
  have hsame {spelling : Path} (hspelling : FileSet.key spelling = FileSet.key found) :
      spelling.extension?.map asciiLowercase = some extension :=
    Path.extension?_of_key hplain (by decide) hslash hdot (hspelling.trans hout)
  rw [ApplicationSource.ofFile, ApplicationSource.ofFile, hsame hkey, hsame rfl]

/-! ### Locating and loading -/

theorem ofFile_inj {text text' : Text} :
    ApplicationSource.ofFile path text = .ofFile path text' ↔ text = text' :=
  ⟨congrArg ApplicationSource.text, congrArg (ApplicationSource.ofFile path)⟩

/-- A file is loaded from the path that it has. -/
theorem load_eq_ofFile_iff {files : FileSet} {file : FileId} {text : Text}
    (hpath : files.path? file = some path) :
    (onDisk disk root).load files file = .ok (.ofFile path text) ↔ disk.read path = .ok text := by
  simp only [onDisk, hpath]
  cases disk.read path with
  | error cause => simp
  | ok content => rw [Except.ok.injEq, ofFile_inj, Except.ok.injEq]

/-- **The first spelling is loaded.** Whatever paths have become known before, an application file
that is found for a file is located, but by the first spelling of its path. It is loaded with the
text that it has and the dialect of the path that was found if and only if the first spelling
leads to the same text, so in particular if the path has had no other spelling. -/
theorem loads_first_spelling_iff (paths : List Path) (disk : FileSystem) (root : Option Path)
    {file : FileId} {text : Text}
    (hfound : ((FileSet.ofPaths paths).path? file).bind (findAbove disk root) = some found)
    (hread : disk.read found = .ok text) :
    ∃ located files,
      (onDisk disk root).locate (FileSet.ofPaths paths) file = (some located, files) ∧
      files.path? located = some (FileSet.firstSpelling paths found) ∧
      ((onDisk disk root).load files located = .ok (.ofFile found text) ↔
        disk.read (FileSet.firstSpelling paths found) = .ok text) ∧
      ((∀ other ∈ paths, FileSet.key other = FileSet.key found → other = found) →
        (onDisk disk root).load files located = .ok (.ofFile found text)) := by
  obtain ⟨path, -, habove⟩ := Option.bind_eq_some_iff.mp hfound
  obtain ⟨located, files, hintern⟩ : ∃ located files,
      (FileSet.ofPaths paths).intern found = (located, files) := ⟨_, _, rfl⟩
  have hlocated : files.path? located = some (FileSet.firstSpelling paths found) := by
    have hpath := FileSet.path?_intern (FileSet.ofPaths paths) found
    rwa [FileSet.known?_ofPaths, hintern] at hpath
  have hload : (onDisk disk root).load files located = .ok (.ofFile found text) ↔
      disk.read (FileSet.firstSpelling paths found) = .ok text := by
    have hdialect := ofFile_eq_of_key_eq habove (FileSet.key_firstSpelling paths found) text
    rw [← hdialect]
    exact load_eq_ofFile_iff hlocated
  refine ⟨located, files, by simp only [onDisk, hfound, hintern], hlocated, hload, ?_⟩
  intro hother
  rw [hload, FileSet.firstSpelling_eq_self hother]
  exact hread

theorem loads_first_spelling_beside_file :
    let tree : FileTree := ({} : FileTree).write "/site/Application.cfc".toList
      (some "application.q = 1;".toList)
    let paths : List Path := ["/site/M.cfm".toList]
    let found : Path := "/site/Application.cfc".toList
    ((FileSet.ofPaths paths).path? ⟨0⟩).bind (findAbove tree.fileSystem .none) = some found ∧
      tree.fileSystem.read found = .ok "application.q = 1;".toList ∧
      ∃ located files, (onDisk tree.fileSystem .none).locate (FileSet.ofPaths paths) ⟨0⟩ =
          (some located, files) ∧
        (onDisk tree.fileSystem .none).load files located =
          .ok ⟨"application.q = 1;".toList, .script⟩ := by
  intro tree paths found
  have hfound : ((FileSet.ofPaths paths).path? ⟨0⟩).bind (findAbove tree.fileSystem .none) =
      some found := by decide +kernel
  have hread : tree.fileSystem.read found = .ok "application.q = 1;".toList := by decide +kernel
  obtain ⟨located, files, hlocate, -, -, hload⟩ :=
    loads_first_spelling_iff paths tree.fileSystem .none hfound hread
  exact ⟨hfound, hread, located, files, hlocate, hload (by decide +kernel)⟩

/-- A file that has become known by another spelling is located but cannot be loaded. -/
example :
    let tree := ({} : FileTree).write "Application.cfc".toList (some "a = 1;".toList)
    let files := FileSet.ofPaths ["M.cfm".toList, "APPLICATION.CFC".toList]
    ((onDisk tree.fileSystem .none).locate files ⟨0⟩).1 = some ⟨1⟩ ∧
      (onDisk tree.fileSystem .none).load files ⟨1⟩ =
        .error (.unreadable "APPLICATION.CFC".toList .notFound) := by
  decide +kernel

end ApplicationFiles

end CfmlNav
