import EdgeCsv.Proofs.Files

/-!
# What writing a text leaves behind

To write a text is to make the directories above it that are missing, and then to create the file.
Directories are made one after the other, so that some may be there already when the next one fails;
the file is written all at once.

* `missingDirectory?_prepareDirectory`: if making directories did not fail, none is missing, and so
  there is nothing to do when it is asked for again (`prepareDirectory_again`).
* `writeText_effect`: what writing a text does in each of the ways it can end, and that it does
  nothing the second time.
-/

namespace EdgeCsv.Files

open FileSystem

variable {fs : FileSystem} {p directory : Path} {text : String}

/-! ## Making directories again -/

/-- A directory that is missing has a parent itself, for the root is never missing. -/
theorem exists_parent?_of_missing (h : missingDirectory? fs p = some directory) :
    ∃ above, directory.parent? = some above := by
  obtain ⟨hparent, hmissing⟩ := Option.filter_eq_some_iff.1 h
  cases habove : directory.parent? with
  | some above => exact ⟨above, rfl⟩
  | none =>
    obtain ⟨hne, hnowhere⟩ : directory.bytes ≠ [] ∧ fs.contains directory = false := by
      simpa using hmissing
    have hroot : directory = ⟨[Path.slash]⟩ :=
      congrArg Path.mk ((Path.bytes_of_last_parent hparent habove).resolve_left hne)
    have hthere : fs.contains ⟨[Path.slash]⟩ = true := rfl
    rw [hroot, hthere] at hnowhere
    cases hnowhere

theorem missingDirectory?_of_hasDirectory (hparent : p.parent? = some directory)
    (h : fs.hasDirectory directory = true) : missingDirectory? fs p = none := by
  obtain ⟨loc, hleads, -⟩ := hasDirectory_iff.1 h
  unfold missingDirectory?
  rw [hparent]
  simp [Option.filter, contains, hleads, Except.isOk, Except.toBool]

/-- **No directory is missing once they have been made.** -/
theorem missingDirectory?_prepareDirectory (h : ((prepareDirectory p).run fs).result = .ok ()) :
    missingDirectory? ((prepareDirectory p).run fs).files p = none := by
  cases hmissing : missingDirectory? fs p with
  | none =>
    rw [(prepareDirectory_of_none hmissing).2]
    exact hmissing
  | some directory =>
    have hparent : p.parent? = some directory := (Option.filter_eq_some_iff.1 hmissing).1
    obtain ⟨above, habove⟩ := exists_parent?_of_missing hmissing
    obtain ⟨hresult, hfiles⟩ := prepareDirectory_of_some hmissing
    -- the directory is the first of those that are made, and that did not fail
    have hmade : fs.createDirectories directory = (none, (fs.createDirectories directory).2) := by
      refine Prod.ext ?_ rfl
      rw [h] at hresult
      cases hfail : (fs.createDirectories directory).1 with
      | none => rfl
      | some e => rw [hfail] at hresult; cases hresult
    unfold createDirectories at hmade hfiles
    rw [ancestors_of_parent? habove] at hmade hfiles
    rw [hfiles]
    exact missingDirectory?_of_hasDirectory hparent (hasDirectory_of_createChain hmade)

/-- **Directories that have been made are left alone** when they are asked for again. -/
theorem prepareDirectory_again (h : ((prepareDirectory p).run fs).result = .ok ()) :
    let made := ((prepareDirectory p).run fs).files
    ((prepareDirectory p).run made).result = .ok () ∧
      ((prepareDirectory p).run made).files = made :=
  prepareDirectory_of_none (missingDirectory?_prepareDirectory h)

/-! ## Writing a text -/

/-- A text that has been written can be read, and writing it again changes nothing. -/
theorem writeText_of_result_ok (h : ((writeText p text).run fs).result = .ok ()) :
    let written := ((writeText p text).run fs).files
    (¬ written.LeadsToDevice p → written.read p = .ok (Bytes.ofString text)) ∧
      ((writeText p text).run written).result = .ok () ∧
      ((writeText p text).run written).files = written := by
  intro written
  have hread : ¬ written.LeadsToDevice p → written.read p = .ok (Bytes.ofString text) := by
    intro hdevice
    obtain ⟨prepared, -, ⟨⟨e, hfailed⟩, -⟩ | ⟨-, hrewrites, -⟩⟩ := course_writeText fs p text
    · rw [hfailed] at h; cases h
    · exact hrewrites.read hdevice
  have hsame := Confined.refl (fun _ => False) (fun _ => False) written
  obtain ⟨hagain, loc, e, hloc, -, hdone, hputs⟩ := writeText_again h hsame
  exact ⟨hread, hagain, hputs.trans (set_of_lookup hloc hdone)⟩

/-- **What writing a text leaves behind.** However it ends, nothing is lost, and nothing is new or
different but the file that the path leads to and directories where pieces of the path lead; if it
fails, no file is new or different either. If it goes well, a path that does not lead to a device
holds the text, and writing it again goes well and changes nothing. To make the directories alone
changes no entry that is there; if that goes well no directory is missing, and making them again
goes well and changes nothing. -/
theorem writeText_effect (fs : FileSystem) (p : Path) (text : String) :
    let o := (writeText p text).run fs
    let made := (prepareDirectory p).run fs
    Confined (fun loc => o.files.resolve p = .ok loc) (IsDirectoryOf o.files p) fs o.files ∧
    (∀ e, o.result = .error e →
      Confined (fun _ => False) (IsDirectoryOf o.files p) fs o.files) ∧
    (o.result = .ok () →
      (¬ o.files.LeadsToDevice p → o.files.read p = .ok (Bytes.ofString text)) ∧
      ((writeText p text).run o.files).result = .ok () ∧
      ((writeText p text).run o.files).files = o.files) ∧
    Confined (fun _ => False) (IsDirectoryOf made.files p) fs made.files ∧
    (made.result = .ok () →
      missingDirectory? made.files p = none ∧
      ((prepareDirectory p).run made.files).result = .ok () ∧
      ((prepareDirectory p).run made.files).files = made.files) := by
  intro o made
  refine ⟨confined_writeText fs p text, fun e => confined_writeText_of_error,
    writeText_of_result_ok, confined_prepareDirectory fs p, ?_⟩
  intro hmade
  exact ⟨missingDirectory?_prepareDirectory hmade, prepareDirectory_again hmade⟩

/-- A text that is written below directories made on the way, one of them left again at once, and
one that would have to stand below a file: then the first directory is made before that shows. -/
theorem writeText_effect_partway :
    let f := Bytes.ofString "f"
    let fs : FileSystem := ⟨[([f], .file (Bytes.ofString "old"))], []⟩
    let good := writeText (.ofString "a/../b/out") "new"
    let bad := writeText (.ofString "a/../f/b/out") "new"
    (good.run fs).files.read (.ofString "a/../b/out") = .ok (Bytes.ofString "new") ∧
      (good.run (good.run fs).files).files = (good.run fs).files ∧
      (bad.run fs).result = .error .alreadyExists ∧
      (bad.run fs).files.lookup [Bytes.ofString "a"] = some .directory ∧
      (bad.run fs).files.lookup [f] = some (.file (Bytes.ofString "old")) := by
  intro f fs good bad
  have hok : (good.run fs).result = .ok () := by decide +kernel
  have hfailed : (bad.run fs).result = .error .alreadyExists := by decide +kernel
  obtain ⟨-, -, hwritten, -⟩ := writeText_effect fs (.ofString "a/../b/out") "new"
  obtain ⟨-, hunwritten, -⟩ := writeText_effect fs (.ofString "a/../f/b/out") "new"
  obtain ⟨hread, -, hagain⟩ := hwritten hok
  have hkept := (hunwritten .alreadyExists hfailed).lookup_of_some id
    (rfl : fs.lookup [f] = some (.file (Bytes.ofString "old")))
  exact ⟨hread (by decide +kernel), hagain, hfailed, by decide +kernel, hkept⟩

end EdgeCsv.Files
