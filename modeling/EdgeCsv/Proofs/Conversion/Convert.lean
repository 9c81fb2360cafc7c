import EdgeCsv.Proofs.Conversion.Buffer
import EdgeCsv.Proofs.FileSystem.Access

/-!
# Converting a file into a file

* `writeFile_file`: the file that the rows of a dump are written to ends up with the bytes that a
  writer taking everything is handed, however they pass the buffer.
* `course_convert`: a conversion fails before anything has changed, or it has read the dump and then
  rewritten the output.
* `convert_replaces_output`: what a conversion ends in, what it leaves in the output, and that it
  leaves everything else alone, also if the output is the dump itself.
-/

namespace EdgeCsv.Conversion

variable {fs fs' : FileSystem} {loc loc' : Location} {kind : Device} {dump : Bytes}
  {input output : Path}

/-! ## The writer of a file -/

/-- A file takes everything; all that becomes different is its content. -/
theorem fileWriter_unlimited (fs : FileSystem) (hloc : loc ≠ []) :
    (fileWriter loc).Alike .unlimited (fun now taken => now = fs.set loc (.file taken)) := by
  intro now taken bytes hnow
  subst hnow
  simp only [fileWriter, FileSystem.append_set hloc, Writer.unlimited]
  exact ⟨trivial, trivial⟩

/-- Writing to a device changes no file system. -/
theorem fileWriter_device (h : fs.lookup loc = some (.device kind)) :
    (fileWriter loc).Alike (fileWriter loc) (fun now now' => now = fs ∧ now' = fs) := by
  rintro now now' bytes ⟨rfl, rfl⟩
  exact ⟨rfl, FileSystem.append_device h bytes, FileSystem.append_device h bytes⟩

/-- How a write goes depends only on what it goes to. -/
theorem fileWriter_alike (hloc : loc ≠ []) (hloc' : loc' ≠ []) :
    (fileWriter loc).Alike (fileWriter loc')
      (fun now now' => now.lookup loc = now'.lookup loc') := by
  intro now now' bytes h
  simp only [fileWriter, FileSystem.append, ← h]
  cases hl : now.lookup loc with
  | none => exact ⟨rfl, hl.trans (hl.symm.trans h)⟩
  | some e =>
    cases e with
    | file content =>
      refine ⟨rfl, ?_⟩
      simp only [FileSystem.lookup_set_self _ hloc, FileSystem.lookup_set_self _ hloc']
    | directory => exact ⟨rfl, h⟩
    | device kind => cases kind <;> exact ⟨rfl, h⟩

/-- **Rows written to a file** that was empty. -/
theorem writeFile_file (fs : FileSystem) (hloc : loc ≠ []) (dump : Bytes) (output : Path) :
    (writeFile dump loc output (fs.set loc (.file []))).result =
        (writeRows .unlimited [] dump output).1 ∧
      (writeFile dump loc output (fs.set loc (.file []))).files =
        fs.set loc (.file (writeRows .unlimited [] dump output).2.1) := by
  obtain ⟨hresult, hfiles, -⟩ := writeThrough_alike (fileWriter_unlimited fs hloc) dump output
    (rfl : fs.set loc (.file []) = fs.set loc (.file []))
  rw [writeThrough_unlimited] at hresult hfiles
  rw [writeFile_eq]
  exact ⟨hresult, hfiles⟩

theorem files_writeFile_device (h : fs.lookup loc = some (.device kind)) (dump : Bytes)
    (output : Path) : (writeFile dump loc output fs).files = fs := by
  obtain ⟨-, ⟨hfiles, -⟩, -⟩ := writeThrough_alike (fileWriter_device h) dump output
    (⟨rfl, rfl⟩ : fs = fs ∧ fs = fs)
  rw [writeFile_eq]
  exact hfiles

theorem result_writeFile_congr (hloc : loc ≠ []) (hloc' : loc' ≠ [])
    (h : fs.lookup loc = fs'.lookup loc') (dump : Bytes) (output : Path) :
    (writeFile dump loc output fs).result = (writeFile dump loc' output fs').result := by
  obtain ⟨hresult, -⟩ := writeThrough_alike (fileWriter_alike hloc hloc') dump output h
  rw [writeFile_eq, writeFile_eq]
  exact hresult

/-! ## The whole conversion -/

theorem convert_of_read_error {e : IoError} (h : fs.read input = .error e) (output : Path) :
    ((convert input output).run fs).result = .error (.readInput input e) ∧
      ((convert input output).run fs).files = fs := by
  simp [convert, Action.run, bind, Action.bind, Action.say, Action.ask, Action.onError, Action.fail,
    h]

theorem convert_of_create_error {e : IoError} (hdump : fs.read input = .ok dump)
    (h : fs.create output = .error e) :
    ((convert input output).run fs).result = .error (.createOutput output e) ∧
      ((convert input output).run fs).files = fs := by
  simp [convert, Action.run, bind, Action.bind, Action.say, Action.ask, Action.update,
    Action.onError, Action.fail, hdump, h]

theorem convert_of_create (hdump : fs.read input = .ok dump)
    (h : fs.create output = .ok (loc, fs')) :
    ((convert input output).run fs).result = (writeFile dump loc output fs').result ∧
      ((convert input output).run fs).files = (writeFile dump loc output fs').files := by
  simp only [convert, Action.run, bind, Action.bind, Action.say, Action.ask, Action.update,
    Action.onError, hdump, h]
  generalize writeFile dump loc output fs' = o
  obtain ⟨result, files, log⟩ := o
  cases result <;> exact ⟨rfl, rfl⟩

/-- The ways a conversion can go. -/
inductive Course (fs : FileSystem) (input output : Path) (o : Outcome Error Summary) : Prop
  /-- The dump could not be read or the output not be created, and nothing has changed. -/
  | refused (failed : (∃ e, o.result = .error (.readInput input e)) ∨
      ∃ e, o.result = .error (.createOutput output e)) (files : o.files = fs)
  /-- The output is a device, so nothing has changed. -/
  | device (dump : Bytes) (read : fs.read input = .ok dump) (leads : fs.LeadsToDevice output)
      (files : o.files = fs)
  /-- The output is a file that has been rewritten from the dump as it was. -/
  | file (dump : Bytes) (loc : Location) (read : fs.read input = .ok dump)
      (may : fs.MayHoldFile loc)
      (files : o.files = fs.set loc (.file (writeRows .unlimited [] dump output).2.1))
      (leads : o.files.resolve output = .ok loc)
      (result : o.result = (writeRows .unlimited [] dump output).1)

/-- **How a conversion goes.** -/
theorem course_convert (fs : FileSystem) (input output : Path) :
    Course fs input output ((convert input output).run fs) := by
  cases hread : fs.read input with
  | error e =>
    obtain ⟨hresult, hfiles⟩ := convert_of_read_error hread output
    exact .refused (.inl ⟨e, hresult⟩) hfiles
  | ok dump =>
    cases hcreate : fs.create output with
    | error e =>
      obtain ⟨hresult, hfiles⟩ := convert_of_create_error hread hcreate
      exact .refused (.inr ⟨e, hresult⟩) hfiles
    | ok created =>
      obtain ⟨loc, fs'⟩ := created
      obtain ⟨hresult, hfiles⟩ := convert_of_create hread hcreate
      obtain ⟨-, ⟨hmay, rfl⟩ | ⟨⟨kind, hl⟩, rfl⟩⟩ := FileSystem.create_eq_ok hcreate
      · obtain ⟨hresult', hfiles'⟩ := writeFile_file fs hmay.ne_nil dump output
        have hleads := FileSystem.resolve_set_of_create hcreate hmay
          (writeRows .unlimited [] dump output).2.1
        rw [hfiles'] at hfiles
        exact .file dump loc hread hmay hfiles (by rw [hfiles]; exact hleads)
          (hresult.trans hresult')
      · have hleads := FileSystem.resolve_of_create hcreate
          (.refl (fun _ => False) (fun _ => False) fs') (by rw [hl]; rfl)
        rw [files_writeFile_device hl] at hfiles
        exact .device dump hread ⟨loc, kind, hleads, hl⟩ hfiles

/-- Nothing but the output has changed. -/
theorem Course.confined {o : Outcome Error Summary} (h : Course fs input output o) :
    FileSystem.Confined (fun loc => o.files.resolve output = .ok loc) (fun _ => False) fs
      o.files := by
  cases h with
  | refused failed files => rw [files]; exact .refl _ _ _
  | device dump read leads files => rw [files]; exact .refl _ _ _
  | file dump loc read may files leads result =>
    have hset := FileSystem.confined_set_file may (writeRows .unlimited [] dump output).2.1
    rw [← files] at hset
    exact hset.imp (fun _ h => by rw [h]; exact leads) fun _ => id

/-- What a conversion ends in depends on the dump and on what it can write to, and on nothing else
of the file system. -/
theorem result_convert_congr (hread : fs'.read input = fs.read input)
    (hopened : fs'.opened output = fs.opened output) :
    ((convert input output).run fs').result = ((convert input output).run fs).result := by
  cases hdump : fs.read input with
  | error e =>
    rw [hdump] at hread
    rw [(convert_of_read_error hread output).1, (convert_of_read_error hdump output).1]
  | ok dump =>
    rw [hdump] at hread
    unfold FileSystem.opened at hopened
    cases hcreate : fs.create output with
    | error e =>
      cases hcreate' : fs'.create output with
      | error e' =>
        rw [hcreate, hcreate'] at hopened
        cases hopened
        rw [(convert_of_create_error hread hcreate').1, (convert_of_create_error hdump hcreate).1]
      | ok created => rw [hcreate, hcreate'] at hopened; cases hopened
    | ok created =>
      cases hcreate' : fs'.create output with
      | error e' => rw [hcreate, hcreate'] at hopened; cases hopened
      | ok created' =>
        rw [hcreate, hcreate'] at hopened
        obtain ⟨⟨directory, name, hloc, -⟩, -⟩ := FileSystem.create_eq_ok hcreate
        obtain ⟨⟨directory', name', hloc', -⟩, -⟩ := FileSystem.create_eq_ok hcreate'
        rw [(convert_of_create hread hcreate').1, (convert_of_create hdump hcreate).1]
        exact result_writeFile_congr (by rw [hloc']; simp) (by rw [hloc]; simp)
          (Except.ok.inj hopened) dump output

/-- **A conversion replaces its output and nothing else.** What it ends in is settled by the dump as
it was before, whether or not the output is the same file. If it fails to read or to create, nothing
has changed. Otherwise an output that is no device holds what a writer taking everything is handed,
whether the dump was good or has a malformed line, and no other entry is new, gone or different. -/
theorem convert_replaces_output (fs : FileSystem) (input output : Path) :
    (∀ fs' : FileSystem, fs'.read input = fs.read input → fs'.opened output = fs.opened output →
      ((convert input output).run fs').result = ((convert input output).run fs).result) ∧
    (∀ p e, ((convert input output).run fs).result = .error (.readInput p e) ∨
        ((convert input output).run fs).result = .error (.createOutput p e) →
      ((convert input output).run fs).files = fs) ∧
    ((∀ p e, ((convert input output).run fs).result ≠ .error (.readInput p e) ∧
        ((convert input output).run fs).result ≠ .error (.createOutput p e)) →
      ¬ fs.LeadsToDevice output →
      ∃ dump loc, fs.read input = .ok dump ∧
        ((convert input output).run fs).result = (writeRows .unlimited [] dump output).1 ∧
        ((convert input output).run fs).files.resolve output = .ok loc ∧
        ((convert input output).run fs).files.lookup loc =
          some (.file (writeRows .unlimited [] dump output).2.1) ∧
        (∀ other, other ≠ loc →
          ((convert input output).run fs).files.lookup other = fs.lookup other) ∧
        ((convert input output).run fs).files.cwd = fs.cwd) := by
  refine ⟨fun fs' => result_convert_congr, ?_, ?_⟩
  · intro p e hfail
    cases course_convert fs input output with
    | refused failed files => exact files
    | device dump read leads files => exact files
    | file dump loc read may files leads result =>
      -- onto a file, the only way to fail is a malformed line
      rw [result, (writeRows_unlimited [] dump output).1] at hfail
      cases hrows : (Rows.ofDump dump).result with
      | error m => rw [hrows] at hfail; rcases hfail with h | h <;> cases h
      | ok s => rw [hrows] at hfail; rcases hfail with h | h <;> cases h
  · intro hopened hdevice
    cases course_convert fs input output with
    | refused failed files =>
      rcases failed with ⟨e, h⟩ | ⟨e, h⟩
      · exact absurd h (hopened input e).1
      · exact absurd h (hopened output e).2
    | device dump read leads files => exact absurd leads hdevice
    | file dump loc read may files leads result =>
      refine ⟨dump, loc, read, result, leads, ?_, ?_, ?_⟩
      · rw [files]; exact fs.lookup_set_self may.ne_nil _
      · intro other hother
        rw [files]; exact fs.lookup_set_ne hother _
      · rw [files]; rfl

/-- A dump that is converted in place, its path spelled in two ways: the second line is malformed,
so the header and one row are left of it. Another file does not matter, and a dump that is not
there leaves everything as it was. -/
theorem convert_replaces_output_in_place :
    let a := Bytes.ofString "a"
    let d := Bytes.ofString "d"
    let table := [([d], Entry.directory), ([a, d], .file (Bytes.ofString "1 2 A\n3 4 x_i"))]
    let fs : FileSystem := ⟨table, []⟩
    let fs' : FileSystem := ⟨([a], .file []) :: table, []⟩
    let inPlace := convert (.ofString "d/a") (.ofString "/d/./a")
    (inPlace.run fs').result = (inPlace.run fs).result ∧
      (inPlace.run fs).files.lookup [a, d] =
        some (.file (Bytes.ofString "n1,n2,label\n1,2,A\n")) ∧
      ((convert (.ofString "a") (.ofString "d/a")).run fs).files = fs := by
  intro a d table fs fs' inPlace
  obtain ⟨hcongr, -, hfile⟩ := convert_replaces_output fs (.ofString "d/a") (.ofString "/d/./a")
  obtain ⟨-, hfail, -⟩ := convert_replaces_output fs (.ofString "a") (.ofString "d/a")
  have hleads : fs.resolve (.ofString "/d/./a") = .ok [a, d] := by decide +kernel
  have hresult : (inPlace.run fs).result = .error (.malformedRecord ⟨2, 3, "3 4 x_i"⟩) := by
    decide +kernel
  have hdevice : ¬ fs.LeadsToDevice (.ofString "/d/./a") := by
    rintro ⟨loc, kind, hloc, hl⟩
    rw [hleads] at hloc
    cases hloc
    cases hl
  have hopened : ∀ p e, (inPlace.run fs).result ≠ .error (.readInput p e) ∧
      (inPlace.run fs).result ≠ .error (.createOutput p e) := by
    intro p e
    rw [hresult]
    exact ⟨nofun, nofun⟩
  refine ⟨hcongr fs' (by decide +kernel) (by decide +kernel), ?_, ?_⟩
  · obtain ⟨dump, loc, hread, -, hloc, hl, -⟩ := hfile hopened hdevice
    have hdump : fs.read (.ofString "d/a") = .ok (Bytes.ofString "1 2 A\n3 4 x_i") := by
      decide +kernel
    have hsame : (inPlace.run fs).files.resolve (.ofString "/d/./a") = .ok [a, d] := by
      decide +kernel
    obtain rfl : _ = dump := Except.ok.inj (hdump.symm.trans hread)
    obtain rfl : [a, d] = loc := Except.ok.inj (hsame.symm.trans hloc)
    rw [hl]
    decide +kernel
  · exact hfail (.ofString "a") .notFound (.inl (by decide +kernel))

end EdgeCsv.Conversion
