import EdgeCsv.Generate
import EdgeCsv.Proofs.FileSystem.WorkingDirectory
import EdgeCsv.Proofs.Plan.Resolve
import EdgeCsv.Proofs.Plan.RoundTrip
import EdgeCsv.Proofs.Run.PlanFile

/-!
# A generated plan does what no plan does

The default plan is written to a file with its paths as they are seen from the working directory.
Then it does not matter where the file is, and following it comes to the same as following the
default plan.

* `convert_join`: with the working directory in front of both paths, a conversion does the same, and
  reports the longer paths if it fails.
* `followFile_generated`: following a generated plan file comes to the same as following the default
  plan.
* `followFile_null`: but a device keeps nothing of the plan that is written to it.
-/

namespace EdgeCsv

open FileSystem

variable {fs : FileSystem} {p base input output : Path} {σ : Type}

namespace Conversion

/-- The same failure with its path taken from `base`. -/
def Error.takenFrom (base : Path) : Error → Error
  | .readInput p e => .readInput (base.join p) e
  | .createOutput p e => .createOutput (base.join p) e
  | .writeOutput p e => .writeOutput (base.join p) e
  | .malformedRecord m => .malformedRecord m

/-- The path of the output shows nowhere but in the failure. -/
theorem writeRows_join (w : Writer σ) (s : σ) (dump : Bytes) (base output : Path) :
    (writeRows w s dump (base.join output)).1 =
        (writeRows w s dump output).1.mapError (·.takenFrom base) ∧
      (writeRows w s dump (base.join output)).2 = (writeRows w s dump output).2 := by
  rw [writeRows_eq, writeRows_eq]
  cases (w.carryOut s (Rows.ofDump dump).steps).1 with
  | some e => exact ⟨rfl, rfl⟩
  | none =>
    refine ⟨?_, rfl⟩
    cases (Rows.ofDump dump).result <;> rfl

theorem writeFile_join (dump : Bytes) (loc : Location) (base output : Path) (fs : FileSystem) :
    (writeFile dump loc (base.join output) fs).result =
        (writeFile dump loc output fs).result.mapError (·.takenFrom base) ∧
      (writeFile dump loc (base.join output) fs).files = (writeFile dump loc output fs).files := by
  obtain ⟨hresult, hheld⟩ :=
    writeRows_join ((fileWriter loc).buffered bufferSize) ⟨[], fs⟩ dump base output
  rw [writeFile_eq, writeFile_eq, writeThrough_eq, writeThrough_eq]
  simp only [hresult, hheld]
  generalize writeRows ((fileWriter loc).buffered bufferSize) ⟨[], fs⟩ dump output = x
  refine ⟨?_, trivial⟩
  cases ((fileWriter loc).flush x.2.1).1 with
  | none => rfl
  | some e => cases x.1 <;> rfl

/-- **A conversion whose paths are spelled out** does the same, and names the longer paths if it
fails. -/
theorem convert_join (hread : fs.read (base.join input) = fs.read input)
    (hcreate : fs.create (base.join output) = fs.create output) :
    ((convert (base.join input) (base.join output)).run fs).result =
        ((convert input output).run fs).result.mapError (·.takenFrom base) ∧
      ((convert (base.join input) (base.join output)).run fs).files =
        ((convert input output).run fs).files := by
  cases hdump : fs.read input with
  | error e =>
    obtain ⟨hresult, hfiles⟩ := convert_of_read_error hdump output
    obtain ⟨hresult', hfiles'⟩ := convert_of_read_error (hread.trans hdump) (base.join output)
    rw [hresult, hfiles, hresult', hfiles']
    exact ⟨rfl, rfl⟩
  | ok dump =>
    cases hopened : fs.create output with
    | error e =>
      obtain ⟨hresult, hfiles⟩ := convert_of_create_error hdump hopened
      obtain ⟨hresult', hfiles'⟩ :=
        convert_of_create_error (hread.trans hdump) (hcreate.trans hopened)
      rw [hresult, hfiles, hresult', hfiles']
      exact ⟨rfl, rfl⟩
    | ok created =>
      obtain ⟨loc, fs'⟩ := created
      obtain ⟨hresult, hfiles⟩ := convert_of_create hdump hopened
      obtain ⟨hresult', hfiles'⟩ := convert_of_create (hread.trans hdump) (hcreate.trans hopened)
      rw [hresult, hfiles, hresult', hfiles']
      exact writeFile_join dump loc base output fs'

end Conversion

/-! ## The plan that is written and read back -/

namespace Plan

theorem ofYaml_of_toYaml {plan : Plan} {text : String} (h : plan.toYaml = .ok text) :
    ofYaml text = .ok plan := by
  obtain ⟨xs, hxs, rfl⟩ := toYaml_eq_ok_iff.1 h
  have hne : xs ≠ [] := by
    obtain ⟨_, _, _, -, -, -, rfl⟩ := outline?_eq_some hxs
    simp
  exact Yaml.Document.readOnly_outline hne fun doc => read_takes hxs

/-- There is no plan that is written down as nothing at all. -/
theorem bytes_ne_nil_of_toYaml {plan : Plan} {text : String} (h : plan.toYaml = .ok text) :
    Bytes.ofString text ≠ [] := by
  obtain ⟨xs, hxs, rfl⟩ := toYaml_eq_ok_iff.1 h
  obtain ⟨input, output, scripts, -, -, -, rfl⟩ := outline?_eq_some hxs
  intro hempty
  have hchars := Utf8.decode?_encode (String.ofList (List.flatMap Yaml.Section.write
    (plan.about.toList.map About.section ++ convertSection input output :: scripts))).toList
  rw [Bytes.ofString] at hempty
  rw [hempty, String.toList_ofList] at hchars
  have hnone := List.flatMap_eq_nil_iff.1 (Option.some.inj hchars).symm
    (convertSection input output) (by simp)
  rw [write_convertSection] at hnone
  simp at hnone

end Plan

namespace Run

/-- The same failure of a conversion with its paths taken from `base`. -/
def Failure.takenFrom (base : Path) : Failure → Failure
  | .conversion input e => .conversion (base.join input) (e.takenFrom base)
  | other => other

theorem follow_of_no_script {plan : Plan} (h : plan.loadScript = none) (fs : FileSystem) :
    ((follow plan).run fs).result =
        ((conversion plan).run fs).result.mapError (.conversion plan.convert.input) ∧
      ((follow plan).run fs).files = ((conversion plan).run fs).files := by
  cases hresult : ((conversion plan).run fs).result with
  | error e => exact follow_of_error hresult
  | ok summary =>
    obtain ⟨hend, hfiles⟩ := follow_of_ok hresult
    obtain ⟨hscript, hsame⟩ := writeScript_of_none h ((conversion plan).run fs).files
    rw [hscript] at hend
    exact ⟨hend, hfiles.trans hsame⟩

end Run

namespace Generate

/-- A plan that has been generated: its document has been written to the file. -/
theorem written_of_plan_ok (h : ((plan p).run fs).result = .ok ()) :
    ∃ text, (Plan.default.resolve fs.workingDirectory).toYaml = .ok text ∧
      ((Files.writeText p text).run fs).result = .ok () ∧
      ((plan p).run fs).files = ((Files.writeText p text).run fs).files := by
  unfold plan at h ⊢
  rw [(Action.say_bind _ _ _).1] at h
  rw [(Action.say_bind _ _ _).2]
  have hask : ((Action.ask fun fs =>
      ((Plan.default.resolve fs.workingDirectory).toYaml).mapError Run.Failure.plan).run
        fs).result =
      ((Plan.default.resolve fs.workingDirectory).toYaml).mapError Run.Failure.plan := rfl
  cases htext : (Plan.default.resolve fs.workingDirectory).toYaml with
  | error e =>
    rw [htext] at hask
    rw [(Action.bind_of_error hask).1] at h
    cases h
  | ok text =>
    rw [htext] at hask
    obtain ⟨hresult, hfiles⟩ := Action.mapError_eq Run.Failure.file (Files.writeText p text) fs
    rw [(Action.bind_of_ok hask).1] at h
    rw [(Action.bind_of_ok hask).2]
    refine ⟨text, rfl, ?_, hfiles⟩
    cases hwrite : ((Files.writeText p text).run fs).result with
    | ok u => rfl
    | error e =>
      rw [hwrite] at hresult
      exact absurd (h.symm.trans hresult) nofun

/-- The paths of the default plan can be spelled out. -/
theorem expandable_default (hcwd : fs.Stands fs.cwd)
    (hlen : (fs.workingDirectory.join Plan.defaultInput).bytes.length ≤ maxPath) :
    fs.Expandable Plan.defaultInput ∧ fs.Expandable Plan.defaultOutput := by
  have hinput : Plan.defaultInput.isAbsolute = false := by decide
  have houtput : Plan.defaultOutput.isAbsolute = false := by decide
  have hshorter : Plan.defaultOutput.bytes.length ≤ Plan.defaultInput.bytes.length := by decide
  refine ⟨⟨hcwd, hinput, by decide, hlen⟩, ⟨hcwd, houtput, by decide, le_trans ?_ hlen⟩⟩
  exact Path.length_join_le fs.workingDirectory houtput hinput hshorter

/-- **The default plan with its paths spelled out** comes to the same, and names the longer paths if
it fails. -/
theorem follow_spelled_out (hinput : fs.Expandable Plan.defaultInput)
    (houtput : fs.Expandable Plan.defaultOutput) :
    ((Run.follow (Plan.default.resolve fs.workingDirectory)).run fs).result =
        ((Run.follow .default).run fs).result.mapError (·.takenFrom fs.workingDirectory) ∧
      ((Run.follow (Plan.default.resolve fs.workingDirectory)).run fs).files =
        ((Run.follow .default).run fs).files := by
  obtain ⟨hconvert, hsame⟩ := Conversion.convert_join hinput.read_join houtput.create_join
  obtain ⟨hresult, hfiles⟩ := Run.follow_of_no_script (rfl : Plan.default.loadScript = none) fs
  obtain ⟨hresult', hfiles'⟩ := Run.follow_of_no_script
    (rfl : (Plan.default.resolve fs.workingDirectory).loadScript = none) fs
  refine ⟨?_, hfiles'.trans (hsame.trans hfiles.symm)⟩
  refine (hresult'.trans (congrArg _ hconvert)).trans (Eq.trans ?_ (congrArg _ hresult.symm))
  show ((((Run.conversion .default).run fs).result.mapError _).mapError _) = _
  cases ((Run.conversion .default).run fs).result <;> rfl

/-- A file that holds the default plan with its paths spelled out is followed as the default plan
is. -/
theorem followFile_spelled_out {text : String} (hinput : fs.Expandable Plan.defaultInput)
    (houtput : fs.Expandable Plan.defaultOutput)
    (htext : (Plan.default.resolve fs.workingDirectory).toYaml = .ok text)
    (hread : fs.read p = .ok (Bytes.ofString text)) (hparent : p.parent? = some base) :
    ((Run.followFile p {}).run fs).result =
        ((Run.followDefault {}).run fs).result.mapError (·.takenFrom fs.workingDirectory) ∧
      ((Run.followFile p {}).run fs).files = ((Run.followDefault {}).run fs).files := by
  have hbase : (Plan.default.resolve fs.workingDirectory).resolve base =
      Plan.default.resolve fs.workingDirectory := by
    rw [Plan.resolve_resolve, Path.join_of_isAbsolute base rfl]
  obtain ⟨hresult, hfiles⟩ :=
    Run.followFile_of_load (Plan.load_of_read hread (Plan.ofYaml_of_toYaml htext)) hparent
  obtain ⟨hresult', hfiles'⟩ := follow_spelled_out hinput houtput
  rw [hbase] at hresult hfiles
  exact ⟨hresult.trans hresult', hfiles.trans hfiles'⟩

/-- **Following a generated plan file comes to the same as following the default plan**, wherever
the file is and whatever it was before: the same summary, or the same failure with its paths seen
from the working directory, and the same files. A device keeps nothing of the plan, and then the
default paths are taken from where the device is. -/
theorem followFile_generated (hcwd : fs.Stands fs.cwd)
    (hlen : (fs.workingDirectory.join Plan.defaultInput).bytes.length ≤ maxPath)
    (hplan : ((plan p).run fs).result = .ok ()) :
    let generated := ((plan p).run fs).files
    let o := (Run.followFile p {}).run generated
    let o' := (Run.followDefault {}).run generated
    (¬ generated.LeadsToDevice p →
      o.result = o'.result.mapError (·.takenFrom fs.workingDirectory) ∧ o.files = o'.files) ∧
    (generated.LeadsToDevice p → ∃ base, p.parent? = some base ∧
      o.result = ((Run.follow (Plan.default.resolve base)).run generated).result ∧
      o.files = ((Run.follow (Plan.default.resolve base)).run generated).files) := by
  intro generated o o'
  obtain ⟨text, htext, hwritten, hfiles⟩ := written_of_plan_ok hplan
  have hconfined := Files.confined_writeText fs p text
  obtain ⟨fs', -, ⟨⟨e, herror⟩, -⟩ | ⟨-, hrewrites, base, hparent⟩⟩ :=
    Files.course_writeText fs p text
  · rw [hwritten] at herror; cases herror
  rw [← hfiles] at hconfined hrewrites
  have hhere : generated.workingDirectory = fs.workingDirectory := by
    unfold workingDirectory
    rw [hconfined.cwd_eq]
  have hstands : generated.Stands generated.cwd := by
    rw [hconfined.cwd_eq]
    exact hcwd.confined hconfined
  rw [← hhere] at htext hlen
  obtain ⟨hinput, houtput⟩ := expandable_default hstands hlen
  constructor
  · intro hfile
    rw [← hhere]
    exact followFile_spelled_out hinput houtput htext (hrewrites.read hfile) hparent
  · intro hdevice
    have hempty : Plan.ofYaml "" = .ok .default := by decide +kernel
    have hnothing : generated.read p = .ok (Bytes.ofString "") :=
      hrewrites.read_device (Plan.bytes_ne_nil_of_toYaml htext) hdevice
    exact ⟨base, hparent, Run.followFile_of_load (Plan.load_of_read hnothing hempty) hparent⟩

/-- Below the root, a plan that is written over the default input, and is then the dump itself, and
one that is written to a device. -/
theorem followFile_generated_over_input :
    let here := Bytes.ofString "w"
    let fs : FileSystem :=
      ⟨[([here], .directory), ([Bytes.ofString "tests", here], .directory),
        ([Bytes.ofString "mytest.vfg", Bytes.ofString "tests", here], .file []),
        ([Bytes.ofString "dev"], .directory),
        ([Bytes.ofString "null", Bytes.ofString "dev"], .device .null)], [here]⟩
    let input := Path.ofString "tests/mytest.vfg"
    let null := Path.ofString "/dev/null"
    let generated (p : Path) := ((plan p).run fs).files
    ((Run.followFile input {}).run (generated input)).result = .ok ⟨4, 0⟩ ∧
      ((Run.followFile input {}).run (generated input)).files.read (.ofString "cfl_edges.txt") =
        .ok (Bytes.ofString ("n1,n2,label\nconvert:\n,,input:,/w/./tests/mytest.vfg\n" ++
          ",,output:,/w/./cfl_edges.txt\n\n")) ∧
      ((Run.followFile null {}).run (generated null)).result =
        .error (.conversion (.ofString "/dev/./tests/mytest.vfg")
          (.readInput (.ofString "/dev/./tests/mytest.vfg") .notFound)) := by
  intro here fs input null generated
  have hcwd : fs.Stands fs.cwd :=
    .child .root ⟨by decide, by decide, by decide, by decide, by decide, by decide⟩ rfl
  have hlen : (fs.workingDirectory.join Plan.defaultInput).bytes.length ≤ maxPath := by decide
  obtain ⟨hfile, -⟩ := followFile_generated (p := input) hcwd hlen (by decide +kernel)
  obtain ⟨-, hdevice⟩ := followFile_generated (p := null) hcwd hlen (by decide +kernel)
  obtain ⟨hresult, hfiles⟩ := hfile (by decide +kernel)
  obtain ⟨base, hbase, hfailed, -⟩ := hdevice (by decide +kernel)
  obtain rfl : Path.ofString "/dev" = base := Option.some.inj (Eq.trans (by decide +kernel) hbase)
  have hdefault : ((Run.followDefault {}).run (generated input)).result = .ok ⟨4, 0⟩ := by
    decide +kernel
  refine ⟨hresult.trans (by rw [hdefault]; rfl), ?_, hfailed.trans (by decide +kernel)⟩
  rw [hfiles]
  decide +kernel

/-- A plan that is written to the null device: there is no failure, but what is followed afterwards
is not the default plan. -/
theorem followFile_null :
    let fs : FileSystem :=
      ⟨[([Bytes.ofString "dev"], .directory),
        ([Bytes.ofString "null", Bytes.ofString "dev"], .device .null),
        ([Bytes.ofString "tests"], .directory),
        ([Bytes.ofString "mytest.vfg", Bytes.ofString "tests"], .file (Bytes.ofString "1 2 A"))],
        []⟩
    let null := Path.ofString "/dev/null"
    let generated := ((plan null).run fs).files
    ((plan null).run fs).result = .ok () ∧
      ((Run.followDefault {}).run generated).result = .ok ⟨1, 0⟩ ∧
      ((Run.followFile null {}).run generated).result =
        .error (.conversion (.ofString "/dev/./tests/mytest.vfg")
          (.readInput (.ofString "/dev/./tests/mytest.vfg") .notFound)) := by
  decide +kernel

end Generate

end EdgeCsv
