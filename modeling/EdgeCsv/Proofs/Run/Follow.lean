import EdgeCsv.Run
import EdgeCsv.Proofs.Conversion.Convert
import EdgeCsv.Proofs.Files
import EdgeCsv.Proofs.LoadScript.Lexemes

/-!
# What following a plan changes

A plan is followed in two stages that share a file system: the conversion, and the load script if
the plan asks for one.

* `confined_follow`: nothing is lost, and nothing is new or different but the two outputs and
  directories above the load script.
* `leftByFailure_convert`: what a conversion leaves behind that failed.
* `follow_effect`: what is left behind in each of the ways it can end.
* `follow_shared_output`: a load script that is to go where the CSV goes is not safe from a
  conversion that fails.
-/

namespace EdgeCsv

open FileSystem

variable {fs fs' : FileSystem} {plan : Plan} {loc : Location}

/-- A load script is rendered without fail; what can fail is to write it. -/
theorem LoadScript.write_eq (name : String) (output : Path) (csvUrl? : Option String)
    (csvPath : Path) (fs : FileSystem) :
    ∃ text, render name csvPath (csvUrl?.getD (defaultUrl csvPath)) = .ok text ∧
      ((write name output csvUrl? csvPath).run fs).result =
        ((Files.writeText output text).run fs).result.mapError (.write output) ∧
      ((write name output csvUrl? csvPath).run fs).files =
        ((Files.writeText output text).run fs).files := by
  obtain ⟨text, htext⟩ : ∃ text, render name csvPath (csvUrl?.getD (defaultUrl csvPath)) =
    .ok text := ⟨_, render_eq name _ csvPath⟩
  have hask : ((Action.ask fun _ => render name csvPath (csvUrl?.getD (defaultUrl csvPath)) :
    Action Error String).run fs).result = .ok text := htext
  refine ⟨text, htext, ?_⟩
  unfold write
  rw [(Action.bind_of_ok hask).1, (Action.bind_of_ok hask).2]
  change ((_ >>= fun _ => _ : Action Error Unit).run fs).result = _ ∧
    ((_ >>= fun _ => _ : Action Error Unit).run fs).files = _
  cases hwrite : ((Files.writeText output text).run fs).result with
  | ok u =>
    obtain ⟨hresult, hfiles⟩ := Action.onError_of_ok hwrite
    rw [(Action.bind_of_ok hresult).1, (Action.bind_of_ok hresult).2, hfiles]
    exact ⟨rfl, rfl⟩
  | error e =>
    obtain ⟨hresult, hfiles⟩ := Action.onError_of_error hwrite
    rw [(Action.bind_of_error hresult).1, (Action.bind_of_error hresult).2, hfiles]
    exact ⟨rfl, rfl⟩

namespace Run

/-! ## The two stages -/

/-- The first stage of following a plan. -/
abbrev conversion (plan : Plan) : Action Conversion.Error Conversion.Summary :=
  Conversion.convert plan.convert.input plan.convert.output

theorem follow_of_error {e : Conversion.Error}
    (h : ((conversion plan).run fs).result = .error e) :
    ((follow plan).run fs).result = .error (.conversion plan.convert.input e) ∧
      ((follow plan).run fs).files = ((conversion plan).run fs).files := by
  obtain ⟨hresult, hfiles⟩ := Action.mapError_eq (Failure.conversion plan.convert.input)
    (conversion plan) fs
  rw [h] at hresult
  unfold follow
  rw [(Action.say_bind _ _ _).1, (Action.say_bind _ _ _).1, (Action.say_bind _ _ _).2,
    (Action.say_bind _ _ _).2, (Action.bind_of_error hresult).1, (Action.bind_of_error hresult).2]
  exact ⟨rfl, hfiles⟩

theorem follow_of_ok {summary : Conversion.Summary}
    (h : ((conversion plan).run fs).result = .ok summary) :
    let converted := ((conversion plan).run fs).files
    ((follow plan).run fs).result =
        ((writeScript plan).run converted).result.map (fun _ => summary) ∧
      ((follow plan).run fs).files = ((writeScript plan).run converted).files := by
  intro converted
  obtain ⟨hresult, hfiles⟩ := Action.mapError_eq (Failure.conversion plan.convert.input)
    (conversion plan) fs
  rw [h] at hresult
  unfold follow
  rw [(Action.say_bind _ _ _).1, (Action.say_bind _ _ _).1, (Action.say_bind _ _ _).2,
    (Action.say_bind _ _ _).2, (Action.bind_of_ok hresult).1, (Action.bind_of_ok hresult).2, hfiles]
  cases hscript : ((writeScript plan).run converted).result with
  | error f => exact Action.bind_of_error hscript
  | ok u => exact Action.bind_of_ok hscript

theorem writeScript_of_none (h : plan.loadScript = none) (fs : FileSystem) :
    ((writeScript plan).run fs).result = .ok () ∧ ((writeScript plan).run fs).files = fs := by
  unfold writeScript
  rw [h]
  exact ⟨rfl, rfl⟩

/-- The text of a plan's load script. -/
def scriptText (plan : Plan) (script : Plan.Script) : Except LoadScript.Error String :=
  LoadScript.render plan.name plan.convert.output
    (script.csvUrl.getD (LoadScript.defaultUrl plan.convert.output))

theorem writeScript_of_some {script : Plan.Script} (h : plan.loadScript = some script)
    (fs : FileSystem) :
    ∃ text, scriptText plan script = .ok text ∧
      ((writeScript plan).run fs).result =
        ((Files.writeText script.output text).run fs).result.mapError
          (fun e => .loadScript (.write script.output e)) ∧
      ((writeScript plan).run fs).files =
        ((Files.writeText script.output text).run fs).files := by
  obtain ⟨text, htext, hresult, hfiles⟩ :=
    LoadScript.write_eq plan.name script.output script.csvUrl plan.convert.output fs
  refine ⟨text, htext, ?_⟩
  unfold writeScript
  rw [h]
  simp only
  rw [(Action.mapError_eq _ _ _).1, (Action.mapError_eq _ _ _).2, hresult, hfiles]
  refine ⟨?_, rfl⟩
  cases ((Files.writeText script.output text).run fs).result <;> rfl

/-! ## What changes -/

/-- An output of the plan leads to this location. -/
def WritesAt (plan : Plan) (fs : FileSystem) (loc : Location) : Prop :=
  fs.resolve plan.convert.output = .ok loc ∨
    ∃ script, plan.loadScript = some script ∧ fs.resolve script.output = .ok loc

/-- A piece of the load script's path leads to this location. -/
def MakesAt (plan : Plan) (fs : FileSystem) (loc : Location) : Prop :=
  ∃ script, plan.loadScript = some script ∧ Files.IsDirectoryOf fs script.output loc

theorem confined_writeScript (plan : Plan) (fs : FileSystem) :
    Confined (WritesAt plan ((writeScript plan).run fs).files)
      (MakesAt plan ((writeScript plan).run fs).files) fs ((writeScript plan).run fs).files := by
  cases hscript : plan.loadScript with
  | none => rw [(writeScript_of_none hscript fs).2]; exact .refl _ _ _
  | some script =>
    obtain ⟨text, -, -, hfiles⟩ := writeScript_of_some hscript fs
    rw [hfiles]
    exact (Files.confined_writeText fs script.output text).imp
      (fun loc h => .inr ⟨script, hscript, h⟩) fun loc h => ⟨script, hscript, h⟩

/-- **Following a plan changes its outputs and nothing else**, in whatever way it ends. -/
theorem confined_follow (plan : Plan) (fs : FileSystem) :
    Confined (WritesAt plan ((follow plan).run fs).files)
      (MakesAt plan ((follow plan).run fs).files) fs ((follow plan).run fs).files := by
  have hfirst := (Conversion.course_convert fs plan.convert.input plan.convert.output).confined
  cases hconvert : ((conversion plan).run fs).result with
  | error e =>
    rw [(follow_of_error hconvert).2]
    exact hfirst.imp (fun loc h => .inl h) fun loc => False.elim
  | ok summary =>
    rw [(follow_of_ok hconvert).2]
    have hsecond := confined_writeScript plan ((conversion plan).run fs).files
    exact (hfirst.imp (fun loc h => .inl (hsecond.resolve h)) fun loc => False.elim).trans hsecond

/-! ## What the outputs hold -/

/-- The plan's CSV holds all the rows of the dump that was there before. -/
def HoldsCsv (plan : Plan) (before : FileSystem) (summary : Conversion.Summary)
    (after : FileSystem) : Prop :=
  ∃ dump, before.read plan.convert.input = .ok dump ∧
    (Conversion.writeRows .unlimited [] dump plan.convert.output).1 = .ok summary ∧
    after.read plan.convert.output =
      .ok (Conversion.writeRows .unlimited [] dump plan.convert.output).2.1

/-- A CSV that has been written is there as long as nothing else is written to its location. -/
theorem holdsCsv_of_confined {summary : Conversion.Summary} {writes makes : Location → Prop}
    (h : ((conversion plan).run fs).result = .ok summary)
    (hc : Confined writes makes ((conversion plan).run fs).files fs')
    (hw : ∀ loc, fs'.resolve plan.convert.output = .ok loc → ¬ writes loc)
    (hdevice : ¬ fs'.LeadsToDevice plan.convert.output) : HoldsCsv plan fs summary fs' := by
  cases Conversion.course_convert fs plan.convert.input plan.convert.output with
  | refused failed files =>
    rw [h] at failed
    rcases failed with ⟨e, h⟩ | ⟨e, h⟩ <;> cases h
  | device dump read leads files =>
    obtain ⟨loc, kind, hleads, hl⟩ := leads
    rw [files] at hc
    exact absurd ⟨loc, kind, hc.resolve hleads, hc.device hl⟩ hdevice
  | file dump loc read may files leads result =>
    have hleads := hc.resolve leads
    have hlookup := fs.lookup_set_self may.ne_nil
      (.file (Conversion.writeRows .unlimited [] dump plan.convert.output).2.1)
    rw [← files] at hlookup
    refine ⟨dump, read, result.symm.trans h, ?_⟩
    exact read_of_lookup hleads (hc.lookup_of_some (hw loc hleads) hlookup)

/-- The plan's CSV holds the header and the rows of all lines before the malformed one. -/
def HoldsRowsBefore (plan : Plan) (before : FileSystem) (m : Conversion.Malformed)
    (after : FileSystem) : Prop :=
  ∃ dump front line rest rows missing, before.read plan.convert.input = .ok dump ∧
    Conversion.lines dump = front ++ line :: rest ∧ Conversion.HaveRows front rows ∧
    Row.ofLine line = .error missing ∧
    m = ⟨front.length + 1, missing.fieldCount, Utf8.lossy line⟩ ∧
    after.read plan.convert.output =
      .ok (Conversion.header ++ [Conversion.lineFeed] ++ Conversion.rowText rows)

/-- What a conversion leaves behind that failed in this way. -/
structure LeftByFailure (plan : Plan) (before : FileSystem) (e : Conversion.Error)
    (after : FileSystem) : Prop where
  /-- No entry is new or different but the file of the CSV. -/
  lookup : ∀ loc, after.resolve plan.convert.output ≠ .ok loc →
    after.lookup loc = before.lookup loc
  /-- A path leads to what it led to, unless it leads to the file of the CSV. -/
  untouched : ∀ p, Untouched before after p ∨
    ∃ loc, after.resolve p = .ok loc ∧ after.resolve plan.convert.output = .ok loc
  /-- Nothing is left by a failure of the system, nor on a device. -/
  unchanged : (∀ m, e ≠ .malformedRecord m) ∨ after.LeadsToDevice plan.convert.output →
    after = before
  /-- A malformed line leaves the rows before it. -/
  rows : ∀ m, e = .malformedRecord m → ¬ after.LeadsToDevice plan.convert.output →
    HoldsRowsBefore plan before m after

/-- **A conversion that failed** left the CSV as far as it came, and everything else alone. -/
theorem leftByFailure_convert {e : Conversion.Error}
    (h : ((conversion plan).run fs).result = .error e) :
    LeftByFailure plan fs e ((conversion plan).run fs).files := by
  have hcourse := Conversion.course_convert fs plan.convert.input plan.convert.output
  have helse : ∀ loc, ((conversion plan).run fs).files.resolve plan.convert.output ≠ .ok loc →
      ((conversion plan).run fs).files.lookup loc = fs.lookup loc :=
    fun loc hloc => hcourse.confined.lookup_eq hloc id
  have huntouched := hcourse.confined.untouched_or
  cases hcourse with
  | refused failed files =>
    refine ⟨helse, huntouched, fun _ => files, fun m hm => ?_⟩
    rw [h, hm] at failed
    rcases failed with ⟨e', h'⟩ | ⟨e', h'⟩ <;> cases h'
  | device dump read leads files =>
    refine ⟨helse, huntouched, fun _ => files, fun m hm hdevice => ?_⟩
    rw [files] at hdevice
    exact absurd leads hdevice
  | file dump loc read may files leads result =>
    have hlookup := fs.lookup_set_self may.ne_nil
      (.file (Conversion.writeRows .unlimited [] dump plan.convert.output).2.1)
    rw [← files] at hlookup
    rw [h] at result
    -- onto a file, the only way to fail is a malformed line
    rcases Conversion.haveRows_or_first (Conversion.lines dump) with
      ⟨rows, hrows⟩ | ⟨front, line, rest, rows, missing, hlines, hrows, hline⟩
    · rw [(Conversion.writeRows_of_haveRows hrows _).1] at result
      cases result
    obtain ⟨hfirst, hwritten⟩ :=
      Conversion.writeRows_of_first hlines hrows hline plan.convert.output
    have he := Except.error.inj (result.trans hfirst)
    refine ⟨helse, huntouched, ?_, ?_⟩
    · rintro (hnot | ⟨loc', kind, hloc', hdevice⟩)
      · exact absurd he (hnot _)
      · obtain rfl : loc = loc' := Except.ok.inj (leads.symm.trans hloc')
        rw [hlookup] at hdevice
        cases hdevice
    · intro m hm _
      have hm' := Conversion.Error.malformedRecord.inj (hm.symm.trans he)
      rw [hwritten] at hlookup
      exact ⟨dump, front, line, rest, rows, missing, read, hlines, hrows, hline, hm',
        read_of_lookup leads hlookup⟩

/-- The conversion went well and the load script did not: that is reported, and the CSV is there. -/
theorem follow_error_of_ok {summary : Conversion.Summary} {f : Failure}
    (hs : ((conversion plan).run fs).result = .ok summary)
    (hf : ((follow plan).run fs).result = .error f) :
    (∃ e, f = .loadScript e) ∧
      (¬ ((follow plan).run fs).files.LeadsToDevice plan.convert.output →
        HoldsCsv plan fs summary ((follow plan).run fs).files) := by
  obtain ⟨hresult, hfiles⟩ := follow_of_ok hs
  rw [hf] at hresult
  cases hscript : plan.loadScript with
  | none => rw [(writeScript_of_none hscript _).1] at hresult; cases hresult
  | some script =>
    obtain ⟨text, -, hresult', hfiles'⟩ :=
      writeScript_of_some hscript ((conversion plan).run fs).files
    rw [hresult'] at hresult
    rw [hfiles'] at hfiles
    cases hwrite : ((Files.writeText script.output text).run
      ((conversion plan).run fs).files).result with
    | ok u => rw [hwrite] at hresult; cases hresult
    | error e =>
      rw [hwrite] at hresult
      have hconfined := Files.confined_writeText_of_error hwrite
      rw [← hfiles] at hconfined
      exact ⟨⟨_, Except.error.inj hresult⟩, holdsCsv_of_confined hs hconfined fun _ _ => id⟩

/-- Both stages went well: the load script is there, and so is the CSV unless the load script went
to the same file. -/
theorem outputs_of_follow_ok {summary : Conversion.Summary}
    (ho : ((follow plan).run fs).result = .ok summary) :
    (¬ ((follow plan).run fs).files.LeadsToDevice plan.convert.output →
      (∀ script, plan.loadScript = some script →
        ((follow plan).run fs).files.resolve script.output ≠
          ((follow plan).run fs).files.resolve plan.convert.output) →
      HoldsCsv plan fs summary ((follow plan).run fs).files) ∧
    ∀ script, plan.loadScript = some script →
      ¬ ((follow plan).run fs).files.LeadsToDevice script.output →
      ∃ text, scriptText plan script = .ok text ∧
        ((follow plan).run fs).files.read script.output = .ok (Bytes.ofString text) := by
  cases hs : ((conversion plan).run fs).result with
  | error e =>
    have hresult := (follow_of_error hs).1
    rw [ho] at hresult; cases hresult
  | ok summary' =>
    obtain ⟨hresult, hfiles⟩ := follow_of_ok hs
    rw [ho] at hresult
    cases hscript : plan.loadScript with
    | none =>
      rw [(writeScript_of_none hscript _).1] at hresult
      rw [(writeScript_of_none hscript _).2] at hfiles
      obtain rfl : summary = summary' := Except.ok.inj hresult
      have hsame := Confined.refl (fun _ => False) (fun _ => False) ((follow plan).run fs).files
      nth_rewrite 1 [hfiles] at hsame
      exact ⟨fun hdevice _ => holdsCsv_of_confined hs hsame (fun _ _ => id) hdevice, nofun⟩
    | some script =>
      obtain ⟨text, htext, hresult', hfiles'⟩ :=
        writeScript_of_some hscript ((conversion plan).run fs).files
      have hall := Files.confined_writeText ((conversion plan).run fs).files script.output text
      obtain ⟨fs', -, ⟨⟨e, hwrite⟩, -⟩ | ⟨hwrite, hrewrites, -⟩⟩ :=
        Files.course_writeText ((conversion plan).run fs).files script.output text
      · rw [hresult', hwrite] at hresult; cases hresult
      · rw [hresult', hwrite] at hresult
        rw [← hfiles', ← hfiles] at hall hrewrites
        obtain rfl : summary = summary' := Except.ok.inj hresult
        refine ⟨fun hdevice hdistinct => ?_, ?_⟩
        · refine holdsCsv_of_confined hs hall (fun loc hcsv hsame => ?_) hdevice
          exact hdistinct script rfl (hsame.trans hcsv.symm)
        · intro script' hscript' hdevice
          cases hscript'
          exact ⟨text, htext, hrewrites.read hdevice⟩

/-- **What following a plan leaves behind.** Nothing is lost, and nothing is new or different but
the outputs and directories above the load script. If the conversion fails, its failure is reported
and nothing has changed but the CSV: a path leads to what it led to unless it leads there, and only
a malformed line has left anything there, namely the rows before it. If the load script cannot be
written, that is reported, and the CSV is complete. If all goes well, the load script is the one
rendered for the plan, and the CSV is complete unless the load script went to the same file. -/
theorem follow_effect (fs : FileSystem) (plan : Plan) :
    let converted := (conversion plan).run fs
    let o := (follow plan).run fs
    Confined (WritesAt plan o.files) (MakesAt plan o.files) fs o.files ∧
    (∀ e, converted.result = .error e →
      o.result = .error (.conversion plan.convert.input e) ∧ o.files = converted.files ∧
      LeftByFailure plan fs e o.files) ∧
    (∀ summary f, converted.result = .ok summary → o.result = .error f →
      (∃ e, f = .loadScript e) ∧
      (¬ o.files.LeadsToDevice plan.convert.output → HoldsCsv plan fs summary o.files)) ∧
    ∀ summary, o.result = .ok summary →
      (¬ o.files.LeadsToDevice plan.convert.output →
        (∀ script, plan.loadScript = some script →
          o.files.resolve script.output ≠ o.files.resolve plan.convert.output) →
        HoldsCsv plan fs summary o.files) ∧
      ∀ script, plan.loadScript = some script → ¬ o.files.LeadsToDevice script.output →
        ∃ text, scriptText plan script = .ok text ∧
          o.files.read script.output = .ok (Bytes.ofString text) := by
  intro converted o
  refine ⟨confined_follow plan fs, ?_, fun _ _ => follow_error_of_ok,
    fun _ => outputs_of_follow_ok⟩
  intro e he
  obtain ⟨hresult, hfiles⟩ := follow_of_error he
  refine ⟨hresult, hfiles, ?_⟩
  rw [hfiles]
  exact leftByFailure_convert he

/-- A plan that is followed to its end, one whose dump is malformed and whose load script is to
stand below the CSV, and one whose load script is to stand below another file. -/
theorem follow_effect_endings :
    let fs : FileSystem :=
      ⟨[([Bytes.ofString "good"], .file (Bytes.ofString "1 2 A")),
        ([Bytes.ofString "bad"], .file (Bytes.ofString "1 2 a_i"))], []⟩
    let script (output : String) : Plan.Script := { output := .ofString output }
    let plan (input output : String) : Plan :=
      { convert := ⟨.ofString input, .ofString "csv"⟩, loadScript := some (script output) }
    let csv := Bytes.ofString "n1,n2,label\n1,2,A\n"
    (((follow (plan "good" "dir/load")).run fs).files.read (.ofString "csv") = .ok csv ∧
      ∃ text, scriptText (plan "good" "dir/load") (script "dir/load") = .ok text ∧
        ((follow (plan "good" "dir/load")).run fs).files.read (.ofString "dir/load") =
          .ok (Bytes.ofString text)) ∧
    (Untouched fs ((follow (plan "bad" "csv/load")).run fs).files (.ofString "csv/load") ∧
      HoldsRowsBefore (plan "bad" "csv/load") fs ⟨1, 3, "1 2 a_i"⟩
        ((follow (plan "bad" "csv/load")).run fs).files) ∧
    ((follow (plan "good" "bad/load")).run fs).files.read (.ofString "csv") = .ok csv := by
  intro fs script plan csv
  have hcsv : ∀ summary after output, HoldsCsv (plan "good" output) fs summary after →
      after.read (.ofString "csv") = .ok csv := by
    rintro summary after output ⟨dump, hread, -, hcsv⟩
    have hdump : fs.read (.ofString "good") = .ok (Bytes.ofString "1 2 A") := by decide +kernel
    obtain rfl : _ = dump := Except.ok.inj (hdump.symm.trans hread)
    have hrows : (Conversion.writeRows .unlimited [] (Bytes.ofString "1 2 A")
      (.ofString "csv")).2.1 = csv := by decide +kernel
    exact hcsv.trans (congrArg Except.ok hrows)
  refine ⟨?_, ?_, ?_⟩
  · obtain ⟨-, -, -, hok⟩ := follow_effect fs (plan "good" "dir/load")
    obtain ⟨hholds, hscript⟩ := hok ⟨1, 0⟩ (by decide +kernel)
    refine ⟨hcsv _ _ _ (hholds (by decide +kernel) ?_), hscript _ rfl (by decide +kernel)⟩
    intro script' hscript'
    cases hscript'
    decide +kernel
  · obtain ⟨-, herror, -, -⟩ := follow_effect fs (plan "bad" "csv/load")
    obtain ⟨-, -, hleft⟩ := herror (.malformedRecord ⟨1, 3, "1 2 a_i"⟩) (by decide +kernel)
    refine ⟨?_, hleft.rows _ rfl (by decide +kernel)⟩
    rcases hleft.untouched (.ofString "csv/load") with huntouched | ⟨loc, hloc, -⟩
    · exact huntouched
    · have hfile : ((follow (plan "bad" "csv/load")).run fs).files.resolve (.ofString "csv/load") =
        .error .notDirectory := by decide +kernel
      rw [hfile] at hloc
      cases hloc
  · obtain ⟨-, -, hscript, -⟩ := follow_effect fs (plan "good" "bad/load")
    obtain ⟨-, hholds⟩ := hscript ⟨1, 0⟩ (.loadScript (.write (.ofString "bad/load") .notDirectory))
      (by decide +kernel) (by decide +kernel)
    exact hcsv _ _ _ (hholds (by decide +kernel))

/-- A load script that is to go where the CSV goes: the conversion fails, and what was there before
is gone. -/
theorem follow_shared_output :
    let shared := Path.ofString "both.csv"
    let plan : Plan :=
      { convert := ⟨.ofString "in.vfg", shared⟩, loadScript := some { output := shared } }
    let fs : FileSystem :=
      ⟨[([Bytes.ofString "in.vfg"], .file (Bytes.ofString "1 2 a_i")),
        ([Bytes.ofString "both.csv"], .file (Bytes.ofString "old"))], []⟩
    ((conversion plan).run fs).result = .error (.malformedRecord ⟨1, 3, "1 2 a_i"⟩) ∧
      fs.read shared = .ok (Bytes.ofString "old") ∧
      ((follow plan).run fs).files.read shared = .ok (Bytes.ofString "n1,n2,label\n") := by
  decide +kernel

end Run

end EdgeCsv
