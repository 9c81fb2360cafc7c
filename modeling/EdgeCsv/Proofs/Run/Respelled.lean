import EdgeCsv.Proofs.Generate
import EdgeCsv.Proofs.LoadScript.Lines

/-!
# A plan file under another spelling

The paths of a plan are taken from the parent of the path of its file, which is found in the
spelling alone. All the same, what a plan does depends only on which file it is in. Two spellings
that lead to the same file have parents that lead to the same directory, and from there it makes no
difference which of them a path was taken from.

* `convert_congr`, `writeScript_congr`: each stage ends in the same way. The spelling only shows in
  the paths of errors and in the comment of the load script that names the CSV.
* `followFile_respelled`: so does a plan file that is followed as a whole.
-/

namespace EdgeCsv

open FileSystem

variable {fs : FileSystem} {dir loc : Location} {p q base base' input input' output : Path}
  {plan : Plan}

namespace Conversion

/-- The kind of a failure, apart from the path and from the reason that the system gave. -/
def Error.kind (e : Error) : String × Option Malformed :=
  (e.code, e.malformed?)

theorem Error.kind_takenFrom (base : Path) (e : Error) : (e.takenFrom base).kind = e.kind := by
  cases e <;> rfl

/-- **Conversions that read the same dump and create the same CSV** end in the same way. -/
theorem convert_congr (hread : (fs.read input).toOption = (fs.read input').toOption)
    (hcreate : (fs.create (base.join output)).toOption = (fs.create (base'.join output)).toOption) :
    let o := (convert input (base.join output)).run fs
    let o' := (convert input' (base'.join output)).run fs
    o'.result.mapError Error.kind = o.result.mapError Error.kind ∧ o'.files = o.files := by
  intro o o'
  rcases Action.ok_or_error_of_toOption hread with ⟨dump, hdump, hdump'⟩ | ⟨e, e', hfail, hfail'⟩
  · rcases Action.ok_or_error_of_toOption hcreate with
      ⟨⟨loc, opened⟩, hopened, hopened'⟩ | ⟨e, e', hfail, hfail'⟩
    · obtain ⟨hresult, hfiles⟩ := convert_of_create hdump hopened
      obtain ⟨hresult', hfiles'⟩ := convert_of_create hdump' hopened'
      obtain ⟨hrows, hcsv⟩ := writeFile_join dump loc base output opened
      obtain ⟨hrows', hcsv'⟩ := writeFile_join dump loc base' output opened
      refine ⟨?_, (hfiles'.trans hcsv').trans (hfiles.trans hcsv).symm⟩
      rw [hresult, hresult', hrows, hrows']
      cases (writeFile dump loc output opened).result with
      | ok summary => rfl
      | error e => simp only [Except.mapError, Error.kind_takenFrom]
    · obtain ⟨hresult, hfiles⟩ := convert_of_create_error hdump hfail
      obtain ⟨hresult', hfiles'⟩ := convert_of_create_error hdump' hfail'
      refine ⟨?_, hfiles'.trans hfiles.symm⟩
      rw [hresult, hresult']
      rfl
  · obtain ⟨hresult, hfiles⟩ := convert_of_read_error hfail (base.join output)
    obtain ⟨hresult', hfiles'⟩ := convert_of_read_error hfail' (base'.join output)
    refine ⟨?_, hfiles'.trans hfiles.symm⟩
    rw [hresult, hresult']
    rfl

theorem create_of_convert_ok {summary : Summary}
    (h : ((convert input output).run fs).result = .ok summary) :
    ∃ loc opened, fs.create output = .ok (loc, opened) := by
  cases hdump : fs.read input with
  | error e => rw [(convert_of_read_error hdump output).1] at h; cases h
  | ok dump =>
    cases hcreate : fs.create output with
    | error e => rw [(convert_of_create_error hdump hcreate).1] at h; cases h
    | ok created => exact ⟨created.1, created.2, rfl⟩

end Conversion

namespace Plan

/-- What a plan file comes to depends on its text. -/
theorem load_congr (h : fs.readText q = fs.readText p) :
    ((load q).run fs).result.mapError Error.code =
      ((load p).run fs).result.mapError Error.code := by
  rw [(load_eq p fs).1, (load_eq q fs).1, h]
  cases fs.readText p with
  | error e => rfl
  | ok text =>
    simp only [Except.mapError, bind, Except.bind]
    cases ofYaml (String.ofList text) <;> rfl

/-- A plan is not read from a directory. -/
theorem lookup_of_load (h : ((load p).run fs).result = .ok plan) (hp : fs.resolve p = .ok loc) :
    fs.lookup loc ≠ some .directory := by
  intro hdir
  have hread : fs.readText p = .error .isDirectory := by
    unfold readText FileSystem.read
    rw [hp]
    simp only [bind, Except.bind, hdir]
  rw [(load_eq p fs).1, hread] at h
  cases h

end Plan

namespace Run

/-- The kinds of failures. -/
inductive Failure.Kind
  | plan (code : String)
  | conversion (code : String) (malformed : Option Conversion.Malformed)
  | loadScript (code : String)
  | file (e : IoError)
  | unsupportedExporter (name : String)
  deriving DecidableEq, Repr

/-- The kind of a failure, apart from the paths in it and from the reasons that the system gave. -/
def Failure.kind : Failure → Kind
  | .plan e => .plan e.code
  | .conversion _ e => .conversion e.code e.malformed?
  | .loadScript e => .loadScript e.code
  | .file e => .file e
  | .unsupportedExporter name => .unsupportedExporter name

/-- The same files, except that the load script of a plan may differ in its second line if the work
went well, so that the load script has been written. -/
def SameButScript {α : Type} (plan : Plan) (base : Path) (result : Except Failure α)
    (files files' : FileSystem) : Prop :=
  files' = files ∨ result.isOk ∧ ∃ script loc text text', plan.loadScript = some script ∧
    scriptText (plan.resolve base) (script.resolve base) = .ok text ∧
    files.resolve (base.join script.output) = .ok loc ∧
    files.lookup loc = some (.file (Bytes.ofString text)) ∧
    files' = files.set loc (.file (Bytes.ofString text')) ∧
    LoadScript.SameButSecondLine (Bytes.ofString text) (Bytes.ofString text')

theorem SameButScript.map {α β : Type} {result : Except Failure α} {files files' : FileSystem}
    (f : α → β) (h : SameButScript plan base result files files') :
    SameButScript plan base (result.map f) files files' := by
  refine h.imp_right fun ⟨hok, hscript⟩ => ⟨?_, hscript⟩
  cases result with
  | error e => cases hok
  | ok a => rfl

/-! ## The two stages -/

/-- **The load script** is written in the same way, and is the same but for its second line. -/
theorem writeScript_congr (h : fs.IsBase base dir) (h' : fs.IsBase base' dir)
    (hlen : ∀ path ∈ plan.paths, (base.join path).bytes.length ≤ maxPath)
    (hlen' : ∀ path ∈ plan.paths, (base'.join path).bytes.length ≤ maxPath)
    (hurl : LoadScript.defaultUrl (base'.join plan.convert.output) =
      LoadScript.defaultUrl (base.join plan.convert.output)) :
    let o := (writeScript (plan.resolve base)).run fs
    let o' := (writeScript (plan.resolve base')).run fs
    o'.result.mapError Failure.kind = o.result.mapError Failure.kind ∧
      SameButScript plan base o.result o.files o'.files := by
  intro o o'
  cases hs : plan.loadScript with
  | none =>
    have hnone : ∀ base, (plan.resolve base).loadScript = none := by
      intro base
      simp only [Plan.resolve, hs, Option.map_none]
    obtain ⟨hresult, hfiles⟩ := writeScript_of_none (hnone base) fs
    obtain ⟨hresult', hfiles'⟩ := writeScript_of_none (hnone base') fs
    refine ⟨?_, .inl (hfiles'.trans hfiles.symm)⟩
    rw [hresult, hresult']
  | some script =>
    have hsome : ∀ base, (plan.resolve base).loadScript = some (script.resolve base) := by
      intro base
      simp only [Plan.resolve, hs, Option.map_some]
    have hmem : script.output ∈ plan.paths := by simp [Plan.paths, hs]
    obtain ⟨text, htext, hresult, hfiles⟩ := writeScript_of_some (hsome base) fs
    obtain ⟨text', htext', hresult', hfiles'⟩ := writeScript_of_some (hsome base') fs
    have hrender : LoadScript.render plan.name (base.join plan.convert.output)
        (script.csvUrl.getD (LoadScript.defaultUrl (base.join plan.convert.output))) = .ok text :=
      htext
    have hrender' : LoadScript.render plan.name (base'.join plan.convert.output)
        (script.csvUrl.getD (LoadScript.defaultUrl (base.join plan.convert.output))) =
        .ok text' := by
      rw [← hurl]
      exact htext'
    obtain ⟨hends, hwritten⟩ := Files.writeText_congr h h' (hlen _ hmem) (hlen' _ hmem)
      (LoadScript.bytes_ne_nil_of_render hrender) (LoadScript.bytes_ne_nil_of_render hrender')
    have hjoin : ∀ base, (script.resolve base).output = base.join script.output := fun base => rfl
    rw [hjoin] at hresult hresult' hfiles hfiles'
    constructor
    · rw [hresult, hresult']
      rcases Action.ok_or_error_of_toOption hends with ⟨u, hok', hok⟩ | ⟨e', e, hfail', hfail⟩
      · rw [hok, hok']
        rfl
      · rw [hfail, hfail']
        rfl
    · unfold SameButScript
      rw [hfiles, hfiles', hresult]
      rcases hwritten with hsame | ⟨hok, loc, hleads, hl, hset⟩
      · exact .inl hsame
      · exact .inr ⟨by rw [hok]; rfl, script, loc, text, text', hs, htext, hleads, hl, hset,
          LoadScript.sameButSecondLine_render hrender hrender'⟩

/-- **A plan whose paths are taken from two spellings of one directory** is followed in the same
way. -/
theorem follow_congr (h : fs.IsBase base dir) (h' : fs.IsBase base' dir)
    (hlen : ∀ path ∈ plan.paths, (base.join path).bytes.length ≤ maxPath)
    (hlen' : ∀ path ∈ plan.paths, (base'.join path).bytes.length ≤ maxPath) :
    let o := (follow (plan.resolve base)).run fs
    let o' := (follow (plan.resolve base')).run fs
    o'.result.mapError Failure.kind = o.result.mapError Failure.kind ∧
      SameButScript plan base o.result o.files o'.files := by
  intro o o'
  have hinput : plan.convert.input ∈ plan.paths := by simp [Plan.paths]
  have houtput : plan.convert.output ∈ plan.paths := by simp [Plan.paths]
  obtain ⟨hread, -⟩ := h.access_congr h' (hlen _ hinput) (hlen' _ hinput)
  obtain ⟨-, hcreate⟩ := h.access_congr h' (hlen _ houtput) (hlen' _ houtput)
  obtain ⟨hkind, hsame⟩ :
      ((conversion (plan.resolve base')).run fs).result.mapError Conversion.Error.kind =
          ((conversion (plan.resolve base)).run fs).result.mapError Conversion.Error.kind ∧
        ((conversion (plan.resolve base')).run fs).files =
          ((conversion (plan.resolve base)).run fs).files :=
    Conversion.convert_congr hread hcreate
  rcases Action.ok_or_error_of_mapError hkind with
    ⟨summary, hok', hok⟩ | ⟨e', e, hfail', hfail, he⟩
  · obtain ⟨hresult, hfiles⟩ := follow_of_ok hok
    obtain ⟨hresult', hfiles'⟩ := follow_of_ok hok'
    rw [hsame] at hresult' hfiles'
    have hurl : LoadScript.defaultUrl (base'.join plan.convert.output) =
        LoadScript.defaultUrl (base.join plan.convert.output) := by
      -- both spellings end in the name of the file that was created
      obtain ⟨loc, opened, hopened⟩ : ∃ loc opened,
          fs.create (base.join plan.convert.output) = .ok (loc, opened) :=
        Conversion.create_of_convert_ok hok
      have hopened' : fs.create (base'.join plan.convert.output) = .ok (loc, opened) := by
        rcases Action.ok_or_error_of_toOption hcreate with ⟨created, hc, hc'⟩ | ⟨e, -, hc, -⟩
        · exact hc'.trans (hc.symm.trans hopened)
        · cases hc.symm.trans hopened
      unfold LoadScript.defaultUrl
      rw [fileName?_of_create hopened, fileName?_of_create hopened']
    have hconfined : Confined _ _ fs ((conversion (plan.resolve base)).run fs).files :=
      (Conversion.course_convert ..).confined
    obtain ⟨hends, hscript⟩ := writeScript_congr (h.confined hconfined) (h'.confined hconfined)
      hlen hlen' hurl
    refine ⟨?_, ?_⟩
    · rw [hresult, hresult']
      rcases Action.ok_or_error_of_mapError hends with ⟨u, hu', hu⟩ | ⟨f', f, hf', hf, hkinds⟩
      · rw [hu, hu']
      · rw [hf, hf']
        exact congrArg Except.error hkinds
    · rw [hresult, hfiles, hfiles']
      exact hscript.map _
  · obtain ⟨hresult, hfiles⟩ := follow_of_error hfail
    obtain ⟨hresult', hfiles'⟩ := follow_of_error hfail'
    refine ⟨?_, .inl (hfiles'.trans (hsame.trans hfiles.symm))⟩
    obtain ⟨hcode, hmalformed⟩ := Prod.ext_iff.1 he
    rw [hresult, hresult']
    exact congrArg Except.error (congrArg₂ Failure.Kind.conversion hcode hmalformed)

/-- **A plan's meaning does not depend on how the path of its file is spelled.** Two paths that lead
to the same file of a tree are followed to the same summary or fail in the same way, and they leave
the same files, except that a load script that was written may differ in its second line. Paths that
get too long when they are taken from one of the two are left aside. -/
theorem followFile_respelled (htree : fs.IsTree) (hp : fs.resolve p = .ok loc)
    (hq : fs.resolve q = .ok loc)
    (hlen : ∀ plan base path, ((Plan.load p).run fs).result = .ok plan →
      p.parent? = some base ∨ q.parent? = some base → path ∈ plan.paths →
      (base.join path).bytes.length ≤ maxPath) :
    let o := (followFile p {}).run fs
    let o' := (followFile q {}).run fs
    o'.result.mapError Failure.kind = o.result.mapError Failure.kind ∧
      (o'.files = o.files ∨ ∃ plan base, ((Plan.load p).run fs).result = .ok plan ∧
        p.parent? = some base ∧ SameButScript plan base o.result o.files o'.files) := by
  intro o o'
  have htext : fs.readText q = fs.readText p := by
    unfold readText FileSystem.read
    rw [hp, hq]
  rcases Action.ok_or_error_of_mapError (Plan.load_congr htext) with
    ⟨plan, hload', hload⟩ | ⟨e', e, hload', hload, hcode⟩
  · have hfile := Plan.lookup_of_load hload hp
    obtain ⟨base, hparent, hbase⟩ := isBase_of_resolve htree hp hfile
    obtain ⟨base', hparent', hbase'⟩ := isBase_of_resolve htree hq hfile
    obtain ⟨hresult, hfiles⟩ := followFile_of_load hload hparent
    obtain ⟨hresult', hfiles'⟩ := followFile_of_load hload' hparent'
    obtain ⟨hkind, hsame⟩ := follow_congr hbase hbase'
      (fun path => hlen plan base path hload (.inl hparent))
      (fun path => hlen plan base' path hload (.inr hparent'))
    rw [← hresult, ← hresult'] at hkind
    rw [← hresult, ← hfiles, ← hfiles'] at hsame
    exact ⟨hkind, .inr ⟨plan, base, hload, hparent, hsame⟩⟩
  · obtain ⟨hresult, hfiles⟩ := followFile_of_load_error hload
    obtain ⟨hresult', hfiles'⟩ := followFile_of_load_error hload'
    refine ⟨?_, .inl (hfiles'.trans hfiles.symm)⟩
    rw [hresult, hresult']
    exact congrArg Except.error (congrArg Failure.Kind.plan hcode)

/-- A plan that is named from the working directory, and from the root through a directory next to
it. It writes a load script into a new directory. With the empty path for its dump it fails from
both, but for different reasons. -/
theorem followFile_respelled_through_parent :
    let here := Bytes.ofString "w"
    let fs (text : String) : FileSystem :=
      ⟨[([here], .directory), ([Bytes.ofString "d", here], .directory),
        ([Bytes.ofString "plan.yaml", here], .file (Bytes.ofString text)),
        ([Bytes.ofString "in.vfg", here], .file (Bytes.ofString "1 2 A"))], [here]⟩
    let good := "convert:\n  input: d/../in.vfg\n  output: csv\nload_script:\n  output: new/s\n"
    let bad := "convert:\n  input: ''\n"
    let p := Path.ofString "plan.yaml"
    let q := Path.ofString "/w/d/.././plan.yaml"
    let o (text : String) := (followFile p {}).run (fs text)
    let o' (text : String) := (followFile q {}).run (fs text)
    ((o' good).result.mapError Failure.kind = .ok ⟨1, 0⟩ ∧
      ((o' good).files = (o good).files ∨ ∃ plan base,
        ((Plan.load p).run (fs good)).result = .ok plan ∧ p.parent? = some base ∧
        SameButScript plan base (o good).result (o good).files (o' good).files)) ∧
    (o' bad).result ≠ (o bad).result ∧
      (o' bad).result.mapError Failure.kind = (o bad).result.mapError Failure.kind := by
  intro here fs good bad p q o o'
  have htree : ∀ text, (fs text).IsTree := by
    intro text
    refine isTree_of_entries fun entry hentry => ?_
    simp only [fs, List.mem_cons, List.not_mem_nil, or_false] at hentry
    rcases hentry with rfl | rfl | rfl | rfl <;> rfl
  have hp : ∀ text, (fs text).resolve p = .ok [Bytes.ofString "plan.yaml", here] := fun text => rfl
  have hq : ∀ text, (fs text).resolve q = .ok [Bytes.ofString "plan.yaml", here] := fun text => rfl
  have hbase : p.parent? = some ⟨[]⟩ := by decide +kernel
  have hbase' : q.parent? = some (.ofString "/w/d/..") := by decide +kernel
  -- the paths of the plan in the file are short enough from both parents
  have hshort : ∀ text plan, ((Plan.load p).run (fs text)).result = .ok plan →
      (∀ path ∈ plan.paths, (Path.join ⟨[]⟩ path).bytes.length ≤ maxPath ∧
        ((Path.ofString "/w/d/..").join path).bytes.length ≤ maxPath) →
      ∀ plan base path, ((Plan.load p).run (fs text)).result = .ok plan →
        p.parent? = some base ∨ q.parent? = some base → path ∈ plan.paths →
        (base.join path).bytes.length ≤ maxPath := by
    intro text plan hload hlen plan' base path hload' hparent hpath
    obtain rfl : plan = plan' := Except.ok.inj (hload.symm.trans hload')
    rcases hparent with hparent | hparent
    · obtain rfl := Option.some.inj (hbase.symm.trans hparent)
      exact (hlen path hpath).1
    · obtain rfl := Option.some.inj (hbase'.symm.trans hparent)
      exact (hlen path hpath).2
  have hplan : ((Plan.load p).run (fs good)).result = .ok
      { convert := ⟨.ofString "d/../in.vfg", .ofString "csv"⟩,
        loadScript := some { output := .ofString "new/s" } } := by decide +kernel
  have hplan' : ((Plan.load p).run (fs bad)).result =
      .ok { convert := ⟨⟨[]⟩, Plan.defaultOutput⟩ } := by decide +kernel
  have hgood : (o good).result = .ok ⟨1, 0⟩ := by decide +kernel
  obtain ⟨hsummary, hfiles⟩ := followFile_respelled (htree good) (hp good) (hq good)
    (hshort good _ hplan (by decide +kernel))
  obtain ⟨hkind, -⟩ := followFile_respelled (htree bad) (hp bad) (hq bad)
    (hshort bad _ hplan' (by decide +kernel))
  refine ⟨⟨hsummary.trans ?_, hfiles⟩, by decide +kernel, hkind⟩
  exact congrArg (Except.mapError Failure.kind) hgood

end Run

end EdgeCsv
