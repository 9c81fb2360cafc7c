import EdgeCsv.Proofs.FileSystem.Walk
import EdgeCsv.Proofs.Run.Follow
import EdgeCsv.Proofs.Text.Utf8

/-!
# Following the plan in a file

A plan file is read first, and then its parent is looked for in the spelling of its path.

* `Plan.load_eq`: what reading a plan from a file comes to.
* `followFile_of_load`: a plan file is followed with its paths taken from the directory it is in.
* `followFile_finds_parent`: by then there is always a parent, because a path without one leads to
  no file.
-/

namespace EdgeCsv

open FileSystem

variable {fs : FileSystem} {p base : Path}

/-! ## Reading the plan -/

namespace Plan

/-- What reading a plan from a file comes to. -/
theorem load_eq (p : Path) (fs : FileSystem) :
    ((load p).run fs).result = ((fs.readText p).mapError (Error.read p) >>= fun text =>
        (ofYaml (String.ofList text)).mapError (Error.parse p)) ∧
      ((load p).run fs).files = fs := by
  obtain ⟨hresult, hfiles⟩ :=
    Action.mapError_eq (Error.read p) (Action.ask (·.readText p)) fs
  have hask : ((Action.ask (·.readText p) : Action IoError _).run fs).result = fs.readText p := rfl
  rw [hask] at hresult
  unfold load
  cases htext : fs.readText p with
  | error e =>
    rw [htext] at hresult
    rw [(Action.bind_of_error hresult).1, (Action.bind_of_error hresult).2]
    exact ⟨rfl, hfiles⟩
  | ok text =>
    rw [htext] at hresult
    rw [(Action.bind_of_ok hresult).1, (Action.bind_of_ok hresult).2]
    exact ⟨rfl, hfiles⟩

theorem load_of_read {plan : Plan} {text : String} (hread : fs.read p = .ok (Bytes.ofString text))
    (hplan : ofYaml text = .ok plan) : ((load p).run fs).result = .ok plan := by
  have hdecode : fs.readText p = .ok text.toList := by
    unfold readText
    rw [hread]
    simp only [bind, Except.bind, Bytes.ofString, Utf8.decode?_encode]
  rw [(load_eq p fs).1, hdecode]
  simp only [Except.mapError, bind, Except.bind, String.ofList_toList, hplan]

theorem load_of_read_error {e : IoError} (hread : fs.read p = .error e) :
    ((load p).run fs).result = .error (.read p e) := by
  have htext : fs.readText p = .error e := by
    unfold readText
    rw [hread]
    rfl
  rw [(load_eq p fs).1, htext]
  rfl

/-- A plan that cannot be loaded cannot be read or is no plan. -/
theorem load_error_cases {e : Error} (h : ((load p).run fs).result = .error e) :
    (∃ reason, e = .read p reason) ∨ ∃ reason, e = .parse p reason := by
  rw [(load_eq p fs).1] at h
  cases htext : fs.readText p with
  | error reason =>
    rw [htext] at h
    exact .inl ⟨reason, (Except.error.inj h).symm⟩
  | ok text =>
    rw [htext] at h
    simp only [Except.mapError, bind, Except.bind] at h
    cases hplan : ofYaml (String.ofList text) with
    | error reason =>
      rw [hplan] at h
      exact .inr ⟨reason, (Except.error.inj h).symm⟩
    | ok plan => rw [hplan] at h; cases h

end Plan

namespace Run

/-! ## Following it -/

theorem followFile_of_load_error {e : Plan.Error} (h : ((Plan.load p).run fs).result = .error e)
    (overrides : Overrides := {}) :
    ((followFile p overrides).run fs).result = .error (.plan e) ∧
      ((followFile p overrides).run fs).files = fs := by
  obtain ⟨hresult, hfiles⟩ := Action.mapError_eq Failure.plan (Plan.load p) fs
  rw [h] at hresult
  unfold followFile
  rw [(Action.say_bind _ _ _).1, (Action.say_bind _ _ _).2, (Action.bind_of_error hresult).1,
    (Action.bind_of_error hresult).2, hfiles, (Plan.load_eq p fs).2]
  exact ⟨rfl, rfl⟩

/-- A plan that has been read is followed from the parent of its path. -/
theorem followFile_of_parent {plan : Plan} (h : ((Plan.load p).run fs).result = .ok plan)
    (hparent : p.parent? = some base) (overrides : Overrides) :
    let resolved := overrides.apply (plan.resolve base)
    ((followFile p overrides).run fs).result = ((follow resolved).run fs).result ∧
      ((followFile p overrides).run fs).files = ((follow resolved).run fs).files := by
  obtain ⟨hresult, hfiles⟩ := Action.mapError_of_ok Failure.plan h
  unfold followFile
  rw [(Action.say_bind _ _ _).1, (Action.say_bind _ _ _).2, (Action.bind_of_ok hresult).1,
    (Action.bind_of_ok hresult).2, hfiles, (Plan.load_eq p fs).2, hparent]
  exact ⟨rfl, rfl⟩

/-- **A plan file** is followed with its paths taken from the directory it is in. -/
theorem followFile_of_load {plan : Plan} (h : ((Plan.load p).run fs).result = .ok plan)
    (hparent : p.parent? = some base) :
    ((followFile p {}).run fs).result = ((follow (plan.resolve base)).run fs).result ∧
      ((followFile p {}).run fs).files = ((follow (plan.resolve base)).run fs).files :=
  followFile_of_parent h hparent {}

/-- Following a plan fails in one of its two stages, and not for the plan. -/
theorem follow_ne_plan (plan : Plan) (fs : FileSystem) (e : Plan.Error) :
    ((follow plan).run fs).result ≠ .error (.plan e) := by
  intro hfailed
  cases hconvert : ((conversion plan).run fs).result with
  | error e' =>
    rw [(follow_of_error hconvert).1] at hfailed
    cases hfailed
  | ok summary =>
    obtain ⟨⟨e', hscript⟩, -⟩ := follow_error_of_ok hconvert hfailed
    cases hscript

/-! ## Paths without a parent -/

/-- **A path without a parent leads to no file.** The empty path leads nowhere, and the root,
however it is spelled, is a directory. -/
theorem read_of_no_parent (h : p.parent? = none) (fs : FileSystem) :
    ∃ e, fs.read p = .error e := by
  unfold FileSystem.read
  cases hleads : fs.resolve p with
  | error e => exact ⟨e, rfl⟩
  | ok loc =>
    obtain ⟨hcheck, -⟩ := resolve_eq_ok.1 hleads
    obtain ⟨-, hne, -⟩ := precheck_eq_ok.1 hcheck
    have hroot : p.Same (.ofString "/") := (Path.parent?_eq_none_iff.1 h).resolve_left hne
    have horigin : fs.origin p = [] := if_pos (hroot.isAbsolute_eq.trans (by decide))
    have hsteps : p.steps = [] := (Path.same_iff.1 hroot).2.trans (by decide)
    -- there are no steps to take, so the path ends where it starts
    have hhere : fs.resolve p = .ok [] := by
      apply resolve_of_walk hcheck
      rw [horigin, hsteps]
      exact walk_nil rfl
    obtain rfl : [] = loc := Except.ok.inj (hhere.symm.trans hleads)
    exact ⟨.isDirectory, rfl⟩

/-- **The parent of a plan file is always found.** Without a parent are the empty path and the
spellings of the root, and with these it already fails that the plan is read. -/
theorem followFile_finds_parent (p : Path) (overrides : Overrides) (fs : FileSystem) :
    (∀ q, ((followFile p overrides).run fs).result ≠ .error (.plan (.noParentDirectory q))) ∧
    (p.parent? = none ↔ p.bytes = [] ∨ p.Same (.ofString "/")) ∧
    (p.parent? = none → ∃ e, ((Plan.load p).run fs).result = .error (.read p e) ∧
      ((followFile p overrides).run fs).result = .error (.plan (.read p e))) := by
  refine ⟨?_, Path.parent?_eq_none_iff, ?_⟩
  · intro q hfailed
    cases hload : ((Plan.load p).run fs).result with
    | error e =>
      rw [(followFile_of_load_error hload overrides).1] at hfailed
      obtain rfl : e = .noParentDirectory q := by simpa using hfailed
      rcases Plan.load_error_cases hload with ⟨reason, he⟩ | ⟨reason, he⟩ <;> cases he
    | ok plan =>
      cases hparent : p.parent? with
      | none =>
        -- there would be no plan
        obtain ⟨e, hread⟩ := read_of_no_parent hparent fs
        rw [Plan.load_of_read_error hread] at hload
        cases hload
      | some base =>
        rw [(followFile_of_parent hload hparent overrides).1] at hfailed
        exact follow_ne_plan _ fs _ hfailed
  · intro hparent
    obtain ⟨e, hread⟩ := read_of_no_parent hparent fs
    have hload := Plan.load_of_read_error hread
    exact ⟨e, hload, (followFile_of_load_error hload overrides).1⟩

/-- The empty path, and the root under another spelling, in spite of paths that are given apart from
the plan. -/
theorem followFile_finds_parent_root :
    let fs : FileSystem := ⟨[([Bytes.ofString "w"], .directory)], [Bytes.ofString "w"]⟩
    let overrides : Overrides := { input := some (.ofString "in.vfg") }
    let nowhere : Path := ⟨[]⟩
    let root := Path.ofString "/.//."
    (nowhere.parent? = none ∧
      ((followFile nowhere overrides).run fs).result = .error (.plan (.read nowhere .notFound))) ∧
    root.parent? = none ∧
      ((followFile root overrides).run fs).result = .error (.plan (.read root .isDirectory)) := by
  intro fs overrides nowhere root
  have hnowhere : nowhere.parent? = none := by decide
  have hroot : root.parent? = none := by decide
  have hload : ((Plan.load nowhere).run fs).result = .error (.read nowhere .notFound) := by decide
  have hload' : ((Plan.load root).run fs).result = .error (.read root .isDirectory) := by decide
  obtain ⟨-, -, hfails⟩ := followFile_finds_parent nowhere overrides fs
  obtain ⟨-, -, hfails'⟩ := followFile_finds_parent root overrides fs
  obtain ⟨e, hread, hresult⟩ := hfails hnowhere
  obtain ⟨e', hread', hresult'⟩ := hfails' hroot
  obtain rfl : .notFound = e := by simpa using hload.symm.trans hread
  obtain rfl : .isDirectory = e' := by simpa using hload'.symm.trans hread'
  exact ⟨⟨hnowhere, hresult⟩, hroot, hresult'⟩

end Run

end EdgeCsv
