import EdgeCsv.Proofs.Conversion.FullDevice

/-!
# What a conversion says before it fails

Of all that a conversion says, this is about errors (`Log.heard .error`). The steps of its rows say
nothing of that kind (`Quiet`), but for the last one, which is about a malformed line.

* `heard_carryOut`: so a run of the steps that is broken off by a write says no error at all.
* `heard_writeRows`, `heard_writeThrough`: what is heard of the rows, on every writer.
* `convert_announces_failure`: a conversion says one error before it fails and none if it does not,
  except that nothing is said about an output that cannot be written.
* `convert_onto_full_unannounced`: there is such an output.
-/

namespace EdgeCsv.Conversion

variable {σ : Type} {n : Nat} {quiet quiet' : List Step} {fs fs' : FileSystem} {loc : Location}
  {dump : Bytes} {input output p : Path} {e : IoError}

/-- The errors that are said before a conversion ends like this: one for each failure, but none if
the output cannot be written. -/
def announced : Except Error Summary → List Log.Event
  | .ok _ => []
  | .error (.readInput path reason) => [cannotRead path reason]
  | .error (.createOutput path reason) => [cannotCreate path reason]
  | .error (.writeOutput _ _) => []
  | .error (.malformedRecord record) => [stoppedAt record]

/-! ## The steps of the rows -/

/-- Steps that say no error. -/
def Quiet (steps : List Step) : Prop :=
  ∀ event, .say event ∈ steps → event.isHeard .error = false

theorem Quiet.append (h : Quiet quiet) (h' : Quiet quiet') : Quiet (quiet ++ quiet') := by
  intro event hmem
  rcases List.mem_append.1 hmem with hmem | hmem
  · exact h event hmem
  · exact h' event hmem

theorem quiet_rowSteps (n : Nat) (row : Row) : Quiet (Rows.rowSteps n row) := by
  intro event hmem
  unfold Rows.rowSteps at hmem
  cases hkind : row.kind with
  | plain => simp [hkind] at hmem
  | indexed =>
    obtain rfl : event = indexMoved n row := by simpa [hkind] using hmem
    rfl

/-- The step in which rows end: it says that a line is malformed, if one is. -/
def lastSteps : Except Malformed Summary → List Step
  | .ok _ => []
  | .error record => [.say (stoppedAt record)]

/-- **Only the last step of some lines says an error.** -/
theorem steps_ofLines (n : Nat) (ls : List Bytes) :
    ∃ quiet, Quiet quiet ∧
      (Rows.ofLines n ls).steps = quiet ++ lastSteps (Rows.ofLines n ls).result := by
  induction ls generalizing n with
  | nil => exact ⟨[], nofun, rfl⟩
  | cons line ls ih =>
    cases hl : Row.ofLine line with
    | error missing =>
      refine ⟨[], nofun, ?_⟩
      simp only [Rows.ofLines, hl]
      rfl
    | ok row =>
      obtain ⟨quiet, hquiet, hsteps⟩ := ih (n + 1)
      have hlast : lastSteps ((Rows.ofLines (n + 1) ls).result.map (·.count row)) =
          lastSteps (Rows.ofLines (n + 1) ls).result := by
        cases (Rows.ofLines (n + 1) ls).result <;> rfl
      refine ⟨Rows.rowSteps n row ++ quiet, (quiet_rowSteps n row).append hquiet, ?_⟩
      simp only [Rows.ofLines, hl]
      rw [hlast, hsteps, List.append_assoc]

theorem steps_ofDump (dump : Bytes) :
    ∃ quiet, Quiet quiet ∧
      (Rows.ofDump dump).steps = quiet ++ lastSteps (Rows.ofDump dump).result := by
  obtain ⟨quiet, hquiet, hsteps⟩ := steps_ofLines 1 (lines dump)
  have hheader : Quiet [.write header, .write [lineFeed]] := by
    intro event hmem
    simp at hmem
  refine ⟨_, hheader.append hquiet, ?_⟩
  simp only [Rows.ofDump]
  rw [hsteps]
  rfl

/-! ## Carrying them out -/

/-- **What is heard when the steps are carried out.** If a write is refused, the last step is not
come to. -/
theorem heard_carryOut (w : Writer σ) (s : σ) (h : Quiet quiet) (result : Except Malformed Summary)
    (output : Path) :
    let run := w.carryOut s (quiet ++ lastSteps result)
    Log.heard .error run.2.2 = announced
      (run.1.elim (result.mapError .malformedRecord) (.error <| .writeOutput output ·)) := by
  intro run
  induction quiet generalizing s with
  | nil => cases result <;> rfl
  | cons step quiet ih =>
    have hrest : Quiet quiet := fun event hmem => h event (List.mem_cons_of_mem _ hmem)
    cases step with
    | say event =>
      have hevent : event.isHeard .error = false := h event List.mem_cons_self
      have hlog : Log.heard .error run.2.2 =
          Log.heard .error (w.carryOut s (quiet ++ lastSteps result)).2.2 :=
        List.filter_cons_of_neg (by simp [hevent])
      rw [hlog]
      exact ih s hrest
    | write bytes =>
      obtain ⟨failure, s', haccept⟩ : ∃ failure s', w.accept s bytes = (failure, s') := ⟨_, _, rfl⟩
      have hrun : run = w.carryOut s (.write bytes :: (quiet ++ lastSteps result)) := rfl
      rw [Writer.carryOut, haccept] at hrun
      cases failure with
      | some e =>
        rw [hrun]
        rfl
      | none =>
        rw [hrun]
        exact ih s' hrest

/-- **What is heard of the rows**, on whatever writer. -/
theorem heard_writeRows (w : Writer σ) (s : σ) (dump : Bytes) (output : Path) :
    Log.heard .error (writeRows w s dump output).2.2 = announced (writeRows w s dump output).1 := by
  obtain ⟨quiet, hquiet, hsteps⟩ := steps_ofDump dump
  have hheard := heard_carryOut w s hquiet (Rows.ofDump dump).result output
  rw [← hsteps] at hheard
  rw [writeRows_eq]
  exact hheard

/-- Nothing more is said if what is left in the buffer cannot be passed on. -/
theorem heard_writeThrough (w : Writer σ) (s : σ) (dump : Bytes) (output : Path) :
    Log.heard .error (writeThrough w s dump output).2.2 =
      announced (writeThrough w s dump output).1 := by
  have hheard := heard_writeRows (w.buffered bufferSize) ⟨[], s⟩ dump output
  rw [writeThrough_eq]
  simp only [hheard]
  generalize writeRows (w.buffered bufferSize) ⟨[], s⟩ dump output = rows
  cases (w.flush rows.2.1).1 with
  | none => rfl
  | some e =>
    cases hresult : rows.1 with
    | error failure => rfl
    | ok summary => rfl

theorem heard_convert_of_create (hdump : fs.read input = .ok dump)
    (h : fs.create output = .ok (loc, fs')) :
    Log.heard .error ((convert input output).run fs).log =
      Log.heard .error (writeFile dump loc output fs').log := by
  simp only [convert, Action.run, bind, Action.bind, Action.say, Action.ask, Action.update,
    Action.onError, hdump, h]
  generalize writeFile dump loc output fs' = o
  obtain ⟨result, files, log⟩ := o
  cases result with
  | error failure => rfl
  | ok summary =>
    -- what is said at the start and at the end is no error
    have hend : Log.heard .error (log ++ [finished summary]) = Log.heard .error log := by
      unfold Log.heard
      rw [List.filter_append]
      exact List.append_nil _
    exact hend

/-- **What is heard of a conversion.** -/
theorem heard_convert (fs : FileSystem) (input output : Path) :
    Log.heard .error ((convert input output).run fs).log =
      announced ((convert input output).run fs).result := by
  cases hread : fs.read input with
  | error e =>
    rw [(convert_of_read_error hread output).1]
    simp only [convert, Action.run, bind, Action.bind, Action.say, Action.ask, Action.onError,
      Action.fail, hread]
    rfl
  | ok dump =>
    cases hcreate : fs.create output with
    | error e =>
      rw [(convert_of_create_error hread hcreate).1]
      simp only [convert, Action.run, bind, Action.bind, Action.say, Action.ask, Action.update,
        Action.onError, Action.fail, hread, hcreate]
      rfl
    | ok created =>
      rw [heard_convert_of_create hread hcreate, (convert_of_create hread hcreate).1, writeFile_eq]
      exact heard_writeThrough (fileWriter created.1) created.2 dump output

/-! ## Outputs that cannot be written -/

/-- Rows end well or at a malformed line. -/
theorem mapError_ne_writeOutput (result : Except Malformed Summary) (p : Path) (e : IoError) :
    result.mapError Error.malformedRecord ≠ .error (.writeOutput p e) := by
  cases result <;> simp [Except.mapError]

/-- A device that takes everything is a writer that takes everything. -/
theorem fileWriter_null (h : fs.lookup loc = some (.device .null)) :
    (fileWriter loc).Alike .unlimited (fun now _ => now = fs) := by
  rintro now taken bytes rfl
  simp only [fileWriter, FileSystem.append, h, Writer.unlimited]
  exact ⟨trivial, trivial⟩

/-- An opened output that cannot be written to is a full device, as files take every write. -/
theorem full_of_writeFile (hcreate : fs.create output = .ok (loc, fs'))
    (h : (writeFile dump loc output fs').result = .error (.writeOutput p e)) :
    p = output ∧ e = .noSpace ∧ fs.lookup loc = some (.device .full) := by
  obtain ⟨-, ⟨hmay, rfl⟩ | ⟨⟨kind, hl⟩, rfl⟩⟩ := FileSystem.create_eq_ok hcreate
  · rw [(writeFile_file fs hmay.ne_nil dump output).1, (writeRows_unlimited [] dump output).1] at h
    exact absurd h (mapError_ne_writeOutput _ p e)
  rw [writeFile_eq] at h
  cases kind with
  | null =>
    have hresult : (writeThrough (fileWriter loc) fs' dump output).1 =
        (writeThrough .unlimited [] dump output).1 :=
      (writeThrough_alike (fileWriter_null hl) dump output rfl).1
    rw [writeThrough_unlimited, (writeRows_unlimited [] dump output).1] at hresult
    exact absurd (hresult.symm.trans h) (mapError_ne_writeOutput _ p e)
  | full =>
    have hstart : fs' = fs' ∧ (⟨[], 0⟩ : Writer.Limited) = ⟨[], 0⟩ := ⟨rfl, rfl⟩
    obtain ⟨hresult, -⟩ := writeThrough_alike (fileWriter_full hl) dump output hstart
    have hend := hresult.symm.trans h
    rw [result_writeThrough_full] at hend
    -- a malformed line is reported as such, and all else as the fault of the device
    have hreason : .error (.writeOutput output .noSpace) =
        (.error (.writeOutput p e) : Except Error Summary) := by
      split at hend
      · cases hrows : (Rows.ofDump dump).result with
        | error record => rw [hrows] at hend; cases hend
        | ok summary => rw [hrows] at hend; exact hend
      · exact hend
    cases hreason
    exact ⟨rfl, rfl, hl⟩

/-- An output that a conversion cannot write to leads to a full device. -/
theorem leads_of_writeOutput
    (h : ((convert input output).run fs).result = .error (.writeOutput p e)) :
    p = output ∧ e = .noSpace ∧
      ∃ loc, fs.resolve output = .ok loc ∧ fs.lookup loc = some (.device .full) := by
  cases hread : fs.read input with
  | error e => rw [(convert_of_read_error hread output).1] at h; cases h
  | ok dump =>
    cases hcreate : fs.create output with
    | error e => rw [(convert_of_create_error hread hcreate).1] at h; cases h
    | ok created =>
      obtain ⟨loc, fs'⟩ := created
      rw [(convert_of_create hread hcreate).1] at h
      obtain ⟨hp, he, hfull⟩ := full_of_writeFile hcreate h
      have hleads := FileSystem.resolve_of_create hcreate
        (.refl (fun _ => False) (fun _ => False) fs) (by rw [hfull]; rfl)
      exact ⟨hp, he, loc, hleads, hfull⟩

/-- **A conversion announces its failure, unless the output cannot be written.** The errors that it
says are those of `announced`. There is exactly one if it fails and none if it does not, for every
end but that the output cannot be written: then there is none. That the output is then a full device
is due to the file system, where writing to a file never fails; `heard_writeThrough` knows no such
thing, so no refused write is announced, whatever it was refused for. -/
theorem convert_announces_failure (fs : FileSystem) (input output : Path) :
    let o := (convert input output).run fs
    Log.heard .error o.log = announced o.result ∧
    ((Log.heard .error o.log).length = (if o.result.isOk then 0 else 1) ↔
      ∀ p e, o.result ≠ .error (.writeOutput p e)) ∧
    ∀ p e, o.result = .error (.writeOutput p e) →
      Log.heard .error o.log = [] ∧ p = output ∧ e = .noSpace ∧
        ∃ loc, fs.resolve output = .ok loc ∧ fs.lookup loc = some (.device .full) := by
  intro o
  have hheard : Log.heard .error o.log = announced o.result := heard_convert fs input output
  refine ⟨hheard, ?_, ?_⟩
  · rw [hheard]
    cases o.result with
    | ok summary => simp [announced, Except.isOk, Except.toBool]
    | error failure =>
      cases failure <;> simp [announced, Except.isOk, Except.toBool]
  · intro p e hfailed
    rw [hheard, hfailed]
    exact ⟨rfl, leads_of_writeOutput hfailed⟩

/-- The four ways to fail, and a good end: onto a full device a malformed line is still announced,
as long as the rows before it fit in the buffer. -/
theorem convert_announces_failure_each_way :
    let fs : FileSystem := ⟨[([Bytes.ofString "dev"], .directory),
      ([Bytes.ofString "full", Bytes.ofString "dev"], .device .full),
      ([Bytes.ofString "good"], .file (Bytes.ofString "1 2 A")),
      ([Bytes.ofString "bad"], .file (Bytes.ofString "1 2 a_i"))], []⟩
    let heard (input output : String) :=
      Log.heard .error ((convert (.ofString input) (.ofString output)).run fs).log
    heard "good" "csv" = [] ∧
      heard "none" "csv" = [cannotRead (.ofString "none") .notFound] ∧
      heard "good" "dev" = [cannotCreate (.ofString "dev") .isDirectory] ∧
      heard "bad" "/dev/full" = [stoppedAt ⟨1, 3, "1 2 a_i"⟩] ∧
      heard "good" "/dev/full" = [] := by
  intro fs heard
  have hfull : ((convert (.ofString "good") (.ofString "/dev/full")).run fs).result =
      .error (.writeOutput (.ofString "/dev/full") .noSpace) := by decide +kernel
  have hheard : ∀ input output result,
      ((convert (.ofString input) (.ofString output)).run fs).result = result →
      heard input output = announced result := by
    rintro input output result rfl
    exact (convert_announces_failure fs (.ofString input) (.ofString output)).1
  obtain ⟨-, -, hunheard⟩ :=
    convert_announces_failure fs (.ofString "good") (.ofString "/dev/full")
  exact ⟨hheard _ _ (.ok ⟨1, 0⟩) (by decide +kernel),
    hheard _ _ (.error (.readInput (.ofString "none") .notFound)) (by decide +kernel),
    hheard _ _ (.error (.createOutput (.ofString "dev") .isDirectory)) (by decide +kernel),
    hheard _ _ (.error (.malformedRecord ⟨1, 3, "1 2 a_i"⟩)) (by decide +kernel),
    (hunheard _ _ hfull).1⟩

/-- A good dump that is converted onto a full device: the conversion fails without a word. -/
theorem convert_onto_full_unannounced :
    let fs : FileSystem := ⟨[([Bytes.ofString "dev"], .directory),
      ([Bytes.ofString "full", Bytes.ofString "dev"], .device .full),
      ([Bytes.ofString "in"], .file (Bytes.ofString "1 2 A"))], []⟩
    let o := (convert (.ofString "in") (.ofString "/dev/full")).run fs
    o.result = .error (.writeOutput (.ofString "/dev/full") .noSpace) ∧
      (Log.heard .error o.log).length ≠ 1 := by
  decide +kernel

end EdgeCsv.Conversion
