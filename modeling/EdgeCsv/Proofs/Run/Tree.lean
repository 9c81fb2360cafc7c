import EdgeCsv.CommandLine.Program
import EdgeCsv.Proofs.Action
import EdgeCsv.Proofs.Conversion.Buffer
import EdgeCsv.Proofs.FileSystem.Tree

/-!
# The program leaves a tree

All that the program does to the file system it does through operations that keep trees
(`FileSystem.IsTree`), so a tree stays one in whatever way the work ends.

* `keeps_convert`, `keeps_writeText`: the two pieces of work that write.
* `keeps_follow`, `keeps_followFile`, `keeps_plan`: what they are put together to.
* `isTree_program`: a whole run of the program.
-/

namespace EdgeCsv

open FileSystem

namespace Conversion

theorem keeps_writeFile (dump : Bytes) (loc : Location) (output : Path) :
    Action.Keeps IsTree (writeFile dump loc output) := by
  -- every write keeps trees, and so does the buffer in front of it
  have hwriter : (fileWriter loc).Alike (fileWriter loc)
      (fun now now' => now = now' ∧ now.IsTree) := by
    rintro now _ bytes ⟨rfl, hnow⟩
    exact ⟨rfl, rfl, hnow.append loc bytes⟩
  intro fs h
  obtain ⟨-, ⟨-, hfiles⟩, -⟩ := writeThrough_alike hwriter dump output ⟨rfl, h⟩
  unfold Action.run
  rw [writeFile_eq]
  exact hfiles

theorem keeps_convert (input output : Path) : Action.Keeps IsTree (convert input output) := by
  refine .bind (.say _) fun _ => ?_
  refine .bind (.onError (.ask _) fun e => .bind (.say _) fun _ => .fail _) fun dump => ?_
  refine .bind (.onError (.update ?_) fun e => .bind (.say _) fun _ => .fail _) fun loc => ?_
  · intro fs loc fs' hcreate h
    exact h.create hcreate
  · exact .bind (keeps_writeFile dump loc output) fun _ => .bind (.say _) fun _ => .pure _

end Conversion

namespace Files

theorem keeps_writeText (p : Path) (text : String) : Action.Keeps IsTree (writeText p text) := by
  refine .bind (.bind (.ask _) fun missing => ?_) fun _ => .perform fun fs h => h.write p _
  cases missing with
  | none => exact .pure _
  | some directory =>
    exact .bind (.say _) fun _ => .perform fun fs h => h.createDirectories directory

end Files

namespace Run

theorem keeps_writeScript (plan : Plan) : Action.Keeps IsTree (writeScript plan) := by
  unfold writeScript
  cases plan.loadScript with
  | none => exact .pure _
  | some script =>
    refine .mapError _ (.bind (.ask _) fun text => .bind (.onError ?_ fun e => ?_) fun _ => .say _)
    · exact Files.keeps_writeText script.output text
    · exact .bind (.say _) fun _ => .fail _

theorem keeps_follow (plan : Plan) : Action.Keeps IsTree (follow plan) := by
  refine .bind (.say _) fun _ => .bind (.say _) fun _ => .bind (.mapError _ ?_) fun summary => ?_
  · exact Conversion.keeps_convert plan.convert.input plan.convert.output
  · exact .bind (keeps_writeScript plan) fun _ => .pure _

theorem keeps_load (p : Path) : Action.Keeps IsTree (Plan.load p) :=
  .bind (.mapError _ (.ask _)) fun _ => .ask _

theorem keeps_followFile (p : Path) (overrides : Overrides) :
    Action.Keeps IsTree (followFile p overrides) := by
  refine .bind (.say _) fun _ => .bind (.mapError _ (keeps_load p)) fun plan => ?_
  cases p.parent? with
  | none => exact .fail _
  | some base => exact keeps_follow _

end Run

namespace Generate

theorem keeps_plan (p : Path) : Action.Keeps IsTree (plan p) :=
  .bind (.say _) fun _ => .bind (.ask _) fun text => .mapError _ (Files.keeps_writeText p text)

theorem keeps_template (exporter : String) : Action.Keeps IsTree (template exporter) := by
  refine .bind (.say _) fun _ => ?_
  split
  · exact .pure _
  · exact .bind (.say _) fun _ => .fail _

end Generate

namespace CommandLine

theorem keeps_fulfil (request : Request) : Action.Keeps IsTree request.fulfil := by
  cases request with
  | run plan overrides =>
    cases plan with
    | none => exact .bind (Run.keeps_follow _) fun _ => .bind (.say _) fun _ => .pure _
    | some p =>
      exact .bind (.say _) fun _ => .bind (Run.keeps_followFile p overrides) fun _ =>
        .bind (.say _) fun _ => .pure _
  | init p => exact .bind (Generate.keeps_plan p) fun _ => .pure _
  | template exporter => exact .bind (Generate.keeps_template exporter) fun _ => .pure _

/-- **The program leaves a tree** if it finds one, whatever it is asked to do and however that
ends. -/
theorem isTree_program {fs : FileSystem} (h : fs.IsTree) (words : List Bytes) :
    (program words fs).files.IsTree := by
  unfold program
  cases read .top {} words with
  | error stop => cases stop <;> exact h
  | ok levels =>
    have hfulfil := keeps_fulfil (Request.ofLevels levels) fs h
    simp only
    cases ((Request.ofLevels levels).fulfil.run fs).result with
    | ok text => exact hfulfil
    | error f => exact hfulfil

end CommandLine

end EdgeCsv
