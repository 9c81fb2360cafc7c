import EdgeCsv.LoadScript.Script
import EdgeCsv.Plan.Basic
import EdgeCsv.Proofs.Path.Join
import EdgeCsv.Proofs.Text.Utf8

/-!
# Plans taken from a base

To take a plan from a base is to join the base to each of its paths, so what joining does to paths
it does to plans.

* `resolve_one_after_another`: bases one after the other come to one base, byte for byte, and behind
  one that starts at the root nothing changes any more.
* `same_resolve`: plans that say the same say the same from the same base, and have the same URL for
  their CSV.
* `defaultUrl_resolve`: the URL of the CSV does not depend on the base, unless the path of the CSV
  takes no step of its own.
-/

namespace EdgeCsv

namespace LoadScript

variable {p q : Path}

/-- The URL looks at nothing but the components of the path. -/
theorem defaultUrl_of_same (h : p.Same q) : defaultUrl p = defaultUrl q := by
  unfold defaultUrl Path.fileName?
  rw [h]

/-- The URL of a CSV behind a base is taken from its own path, or from the base if that path takes
no step. -/
theorem defaultUrl_join (base : Path) (hp : p.isAbsolute = false) :
    defaultUrl (base.join p) = if p.steps = [] then defaultUrl base else defaultUrl p := by
  unfold defaultUrl
  rw [Path.fileName?_join base hp]
  split <;> rfl

/-- A file name is shown without a slash, also where it is no text. -/
theorem exists_name_of_defaultUrl (p : Path) :
    ∃ name, defaultUrl p = "file:///" ++ name ∧ '/' ∉ name.toList := by
  refine ⟨Utf8.lossy (p.fileName?.getD []), rfl, ?_⟩
  intro hshown
  have hencoded : String.utf8EncodeChar '/' <:+: p.fileName?.getD [] :=
    Utf8.encodeChar_infix_of_lossy hshown (by decide)
  have hmem : Path.slash ∈ p.fileName?.getD [] := hencoded.subset (by decide)
  cases hname : p.fileName? with
  | none => rw [hname] at hmem; cases hmem
  | some name =>
    rw [hname] at hmem
    exact Path.slash_notMem_fileName? hname hmem

end LoadScript

namespace Plan

open LoadScript

variable {a b : Plan} {base base' : Path}

/-- The plan with its relative paths taken from one base after the other. -/
def resolveAll (plan : Plan) (bases : List Path) : Plan :=
  bases.foldl (fun plan base => plan.resolve base) plan

/-! ## Base after base -/

theorem paths_resolve (plan : Plan) (base : Path) :
    (plan.resolve base).paths = plan.paths.map base.join := by
  unfold paths resolve Profile.resolve
  cases plan.loadScript <;> rfl

/-- The empty base leaves a plan as it is. -/
theorem resolve_nil (plan : Plan) : plan.resolve ⟨[]⟩ = plan := by
  have hscript : Script.resolve ⟨[]⟩ = id := by
    funext s
    simp only [Script.resolve, Path.nil_join, id]
  simp only [resolve, Profile.resolve, Path.nil_join, hscript, Option.map_id, id]

/-- **Two bases come to one**, the second one in front of the first. -/
theorem resolve_resolve (plan : Plan) (base base' : Path) :
    (plan.resolve base).resolve base' = plan.resolve (base'.join base) := by
  have hscript : Script.resolve base' ∘ Script.resolve base = Script.resolve (base'.join base) := by
    funext s
    simp only [Function.comp, Script.resolve, Path.join_assoc]
  simp only [resolve, Profile.resolve, Path.join_assoc, Option.map_map, hscript]

/-- **Bases one after the other come to one.** -/
theorem resolveAll_cons (plan : Plan) (first : Path) (later : List Path) :
    plan.resolveAll (first :: later) = plan.resolve (first.joinAll later) := by
  induction later generalizing first with
  | nil => rfl
  | cons base later ih =>
    calc plan.resolveAll (first :: base :: later)
        = ((plan.resolve first).resolve base).resolveAll later := rfl
      _ = plan.resolveAll (base.join first :: later) := by rw [resolve_resolve]; rfl
      _ = plan.resolve (first.joinAll (base :: later)) := ih (base.join first)

theorem resolveAll_append (plan : Plan) (before after : List Path) :
    plan.resolveAll (before ++ after) = (plan.resolveAll before).resolveAll after :=
  List.foldl_append

/-- What is not a path stays as it is. -/
theorem resolveAll_keeps (plan : Plan) (bases : List Path) :
    (plan.resolveAll bases).about = plan.about ∧
      (plan.resolveAll bases).loadScript.map Script.csvUrl =
        plan.loadScript.map Script.csvUrl := by
  induction bases generalizing plan with
  | nil => exact ⟨rfl, rfl⟩
  | cons base later ih =>
    obtain ⟨habout, hurl⟩ := ih (plan.resolve base)
    refine ⟨habout, hurl.trans ?_⟩
    unfold resolve
    cases plan.loadScript <;> rfl

/-- **Taking a plan from a base is an action of joining.** Bases one after the other come to one
base, which is put in front of every path of the plan. The empty base changes nothing, and after a
base that starts at the root neither does any other. What is not a path stays as it is. -/
theorem resolve_one_after_another (plan : Plan) :
    (∀ first later, plan.resolveAll (first :: later) = plan.resolve (first.joinAll later) ∧
      (plan.resolveAll (first :: later)).paths = plan.paths.map (first.joinAll later).join) ∧
    plan.resolve ⟨[]⟩ = plan ∧
    (∀ before base after, base.isAbsolute = true →
      plan.resolveAll (before ++ base :: after) = plan.resolveAll (before ++ [base])) ∧
    ∀ bases, (plan.resolveAll bases).about = plan.about ∧
      (plan.resolveAll bases).loadScript.map Script.csvUrl =
        plan.loadScript.map Script.csvUrl := by
  refine ⟨?_, plan.resolve_nil, ?_, plan.resolveAll_keeps⟩
  · intro first later
    rw [resolveAll_cons, paths_resolve]
    exact ⟨rfl, rfl⟩
  · intro before base after habs
    rw [resolveAll_append, resolveAll_append, resolveAll_cons, resolveAll_cons,
      Path.joinAll_of_isAbsolute habs, Path.joinAll_of_isAbsolute habs]

/-- A relative base, the empty one, one that ends in a slash, one that starts at the root, and one
more that has nothing left to do. -/
theorem resolve_one_after_another_mixed :
    let plan : Plan :=
      { convert := ⟨.ofString "in.vfg", .ofString "/tmp/out.csv"⟩,
        loadScript := some { output := ⟨[]⟩, csvUrl := some "u" } }
    let bases := [Path.ofString "a", ⟨[]⟩, .ofString "b/", .ofString "/w"]
    (Path.ofString "/w").isAbsolute = true ∧
      plan.resolveAll (bases ++ [.ofString "x/y"]) = plan.resolve (.ofString "/w/b/a") ∧
      (plan.resolveAll bases).paths =
        [.ofString "/w/b/a/in.vfg", .ofString "/tmp/out.csv", .ofString "/w/b/a/"] := by
  intro plan bases
  have habs : (Path.ofString "/w").isAbsolute = true := by decide
  obtain ⟨hone, -, hroot, -⟩ := resolve_one_after_another plan
  obtain ⟨hbases, hpaths⟩ := hone (.ofString "a") [⟨[]⟩, .ofString "b/", .ofString "/w"]
  have hjoin : (Path.ofString "a").joinAll [⟨[]⟩, .ofString "b/", .ofString "/w"] =
      .ofString "/w/b/a" := by decide
  rw [hjoin] at hbases hpaths
  have hlast := hroot [.ofString "a", ⟨[]⟩, .ofString "b/"] (.ofString "/w") [.ofString "x/y"] habs
  exact ⟨habs, hlast.trans hbases, hpaths.trans (by decide)⟩

/-! ## Plans that say the same -/

/-- What a plan says: its paths by their components, and the rest as it is. -/
def meaning (plan : Plan) : Option About × List (List Path.Component) × Option (Option String) :=
  (plan.about, plan.paths.map Path.components, plan.loadScript.map Script.csvUrl)

/-- Plans say the same exactly if they mean the same. -/
theorem same_iff_meaning : a.Same b ↔ a.meaning = b.meaning := by
  obtain ⟨about, convert, script⟩ := a
  obtain ⟨about', convert', script'⟩ := b
  cases script <;> cases script' <;>
    simp [Same, meaning, paths, Profile.Same, Script.SameOption, Script.Same, Path.Same, and_assoc]

theorem equivalence_same : Equivalence Same where
  refl _ := same_iff_meaning.2 rfl
  symm h := same_iff_meaning.2 (same_iff_meaning.1 h).symm
  trans h h' := same_iff_meaning.2 ((same_iff_meaning.1 h).trans (same_iff_meaning.1 h'))

theorem Profile.Same.resolve {c d : Profile} (h : c.Same d) (hbase : base.Same base') :
    (c.resolve base).Same (d.resolve base') :=
  ⟨Path.same_join hbase h.1, Path.same_join hbase h.2⟩

theorem Script.SameOption.resolve {s t : Option Script} (h : Script.SameOption s t)
    (hbase : base.Same base') :
    Script.SameOption (s.map (Script.resolve base)) (t.map (Script.resolve base')) := by
  cases s with
  | none =>
    cases t with
    | none => trivial
    | some t => exact h.elim
  | some s =>
    cases t with
    | none => exact h.elim
    | some t => exact ⟨Path.same_join hbase h.1, h.2⟩

/-- **Plans that say the same say the same from the same base**, and the databases read their CSVs
from the same URL, before and after. -/
theorem same_resolve :
    Equivalence Same ∧
    ∀ (a b : Plan) (base base' : Path), a.Same b → base.Same base' →
      (a.resolve base).Same (b.resolve base') ∧
      defaultUrl a.convert.output = defaultUrl b.convert.output ∧
      defaultUrl (a.resolve base).convert.output =
        defaultUrl (b.resolve base').convert.output := by
  refine ⟨equivalence_same, ?_⟩
  intro a b base base' h hbase
  obtain ⟨habout, hconvert, hscript⟩ := h
  have hresolved : (a.convert.resolve base).Same (b.convert.resolve base') :=
    hconvert.resolve hbase
  exact ⟨⟨habout, hresolved, hscript.resolve hbase⟩, defaultUrl_of_same hconvert.2,
    defaultUrl_of_same hresolved.2⟩

/-- Idle parts at the end of both bases and of the paths, and a leading dot in both plans: alone it
tells a path from another, behind a base it no longer shows. -/
theorem same_resolve_idle_parts :
    let a : Plan := { convert := ⟨.ofString "a//b/.", .ofString "./out//e.csv/"⟩ }
    let b : Plan := { convert := ⟨.ofString "a/b", .ofString "./out/e.csv"⟩ }
    let base := Path.ofString "w//."
    let base' := Path.ofString "w/"
    (a.Same b ∧ base.Same base' ∧ ¬ (Path.ofString "./a").Same (.ofString "a")) ∧
      (a.resolve base).Same (b.resolve base') ∧
      defaultUrl a.convert.output = defaultUrl b.convert.output ∧
      defaultUrl (a.resolve base).convert.output =
        defaultUrl (b.resolve base').convert.output := by
  intro a b base base'
  have hplan : a.Same b := by decide
  have hbase : base.Same base' := by decide
  exact ⟨⟨hplan, hbase, by decide⟩, same_resolve.2 a b base base' hplan hbase⟩

/-! ## The URL of the CSV -/

/-- **The URL of the CSV does not depend on the base**, unless its path says nothing but that it
starts here. Then the base itself is what the URL is taken from. In any case the URL ends in a name
without a slash. -/
theorem defaultUrl_resolve (plan : Plan) (base : Path) :
    ((∃ c ∈ plan.convert.output.components, c ≠ .here) →
      defaultUrl (plan.resolve base).convert.output = defaultUrl plan.convert.output) ∧
    ((∀ c ∈ plan.convert.output.components, c = .here) →
      defaultUrl (plan.resolve base).convert.output = defaultUrl base) ∧
    ∃ name, defaultUrl plan.convert.output = "file:///" ++ name ∧ '/' ∉ name.toList := by
  have hjoin : (plan.resolve base).convert.output = base.join plan.convert.output := rfl
  rw [hjoin]
  refine ⟨?_, ?_, exists_name_of_defaultUrl _⟩
  · rintro ⟨c, hc, hother⟩
    cases hp : plan.convert.output.isAbsolute with
    | true => rw [Path.join_of_isAbsolute base hp]
    | false =>
      have hsteps : plan.convert.output.steps ≠ [] := by
        intro hnone
        exact hother (Path.forall_here_iff.2 ⟨hp, hnone⟩ c hc)
      rw [defaultUrl_join base hp, if_neg hsteps]
  · intro hhere
    obtain ⟨hp, hsteps⟩ := Path.forall_here_iff.1 hhere
    rw [defaultUrl_join base hp, if_pos hsteps]

/-- A CSV whose name is no text and stands before idle parts, and one that is named by dots only and
so gets the name of the directory that its plan is in. -/
theorem defaultUrl_resolve_dots :
    let plan (output : Path) : Plan := { convert := { output := output } }
    let csv : Path := ⟨Bytes.ofString "./out/e" ++ 255 :: Bytes.ofString ".csv//."⟩
    let dots := Path.ofString "./."
    let base := Path.ofString "/w/plans/"
    ((∃ c ∈ csv.components, c ≠ .here) ∧
      defaultUrl ((plan csv).resolve base).convert.output = "file:///e\ufffd.csv") ∧
    (∀ c ∈ dots.components, c = .here) ∧ defaultUrl dots = "file:///" ∧
      defaultUrl ((plan dots).resolve base).convert.output = "file:///plans" := by
  intro plan csv dots base
  have hother : ∃ c ∈ csv.components, c ≠ .here := by decide
  have hdots : ∀ c ∈ dots.components, c = .here := by decide
  obtain ⟨hcsv, -, -⟩ := defaultUrl_resolve (plan csv) base
  obtain ⟨-, hbase, -⟩ := defaultUrl_resolve (plan dots) base
  exact ⟨⟨hother, (hcsv hother).trans (by decide +kernel)⟩, hdots, by decide +kernel,
    (hbase hdots).trans (by decide +kernel)⟩

end Plan

end EdgeCsv
