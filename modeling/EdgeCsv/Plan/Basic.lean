import EdgeCsv.Path

/-!
# Plans

A plan describes one conversion: which dump to read, which CSV to write and, if wanted, where to put
a load script and which URL the database reads the CSV from. Relative paths of a plan are taken from
a base, which `resolve` puts in front of them. Plans are compared with their paths taken by
components (`Same`).
-/

namespace EdgeCsv

namespace Plan

/-- What a plan says about itself. -/
structure About where
  /-- The name of the conversion. -/
  name : Option String
  deriving DecidableEq, Repr

/-- The dump that is read if a plan names none. -/
def defaultInput : Path := .ofString "./tests/mytest.vfg"

/-- The CSV that is written if a plan names none. -/
def defaultOutput : Path := .ofString "./cfl_edges.txt"

/-- What is converted. -/
structure Profile where
  /-- The dump to read. -/
  input : Path := defaultInput
  /-- The CSV to write. -/
  output : Path := defaultOutput
  deriving DecidableEq, Repr

/-- The load script to write. -/
structure Script where
  /-- Where the script goes. -/
  output : Path
  /-- The URL that the database reads the CSV from. -/
  csvUrl : Option String := none
  deriving DecidableEq, Repr

end Plan

/-- A description of one conversion. -/
structure Plan where
  /-- What the plan says about itself, if anything. -/
  about : Option Plan.About := none
  /-- What is converted. -/
  convert : Plan.Profile := {}
  /-- The load script, if one is wanted. -/
  loadScript : Option Plan.Script := none
  deriving DecidableEq, Repr

namespace Plan

/-- The plan that is followed if none is given. -/
def default : Plan := {}

/-- The name of a plan, also of one that has none. -/
def name (plan : Plan) : String :=
  (plan.about.bind About.name).getD "Unnamed conversion"

/-- The paths that following a plan looks at. -/
def paths (plan : Plan) : List Path :=
  [plan.convert.input, plan.convert.output] ++ (plan.loadScript.map Script.output).toList

/-- Takes the relative paths of a profile from `base`. -/
def Profile.resolve (base : Path) (c : Profile) : Profile where
  input := base.join c.input
  output := base.join c.output

/-- Takes the path of a load script from `base`. -/
def Script.resolve (base : Path) (s : Script) : Script :=
  { s with output := base.join s.output }

/-- Takes the relative paths of a plan from `base`. -/
def resolve (base : Path) (plan : Plan) : Plan :=
  { plan with
    convert := plan.convert.resolve base
    loadScript := plan.loadScript.map (Script.resolve base) }

/-- Profiles with the same paths. -/
def Profile.Same (c d : Profile) : Prop :=
  c.input.Same d.input ∧ c.output.Same d.output

/-- Load scripts with the same path and the same URL. -/
def Script.Same (s t : Script) : Prop :=
  s.output.Same t.output ∧ s.csvUrl = t.csvUrl

/-- Both plans write the same script, or neither writes one. -/
def Script.SameOption : Option Script → Option Script → Prop
  | none, none => True
  | some s, some t => s.Same t
  | _, _ => False

/-- Plans that say the same. -/
def Same (a b : Plan) : Prop :=
  a.about = b.about ∧ a.convert.Same b.convert ∧ Script.SameOption a.loadScript b.loadScript

instance (c d : Profile) : Decidable (c.Same d) :=
  inferInstanceAs (Decidable (_ ∧ _))

instance (s t : Script) : Decidable (s.Same t) :=
  inferInstanceAs (Decidable (_ ∧ _))

instance : (s t : Option Script) → Decidable (Script.SameOption s t)
  | none, none => .isTrue trivial
  | some s, some t => inferInstanceAs (Decidable (s.Same t))
  | none, some _ => .isFalse id
  | some _, none => .isFalse id

instance (a b : Plan) : Decidable (a.Same b) :=
  inferInstanceAs (Decidable (_ ∧ _ ∧ _))

end Plan

end EdgeCsv
