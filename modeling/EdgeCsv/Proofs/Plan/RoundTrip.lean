import EdgeCsv.Plan.File
import EdgeCsv.Proofs.Text.Utf8
import EdgeCsv.Proofs.Yaml.Document

/-!
# A plan is read back as it was written

* `toYaml?_eq`: the document of a plan is the text of an outline, with a section for each part that
  is there.
* `read_takes`: the items of that outline are read as the plan.
* `ofYaml_toYaml`: a plan can be written exactly if its paths are text, and what is written is read
  as the same plan.
-/

namespace EdgeCsv

/-- A path whose spelling is a text. -/
def Path.IsText (p : Path) : Prop :=
  ∃ s, p = .ofString s

theorem Path.ofString_of_decode? {p : Path} {cs : List Char} (h : Utf8.decode? p.bytes = some cs) :
    Path.ofString (String.ofList cs) = p := by
  obtain ⟨bytes⟩ := p
  rw [Utf8.decode?_eq_some_iff] at h
  rw [Path.ofString, Bytes.ofString, String.toList_ofList, ← h]

theorem Path.isText_iff {p : Path} : p.IsText ↔ ∃ cs, Utf8.decode? p.bytes = some cs := by
  constructor
  · rintro ⟨s, rfl⟩
    exact ⟨s.toList, Utf8.decode?_eq_some_iff.2 rfl⟩
  · rintro ⟨cs, h⟩
    exact ⟨String.ofList cs, (Path.ofString_of_decode? h).symm⟩

namespace Plan

open Yaml

/-! ## The outline of a plan -/

/-- A key that is a text of letters. -/
def label (name : String)
    (h : name.toList ≠ [] ∧ name.toList.all isKeyChar = true ∧
      name.toList.length ≤ Token.maxKeyLength) : Label :=
  ⟨name.toList, h.1, h.2.1, h.2.2⟩

/-- A text behind its key, in the style that suits it. -/
def textEntry (x : Label) (text : List Char) : Yaml.Entry :=
  ⟨x, text, Style.choose text, Style.fits_choose text⟩

/-- A null behind its key. -/
def nullEntry (x : Label) : Yaml.Entry :=
  ⟨x, "null".toList, .plain, by decide⟩

def About.section (a : About) : Section where
  label := label "meta" (by decide)
  entries :=
    [a.name.elim (nullEntry (label "name" (by decide))) fun name =>
      textEntry (label "name" (by decide)) name.toList]
  nonempty := by simp

def convertSection (input output : List Char) : Section where
  label := label "convert" (by decide)
  entries :=
    [textEntry (label "input" (by decide)) input, textEntry (label "output" (by decide)) output]
  nonempty := by simp

def scriptSection (output : List Char) (url : Option String) : Section where
  label := label "load_script" (by decide)
  entries := textEntry (label "output" (by decide)) output ::
    url.toList.map fun url => textEntry (label "csv_url" (by decide)) url.toList
  nonempty := by simp

/-- The sections of a plan, unless one of its paths is no text. -/
def outline? (plan : Plan) : Option (List Section) := do
  let input ← Utf8.decode? plan.convert.input.bytes
  let output ← Utf8.decode? plan.convert.output.bytes
  let script ← plan.loadScript.elim (some []) fun script =>
    (Utf8.decode? script.output.bytes).map fun output => [scriptSection output script.csvUrl]
  some (plan.about.toList.map About.section ++ convertSection input output :: script)

theorem write_textEntry {name : String} (h) (text : List Char) :
    (textEntry (label name h) text).write = writeText name text := by
  rw [writeText, List.append_assoc, List.append_assoc]
  rfl

theorem toList_heading {heading name : String} (h : heading.toList = name.toList ++ [':', '\n'])
    (cs : List Char) : name.toList ++ ':' :: '\n' :: cs = heading.toList ++ cs := by
  rw [h, List.append_assoc]
  rfl

theorem About.write_section (a : About) : a.section.write = a.write := by
  obtain ⟨name⟩ := a
  cases name with
  | none => rfl
  | some name =>
    show "meta".toList ++ ':' :: '\n' :: ((textEntry (label "name" _) name.toList).write ++ []) =
      "meta:\n".toList ++ writeText "name" name.toList
    rw [List.append_nil, write_textEntry]
    exact toList_heading rfl _

theorem write_convertSection (input output : List Char) :
    (convertSection input output).write =
      "convert:\n".toList ++ writeText "input" input ++ writeText "output" output := by
  show "convert".toList ++ ':' :: '\n' :: ((textEntry (label "input" _) input).write ++
    ((textEntry (label "output" _) output).write ++ [])) = _
  rw [List.append_nil, write_textEntry, write_textEntry, List.append_assoc]
  exact toList_heading rfl _

theorem write_scriptSection (output : List Char) (url : Option String) :
    (scriptSection output url).write = "load_script:\n".toList ++ writeText "output" output ++
      url.elim [] fun url => writeText "csv_url" url.toList := by
  cases url with
  | none =>
    show "load_script".toList ++
      ':' :: '\n' :: ((textEntry (label "output" _) output).write ++ []) = _
    rw [write_textEntry, List.append_assoc]
    exact toList_heading rfl _
  | some url =>
    show "load_script".toList ++ ':' :: '\n' :: ((textEntry (label "output" _) output).write ++
      ((textEntry (label "csv_url" _) url.toList).write ++ [])) = _
    rw [List.append_nil, write_textEntry, write_textEntry, List.append_assoc]
    exact toList_heading rfl _

theorem flatMap_about (about : Option About) :
    (about.toList.map About.section).flatMap Section.write = about.elim [] About.write := by
  cases about with
  | none => rfl
  | some a => exact (List.append_nil _).trans a.write_section

/-- **The document of a plan** is the text of its outline. -/
theorem toYaml?_eq (plan : Plan) :
    plan.toYaml? = plan.outline?.map fun xs => String.ofList (xs.flatMap Section.write) := by
  obtain ⟨about, ⟨input, output⟩, script⟩ := plan
  simp only [toYaml?, outline?, Profile.write?, writePath?]
  cases Utf8.decode? input.bytes with
  | none => rfl
  | some i =>
    cases Utf8.decode? output.bytes with
    | none => rfl
    | some o =>
      have hconvert := write_convertSection i o
      cases script with
      | none =>
        simp only [Option.map_some, Option.bind_eq_bind, Option.bind_some, Option.elim_none,
          List.flatMap_append, List.flatMap_cons, List.flatMap_nil, flatMap_about, hconvert,
          List.append_nil]
      | some script =>
        simp only [Option.elim_some, Script.write?, writePath?]
        cases Utf8.decode? script.output.bytes with
        | none => rfl
        | some out =>
          have hscript := write_scriptSection out script.csvUrl
          simp only [Option.map_some, Option.bind_eq_bind, Option.bind_some, List.flatMap_append,
            List.flatMap_cons, List.flatMap_nil, flatMap_about, hconvert, hscript, List.append_nil,
            List.append_assoc]

/-! ## Reading the outline of a plan -/

open Document

variable {doc : Document} {trail : Trail}

/-- A path that is text is read back. -/
theorem readPath_takes {p : Path} {cs : List Char} (h : Utf8.decode? p.bytes = some cs)
    (plain : Bool) : Takes (readPath doc trail) [.scalar none cs plain] p := by
  have htext : Takes (doc.readText "path string" trail) [.scalar none cs plain] _ :=
    readText_takes _ _ _ _ _
  rw [← Path.ofString_of_decode? h]
  exact takes_map htext Path.ofString

/-- A text is not written as a null. -/
theorem isPresent_text (cs : List Char) :
    Item.isPresent (.scalar none cs (Style.choose cs = .plain)) = .ok true := by
  by_cases h : Style.choose cs = .plain
  · have hfits := Style.fits_choose cs
    rw [h] at hfits
    simp [Item.isPresent, h, hfits.1, Style.isNull_of_choose h]
  · simp [Item.isPresent, h]

/-- A text is read back also where it may be missing. -/
theorem readOptionalText_takes (text : String) :
    Takes (readOptionalText doc trail)
      [.scalar none text.toList (Style.choose text.toList = .plain)] (some text) := by
  have htext : Takes (doc.readText "a string" trail)
      [.scalar none text.toList (Style.choose text.toList = .plain)] (String.ofList text.toList) :=
    readText_takes _ _ _ _ _
  rw [String.ofList_toList] at htext
  exact readOption_takes (by simp) (isPresent_text text.toList) htext

theorem About.read_takes (a : About) : Takes (About.read doc trail) a.section.items a := by
  obtain ⟨name⟩ := a
  cases name with
  | none =>
    have hnull : Takes (readOptionalText doc (some "name" :: trail))
        [.scalar none "null".toList true] none := readOption_takes_none (by simp) rfl
    exact readRecord_takes (.cons "name" rfl (once_takes rfl hnull) (.nil _)) rfl
  | some name =>
    exact readRecord_takes
      (.cons "name" rfl (once_takes rfl (readOptionalText_takes name)) (.nil _)) rfl

theorem Profile.read_takes {c : Profile} {input output : List Char}
    (hinput : Utf8.decode? c.input.bytes = some input)
    (houtput : Utf8.decode? c.output.bytes = some output) :
    Takes (Profile.read doc trail) (convertSection input output).items c :=
  readRecord_takes
    (.cons "input" rfl (once_takes rfl (readPath_takes hinput _))
      (.cons "output" rfl (once_takes rfl (readPath_takes houtput _)) (.nil _))) rfl

theorem Script.read_takes {script : Script} {output : List Char}
    (houtput : Utf8.decode? script.output.bytes = some output) :
    Takes (Script.read doc trail) (scriptSection output script.csvUrl).items script := by
  obtain ⟨path, url⟩ := script
  cases url with
  | none =>
    exact readRecord_takes
      (.cons "output" rfl (once_takes rfl (readPath_takes houtput _)) (.nil _)) rfl
  | some url =>
    exact readRecord_takes
      (.cons "output" rfl (once_takes rfl (readPath_takes houtput _))
        (.cons "csv_url" rfl (once_takes rfl (readOptionalText_takes url)) (.nil _))) rfl

/-- The sections of a plan and the texts of its paths. -/
theorem outline?_eq_some {plan : Plan} {xs : List Section} (h : plan.outline? = some xs) :
    ∃ input output scripts, Utf8.decode? plan.convert.input.bytes = some input ∧
      Utf8.decode? plan.convert.output.bytes = some output ∧
      (plan.loadScript.elim (some []) fun script => (Utf8.decode? script.output.bytes).map
        fun output => [scriptSection output script.csvUrl]) = some scripts ∧
      xs = plan.about.toList.map About.section ++ convertSection input output :: scripts := by
  simp only [outline?, Option.bind_eq_bind, Option.bind_eq_some_iff, Option.some.injEq] at h
  obtain ⟨input, hinput, output, houtput, scripts, hscripts, rfl⟩ := h
  exact ⟨input, output, scripts, hinput, houtput, hscripts, rfl⟩

/-- **A plan.** The items of its outline are read as the plan. -/
theorem read_takes {plan : Plan} {xs : List Section} (h : plan.outline? = some xs) :
    Takes (read doc) (outlineItems xs) plan := by
  obtain ⟨input, output, scripts, hinput, houtput, hscripts, rfl⟩ := outline?_eq_some h
  obtain ⟨about, convert, script⟩ := plan
  have habout : ∀ a : About, Takes (doc.readOption (About.read doc [some "meta"]))
      a.section.items (some a) := fun a =>
    readOption_takes (by simp) rfl a.read_takes
  have hconvert : Takes (Profile.read doc [some "convert"]) (convertSection input output).items
      convert := Profile.read_takes hinput houtput
  cases script with
  | none =>
    obtain rfl : [] = scripts := Option.some.inj hscripts
    cases about with
    | none => exact readRecord_takes (.cons "convert" rfl (once_takes rfl hconvert) (.nil _)) rfl
    | some a =>
      exact readRecord_takes (.cons "meta" rfl (once_takes rfl (habout a))
        (.cons "convert" rfl (once_takes rfl hconvert) (.nil _))) rfl
  | some script =>
    obtain ⟨output', houtput', rfl⟩ := Option.map_eq_some_iff.1 hscripts
    have hscript : Takes (doc.readOption (Script.read doc [some "load_script"]))
        (scriptSection output' script.csvUrl).items (some script) :=
      readOption_takes (by simp) rfl (Script.read_takes houtput')
    cases about with
    | none =>
      exact readRecord_takes (.cons "convert" rfl (once_takes rfl hconvert)
        (.cons "load_script" rfl (once_takes rfl hscript) (.nil _))) rfl
    | some a =>
      exact readRecord_takes (.cons "meta" rfl (once_takes rfl (habout a))
        (.cons "convert" rfl (once_takes rfl hconvert)
          (.cons "load_script" rfl (once_takes rfl hscript) (.nil _)))) rfl

/-- All paths of the plan are text. -/
def IsText (plan : Plan) : Prop :=
  plan.convert.input.IsText ∧ plan.convert.output.IsText ∧
    ∀ script ∈ plan.loadScript, script.output.IsText

theorem outline?_isSome_iff {plan : Plan} : (∃ xs, plan.outline? = some xs) ↔ plan.IsText := by
  simp only [IsText, Path.isText_iff]
  constructor
  · rintro ⟨xs, h⟩
    obtain ⟨input, output, scripts, hinput, houtput, hscripts, -⟩ := outline?_eq_some h
    refine ⟨⟨input, hinput⟩, ⟨output, houtput⟩, fun script hscript => ?_⟩
    rw [Option.mem_def.1 hscript] at hscripts
    obtain ⟨output', houtput', -⟩ := Option.map_eq_some_iff.1 hscripts
    exact ⟨output', houtput'⟩
  · rintro ⟨⟨input, hinput⟩, ⟨output, houtput⟩, hscript⟩
    obtain ⟨scripts, hscripts⟩ : ∃ scripts, (plan.loadScript.elim (some []) fun script =>
        (Utf8.decode? script.output.bytes).map
          fun output => [scriptSection output script.csvUrl]) = some scripts := by
      cases h : plan.loadScript with
      | none => exact ⟨[], rfl⟩
      | some script =>
        obtain ⟨output', houtput'⟩ := hscript script h
        exact ⟨_, congrArg (Option.map _) houtput'⟩
    rw [outline?, hinput, houtput, hscripts]
    exact ⟨_, rfl⟩

theorem toYaml_eq_ok_iff {plan : Plan} {text : String} :
    plan.toYaml = .ok text ↔
      ∃ xs, plan.outline? = some xs ∧ String.ofList (xs.flatMap Section.write) = text := by
  rw [toYaml, toYaml?_eq]
  cases plan.outline? <;> simp

/-- **A plan is read back as it was written.** It can be written exactly if its paths are text, and
then what is read from the document is the plan: the same bytes in every path, and the same texts,
null or not, whatever characters are in them. -/
theorem ofYaml_toYaml (plan : Plan) :
    ((∃ text, plan.toYaml = .ok text) ↔ plan.IsText) ∧
      ∀ text, plan.toYaml = .ok text → ofYaml text = .ok plan := by
  refine ⟨?_, fun text htext => ?_⟩
  · rw [← outline?_isSome_iff]
    constructor
    · rintro ⟨text, htext⟩
      obtain ⟨xs, hxs, -⟩ := toYaml_eq_ok_iff.1 htext
      exact ⟨xs, hxs⟩
    · rintro ⟨xs, hxs⟩
      exact ⟨_, toYaml_eq_ok_iff.2 ⟨xs, hxs, rfl⟩⟩
  · obtain ⟨xs, hxs, rfl⟩ := toYaml_eq_ok_iff.1 htext
    have hne : xs ≠ [] := by
      obtain ⟨_, _, _, -, -, -, rfl⟩ := outline?_eq_some hxs
      simp
    exact readOnly_outline hne fun doc => read_takes hxs

/-- A name that looks like a null, a path that looks like a comment, one that ends with line ends,
one with a separator and a tab, and an empty text. -/
theorem ofYaml_toYaml_misleading :
    ofYaml ("meta:\n  name: 'null'\nconvert:\n  input: ' #a'\n  output: |+\n    b\n\n" ++
        "load_script:\n  output: \"c\\Ld: \\t\"\n  csv_url: ''\n") =
      .ok ⟨some ⟨some "null"⟩, ⟨.ofString " #a", .ofString "b\n\n"⟩,
        some ⟨.ofString "c\u2028d: \t", some ""⟩⟩ :=
  (ofYaml_toYaml _).2 _ (by decide +kernel)

end Plan

end EdgeCsv
