import EdgeCsv.Proofs.Run.Follow

/-!
# Following a plan again

A plan that has been followed to its end can be followed again, as long as it does not write over
its own dump. Each of its two stages then finds everything in place that it made the first time, and
puts back what it wrote: the conversion its CSV (`convert_again`) and the load script its text
(`Files.writeText_again`). The two may write to the same file; then the load script, which comes
later, has the last word both times.

* `follow_again`: the second time ends as the first did and changes nothing.
-/

namespace EdgeCsv

open FileSystem

variable {fs now : FileSystem} {plan : Plan} {input output : Path} {summary : Conversion.Summary}
  {writes makes : Location → Prop}

/-- **A conversion that went well can be done again** while its dump is the same, and then it puts
the CSV back. -/
theorem Conversion.convert_again (h : ((convert input output).run fs).result = .ok summary)
    (hc : Confined writes makes ((convert input output).run fs).files now)
    (hread : ∀ dump, fs.read input = .ok dump → now.read input = .ok dump) :
    ((convert input output).run now).result = .ok summary ∧
      PutsBack output ((convert input output).run fs).files now
        ((convert input output).run now).files := by
  cases hdump : fs.read input with
  | error e => rw [(convert_of_read_error hdump output).1] at h; cases h
  | ok dump =>
    cases hcreate : fs.create output with
    | error e => rw [(convert_of_create_error hdump hcreate).1] at h; cases h
    | ok created =>
      obtain ⟨loc, opened⟩ := created
      obtain ⟨hresult, hfiles⟩ := convert_of_create hdump hcreate
      rw [hresult] at h
      rw [hfiles] at hc ⊢
      obtain ⟨⟨directory, name, hloc, -⟩, ⟨hmay, rfl⟩ | ⟨⟨kind, hl⟩, rfl⟩⟩ := create_eq_ok hcreate
      · -- the file of the CSV is there, so it is emptied and filled again
        obtain ⟨hrows, hcsv⟩ := writeFile_file fs hmay.ne_nil dump output
        obtain ⟨hrows', hcsv'⟩ := writeFile_file now hmay.ne_nil dump output
        rw [hcsv] at hc ⊢
        have hset := confined_set_file hmay (writeRows .unlimited [] dump output).2.1
        have hdone := fs.lookup_set_self hmay.ne_nil
          (.file (writeRows .unlimited [] dump output).2.1)
        obtain ⟨new, hnew⟩ := hc.file hdone
        have hleads := resolve_of_create hcreate (hset.andThen hc) (by rw [hnew]; rfl)
        obtain ⟨hresult', hfiles'⟩ := convert_of_create (hread dump hdump)
          (create_of_file hcreate (hset.andThen hc) hnew)
        rw [hresult', hfiles', hrows', hcsv', ← hrows]
        exact ⟨h, loc, _, hmay.ne_nil, hleads, hdone, rfl⟩
      · have hne : loc ≠ [] := by rw [hloc]; simp
        rw [files_writeFile_device hl] at hc ⊢
        have hdevice := hc.device hl
        have hleads := resolve_of_create hcreate hc (by rw [hdevice]; rfl)
        obtain ⟨hresult', hfiles'⟩ := convert_of_create (hread dump hdump)
          (create_of_device hcreate hc hdevice)
        rw [hresult', hfiles', files_writeFile_device hdevice]
        refine ⟨?_, loc, _, hne, hleads, hl, (set_of_lookup hne hdevice).symm⟩
        rw [result_writeFile_congr hne hne (hdevice.trans hl.symm) dump output]
        exact h

namespace Run

/-- A load script that has been written is put back when it is written again. -/
theorem writeScript_again {script : Plan.Script} (hs : plan.loadScript = some script)
    (h : ((writeScript plan).run fs).result = .ok ())
    (hc : Confined writes makes ((writeScript plan).run fs).files now) :
    ((writeScript plan).run now).result = .ok () ∧
      PutsBack script.output ((writeScript plan).run fs).files now
        ((writeScript plan).run now).files := by
  obtain ⟨text, htext, hresult, hfiles⟩ := writeScript_of_some hs fs
  obtain ⟨text', htext', hresult', hfiles'⟩ := writeScript_of_some hs now
  obtain rfl : text = text' := Except.ok.inj (htext.symm.trans htext')
  have hwritten : ((Files.writeText script.output text).run fs).result = .ok () := by
    cases hend : ((Files.writeText script.output text).run fs).result with
    | ok u => rfl
    | error e => rw [hresult, hend] at h; cases h
  rw [hfiles] at hc ⊢
  obtain ⟨hagain, hputs⟩ := Files.writeText_again hwritten hc
  rw [hresult', hfiles', hagain]
  exact ⟨rfl, hputs⟩

/-- What is put back as it was in between and then as it was in the end is as it was in the end, if
only the second was written after the first. -/
theorem eq_of_putsBack {first second : Path} {between after once again : FileSystem}
    {writes' makes' : Location → Prop} (hfirst : PutsBack first between after once)
    (hsecond : PutsBack second after once again) (honce : Confined writes makes after once)
    (hafter : Confined writes' makes' between after)
    (hwrites : ∀ loc, writes' loc → after.resolve second = .ok loc) : again = after := by
  obtain ⟨loc, e, hloc, -, hbetween, rfl⟩ := hfirst
  obtain ⟨loc', e', hloc', hleads, hlast, rfl⟩ := hsecond
  by_cases hsame : loc' = loc
  · subst hsame
    rw [set_set, set_of_lookup hloc' hlast]
  · have hkept : after.lookup loc = some e := by
      refine hafter.lookup_of_some (fun hwrite => hsame ?_) hbetween
      exact Except.ok.inj (hleads.symm.trans (honce.resolve (hwrites loc hwrite)))
    rw [set_of_lookup hloc hkept, set_of_lookup hloc' hlast]

/-- **Following a plan again is harmless.** If it went well and did not write over its own dump, it
goes well again with the same summary, and the file system is left exactly as it was. -/
theorem follow_again (h : ((follow plan).run fs).result = .ok summary)
    (hcsv : ((follow plan).run fs).files.resolve plan.convert.input ≠
      ((follow plan).run fs).files.resolve plan.convert.output)
    (hscript : ∀ script, plan.loadScript = some script →
      ((follow plan).run fs).files.resolve plan.convert.input ≠
        ((follow plan).run fs).files.resolve script.output) :
    ((follow plan).run ((follow plan).run fs).files).result = .ok summary ∧
      ((follow plan).run ((follow plan).run fs).files).files = ((follow plan).run fs).files := by
  have hread : ∀ dump, fs.read plan.convert.input = .ok dump →
      ((follow plan).run fs).files.read plan.convert.input = .ok dump := by
    intro dump hdump
    refine (confined_follow plan fs).read (fun loc hinput => ?_) hdump
    rintro (houtput | ⟨script, hsome, houtput⟩)
    · exact hcsv (hinput.trans houtput.symm)
    · exact hscript script hsome (hinput.trans houtput.symm)
  cases hconvert : ((conversion plan).run fs).result with
  | error e => rw [(follow_of_error hconvert).1] at h; cases h
  | ok summary' =>
    obtain ⟨hresult, hfiles⟩ := follow_of_ok hconvert
    have hlater := confined_writeScript plan ((conversion plan).run fs).files
    obtain ⟨hwritten, rfl⟩ : ((writeScript plan).run ((conversion plan).run fs).files).result =
        .ok () ∧ summary' = summary := by
      rw [h] at hresult
      cases hend : ((writeScript plan).run ((conversion plan).run fs).files).result with
      | error f => rw [hend] at hresult; cases hresult
      | ok u => rw [hend] at hresult; exact ⟨rfl, (Except.ok.inj hresult).symm⟩
    rw [hfiles] at hread ⊢
    obtain ⟨hagain, hputs⟩ := Conversion.convert_again hconvert hlater hread
    obtain ⟨hresult', hfiles'⟩ := follow_of_ok hagain
    rw [hresult', hfiles']
    cases hs : plan.loadScript with
    | none =>
      obtain ⟨loc, e, hloc, -, hdone, hset⟩ := hputs
      rw [(writeScript_of_none hs _).1, (writeScript_of_none hs _).2, hset,
        (writeScript_of_none hs _).2]
      exact ⟨rfl, set_of_lookup hloc hdone⟩
    | some script =>
      have honce := (Conversion.course_convert
        ((writeScript plan).run ((conversion plan).run fs).files).files plan.convert.input
        plan.convert.output).confined
      obtain ⟨hok, hputs'⟩ := writeScript_again hs hwritten honce
      obtain ⟨text, -, -, hsame⟩ := writeScript_of_some hs ((conversion plan).run fs).files
      have hwrites := Files.confined_writeText ((conversion plan).run fs).files script.output text
      rw [← hsame] at hwrites
      rw [hok]
      exact ⟨rfl, eq_of_putsBack hputs hputs' honce hwrites fun loc => id⟩

/-- A load script that is reached through directories made on the way, one of them left again at
once, and one that goes to the file of the CSV under another spelling. -/
theorem follow_again_through_new_directories :
    let fs : FileSystem := ⟨[([Bytes.ofString "in.vfg"], .file (Bytes.ofString "1 2 A"))], []⟩
    let plan (output : String) : Plan :=
      { convert := ⟨.ofString "in.vfg", .ofString "csv"⟩,
        loadScript := some { output := .ofString output } }
    let after (output : String) := ((follow (plan output)).run fs).files
    let again (output : String) := (follow (plan output)).run (after output)
    (after "new/../dir/load").lookup [Bytes.ofString "new"] = some .directory ∧
      (again "new/../dir/load").result = .ok ⟨1, 0⟩ ∧
      (again "new/../dir/load").files = after "new/../dir/load" ∧
      (again "./csv").result = .ok ⟨1, 0⟩ ∧ (again "./csv").files = after "./csv" := by
  intro fs plan after again
  have hfirst : ((follow (plan "new/../dir/load")).run fs).result = .ok ⟨1, 0⟩ := by decide +kernel
  have hfirst' : ((follow (plan "./csv")).run fs).result = .ok ⟨1, 0⟩ := by decide +kernel
  obtain ⟨hresult, hfiles⟩ := follow_again hfirst (by decide +kernel)
    (by intro script hscript; cases hscript; decide +kernel)
  obtain ⟨hresult', hfiles'⟩ := follow_again hfirst' (by decide +kernel)
    (by intro script hscript; cases hscript; decide +kernel)
  exact ⟨by decide +kernel, hresult, hfiles, hresult', hfiles'⟩

end Run

end EdgeCsv
