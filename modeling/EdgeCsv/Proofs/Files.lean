import EdgeCsv.Files
import EdgeCsv.Proofs.Action
import EdgeCsv.Proofs.FileSystem.Base

/-!
# Writing text files, and what else it changes

* `course_writeText`: first directories are made above the path, and if that went well the text is
  written, all of it or nothing.
* `confined_writeText`: so nothing changes but the file that the path leads to, and that there are
  directories where pieces of the path lead.
* `writeText_again`: once a text has been written, writing it again only puts it back.
* `writeText_congr`: under a path that is taken from a base, the spelling of the base makes no
  difference.
-/

namespace EdgeCsv.Files

open FileSystem

variable {fs fs' : FileSystem} {p base base' directory : Path} {text text' : String}
  {dir : Location} {writes makes : Location → Prop}

/-- A directory where a piece of the path leads that ends before a slash. -/
def IsDirectoryOf (fs : FileSystem) (p : Path) (loc : Location) : Prop :=
  ∃ q : Path, q.IsAbove p ∧ fs.resolve q = .ok loc

theorem prepareDirectory_of_none (h : missingDirectory? fs p = none) :
    ((prepareDirectory p).run fs).result = .ok () ∧ ((prepareDirectory p).run fs).files = fs := by
  have hask : ((Action.ask fun fs => .ok (missingDirectory? fs p) : Action IoError _).run
      fs).result = .ok (missingDirectory? fs p) := rfl
  unfold prepareDirectory
  rw [(Action.bind_of_ok hask).1, (Action.bind_of_ok hask).2, h]
  exact ⟨rfl, rfl⟩

theorem prepareDirectory_of_some (h : missingDirectory? fs p = some directory) :
    ((prepareDirectory p).run fs).result =
        (fs.createDirectories directory).1.elim (.ok ()) .error ∧
      ((prepareDirectory p).run fs).files = (fs.createDirectories directory).2 := by
  have hask : ((Action.ask fun fs => .ok (missingDirectory? fs p) : Action IoError _).run
      fs).result = .ok (missingDirectory? fs p) := rfl
  unfold prepareDirectory
  rw [(Action.bind_of_ok hask).1, (Action.bind_of_ok hask).2, h]
  exact Action.perform_eq (·.createDirectories directory) fs

theorem confined_prepareDirectory (fs : FileSystem) (p : Path) :
    Confined (fun _ => False) (IsDirectoryOf ((prepareDirectory p).run fs).files p) fs
      ((prepareDirectory p).run fs).files := by
  cases hmissing : missingDirectory? fs p with
  | none =>
    rw [(prepareDirectory_of_none hmissing).2]
    exact .refl _ _ _
  | some directory =>
    have hparent : p.parent? = some directory := (Option.filter_eq_some_iff.1 hmissing).1
    rw [(prepareDirectory_of_some hmissing).2]
    exact confined_createDirectories fs hparent

theorem writeText_of_error {e : IoError} (h : ((prepareDirectory p).run fs).result = .error e)
    (text : String) :
    ((writeText p text).run fs).result = .error e ∧
      ((writeText p text).run fs).files = ((prepareDirectory p).run fs).files :=
  Action.bind_of_error h

theorem writeText_of_ok (h : ((prepareDirectory p).run fs).result = .ok ()) (text : String) :
    let prepared := ((prepareDirectory p).run fs).files
    ((writeText p text).run fs).result =
        (prepared.write p (Bytes.ofString text)).1.elim (.ok ()) .error ∧
      ((writeText p text).run fs).files = (prepared.write p (Bytes.ofString text)).2 := by
  intro prepared
  unfold writeText
  rw [(Action.bind_of_ok h).1, (Action.bind_of_ok h).2]
  exact Action.perform_eq (·.write p (Bytes.ofString text)) prepared

/-- **How writing a text goes.** Directories may have been made, and then either it fails without
having written anything, or the path leads to the text. -/
theorem course_writeText (fs : FileSystem) (p : Path) (text : String) :
    ∃ fs', Confined (fun _ => False) (IsDirectoryOf fs' p) fs fs' ∧
      ((∃ e, ((writeText p text).run fs).result = .error e) ∧
          ((writeText p text).run fs).files = fs' ∨
        ((writeText p text).run fs).result = .ok () ∧
          Rewrites p (Bytes.ofString text) fs' ((writeText p text).run fs).files ∧
          ∃ q, p.parent? = some q) := by
  refine ⟨_, confined_prepareDirectory fs p, ?_⟩
  cases hprepare : ((prepareDirectory p).run fs).result with
  | error e =>
    obtain ⟨hresult, hfiles⟩ := writeText_of_error hprepare text
    exact .inl ⟨⟨e, hresult⟩, hfiles⟩
  | ok u =>
    obtain ⟨hresult, hfiles⟩ := writeText_of_ok hprepare text
    rw [hresult, hfiles]
    rcases rewrites_of_write ((prepareDirectory p).run fs).files p (Bytes.ofString text) with
      ⟨e, hwrite⟩ | ⟨fs', hwrite, hrewrites, hparent⟩
    · rw [hwrite]; exact .inl ⟨⟨e, rfl⟩, rfl⟩
    · rw [hwrite]; exact .inr ⟨rfl, hrewrites, hparent⟩

theorem confined_writeText_of_error {e : IoError}
    (h : ((writeText p text).run fs).result = .error e) :
    Confined (fun _ => False) (IsDirectoryOf ((writeText p text).run fs).files p) fs
      ((writeText p text).run fs).files := by
  obtain ⟨fs', hconfined, ⟨-, hfiles⟩ | ⟨hok, -⟩⟩ := course_writeText fs p text
  · rw [hfiles]; exact hconfined
  · rw [hok] at h; cases h

/-- **Nothing else changes** when a text is written, whether or not that works. -/
theorem confined_writeText (fs : FileSystem) (p : Path) (text : String) :
    Confined (fun loc => ((writeText p text).run fs).files.resolve p = .ok loc)
      (IsDirectoryOf ((writeText p text).run fs).files p) fs ((writeText p text).run fs).files := by
  obtain ⟨fs', hconfined, ⟨-, hfiles⟩ | ⟨-, hrewrites, -⟩⟩ := course_writeText fs p text
  · rw [hfiles]
    exact hconfined.imp (fun _ => False.elim) fun _ => id
  · have hlast := hrewrites.confined
    refine (hconfined.imp (fun _ => False.elim) ?_).trans
      (hlast.imp (fun _ => id) fun _ => False.elim)
    rintro loc ⟨q, habove, hleads⟩
    exact ⟨q, habove, hlast.resolve hleads⟩

/-! ## Writing the same text again -/

/-- No directory is missing above a path whose steps before the last walk to one. -/
theorem missingDirectory?_of_walk (hlen : p.bytes.length ≤ maxPath)
    (hzero : ∀ step ∈ p.steps.dropLast, 0 ∉ step)
    (h : fs.walk (fs.origin p) p.steps.dropLast = .ok dir) : missingDirectory? fs p = none := by
  unfold missingDirectory?
  rw [Option.filter_eq_none_iff]
  intro directory hparent
  have hsteps := Path.steps_parent? hparent
  obtain ⟨-, hshorter⟩ := Path.prefix_of_parent? hparent
  by_cases hne : directory.bytes = []
  · simp [hne]
  have hcheck : precheck directory = .ok () := by
    refine precheck_eq_ok.2 ⟨?_, hne, by omega⟩
    rw [Path.zero_mem_iff, hsteps]
    rintro ⟨step, hstep, hmem⟩
    exact hzero step hstep hmem
  have hleads : fs.resolve directory = .ok dir :=
    resolve_of_walk hcheck (by rw [hsteps, origin_parent? fs hparent]; exact h)
  simp [contains, hleads, Except.isOk, Except.toBool]

/-- Where a file can be created, a text is written without further ado. -/
theorem writeText_of_create {loc : Location} (h : fs.create p = .ok (loc, fs')) (text : String) :
    ((writeText p text).run fs).result =
        (fs'.append loc (Bytes.ofString text)).1.elim (.ok ()) .error ∧
      ((writeText p text).run fs).files = (fs'.append loc (Bytes.ofString text)).2 := by
  obtain ⟨⟨directory, name, -, -, hslot⟩, -⟩ := create_eq_ok h
  obtain ⟨hcheck, -⟩ := slot_eq_name hslot
  obtain ⟨hzero, -, hlen⟩ := precheck_eq_ok.1 hcheck
  have hnone : missingDirectory? fs p = none := by
    refine missingDirectory?_of_walk hlen (fun step hstep hmem => ?_) (steps_of_slot hslot).2
    exact hzero ((Path.zero_mem_iff p).2 ⟨step, List.mem_of_mem_dropLast hstep, hmem⟩)
  obtain ⟨hok, hsame⟩ := prepareDirectory_of_none hnone
  obtain ⟨hresult, hfiles⟩ := writeText_of_ok hok text
  rw [hresult, hfiles, hsame]
  unfold FileSystem.write
  rw [h]
  exact ⟨rfl, rfl⟩

/-- A text that has been written went to a file that could be created. -/
theorem create_of_writeText_ok (h : ((writeText p text).run fs).result = .ok ()) :
    ∃ (prepared : FileSystem) (loc : Location) (opened : FileSystem),
      prepared.create p = .ok (loc, opened) ∧
      opened.append loc (Bytes.ofString text) = (none, ((writeText p text).run fs).files) := by
  cases hprepare : ((prepareDirectory p).run fs).result with
  | error e => rw [(writeText_of_error hprepare text).1] at h; cases h
  | ok u =>
    obtain ⟨hresult, hfiles⟩ := writeText_of_ok hprepare text
    rw [hresult] at h
    rw [hfiles]
    generalize ((prepareDirectory p).run fs).files = prepared at h ⊢
    unfold FileSystem.write at h ⊢
    cases hcreate : prepared.create p with
    | error e => rw [hcreate] at h; cases h
    | ok created =>
      rw [hcreate] at h
      refine ⟨prepared, created.1, created.2, hcreate, Prod.ext ?_ rfl⟩
      cases hfail : (created.2.append created.1 (Bytes.ofString text)).1 with
      | none => rfl
      | some e =>
        simp only [hfail] at h
        cases h

/-- **A text that has been written can be written again**, and then it is put back. -/
theorem writeText_again (h : ((writeText p text).run fs).result = .ok ())
    (hc : Confined writes makes ((writeText p text).run fs).files fs') :
    ((writeText p text).run fs').result = .ok () ∧
      PutsBack p ((writeText p text).run fs).files fs' ((writeText p text).run fs').files := by
  obtain ⟨prepared, loc, opened, hcreate, happend⟩ := create_of_writeText_ok h
  generalize ((writeText p text).run fs).files = done at hc happend ⊢
  obtain ⟨⟨directory, name, hloc, -⟩, ⟨hmay, rfl⟩ | ⟨⟨kind, hl⟩, rfl⟩⟩ := create_eq_ok hcreate
  · rw [append_set hmay.ne_nil] at happend
    obtain rfl : prepared.set loc (.file (Bytes.ofString text)) = done := (Prod.ext_iff.1 happend).2
    have hset := confined_set_file hmay (Bytes.ofString text)
    have hdone := prepared.lookup_set_self hmay.ne_nil (.file (Bytes.ofString text))
    obtain ⟨new, hnew⟩ := hc.file hdone
    have hleads := resolve_of_create hcreate (hset.andThen hc) (by rw [hnew]; rfl)
    obtain ⟨hresult, hfiles⟩ :=
      writeText_of_create (create_of_file hcreate (hset.andThen hc) hnew) text
    rw [append_set hmay.ne_nil] at hresult hfiles
    exact ⟨hresult, loc, _, hmay.ne_nil, hleads, hdone, hfiles⟩
  · obtain rfl : opened = done := by
      rw [← append_device hl (Bytes.ofString text), happend]
    have hdevice := hc.device hl
    have hleads := resolve_of_create hcreate hc (by rw [hdevice]; rfl)
    have hsame : (fs'.append loc (Bytes.ofString text)).1 =
        (opened.append loc (Bytes.ofString text)).1 := by
      unfold append
      rw [hl, hdevice]
      cases kind <;> rfl
    obtain ⟨hresult, hfiles⟩ := writeText_of_create (create_of_device hcreate hc hdevice) text
    rw [hsame, happend] at hresult
    rw [append_device hdevice] at hfiles
    have hne : loc ≠ [] := by rw [hloc]; simp
    exact ⟨hresult, loc, _, hne, hleads, hl, hfiles.trans (set_of_lookup hne hdevice).symm⟩

/-! ## Writing below a base -/

/-- A path that takes at most one step from a base needs no directory to be made. -/
theorem missingDirectory?_of_short (h : fs.IsBase base dir) (hp : p.isAbsolute = false)
    (hlen : (base.join p).bytes.length ≤ maxPath) (hshort : p.steps.dropLast = []) :
    missingDirectory? fs (base.join p) = none := by
  have hjoin := Path.steps_join base hp
  obtain ⟨above, habove, hwalk⟩ : ∃ above, (∀ step ∈ (base.join p).steps.dropLast, 0 ∉ step) ∧
      fs.walk (fs.origin base) (base.join p).steps.dropLast = .ok above := by
    by_cases hnil : p.steps = []
    · rw [hjoin, hnil, List.append_nil]
      obtain ⟨above, hwalk⟩ := walk_dropLast h.walk
      exact ⟨above, fun step hstep => h.zero_notMem_step step (List.mem_of_mem_dropLast hstep),
        hwalk⟩
    · rw [hjoin, List.dropLast_append_of_ne_nil hnil, hshort, List.append_nil]
      exact ⟨dir, h.zero_notMem_step, h.walk⟩
  rw [← IsBase.origin_join fs base hp] at hwalk
  exact missingDirectory?_of_walk hlen habove hwalk

/-- The directory above a path that takes more steps is below the directory of the base. -/
theorem exists_below_of_join (h : fs.IsBase base dir) (hp : p.isAbsolute = false)
    (hlen : (base.join p).bytes.length ≤ maxPath) (hlong : p.steps.dropLast ≠ []) :
    ∃ directory, (base.join p).parent? = some directory ∧
      fs.Below dir p.steps.dropLast directory := by
  have hjoin := Path.steps_join base hp
  have hne : p.steps ≠ [] := fun hnil => hlong (by rw [hnil]; rfl)
  have hmem : p.steps.getLast hne ∈ (base.join p).steps := by
    rw [hjoin]
    exact List.mem_append_right _ (List.getLast_mem hne)
  obtain ⟨hpart, hidle⟩ := List.mem_filter.1 hmem
  obtain ⟨directory, hparent⟩ := Path.exists_parent? hpart (by simpa using hidle)
  obtain ⟨-, hshorter⟩ := Path.prefix_of_parent? hparent
  have habove : directory.steps = base.steps ++ p.steps.dropLast := by
    rw [Path.steps_parent? hparent, hjoin, List.dropLast_append_of_ne_nil hne]
  refine ⟨directory, hparent, ?_, by omega, base.steps, habove, ?_, h.zero_notMem_step⟩
  · exact Path.exists_last_step hparent (by rw [habove]; simp [hlong])
  · rw [origin_parent? fs hparent, IsBase.origin_join fs base hp]
    exact h.walk

theorem missingDirectory?_of_below {steps : List Bytes} (hparent : p.parent? = some directory)
    (hbelow : fs.Below dir steps directory) :
    missingDirectory? fs p = if fs.contains directory then none else some directory := by
  unfold missingDirectory?
  rw [hparent]
  cases hthere : fs.contains directory <;> simp [Option.filter, hbelow.bytes_ne_nil, hthere]

/-- **The directories above a path that is taken from a base** are the same however the base is
spelled. -/
theorem prepareDirectory_congr (h : fs.IsBase base dir) (h' : fs.IsBase base' dir)
    (hlen : (base.join p).bytes.length ≤ maxPath) (hlen' : (base'.join p).bytes.length ≤ maxPath) :
    ((prepareDirectory (base.join p)).run fs).result =
        ((prepareDirectory (base'.join p)).run fs).result ∧
      ((prepareDirectory (base.join p)).run fs).files =
        ((prepareDirectory (base'.join p)).run fs).files := by
  by_cases habs : p.isAbsolute = true
  · unfold Path.join
    rw [if_pos habs, if_pos habs]
    exact ⟨rfl, rfl⟩
  have hp : p.isAbsolute = false := by simpa using habs
  by_cases hshort : p.steps.dropLast = []
  · obtain ⟨hok, hsame⟩ := prepareDirectory_of_none (missingDirectory?_of_short h hp hlen hshort)
    obtain ⟨hok', hsame'⟩ :=
      prepareDirectory_of_none (missingDirectory?_of_short h' hp hlen' hshort)
    rw [hok, hok', hsame, hsame']
    exact ⟨rfl, rfl⟩
  · obtain ⟨directory, hparent, hbelow⟩ := exists_below_of_join h hp hlen hshort
    obtain ⟨directory', hparent', hbelow'⟩ := exists_below_of_join h' hp hlen' hshort
    have hmake := hbelow.createDirectories_congr hshort hbelow'
    have hthere : fs.contains directory = fs.contains directory' := by
      obtain ⟨steps, step, hsteps⟩ := (List.eq_nil_or_concat' _).resolve_left hshort
      rw [hsteps] at hbelow hbelow'
      unfold contains
      rw [hbelow.resolve_congr hbelow']
    have hmissing := missingDirectory?_of_below hparent hbelow
    have hmissing' := missingDirectory?_of_below hparent' hbelow'
    rw [hthere] at hmissing
    cases hc : fs.contains directory' with
    | true =>
      rw [hc, if_pos rfl] at hmissing hmissing'
      obtain ⟨hok, hsame⟩ := prepareDirectory_of_none hmissing
      obtain ⟨hok', hsame'⟩ := prepareDirectory_of_none hmissing'
      rw [hok, hok', hsame, hsame']
      exact ⟨rfl, rfl⟩
    | false =>
      rw [hc, if_neg (by simp)] at hmissing hmissing'
      obtain ⟨hresult, hfiles⟩ := prepareDirectory_of_some hmissing
      obtain ⟨hresult', hfiles'⟩ := prepareDirectory_of_some hmissing'
      rw [hresult, hresult', hfiles, hfiles', hmake]
      exact ⟨rfl, rfl⟩

/-- Under paths that the same can be created under, writes go the same way, whatever is written as
long as it is something. -/
theorem write_congr {q : Path} {content content' : Bytes}
    (h : (fs.create p).toOption = (fs.create q).toOption) (hne : content ≠ [])
    (hne' : content' ≠ []) :
    ((fs.write p content).1 = none ↔ (fs.write q content').1 = none) ∧
      ((fs.write q content').2 = (fs.write p content).2 ∨ (fs.write p content).1 = none ∧
        ∃ loc, (fs.write p content).2.resolve p = .ok loc ∧
          (fs.write p content).2.lookup loc = some (.file content) ∧
          (fs.write q content').2 = (fs.write p content).2.set loc (.file content')) := by
  unfold FileSystem.write
  rcases Action.ok_or_error_of_toOption h with
    ⟨⟨loc, opened⟩, hcreate, hcreate'⟩ | ⟨e, e', hcreate, hcreate'⟩
  · rw [hcreate, hcreate']
    obtain ⟨-, ⟨hmay, rfl⟩ | ⟨⟨kind, hl⟩, rfl⟩⟩ := create_eq_ok hcreate
    · simp only [append_set hmay.ne_nil, List.nil_append]
      refine ⟨trivial, .inr ⟨trivial, loc, resolve_set_of_create hcreate hmay content,
        fs.lookup_set_self hmay.ne_nil _, (fs.set_set _ _ _).symm⟩⟩
    · refine ⟨?_, .inl ?_⟩
      · unfold append
        simp only [hl]
        cases kind with
        | null => exact iff_of_true rfl rfl
        | full => simp [hne, hne']
      · exact (append_device hl content').trans (append_device hl content).symm
  · rw [hcreate, hcreate']
    exact ⟨iff_of_false nofun nofun, .inl rfl⟩

/-- **Writing a text below a base** goes the same way however the base is spelled, and whatever the
text is as long as there is some. The files differ at most in the text, if that was written. -/
theorem writeText_congr (h : fs.IsBase base dir) (h' : fs.IsBase base' dir)
    (hlen : (base.join p).bytes.length ≤ maxPath) (hlen' : (base'.join p).bytes.length ≤ maxPath)
    (htext : Bytes.ofString text ≠ []) (htext' : Bytes.ofString text' ≠ []) :
    let o := (writeText (base.join p) text).run fs
    let o' := (writeText (base'.join p) text').run fs
    o'.result.toOption = o.result.toOption ∧
      (o'.files = o.files ∨ o.result = .ok () ∧ ∃ loc, o.files.resolve (base.join p) = .ok loc ∧
        o.files.lookup loc = some (.file (Bytes.ofString text)) ∧
        o'.files = o.files.set loc (.file (Bytes.ofString text'))) := by
  intro o o'
  obtain ⟨hprepare, hsame⟩ := prepareDirectory_congr h h' hlen hlen'
  have hconfined := confined_prepareDirectory fs (base.join p)
  cases hresult : ((prepareDirectory (base.join p)).run fs).result with
  | error e =>
    obtain ⟨hend, hfiles⟩ := writeText_of_error hresult text
    obtain ⟨hend', hfiles'⟩ := writeText_of_error (hprepare.symm.trans hresult) text'
    exact ⟨by rw [hend, hend'], .inl (hfiles'.trans (hsame.symm.trans hfiles.symm))⟩
  | ok u =>
    obtain ⟨hend, hfiles⟩ := writeText_of_ok hresult text
    obtain ⟨hend', hfiles'⟩ := writeText_of_ok (hprepare.symm.trans hresult) text'
    rw [← hsame] at hend' hfiles'
    generalize ((prepareDirectory (base.join p)).run fs).files = prepared at *
    obtain ⟨-, hcreate⟩ := (h.confined hconfined).access_congr (h'.confined hconfined) hlen hlen'
    obtain ⟨hnone, hwritten⟩ := write_congr hcreate htext htext'
    rw [← hfiles, ← hfiles'] at hwritten
    refine ⟨?_, hwritten.imp_right fun ⟨hok, hset⟩ => ⟨by rw [hend, hok]; rfl, hset⟩⟩
    rw [hend, hend']
    cases hfail : (prepared.write (base.join p) (Bytes.ofString text)).1 with
    | none => rw [hnone.1 hfail]
    | some e =>
      cases hfail' : (prepared.write (base'.join p) (Bytes.ofString text')).1 with
      | none => rw [hnone.2 hfail'] at hfail; cases hfail
      | some e' => rfl

end EdgeCsv.Files
