import EdgeCsv.Proofs.FileSystem.Access

/-!
# Walking through directories

To `walk` is to follow parts to a directory.

* `walk_filter`: only steps matter on a walk.
* `slot_eq`, `followAll_concat`: a slot, or the entry that a path leads to, is what stands under the
  last name where a walk ends.
* `resolve_of_walk`: a path that is not refused for its spelling leads where its steps walk.
* `create_of_file`: what was created once can be created again, whatever else was done since.
-/

namespace EdgeCsv.FileSystem

variable {fs fs' fs'' : FileSystem} {loc loc' dir : Location} {p q : Path} {part : Bytes}
  {parts before after : List Bytes} {writes makes : Location → Prop}

/-- Follows parts to a directory. -/
def walk (fs : FileSystem) (loc : Location) (parts : List Bytes) : Except IoError Location := do
  let directory ← fs.followAll loc parts
  fs.requireDirectory directory
  return directory

theorem walk_eq_ok :
    fs.walk loc parts = .ok dir ↔
      fs.followAll loc parts = .ok dir ∧ fs.lookup dir = some .directory := by
  rw [← requireDirectory_eq_ok]
  unfold walk
  cases fs.followAll loc parts with
  | error e => simp [bind, Except.bind]
  | ok next =>
    cases h : fs.requireDirectory next with
    | error e =>
      simp only [bind, Except.bind, h, reduceCtorEq, Except.ok.injEq, false_iff, not_and]
      rintro rfl hdir
      rw [h] at hdir; cases hdir
    | ok u =>
      simp only [bind, Except.bind, h, pure, Except.pure, Except.ok.injEq, iff_self_and]
      rintro rfl
      exact h

theorem walk_nil (h : fs.lookup loc = some .directory) : fs.walk loc [] = .ok loc :=
  walk_eq_ok.2 ⟨followAll_nil.2 rfl, h⟩

theorem walk_cons (fs : FileSystem) (loc : Location) (part : Bytes) (parts : List Bytes) :
    fs.walk loc (part :: parts) = fs.follow loc part >>= (fs.walk · parts) := by
  unfold walk followAll
  rw [List.foldlM_cons]
  cases fs.follow loc part <;> rfl

/-- A walk needs a directory to set out from. -/
theorem requireDirectory_walk (fs : FileSystem) (loc : Location) (parts : List Bytes) :
    (fs.requireDirectory loc >>= fun _ => fs.walk loc parts) = fs.walk loc parts := by
  cases h : fs.requireDirectory loc with
  | ok u => rfl
  | error e =>
    cases parts with
    | nil =>
      unfold walk followAll
      simp only [List.foldlM_nil, pure, Except.pure, bind, Except.bind, h]
    | cons part parts =>
      rw [walk_cons]
      unfold follow
      simp only [bind, Except.bind, h]

/-- **Only steps matter on a walk.** -/
theorem walk_filter (fs : FileSystem) (loc : Location) (parts : List Bytes) :
    fs.walk loc (parts.filter (!Path.isIdle ·)) = fs.walk loc parts := by
  induction parts generalizing loc with
  | nil => rfl
  | cons part parts ih =>
    by_cases hidle : Path.isIdle part = true
    · -- an idle part only asks for the directory that the rest asks for anyway
      have hfollow : fs.walk loc (part :: parts) =
          fs.requireDirectory loc >>= fun _ => fs.walk loc parts := by
        rw [walk_cons]
        unfold follow
        cases fs.requireDirectory loc with
        | error e => rfl
        | ok u => simp only [bind, Except.bind, hidle, if_true]
      rw [List.filter_cons_of_neg (by simp [hidle]), ih, hfollow, requireDirectory_walk]
    · rw [List.filter_cons_of_pos (by simpa using hidle), walk_cons, walk_cons]
      cases fs.follow loc part with
      | error e => rfl
      | ok next => exact ih next

theorem walk_congr (h : before.filter (!Path.isIdle ·) = after.filter (!Path.isIdle ·)) :
    fs.walk loc before = fs.walk loc after := by
  rw [← walk_filter, h, walk_filter]

theorem walk_filter_ne_nil (fs : FileSystem) (loc : Location) (parts : List Bytes) :
    fs.walk loc (parts.filter (· ≠ [])) = fs.walk loc parts := by
  refine walk_congr ?_
  rw [List.filter_filter]
  refine List.filter_congr fun part _ => ?_
  by_cases hpart : part = []
  · subst hpart; rfl
  · simp [hpart]

theorem walk_append (fs : FileSystem) (loc : Location) (before after : List Bytes) :
    fs.walk loc (before ++ after) = fs.walk loc before >>= (fs.walk · after) := by
  induction before generalizing loc with
  | nil =>
    have hnil : fs.walk loc [] = fs.requireDirectory loc >>= fun _ => .ok loc := rfl
    rw [List.nil_append, hnil, ← requireDirectory_walk]
    cases fs.requireDirectory loc <;> rfl
  | cons part before ih =>
    rw [List.cons_append, walk_cons, walk_cons]
    cases fs.follow loc part with
    | error e => rfl
    | ok next => exact ih next

theorem walk_append_of_ok (h : fs.walk loc before = .ok dir) (after : List Bytes) :
    fs.walk loc (before ++ after) = fs.walk dir after := by
  rw [walk_append, h]
  rfl

theorem walk_dropLast (h : fs.walk loc parts = .ok dir) :
    ∃ above, fs.walk loc parts.dropLast = .ok above := by
  by_cases hne : parts = []
  · subst hne
    exact ⟨dir, h⟩
  · rw [← List.dropLast_append_getLast hne, walk_append] at h
    cases hwalk : fs.walk loc parts.dropLast with
    | error e => rw [hwalk] at h; cases h
    | ok above => exact ⟨above, rfl⟩

/-- The last part is looked for where the walk over the others ends. -/
theorem followAll_concat (fs : FileSystem) (loc : Location) (before : List Bytes) (part : Bytes) :
    fs.followAll loc (before ++ [part]) = fs.walk loc before >>= (fs.follow · part) := by
  unfold walk followAll
  rw [List.foldlM_append]
  cases List.foldlM fs.follow loc before with
  | error e => rfl
  | ok next =>
    have hfollow : List.foldlM fs.follow next [part] = fs.follow next part := by
      rw [List.foldlM_cons]
      cases fs.follow next part <;> rfl
    simp only [bind, Except.bind, hfollow]
    cases hdir : fs.requireDirectory next with
    | ok u => rfl
    | error e =>
      unfold follow
      simp only [bind, Except.bind, hdir]

theorem Confined.walk (h : Confined writes makes fs fs') (hw : fs.walk loc parts = .ok dir) :
    fs'.walk loc parts = .ok dir := by
  rw [walk_eq_ok] at hw ⊢
  exact ⟨h.followAll hw.1, h.directory hw.2⟩

/-! ## Paths that walk -/

theorem origin_parent? (fs : FileSystem) (h : p.parent? = some q) : fs.origin q = fs.origin p := by
  unfold origin
  rw [Path.isAbsolute_parent? h]

/-- A path leads where its steps walk, unless it is refused for its spelling. -/
theorem resolve_of_walk (hcheck : precheck p = .ok ())
    (h : fs.walk (fs.origin p) p.steps = .ok dir) : fs.resolve p = .ok dir := by
  rw [Path.steps, walk_filter] at h
  exact resolve_eq_ok.2 ⟨hcheck, (walk_eq_ok.1 h).1⟩

/-- The slot of a path is the last name where the walk over the others ends. -/
theorem slot_eq (fs : FileSystem) (p : Path) :
    fs.slot p = precheck p >>= fun _ =>
      match (p.parts.filter (· ≠ [])).getLast? with
      | none => .ok .root
      | some last =>
        fs.walk (fs.origin p) (p.parts.filter (· ≠ [])).dropLast >>= fun directory =>
          if last = Path.dot ∨ last = Path.dotDot then .ok .idle
          else .ok (.name directory last (p.bytes.getLast? = some Path.slash)) := by
  unfold slot walk
  cases precheck p with
  | error e => rfl
  | ok u =>
    simp only [bind, Except.bind]
    cases (p.parts.filter (· ≠ [])).getLast? with
    | none => rfl
    | some last =>
      cases fs.followAll (fs.origin p) (p.parts.filter (· ≠ [])).dropLast with
      | error e => rfl
      | ok next =>
        simp only
        cases fs.requireDirectory next <;> rfl

/-- Paths with the same last name, where the walks over the others come to the same, have the same
slot. -/
theorem slot_congr (hcheck : precheck p = precheck q)
    (hlast : (p.parts.filter (· ≠ [])).getLast? = (q.parts.filter (· ≠ [])).getLast?)
    (hwalk : fs.walk (fs.origin p) (p.parts.filter (· ≠ [])).dropLast =
      fs'.walk (fs'.origin q) (q.parts.filter (· ≠ [])).dropLast)
    (hslash : (p.bytes.getLast? = some Path.slash) = (q.bytes.getLast? = some Path.slash)) :
    fs.slot p = fs'.slot q := by
  simp only [slot_eq, hcheck, hlast, hwalk, hslash]

/-- The last step is the name of the slot, and those before it walk to its directory. -/
theorem steps_of_slot {name : Bytes} {slashed : Bool}
    (h : fs.slot p = .ok (.name dir name slashed)) :
    p.steps.getLast? = some name ∧ fs.walk (fs.origin p) p.steps.dropLast = .ok dir := by
  obtain ⟨-, hdir, hidle, -, before, after, hparts, hempty, -, hfollow⟩ := slot_eq_name h
  have hafter : after.filter (!Path.isIdle ·) = [] :=
    Path.filter_of_idle fun part hpart => by rw [hempty part hpart]; rfl
  have hsteps : p.steps = before.filter (!Path.isIdle ·) ++ [name] := by
    rw [Path.steps, hparts, List.filter_append, List.filter_cons_of_pos (by simp [hidle]), hafter]
  rw [hsteps, List.getLast?_concat, List.dropLast_concat, walk_filter]
  exact ⟨rfl, walk_eq_ok.2 ⟨hfollow, hdir⟩⟩

/-- The file name of a path is the name of the file that is created under it. -/
theorem fileName?_of_create (h : fs.create p = .ok (loc, fs')) : p.fileName? = loc.head? := by
  obtain ⟨⟨directory, name, rfl, -, hslot⟩, -⟩ := create_eq_ok h
  obtain ⟨-, -, -, hup, -⟩ := slot_eq_name hslot
  rw [Path.fileName?_eq, (steps_of_slot hslot).1]
  exact Option.filter_some_pos (by simpa using hup)

/-! ## Doing it again -/

theorem Confined.slot {name : Bytes} {slashed : Bool} (hc : Confined writes makes fs fs')
    (h : fs.slot p = .ok (.name dir name slashed)) : fs'.slot p = .ok (.name dir name slashed) := by
  obtain ⟨-, -, hfollow, hdir, -⟩ := slot_eq_ok h
  have hwalk := walk_eq_ok.2 ⟨hfollow, hdir⟩
  rw [← h]
  refine slot_congr rfl rfl ?_ rfl
  rw [hc.origin_eq, hwalk, hc.walk hwalk]

/-- A file that was created under a path can be created again. -/
theorem create_of_file {old : Bytes} (h : fs.create p = .ok (loc, fs'))
    (hc : Confined writes makes fs fs'') (hl : fs''.lookup loc = some (.file old)) :
    fs''.create p = .ok (loc, fs''.set loc (.file [])) := by
  obtain ⟨⟨directory, name, rfl, hlen, hslot⟩, -⟩ := create_eq_ok h
  unfold create
  simp only [hc.slot hslot, bind, Except.bind, Nat.not_lt.2 hlen, hl, if_false, Bool.false_eq_true]

theorem create_of_device {kind : Device} (h : fs.create p = .ok (loc, fs'))
    (hc : Confined writes makes fs fs'') (hl : fs''.lookup loc = some (.device kind)) :
    fs''.create p = .ok (loc, fs'') := by
  obtain ⟨⟨directory, name, rfl, hlen, hslot⟩, -⟩ := create_eq_ok h
  unfold create
  simp only [hc.slot hslot, bind, Except.bind, Nat.not_lt.2 hlen, hl, if_false, Bool.false_eq_true]

/-- A file that is not written holds what it held. -/
theorem Confined.read {content : Bytes} (hc : Confined writes makes fs fs')
    (hw : ∀ loc, fs'.resolve p = .ok loc → ¬ writes loc) (h : fs.read p = .ok content) :
    fs'.read p = .ok content := by
  unfold FileSystem.read at h
  cases hleads : fs.resolve p with
  | error e => rw [hleads] at h; cases h
  | ok loc =>
    rw [hleads] at h
    simp only [bind, Except.bind] at h
    cases hl : fs.lookup loc with
    | none => rw [hl] at h; cases h
    | some e =>
      have hleads' := hc.resolve hleads
      unfold FileSystem.read
      simp only [hleads', bind, Except.bind, hc.lookup_of_some (hw loc hleads') hl]
      rw [hl] at h
      exact h

/-- Something was done to the file of a path and has been done once more: the entry is put back to
what it was when it had been done first. -/
def PutsBack (p : Path) (done now again : FileSystem) : Prop :=
  ∃ loc e, loc ≠ [] ∧ now.resolve p = .ok loc ∧ done.lookup loc = some e ∧ again = now.set loc e

end EdgeCsv.FileSystem
