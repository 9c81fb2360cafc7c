import EdgeCsv.Proofs.FileSystem.Change
import EdgeCsv.Proofs.Path.Components

/-!
# What the operations change

* `resolve_of_create`: a path leads to the file that was created under it.
* `rewrites_of_write`: a file that was written holds the new content and nothing of the old one, and
  nothing else changed (`Rewrites`).
* `confined_createDirectories`: making directories changes nothing but that there are directories
  where pieces of the path lead.
* `hasDirectory_of_createChain`: if it did not fail, the directory that was asked for is there.
-/

namespace EdgeCsv.FileSystem

variable {fs fs' fs'' : FileSystem} {loc loc' : Location} {p q : Path} {content bytes : Bytes}
  {writes makes : Location → Prop}

/-! ## The last part of a path -/

/-- Who comes to a directory came through directories. -/
theorem directory_of_followAll {parts : List Bytes} (h : fs.followAll loc parts = .ok loc')
    (hdir : fs.lookup loc' = some .directory) : fs.lookup loc = some .directory := by
  cases parts with
  | nil => rw [followAll_nil] at h; rw [← h]; exact hdir
  | cons part parts =>
    obtain ⟨next, hnext, -⟩ := followAll_cons.1 h
    exact (follow_eq_ok.1 hnext).1

/-- Empty parts make no difference on the way to a directory. -/
theorem followAll_of_filter {parts : List Bytes}
    (h : fs.followAll loc (parts.filter (· ≠ [])) = .ok loc')
    (hdir : fs.lookup loc' = some .directory) : fs.followAll loc parts = .ok loc' := by
  induction parts generalizing loc with
  | nil => exact h
  | cons part parts ih =>
    by_cases hpart : part = []
    · subst hpart
      rw [List.filter_cons_of_neg (by simp)] at h
      have hidle : fs.follow loc [] = .ok loc :=
        follow_eq_ok.2 ⟨directory_of_followAll h hdir, .inl ⟨rfl, rfl⟩⟩
      exact followAll_cons.2 ⟨loc, hidle, ih h⟩
    · rw [List.filter_cons_of_pos (by simpa using hpart), followAll_cons] at h
      obtain ⟨next, hnext, hrest⟩ := h
      exact followAll_cons.2 ⟨next, hnext, ih hrest⟩

/-- A path whose last parts are empty ends in a slash. -/
theorem getLast?_of_parts {before after : List Bytes} {name : Bytes}
    (hparts : p.parts = before ++ name :: after) (hempty : ∀ part ∈ after, part = [])
    (hafter : after ≠ []) : p.bytes.getLast? = some Path.slash := by
  obtain ⟨init, last, rfl⟩ := (List.eq_nil_or_concat' after).resolve_left hafter
  obtain rfl := hempty last (by simp)
  have hsplit : p.parts = (before ++ name :: init) ++ [[]] := by rw [hparts]; simp
  rw [← p.intercalate_parts, hsplit, intercalate_append (by simp) (by simp),
    List.intercalate_singleton, List.getLast?_append]
  rfl

/-- What a slot with a name takes. -/
theorem slot_eq_ok {name : Bytes} {slashed : Bool}
    (h : fs.slot p = .ok (.name loc name slashed)) :
    precheck p = .ok () ∧ (p.parts.filter (· ≠ [])).getLast? = some name ∧
      fs.followAll (fs.origin p) (p.parts.filter (· ≠ [])).dropLast = .ok loc ∧
      fs.lookup loc = some .directory ∧ name ≠ Path.dot ∧ name ≠ Path.dotDot ∧
      decide (p.bytes.getLast? = some Path.slash) = slashed := by
  unfold slot at h
  cases hcheck : precheck p with
  | error e => rw [hcheck] at h; cases h
  | ok u =>
    rw [hcheck] at h
    simp only [bind, Except.bind] at h
    split at h
    · cases h
    rename_i last hlast
    cases hfollow : fs.followAll (fs.origin p) (p.parts.filter (· ≠ [])).dropLast with
    | error e => rw [hfollow] at h; cases h
    | ok directory =>
      rw [hfollow] at h
      simp only at h
      cases hdir : fs.requireDirectory directory with
      | error e => rw [hdir] at h; cases h
      | ok u =>
        rw [hdir] at h
        simp only at h
        by_cases hdots : last = Path.dot ∨ last = Path.dotDot
        · rw [if_pos hdots] at h; cases h
        rw [if_neg hdots] at h
        obtain ⟨hdot, hup⟩ := not_or.1 hdots
        cases h
        exact ⟨rfl, hlast, rfl, requireDirectory_eq_ok.1 hdir, hdot, hup, rfl⟩

/-- Behind the last part that is not empty there are only empty ones. -/
theorem split_of_getLast? {parts : List Bytes} {name : Bytes}
    (h : (parts.filter (· ≠ [])).getLast? = some name) :
    name ≠ [] ∧ ∃ before after, parts = before ++ name :: after ∧
      before.filter (· ≠ []) = (parts.filter (· ≠ [])).dropLast ∧ ∀ part ∈ after, part = [] := by
  have hnames : parts.filter (· ≠ []) = (parts.filter (· ≠ [])).dropLast ++ [name] :=
    (List.dropLast_append_getLast? name h).symm
  obtain ⟨before, rest, hparts, hbefore, hrest⟩ := List.filter_eq_append_iff.1 hnames
  obtain ⟨between, after, rfl, hbetween, hname, hafter⟩ := List.filter_eq_cons_iff.1 hrest
  refine ⟨by simpa using hname, before ++ between, after, by rw [hparts, List.append_assoc], ?_, ?_⟩
  · rw [List.filter_append, hbefore, List.filter_eq_nil_iff.2 hbetween, List.append_nil]
  · intro part hpart
    simpa using List.filter_eq_nil_iff.1 hafter part hpart

/-- **The slot of a path.** The parts before the last name lead to a directory, and behind the name
there are only empty parts, none at all if no slash ends the path. -/
theorem slot_eq_name {name : Bytes} {slashed : Bool}
    (h : fs.slot p = .ok (.name loc name slashed)) :
    precheck p = .ok () ∧ fs.lookup loc = some .directory ∧ Path.isIdle name = false ∧
      name ≠ Path.dotDot ∧ ∃ before after, p.parts = before ++ name :: after ∧
        (∀ part ∈ after, part = []) ∧ (slashed = false → after = []) ∧
        fs.followAll (fs.origin p) before = .ok loc := by
  obtain ⟨hcheck, hlast, hfollow, hdir, hdot, hup, rfl⟩ := slot_eq_ok h
  obtain ⟨hne, before, after, hparts, hbefore, hempty⟩ := split_of_getLast? hlast
  have hidle : Path.isIdle name = false := by simp [Path.isIdle, hne, hdot]
  refine ⟨hcheck, hdir, hidle, hup, before, after, hparts, hempty, ?_, ?_⟩
  · intro hslash
    by_contra hafter
    have hends := getLast?_of_parts hparts hempty hafter
    simp [hends] at hslash
  · apply followAll_of_filter _ hdir
    rw [hbefore]
    exact hfollow

/-- A path leads to what stands in its slot, also after other changes. -/
theorem resolve_of_slot {name : Bytes} {slashed : Bool} {e : Entry}
    (h : fs.slot p = .ok (.name loc name slashed)) (hlen : name.length ≤ maxName)
    (hc : Confined writes makes fs fs') (hl : fs'.lookup (name :: loc) = some e)
    (he : slashed = false ∨ e = .directory) : fs'.resolve p = .ok (name :: loc) := by
  obtain ⟨hcheck, hdir, hidle, hup, before, after, hparts, hempty, hslash, hfollow⟩ :=
    slot_eq_name h
  have hname : fs'.follow loc name = .ok (name :: loc) := by
    rw [follow_eq_ok]
    exact ⟨hc.directory hdir, .inr (.inr ⟨hidle, hup, hlen, by rw [hl]; rfl, rfl⟩)⟩
  have hafter : fs'.followAll (name :: loc) after = .ok (name :: loc) := by
    rcases he with he | rfl
    · rw [hslash he]; exact followAll_nil.2 rfl
    · have hfilter : after.filter (· ≠ []) = [] := by
        rw [List.filter_eq_nil_iff]
        intro part hpart
        simp [hempty part hpart]
      apply followAll_of_filter _ hl
      rw [hfilter]
      exact followAll_nil.2 rfl
  rw [resolve_eq_ok, hc.origin_eq, hparts]
  exact ⟨hcheck, followAll_append.2 ⟨loc, hc.followAll hfollow,
    followAll_cons.2 ⟨_, hname, hafter⟩⟩⟩

/-! ## Creating and writing files -/

/-- A path that leads to a device. -/
def LeadsToDevice (fs : FileSystem) (p : Path) : Prop :=
  ∃ loc kind, fs.resolve p = .ok loc ∧ fs.lookup loc = some (.device kind)

/-- Whether an entry is a device. -/
def isDevice : Option Entry → Bool
  | some (.device _) => true
  | _ => false

theorem isDevice_iff {e : Option Entry} : isDevice e = true ↔ ∃ kind, e = some (.device kind) := by
  unfold isDevice
  split <;> simp_all

theorem leadsToDevice_iff :
    fs.LeadsToDevice p ↔ (fs.resolve p).toOption.any (isDevice ∘ fs.lookup) = true := by
  unfold LeadsToDevice
  cases fs.resolve p with
  | error e => simp [Except.toOption]
  | ok loc => simp [Except.toOption, isDevice_iff]

instance (fs : FileSystem) (p : Path) : Decidable (fs.LeadsToDevice p) :=
  decidable_of_iff _ leadsToDevice_iff.symm

/-- What there is to write to once a file has been created: an empty file, or a device. -/
def opened (fs : FileSystem) (p : Path) : Except IoError (Option Entry) :=
  (fs.create p).map fun created => created.2.lookup created.1

/-- What creating a file takes, and what it does. -/
theorem create_eq_ok (h : fs.create p = .ok (loc, fs')) :
    (∃ directory name, loc = name :: directory ∧ name.length ≤ maxName ∧
        fs.slot p = .ok (.name directory name false)) ∧
      (fs.MayHoldFile loc ∧ fs' = fs.set loc (.file []) ∨
        (∃ kind, fs.lookup loc = some (.device kind)) ∧ fs' = fs) := by
  unfold create at h
  cases hslot : fs.slot p with
  | error e => rw [hslot] at h; cases h
  | ok slot =>
    rw [hslot] at h
    simp only [bind, Except.bind] at h
    cases slot with
    | root => cases h
    | idle => cases h
    | name directory name slashed =>
      simp only at h
      cases slashed with
      | true => rw [if_pos rfl] at h; cases h
      | false =>
        rw [if_neg (by simp)] at h
        by_cases hlen : maxName < name.length
        · rw [if_pos hlen] at h; cases h
        rw [if_neg hlen] at h
        have hname : name.length ≤ maxName := Nat.not_lt.1 hlen
        cases hl : fs.lookup (name :: directory) with
        | none =>
          rw [hl] at h
          cases h
          exact ⟨⟨directory, name, rfl, hname, rfl⟩, .inl ⟨.inl hl, rfl⟩⟩
        | some e =>
          rw [hl] at h
          cases e with
          | file old =>
            cases h
            exact ⟨⟨directory, name, rfl, hname, rfl⟩, .inl ⟨.inr ⟨old, hl⟩, rfl⟩⟩
          | directory => cases h
          | device kind =>
            cases h
            exact ⟨⟨directory, name, rfl, hname, rfl⟩, .inr ⟨⟨kind, hl⟩, rfl⟩⟩

/-- **A path leads to what was created under it**, also after other changes. -/
theorem resolve_of_create (h : fs.create p = .ok (loc, fs')) (hc : Confined writes makes fs fs'')
    (hl : (fs''.lookup loc).isSome) : fs''.resolve p = .ok loc := by
  obtain ⟨⟨directory, name, rfl, hlen, hslot⟩, -⟩ := create_eq_ok h
  obtain ⟨e, he⟩ := Option.isSome_iff_exists.1 hl
  exact resolve_of_slot hslot hlen hc he (.inl rfl)

/-- A path leads to the file created under it, whatever has been written there. -/
theorem resolve_set_of_create (h : fs.create p = .ok (loc, fs')) (hmay : fs.MayHoldFile loc)
    (content : Bytes) : (fs.set loc (.file content)).resolve p = .ok loc := by
  have hlookup := fs.lookup_set_self hmay.ne_nil (.file content)
  exact resolve_of_create h (confined_set_file hmay content) (by rw [hlookup]; rfl)

/-- A path under which a file can be created has a parent. -/
theorem exists_parent?_of_create (h : fs.create p = .ok (loc, fs')) : ∃ q, p.parent? = some q := by
  obtain ⟨⟨directory, name, -, -, hslot⟩, -⟩ := create_eq_ok h
  obtain ⟨-, -, hidle, -, before, after, hparts, -⟩ := slot_eq_name hslot
  have hmem : name ∈ p.parts := by rw [hparts]; simp
  exact Path.exists_parent? hmem hidle

theorem append_set (hloc : loc ≠ []) (content bytes : Bytes) :
    (fs.set loc (.file content)).append loc bytes =
      (none, fs.set loc (.file (content ++ bytes))) := by
  unfold append
  rw [lookup_set_self _ hloc]
  simp only [set_set]

theorem append_device {kind : Device} (h : fs.lookup loc = some (.device kind)) (bytes : Bytes) :
    (fs.append loc bytes).2 = fs := by
  unfold append
  rw [h]
  cases kind <;> rfl

theorem read_of_lookup (hp : fs.resolve p = .ok loc) (hl : fs.lookup loc = some (.file content)) :
    fs.read p = .ok content := by
  unfold read
  rw [hp]
  simp only [bind, Except.bind, hl]

theorem read_of_lookup_null (hp : fs.resolve p = .ok loc)
    (hl : fs.lookup loc = some (.device .null)) : fs.read p = .ok [] := by
  unfold read
  rw [hp]
  simp only [bind, Except.bind, hl]

/-- A path whose file has been written: it leads to a file with this content, and nothing else is
different. A device takes the content without a trace. -/
inductive Rewrites (p : Path) (content : Bytes) (fs fs' : FileSystem) : Prop
  | file (loc : Location) (may : fs.MayHoldFile loc) (eq : fs' = fs.set loc (.file content))
    (leads : fs'.resolve p = .ok loc)
  | device (loc : Location) (kind : Device) (lookup : fs.lookup loc = some (.device kind))
    (takes : (fs.append loc content).1 = none) (eq : fs' = fs) (leads : fs.resolve p = .ok loc)

namespace Rewrites

theorem confined (h : Rewrites p content fs fs') :
    Confined (fun loc => fs'.resolve p = .ok loc) (fun _ => False) fs fs' := by
  cases h with
  | file loc may eq leads =>
    subst eq
    exact (confined_set_file may content).imp (fun _ h => by rw [h]; exact leads) fun _ => id
  | device loc kind lookup takes eq leads => subst eq; exact .refl _ _ _

/-- The path leads to the content, or to a device. -/
theorem lookup (h : Rewrites p content fs fs') :
    ∃ loc, fs'.resolve p = .ok loc ∧ (fs'.lookup loc = some (.file content) ∨
      ∃ kind, fs'.lookup loc = some (.device kind)) := by
  cases h with
  | file loc may eq leads =>
    subst eq
    exact ⟨loc, leads, .inl (lookup_set_self _ may.ne_nil _)⟩
  | device loc kind lookup takes eq leads =>
    subst eq
    exact ⟨loc, leads, .inr ⟨kind, lookup⟩⟩

/-- Unless it leads to a device, reading the path gives the content. -/
theorem read (h : Rewrites p content fs fs') (hfile : ¬ fs'.LeadsToDevice p) :
    fs'.read p = .ok content := by
  obtain ⟨loc, hleads, hl | ⟨kind, hl⟩⟩ := h.lookup
  · exact read_of_lookup hleads hl
  · exact absurd ⟨loc, kind, hleads, hl⟩ hfile

/-- A device that took something has room, and there is nothing to read from it. -/
theorem read_device (h : Rewrites p content fs fs') (hne : content ≠ [])
    (hdevice : fs'.LeadsToDevice p) : fs'.read p = .ok [] := by
  cases h with
  | file loc may eq leads =>
    subst eq
    obtain ⟨loc', kind, hleads, hl⟩ := hdevice
    cases leads.symm.trans hleads
    rw [lookup_set_self _ may.ne_nil] at hl
    cases hl
  | device loc kind lookup takes eq leads =>
    subst eq
    cases kind with
    | null => exact read_of_lookup_null leads lookup
    | full =>
      unfold append at takes
      simp [lookup, hne] at takes

end Rewrites

/-- **Writing a file** does all or nothing. -/
theorem rewrites_of_write (fs : FileSystem) (p : Path) (content : Bytes) :
    (∃ e, fs.write p content = (some e, fs)) ∨
      ∃ fs', fs.write p content = (none, fs') ∧ Rewrites p content fs fs' ∧
        ∃ q, p.parent? = some q := by
  unfold write
  cases h : fs.create p with
  | error e => exact .inl ⟨e, rfl⟩
  | ok created =>
    obtain ⟨loc, fs'⟩ := created
    have hparent := exists_parent?_of_create h
    obtain ⟨-, ⟨hmay, rfl⟩ | ⟨⟨kind, hl⟩, rfl⟩⟩ := create_eq_ok h
    · have hleads := resolve_set_of_create h hmay content
      exact .inr ⟨_, append_set hmay.ne_nil [] content, .file loc hmay rfl hleads, hparent⟩
    · have hsame := append_device hl content
      have hleads := resolve_of_create h (.refl (fun _ => False) (fun _ => False) fs')
        (by rw [hl]; rfl)
      cases hfail : (fs'.append loc content).1 with
      | some e => exact .inl ⟨e, Prod.ext hfail hsame⟩
      | none =>
        exact .inr ⟨fs', Prod.ext hfail hsame, .device loc kind hl hfail rfl hleads, hparent⟩

/-! ## Making directories -/

/-- What making a directory takes, and what it does. -/
theorem makeDirectory_eq_ok (h : fs.makeDirectory p = .ok fs') :
    ∃ directory name slashed, fs.slot p = .ok (.name directory name slashed) ∧
      name.length ≤ maxName ∧ fs.lookup (name :: directory) = none ∧
      fs' = fs.set (name :: directory) .directory := by
  unfold makeDirectory at h
  cases hslot : fs.slot p with
  | error e => rw [hslot] at h; cases h
  | ok slot =>
    rw [hslot] at h
    simp only [bind, Except.bind] at h
    cases slot with
    | root => cases h
    | idle => cases h
    | name directory name slashed =>
      simp only at h
      by_cases hlen : maxName < name.length
      · rw [if_pos hlen] at h; cases h
      rw [if_neg hlen] at h
      cases hl : fs.lookup (name :: directory) with
      | some e => rw [hl] at h; cases h
      | none =>
        rw [hl] at h
        cases h
        exact ⟨directory, name, slashed, rfl, Nat.not_lt.1 hlen, hl, rfl⟩

/-- **A path leads to the directory that was made under it**, and nothing else is new. -/
theorem leads_of_makeDirectory (h : fs.makeDirectory p = .ok fs') :
    ∃ loc, fs'.resolve p = .ok loc ∧ fs'.lookup loc = some .directory ∧
      Confined (fun _ => False) (· = loc) fs fs' := by
  obtain ⟨directory, name, slashed, hslot, hlen, hl, rfl⟩ := makeDirectory_eq_ok h
  have hc := confined_set_directory hl
  have hmade : (fs.set (name :: directory) .directory).lookup (name :: directory) =
      some .directory := fs.lookup_set_self (by simp) .directory
  exact ⟨name :: directory, resolve_of_slot hslot hlen hc hmade (.inr rfl), hmade, hc⟩

theorem confined_makeDirectory (h : fs.makeDirectory p = .ok fs') :
    Confined (fun _ => False) (fun loc => fs'.resolve p = .ok loc) fs fs' := by
  obtain ⟨loc, hleads, -, hc⟩ := leads_of_makeDirectory h
  exact hc.imp (fun _ => id) fun _ h => by rw [h]; exact hleads

theorem confined_remakeDirectory (fs : FileSystem) (p : Path) :
    Confined (fun _ => False) (fun loc => (fs.remakeDirectory p).2.resolve p = .ok loc) fs
      (fs.remakeDirectory p).2 := by
  unfold remakeDirectory
  cases h : fs.makeDirectory p with
  | error e => exact .refl _ _ _
  | ok fs' => exact confined_makeDirectory h

/-- Making a chain of directories, whether or not it fails in between. -/
theorem confined_createChain (fs : FileSystem) (chain : List Path) :
    Confined (fun _ => False)
      (fun loc => ∃ q ∈ chain, (fs.createChain chain).2.resolve q = .ok loc) fs
      (fs.createChain chain).2 := by
  induction chain with
  | nil => exact .refl _ _ _
  | cons p above ih =>
    rw [createChain]
    cases h : fs.makeDirectory p with
    | ok fs' =>
      exact (confined_makeDirectory h).imp (fun _ => id) fun _ h => ⟨p, List.mem_cons_self, h⟩
    | error e =>
      simp only
      by_cases he : e = .notFound
      · rw [if_pos he]
        cases hchain : fs.createChain above with
        | mk failure fs' =>
          rw [hchain] at ih
          cases failure with
          | some e' =>
            exact ih.imp (fun _ => id) fun _ ⟨q, hq, hr⟩ => ⟨q, List.mem_cons_of_mem _ hq, hr⟩
          | none =>
            -- the directories further on are there still when this one is made
            have hlast := confined_remakeDirectory fs' p
            have hfirst : Confined (fun _ => False) (fun loc => ∃ q ∈ p :: above,
                (fs'.remakeDirectory p).2.resolve q = .ok loc) fs fs' :=
              ih.imp (fun _ => id) fun _ ⟨q, hq, hr⟩ =>
                ⟨q, List.mem_cons_of_mem _ hq, hlast.resolve hr⟩
            exact hfirst.trans (hlast.imp (fun _ => id) fun _ hr => ⟨p, List.mem_cons_self, hr⟩)
      · rw [if_neg he]
        split
        · exact .refl _ _ _
        · exact .refl _ _ _

theorem hasDirectory_iff :
    fs.hasDirectory p = true ↔
      ∃ loc, fs.resolve p = .ok loc ∧ fs.lookup loc = some .directory := by
  unfold hasDirectory
  cases fs.resolve p with
  | error e => simp
  | ok loc => simp

theorem hasDirectory_of_makeDirectory (h : fs.makeDirectory p = .ok fs') :
    fs'.hasDirectory p = true := by
  obtain ⟨loc, hleads, hmade, -⟩ := leads_of_makeDirectory h
  exact hasDirectory_iff.2 ⟨loc, hleads, hmade⟩

theorem hasDirectory_of_remakeDirectory (h : fs.remakeDirectory p = (none, fs')) :
    fs'.hasDirectory p = true := by
  unfold remakeDirectory at h
  cases hmake : fs.makeDirectory p with
  | ok made =>
    rw [hmake] at h
    cases h
    exact hasDirectory_of_makeDirectory hmake
  | error e =>
    simp only [hmake, Prod.mk.injEq, ite_eq_left_iff, reduceCtorEq, imp_false, not_not] at h
    obtain ⟨⟨-, hthere⟩, rfl⟩ := h
    exact hthere

/-- **A chain of directories that was made without fail** has its first directory. -/
theorem hasDirectory_of_createChain {above : List Path}
    (h : fs.createChain (p :: above) = (none, fs')) : fs'.hasDirectory p = true := by
  rw [createChain] at h
  cases hmake : fs.makeDirectory p with
  | ok made =>
    rw [hmake] at h
    cases h
    exact hasDirectory_of_makeDirectory hmake
  | error e =>
    rw [hmake] at h
    simp only at h
    by_cases he : e = .notFound
    · rw [if_pos he] at h
      cases hchain : fs.createChain above with
      | mk failure prepared =>
        rw [hchain] at h
        cases failure with
        | some e' => cases h
        | none => exact hasDirectory_of_remakeDirectory h
    · rw [if_neg he] at h
      by_cases hthere : e = .alreadyExists ∧ fs.hasDirectory p = true
      · rw [if_pos hthere] at h
        cases h
        exact hthere.2
      · rw [if_neg hthere] at h
        cases h

/-- The paths that `createDirectories` looks at: the path itself and paths above it, all of which
have parents. -/
theorem mem_ancestors_go {fuel : Nat} (h : q ∈ ancestors.go fuel p) :
    q.parent? ≠ none ∧ (q = p ∨ q.IsAbove p) := by
  induction fuel generalizing p with
  | zero => cases h
  | succ fuel ih =>
    rw [ancestors.go] at h
    cases hp : p.parent? with
    | none => rw [hp] at h; cases h
    | some above =>
      rw [hp] at h
      rcases List.mem_cons.1 h with rfl | h
      · exact ⟨by rw [hp]; simp, .inl rfl⟩
      · obtain ⟨hparent, rfl | habove⟩ := ih h
        · exact ⟨hparent, .inr (Path.isAbove_of_parent? hp hparent)⟩
        · refine ⟨hparent, .inr ?_⟩
          by_cases hnone : above.parent? = none
          · -- nothing but itself is above a path without a parent
            cases fuel with
            | zero => cases h
            | succ fuel => rw [ancestors.go, hnone] at h; cases h
          · exact habove.trans (Path.isAbove_of_parent? hp hnone)

/-- **Making the directory above a path** makes directories only where pieces of the path lead that
end before a slash. -/
theorem confined_createDirectories (fs : FileSystem) {directory : Path}
    (h : p.parent? = some directory) :
    Confined (fun _ => False) (fun loc => ∃ q : Path, q.IsAbove p ∧
      (fs.createDirectories directory).2.resolve q = .ok loc) fs
      (fs.createDirectories directory).2 := by
  refine (confined_createChain fs (ancestors directory)).imp (fun _ => id) ?_
  rintro loc ⟨q, hq, hr⟩
  obtain ⟨hparent, rfl | habove⟩ := mem_ancestors_go hq
  · exact ⟨q, Path.isAbove_of_parent? h hparent, hr⟩
  · refine ⟨q, ?_, hr⟩
    by_cases hnone : directory.parent? = none
    · rw [ancestors, ancestors.go, hnone] at hq; cases hq
    · exact habove.trans (Path.isAbove_of_parent? h hnone)

end EdgeCsv.FileSystem
