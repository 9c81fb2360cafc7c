import Mathlib.Tactic.Common
import EdgeCsv.FileSystem.Access

/-!
# What may change in a file system

`Confined writes makes fs fs'` says that nothing came about between `fs` and `fs'` but files written
at locations in `writes` and directories made at locations in `makes`: nothing was taken away, a
directory or a device stayed what it was, and the working directory is the same. Such changes follow
on each other (`Confined.trans`), and they leave paths alone: a path that led somewhere still leads
there (`Confined.resolve`). If no directory was made, it leads nowhere else either, except to a file
that was written (`Confined.untouched_or`).
-/

namespace EdgeCsv.FileSystem

variable {fs fs' fs'' : FileSystem} {loc loc' : Location} {e : Entry} {content : Bytes}
  {writes writes' makes makes' : Location → Prop}

/-! ## Looking up what was put -/

theorem lookup_root (fs : FileSystem) : fs.lookup [] = some .directory := rfl

theorem lookup_of_ne (fs : FileSystem) (h : loc ≠ []) : fs.lookup loc = fs.entries.lookup loc :=
  if_neg h

theorem lookup_assign (loc loc' : Location) (e : Entry) (table : List (Location × Entry)) :
    (assign loc e table).lookup loc' = if loc' = loc then some e else table.lookup loc' := by
  induction table with
  | nil =>
    by_cases h : loc' = loc <;> simp [assign, h]
  | cons entry rest ih =>
    obtain ⟨l, old⟩ := entry
    rw [assign]
    by_cases hl : l = loc
    · subst hl
      by_cases h : loc' = l
      · simp [h]
      · have hb : (loc' == l) = false := beq_eq_false_iff_ne.2 h
        simp [List.lookup_cons, h, hb]
    · rw [if_neg hl, List.lookup_cons, List.lookup_cons, ih]
      by_cases h : loc' = l
      · subst h; simp [hl]
      · have hb : (loc' == l) = false := beq_eq_false_iff_ne.2 h
        rw [hb]

theorem lookup_set_self (fs : FileSystem) (h : loc ≠ []) (e : Entry) :
    (fs.set loc e).lookup loc = some e := by
  rw [lookup_of_ne _ h, set, lookup_assign, if_pos rfl]

theorem lookup_set_ne (fs : FileSystem) (h : loc' ≠ loc) (e : Entry) :
    (fs.set loc e).lookup loc' = fs.lookup loc' := by
  by_cases hroot : loc' = []
  · subst hroot; rfl
  · rw [lookup_of_ne _ hroot, lookup_of_ne _ hroot, set, lookup_assign, if_neg h]

theorem assign_assign (loc : Location) (e e' : Entry) (table : List (Location × Entry)) :
    assign loc e' (assign loc e table) = assign loc e' table := by
  induction table with
  | nil => simp [assign]
  | cons entry rest ih =>
    obtain ⟨l, old⟩ := entry
    by_cases hl : l = loc
    · simp [assign, hl]
    · simp [assign, hl, ih]

@[simp]
theorem set_set (fs : FileSystem) (loc : Location) (e e' : Entry) :
    (fs.set loc e).set loc e' = fs.set loc e' := by
  simp only [set, assign_assign]

theorem assign_of_lookup {table : List (Location × Entry)} (h : table.lookup loc = some e) :
    assign loc e table = table := by
  induction table with
  | nil => cases h
  | cons entry rest ih =>
    obtain ⟨l, old⟩ := entry
    rw [List.lookup_cons] at h
    by_cases hl : l = loc
    · subst hl
      obtain rfl : old = e := by simpa using h
      rw [assign, if_pos rfl]
    · have hb : (loc == l) = false := beq_eq_false_iff_ne.2 (Ne.symm hl)
      rw [hb] at h
      rw [assign, if_neg hl, ih h]

/-- Putting what is there changes nothing. -/
theorem set_of_lookup (hloc : loc ≠ []) (h : fs.lookup loc = some e) : fs.set loc e = fs := by
  rw [lookup_of_ne _ hloc] at h
  rw [set, assign_of_lookup h]

/-! ## Confined changes -/

/-- What may become of the entry at one location, by whether a file may be written there and whether
a directory may be made there. -/
inductive Fate (mayWrite mayMake : Prop) : Option Entry → Option Entry → Prop
  /-- Nothing happened. -/
  | kept (e : Option Entry) : Fate mayWrite mayMake e e
  /-- A file got another content. -/
  | written (h : mayWrite) (old new : Bytes) :
    Fate mayWrite mayMake (some (.file old)) (some (.file new))
  /-- A file is new. -/
  | created (h : mayWrite) (content : Bytes) : Fate mayWrite mayMake none (some (.file content))
  /-- A directory is new. -/
  | made (h : mayMake) : Fate mayWrite mayMake none (some .directory)

/-- Nothing happened but files written at some locations and directories made at others. -/
structure Confined (writes makes : Location → Prop) (fs fs' : FileSystem) : Prop where
  cwd_eq : fs'.cwd = fs.cwd
  fate : ∀ loc, Fate (writes loc) (makes loc) (fs.lookup loc) (fs'.lookup loc)

theorem Fate.imp {w w' m m' : Prop} {a b : Option Entry} (hw : w → w') (hm : m → m')
    (h : Fate w m a b) : Fate w' m' a b := by
  cases h with
  | kept => exact .kept _
  | written h old new => exact .written (hw h) old new
  | created h content => exact .created (hw h) content
  | made h => exact .made (hm h)

theorem Fate.trans {w m : Prop} {a b c : Option Entry} (h : Fate w m a b) (h' : Fate w m b c) :
    Fate w m a c := by
  cases h with
  | kept => exact h'
  | written hw old new =>
    cases h' with
    | kept => exact .written hw old new
    | written _ _ new' => exact .written hw old new'
  | created hw content =>
    cases h' with
    | kept => exact .created hw content
    | written _ _ new => exact .created hw new
  | made hm =>
    cases h' with
    | kept => exact .made hm

namespace Confined

theorem refl (writes makes : Location → Prop) (fs : FileSystem) : Confined writes makes fs fs :=
  ⟨rfl, fun _ => .kept _⟩

theorem imp (hw : ∀ loc, writes loc → writes' loc) (hm : ∀ loc, makes loc → makes' loc)
    (h : Confined writes makes fs fs') : Confined writes' makes' fs fs' :=
  ⟨h.cwd_eq, fun loc => (h.fate loc).imp (hw loc) (hm loc)⟩

theorem trans (h : Confined writes makes fs fs') (h' : Confined writes makes fs' fs'') :
    Confined writes makes fs fs'' :=
  ⟨h'.cwd_eq.trans h.cwd_eq, fun loc => (h.fate loc).trans (h'.fate loc)⟩

theorem andThen (h : Confined writes makes fs fs') (h' : Confined writes' makes' fs' fs'') :
    Confined (fun loc => writes loc ∨ writes' loc) (fun loc => makes loc ∨ makes' loc) fs fs'' :=
  (h.imp (fun _ => .inl) fun _ => .inl).trans (h'.imp (fun _ => .inr) fun _ => .inr)

/-- Where nothing may be written or made, nothing changed. -/
theorem lookup_eq (h : Confined writes makes fs fs') (hw : ¬ writes loc) (hm : ¬ makes loc) :
    fs'.lookup loc = fs.lookup loc := by
  have hfate := h.fate loc
  generalize fs.lookup loc = a at hfate ⊢
  generalize fs'.lookup loc = b at hfate ⊢
  cases hfate with
  | kept => rfl
  | written h => exact absurd h hw
  | created h => exact absurd h hw
  | made h => exact absurd h hm

/-- An entry where nothing may be written stays. -/
theorem lookup_of_some (h : Confined writes makes fs fs') (hw : ¬ writes loc)
    (hl : fs.lookup loc = some e) : fs'.lookup loc = some e := by
  have hfate := h.fate loc
  rw [hl] at hfate
  generalize fs'.lookup loc = b at hfate ⊢
  cases hfate with
  | kept => rfl
  | written h => exact absurd h hw

theorem isSome (h : Confined writes makes fs fs') (hl : (fs.lookup loc).isSome) :
    (fs'.lookup loc).isSome := by
  have hfate := h.fate loc
  generalize fs.lookup loc = a at hfate hl
  generalize fs'.lookup loc = b at hfate ⊢
  cases hfate with
  | kept => exact hl
  | written => rfl
  | created => rfl
  | made => rfl

/-- What is not a file stays what it was. -/
theorem lookup_of_ne_file (h : Confined writes makes fs fs') (he : ∀ content, e ≠ .file content)
    (hl : fs.lookup loc = some e) : fs'.lookup loc = some e := by
  have hfate := h.fate loc
  rw [hl] at hfate
  generalize fs'.lookup loc = b at hfate ⊢
  cases hfate with
  | kept => rfl
  | written h old new => exact absurd rfl (he old)

theorem directory (h : Confined writes makes fs fs') (hl : fs.lookup loc = some .directory) :
    fs'.lookup loc = some .directory :=
  h.lookup_of_ne_file nofun hl

theorem device {kind : Device} (h : Confined writes makes fs fs')
    (hl : fs.lookup loc = some (.device kind)) : fs'.lookup loc = some (.device kind) :=
  h.lookup_of_ne_file nofun hl

/-- A file is still a file. -/
theorem file {old : Bytes} (h : Confined writes makes fs fs')
    (hl : fs.lookup loc = some (.file old)) : ∃ new, fs'.lookup loc = some (.file new) := by
  have hfate := h.fate loc
  rw [hl] at hfate
  generalize fs'.lookup loc = e at hfate ⊢
  cases hfate with
  | kept => exact ⟨old, rfl⟩
  | written _ _ new => exact ⟨new, rfl⟩

end Confined

/-- A file may be written where there is none, or where a file is. -/
def MayHoldFile (fs : FileSystem) (loc : Location) : Prop :=
  fs.lookup loc = none ∨ ∃ old, fs.lookup loc = some (.file old)

theorem MayHoldFile.ne_nil (h : fs.MayHoldFile loc) : loc ≠ [] := by
  rintro rfl
  rcases h with h | ⟨old, h⟩
  · rw [lookup_root] at h; cases h
  · rw [lookup_root] at h; cases h

theorem confined_set_file (h : fs.MayHoldFile loc) (content : Bytes) :
    Confined (· = loc) (fun _ => False) fs (fs.set loc (.file content)) := by
  refine ⟨rfl, fun loc' => ?_⟩
  by_cases hl : loc' = loc
  · subst hl
    rw [lookup_set_self _ h.ne_nil]
    rcases h with h | ⟨old, h⟩
    · rw [h]; exact .created rfl content
    · rw [h]; exact .written rfl old content
  · rw [lookup_set_ne _ hl]; exact .kept _

theorem confined_set_directory (h : fs.lookup loc = none) :
    Confined (fun _ => False) (· = loc) fs (fs.set loc .directory) := by
  refine ⟨rfl, fun loc' => ?_⟩
  by_cases hl : loc' = loc
  · subst hl
    have hne : loc' ≠ [] := by rintro rfl; rw [lookup_root] at h; cases h
    rw [lookup_set_self _ hne, h]
    exact .made rfl
  · rw [lookup_set_ne _ hl]; exact .kept _

/-! ## Paths lead where they led -/

theorem requireDirectory_eq_ok :
    fs.requireDirectory loc = .ok () ↔ fs.lookup loc = some .directory := by
  unfold requireDirectory
  cases h : fs.lookup loc with
  | none => simp
  | some e => cases e <;> simp

/-- What following one part of a path takes, and where it leads. -/
theorem follow_eq_ok {part : Bytes} :
    fs.follow loc part = .ok loc' ↔ fs.lookup loc = some .directory ∧
      (Path.isIdle part = true ∧ loc' = loc ∨
        Path.isIdle part = false ∧ part = Path.dotDot ∧ loc' = loc.tail ∨
        Path.isIdle part = false ∧ part ≠ Path.dotDot ∧ part.length ≤ maxName ∧
          (fs.lookup (part :: loc)).isSome ∧ loc' = part :: loc) := by
  rw [← requireDirectory_eq_ok]
  unfold follow
  cases hdir : fs.requireDirectory loc with
  | error e => simp [bind, Except.bind]
  | ok u =>
    simp only [bind, Except.bind, true_and]
    by_cases hidle : Path.isIdle part = true
    · simp only [hidle, if_true, Except.ok.injEq, true_and, Bool.true_eq_false, false_and, or_false]
      exact eq_comm
    by_cases hup : part = Path.dotDot
    · subst hup
      simp only [hidle, if_true, Except.ok.injEq, true_and, false_and, ne_eq, not_true,
        and_false, or_false, false_or, Bool.false_eq_true, if_false]
      exact eq_comm
    by_cases hlen : maxName < part.length
    · simp only [hidle, hup, hlen, Nat.not_le.2 hlen, if_false, if_true, reduceCtorEq, false_and,
        and_false, or_self, Bool.false_eq_true]
    · cases h : fs.lookup (part :: loc) with
      | none => simp [hidle, hup, hlen]
      | some e =>
        simp only [hidle, hup, hlen, Nat.not_lt.1 hlen, if_false, Except.ok.injEq, false_and,
          Option.isSome_some, true_and, false_or, ne_eq, not_false_eq_true, Bool.false_eq_true]
        exact eq_comm

theorem followAll_nil : fs.followAll loc [] = .ok loc' ↔ loc' = loc := by
  simp [followAll, pure, Except.pure, eq_comm]

theorem followAll_cons {part : Bytes} {parts : List Bytes} :
    fs.followAll loc (part :: parts) = .ok loc' ↔
      ∃ next, fs.follow loc part = .ok next ∧ fs.followAll next parts = .ok loc' := by
  simp only [followAll, List.foldlM_cons]
  cases fs.follow loc part <;> simp [bind, Except.bind]

theorem followAll_append {before after : List Bytes} :
    fs.followAll loc (before ++ after) = .ok loc' ↔
      ∃ next, fs.followAll loc before = .ok next ∧ fs.followAll next after = .ok loc' := by
  simp only [followAll, List.foldlM_append]
  cases List.foldlM fs.follow loc before <;> simp [bind, Except.bind]

theorem followAll_append_of_ok {before : List Bytes} (h : fs.followAll loc before = .ok loc')
    (after : List Bytes) :
    fs.followAll loc (before ++ after) = fs.followAll loc' after := by
  unfold followAll at h ⊢
  rw [List.foldlM_append, h]
  rfl

theorem precheck_eq_ok {p : Path} :
    precheck p = .ok () ↔ 0 ∉ p.bytes ∧ p.bytes ≠ [] ∧ p.bytes.length ≤ maxPath := by
  unfold precheck
  by_cases hzero : 0 ∈ p.bytes
  · simp [hzero]
  by_cases hnil : p.bytes = []
  · simp [hnil]
  by_cases hlen : maxPath < p.bytes.length
  · simp [hzero, hnil, hlen]
  · simp [hzero, hnil, hlen, Nat.not_lt.1 hlen]

theorem resolve_eq_ok {p : Path} :
    fs.resolve p = .ok loc ↔
      precheck p = .ok () ∧ fs.followAll (fs.origin p) p.parts = .ok loc := by
  unfold resolve
  cases precheck p <;> simp [bind, Except.bind]

namespace Confined

theorem follow {part : Bytes} (h : Confined writes makes fs fs')
    (hf : fs.follow loc part = .ok loc') : fs'.follow loc part = .ok loc' := by
  rw [follow_eq_ok] at hf ⊢
  obtain ⟨hdir, hidle | hup | ⟨hpart, hne, hlen, hsome, rfl⟩⟩ := hf
  · exact ⟨h.directory hdir, .inl hidle⟩
  · exact ⟨h.directory hdir, .inr (.inl hup)⟩
  · exact ⟨h.directory hdir, .inr (.inr ⟨hpart, hne, hlen, h.isSome hsome, rfl⟩)⟩

theorem followAll {parts : List Bytes} (h : Confined writes makes fs fs')
    (hf : fs.followAll loc parts = .ok loc') : fs'.followAll loc parts = .ok loc' := by
  induction parts generalizing loc with
  | nil => rw [followAll_nil] at hf ⊢; exact hf
  | cons part parts ih =>
    rw [followAll_cons] at hf ⊢
    obtain ⟨next, hnext, hrest⟩ := hf
    exact ⟨next, h.follow hnext, ih hrest⟩

theorem origin_eq (h : Confined writes makes fs fs') (p : Path) : fs'.origin p = fs.origin p := by
  unfold origin
  rw [h.cwd_eq]

/-- **A path leads where it led.** -/
theorem resolve {p : Path} (h : Confined writes makes fs fs') (hp : fs.resolve p = .ok loc) :
    fs'.resolve p = .ok loc := by
  rw [resolve_eq_ok] at hp ⊢
  rw [h.origin_eq]
  exact ⟨hp.1, h.followAll hp.2⟩

theorem directory_iff (h : Confined writes (fun _ => False) fs fs') :
    fs'.lookup loc = some .directory ↔ fs.lookup loc = some .directory := by
  refine ⟨fun hl => ?_, h.directory⟩
  have hfate := h.fate loc
  rw [hl] at hfate
  generalize fs.lookup loc = e at hfate ⊢
  cases hfate with
  | kept => rfl
  | made no => exact no.elim

theorem followAll_of_not_written {parts : List Bytes} (h : Confined writes (fun _ => False) fs fs')
    (hf : fs'.followAll loc parts = .ok loc') (hw : ¬ writes loc') :
    fs.followAll loc parts = .ok loc' := by
  induction parts generalizing loc with
  | nil => rw [followAll_nil] at hf ⊢; exact hf
  | cons part parts ih =>
    rw [followAll_cons] at hf ⊢
    obtain ⟨next, hnext, hrest⟩ := hf
    refine ⟨next, ?_, ih hrest⟩
    -- what the part leads to is a directory that was there, or the end
    have hthere : (fs'.lookup next).isSome → (fs.lookup next).isSome := by
      intro hsome
      cases parts with
      | nil =>
        obtain rfl := followAll_nil.1 hrest
        rw [← h.lookup_eq hw id]
        exact hsome
      | cons part' parts =>
        obtain ⟨_, hfollow, -⟩ := followAll_cons.1 hrest
        rw [h.directory_iff.1 (follow_eq_ok.1 hfollow).1]
        rfl
    rw [follow_eq_ok] at hnext ⊢
    obtain ⟨hdir, hidle | hup | ⟨hpart, hne, hlen, hsome, rfl⟩⟩ := hnext
    · exact ⟨h.directory_iff.1 hdir, .inl hidle⟩
    · exact ⟨h.directory_iff.1 hdir, .inr (.inl hup)⟩
    · exact ⟨h.directory_iff.1 hdir, .inr (.inr ⟨hpart, hne, hlen, hthere hsome, rfl⟩)⟩

end Confined

/-- A path that leads to the same entry as before, or to none as before. -/
def Untouched (fs fs' : FileSystem) (p : Path) : Prop :=
  ∀ loc e, fs'.resolve p = .ok loc ∧ fs'.lookup loc = some e ↔
    fs.resolve p = .ok loc ∧ fs.lookup loc = some e

/-- **Where only files were written, a path is untouched** unless it leads to one of them. -/
theorem Confined.untouched_or (h : Confined writes (fun _ => False) fs fs') (p : Path) :
    Untouched fs fs' p ∨ ∃ loc, fs'.resolve p = .ok loc ∧ writes loc := by
  by_cases hwritten : ∃ loc, fs'.resolve p = .ok loc ∧ writes loc
  · exact .inr hwritten
  have hnot : ∀ loc, fs'.resolve p = .ok loc → ¬ writes loc :=
    fun loc hp hw => hwritten ⟨loc, hp, hw⟩
  refine .inl fun loc e => ⟨?_, ?_⟩
  · -- no step of the way there is new
    rintro ⟨hp, hl⟩
    have hw := hnot loc hp
    obtain ⟨hcheck, hfollow⟩ := resolve_eq_ok.1 hp
    rw [h.origin_eq] at hfollow
    rw [h.lookup_eq hw id] at hl
    exact ⟨resolve_eq_ok.2 ⟨hcheck, h.followAll_of_not_written hfollow hw⟩, hl⟩
  · rintro ⟨hp, hl⟩
    exact ⟨h.resolve hp, h.lookup_of_some (hnot loc (h.resolve hp)) hl⟩

end EdgeCsv.FileSystem
