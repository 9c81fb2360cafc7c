import EdgeCsv.Proofs.FileSystem.Access

/-!
# Trees

A table may hold anything at any location. In a tree, whatever stands anywhere stands in a directory
(`IsTree`). Every operation keeps that up: it puts entries into directories only, and never takes a
directory away or puts something in its place.

* `isTree_of_entries`: whether a file system is a tree can be read off its table.
* `IsTree.set`: one entry that is put into a directory.
* `IsTree.create`, `IsTree.append`, `IsTree.write`: files.
* `IsTree.createDirectories`: directories, whether or not making them fails in between.
* `IsTree.remove`: files that are taken away.
-/

namespace EdgeCsv.FileSystem

variable {fs fs' : FileSystem} {loc loc' : Location} {p : Path} {e : Entry}

/-- Whatever stands anywhere stands in a directory. -/
def IsTree (fs : FileSystem) : Prop :=
  ∀ loc, (fs.lookup loc).isSome → fs.lookup loc.tail = some .directory

theorem isTree_of_entries
    (h : ∀ entry ∈ fs.entries, fs.lookup entry.1.tail = some .directory) : fs.IsTree := by
  intro loc hloc
  by_cases hroot : loc = []
  · subst hroot; rfl
  · rw [lookup_of_ne _ hroot] at hloc
    obtain ⟨e, he⟩ := Option.isSome_iff_exists.1 hloc
    obtain ⟨before, after, hentries, -⟩ := List.lookup_eq_some_iff.1 he
    exact h (loc, e) (by rw [hentries]; simp)

theorem MayHoldFile.ne_directory (h : fs.MayHoldFile loc) : fs.lookup loc ≠ some .directory := by
  rcases h with h | ⟨old, h⟩ <;> rw [h] <;> simp

/-- Taking an entry away, as seen from each location. -/
theorem lookup_erase (fs : FileSystem) (hloc : loc ≠ []) (loc' : Location) :
    (fs.erase loc).lookup loc' = if loc' = loc then none else fs.lookup loc' := by
  by_cases hroot : loc' = []
  · subst hroot
    rw [if_neg hloc.symm]
    rfl
  rw [lookup_of_ne _ hroot, lookup_of_ne _ hroot, erase]
  induction fs.entries with
  | nil => simp
  | cons entry rest ih =>
    obtain ⟨l, old⟩ := entry
    by_cases hl : l = loc
    · subst hl
      rw [List.filter_cons_of_neg (by simp), ih, List.lookup_cons]
      by_cases h : loc' = l
      · rw [if_pos h, if_pos h]
      · rw [if_neg h, if_neg h, beq_eq_false_iff_ne.2 h]
    · rw [List.filter_cons_of_pos (by simpa using hl), List.lookup_cons, List.lookup_cons, ih]
      by_cases h : loc' = l
      · subst h
        simp [hl]
      · rw [beq_eq_false_iff_ne.2 h]

/-- What is taken away is no directory. -/
theorem remove_eq_ok (h : fs.remove p = .ok fs') :
    ∃ loc, loc ≠ [] ∧ fs.lookup loc ≠ some .directory ∧ fs' = fs.erase loc := by
  unfold remove at h
  cases hslot : fs.slot p with
  | error e => rw [hslot] at h; cases h
  | ok slot =>
    rw [hslot] at h
    simp only [bind, Except.bind] at h
    cases slot with
    | root => cases h
    | idle => cases h
    | name directory name slashed =>
      simp only at h
      by_cases hlen : maxName < name.length
      · rw [if_pos hlen] at h; cases h
      rw [if_neg hlen] at h
      refine ⟨name :: directory, by simp, fun hl => ?_, ?_⟩
      · rw [hl] at h; cases h
      · split at h
        · cases h
        · cases h
        · cases slashed <;> cases h
          rfl

namespace IsTree

/-- **An entry that is put into a directory**, and not in place of one. -/
theorem set (h : fs.IsTree) (hdir : fs.lookup loc.tail = some .directory)
    (hl : fs.lookup loc ≠ some .directory) : (fs.set loc e).IsTree := by
  have habove : loc.tail ≠ loc := fun heq => hl (heq ▸ hdir)
  intro other hother
  by_cases hsame : other = loc
  · subst hsame
    rw [lookup_set_ne _ habove]
    exact hdir
  · rw [lookup_set_ne _ hsame] at hother
    have htail := h other hother
    -- it stands in a directory, and no directory was replaced
    have hother' : other.tail ≠ loc := fun heq => hl (heq ▸ htail)
    rw [lookup_set_ne _ hother']
    exact htail

theorem create (h : fs.IsTree) (hcreate : fs.create p = .ok (loc, fs')) : fs'.IsTree := by
  obtain ⟨⟨directory, name, rfl, -, hslot⟩, ⟨hmay, rfl⟩ | ⟨-, rfl⟩⟩ := create_eq_ok hcreate
  · obtain ⟨-, hdir, -⟩ := slot_eq_name hslot
    exact h.set hdir hmay.ne_directory
  · exact h

theorem append (h : fs.IsTree) (loc : Location) (bytes : Bytes) :
    (fs.append loc bytes).2.IsTree := by
  unfold FileSystem.append
  split
  · rename_i content hl
    exact h.set (h loc (by rw [hl]; rfl)) (by rw [hl]; simp)
  · exact h
  · exact h

theorem write (h : fs.IsTree) (p : Path) (content : Bytes) : (fs.write p content).2.IsTree := by
  unfold FileSystem.write
  cases hcreate : fs.create p with
  | error e => exact h
  | ok created => exact (h.create hcreate).append created.1 content

theorem makeDirectory (h : fs.IsTree) (hmake : fs.makeDirectory p = .ok fs') : fs'.IsTree := by
  obtain ⟨directory, name, slashed, hslot, -, hl, rfl⟩ := makeDirectory_eq_ok hmake
  obtain ⟨-, hdir, -⟩ := slot_eq_name hslot
  exact h.set hdir (by rw [hl]; simp)

theorem remakeDirectory (h : fs.IsTree) (p : Path) : (fs.remakeDirectory p).2.IsTree := by
  unfold FileSystem.remakeDirectory
  cases hmake : fs.makeDirectory p with
  | error e => exact h
  | ok fs' => exact h.makeDirectory hmake

theorem createChain (h : fs.IsTree) (chain : List Path) : (fs.createChain chain).2.IsTree := by
  induction chain with
  | nil => exact h
  | cons p above ih =>
    rw [FileSystem.createChain]
    cases hmake : fs.makeDirectory p with
    | ok fs' => exact h.makeDirectory hmake
    | error e =>
      simp only
      by_cases he : e = .notFound
      · rw [if_pos he]
        cases hchain : fs.createChain above with
        | mk failure fs' =>
          rw [hchain] at ih
          cases failure with
          | some e' => exact ih
          | none => exact ih.remakeDirectory p
      · rw [if_neg he]
        split
        · exact h
        · exact h

/-- **Making directories**, all of them or only some. -/
theorem createDirectories (h : fs.IsTree) (p : Path) : (fs.createDirectories p).2.IsTree :=
  h.createChain _

/-- **Taking a file away.** Nothing can have stood in it. -/
theorem remove (h : fs.IsTree) (hremove : fs.remove p = .ok fs') : fs'.IsTree := by
  obtain ⟨loc, hloc, hl, rfl⟩ := remove_eq_ok hremove
  intro other hother
  rw [lookup_erase _ hloc] at hother
  by_cases hsame : other = loc
  · rw [if_pos hsame] at hother
    cases hother
  · rw [if_neg hsame] at hother
    have htail := h other hother
    -- it stands in a directory, and what was taken away is none
    have hother' : other.tail ≠ loc := fun heq => hl (heq ▸ htail)
    rw [lookup_erase _ hloc, if_neg hother']
    exact htail

end IsTree

end EdgeCsv.FileSystem
