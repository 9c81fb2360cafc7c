import EdgeCsv.Proofs.Row.Fields

/-!
# Indices in labels

An index is written into a label as often as the label has markers, and it can be read off the
rewritten label again if there is at least one.

* `length_replaceMarker`: what replacing the markers does to the length of a label.
* `replaceMarker_inj`: in a label with a marker, different replacements make a difference.
* `ofLine_tells_indices_apart`: so lines that differ in their index have different rows.
* `replaceMarker_append`, `replaceMarker_append_of_split`: the markers of a label can be replaced in
  pieces of it, unless it was cut inside a marker.
-/

namespace EdgeCsv.Row

variable {line label piece a b r r' : Bytes}

/-! ## How many markers a label has -/

/-- The number of places in a label at which a marker stands. -/
def markerCount (label : Bytes) : Nat :=
  label.tails.countP (marker <+: ·)

theorem markerCount_cons (b : UInt8) (rest : Bytes) :
    markerCount (b :: rest) =
      markerCount rest + if b = underscore ∧ rest.head? = some letterI then 1 else 0 := by
  unfold markerCount
  rw [List.tails_cons, List.countP_cons]
  simp only [decide_eq_true_eq, marker_prefix_cons]

theorem markerCount_pos_iff : 0 < markerCount label ↔ marker <:+: label := by
  unfold markerCount
  rw [List.countP_pos_iff, List.infix_iff_prefix_suffix]
  simp only [List.mem_tails, decide_eq_true_eq, and_comm]

/-- **The length of a rewritten label.** Each marker gives up its two bytes for those of the
replacement. -/
theorem length_replaceMarker (r label : Bytes) :
    (replaceMarker r label).length + markerCount label * 2 =
      label.length + markerCount label * r.length := by
  fun_induction replaceMarker r label with
  | case1 => simp [markerCount, marker]
  | case2 b => simp [markerCount, marker]
  | case3 b b' rest hm ih =>
    -- the two bytes are one marker, for none begins with the second of them
    obtain ⟨rfl, rfl⟩ := hm
    have hne : letterI ≠ underscore := by decide
    have hcount : markerCount (underscore :: letterI :: rest) = markerCount rest + 1 := by
      rw [markerCount_cons, markerCount_cons]
      simp [hne]
    rw [hcount, List.length_append, Nat.succ_mul, Nat.succ_mul]
    simp only [List.length_cons]
    omega
  | case4 b b' rest hm ih =>
    have hcount : markerCount (b :: b' :: rest) = markerCount (b' :: rest) := by
      rw [markerCount_cons]
      simp [hm]
    rw [hcount, List.length_cons, List.length_cons]
    omega

/-! ## Replacements told apart -/

/-- Texts that replace the markers of a label and give the same text are of the same length. -/
theorem length_eq_of_replaceMarker (hm : marker <:+: label)
    (h : replaceMarker r label = replaceMarker r' label) : r.length = r'.length := by
  have hlen := congrArg List.length h
  have hr := length_replaceMarker r label
  have hr' := length_replaceMarker r' label
  have hmul : markerCount label * r.length = markerCount label * r'.length := by omega
  exact Nat.eq_of_mul_eq_mul_left (markerCount_pos_iff.2 hm) hmul

/-- **Different replacements make a difference**, wherever there is a marker. -/
theorem replaceMarker_inj (hm : marker <:+: label) :
    replaceMarker r label = replaceMarker r' label ↔ r = r' := by
  constructor
  · intro h
    have hlen := length_eq_of_replaceMarker hm h
    -- behind what stands before the first marker, both texts begin with their replacement
    obtain ⟨before, after, rfl, hbefore⟩ := exists_first_marker hm
    rw [replaceMarker_append_marker r after hbefore,
      replaceMarker_append_marker r' after hbefore] at h
    have hbehind := List.append_cancel_left h
    exact (List.append_inj hbehind hlen).1
  · intro h
    rw [h]

/-- A marker in a field of a line is one in the line. -/
theorem marker_infix_of_mem_rawFields (h : piece ∈ rawFields line) (hm : marker <:+: piece) :
    marker <:+: line := by
  have hcomma : comma ∉ marker := by decide
  have hjoined : [comma].intercalate (rawFields line) = normalize line := by
    rw [← fields_normalize]
    exact List.intercalate_splitOn comma
  have hin := (marker_infix_intercalate hcomma).2 ⟨piece, h, hm⟩
  rw [hjoined] at hin
  exact (marker_infix_normalize line).1 hin

/-- Rows with the same ends and the same label are told apart by their index. -/
theorem bytes_indexed_inj (source target index index' : Bytes) (hm : marker <:+: label) :
    (indexed source target label index).bytes = (indexed source target label index').bytes ↔
      index = index' := by
  unfold indexed
  rw [List.append_cancel_left_eq, List.cons_inj_right, replaceMarker_inj hm, List.cons_inj_right]

/-- **Indices stay distinct.** Different texts put in the place of the markers of a label give
different labels, if there is a marker at all. So two lines with an index each, the same first two
fields and the same label, which has a marker, both have rows, and the rows are the same exactly if
the indices are. -/
theorem ofLine_tells_indices_apart (hm : marker <:+: label) :
    (∀ r r' : Bytes, replaceMarker r label = replaceMarker r' label ↔ r = r') ∧
    ∀ line line' source target index index' more more',
      rawFields line = source :: target :: label :: index :: more →
      rawFields line' = source :: target :: label :: index' :: more' →
      ∃ row row', ofLine line = .ok row ∧ ofLine line' = .ok row' ∧
        (row = row' ↔ index = index') ∧ (row.bytes = row'.bytes ↔ index = index') := by
  refine ⟨fun r r' => replaceMarker_inj hm, ?_⟩
  intro line line' source target index index' more more' hf hf'
  have hline : marker <:+: line := marker_infix_of_mem_rawFields (by rw [hf]; simp) hm
  have hline' : marker <:+: line' := marker_infix_of_mem_rawFields (by rw [hf']; simp) hm
  have hbytes := bytes_indexed_inj source target index index' hm
  refine ⟨_, _, ofLine_of_marker hline hf, ofLine_of_marker hline' hf', ?_, hbytes⟩
  constructor
  · intro h
    exact hbytes.1 (congrArg Row.bytes h)
  · intro h
    rw [h]

/-- A label with two markers and an `i` behind the first, in two lines spelled differently: the
indices `1` and `11` stay apart. -/
theorem ofLine_tells_indices_apart_two_markers :
    let label := Bytes.ofString "a_ii_i"
    replaceMarker (Bytes.ofString "_1") label ≠ replaceMarker (Bytes.ofString "_11") label ∧
      ∃ row row', ofLine (Bytes.ofString "1 2 a_ii_i 1") = .ok row ∧
        ofLine (Bytes.ofString "1\t2,a_ii_i 11 x") = .ok row' ∧ row ≠ row' := by
  intro label
  have hm : marker <:+: label := by decide
  obtain ⟨hlabel, hlines⟩ := ofLine_tells_indices_apart hm
  refine ⟨fun h => absurd ((hlabel _ _).1 h) (by decide), ?_⟩
  obtain ⟨row, row', hrow, hrow', hsame, -⟩ := hlines (Bytes.ofString "1 2 a_ii_i 1")
    (Bytes.ofString "1\t2,a_ii_i 11 x") (Bytes.ofString "1") (Bytes.ofString "2")
    (Bytes.ofString "1") (Bytes.ofString "11") [] [Bytes.ofString "x"] (by decide) (by decide)
  exact ⟨row, row', hrow, hrow', fun h => absurd (hsame.1 h) (by decide)⟩

/-! ## Labels put together -/

/-- Whether a marker comes about where two texts are put together: its first byte ends the one and
its second byte begins the other. -/
def SplitsMarker (a b : Bytes) : Prop :=
  a.getLast? = some underscore ∧ b.head? = some letterI

/-- **A text can be cut anywhere but inside a marker**, and its markers replaced in each piece. -/
theorem replaceMarker_append (r : Bytes) (h : ¬ SplitsMarker a b) :
    replaceMarker r (a ++ b) = replaceMarker r a ++ replaceMarker r b := by
  fun_induction replaceMarker r a with
  | case1 => rfl
  | case2 x =>
    have hhead : ¬ (x = underscore ∧ b.head? = some letterI) := by
      simpa [SplitsMarker] using h
    exact replaceMarker_cons_of_not_marker r hhead
  | case3 x y rest hm ih =>
    obtain ⟨rfl, rfl⟩ := hm
    have hrest : ¬ SplitsMarker rest b := by
      rintro ⟨hlast, hhead⟩
      obtain ⟨front, rfl⟩ := List.getLast?_eq_some_iff.1 hlast
      exact h ⟨List.getLast?_eq_some_iff.2 ⟨underscore :: letterI :: front, rfl⟩, hhead⟩
    have hfirst : replaceMarker r (underscore :: letterI :: (rest ++ b)) =
        r ++ replaceMarker r (rest ++ b) := if_pos ⟨rfl, rfl⟩
    rw [List.cons_append, List.cons_append, hfirst, ih hrest, List.append_assoc]
  | case4 x y rest hm ih =>
    have hrest : ¬ SplitsMarker (y :: rest) b := by
      rintro ⟨hlast, hhead⟩
      exact h ⟨by rw [List.getLast?_cons_cons]; exact hlast, hhead⟩
    have hfirst : ¬ (x = underscore ∧ (y :: rest ++ b).head? = some letterI) := by simpa using hm
    rw [List.cons_append, replaceMarker_cons_of_not_marker r hfirst, ih hrest, List.cons_append]

/-- Replacing each marker by a marker changes nothing. -/
theorem replaceMarker_marker (label : Bytes) : replaceMarker marker label = label := by
  obtain ⟨pieces, hcut⟩ := exists_cutAtMarkers label
  rw [replaceMarker_intercalate marker hcut, hcut.joined]

/-- **A text cut inside a marker.** Together the two pieces have a marker that neither has alone:
between what they come to, the replacement stands in place of the marker. -/
theorem replaceMarker_append_of_split (r : Bytes) (h : SplitsMarker a b) :
    ∃ before after, replaceMarker r (a ++ b) = before ++ (r ++ after) ∧
      replaceMarker r a ++ replaceMarker r b = before ++ (marker ++ after) := by
  obtain ⟨hlast, hhead⟩ := h
  obtain ⟨front, rfl⟩ := List.getLast?_eq_some_iff.1 hlast
  obtain ⟨rest, rfl⟩ := List.head?_eq_some_iff.1 hhead
  have hne : letterI ≠ underscore := by decide
  -- an underscore begins both what is behind the front in the first piece and the marker
  have hfront : ∀ more, ¬ SplitsMarker front (underscore :: more) := by
    rintro more ⟨-, hstart⟩
    simp [hne.symm] at hstart
  have hmarker : replaceMarker r (underscore :: letterI :: rest) = r ++ replaceMarker r rest :=
    if_pos ⟨rfl, rfl⟩
  have hrest : replaceMarker r (letterI :: rest) = letterI :: replaceMarker r rest :=
    replaceMarker_cons_of_not_marker r (by simp [hne])
  refine ⟨replaceMarker r front, replaceMarker r rest, ?_, ?_⟩
  · rw [List.append_assoc, List.singleton_append, replaceMarker_append r (hfront _), hmarker]
  · rw [replaceMarker_append r (hfront []), hrest, List.append_assoc]
    rfl

/-- **Replacing markers piece by piece.** Two pieces of a label can be rewritten apart exactly if no
marker is split between them, or if markers are replaced by markers. That leaves every label as it
is. In general a label changes its length by that of the replacement for each place where a marker
stands, and by the two bytes of the marker. -/
theorem replaceMarker_piecewise (r a b label : Bytes) :
    (replaceMarker r (a ++ b) = replaceMarker r a ++ replaceMarker r b ↔
      ¬ SplitsMarker a b ∨ r = marker) ∧
    replaceMarker marker label = label ∧
    ((replaceMarker r label).length : Int) =
      label.length + markerCount label * r.length - 2 * markerCount label := by
  refine ⟨?_, replaceMarker_marker label, ?_⟩
  · by_cases hsplit : SplitsMarker a b
    · obtain ⟨before, after, htogether, hapart⟩ := replaceMarker_append_of_split r hsplit
      rw [htogether, hapart, List.append_cancel_left_eq, List.append_cancel_right_eq]
      simp [hsplit]
    · simp [hsplit, replaceMarker_append r hsplit]
  · have hlength := length_replaceMarker r label
    have hcast := congrArg (Nat.cast (R := Int)) hlength
    push_cast at hcast
    omega

end EdgeCsv.Row
