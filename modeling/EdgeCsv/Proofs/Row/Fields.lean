import Mathlib.Data.List.Infix
import EdgeCsv.Proofs.Row

/-!
# The fields of a row

A row is described by the pieces of its line between tabs, spaces and commas (`rawFields`), and a
rewritten label by the pieces of the label between its markers (`CutAtMarkers`).

* `replaceMarker_intercalate`: to replace the markers of a label is to join the pieces between them
  by the replacement.
* `ofLine_by_fields`: the row of a line, or the number of fields of a malformed one, from the fields
  of the line.
* `marker_infix_replaceMarker`: when a marker comes about at the seams of a rewritten label.
* `ofLine_again`: a row that is taken for a line again stays as it is or lacks its index.
-/

namespace EdgeCsv.Row

variable {line label index piece rest : Bytes} {row : Row} {b : UInt8} {pieces : List Bytes}

/-! ## Splitting a line -/

/-- Whether a byte separates two fields of a line. -/
def isSeparator (b : UInt8) : Bool :=
  isBlank b || b = comma

/-- The pieces of a line between its tabs, spaces and commas. -/
def rawFields (line : Bytes) : List Bytes :=
  line.splitOnP isSeparator

theorem fields_normalize (line : Bytes) : fields (normalize line) = rawFields line := by
  unfold fields rawFields
  induction line with
  | nil => rfl
  | cons b rest ih =>
    rw [normalize_cons, List.splitOn_cons_eq_if_modifyHead, List.splitOnP_cons_eq_if_modifyHead, ih]
    by_cases hb : isBlank b = true
    · simp [isSeparator, hb]
    · simp [isSeparator, hb]

theorem length_rawFields (line : Bytes) :
    (rawFields line).length = line.countP isSeparator + 1 := by
  unfold rawFields
  induction line with
  | nil => rfl
  | cons b rest ih =>
    rw [List.splitOnP_cons_eq_if_modifyHead, List.countP_cons]
    by_cases hb : isSeparator b = true
    · rw [if_pos hb, if_pos hb, List.length_cons, ih]
    · rw [if_neg hb, if_neg hb, List.length_modifyHead, ih]

/-- A field holds no separator. -/
theorem isSeparator_of_mem_rawFields (h : piece ∈ rawFields line) (hb : b ∈ piece) :
    isSeparator b = false := by
  rw [← fields_normalize] at h
  obtain ⟨hmem, hcomma⟩ := mem_of_mem_splitOn h b hb
  obtain ⟨a, -, rfl⟩ := List.mem_map.1 hmem
  by_cases ha : isBlank a = true
  · rw [if_pos ha] at hcomma
    exact absurd rfl hcomma
  · rw [if_neg ha] at hcomma ⊢
    simpa [isSeparator, hcomma] using ha

/-! ## Cutting a label at its markers -/

/-- The pieces of a label between the markers in it, of which there is always at least one. -/
structure CutAtMarkers (label : Bytes) (pieces : List Bytes) : Prop where
  ne_nil : pieces ≠ []
  joined : marker.intercalate pieces = label
  markerless : ∀ piece ∈ pieces, ¬ marker <:+: piece

/-- Where a marker with another `i` behind it stands. -/
theorem repeated_infix_cons :
    marker ++ [letterI] <:+: b :: rest ↔
      b = underscore ∧ [letterI, letterI] <+: rest ∨ marker ++ [letterI] <:+: rest := by
  rw [List.infix_cons_iff]
  refine or_congr_left ?_
  exact List.cons_prefix_cons.trans (and_congr_left' eq_comm)

/-- A label with a marker has a first one. -/
theorem exists_first_marker (h : marker <:+: label) :
    ∃ before after, label = before ++ (marker ++ after) ∧ ¬ marker <:+: before := by
  induction label with
  | nil => simp [marker] at h
  | cons b rest ih =>
    by_cases hhead : b = underscore ∧ rest.head? = some letterI
    · obtain ⟨rfl, hrest⟩ := hhead
      obtain ⟨after, rfl⟩ := List.head?_eq_some_iff.1 hrest
      exact ⟨[], after, rfl, by simp [marker]⟩
    · obtain ⟨before, after, rfl, hbefore⟩ := ih ((marker_infix_cons.1 h).resolve_left hhead)
      refine ⟨b :: before, after, rfl, ?_⟩
      rw [marker_infix_cons]
      rintro (⟨rfl, hfirst⟩ | hin)
      · obtain ⟨more, rfl⟩ := List.head?_eq_some_iff.1 hfirst
        exact hhead ⟨rfl, rfl⟩
      · exact hbefore hin

theorem exists_cutAtMarkers (label : Bytes) : ∃ pieces, CutAtMarkers label pieces := by
  induction hn : label.length using Nat.strong_induction_on generalizing label with
  | _ n ih =>
    by_cases h : marker <:+: label
    · -- cut at the first marker; what is behind it is shorter
      obtain ⟨before, after, rfl, hbefore⟩ := exists_first_marker h
      have hshorter : after.length < n := by
        rw [← hn, List.length_append, List.length_append]
        simp [marker]
        omega
      obtain ⟨pieces, hne, hjoined, hpieces⟩ := ih _ hshorter after rfl
      refine ⟨before :: pieces, by simp, ?_, List.forall_mem_cons.2 ⟨hbefore, hpieces⟩⟩
      rw [List.intercalate_cons_of_ne_nil hne, hjoined, List.append_assoc]
    · exact ⟨[label], by simp, List.intercalate_singleton, by simpa using h⟩

theorem replaceMarker_cons_of_not_marker (replacement : Bytes)
    (h : ¬ (b = underscore ∧ rest.head? = some letterI)) :
    replaceMarker replacement (b :: rest) = b :: replaceMarker replacement rest := by
  cases rest with
  | nil => rfl
  | cons b' rest => rw [replaceMarker, if_neg (by simpa using h)]

theorem replaceMarker_of_markerless (replacement : Bytes) (h : ¬ marker <:+: label) :
    replaceMarker replacement label = label := by
  induction label with
  | nil => rfl
  | cons b rest ih =>
    obtain ⟨hhead, hrest⟩ := not_or.1 (mt marker_infix_cons.2 h)
    rw [replaceMarker_cons_of_not_marker replacement hhead, ih hrest]

/-- The first marker is replaced, and then those behind it. -/
theorem replaceMarker_append_marker (replacement rest : Bytes) (h : ¬ marker <:+: piece) :
    replaceMarker replacement (piece ++ (marker ++ rest)) =
      piece ++ (replacement ++ replaceMarker replacement rest) := by
  induction piece with
  | nil => exact if_pos ⟨rfl, rfl⟩
  | cons b piece ih =>
    obtain ⟨hhead, hpiece⟩ := not_or.1 (mt marker_infix_cons.2 h)
    have hnext : ¬ (b = underscore ∧ (piece ++ (marker ++ rest)).head? = some letterI) := by
      rintro ⟨rfl, hfirst⟩
      cases piece with
      | nil => simp [marker, underscore, letterI] at hfirst
      | cons b' piece => exact hhead ⟨rfl, hfirst⟩
    rw [List.cons_append, replaceMarker_cons_of_not_marker replacement hnext, ih hpiece]
    rfl

/-- **Replacing markers is joining the pieces between them** by the replacement. -/
theorem replaceMarker_intercalate (replacement : Bytes) (h : CutAtMarkers label pieces) :
    replaceMarker replacement label = replacement.intercalate pieces := by
  obtain ⟨hne, rfl, hmarkerless⟩ := h
  induction pieces with
  | nil => exact absurd rfl hne
  | cons piece pieces ih =>
    obtain ⟨hpiece, hpieces⟩ := List.forall_mem_cons.1 hmarkerless
    by_cases hlast : pieces = []
    · subst hlast
      rw [List.intercalate_singleton, List.intercalate_singleton]
      exact replaceMarker_of_markerless replacement hpiece
    · rw [List.intercalate_cons_of_ne_nil hlast, List.intercalate_cons_of_ne_nil hlast,
        List.append_assoc, List.append_assoc, replaceMarker_append_marker replacement _ hpiece,
        ih hlast hpieces]

/-! ## The row of a line -/

/-- The comma-separated fields of an indexed row are the two ends and the rewritten label. -/
theorem fields_indexed {source target : Bytes} {more : List Bytes}
    (h : rawFields line = source :: target :: label :: index :: more) :
    fields (indexed source target label index).bytes =
      [source, target, replaceMarker (underscore :: index) label] := by
  have hfree : ∀ field ∈ [source, target, label, index], comma ∉ field := by
    intro field hmem hcomma
    have hin : field ∈ rawFields line := by
      rw [h]; exact List.mem_append_left more hmem
    exact absurd (isSeparator_of_mem_rawFields hin hcomma) (by decide)
  have hlabel : comma ∉ replaceMarker (underscore :: index) label := by
    intro hcomma
    rcases mem_replaceMarker hcomma with hcomma | hcomma
    · rcases List.mem_cons.1 hcomma with heq | hcomma
      · exact absurd heq (by decide)
      · exact hfree index (by simp) hcomma
    · exact hfree label (by simp) hcomma
  unfold fields indexed
  rw [List.append_assoc, List.cons_append,
    List.splitOn_append_cons_self_of_not_mem (hfree source (by simp)),
    List.splitOn_append_cons_self_of_not_mem (hfree target (by simp)),
    List.splitOn_eq_singleton hlabel]

theorem ofLine_of_markerless (h : ¬ marker <:+: line) :
    ofLine line = .ok ⟨.plain, normalize line⟩ := by
  have hm : hasMarker (normalize line) = false := by
    rw [hasMarker_normalize, ← Bool.not_eq_true, hasMarker_iff]
    exact h
  simp [ofLine, hm]

theorem ofLine_of_marker (h : marker <:+: line) {source target : Bytes} {more : List Bytes}
    (hf : rawFields line = source :: target :: label :: index :: more) :
    ofLine line = .ok (indexed source target label index) := by
  have hm : hasMarker (normalize line) = true := by
    rw [hasMarker_normalize, hasMarker_iff]
    exact h
  simp [ofLine, hm, fields_normalize, hf]

theorem ofLine_of_few (h : marker <:+: line) (hfew : (rawFields line).length < 4) :
    ofLine line = .error ⟨(rawFields line).length⟩ := by
  have hm : hasMarker (normalize line) = true := by
    rw [hasMarker_normalize, hasMarker_iff]
    exact h
  simp only [ofLine, hm, fields_normalize, if_true]
  split
  · rename_i hf
    rw [hf] at hfew
    simp only [List.length_cons] at hfew
    omega
  · rfl

/-- No tab and no space is left in a row. -/
theorem isBlank_of_mem_row (h : ofLine line = .ok row) (hb : b ∈ row.bytes) :
    isBlank b = false := by
  rcases ofLine_ok_cases h with ⟨-, rfl⟩ | ⟨-, source, target, label, index, more, hf, rfl⟩
  · exact isBlank_of_mem_normalize hb
  · rw [fields_normalize] at hf
    rcases mem_indexed hb with rfl | rfl | ⟨field, hmem, hb⟩
    · decide
    · decide
    · have hin : field ∈ rawFields line := by
        rw [hf]; exact List.mem_append_left more hmem
      exact (Bool.or_eq_false_iff.1 (isSeparator_of_mem_rawFields hin hb)).1

/-- **The row of a line, by the fields of the line.** The fields lie between tabs, spaces and
commas. Without a marker the row is plain and has the fields of the line. With a marker and fewer
than four fields there is no row, and the number of fields is reported. Otherwise the row is indexed
and has three fields: the first two of the line, and the third with the pieces between its markers
joined by an underscore and the fourth. No row has a tab or a space. -/
theorem ofLine_by_fields (line : Bytes) :
    (rawFields line).length = line.countP isSeparator + 1 ∧
    (¬ marker <:+: line →
      ∃ row, ofLine line = .ok row ∧ row.kind = .plain ∧ fields row.bytes = rawFields line) ∧
    (marker <:+: line → (rawFields line).length < 4 →
      ofLine line = .error ⟨(rawFields line).length⟩) ∧
    (marker <:+: line → ∀ source target label index more,
      rawFields line = source :: target :: label :: index :: more →
      ∃ row, ofLine line = .ok row ∧ row.kind = .indexed ∧ (∃ pieces, CutAtMarkers label pieces) ∧
        ∀ pieces, CutAtMarkers label pieces →
          fields row.bytes = [source, target, (underscore :: index).intercalate pieces]) ∧
    ∀ row, ofLine line = .ok row →
      (∀ b ∈ row.bytes, isBlank b = false) ∧
        (row.kind = .indexed → (fields row.bytes).length = 3) := by
  refine ⟨length_rawFields line, ?_, ofLine_of_few, ?_, ?_⟩
  · intro hm
    exact ⟨_, ofLine_of_markerless hm, rfl, fields_normalize line⟩
  · intro hm source target label index more hf
    refine ⟨_, ofLine_of_marker hm hf, rfl, exists_cutAtMarkers label, ?_⟩
    intro pieces hcut
    rw [fields_indexed hf, replaceMarker_intercalate _ hcut]
  · intro row hrow
    refine ⟨fun b => isBlank_of_mem_row hrow, ?_⟩
    intro hkind
    rcases ofLine_ok_cases hrow with ⟨-, rfl⟩ | ⟨-, source, target, label, index, more, hf, rfl⟩
    · cases hkind
    · rw [fields_normalize] at hf
      rw [fields_indexed hf]
      rfl

/-- A line without a marker, a line that lacks its index, and a line whose label has two markers
with nothing between them and an `i` behind them. -/
theorem ofLine_by_fields_three_ways :
    (∃ row, ofLine (Bytes.ofString "1\t2 A") = .ok row ∧
      fields row.bytes = ["1", "2", "A"].map Bytes.ofString) ∧
    ofLine (Bytes.ofString "1 2,a_i") = .error ⟨3⟩ ∧
    ∃ row, ofLine (Bytes.ofString "1  a_i_ii 7 8") = .ok row ∧
      fields row.bytes = ["1", "", "a_7_7i"].map Bytes.ofString := by
  obtain ⟨-, hplain, -⟩ := ofLine_by_fields (Bytes.ofString "1\t2 A")
  obtain ⟨-, -, hfew, -⟩ := ofLine_by_fields (Bytes.ofString "1 2,a_i")
  obtain ⟨-, -, -, hindexed, -⟩ := ofLine_by_fields (Bytes.ofString "1  a_i_ii 7 8")
  refine ⟨?_, hfew (by decide) (by decide), ?_⟩
  · obtain ⟨row, hrow, -, hfields⟩ := hplain (by decide)
    exact ⟨row, hrow, hfields.trans (by decide)⟩
  · obtain ⟨row, hrow, -, -, hfields⟩ := hindexed (by decide) (Bytes.ofString "1") []
      (Bytes.ofString "a_i_ii") (Bytes.ofString "7") [Bytes.ofString "8"] (by decide)
    have hcut : CutAtMarkers (Bytes.ofString "a_i_ii") (["a", "", "i"].map Bytes.ofString) :=
      ⟨by decide, by decide, by decide⟩
    exact ⟨row, hrow, (hfields _ hcut).trans (by decide)⟩

/-! ## Markers that come about -/

/-- A marker in two texts put together stands in one of them or across the seam. -/
theorem marker_infix_append {a b : Bytes} :
    marker <:+: a ++ b ↔
      marker <:+: a ∨ marker <:+: b ∨ a.getLast? = some underscore ∧ b.head? = some letterI := by
  rw [List.infix_append_iff_ne_nil]
  refine or_congr_right (or_congr_right ?_)
  constructor
  · rintro ⟨first, second, hfirst, hsecond, hmarker, hsuffix, hprefix⟩
    obtain ⟨x, first, rfl⟩ := List.exists_cons_of_ne_nil hfirst
    obtain ⟨y, second, rfl⟩ := List.exists_cons_of_ne_nil hsecond
    obtain rfl : first = [] := by
      have hlength := congrArg List.length hmarker
      simp [marker] at hlength
      exact List.length_eq_zero_iff.1 (by omega)
    obtain ⟨rfl, rfl, rfl⟩ : x = underscore ∧ y = letterI ∧ second = [] := by
      simpa [marker, eq_comm] using hmarker
    obtain ⟨before, rfl⟩ := hsuffix
    obtain ⟨after, rfl⟩ := hprefix
    simp
  · rintro ⟨hlast, hhead⟩
    obtain ⟨before, rfl⟩ := List.getLast?_eq_some_iff.1 hlast
    obtain ⟨after, rfl⟩ := List.head?_eq_some_iff.1 hhead
    exact ⟨[underscore], [letterI], by simp, by simp, rfl, ⟨before, rfl⟩, ⟨after, rfl⟩⟩

/-- A byte that is in no marker keeps markers apart. -/
theorem marker_infix_append_cons {x : UInt8} (hx : x ∉ marker) {a b : Bytes} :
    marker <:+: a ++ x :: b ↔ marker <:+: a ∨ marker <:+: b := by
  have hne : x ≠ underscore ∧ x ≠ letterI := by simpa [marker] using hx
  rw [marker_infix_append, marker_infix_cons]
  simp [hne.1, hne.2]

/-- A marker in pieces that were joined stands in one of them. -/
theorem marker_infix_intercalate {x : UInt8} (hx : x ∉ marker) :
    marker <:+: [x].intercalate pieces ↔ ∃ piece ∈ pieces, marker <:+: piece := by
  induction pieces with
  | nil => simp [marker]
  | cons piece rest ih =>
    by_cases hrest : rest = []
    · subst hrest
      simp [List.intercalate_singleton]
    · rw [List.intercalate_cons_of_ne_nil hrest, List.append_assoc, List.singleton_append,
        marker_infix_append_cons hx, ih]
      simp

theorem marker_infix_indexed (source target label index : Bytes) :
    marker <:+: (indexed source target label index).bytes ↔
      marker <:+: source ∨ marker <:+: target ∨
        marker <:+: replaceMarker (underscore :: index) label := by
  have hcomma : comma ∉ marker := by decide
  unfold indexed
  rw [List.append_assoc, List.cons_append, marker_infix_append_cons hcomma,
    marker_infix_append_cons hcomma]

/-- A label that is rewritten begins as it did: a marker begins with an underscore, and so does what
it is replaced by. -/
theorem head?_replaceMarker (index label : Bytes) :
    (replaceMarker (underscore :: index) label).head? = label.head? := by
  fun_cases replaceMarker (underscore :: index) label with
  | case1 => rfl
  | case2 b => rfl
  | case3 b b' rest hm => simp [hm.1]
  | case4 b b' rest hm => rfl

/-- **Markers of a rewritten label.** A label without a marker is left alone. Otherwise a marker
comes in with the index, or it comes about behind an index that is empty or ends in an underscore,
where an `i` follows a marker. -/
theorem marker_infix_replaceMarker (index label : Bytes) :
    marker <:+: replaceMarker (underscore :: index) label ↔
      marker <:+: label ∧ (marker <:+: underscore :: index ∨
        (underscore :: index).getLast? = some underscore ∧ marker ++ [letterI] <:+: label) := by
  fun_induction replaceMarker (underscore :: index) label with
  | case1 => simp [marker]
  | case2 b => simp [marker, List.infix_cons_iff]
  | case3 b b' rest hm ih =>
    -- the label begins with a marker: a new one stands in the index, behind it, or at the seam
    obtain ⟨rfl, rfl⟩ := hm
    have hfirst : marker <:+: underscore :: letterI :: rest := ⟨[], rest, rfl⟩
    have hseam : marker ++ [letterI] <:+: underscore :: letterI :: rest ↔
        rest.head? = some letterI ∨ marker ++ [letterI] <:+: rest := by
      have hne : letterI ≠ underscore := by decide
      rw [repeated_infix_cons, repeated_infix_cons, List.cons_prefix_cons]
      simp [hne, List.singleton_prefix_iff_head?_eq_some]
    rw [marker_infix_append, ih, head?_replaceMarker, hseam]
    constructor
    · rintro (hin | ⟨-, hin | ⟨hlast, hmore⟩⟩ | ⟨hlast, hnext⟩)
      · exact ⟨hfirst, .inl hin⟩
      · exact ⟨hfirst, .inl hin⟩
      · exact ⟨hfirst, .inr ⟨hlast, .inr hmore⟩⟩
      · exact ⟨hfirst, .inr ⟨hlast, .inl hnext⟩⟩
    · rintro ⟨-, hin | ⟨hlast, hnext | hmore⟩⟩
      · exact .inl hin
      · exact .inr (.inr ⟨hlast, hnext⟩)
      · have hrest : marker <:+: rest := (List.prefix_append _ _).isInfix.trans hmore
        exact .inr (.inl ⟨hrest, .inr ⟨hlast, hmore⟩⟩)
  | case4 b b' rest hm ih =>
    have hfirst : ¬ (b = underscore ∧ (b' :: rest).head? = some letterI) := by simpa using hm
    have hseam : ¬ (b = underscore ∧ [letterI, letterI] <+: b' :: rest) := by
      rintro ⟨rfl, more, hmore⟩
      exact hm ⟨rfl, (List.cons.inj hmore).1.symm⟩
    rw [marker_infix_cons, head?_replaceMarker, or_iff_right hfirst, ih, marker_infix_cons (b := b),
      or_iff_right hfirst, repeated_infix_cons (b := b), or_iff_right hseam]

theorem getLast?_underscore_cons (index : Bytes) :
    (underscore :: index).getLast? = some underscore ↔
      index = [] ∨ index.getLast? = some underscore := by
  cases index with
  | nil => simp
  | cons b rest => simp

/-! ## A row taken for a line -/

theorem normalize_of_blankless (h : ∀ b ∈ line, isBlank b = false) : normalize line = line := by
  unfold normalize
  conv_rhs => rw [← List.map_id line]
  refine List.map_congr_left fun b hb => ?_
  rw [h b hb]
  rfl

theorem normalize_row (h : ofLine line = .ok row) : normalize row.bytes = row.bytes :=
  normalize_of_blankless fun _ hb => isBlank_of_mem_row h hb

/-- **A second pass over a row** changes nothing: it gives the same bytes as a plain row if they
hold no marker, and otherwise reports that three fields are too few. A plain row holds no marker. An
indexed row holds one if the first two fields of its line do, or if the label does and another comes
about where it is replaced. -/
theorem ofLine_again (h : ofLine line = .ok row) :
    (¬ marker <:+: row.bytes ∧ ofLine row.bytes = .ok ⟨.plain, row.bytes⟩ ∨
      marker <:+: row.bytes ∧ ofLine row.bytes = .error ⟨3⟩) ∧
    (row.kind = .plain → ¬ marker <:+: row.bytes) ∧
    (row.kind = .indexed → ∃ source target label index more,
      rawFields line = source :: target :: label :: index :: more ∧
      (marker <:+: row.bytes ↔ marker <:+: source ∨ marker <:+: target ∨
        marker <:+: label ∧ (marker <:+: underscore :: index ∨
          (index = [] ∨ index.getLast? = some underscore) ∧ marker ++ [letterI] <:+: label))) := by
  have hplain : ¬ marker <:+: row.bytes → ofLine row.bytes = .ok ⟨.plain, row.bytes⟩ := by
    intro hm
    rw [ofLine_of_markerless hm, normalize_row h]
  rcases ofLine_ok_cases h with ⟨hm, rfl⟩ | ⟨-, source, target, label, index, more, hf, rfl⟩
  · have hnone : ¬ marker <:+: normalize line := by
      rw [← hasMarker_iff, hasMarker_normalize, hm]
      simp
    exact ⟨.inl ⟨hnone, hplain hnone⟩, fun _ => hnone, nofun⟩
  · rw [fields_normalize] at hf
    have hthree : (rawFields (indexed source target label index).bytes).length = 3 := by
      rw [← fields_normalize, normalize_row h, fields_indexed hf]
      rfl
    refine ⟨?_, nofun, fun _ => ⟨source, target, label, index, more, hf, ?_⟩⟩
    · by_cases hm : marker <:+: (indexed source target label index).bytes
      · have hfew := ofLine_of_few hm (by rw [hthree]; decide)
        rw [hthree] at hfew
        exact .inr ⟨hm, hfew⟩
      · exact .inl ⟨hm, hplain hm⟩
    · rw [marker_infix_indexed, marker_infix_replaceMarker, getLast?_underscore_cons]

/-- A line without an index text behind a marker and an `i`: the row holds a marker, and a second
pass refuses it. -/
theorem ofLine_again_seam :
    let line := Bytes.ofString "1 2 a_ii "
    ofLine line = .ok ⟨.indexed, Bytes.ofString "1,2,a_i"⟩ ∧
      ofLine (Bytes.ofString "1,2,a_i") = .error ⟨3⟩ := by
  intro line
  have hrow : ofLine line = .ok ⟨.indexed, Bytes.ofString "1,2,a_i"⟩ := by decide
  obtain ⟨⟨hnone, -⟩ | ⟨-, hagain⟩, -⟩ := ofLine_again hrow
  · exact absurd (by decide) hnone
  · exact ⟨hrow, hagain⟩

end EdgeCsv.Row
