import EdgeCsv.Proofs.Conversion.Convert
import EdgeCsv.Proofs.Conversion.Limit
import EdgeCsv.Proofs.FileSystem.Base
import EdgeCsv.Proofs.Row.Fields

/-!
# Converting onto a full device

A device without room refuses every byte, but it hears of bytes only when the buffer in front of it
passes them on. From the header on the buffer holds something that it cannot get rid of (`Stuck`).
It takes what fits and fails at the first write that does not.

* `accept_stuck`, `carryOut_stuck`: one write to such a buffer, and a run of them.
* `result_writeThrough_full`: what a conversion through the buffer ends in.
* `convert_onto_full`: so a conversion onto such a device always fails, and whether it fails for the
  dump or for the device depends on what comes before the first malformed line.
-/

namespace EdgeCsv.Conversion

variable {size : Nat} {reason : IoError} {dump line : Bytes} {before after : List Bytes}
  {rows : List Row} {missing : Row.MissingIndex} {fs : FileSystem} {loc : Location}
  {input output : Path}

namespace Writer

variable {b : Buffered Limited}

/-! ## A buffer that cannot get rid of its bytes -/

/-- There are bytes in the buffer, no more than fit in it, and the writer behind has no room. -/
structure Stuck (size : Nat) (b : Buffered Limited) : Prop where
  ne_nil : b.buffer ≠ []
  length_le : b.buffer.length ≤ size
  full : b.behind.room = 0

theorem flush_stuck (h : Stuck size b) : (limited reason).flush b = (some reason, b) := by
  unfold flush
  rw [accept_full h.ne_nil h.full]

/-- **One write to a stuck buffer** stays in it if it fits, and fails if not. -/
theorem accept_stuck (h : Stuck size b) (bytes : Bytes) :
    ((limited reason).buffered size).accept b bytes =
      if b.buffer.length + bytes.length ≤ size then (none, ⟨b.buffer ++ bytes, b.behind⟩)
      else (some reason, b) := by
  have hpos := List.length_pos_of_ne_nil h.ne_nil
  have hle := h.length_le
  simp only [buffered]
  by_cases hfit : b.buffer.length + bytes.length ≤ size
  · have hspare : ¬ size - b.buffer.length < bytes.length := by omega
    have hsmall : ¬ size ≤ bytes.length := by omega
    rw [if_pos hfit, if_neg hspare]
    simp only [if_neg hsmall]
  · have hspare : size - b.buffer.length < bytes.length := by omega
    rw [if_neg hfit, if_pos hspare, flush_stuck h]

theorem Stuck.append (h : Stuck size b) {bytes : Bytes}
    (hfit : b.buffer.length + bytes.length ≤ size) : Stuck size ⟨b.buffer ++ bytes, b.behind⟩ where
  ne_nil := List.append_ne_nil_of_left_ne_nil h.ne_nil bytes
  length_le := by rw [List.length_append]; exact hfit
  full := h.full

/-- **A run of steps on a stuck buffer** fails exactly if all that is written does not fit, and
leaves the buffer stuck. -/
theorem carryOut_stuck (reason : IoError) (h : Stuck size b) (steps : List Step) :
    (((limited reason).buffered size).carryOut b steps).1 =
        (if b.buffer.length + (steps.flatMap Step.written).length ≤ size then none
          else some reason) ∧
      Stuck size (((limited reason).buffered size).carryOut b steps).2.1 := by
  induction steps generalizing b with
  | nil =>
    have hle := h.length_le
    simp only [carryOut, List.flatMap_nil, List.length_nil, Nat.add_zero, if_pos hle]
    exact ⟨trivial, h⟩
  | cons step steps ih =>
    cases step with
    | say event => simpa [carryOut, Step.written] using ih h
    | write bytes =>
      rw [List.flatMap_cons, Step.written, List.length_append]
      simp only [carryOut, accept_stuck h]
      by_cases hfit : b.buffer.length + bytes.length ≤ size
      · obtain ⟨hfailure, hstuck⟩ := ih (h.append hfit)
        simp only [if_pos hfit]
        rw [hfailure, List.length_append, Nat.add_assoc]
        exact ⟨rfl, hstuck⟩
      · have hmore :
            ¬ b.buffer.length + (bytes.length + (steps.flatMap Step.written).length) ≤ size := by
          omega
        simp only [if_neg hfit, if_neg hmore]
        exact ⟨trivial, h⟩

end Writer

/-! ## Conversions -/

/-- The header goes into the empty buffer, which is stuck from then on. -/
theorem writeRows_stuck (reason : IoError) (dump : Bytes) (output : Path) :
    (writeRows ((Writer.limited reason).buffered bufferSize) ⟨[], [], 0⟩ dump output).1 =
        (if (Rows.ofDump dump).written.length ≤ bufferSize then
          (Rows.ofDump dump).result.mapError .malformedRecord
        else .error (.writeOutput output reason)) ∧
      Writer.Stuck bufferSize
        (writeRows ((Writer.limited reason).buffered bufferSize) ⟨[], [], 0⟩ dump output).2.1 := by
  obtain ⟨rest, hsteps⟩ : ∃ rest, (Rows.ofDump dump).steps = .write header :: rest := ⟨_, rfl⟩
  have hstart : Writer.Stuck bufferSize ⟨header, [], 0⟩ := ⟨by decide, by decide, rfl⟩
  have hfirst : ((Writer.limited reason).buffered bufferSize).carryOut ⟨[], [], 0⟩
      (Rows.ofDump dump).steps =
        ((Writer.limited reason).buffered bufferSize).carryOut ⟨header, [], 0⟩ rest := by
    rw [hsteps]
    rfl
  have hlength : (Rows.ofDump dump).written.length =
      header.length + (rest.flatMap Step.written).length := by
    rw [Rows.written, hsteps, List.flatMap_cons, List.length_append, Step.written]
  obtain ⟨hfailure, hstuck⟩ := Writer.carryOut_stuck reason hstart rest
  rw [← hfirst] at hfailure hstuck
  refine ⟨?_, by rw [writeRows_eq]; exact hstuck⟩
  rw [hlength]
  exact result_writeRows_of_ite hfailure output

/-- Through the buffer onto a full writer, the rows end as they do, or the first write fails that
does not fit; if they end well, the last bytes cannot be passed on. -/
theorem result_writeThrough_full (reason : IoError) (dump : Bytes) (output : Path) :
    (writeThrough (.limited reason) ⟨[], 0⟩ dump output).1 =
      if (Rows.ofDump dump).written.length ≤ bufferSize then
        ((Rows.ofDump dump).result.mapError .malformedRecord).bind
          fun _ => .error (.writeOutput output reason)
      else .error (.writeOutput output reason) := by
  obtain ⟨hresult, hstuck⟩ := writeRows_stuck reason dump output
  rw [writeThrough_eq]
  simp only [Writer.flush_stuck hstuck, hresult, Option.elim]
  by_cases hfit : (Rows.ofDump dump).written.length ≤ bufferSize
  · rw [if_pos hfit, if_pos hfit]
  · rw [if_neg hfit, if_neg hfit]
    rfl

/-- A dump whose lines all have rows is given up for the writer. -/
theorem result_writeThrough_full_of_haveRows (reason : IoError) (h : HaveRows (lines dump) rows)
    (output : Path) :
    (writeThrough (.limited reason) ⟨[], 0⟩ dump output).1 =
      .error (.writeOutput output reason) := by
  obtain ⟨-, hr⟩ := ofDump_of_haveRows h
  rw [result_writeThrough_full, hr]
  split <;> rfl

/-- **A malformed line behind a full buffer** is not reported, and one before that is. -/
theorem result_writeThrough_full_of_first (reason : IoError)
    (hls : lines dump = before ++ line :: after) (h : HaveRows before rows)
    (hl : Row.ofLine line = .error missing) (output : Path) :
    (writeThrough (.limited reason) ⟨[], 0⟩ dump output).1 =
      if (header ++ [lineFeed] ++ rowText rows).length ≤ bufferSize then
        .error (.malformedRecord ⟨before.length + 1, missing.fieldCount, Utf8.lossy line⟩)
      else .error (.writeOutput output reason) := by
  obtain ⟨hw, hr⟩ := ofDump_of_first hls h hl
  rw [result_writeThrough_full, hw, hr]
  rfl

/-- A full device is a writer without room. -/
theorem fileWriter_full (h : fs.lookup loc = some (.device .full)) :
    (fileWriter loc).Alike (.limited .noSpace) (fun now s => now = fs ∧ s = ⟨[], 0⟩) := by
  rintro now s bytes ⟨rfl, rfl⟩
  simp only [fileWriter, FileSystem.append, h]
  by_cases hbytes : bytes = []
  · subst hbytes
    exact ⟨rfl, trivial, rfl⟩
  · rw [Writer.accept_full hbytes rfl, if_neg hbytes]
    exact ⟨rfl, trivial, rfl⟩

/-- Converting a file onto a full device is converting its content onto a full writer. -/
theorem result_convert_full (htree : fs.IsTree) (hread : fs.read input = .ok dump)
    (hdevice : fs.resolve output = .ok loc) (hfull : fs.lookup loc = some (.device .full)) :
    ((convert input output).run fs).result =
      (writeThrough (.limited .noSpace) ⟨[], 0⟩ dump output).1 := by
  have hcreate := FileSystem.create_of_resolve_device htree hdevice hfull
  have hstart : fs = fs ∧ (⟨[], 0⟩ : Writer.Limited) = ⟨[], 0⟩ := ⟨rfl, rfl⟩
  obtain ⟨hresult, -, -⟩ := writeThrough_alike (fileWriter_full hfull) dump output hstart
  rw [(convert_of_create hread hcreate).1, writeFile_eq]
  exact hresult

/-- **A conversion onto a full device never ends well.** In a tree, let one path lead to a file and
another to a full device. Converting the file onto the device reports a malformed line, the first
one, exactly if there is one and the header and the rows before it, each ended by a line feed, come
to 8192 bytes at most; in every other case it reports that the output cannot be written. -/
theorem convert_onto_full (htree : fs.IsTree) {source device : Location}
    (hsource : fs.resolve input = .ok source) (hdump : fs.lookup source = some (.file dump))
    (hdevice : fs.resolve output = .ok device)
    (hfull : fs.lookup device = some (.device .full)) :
    (∀ summary, ((convert input output).run fs).result ≠ .ok summary) ∧
    (∀ m, ((convert input output).run fs).result = .error (.malformedRecord m) ↔
      ∃ before line after rows missing, lines dump = before ++ line :: after ∧
        HaveRows before rows ∧ Row.ofLine line = .error missing ∧
        (header ++ [lineFeed] ++ rowText rows).length ≤ 8192 ∧
        m = ⟨before.length + 1, missing.fieldCount, Utf8.lossy line⟩) ∧
    ((¬ ∃ m, ((convert input output).run fs).result = .error (.malformedRecord m)) →
      ((convert input output).run fs).result = .error (.writeOutput output .noSpace)) := by
  have hread := FileSystem.read_of_lookup hsource hdump
  have hsize : bufferSize = 8192 := rfl
  rw [result_convert_full htree hread hdevice hfull]
  -- this direction needs no case distinction: the lines before it show that the line is the first
  have hreported : ∀ m, (∃ before line after rows missing, lines dump = before ++ line :: after ∧
      HaveRows before rows ∧ Row.ofLine line = .error missing ∧
      (header ++ [lineFeed] ++ rowText rows).length ≤ 8192 ∧
      m = ⟨before.length + 1, missing.fieldCount, Utf8.lossy line⟩) →
      (writeThrough (.limited .noSpace) ⟨[], 0⟩ dump output).1 = .error (.malformedRecord m) := by
    rintro m ⟨before, line, after, rows, missing, hls, h, hl, hfit, rfl⟩
    rw [result_writeThrough_full_of_first .noSpace hls h hl, hsize, if_pos hfit]
  rcases haveRows_or_first (lines dump) with
    ⟨rows, h⟩ | ⟨before, line, after, rows, missing, hls, h, hl⟩
  · have hend := result_writeThrough_full_of_haveRows .noSpace h output
    refine ⟨by rw [hend]; nofun, fun m => ⟨by rw [hend]; nofun, hreported m⟩, fun _ => hend⟩
  · have hend := result_writeThrough_full_of_first .noSpace hls h hl output
    rw [hsize] at hend
    by_cases hfit : (header ++ [lineFeed] ++ rowText rows).length ≤ 8192
    · rw [if_pos hfit] at hend
      refine ⟨by rw [hend]; nofun, fun m => ⟨?_, hreported m⟩, fun hnone => absurd ⟨_, hend⟩ hnone⟩
      intro hm
      rw [hend] at hm
      cases hm
      exact ⟨before, line, after, rows, missing, hls, h, hl, hfit, rfl⟩
    · rw [if_neg hfit] at hend
      exact ⟨by rw [hend]; nofun, fun m => ⟨by rw [hend]; nofun, hreported m⟩, fun _ => hend⟩

/-- A long line and then a malformed one: with the header, a long line of 8179 bytes makes 8192,
which the buffer holds, and one more byte is too many. -/
theorem convert_onto_full_last_byte :
    let dump (k : Nat) := List.replicate k 97 ++ lineFeed :: Bytes.ofString "_i"
    let fs (k : Nat) : FileSystem := ⟨[([Bytes.ofString "dev"], .directory),
      ([Bytes.ofString "full", Bytes.ofString "dev"], .device .full),
      ([Bytes.ofString "in"], .file (dump k))], []⟩
    let converted (k : Nat) := (convert (.ofString "in") (.ofString "/dev/full")).run (fs k)
    (converted 8179).result = .error (.malformedRecord ⟨2, 1, "_i"⟩) ∧
      (converted 8180).result = .error (.writeOutput (.ofString "/dev/full") .noSpace) := by
  intro dump fs converted
  have htree : ∀ k, (fs k).IsTree := by
    intro k
    apply FileSystem.isTree_of_entries
    simp only [fs, List.forall_mem_cons]
    exact ⟨rfl, rfl, rfl, nofun⟩
  have hlines : ∀ k, lines (dump k) = [List.replicate k 97, Bytes.ofString "_i"] := by
    intro k
    have hfree : lineFeed ∉ List.replicate k 97 := by simp [lineFeed]
    exact List.splitOn_append_cons_self_of_not_mem hfree _
  have hrow : ∀ k, Row.ofLine (List.replicate k 97) = .ok ⟨.plain, List.replicate k 97⟩ := by
    intro k
    have hmarker : ¬ Row.marker <:+: List.replicate k 97 := by
      intro h
      have hmem : Row.underscore ∈ List.replicate k 97 := h.subset (by decide)
      simp [Row.underscore] at hmem
    rw [Row.ofLine_of_markerless hmarker, Row.normalize_of_blankless]
    intro b hb
    rw [List.eq_of_mem_replicate hb]
    rfl
  have hbad : Row.ofLine (Bytes.ofString "_i") = .error ⟨1⟩ := by decide
  have hlength : ∀ k rows, (header ++ [lineFeed] ++
      rowText (⟨.plain, List.replicate k 97⟩ :: rows)).length = 13 + k + (rowText rows).length := by
    intro k rows
    have hheader : header.length = 11 := by decide
    unfold rowText
    simp only [List.flatMap_cons, List.length_append, List.length_replicate, List.length_singleton,
      hheader]
    omega
  obtain ⟨-, hshort, -⟩ := convert_onto_full (htree 8179)
    (rfl : (fs 8179).resolve (.ofString "in") = _) rfl
    (rfl : (fs 8179).resolve (.ofString "/dev/full") = _) rfl
  obtain ⟨-, hlong, hother⟩ := convert_onto_full (htree 8180)
    (rfl : (fs 8180).resolve (.ofString "in") = _) rfl
    (rfl : (fs 8180).resolve (.ofString "/dev/full") = _) rfl
  constructor
  · have hrows : HaveRows [List.replicate 8179 97] [⟨.plain, List.replicate 8179 97⟩] :=
      HaveRows.cons_iff.2 ⟨hrow 8179, rfl⟩
    refine (hshort _).2 ⟨_, _, [], _, ⟨1⟩, hlines 8179, hrows, hbad, ?_, by decide⟩
    rw [hlength]
    decide
  · apply hother
    rintro ⟨m, hm⟩
    obtain ⟨before, line, after, rows, missing, hls, h, hl, hfit, -⟩ := (hlong m).1 hm
    rw [hlines] at hls
    cases before with
    | nil =>
      rw [← (List.cons.inj hls).1, hrow] at hl
      cases hl
    | cons first before =>
      obtain ⟨row, rows, rfl, hfirst, -⟩ := h.exists_cons
      rw [← (List.cons.inj hls).1, hrow] at hfirst
      obtain rfl := Except.ok.inj hfirst
      rw [hlength] at hfit
      omega

end EdgeCsv.Conversion
