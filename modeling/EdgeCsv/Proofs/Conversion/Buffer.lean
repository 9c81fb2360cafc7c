import EdgeCsv.Conversion.Convert
import EdgeCsv.Proofs.Conversion.Rows

/-!
# Writing through a buffer

Two writers are alike if they answer alike to all they are handed, whatever they make of it
(`Writer.Alike`). Being alike is passed on from a writer to the buffer in front of it and to whole
conversions.

* `writeThrough_alike`: a conversion through a buffer ends alike on writers that are alike.
* `writeThrough_unlimited`: in front of a writer that takes everything the buffer makes no
  difference, neither to the end nor to the bytes that arrive.
-/

namespace EdgeCsv.Conversion

variable {σ τ : Type} {w : Writer σ} {w' : Writer τ} {R : σ → τ → Prop} {s : σ} {s' : τ}

namespace Writer

/-- Two writers that answer alike as long as what they hold is related by `R`, which it stays. -/
def Alike (w : Writer σ) (w' : Writer τ) (R : σ → τ → Prop) : Prop :=
  ∀ s s' bytes, R s s' →
    (w.accept s bytes).1 = (w'.accept s' bytes).1 ∧ R (w.accept s bytes).2 (w'.accept s' bytes).2

/-- The same bytes are in both buffers, and what the writers behind them hold is related. -/
def Buffered.Related (R : σ → τ → Prop) (b : Buffered σ) (b' : Buffered τ) : Prop :=
  b.buffer = b'.buffer ∧ R b.behind b'.behind

theorem flush_eq (w : Writer σ) (b : Buffered σ) :
    w.flush b = ((w.accept b.behind b.buffer).1,
      ⟨if (w.accept b.behind b.buffer).1 = none then [] else b.buffer,
        (w.accept b.behind b.buffer).2⟩) := by
  unfold flush
  rcases w.accept b.behind b.buffer with ⟨_ | e, behind⟩ <;> rfl

namespace Alike

theorem flush (h : Alike w w' R) {b : Buffered σ} {b' : Buffered τ} (hb : Buffered.Related R b b') :
    (w.flush b).1 = (w'.flush b').1 ∧ Buffered.Related R (w.flush b).2 (w'.flush b').2 := by
  obtain ⟨hbuffer, hbehind⟩ := hb
  obtain ⟨hfail, hheld⟩ := h _ _ b.buffer hbehind
  rw [flush_eq, flush_eq, ← hbuffer, ← hfail]
  exact ⟨rfl, rfl, hheld⟩

theorem buffered (size : Nat) (h : Alike w w' R) :
    Alike (w.buffered size) (w'.buffered size) (Buffered.Related R) := by
  intro b b' bytes hb
  have hspare : size - b.buffer.length = size - b'.buffer.length := by rw [hb.1]
  -- what is in the buffers once there is room in them
  obtain ⟨hfail, hroom⟩ :
      (if size - b.buffer.length < bytes.length then w.flush b else (none, b)).1 =
        (if size - b'.buffer.length < bytes.length then w'.flush b' else (none, b')).1 ∧
      Buffered.Related R (if size - b.buffer.length < bytes.length then w.flush b else (none, b)).2
        (if size - b'.buffer.length < bytes.length then w'.flush b' else (none, b')).2 := by
    rw [hspare]
    split
    · exact h.flush hb
    · exact ⟨rfl, hb⟩
  simp only [Writer.buffered]
  generalize (if size - b.buffer.length < bytes.length then w.flush b else (none, b)) = x at *
  generalize (if size - b'.buffer.length < bytes.length then w'.flush b' else (none, b')) = x' at *
  obtain ⟨failure, c⟩ := x
  obtain ⟨failure', c'⟩ := x'
  obtain rfl : failure = failure' := hfail
  obtain ⟨hbuffer, hbehind⟩ := hroom
  cases failure with
  | some e => exact ⟨rfl, hbuffer, hbehind⟩
  | none =>
    by_cases hsize : size ≤ bytes.length
    · obtain ⟨hfail, hheld⟩ := h _ _ bytes hbehind
      simp only [if_pos hsize]
      exact ⟨hfail, hbuffer, hheld⟩
    · simp only [if_neg hsize]
      exact ⟨trivial, congrArg (· ++ bytes) hbuffer, hbehind⟩

/-- Steps are carried out alike, and the same is said on the way. -/
theorem carryOut (h : Alike w w' R) (steps : List Step) (hs : R s s') :
    (w.carryOut s steps).1 = (w'.carryOut s' steps).1 ∧
      R (w.carryOut s steps).2.1 (w'.carryOut s' steps).2.1 ∧
      (w.carryOut s steps).2.2 = (w'.carryOut s' steps).2.2 := by
  induction steps generalizing s s' with
  | nil => exact ⟨rfl, hs, rfl⟩
  | cons step steps ih =>
    cases step with
    | say event =>
      obtain ⟨hfail, hheld, hlog⟩ := ih hs
      exact ⟨hfail, hheld, congrArg (event :: ·) hlog⟩
    | write bytes =>
      obtain ⟨hfail, hheld⟩ := h s s' bytes hs
      simp only [Writer.carryOut]
      generalize w.accept s bytes = x at *
      generalize w'.accept s' bytes = x' at *
      obtain ⟨failure, c⟩ := x
      obtain ⟨failure', c'⟩ := x'
      obtain rfl : failure = failure' := hfail
      cases failure with
      | some e => exact ⟨rfl, hheld, rfl⟩
      | none => exact ih hheld

end Alike

/-- A buffer in front of a writer that takes everything: what has arrived and what is in the buffer
is what has been written. -/
theorem buffered_unlimited (size : Nat) :
    Alike (unlimited.buffered size) unlimited
      (fun b taken => b.behind ++ b.buffer = taken) := by
  intro b taken bytes hb
  subst hb
  simp only [buffered, unlimited, flush]
  by_cases hspare : size - b.buffer.length < bytes.length
  · by_cases hsize : size ≤ bytes.length <;> simp [hspare, hsize]
  · by_cases hsize : size ≤ bytes.length
    · -- bytes that would fill the whole buffer and fit in find it empty
      have hempty : b.buffer = [] ∨ bytes = [] := by
        rcases Nat.eq_zero_or_pos size with hzero | hpos
        · exact .inr (List.eq_nil_of_length_eq_zero (by omega))
        · exact .inl (List.eq_nil_of_length_eq_zero (by omega))
      simp only [if_neg hspare, if_pos hsize]
      rcases hempty with hempty | hempty <;> simp [hempty]
    · simp [hspare, hsize]

end Writer

theorem writeRows_alike (h : w.Alike w' R) (dump : Bytes) (output : Path) (hs : R s s') :
    (writeRows w s dump output).1 = (writeRows w' s' dump output).1 ∧
      R (writeRows w s dump output).2.1 (writeRows w' s' dump output).2.1 ∧
      (writeRows w s dump output).2.2 = (writeRows w' s' dump output).2.2 := by
  obtain ⟨hfail, hheld, hlog⟩ := h.carryOut (Rows.ofDump dump).steps hs
  rw [writeRows_eq, writeRows_eq, hfail]
  exact ⟨rfl, hheld, hlog⟩

/-- Converts a dump onto a writer through the buffer, and passes on what is left in it. -/
def writeThrough (w : Writer σ) (s : σ) (dump : Bytes) (output : Path) :
    Except Error Summary × σ × List Log.Event :=
  let (result, b, log) := writeRows (w.buffered bufferSize) ⟨[], s⟩ dump output
  let (failure, b) := w.flush b
  match result, failure with
  | .ok _, some e => (.error (.writeOutput output e), b.behind, log)
  | result, _ => (result, b.behind, log)

theorem writeFile_eq (dump : Bytes) (loc : Location) (output : Path) (fs : FileSystem) :
    writeFile dump loc output fs =
      ⟨(writeThrough (fileWriter loc) fs dump output).1,
        (writeThrough (fileWriter loc) fs dump output).2.1,
        (writeThrough (fileWriter loc) fs dump output).2.2⟩ := by
  simp only [writeFile, writeThrough]
  generalize writeRows ((fileWriter loc).buffered bufferSize) ⟨[], fs⟩ dump output = x
  obtain ⟨result, b, log⟩ := x
  generalize (fileWriter loc).flush b = y
  obtain ⟨failure, b'⟩ := y
  cases result <;> cases failure <;> rfl

/-- What a conversion through the buffer ends in, from how the rows and the last passing on went. -/
theorem writeThrough_eq (w : Writer σ) (s : σ) (dump : Bytes) (output : Path) :
    writeThrough w s dump output =
      let x := writeRows (w.buffered bufferSize) ⟨[], s⟩ dump output
      ((w.flush x.2.1).1.elim x.1 fun e => x.1.bind fun _ => .error (.writeOutput output e),
        (w.flush x.2.1).2.behind, x.2.2) := by
  simp only [writeThrough]
  generalize writeRows (w.buffered bufferSize) ⟨[], s⟩ dump output = x
  obtain ⟨result, b, log⟩ := x
  generalize w.flush b = y
  obtain ⟨failure, b'⟩ := y
  cases result <;> cases failure <;> rfl

/-- **Through the buffer, writers that are alike end alike.** -/
theorem writeThrough_alike (h : w.Alike w' R) (dump : Bytes) (output : Path) (hs : R s s') :
    (writeThrough w s dump output).1 = (writeThrough w' s' dump output).1 ∧
      R (writeThrough w s dump output).2.1 (writeThrough w' s' dump output).2.1 ∧
      (writeThrough w s dump output).2.2 = (writeThrough w' s' dump output).2.2 := by
  have hstart : Writer.Buffered.Related R (⟨[], s⟩ : Writer.Buffered σ) ⟨[], s'⟩ := ⟨rfl, hs⟩
  obtain ⟨hresult, hheld, hlog⟩ := writeRows_alike (h.buffered bufferSize) dump output hstart
  obtain ⟨hfail, -, hbehind⟩ := h.flush hheld
  rw [writeThrough_eq, writeThrough_eq]
  simp only [hresult, hfail]
  exact ⟨trivial, hbehind, hlog⟩

/-- **The buffer makes no difference** in front of a writer that takes everything. -/
theorem writeThrough_unlimited (taken dump : Bytes) (output : Path) :
    writeThrough .unlimited taken dump output = writeRows .unlimited taken dump output := by
  obtain ⟨hresult, hheld, hlog⟩ := writeRows_alike (s := ⟨[], taken⟩)
    (Writer.buffered_unlimited bufferSize) dump output (List.append_nil taken)
  rw [writeThrough_eq]
  exact Prod.ext hresult (Prod.ext hheld hlog)

end EdgeCsv.Conversion
