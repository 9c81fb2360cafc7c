import EdgeCsv.Conversion.Rows

/-!
# Writers

A writer takes bytes and may refuse some of them. Three are used: one that takes everything, one
with room for a limited number of bytes, and one that gathers bytes in a buffer before it passes
them on. A conversion is carried out on a writer step by step until a write is refused.
-/

namespace EdgeCsv.Conversion

/-- Something that bytes can be handed to; `σ` is what it holds. -/
structure Writer (σ : Type) where
  /-- Takes all of the bytes, or fails for good, perhaps after taking some. That it was interrupted
  is no such failure: the bytes left are handed over again. -/
  accept : σ → Bytes → Option IoError × σ

namespace Writer

variable {σ : Type}

/-- Takes everything. -/
def unlimited : Writer Bytes where
  accept taken bytes := (none, taken ++ bytes)

/-- What a writer of limited room holds. -/
structure Limited where
  /-- The bytes taken so far. -/
  taken : Bytes
  /-- How many more bytes there is room for. -/
  room : Nat
  deriving DecidableEq, Repr

/-- Takes what it has room for, and fails for the given reason at the first byte beyond. -/
def limited (reason : IoError) : Writer Limited where
  accept s bytes :=
    if bytes.length ≤ s.room then (none, ⟨s.taken ++ bytes, s.room - bytes.length⟩)
    else (some reason, ⟨s.taken ++ bytes.take s.room, 0⟩)

/-- What a buffering writer holds. -/
structure Buffered (σ : Type) where
  /-- The bytes not passed on yet. -/
  buffer : Bytes
  /-- What the writer behind holds. -/
  behind : σ

/-- Passes the buffer on. If that fails the buffer stays. -/
def flush (w : Writer σ) (s : Buffered σ) : Option IoError × Buffered σ :=
  match w.accept s.behind s.buffer with
  | (some e, behind) => (some e, ⟨s.buffer, behind⟩)
  | (none, behind) => (none, ⟨[], behind⟩)

/-- Gathers bytes in a buffer of the given size. Bytes that do not fit make it pass the buffer on
first; bytes that would fill a whole buffer by themselves are passed on at once. -/
def buffered (size : Nat) (w : Writer σ) : Writer (Buffered σ) where
  accept s bytes :=
    let spare := size - s.buffer.length
    let (failure, s) := if spare < bytes.length then flush w s else (none, s)
    match failure with
    | some e => (some e, s)
    | none =>
      if size ≤ bytes.length then
        let (failure, behind) := w.accept s.behind bytes
        (failure, ⟨s.buffer, behind⟩)
      else (none, ⟨s.buffer ++ bytes, s.behind⟩)

/-- Carries out steps until a write is refused. -/
def carryOut (w : Writer σ) : σ → List Step → Option IoError × σ × List Log.Event
  | s, [] => (none, s, [])
  | s, .say event :: rest =>
    let (failure, s', log) := w.carryOut s rest
    (failure, s', event :: log)
  | s, .write bytes :: rest =>
    match w.accept s bytes with
    | (some e, s') => (some e, s', [])
    | (none, s') => w.carryOut s' rest

end Writer

/-- Converts a dump onto a writer. The path only says where a failure to write happened. -/
def writeRows {σ : Type} (w : Writer σ) (s : σ) (dump : Bytes) (output : Path) :
    Except Error Summary × σ × List Log.Event :=
  let rows := Rows.ofDump dump
  match w.carryOut s rows.steps with
  | (some e, s', log) => (.error (.writeOutput output e), s', log)
  | (none, s', log) => (rows.result.mapError .malformedRecord, s', log)

end EdgeCsv.Conversion
