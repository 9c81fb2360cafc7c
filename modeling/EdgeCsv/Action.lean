import EdgeCsv.FileSystem.Access
import EdgeCsv.Log

/-!
# Actions

An action works on a file system: it ends in a value or an error, leaves a file system behind, and
says things on the way. Actions are done one after the other; the first error ends the work, and
what was changed and said until then stays.
-/

namespace EdgeCsv

/-- How an action ended. -/
structure Outcome (ε α : Type) where
  /-- The value or the error it ended in. -/
  result : Except ε α
  /-- The file system it left. -/
  files : FileSystem
  /-- What it said, in order. -/
  log : List Log.Event

/-- A piece of work on a file system. -/
def Action (ε α : Type) : Type :=
  FileSystem → Outcome ε α

namespace Action

variable {ε ε' α β : Type}

/-- Does an action. -/
def run (act : Action ε α) (fs : FileSystem) : Outcome ε α :=
  act fs

/-- Ends in a value. -/
protected def pure (a : α) : Action ε α :=
  fun fs => ⟨.ok a, fs, []⟩

/-- Does one action and then, unless it failed, the next. -/
protected def bind (act : Action ε α) (next : α → Action ε β) : Action ε β :=
  fun fs =>
    let first := act fs
    match first.result with
    | .error e => ⟨.error e, first.files, first.log⟩
    | .ok a =>
      let second := next a first.files
      ⟨second.result, second.files, first.log ++ second.log⟩

instance : Monad (Action ε) where
  pure := Action.pure
  bind := Action.bind

/-- Ends in an error. -/
def fail (e : ε) : Action ε α :=
  fun fs => ⟨.error e, fs, []⟩

/-- Says something. -/
def say (event : Log.Event) : Action ε Unit :=
  fun fs => ⟨.ok (), fs, [event]⟩

/-- Looks at the file system. -/
def ask (look : FileSystem → Except ε α) : Action ε α :=
  fun fs => ⟨look fs, fs, []⟩

/-- Changes the file system, or fails and leaves it. -/
def update (change : FileSystem → Except ε (α × FileSystem)) : Action ε α :=
  fun fs =>
    match change fs with
    | .error e => ⟨.error e, fs, []⟩
    | .ok (a, fs') => ⟨.ok a, fs', []⟩

/-- Changes the file system, perhaps only in part if it fails. -/
def perform (change : FileSystem → Option ε × FileSystem) : Action ε Unit :=
  fun fs =>
    match change fs with
    | (some e, fs') => ⟨.error e, fs', []⟩
    | (none, fs') => ⟨.ok (), fs', []⟩

/-- Does an action and, if it fails, goes on with what the error calls for. -/
def onError (act : Action ε α) (handle : ε → Action ε' α) : Action ε' α :=
  fun fs =>
    let first := act fs
    match first.result with
    | .ok a => ⟨.ok a, first.files, first.log⟩
    | .error e =>
      let second := handle e first.files
      ⟨second.result, second.files, first.log ++ second.log⟩

/-- The same action, its error seen as another. -/
def mapError (f : ε → ε') (act : Action ε α) : Action ε' α :=
  act.onError fun e => fail (f e)

end Action

end EdgeCsv
