import EdgeCsv.CommandLine.Usage

/-!
# Reading the command line

The words are read from left to right. A setting is followed by its value, in the same word or in
the next; a word that starts with a dash is never a value, unless it is the dash alone. A value is
checked when the next setting or name comes, and the last one of a command only behind the command
that follows it. A word that belongs nowhere is complained about before the value in front of it.
-/

namespace EdgeCsv.CommandLine

/-- Why the reading of a command line ends early. -/
inductive Stop
  | error (e : UsageError)
  | help (c : Command)
  | version
  deriving DecidableEq, Repr

/-- A value that has not been checked yet. -/
inductive Pending
  /-- The value of a setting, once it has come. -/
  | setting (s : Setting) (value : Option Bytes)
  | name (value : Bytes)
  deriving DecidableEq, Repr

/-- What has been said to one command. -/
structure Given where
  /-- The values of settings. -/
  values : List (Setting × Bytes) := []
  /-- The name. -/
  name : Option Bytes := none
  /-- What has not been checked yet. -/
  pending : Option Pending := none
  /-- Whether all further words are names, because two dashes came before them. -/
  namesOnly : Bool := false
  deriving DecidableEq, Repr

namespace Given

/-- The setting that waits for its value. -/
def awaited? (g : Given) : Option Setting :=
  match g.pending with
  | some (.setting s none) => some s
  | _ => none

/-- Adds a value of a setting. It may be given once; a path is not empty, and a text is text. -/
def add (g : Given) (s : Setting) (value : Bytes) : Except UsageError Given :=
  if (g.values.lookup s).isSome then .error (.repeated s)
  else if s.isPath ∧ value = [] then .error (.valueRequired s)
  else if !s.isPath ∧ !Utf8.isValid value then .error .notText
  else .ok { g with values := g.values ++ [(s, value)] }

/-- Checks what has not been checked yet. -/
def settle (g : Given) : Except UsageError Given :=
  let settled := { g with pending := none }
  match g.pending with
  | none => .ok g
  | some (.setting s none) => .error (.valueRequired s)
  | some (.setting s (some value)) => settled.add s value
  | some (.name value) =>
    if Utf8.isValid value then .ok { settled with name := some value } else .error .notText

/-- Meets a setting, with its value if that is in the same word. -/
def meet (g : Given) (s : Setting) (value? : Option Bytes) : Except UsageError Given := do
  let g ← g.settle
  match value? with
  | some value => g.add s value
  | none => .ok { g with pending := some (.setting s none) }

/-- Whether a setting or a name has been given. -/
def isEmpty (g : Given) : Bool :=
  g.values.isEmpty && g.name.isNone

end Given

/-- A usage error ends the reading. -/
def stopOnError {α : Type} (r : Except UsageError α) : Except Stop α :=
  r.mapError .error

/-- The byte of a dash. -/
def dash : UInt8 := 45

/-- The byte of an equals sign. -/
def equals : UInt8 := 61

/-- Ends the reading because of a flag. -/
def Flag.stop (f : Flag) (c : Command) : Stop :=
  match f with
  | .help => .help c
  | .version => .version

/-- Reads a word that starts with two dashes, of which `word` is the rest: a long name and, behind
an equals sign, a value. -/
def readLong (c : Command) (g : Given) (word : Bytes) : Except Stop Given :=
  let name := word.takeWhile (· ≠ equals)
  let value? := (word.dropWhile (· ≠ equals)).tail?
  match c.settings.find? (Bytes.ofString ·.long = name) with
  | some s => stopOnError (g.meet s value?)
  | none =>
    match c.flags.find? (Bytes.ofString ·.long = name), value? with
    | some f, none => do
      let _ ← stopOnError g.settle
      .error (f.stop c)
    | some f, some value => .error (.error (.unexpectedValue (Utf8.lossy value) f))
    | none, _ => .error (.error (.unexpectedArgument ("--" ++ Utf8.lossy name)))

/-- Reads letters behind a dash. A flag ends the reading, so only the first letter counts; what
follows the letter of a setting is its value, with or without an equals sign. -/
def readShort (c : Command) (g : Given) (letters : Bytes) : Except Stop Given :=
  match Utf8.pieces letters with
  | .char letter :: _ =>
    let behind := letters.drop letter.utf8Size
    let value? :=
      match behind with
      | [] => none
      | b :: rest => some (if b = equals then rest else b :: rest)
    match c.settings.find? (·.short? = some letter), c.flags.find? (·.short = letter) with
    | some s, _ => stopOnError (g.meet s value?)
    | none, some f => do
      let _ ← stopOnError g.settle
      .error (f.stop c)
    | none, none => .error (.error (.unexpectedArgument ("-" ++ letter.toString)))
  | _ => .error (.error (.unexpectedArgument ("-" ++ Utf8.lossy letters)))

/-- Reads a word that belongs to no setting. -/
def readName (c : Command) (g : Given) (word : Bytes) : Except Stop Given :=
  let isCommand := c.commands.any (Bytes.ofString ·.1 = word) || word = Bytes.ofString "help"
  if c.takesName ∧ g.name.isNone ∧ !(g.pending matches some (.name _)) then do
    let g ← stopOnError g.settle
    .ok { g with pending := some (.name word) }
  else if c.hasCommands ∧ !(g.namesOnly ∧ isCommand) then
    .error (.error (.unrecognizedCommand (Utf8.lossy word)))
  else .error (.error (.unexpectedArgument (Utf8.lossy word)))

/-- Reads a word that names no command: two dashes alone, a long name, letters, the value that a
setting waits for, or a name. -/
def readWord (c : Command) (g : Given) (word : Bytes) : Except Stop Given :=
  if g.namesOnly then readName c g word
  else if word = [dash, dash] then .ok { g with namesOnly := true }
  else if word.take 2 = [dash, dash] then readLong c g (word.drop 2)
  else if word.head? = some dash ∧ word ≠ [dash] then readShort c g word.tail
  else
    match g.awaited? with
    | some s => .ok { g with pending := some (.setting s (some word)) }
    | none => readName c g word

/-- The command that a word names, unless a setting waits for its value. -/
def command? (c : Command) (g : Given) (word : Bytes) : Option Command :=
  if g.namesOnly ∨ g.awaited?.isSome then none
  else (c.commands.find? (Bytes.ofString ·.1 = word)).map (·.2)

/-- Whether a word asks for help. -/
def asksForHelp (c : Command) (g : Given) (word : Bytes) : Bool :=
  c.hasCommands && !g.namesOnly && g.awaited?.isNone && word = Bytes.ofString "help"

/-- Asks for help on a command of a command. -/
def helpOn (c : Command) : List Bytes → Stop
  | [] => .help c
  | word :: rest =>
    match c.commands.find? (Bytes.ofString ·.1 = word) with
    | some (_, c) => helpOn c rest
    | none =>
      if c.hasCommands ∧ word = Bytes.ofString "help" then .help c
      else .error (.unrecognizedCommand (Utf8.lossy word))

/-- Checks what has been said to a command, when all has been said. -/
def finish (c : Command) (g : Given) (hasCommand : Bool) : Except UsageError Given := do
  let g ← g.settle
  if c.needsCommand ∧ !hasCommand then
    .error (if g.isEmpty then .nothingSaid c else .commandMissing c)
  else if c.required.any fun s => (g.values.lookup s).isNone then .error .requiredMissing
  else if c.takesName ∧ g.name.isNone then .error .requiredMissing
  else .ok g

/-- Reads words, said to a command: what has been said to it, and what to the commands behind it. -/
def read (c : Command) (g : Given) : List Bytes → Except Stop (List (Command × Given))
  | [] => do .ok [(c, ← stopOnError (finish c g false))]
  | word :: rest =>
    match command? c g word with
    | some inner => do
      let behind ← read inner {} rest
      .ok ((c, ← stopOnError (finish c g true)) :: behind)
    | none =>
      if asksForHelp c g word then .error (helpOn c rest)
      else do read c (← readWord c g word) rest

/-- The value of a setting; the one furthest to the right counts. -/
def value? (levels : List (Command × Given)) (s : Setting) : Option Bytes :=
  (levels.reverse.filterMap fun (_, g) => g.values.lookup s).head?

end EdgeCsv.CommandLine
