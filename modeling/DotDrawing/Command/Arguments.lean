/-!
Command-line arguments.

An argument is an option, the value of the option before it, or the input. An option may have its
value attached to it; the value of one that has none is the next argument, if that does not look
like an option itself. Behind `--` there are no options.
-/

namespace DotDrawing.Command

structure Arguments where
  input : String
  output : String := "out.svg"
  format : String := "svg"
  config? : Option String := none
  logLevel : String := "info"
  deriving DecidableEq, Repr

/-- Why arguments do not lead to a run. -/
inductive Stop
  | help
  | version
  | noInput
  | unknownArgument
  | noValue
  /-- A value for an option that takes none. -/
  | extraValue
  | repeated
  deriving DecidableEq, Repr

/-- The options that take a value. -/
inductive Setting
  | output
  | format
  | config
  | logLevel
  deriving DecidableEq, Repr

inductive Flag
  | setting (s : Setting)
  | help
  | version
  deriving DecidableEq, Repr

def Flag.ofName? : String → Option Flag
  | "output" => some (.setting .output)
  | "format" => some (.setting .format)
  | "config" => some (.setting .config)
  | "log-level" => some (.setting .logLevel)
  | "help" => some .help
  | "version" => some .version
  | _ => none

def Flag.ofLetter? : Char → Option Flag
  | 'o' => some (.setting .output)
  | 'f' => some (.setting .format)
  | 'c' => some (.setting .config)
  | 'h' => some .help
  | 'V' => some .version
  | _ => none

/-- What has been read of the arguments. -/
structure Progress where
  input? : Option String := none
  settings : List (Setting × String) := []
  /-- An option that waits for its value, or for its value to be taken over. -/
  pending? : Option (Setting × Option String) := none
  deriving DecidableEq, Repr

namespace Progress

def setting? (p : Progress) (s : Setting) : Option String := p.settings.lookup s

def set (p : Progress) (s : Setting) (value : String) : Except Stop Progress :=
  if (p.setting? s).isSome then .error .repeated
  else .ok { p with settings := (s, value) :: p.settings }

/-- Takes over the option that is pending. -/
def settle (p : Progress) : Except Stop Progress :=
  match p.pending? with
  | none => .ok p
  | some (_, none) => .error .noValue
  | some (s, some value) => { p with pending? := none }.set s value

/-- An option with its value attached. -/
def attach (p : Progress) (s : Setting) (value : String) : Except Stop Progress := do
  (← p.settle).set s value

/-- An option whose value is to come. -/
def await (p : Progress) (s : Setting) : Except Stop Progress :=
  return { ← p.settle with pending? := some (s, none) }

/-- Ends the reading on a flag. -/
def stopAt (p : Progress) (stop : Stop) : Except Stop Progress := do
  discard p.settle
  throw stop

def position (p : Progress) (a : String) : Except Stop Progress := do
  if p.input?.isSome then throw .unknownArgument
  return { ← p.settle with input? := some a }

/-- An argument that is no option: a value that is waited for, or the input. -/
def plain (p : Progress) (a : String) : Except Stop Progress :=
  match p.pending? with
  | some (s, none) => .ok { p with pending? := some (s, some a) }
  | _ => p.position a

/-- An option by its name, from behind two dashes. -/
def long (p : Progress) (cs : List Char) : Except Stop Progress :=
  let value? := match cs.dropWhile (· ≠ '=') with
    | _ :: value => some (String.ofList value)
    | [] => none
  match Flag.ofName? (String.ofList (cs.takeWhile (· ≠ '='))), value? with
  | none, _ => .error .unknownArgument
  | some (.setting s), some value => p.attach s value
  | some (.setting s), none => p.await s
  | some _, some _ => .error .extraValue
  | some .help, none => p.stopAt .help
  | some .version, none => p.stopAt .version

/-- Options by their letters, from behind one dash. -/
def short (p : Progress) : List Char → Except Stop Progress
  | [] => .ok p
  | c :: cs =>
    match Flag.ofLetter? c, cs with
    | none, _ => .error .unknownArgument
    | some .help, _ => p.stopAt .help
    | some .version, _ => p.stopAt .version
    | some (.setting s), [] => p.await s
    | some (.setting s), '=' :: value => p.attach s (String.ofList value)
    | some (.setting s), value => p.attach s (String.ofList value)

def finish (p : Progress) : Except Stop Arguments := do
  let p ← p.settle
  match p.input? with
  | none => throw .noInput
  | some input =>
    let d : Arguments := { input }
    return { d with
      output := (p.setting? .output).getD d.output
      format := (p.setting? .format).getD d.format
      config? := p.setting? .config
      logLevel := (p.setting? .logLevel).getD d.logLevel }

/-- Reads arguments behind `--`. -/
def positions (p : Progress) (args : List String) : Except Stop Arguments := do
  (← args.foldlM position p).finish

def read (p : Progress) : List String → Except Stop Arguments
  | [] => p.finish
  | a :: args =>
    match a.toList with
    | ['-', '-'] => p.positions args
    | '-' :: '-' :: cs => do (← p.long cs).read args
    | '-' :: c :: cs => do (← p.short (c :: cs)).read args
    | _ => do (← p.plain a).read args

end Progress

def Arguments.read (args : List String) : Except Stop Arguments := ({} : Progress).read args

end DotDrawing.Command
