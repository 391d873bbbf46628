import DotDrawing.Command.Run

/-!
The command.

Everything that a run may look at is read beforehand; what the run comes to is then written.
-/

namespace DotDrawing.Command

/-- The failure has the number, which some calls give with a minus sign. -/
def isNumbered (code number : UInt32) : Bool := code == number || code == 0 - number

/-- What a failed call to the file system says about a path. -/
def faultOf (path : String) (e : IO.Error) : FileFault :=
  (Files.pathFault? path).getD <|
    match e with
    | .inappropriateType _ code _ => if isNumbered code 20 then .notDirectory else .isDirectory
    | .invalidArgument _ code _ => if isNumbered code 36 then .nameTooLong else .notFound
    | _ => .notFound

/-- What is at a path of the file system. -/
def seenAt (path : String) : IO Sight := do
  try
    return .file (← IO.FS.readBinFile path)
  catch e =>
    match faultOf path e with
    | .isDirectory => return .directory
    | fault => return .nothing fault

/-- The directory for the settings of all programs. -/
def settingsDirectory : IO (Option String) := do
  match ← IO.getEnv "XDG_CONFIG_HOME" with
  | some path => if path.startsWith "/" then return some path else ofHome
  | none => ofHome
where
  ofHome : IO (Option String) := return (← IO.getEnv "HOME").map (· ++ "/.config")

def surroundings (a : Arguments) : IO View := do
  let places := localPlace :: ((← settingsDirectory).map placeIn).toList
  let paths := a.input :: a.config?.toList ++ places
  let seen ← paths.mapM fun path => return (path, ← seenAt path)
  let stdin ← if a.input = standardStream then (← IO.getStdin).readBinToEnd
    else pure ByteArray.empty
  return { look := fun path => (seen.lookup path).getD (.nothing .notFound), stdin, places }

/-- Writes a text to a file or to the standard output. -/
def writeOut (path text : String) : IO (Except Failure Unit) := do
  try
    if path = standardStream then IO.print text else IO.FS.writeFile path text
    return .ok ()
  catch e => return .error (.file (faultOf path e))

/-- Runs the command with its arguments and gives its exit code. -/
def process (args : List String) : IO UInt32 := do
  let last ← match Arguments.read args with
    | .error stop =>
      IO.print stop.output
      pure stop.ending
    | .ok a =>
      match (← surroundings a).prepare a with
      | .error failure => pure (ending a (.error failure))
      | .ok text => pure (ending a (← writeOut a.output text))
  IO.eprint last.stderr
  return UInt32.ofNat last.code

end DotDrawing.Command

def main (args : List String) : IO UInt32 := DotDrawing.Command.process args
