import DotDrawing.Command.Arguments
import DotDrawing.Command.Files
import DotDrawing.Toml.Document

/-!
One run of the command.

A run looks at the format, then at the settings, then at the input, and writes the drawing last.
Nothing is written unless all before it went well. Settings come from the file that is asked for, or
else from the first place where something is found, or else they are the standard ones.
-/

namespace DotDrawing.Command

/-- What a run can see: files, the standard input, and the places to look for settings. -/
structure View where
  look : String → Sight
  stdin : ByteArray
  places : List String

/-- The path that stands for the standard input or output. -/
def standardStream : String := "-"

/-- The place for settings in the working directory. -/
def localPlace : String := "dotviz/config.toml"

/-- The place for settings in a directory for the settings of all programs. -/
def placeIn (directory : String) : String := directory ++ "/dotviz/config.toml"

namespace View

/-- The settings in a file. -/
def readConfig (v : View) (path : String) : Except Failure Config := do
  unless (v.look path).isFile do throw (.config (.missingFile path))
  match (v.look path).read with
  | .error fault => throw (.file fault)
  | .ok text =>
    match (Toml.read? text).bind (Config.ofValue? .ignored) with
    | none => throw (.config (.malformedFile path))
    | some config =>
      match config.check with
      | .error fault => throw (.config (.unusableFile path fault))
      | .ok () => return config

/-- The settings for a run, from the given file if there is one. -/
def loadConfig (v : View) : Option String → Except Failure Config
  | some path => v.readConfig path
  | none =>
    match v.places.find? fun path => (v.look path).isThere with
    | some path => v.readConfig path
    | none => .ok Config.standard

def readInput (v : View) (path : String) : Except Failure String :=
  let text := if path = standardStream then Sight.decode v.stdin else (v.look path).read
  text.mapError Failure.file

/-- The text that a run is to write. -/
def prepare (v : View) (a : Arguments) : Except Failure String := do
  let format ← Format.named a.format
  let config ← v.loadConfig a.config?
  let source ← v.readInput a.input
  config.drawSource source format

end View

/-- What a run can change, and what it reads. -/
structure World where
  files : Files
  stdin : ByteArray
  stdout : String
  /-- The directory for the settings of all programs, if there is one. -/
  settings? : Option String

namespace World

def view (w : World) : View where
  look := w.files.look
  stdin := w.stdin
  places := localPlace :: (w.settings?.map placeIn).toList

/-- Writes a text to a file or to the standard output. -/
def deliver (w : World) (path text : String) : Except Failure World :=
  if path = standardStream then .ok { w with stdout := w.stdout ++ text }
  else ((w.files.write path text).mapError Failure.file).map fun files => { w with files }

/-- What comes of a run, and the world behind it. -/
def run (w : World) (a : Arguments) : Except Failure Unit × World :=
  match w.view.prepare a with
  | .error failure => (.error failure, w)
  | .ok text =>
    match w.deliver a.output text with
    | .error failure => (.error failure, w)
    | .ok w => (.ok (), w)

end World

/-! ### The command as a process -/

def logLevels : List String := ["off", "error", "warn", "info", "debug", "trace"]

/-- What is said about a log level that is none. -/
def logNotice? (a : Arguments) : Option String :=
  if logLevels.any (Text.sameWord a.logLevel) then none
  else some s!"Invalid log level: {a.logLevel}. Using 'warn' instead."

def versionText : String := "dotviz-cli 0.1.0\n"

def usageText : String := "Usage: dotviz [OPTIONS] <INPUT>\n"

def helpText : String :=
  "Command-line interface for rendering Graphviz DOT files to SVG\n\n" ++ usageText ++
  "\nArguments:\n" ++
  "  <INPUT>  Path to the input file (`-` reads standard input)\n" ++
  "\nOptions:\n" ++
  "  -o, --output <OUTPUT>        " ++
    "Path to the output file, or `-` for standard output [default: out.svg]\n" ++
  "  -f, --format <FORMAT>        Output format; only `svg` is produced [default: svg]\n" ++
  "  -c, --config <CONFIG>        Path to configuration file (TOML)\n" ++
  "      --log-level <LOG_LEVEL>  " ++
    "Log level (off, error, warn, info, debug, trace) [default: info]\n" ++
  "  -h, --help                   Print help\n" ++
  "  -V, --version                Print version\n"

/-- What a process with wrong arguments says. -/
def Stop.complaint : Stop → String
  | .noInput => "error: the following required arguments were not provided:\n  <INPUT>\n"
  | .unknownArgument => "error: unexpected argument found\n"
  | .noValue => "error: a value is required for an option but none was supplied\n"
  | .extraValue => "error: unexpected value for an option found; no more were expected\n"
  | .repeated => "error: an argument cannot be used multiple times\n"
  | .help | .version => ""

/-- The end of a process: its exit code, and what it writes to the standard error. -/
structure Ending where
  code : Nat
  stderr : String := ""

def Stop.ending : Stop → Ending
  | .help | .version => ⟨0, ""⟩
  | stop => ⟨2, stop.complaint ++ "\n" ++ usageText⟩

/-- What a stop writes to the standard output. -/
def Stop.output : Stop → String
  | .help => helpText
  | .version => versionText
  | _ => ""

/-- What is said about a failure. -/
def report (f : Failure) : String :=
  "Failed: " ++ f.code ++ "\n" ++ f.message ++ "\n" ++
    (f.help?.elim "" fun help => "help: " ++ help ++ "\n")

/-- The end of a run that came to something. -/
def ending (a : Arguments) (outcome : Except Failure Unit) : Ending :=
  let notice := (logNotice? a).elim "" (· ++ "\n")
  match outcome with
  | .ok () => ⟨0, notice⟩
  | .error failure => ⟨1, notice ++ report failure⟩

/-- The whole process with its arguments. -/
def World.main (w : World) (args : List String) : Ending × World :=
  match Arguments.read args with
  | .error stop => (stop.ending, { w with stdout := w.stdout ++ stop.output })
  | .ok a =>
    let (outcome, w) := w.run a
    (ending a outcome, w)

end DotDrawing.Command
