import DotDrawing.Config.Basic
import DotDrawing.Drawing.Format
import DotDrawing.Drawing.Scene
import DotDrawing.Source.Builder

/-!
Why there is no drawing.

A source is never at fault: any text describes some graph. What can be wrong are the format, the
settings, and the files that are read and written.
-/

namespace DotDrawing

inductive FileFault
  | notFound
  | notDirectory
  | isDirectory
  | nameTooLong
  | nulInName
  | notText
  deriving DecidableEq, Repr

def FileFault.message : FileFault → String
  | notFound => "No such file or directory (os error 2)"
  | notDirectory => "Not a directory (os error 20)"
  | isDirectory => "Is a directory (os error 21)"
  | nameTooLong => "File name too long (os error 36)"
  | nulInName => "file name contained an unexpected NUL byte"
  | notText => "stream did not contain valid UTF-8"

/-- What is wrong with the settings or with the file they should come from. -/
inductive ConfigFault
  | unusable (fault : Config.Fault)
  | missingFile (path : String)
  | malformedFile (path : String)
  | unusableFile (path : String) (fault : Config.Fault)
  deriving DecidableEq

def ConfigFault.message : ConfigFault → String
  | unusable fault => fault.message
  | missingFile path => s!"Missing configuration file: {path}"
  | malformedFile path => s!"Failed to parse TOML configuration in {path}"
  | unusableFile path fault => s!"Validation error in {path}: " ++ fault.message

inductive Failure
  | unsupportedFormat (format : String)
  | file (fault : FileFault)
  | config (fault : ConfigFault)
  deriving DecidableEq

namespace Failure

def message : Failure → String
  | unsupportedFormat format => s!"Unsupported output format `{format}`: only `svg` is supported"
  | file fault => "I/O error: " ++ fault.message
  | config fault => "Configuration error: " ++ fault.message

/-- The word under which the failure is known to other programs. -/
def code : Failure → String
  | unsupportedFormat _ => "dotviz::unsupported_format"
  | file _ => "dotviz::io"
  | config _ => "dotviz::config"

/-- What to do about the failure. -/
def help? : Failure → Option String
  | unsupportedFormat _ => some "pass `--format svg`"
  | file _ => none
  | config _ => some "check the configuration file or remove it to use the defaults"

end Failure

/-- The format of the given name. -/
def Format.named (name : String) : Except Failure Format :=
  match Format.ofWord? name with
  | some format => .ok format
  | none => .error (.unsupportedFormat name)

namespace Config

/-- The drawing of a graph as text. -/
def drawGraph (c : Config) (g : Graph) : Except Failure String :=
  match c.draw g with
  | .ok text => .ok text
  | .error fault => .error (.config (.unusable fault))

/-- The drawing of the graph that a source describes, in a format. -/
def drawSource (c : Config) (source : String) : Format → Except Failure String
  | .svg => c.drawGraph (Graph.parse source)

/-- The drawing of a source in the format of the given name. The format is looked at first. -/
def render (c : Config) (source format : String) : Except Failure String := do
  c.drawSource source (← Format.named format)

end Config

end DotDrawing
