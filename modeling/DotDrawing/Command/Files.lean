import DotDrawing.Failure

/-!
A tree of files.

A path is a run of names between slashes; each name but the last is that of a directory. `look` says
what is at a path, and `write` gives a file new content or makes a file in a directory that is
there.
-/

namespace DotDrawing.Command

/-- What is at a path. -/
inductive Sight
  /-- There is nothing to be seen, and why. -/
  | nothing (fault : FileFault)
  | directory
  | file (bytes : ByteArray)

namespace Sight

def isThere : Sight → Bool
  | directory | file _ => true
  | _ => false

def isFile : Sight → Bool
  | file _ => true
  | _ => false

/-- Bytes as text. -/
def decode (bytes : ByteArray) : Except FileFault String :=
  match String.fromUTF8? bytes with
  | some text => .ok text
  | none => .error .notText

/-- The content of the file that is seen, as text. -/
def read : Sight → Except FileFault String
  | nothing fault => .error fault
  | directory => .error .isDirectory
  | file bytes => decode bytes

end Sight

inductive Files.Entry
  | directory
  | file (bytes : ByteArray)

/-- The entries below one directory, by their paths from it. -/
structure Files where
  entries : Dict Files.Entry

namespace Files

def empty : Files := ⟨∅⟩

def names (path : String) : List String := (path.toList.splitOn '/').map String.ofList

/-- The bytes that a name may have. -/
def maxName : Nat := 255

/-- The bytes that a path may have. -/
def maxPath : Nat := 4095

/-- What is wrong with a path, whatever files there are. -/
def pathFault? (path : String) : Option FileFault :=
  if path.toList.contains '\x00' then some .nulInName
  else if path = "" then some .notFound
  else if maxPath < path.utf8ByteSize then some .nameTooLong
  else none

/-- The path of the names from the top on. -/
def key (place : List String) : String := "/".intercalate place

def entry? (fs : Files) (place : List String) : Option Entry :=
  if place.isEmpty then some .directory else fs.entries.get? (key place)

/-- The place that a name leads to from a directory. Empty names and dots stay there. -/
def advance (place : List String) (name : String) : List String :=
  if name = "" ∨ name = "." then place
  else if name = ".." then place.dropLast
  else place ++ [name]

/-- One more name on the way from a place, which must be a directory. -/
def step (fs : Files) (place : List String) (name : String) : Except FileFault (List String) :=
  match fs.entry? place with
  | none => .error .notFound
  | some (.file _) => .error .notDirectory
  | some .directory =>
    if maxName < name.utf8ByteSize then .error .nameTooLong else .ok (advance place name)

/-- The place that names lead to. Nothing need be there. -/
def follow (fs : Files) (names : List String) : Except FileFault (List String) :=
  names.foldlM (step fs) []

def look (fs : Files) (path : String) : Sight :=
  match pathFault? path with
  | some fault => .nothing fault
  | none =>
    match fs.follow (names path) with
    | .error fault => .nothing fault
    | .ok place =>
      match fs.entry? place with
      | none => .nothing .notFound
      | some .directory => .directory
      | some (.file bytes) => .file bytes

/-- The names in front of the last one, and the last one if a file can have it. -/
def splitLast (path : String) : List String × Option String :=
  let all := names path
  match all.getLast? with
  | some last =>
    if last = "" then (all.reverse.dropWhile (· = "") |>.drop 1 |>.reverse, none)
    else if last = "." ∨ last = ".." then (all, none)
    else (all.dropLast, some last)
  | none => ([], none)

/-- The tree with a file of the given content at the path. -/
def write (fs : Files) (path : String) (text : String) : Except FileFault Files := do
  if let some fault := pathFault? path then throw fault
  let (parents, last?) := splitLast path
  let parent ← fs.follow parents
  match fs.entry? parent with
  | none => throw .notFound
  | some (.file _) => throw .notDirectory
  | some .directory =>
    match last? with
    | none => throw .isDirectory
    | some last =>
      let place ← fs.step parent last
      match fs.entry? place with
      | some .directory => throw .isDirectory
      | _ => return ⟨fs.entries.insert (key place) (.file text.toUTF8)⟩

/-- The tree with a directory at the place, unless something is there. -/
def addEntry (fs : Files) (place : List String) : Files :=
  if (fs.entry? place).isSome then fs else ⟨fs.entries.insert (key place) .directory⟩

/-- The tree with directories of the given names, each in the one before, from the place on. -/
def addChain (fs : Files) (place : List String) : List String → Files
  | [] => fs
  | name :: names => (fs.addEntry (place ++ [name])).addChain (place ++ [name]) names

/-- The tree with a directory at the path, and with those on the way to it. -/
def addDirectory (fs : Files) (path : String) : Files :=
  fs.addChain [] ((names path).foldl advance [])

/-- The tree with a file at the path, and with the directories on the way to it. -/
def addFile (fs : Files) (path : String) (bytes : ByteArray) : Files :=
  let place := (names path).foldl advance []
  ⟨(fs.addChain [] place.dropLast).entries.insert (key place) (.file bytes)⟩

end Files

end DotDrawing.Command
