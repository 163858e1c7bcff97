import SubmissionRouting.Yaml.Reader

/-! # Files

Forms, responses and settings are kept in files that hold YAML. The files are given by their names
and texts. A name that no file has is followed as a path, part by part through the directories that the
files are in; two points lead back to the directory around. Every line break in a file counts as a line
feed.

* `Files.follow`: where a path leads.
* `Files.text`: the text of a file.
* `Files.read`, `Files.readIfThere`: the value in a file. -/

namespace SubmissionRouting

/-- Texts by the names of files. -/
abbrev Files := List (String × String)

/-- The text with a line feed for every return, or return with line feed. -/
def withLineFeeds : List Char → List Char
  | [] => []
  | '\r' :: '\n' :: cs => '\n' :: withLineFeeds cs
  | '\r' :: cs => '\n' :: withLineFeeds cs
  | c :: cs => c :: withLineFeeds cs

/-! ### Paths -/

/-- The parts of a path without those that lead nowhere. -/
def pathParts (name : String) : List String :=
  ((name.toList.splitOn '/').filter fun part => !part.isEmpty && part ≠ ['.']).map String.ofList

/-- The path starts at the root of all directories. -/
def isAbsolute (name : String) : Bool := name.startsWith "/"

/-- A path without the parts that lead nowhere. -/
def plainPath (name : String) : String :=
  let start := if isAbsolute name then "/" else ""
  match pathParts name with
  | [] => if start = "" then "." else start
  | parts => start ++ "/".intercalate parts

/-- The part that leads to the directory around. -/
def upward : String := ".."

/-- The greatest number of bytes of a part. -/
def partLimit : Nat := 255

/-- The greatest number of bytes of a path. -/
def pathLimit : Nat := 4095

/-- A path leads nowhere, because of one of its parts. -/
def astray (part : String) : FileFault :=
  if part.utf8ByteSize > partLimit then .tooLong else .missing

/-- A path outside of the directories that the files are in leads to a directory around them, or
nowhere. -/
def outside (parts : List String) : FileFault :=
  match parts.dropWhile (· == upward) with
  | [] => .isDirectory
  | part :: _ => astray part

namespace Files

/-- There is a file at a place. -/
def isFile (files : Files) (place : List String) : Bool :=
  files.any fun f => pathParts f.1 == place

/-- There is a directory at a place: some files are in it, or it is the one around all of them. -/
def isDirectory (files : Files) (place : List String) : Bool :=
  place.isEmpty || files.any fun f =>
    place.isPrefixOf (pathParts f.1) && place.length < (pathParts f.1).length

/-- The place of the file to which the parts of a path lead from a place. -/
def follow (files : Files) (place : List String) : List String → Except FileFault (List String)
  | [] => if files.isDirectory place then .error .isDirectory else .ok place
  | part :: parts =>
    if !files.isDirectory place then .error .beyondFile
    else if part = upward then
      if place.isEmpty then .error (outside parts) else files.follow place.dropLast parts
    else if files.isFile (place ++ [part]) || files.isDirectory (place ++ [part]) then
      files.follow (place ++ [part]) parts
    else .error (astray part)

/-- The place of the file with a name. -/
def locate (files : Files) (name : String) : Except FileFault (List String) :=
  if name.toList.contains '\x00' then .error .unnameable
  else if (plainPath name).utf8ByteSize > pathLimit then .error .tooLong
  else if isAbsolute name then .error (outside (pathParts name))
  else files.follow [] (pathParts name)

/-- The file with a name, or else the one to which the name leads as a path; of two files at one place
the later counts. -/
def find (files : Files) (name : String) : Except FileFault (String × String) :=
  match files.reverse.find? fun f => plainPath f.1 == plainPath name with
  | some f => .ok f
  | none => do
    let place ← files.locate name
    match files.reverse.find? fun f => pathParts f.1 == place with
    | some f => .ok f
    | none => .error .missing

/-- The text of the file with a name. -/
def text (files : Files) (name : String) : Except FileFault String := do
  let f ← files.find name
  pure (String.ofList (withLineFeeds f.2.toList))

/-- A fault in the text of a file tells the name of the file. -/
def named {α : Type} (name : String) : Result α → Result α
  | .error (.payload .invalidYaml) => .error (.payload (.invalidYamlIn name))
  | r => r

/-- The value in a file, which is read as the source with a number. -/
def read (files : Files) (source : Nat) (name : String) : Result Value :=
  match files.text name with
  | .error cause => .error (.file cause name)
  | .ok s => named name (Yaml.read source s)

/-- The value in a file, or nothing if there is no such file. A name that is too long is a fault even
then. -/
def readIfThere (files : Files) (source : Nat) (name : String) : Result Value :=
  match files.text name with
  | .error .tooLong => .error (.file .tooLong name)
  | .error _ => pure .null
  | .ok s => named (plainPath name) (Yaml.read source s)

end Files

end SubmissionRouting
