import WdmNet.Log.Logger
import WdmNet.Json.Print
/-!
Programs run in a directory.

A program runs in a working directory of plain files and ends with an exit code, what it wrote
to its standard output and error, and the files it created. Standard output holds log records,
which the program's log sink writes as lines, and text; standard error holds text.

A path names a file of the directory when, with empty and `.` elements left out, it is one
relative name; any other path names nothing there, so opening it fails with
`open <path>: no such file or directory`, for reading as for writing.
-/

namespace WdmNet.Cli

/-- Something a program writes to standard output. -/
inductive Output where
  | record (r : Log.Record)
  /-- Text, each line ended by a line break. -/
  | text (s : String)
  deriving Repr, Inhabited

/-- A working directory: its files by name, with their text. -/
structure Directory where
  files : List (String × String)
  deriving Repr, Inhabited

/-- How a program ended. -/
structure Exit where
  code : Int
  /-- Where the program's log records go; none when it logs nothing. -/
  sink : Option Log.Sink
  stdout : List Output
  stderr : String
  /-- The files written, by name, with their text. -/
  written : List (String × String)
  deriving Repr, Inhabited

namespace Directory

/-- The file name a path stands for in the directory. -/
def resolve (path : String) : Option String :=
  if path.startsWith "/" || path.endsWith "/" then none
  else
    match (path.splitOn "/").filter (fun p => !p.isEmpty && p != ".") with
    | [name] => if name == ".." then none else some name
    | _ => none

/-- The message of a path that names no file. -/
def missing (path : String) : String := "open " ++ path ++ ": no such file or directory"

/-- The text of the file a path names. -/
def read (d : Directory) (path : String) : Except String String :=
  match resolve path with
  | some name =>
    match d.files.find? (·.1 == name) with
    | some (_, text) => .ok text
    | none => .error (missing path)
  | none => .error (missing path)

/-- Writes text to the file a path names, replacing what it held. -/
def write (d : Directory) (path : String) (text : String) : Except String (Directory × String) :=
  match resolve path with
  | some name => .ok (⟨d.files.filter (·.1 != name) ++ [(name, text)]⟩, name)
  | none => .error (missing path)

end Directory

/-- A log line as printed: key-value text as it is, a JSON object on one line. -/
def lineText : Log.Line → String
  | .text s => s
  | .json ms => Json.compact (.obj ms)

/-- Standard output of an ended program: each record its sink writes as a line, and the text
as it is. -/
def Exit.outputText (x : Exit) : String :=
  String.join (x.stdout.map fun
    | .record r => match x.sink.bind (·.write r) with
      | some l => lineText l ++ "\n"
      | none => ""
    | .text t => t)

end WdmNet.Cli
