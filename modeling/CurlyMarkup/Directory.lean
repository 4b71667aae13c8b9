import CurlyMarkup.Text.Utf8
set_option autoImplicit false

/-!
The working directory: its files and folders, reading files, and making folders and files. What
is above it or elsewhere counts as a folder only where that is certain.
-/

namespace CurlyMarkup

/-- The slashes at the start that count: two, but no more, differ from one. -/
def pathRoot : Text → Text
  | ['/', '/'] => ['/', '/']
  | '/' :: '/' :: c :: _ => if c = '/' then ['/'] else ['/', '/']
  | '/' :: _ => ['/']
  | _ => []

def pathParts (t : Text) : List Text := (Text.split '/' t).filter fun p => p ≠ [] ∧ p ≠ ['.']

def pathText (root : Text) (parts : List Text) : Text :=
  if root.isEmpty && parts.isEmpty then ['.'] else root ++ ['/'].intercalate parts

/-- The shortest spelling: empty parts and single dots say nothing. -/
def normalPath (t : Text) : Text := pathText (pathRoot t) (pathParts t)

inductive FileFault where
  | missing
  | taken
  | notFolder
  | isFolder
  | longName
  deriving DecidableEq, Repr

def FileFault.number : FileFault → Nat
  | .missing => 2
  | .taken => 17
  | .notFolder => 20
  | .isFolder => 21
  | .longName => 36

def FileFault.reason : FileFault → Text
  | .missing => "No such file or directory"
  | .taken => "File exists"
  | .notFolder => "Not a directory"
  | .isFolder => "Is a directory"
  | .longName => "File name too long"

inductive FileError where
  | fault (f : FileFault) (path : Text)
  /-- No file has a name with this character. -/
  | nullInPath
  deriving DecidableEq, Repr

def FileError.message : FileError → Text
  | .fault f path =>
    ([ "[Errno ", Text.ofNat f.number, "] ", f.reason, ": ", path.quoted ] : List Text).flatten
  | .nullInPath => "embedded null byte"

/-- A place by the names on the way to it. The way begins in the working directory unless its
first name is a slash. -/
abbrev Place := List Text

namespace Place

def top : Place := [['/']]

/-- The working directory, a folder that it is in, or the top of all folders. -/
def isAbove (p : Place) : Bool := p.all (· = ['.', '.']) || p = top

def up (p : Place) : Place :=
  if p = top then p else if p.isAbove then p ++ [['.', '.']] else p.dropLast

/-- The place that a name leads to; two dots lead back. -/
def enter (p : Place) (name : Text) : Place := if name = ['.', '.'] then p.up else p ++ [name]

/-- Where a way begins. -/
def start (root : Text) : Place := if root.isEmpty then [] else top

/-- The place as a folder, with the folders on the way to it that are not certain anyway. -/
def folders (p : Place) : List Place :=
  ((List.range (p.length+1)).map fun n => List.take n p).filter fun q => !isAbove q

/-- Whether the place is in the working directory. -/
def isWithin (p : Place) : Bool := p.head? ≠ some ['/'] && p.head? ≠ some ['.', '.']

end Place

inductive Entry where
  | folder
  | file (content : Bytes)
  deriving DecidableEq, Repr

structure Directory where
  files : List (Place × Bytes) := []
  folders : List Place := []

namespace Directory

def entry? (d : Directory) (p : Place) : Option Entry :=
  if p.isAbove || d.folders.contains p then some .folder else (d.files.lookup p).map .file

/-- The most bytes that a name may have. -/
def maxName : Nat := 255

def byteCount (name : Text) : Nat := name.foldl (fun n c => n + c.utf8Size) 0

def enter (d : Directory) (p : Place) (name : Text) : Except FileFault Place :=
  match d.entry? p with
  | none => .error .missing
  | some (.file _) => .error .notFolder
  | some .folder =>
    if maxName < byteCount name then .error .longName
    else .ok (p.enter name)

/-- The place at the end of a way, whether or not there is anything. -/
def walk (d : Directory) (root : Text) (parts : List Text) : Except FileFault Place :=
  parts.foldlM d.enter (Place.start root)

def find (d : Directory) (root : Text) (parts : List Text) : Except FileFault (Place × Entry) :=
  (d.walk root parts).bind fun p => (d.entry? p).elim (.error .missing) fun e => .ok (p, e)

def addFolder (d : Directory) (p : Place) : Directory :=
  { d with folders := (d.folders ++ p.folders).eraseDups }

def addFile (d : Directory) (p : Place) (content : Bytes) : Directory :=
  { folders := (d.folders ++ Place.folders p.dropLast).eraseDups
    files := d.files.filter (·.1 ≠ p) ++ [(p, content)] }

/-- Makes the folders on a way, and tells where it ends. -/
def addWay (d : Directory) (p : Place) : List Text → Directory × Place
  | [] => (d, p)
  | name :: way => addWay (d.addFolder (p.enter name)) (p.enter name) way

/-- Writes a file, making the folders that it is in. -/
def write (d : Directory) (path : Text) (content : Bytes) : Directory :=
  let parts := pathParts path
  let (d, p) := d.addWay (Place.start (pathRoot path)) parts.dropLast
  d.addFile (p.enter (parts.getLastD [])) content

def read (d : Directory) (path : Text) : Except FileError Bytes :=
  if path.contains '\x00' then .error .nullInPath
  else match d.find (pathRoot path) (pathParts path) with
    | .ok (_, .file content) => .ok content
    | .ok (_, .folder) => .error (.fault .isFolder (normalPath path))
    | .error f => .error (.fault f (normalPath path))

/-- Makes a folder and those on the way to it; the parts of the way are given last first. -/
def makeFolder (d : Directory) (root : Text) : List Text → Except FileError Directory
  | [] => .ok d
  | name :: way =>
    let parts := (name :: way).reverse
    match d.find root parts with
    | .ok (_, .folder) => .ok d
    | .ok (_, .file _) => .error (.fault .taken (pathText root parts))
    | .error .missing =>
      (makeFolder d root way).bind fun d =>
        match d.walk root parts with
        | .ok p => .ok (d.addFolder p)
        | .error f => .error (.fault f (pathText root parts))
    | .error f => .error (.fault f (pathText root parts))

/-- Makes the folder that a file is to be in. -/
def makeParent (d : Directory) (path : Text) : Except FileError Directory :=
  let way := (pathParts path).reverse.tail
  if way.any (·.contains '\x00') then .error .nullInPath else d.makeFolder (pathRoot path) way

/-- Makes an empty file unless there is one. -/
def touch (d : Directory) (path : Text) : Except FileError Directory :=
  match d.read path with
  | .ok _ => .ok d
  | .error (.fault .missing shown) =>
    match d.walk (pathRoot path) (pathParts path) with
    | .ok p => .ok (d.addFile p [])
    | .error f => .error (.fault f shown)
  | .error e => .error e

/-- The paths of all that is in the working directory, in order. -/
def paths (d : Directory) : List Text :=
  (((d.files.map Prod.fst ++ d.folders).filter Place.isWithin).map
    ['/'].intercalate).mergeSort Text.isUpTo

end Directory

end CurlyMarkup
