import OperatorShell.Text.Utf8

/-!
# Files

A tree of directories and files, and the working directory. Paths are texts. A path that does not
begin with a slash starts at the working directory.

* `Files.read`, `Files.readText`: the contents of a file.
* `Files.makeDirs`: a directory with all directories above it.
* `Path.parent?`: the path of the directory above.
* `Files.openForAppend`, `Files.append`: a file of which only the end changes. Opening it creates
  the file, and the directories above it.
-/

namespace OperatorShell

/-- Why an operation on files fails. -/
inductive FileError where
  | notFound
  | alreadyExists
  | notDirectory
  | isDirectory
  | nameTooLong
  | nulInName
  | notUtf8
  deriving DecidableEq, Repr

/-- The wording of a file's fault. -/
def FileError.message : FileError → Text
  | .notFound => "No such file or directory (os error 2)".toList
  | .alreadyExists => "File exists (os error 17)".toList
  | .notDirectory => "Not a directory (os error 20)".toList
  | .isDirectory => "Is a directory (os error 21)".toList
  | .nameTooLong => "File name too long (os error 36)".toList
  | .nulInName => "file name contained an unexpected NUL byte".toList
  | .notUtf8 => "stream did not contain valid UTF-8".toList

/-! ## Paths -/

namespace Path

/-- The segments of a path between its slashes. -/
def segments (path : Text) : List Text := Text.splitOn '/' path

/-- The segments of a path without the empty ones. -/
def parts (path : Text) : List Text := (segments path).filter (· ≠ [])

/-- Whether a path starts at the root. -/
def isAbsolute (path : Text) : Bool := path.head? = some '/'

/-- A path with one more name at its end. -/
def join (path name : Text) : Text :=
  if path = [] ∨ path.getLast? = some '/' then path ++ name else path ++ '/' :: name

/-- The name of the directory itself. -/
def here : Text := ['.']

/-- The name of the directory above. -/
def above : Text := ['.', '.']

/-- Drops segments at the end of a path that name nothing; the last comes first. The first segment
of a path always stays. -/
def dropUnnamed : List Text → List Text
  | [] => []
  | [first] => [first]
  | segment :: up => if segment = [] ∨ segment = here then dropUnnamed up else segment :: up

/-- The path of the directory above, empty for a single name. -/
def parent? (path : Text) : Option Text :=
  match dropUnnamed (segments path).reverse with
  | [] | [[]] => none
  | _ :: up =>
    match dropUnnamed up with
    | [[]] => some ['/']
    | up => some (Text.intersperse ['/'] up.reverse)

/-- The most bytes of a path. -/
def maxBytes : Nat := 4095

/-- The most bytes of a part. -/
def maxPartBytes : Nat := 255

end Path

/-- A place in the tree: the names on the way from the root. -/
abbrev Place := List Text

/-- A file, or a directory with what is in it by name. -/
inductive Entry where
  | file (content : Bytes)
  | dir (entries : List (Text × Entry))

namespace Entry

/-- What a directory has under a name. -/
def child? (entries : List (Text × Entry)) (name : Text) : Option Entry :=
  (entries.find? fun e => e.1 = name).map (·.2)

/-- The entries of a directory with a new one under a name. -/
def setChild (entries : List (Text × Entry)) (name : Text) (e : Entry) : List (Text × Entry) :=
  (name, e) :: entries.filter fun other => other.1 ≠ name

/-- What is at a place below an entry. -/
def at? (e : Entry) : Place → Option Entry
  | [] => some e
  | name :: rest =>
    match e with
    | file _ => none
    | dir entries => (child? entries name).bind (·.at? rest)

/-- An entry with something put at a place below it. Directories on the way are made. -/
def put (new : Entry) : Place → Entry → Entry
  | [], _ => new
  | _ :: _, file content => file content
  | name :: rest, dir entries =>
    dir (setChild entries name (put new rest ((child? entries name).getD (dir []))))

/-! ### Laws -/

theorem child?_setChild (entries : List (Text × Entry)) (name : Text) (e : Entry) :
    child? (setChild entries name e) name = some e := by
  simp [child?, setChild]

theorem at?_put {e old : Entry} (new : Entry) {place : Place} (h : e.at? place = some old) :
    (put new place e).at? place = some new := by
  induction place generalizing e with
  | nil => rw [put, at?]
  | cons name rest ih =>
    cases e with
    | file content => simp [at?] at h
    | dir entries =>
      obtain ⟨inner, hinner, hrest⟩ := Option.bind_eq_some_iff.1 (show
        (child? entries name).bind (·.at? rest) = some old from h)
      show (child? (setChild entries name _) name).bind (·.at? rest) = some new
      rw [child?_setChild, hinner, Option.getD_some, Option.bind_some]
      exact ih hrest

end Entry

/-- Everything there is, and the working directory. -/
structure Files where
  root : Entry := .dir []
  cwd : Place := []

namespace Files

/-- Only the working directory, with the directories above it. -/
def onlyDir (cwd : Place) : Files where
  root := Entry.put (.dir []) cwd (.dir [])
  cwd := cwd

/-- What is at a place. -/
def at? (fs : Files) (place : Place) : Option Entry := fs.root.at? place

/-- Puts something at a place. -/
def put (fs : Files) (place : Place) (entry : Entry) : Files :=
  { fs with root := Entry.put entry place fs.root }

/-- Follows parts from a place. Every part is looked for in a directory. -/
def follow (fs : Files) (place : Place) : List Text → Except FileError Place
  | [] => .ok place
  | part :: rest =>
    match fs.at? place with
    | none => .error .notFound
    | some (.file _) => .error .notDirectory
    | some (.dir _) =>
      if part = Path.here then fs.follow place rest
      else if part = Path.above then fs.follow place.dropLast rest
      else if Path.maxPartBytes < Text.byteLength part then .error .nameTooLong
      else fs.follow (place ++ [part]) rest

/-- Where a path starts. -/
def startOf (fs : Files) (path : Text) : Place := if Path.isAbsolute path then [] else fs.cwd

/-- Refuses a path that no system call would take. -/
def checkPath (path : Text) : Except FileError Unit :=
  if path.contains '\x00' then .error .nulInName
  else if path = [] then .error .notFound
  else if Path.maxBytes < Text.byteLength path then .error .nameTooLong
  else .ok ()

/-- The place of a path. A slash at the end asks for a directory. -/
def locate (fs : Files) (path : Text) : Except FileError Place := do
  checkPath path
  let slash := if path.getLast? = some '/' then [Path.here] else []
  fs.follow (fs.startOf path) (Path.parts path ++ slash)

/-! ## Reading -/

/-- The bytes of a file. -/
def read (fs : Files) (path : Text) : Except FileError Bytes := do
  match fs.at? (← fs.locate path) with
  | none => throw .notFound
  | some (.dir _) => throw .isDirectory
  | some (.file content) => return content

/-- The text of a file. -/
def readText (fs : Files) (path : Text) : Except FileError Text := do
  match Text.decodeUtf8? (← fs.read path) with
  | none => throw .notUtf8
  | some text => return text

/-! ## Writing -/

/-- Makes the directories on the way that parts lead from a place, and gives the fault that ends the
way early. A way that ends early before anything was made meets a file as no directory; afterwards
the file is in the way of a new directory. -/
def makeDirsFrom (fs : Files) (place : Place) (made : Bool) :
    List Text → Files × Option FileError
  | [] => (fs, none)
  | part :: rest =>
    if part = Path.here then fs.makeDirsFrom place made rest
    else if part = Path.above then fs.makeDirsFrom place.dropLast made rest
    else if Path.maxPartBytes < Text.byteLength part then (fs, some .nameTooLong)
    else
      let next := place ++ [part]
      match fs.at? next with
      | some (.dir _) => fs.makeDirsFrom next made rest
      | some (.file _) =>
        (fs, some (if made || rest.isEmpty then .alreadyExists else .notDirectory))
      | none => (fs.put next (.dir [])).makeDirsFrom next true rest

/-- Makes a directory with all directories above it. One that is already there is as good as a new
one. -/
def makeDirs (fs : Files) (path : Text) : Files × Option FileError :=
  match checkPath path with
  | .error e => (fs, some e)
  | .ok () => fs.makeDirsFrom (fs.startOf path) false (Path.parts path)

/-- Opens the file of a path for appending; its directory is there already. -/
def openFile (fs : Files) (path : Text) : Except FileError (Files × Place) := do
  checkPath path
  match (Path.parts path).getLast? with
  | none => throw .isDirectory
  | some last =>
    let parent ← fs.follow (fs.startOf path) (Path.parts path).dropLast
    match fs.at? parent with
    | none => throw .notFound
    | some (.file _) => throw .notDirectory
    | some (.dir _) =>
      if path.getLast? = some '/' then throw .isDirectory
      let place ← fs.follow parent [last]
      match fs.at? place with
      | some (.dir _) => throw .isDirectory
      | some (.file _) => return (fs, place)
      | none => return (fs.put place (.file []), place)

/-- Opens the file of a path for appending. The directories above it are made first, and stay even
if the file cannot be opened. -/
def openForAppend (fs : Files) (path : Text) : Files × Except FileError Place :=
  let parent := (Path.parent? path).getD []
  let (fs, fault) := if parent = [] then (fs, none) else fs.makeDirs parent
  match fault with
  | some e => (fs, .error e)
  | none =>
    match fs.openFile path with
    | .ok (fs, place) => (fs, .ok place)
    | .error e => (fs, .error e)

/-- Adds bytes to the end of the file at a place. -/
def append (fs : Files) (place : Place) (bytes : Bytes) : Files :=
  match fs.at? place with
  | some (.file content) => fs.put place (.file (content ++ bytes))
  | _ => fs

/-! ## Laws -/

theorem at?_append {fs : Files} {place : Place} {content : Bytes} (bytes : Bytes)
    (h : fs.at? place = some (.file content)) :
    (fs.append place bytes).at? place = some (.file (content ++ bytes)) := by
  rw [append, h]
  exact Entry.at?_put _ h

end Files

end OperatorShell
