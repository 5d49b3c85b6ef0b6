import DocPress.Path
import DocPress.Text.Quoted
import DocPress.Text.Utf8

/-!
# Disks

A disk is a tree of directories and files, seen from a working directory. What lies at a place of
the tree is told by `Node.at?`; a path is followed to a place component by component, through
directories that are there.

An operation that fails leaves the disk alone and says why, and which path it was about.
-/

namespace DocPress

/-- A file with its bytes, or a directory with its entries by name. -/
inductive Node where
  | file (bytes : List UInt8)
  | dir (entries : List (Text × Node))

/-- The names on the way from the root. -/
abbrev Location := List Text

namespace Node

def isDir : Node → Bool
  | file _ => false
  | dir _ => true

/-- The entry of a name. -/
def lookup? (name : Text) : List (Text × Node) → Option Node
  | [] => none
  | (n, x) :: es => if n = name then some x else lookup? name es

/-- What lies at a place below a node. -/
def at? : Location → Node → Option Node
  | [], x => some x
  | _ :: _, file _ => none
  | n :: place, dir es => (lookup? n es).bind (at? place)

/-- Changes the entry of a name: `f` is given what is there, and says what is to be there. A new
entry goes to the end. -/
def alterEntry (f : Option Node → Option Node) (name : Text) :
    List (Text × Node) → List (Text × Node)
  | [] => match f none with
    | some x => [(name, x)]
    | none => []
  | (n, x) :: es =>
    if n = name then
      match f (some x) with
      | some y => (n, y) :: es
      | none => es
    else (n, x) :: alterEntry f name es

/-- Changes what lies at a place. Nothing changes if the directory of the place is not there, and
the root stays what it is if it is to be taken away. -/
def alter (f : Option Node → Option Node) : Location → Node → Node
  | [], x => (f (some x)).getD x
  | _ :: _, file bytes => file bytes
  | n :: place, dir es =>
    match place with
    | [] => dir (alterEntry f n es)
    | _ => dir (alterEntry (fun x => x.map (alter f place)) n es)

end Node

/-- A tree of directories and files, and the place from which paths are seen. -/
structure Disk where
  root : Node
  here : Location

namespace Disk

/-- Why an operation on a path fails. -/
inductive Cause where
  | notFound
  | alreadyExists
  | notADirectory
  | isADirectory
  | nameTooLong
deriving Repr, DecidableEq

/-- The number under which the operating system knows a cause. -/
def Cause.number : Cause → Nat
  | notFound => 2
  | alreadyExists => 17
  | notADirectory => 20
  | isADirectory => 21
  | nameTooLong => 36

def Cause.message : Cause → String
  | notFound => "No such file or directory"
  | alreadyExists => "File exists"
  | notADirectory => "Not a directory"
  | isADirectory => "Is a directory"
  | nameTooLong => "File name too long"

/-- A failed operation. A path that holds a null character is refused before it is followed. -/
inductive Error where
  | failed (cause : Cause) (path : Text)
  | nullCharacter
deriving Repr, DecidableEq

def Error.message : Error → String
  | failed cause path => s!"[Errno {cause.number}] {cause.message}: {path.quoted.str}"
  | nullCharacter => "embedded null byte"

/-- The longest name of an entry, in bytes. -/
def maxName : Nat := 255

/-- The longest path, in bytes. -/
def maxPath : Nat := 4095

/-! ## Following paths -/

/-- Follows components from a place; every place but the last has to be a directory. -/
def follow (root : Node) (place : Location) : List Text → Except Cause Location
  | [] => .ok place
  | c :: cs =>
    match root.at? place with
    | some (.dir entries) =>
      if c = Path.dot then follow root place cs
      else if c = Path.dotDot then follow root place.dropLast cs
      else if (Utf8.encode c).length > maxName then .error .nameTooLong
      else if (Node.lookup? c entries).isSome then follow root (place ++ [c]) cs
      else .error .notFound
    | some (.file _) => .error .notADirectory
    | none => .error .notFound

/-- The components that are followed. A slash at the end asks for a directory, which a single dot
does as well. -/
def steps (path : Text) : List Text :=
  let cs := Path.components path
  if path.getLast? = some '/' then cs ++ [Path.dot] else cs

/-- The place from which a path is followed. -/
def origin (d : Disk) (path : Text) : Location := if Path.isRooted path then [] else d.here

/-- What is wrong with a path before it is followed. -/
def refusal? (path : Text) : Option Error :=
  if path.contains (Char.ofNat 0) then some .nullCharacter
  else if path.isEmpty then some (.failed .notFound path)
  else if (Utf8.encode path).length > maxPath then some (.failed .nameTooLong path)
  else none

/-- The place of something that is there. -/
def locate (d : Disk) (path : Text) : Except Error Location :=
  match refusal? path with
  | some e => .error e
  | none => match follow d.root (d.origin path) (steps path) with
    | .ok place => .ok place
    | .error cause => .error (.failed cause path)

/-- The place at which something of the path's last name is or would be: its directory, which has
to be there, and the name. There is no name if the path ends in dots. -/
def target (d : Disk) (path : Text) : Except Error (Location × Option Text) :=
  match refusal? path with
  | some e => .error e
  | none =>
    let cs := Path.components path
    match follow d.root (d.origin path) cs.dropLast with
    | .error cause => .error (.failed cause path)
    | .ok place =>
      match d.root.at? place, cs.getLast? with
      | some (.dir _), none => .ok (place, none)
      | some (.dir _), some name =>
        if name = Path.dot || name = Path.dotDot then .ok (place, none)
        else if (Utf8.encode name).length > maxName then .error (.failed .nameTooLong path)
        else .ok (place, some name)
      | _, _ => .error (.failed .notADirectory path)

/-- What lies at a path. -/
def node? (d : Disk) (path : Text) : Option Node :=
  match d.locate path with
  | .ok place => d.root.at? place
  | .error _ => none

/-- Something lies at the path. -/
def has (d : Disk) (path : Text) : Bool := (d.node? path).isSome

/-- A directory lies at the path. -/
def hasDir (d : Disk) (path : Text) : Bool := (d.node? path).any Node.isDir

/-- A file lies at the path. -/
def hasFile (d : Disk) (path : Text) : Bool := (d.node? path).any (!·.isDir)

/-- The working directory. -/
def cwd (d : Disk) : Text := '/' :: Text.join ['/'] d.here

/-! ## Reading -/

/-- The bytes of a file. -/
def read (d : Disk) (path : Text) : Except Error (List UInt8) :=
  match d.locate path with
  | .error e => .error e
  | .ok place => match d.root.at? place with
    | some (.file bytes) => .ok bytes
    | some (.dir _) => .error (.failed .isADirectory path)
    | none => .error (.failed .notFound path)

/-! ## Changing -/

/-- The disk with something else at a place. -/
def put (d : Disk) (place : Location) (x : Option Node) : Disk :=
  { d with root := d.root.alter (fun _ => x) place }

/-- Makes a directory in a directory that is there. -/
def makeDir (d : Disk) (path : Text) : Except Error Disk :=
  match d.target path with
  | .error e => .error e
  | .ok (_, none) => .error (.failed .alreadyExists path)
  | .ok (place, some name) =>
    match d.root.at? (place ++ [name]) with
    | some _ => .error (.failed .alreadyExists path)
    | none => .ok (d.put (place ++ [name]) (some (.dir [])))

/-- Makes the directories of a path and those above it that are missing, from the top down; `ps`
are the path and those above it. What was made before a failure stays. -/
def makeUpwards (d : Disk) : List Text → Disk × Option Error
  | [] => (d, none)
  | p :: above =>
    let missing := above.head?.any (!d.has ·)
    let (d, failure) := if missing then makeUpwards d above else (d, none)
    match failure with
    | some e => (d, some e)
    | none =>
      if missing && Path.base p = Path.dot then (d, none)
      else match d.makeDir p with
        | .ok d' => (d', none)
        | .error e => if d.hasDir p then (d, none) else (d, some e)

/-- Makes the directory of a path and those above it, as far as they are missing. -/
def makeDirs (d : Disk) (path : Text) : Disk × Option Error := d.makeUpwards (Path.upwards path)

/-- Takes a directory away with all that is in it. -/
def removeTree (d : Disk) (path : Text) : Except Error Disk :=
  match d.locate path with
  | .error e => .error e
  | .ok place => match d.root.at? place with
    | some (.dir _) => .ok (d.put place none)
    | some (.file _) => .error (.failed .notADirectory path)
    | none => .error (.failed .notFound path)

/-- Writes a file, new or in place of one that is there. -/
def write (d : Disk) (path : Text) (bytes : List UInt8) : Except Error Disk :=
  match d.target path with
  | .error e => .error e
  | .ok (_, none) => .error (.failed .isADirectory path)
  | .ok (place, some name) =>
    match d.root.at? (place ++ [name]) with
    | some (.dir _) => .error (.failed .isADirectory path)
    | _ => .ok (d.put (place ++ [name]) (some (.file bytes)))

end Disk
end DocPress
