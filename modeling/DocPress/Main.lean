import DocPress.Command.Run
import DocPress.Disk.Changes

/-!
# The program

What the command may look at is read into a disk: the settings, the names below the sources, the
sources that are found among them, and what lies at the output. The command runs on that disk, and
how the disk differs afterwards is carried out.
-/

namespace DocPress.Program

/-- The path from the root as the operating system takes it, seen from the working directory. -/
private def absolute (d : Disk) (path : Text) : Text := Path.absolute d.cwd path

/-- The disk on which nothing lies but the working directory. -/
def start : IO Disk := do
  let cwd := (← IO.currentDir).toString.toList
  return { (Disk.makeDirs ⟨.dir [], []⟩ cwd).1 with here := Path.components cwd }

/-- The disk with a node at a path, and directories above it. -/
def place (d : Disk) (path : Text) (x : Node) : Disk :=
  (d.makeDirs (Path.parent path)).1.put (Path.components path) (some x)

/-- What lies at a path. Unless `full`, files count by their names and stay unread. Links to
directories count as directories with nothing in them. -/
partial def look (full : Bool) (path : String) : IO Node := do
  let here := (← IO.currentDir) / path
  if ← here.isDir then
    let entries ← here.readDir
    let nodes ← entries.toList.mapM fun e => do
      let isLink := (← e.path.symlinkMetadata).type matches .symlink
      let node ← if isLink && (← e.path.isDir) then pure (.dir [])
        else look full (path ++ "/" ++ e.fileName)
      return (e.fileName.toList, node)
    return .dir nodes
  else if full then return .file (← IO.FS.readBinFile here).toList
  else return .file []

/-- Adds all that lies at a path and below it. -/
def addTree (full : Bool) (d : Disk) (path : Text) : IO Disk := do
  if ← ((← IO.currentDir) / path.str).pathExists then
    return place d path (← look full path.str)
  else return d

/-- Adds the file or the directory at a path, with nothing new in the directory. -/
def add (d : Disk) (path : Text) : IO Disk := do
  let here := (← IO.currentDir) / path.str
  if ← here.isDir then return (d.makeDirs path).1
  else if ← here.pathExists then
    return place d path (.file (← IO.FS.readBinFile here).toList)
  else return d

/-- The places at which the settings may lie. -/
def settingsPlaces (d : Disk) (o : Options) : List Text :=
  let chosen := absolute d o.config
  chosen :: Settings.fileNames.map (Path.append chosen)

/-- Adds what the settings lead to. -/
def addChosen (d : Disk) (o : Options) (s : Settings) : IO Disk := do
  let request := Collect.request d.cwd s
  let output := s.outputPath d.cwd
  let d ← request.sources.foldlM (addTree false) d
  let ignoreFile := Path.append request.cwd Ignore.fileName
  let d ← (ignoreFile :: settingsPlaces d o).foldlM add d
  let d ← (Discovery.run d request).value.found.foldlM add d
  let d ← (Path.upwards output).reverse.foldlM add d
  addTree true d output

/-- The disk with all that the command may look at. -/
def gather (o : Options) : IO Disk := do
  let d ← start
  let d ← (settingsPlaces d o).foldlM add d
  match (Command.settings d o).value with
  | .error _ => return d
  | .ok s => addChosen d o s

/-- Removes what lies at a path, all of a directory, but of a link only the link. -/
def remove (path : String) : IO Unit := do
  let here := (← IO.currentDir) / path
  if (← here.symlinkMetadata).type matches .dir then IO.FS.removeDirAll here
  else IO.FS.removeFile here

/-- Carries changes out: what is gone is removed from the bottom up, then what is new is
written. -/
def carryOut (c : Changes) : IO Unit := do
  for path in c.removed.reverse do
    remove ("/" ++ (Text.join ['/'] (Path.components path)).str)
  for (path, content) in c.written do
    match content with
    | none => IO.FS.createDirAll ("/" ++ path.str)
    | some bytes => IO.FS.writeBinFile ("/" ++ path.str) ⟨bytes.toArray⟩

/-- Says how the command ended, and yields its code. -/
def finish : Command.Ending → IO UInt32
  | .exit code => return code.toUInt32
  | .usage f => do
    IO.eprintln f.line
    return 2
  | .broken e => do
    IO.eprintln (e.message?.getD "The settings cannot be read.")
    return 1

end DocPress.Program

open DocPress in
/-- Runs the command with the arguments of the program. -/
def main (arguments : List String) : IO UInt32 := do
  let arguments := arguments.map String.toList
  let before ← match Options.read arguments with
    | .ok o => Program.gather o
    | .error _ => Program.start
  let outcome := Command.run before arguments
  for r in outcome.log do
    IO.eprintln r.line
  IO.print outcome.output.str
  Program.carryOut (Changes.between before.root outcome.disk.root)
  Program.finish outcome.ending
