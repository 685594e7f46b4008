import JsonShape.Command.Run
import Std.Time.DateTime.Timestamp

/-!
# The command line

A command is run on the files that it names: they are read into a tree before, and what is new or
changed in the tree is written back after.
-/

namespace JsonShape

/-! ### Files -/

/-- The name of a place for the file system. -/
def placeName (l : Place) : String := Text.toString (Text.join "/" l)

/-- What stands at a place of the file system. -/
def probe (l : Place) : IO (Option FileNode) := do
  try
    let bytes ← IO.FS.readBinFile (placeName l)
    return some (.file bytes.toList)
  catch error =>
    match error with
    | .inappropriateType .. => return some .folder
    | _ => return none

/-- The places on the way to a path, its end included. -/
def waypoints (p : Path) : List Place :=
  (List.range (p.parts.length + 1)).map fun n =>
    (p.parts.take n).foldl FileTree.step (FileTree.start p)

/-- Reads what stands on the way to a path and at its end. -/
def gather (files : FileTree) (p : Path) : IO FileTree := do
  let mut files := files
  for place in waypoints p do
    if (files.at? place).isNone then
      if let some node ← probe place then files := files.put place node
  return files

/-- Writes what differs from the tree before. -/
def writeBack (before after : FileTree) : IO Unit := do
  for (place, node) in after.nodes.entries do
    if before.at? place ≠ some node then
      match node with
      | .folder => IO.FS.createDirAll (placeName place)
      | .file content => IO.FS.writeBinFile (placeName place) ⟨content.toArray⟩

/-! ### Surroundings -/

/-- The clock, in seconds since the start of 1970. -/
def readClock : IO Double := do
  let now ← Std.Time.Timestamp.now
  return .ofIntDiv now.toNanosecondsSinceUnixEpoch.val 1000000000

/-- A new ident of eight hexadecimal digits. -/
def drawIdent : IO Text := do
  let bytes ← IO.getRandomBytes 4
  return bytes.toList.flatMap fun b => Numeral.hex 2 b.toNat

/-- All of standard input. -/
partial def readInput (stream : IO.FS.Stream) (read : ByteArray) : IO Bytes := do
  let more ← stream.read 65536
  if more.isEmpty then return read.toList else readInput stream (read ++ more)

/-! ### Programs -/

/-- Writes a text to a stream. -/
def emit (stream : IO.FS.Stream) (t : Text) : IO Unit := do
  stream.putStr (Text.toString t)
  stream.flush

/-- Tells how a command ended. -/
def conclude (e : Ending) : IO UInt32 := do
  match e with
  | .printed t => emit (← IO.getStdout) t
  | .failed t => emit (← IO.getStderr) t
  | .misused reason => emit (← IO.getStderr) ("Usage error: " ++ reason ++ "\n")
  | .crashed cause => emit (← IO.getStderr) ("Stopped: " ++ cause.message ++ "\n")
  return e.status.toUInt32

/-- Runs something on the files that arguments name. -/
def onFiles {α : Type} (reading : Option (Reading α)) (run : FileTree → Report) : IO UInt32 := do
  let paths := reading.elim [] fun r => r.paths.map fun p => Path.ofText p.text
  let before ← paths.foldlM gather default
  let report := run before
  writeBack before report.files
  conclude report.ending

/-- The exporter of the schema of options. -/
def exportSchema (args : List String) : IO UInt32 := do
  let args := args.map Text.ofString
  onFiles (SchemaExport.ofArgs args) fun files => SchemaExport.run files args

end JsonShape

open JsonShape in
/-- The command line. -/
def main (args : List String) : IO UInt32 := do
  let args := args.map Text.ofString
  let reading := Command.ofArgs args
  let readsInput := (reading.bind Reading.request?).any Command.readsInput
  let input ← if readsInput then readInput (← IO.getStdin) ByteArray.empty else pure []
  let surroundings : Surroundings := { input, now := ← readClock, ident := ← drawIdent }
  onFiles reading fun files => Command.runArgs files surroundings args
