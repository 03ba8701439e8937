import SubtreePartition.Command.Bundled
import SubtreePartition.Command.Layout
import SubtreePartition.Command.Scope
import SubtreePartition.FileTree.Change

namespace SubtreePartition.Command

def diskName? (l : Location) : Option String :=
  Text.toString? (Text.slash :: Text.intercalate [Text.slash] l)

def nodeOnDisk (l : Location) : IO (Option Node) := do
  match diskName? l with
  | none => return none
  | some name =>
      let file := (← IO.currentDir) / name
      if ← file.isDir then return some .directory
      else if ← file.pathExists then return some (.file (← IO.FS.readBinFile file).toList)
      else return none

def addFromDisk (t : FileTree) (l : Location) : IO FileTree := do
  match t.find? l with
  | some _ => return t
  | none =>
      match ← nodeOnDisk l with
      | some n => return t.put l n
      | none => return t

def partitionsOnDisk (l : Location) : IO (List Location) := do
  match diskName? l with
  | none => return []
  | some name =>
      let directory := (← IO.currentDir) / name
      if ← directory.isDir then
        let names := (← directory.readDir).toList.map fun entry => Text.ofString entry.fileName
        return (names.filter isPartitionName).map fun name => l ++ [name]
      else return []

def readDisk (s : Scope) : IO FileTree := do
  let current := (FilePath.parse (Text.ofString (← IO.currentDir).toString)).parts
  let t ← (way current ⟨0, []⟩ ++ s.places.flatMap (way current)).foldlM addFromDisk
    ({ current } : FileTree)
  let inside ← (s.workDirs.filterMap fun p => (t.locate p).toOption).mapM partitionsOnDisk
  inside.flatten.foldlM addFromDisk t

def change (c : Change) : IO Unit := do
  match diskName? c.place, c with
  | none, _ => return
  | some name, .makeDirectory _ => IO.FS.createDir name
  | some name, .writeFile _ content => IO.FS.writeBinFile name ⟨content.toArray⟩
  | some name, .removeFile _ => IO.FS.removeFile name

def writeLine (stream : IO.FS.Stream) (t : Text) : IO Unit := do
  stream.write ⟨(Utf8.encode (t ++ [Text.lineFeed])).toArray⟩

def runOnDisk (args : List Text) : IO UInt32 := do
  let before ← readDisk (.ofLine args)
  let r := runLine (fun _ => none) .sound args before
  (before.changes r.tree).forM change
  r.messages.forM (writeLine (← IO.getStderr))
  r.output.forM (writeLine (← IO.getStdout))
  return .ofNat r.ending.code

end SubtreePartition.Command

def main (args : List String) : IO UInt32 :=
  SubtreePartition.Command.runOnDisk (args.map SubtreePartition.Text.ofString)
