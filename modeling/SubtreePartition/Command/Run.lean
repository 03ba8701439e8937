import SubtreePartition.Command.Report

namespace SubtreePartition.Command

def programName : Text := "flatsplit"

def programVersion : Text := "0.1.0"

def defaultDirectory : Text := "split"

namespace SplitRequest

def compression (r : SplitRequest) : Compression :=
  if r.compressed then .gzip else .none

def wishes (r : SplitRequest) : Wishes :=
  { workDir := r.workDir.getD (r.source.parent.child defaultDirectory)
    partitionCount := r.partitions
    minSplitSize := r.minSize
    thresholdOverride := r.threshold
    compression := r.compression
    deleteSource := r.deleteSource
    strictOrder := !r.lenient }

def settings (F : Frame) (r : SplitRequest) : Except (Failure F.toLibrary) Settings :=
  match PartitionCount.ofInt? r.partitions with
  | none => .error (.partitionCount r.partitions)
  | some _ => (F.configure r.wishes).mapError .settings

end SplitRequest

/-- Loads indexes and then a hierarchy; what has been reported before a failure stays. -/
def loadResolver (L : Library) (files : FileTree) (hierarchy indexes : FilePath) :
    Except (LoadFailure L) Resolver × Log :=
  match IndexDefinition.load L files indexes with
  | .error failure => (.error failure, [])
  | .ok (definitions, log) =>
      match Hierarchy.load L files hierarchy with
      | .error failure => (.error failure, log)
      | .ok (hierarchy, more) => (.ok { definitions, hierarchy }, log ++ more)

def partitionRow (p : Partition) : List Text :=
  [Text.ofNat p.index, p.path.text, Text.ofNat p.records, Size.display p.size]

def skippedText (paths : List FilePath) : Text :=
  Text.join ["[yellow]Not split:[/yellow] ", (paths.head?.map FilePath.text).getD []]

def partitionTable (r : SplitRequest) (partitions : List Partition) : Table :=
  { title := Text.join ["Partitions of ", r.source.name], rows := partitions.map partitionRow }

def countText (categories : CategorySet) : Text :=
  Text.join ["[dim]", Text.ofNat categories.size, " protected categories[/dim]"]

variable {F : Frame}

def reportReply (r : SplitRequest) (log : Log) : Reply → Report F
  | (.error fault, x) => fail (.split r) (.split r.source fault) log x.tree
  | (.ok paths, x) =>
      if x.worker.phase = .skip then .print 0 [skippedText paths] log x.tree
      else .withTable (partitionTable r x.worker.partitions) log x.tree

variable (m : Medium)

def runSplitter (r : SplitRequest) (files : FileTree) (s : Settings) (boundaries : Boundaries)
    (log : Log) : Report F :=
  let reply := (Worker.new ⟨r.source, s, boundaries, F.loss⟩).split m files
  reportReply r ((log ++ reply.2.log).shown r.verbose) reply

def lacksHierarchy : Text := "--indexes requires --hierarchy"

def runSplit (r : SplitRequest) (files : FileTree) : Report F :=
  match r.settings F, r.hierarchy, r.indexes with
  | .error f, _, _ => fail (.split r) f [] files
  | .ok s, _, none => runSplitter m r files s (.fixed .empty) []
  | .ok _, none, some _ => .left (.usage lacksHierarchy) [] [] files
  | .ok s, some hierarchy, some indexes =>
      match loadResolver F.toLibrary files hierarchy indexes with
      | (.ok resolver, log) => runSplitter m r files s (.derived resolver) log
      | (.error failure, log) => fail (.split r) (.load failure) (log.shown r.verbose) files

def runCategories (hierarchy indexes : FilePath) (files : FileTree) : Report F :=
  match loadResolver F.toLibrary files hierarchy indexes with
  | (.error failure, _) => fail (.categories hierarchy indexes) (.load failure) [] files
  | (.ok resolver, _) =>
      let categories := resolver.resolve.1
      .print 0 (categories.names ++ [countText categories]) [] files

def run (c : Command) (files : FileTree) : Report F :=
  match c with
  | .split request => runSplit m request files
  | .categories hierarchy indexes => runCategories hierarchy indexes files
  | .version => .print 0 [Text.join [programName, " ", programVersion]] [] files
  | .help => { ending := .exit 0, tree := files }

end SubtreePartition.Command
