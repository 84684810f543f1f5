import ManifestSarif.Program

/-!
# The executable

Gathers the files that the arguments name, asks `Program.respond` what to do, and does it.
-/

namespace ManifestSarif.Main

/-- What is at a path of the file system, if anything. -/
def node? (path : String) : IO (Option Node) := do
  let full := (← IO.currentDir) / path
  if ← full.isDir then return some .directory
  if ← full.pathExists then return some (.file (String.fromUTF8? (← IO.FS.readBinFile full)))
  return none

/-- The disk with what is at a path. -/
def gather (disk : Disk) (path : String) : IO Disk := do
  if (disk.locate path).toOption.bind disk.node? |>.isSome then return disk
  match ← node? path with
  | some node => return disk.place path node
  | none =>
    let parent? := ((← IO.currentDir) / path).parent
    let parent := (parent?.map fun parent => parent.toString).getD ""
    if (← node? parent) = some .directory then return disk.place parent .directory
    return disk

/-- The paths that a run may read or write. -/
def pathsOf (options : Options) : List String :=
  options.report :: options.manifest.toList ++ options.output.toList ++
    Ecosystem.manifests.map fun (name, _) => Path.join "." name

/-- The disk that a run with the arguments starts from. -/
def gatherAll (arguments : List String) : IO Disk := do
  let cwd := (← IO.currentDir).toString
  let start := Disk.initial ((Path.segments cwd).filter (· ≠ ""))
  match CommandLine.parse arguments with
  | .run options => (pathsOf options).foldlM gather start
  | _ => return start

/-- What is printed when there is no run. -/
def noticeText : CommandLine.Request → String
  | .version => "rhda-sarif 0.1.0"
  | .help =>
    "Convert Red Hat Dependency Analytics reports into SARIF pointing at manifest lines.\n\n" ++
      "Usage: rhda-sarif [OPTIONS] --report <PATH>\n\n" ++
      "Options:\n" ++
      "      --report <PATH>          Dependency analysis report (JSON).\n" ++
      "      --manifest <PATH>        Manifest the report was produced for.\n" ++
      "      --ecosystem <ECOSYSTEM>  Manifest ecosystem.\n" ++
      "      --output <PATH>          SARIF destination; - writes to stdout.\n" ++
      "      --fail-on <FAIL_ON>      error, warning or never.\n" ++
      "  -h, --help                   Print help\n" ++
      "  -V, --version                Print version"
  | .refused .missingOption => "error: the option --report <PATH> is required"
  | .refused .unknownArgument => "error: unexpected argument"
  | .refused .invalidValue => "error: invalid or missing value"
  | .refused .repeatedOption => "error: an option is given twice"
  | .refused .unneededValue => "error: a value where none is taken"
  | .run _ => ""

end ManifestSarif.Main

open ManifestSarif in
/-- Runs the program. -/
def main (arguments : List String) : IO UInt32 := do
  let disk ← Main.gatherAll arguments
  let log ← IO.getEnv "RHDA_LOG"
  let validate ← IO.getEnv "RHDA_VALIDATE_SARIF"
  match Program.respond ⟨disk, log, validate⟩ arguments with
  | .noRun code request =>
    if code = 0 then IO.println (Main.noticeText request)
    else IO.eprintln (Main.noticeText request)
    return UInt32.ofNat code
  | .ran code output errors after =>
    for (location, text) in Disk.changedFiles disk after do
      IO.FS.writeFile (Disk.pathText location) text
    IO.print output
    IO.eprint errors
    return UInt32.ofNat code
