import ManifestSarif.CommandLine
import ManifestSarif.Conversion
import ManifestSarif.Disk
import ManifestSarif.Report.Reader
import ManifestSarif.Sarif.Schema

/-!
# A run of the program

A run reads a report and a manifest from a disk, converts the report, and writes the document to a
file or to the standard output.  Nothing is written before everything else has succeeded.

* `Run.Failure` is why a run fails, `Run.Outcome` what it leaves behind,
* `Run.detect` finds a manifest in a directory, `Run.chooseEcosystem` decides what it is,
* `Run.perform` is the run itself.
-/

namespace ManifestSarif.Run

/-- Why a run fails. -/
inductive Failure where
  /-- A directory holds none of the known manifests. -/
  | noManifest (directory : String)
  /-- The name of the manifest implies no ecosystem. -/
  | unknownManifest (path : String)
  | unreadableReport (path : String) (error : FileError)
  | malformedReport (path : String) (refusal : Report.Refusal)
  | unreadableManifest (path : String) (error : FileError)
  /-- The document has not the shape that its schema asks for. -/
  | invalidDocument (errors : List String)
  | unopenedOutput (path : String) (error : FileError)
  | unwrittenOutput (error : FileError)

/-- The words for the failure, its causes after it. -/
def Failure.messages : Failure → List String
  | noManifest directory =>
    ["no supported manifest found in " ++ directory ++ "; expected one of " ++
      String.intercalate ", " (Ecosystem.manifests.map (·.1))]
  | unknownManifest path => ["unsupported manifest " ++ path]
  | unreadableReport path error => ["failed to read report " ++ path, error.message]
  | malformedReport path refusal => ("failed to load report " ++ path) :: refusal.messages
  | unreadableManifest path error => ["failed to read manifest " ++ path, error.message]
  | invalidDocument errors =>
    ["SARIF schema validation failed:\n" ++ String.intercalate "\n" errors]
  | unopenedOutput path error => ["failed to open " ++ path, error.message]
  | unwrittenOutput error => ["failed to serialize SARIF output", error.message]

/-! ## Choosing what to convert -/

/-- The first of the known manifests that is a file in the directory. -/
def detect (disk : Disk) (directory : String) : Except Failure String :=
  let paths := Ecosystem.manifests.map fun (name, _) => Path.join directory name
  match paths.find? disk.isFile with
  | some path => .ok path
  | none => .error (.noManifest directory)

/-- The ecosystem that is asked for, or else the one that the name of the manifest implies. -/
def chooseEcosystem (explicit : Option Ecosystem) (manifest : String) : Except Failure Ecosystem :=
  match explicit.orElse fun _ => Path.ecosystem? manifest with
  | some ecosystem => .ok ecosystem
  | none => .error (.unknownManifest manifest)

/-- The lines of a manifest on the disk. -/
def manifestLines (disk : Disk) (path : String) (ecosystem : Ecosystem) :
    Except Failure (List String) :=
  match disk.read path with
  | .ok content => .ok (Manifest.lines ecosystem content)
  | .error error => .error (.unreadableManifest path error)

/-- The report on the disk. -/
def loadReport (disk : Disk) (path : String) (ecosystem : Ecosystem) : Except Failure Report :=
  match disk.read path with
  | .error error => .error (.unreadableReport path error)
  | .ok text => (Report.ofText ecosystem text).mapError (.malformedReport path)

/-- The conversion of a report against a manifest on the disk. -/
def convert (disk : Disk) (cwd manifest : String) (ecosystem : Ecosystem) (report : Report) :
    Except Failure Conversion := do
  let lines ← manifestLines disk manifest ecosystem
  return Conversion.ofReport ⟨ecosystem, lines, Path.uri cwd manifest⟩ report

/-! ## Checking and writing -/

/-- Whether a setting switches something on. -/
def isEnabled (setting : Option String) : Bool :=
  setting.any fun value => value = "1" || value.toLower = "true"

/-- Checks the document, if that is asked for. -/
def check (validate : Bool) (document : Sarif.Document) : Except Failure Unit :=
  let errors := if validate then document.schemaErrors else []
  if errors.isEmpty then .ok () else .error (.invalidDocument errors)

/-- A check passes when it is not asked for, or when it finds nothing. -/
theorem check_eq_ok_iff {validate : Bool} {document : Sarif.Document} :
    check validate document = .ok () ↔ (validate = true → document.schemaErrors = []) := by
  rw [check]
  cases validate with
  | false => simp
  | true => cases document.schemaErrors <;> simp

/-- The file that the document goes to, unless it goes to the standard output. -/
def outputFile? (output : Option String) : Option String :=
  output.filter fun path => Path.components path ≠ [.name "-"]

/-- The disk and the standard output after a text is written. -/
def write (disk : Disk) (output : Option String) (text : String) :
    Except Failure (Disk × String) :=
  match outputFile? output with
  | none => .ok (disk, text)
  | some path =>
    match disk.openForWriting path with
    | .error error => .error (.unopenedOutput path error)
    | .ok location =>
      match disk.replace location text with
      | .error error => .error (.unwrittenOutput error)
      | .ok disk => .ok (disk, "")

/-! ## The run -/

/-- What a run starts from: the disk, and the settings of the environment. -/
structure World where
  disk : Disk
  validate : Option String

/-- What a run prints besides the document. -/
inductive Notice where
  | event (event : Log.Event)
  /-- The line that tells the severity. -/
  | severity (severity : Severity)
deriving DecidableEq, Repr

/-- What a run leaves behind. -/
structure Outcome where
  /-- The exit code, or why the run failed. -/
  result : Except Failure Nat
  disk : Disk
  output : String
  notices : List Notice

/-- The exit code for a severity that the policy rejects. -/
def rejectedCode : Nat := 2

/-- The exit code for a severity under a policy. -/
def exitCode (failOn : FailOn) (severity : Severity) : Nat :=
  if failOn.fails severity then rejectedCode else 0

/-- The event that starts a conversion. -/
def startEvent (manifest : String) (ecosystem : Ecosystem) : Log.Event :=
  ⟨.info, .program, [], "converting " ++ manifest ++ " as " ++ ecosystem.name⟩

/-- What is printed after the document. -/
def finalNotices (failOn : FailOn) (severity : Severity) : List Notice :=
  .severity severity ::
    if failOn.fails severity || severity = .none then []
    else
      [.event ⟨.warn, .program, [],
        "vulnerabilities found with " ++ severity.name ++ " severity"⟩]

/-- The manifest that is asked for, or else the one in the working directory. -/
def chooseManifest (disk : Disk) (manifest : Option String) : Except Failure String :=
  match manifest with
  | some path => .ok path
  | none => detect disk "."

/-- A run that fails after some notices, and leaves the disk as it was. -/
def failed (disk : Disk) (notices : List Notice) (failure : Failure) : Outcome :=
  ⟨.error failure, disk, "", notices⟩

/-- The last part of a run: the conversion is checked and written. -/
def deliver (world : World) (options : Options) (notices : List Notice) (conversion : Conversion) :
    Outcome :=
  let document := conversion.document
  match check (isEnabled world.validate) document with
  | .error failure => failed world.disk notices failure
  | .ok () =>
    match write world.disk options.output (document.write ++ "\n") with
    | .error failure => failed world.disk notices failure
    | .ok (disk, output) =>
      ⟨.ok (exitCode options.failOn conversion.severity), disk, output,
        notices ++ finalNotices options.failOn conversion.severity⟩

/-- A run. -/
def perform (world : World) (options : Options) : Outcome :=
  match chooseManifest world.disk options.manifest with
  | .error failure => failed world.disk [] failure
  | .ok manifest =>
    match chooseEcosystem options.ecosystem manifest with
    | .error failure => failed world.disk [] failure
    | .ok ecosystem =>
      let started := [Notice.event (startEvent manifest ecosystem)]
      match loadReport world.disk options.report ecosystem with
      | .error failure => failed world.disk started failure
      | .ok report =>
        match convert world.disk (Disk.pathText world.disk.cwd) manifest ecosystem report with
        | .error failure => failed world.disk started failure
        | .ok conversion =>
          deliver world options (started ++ conversion.events.map .event) conversion

end ManifestSarif.Run
