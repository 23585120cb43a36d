import OutageWatch.Cluster.Recording
import OutageWatch.ConfigFile
import OutageWatch.Monitor.Basic
import OutageWatch.Store.Basic

/-!
# The program

The program monitors a recording of a cluster, which it reads from standard input, line by line.
It logs on the standard error stream and writes the last report to the place of the settings, or
to standard output if that place is in memory.
-/

namespace OutageWatch.Program

/-- How the program is used. -/
def usage : String :=
  "measure deployment, statefulset, and deployment config downtime per namespace\n\n" ++
  "Usage: outage-watch [OPTIONS] < recording\n\nOptions:\n" ++
  "  -c, --config-file <FILE>\n      --namespace-prefix <TEXT>\n  -o, --output <LOCATION>\n" ++
  "      --query-timeout <DURATION>\n      --shutdown-grace-period <DURATION>\n" ++
  "  -v, --verbosity <LEVEL>\n  -h, --help\n  -V, --version\n"

/-- The version of the program. -/
def version : String := "outage-watch 0.1.0\n"

/-- The text of what is wrong with a command line. -/
def describe : CommandLine.Halt → String
  | .unknownArgument => "an argument is not known"
  | .missingValue => "a flag has no value"
  | .repeatedFlag => "a flag is given twice"
  | .unexpectedValue => "a request takes no value"
  | .invalidDuration fault => fault.message
  | .help => usage
  | .version => version

/-- The levels that are logged under a filter; one that is not known is like `info`. -/
def shownLevels : String → List Level
  | "trace" | "debug" => [.error, .warn, .info, .debug]
  | "warn" => [.error, .warn]
  | "error" => [.error]
  | "off" => []
  | _ => [.error, .warn, .info]

/-- Logs events. -/
def log (filter : String) (events : List Event) : IO Unit :=
  for e in events do
    if (shownLevels filter).contains e.level then IO.eprintln e.line

/-- The text of a file, or why it cannot be read. -/
def contents (path : String) : IO (Except String String) := do
  return (← (IO.FS.readFile path).toBaseIO).mapError toString

/-- The settings of a command line. -/
def settings (o : Options) : IO Config := do
  let environment ← IO.getEnv namespaceStartVariable
  let text ← o.configFile.elim (pure (.ok "")) contents
  match Config.ofSources (fun _ => text) o environment with
  | .ok c => return c
  | .error fault => throw (IO.userError fault.message)

/-- The rounds of standard input; a line that is no round is a failure. -/
def rounds : IO (List Recording.Round) := do
  let text ← (← IO.getStdin).readToEnd
  let lines := (Text.split '\n' text.toList).filter fun line => line.any (!isBlank ·)
  lines.mapM fun line =>
    match Recording.Round.ofLine? (String.ofList line) with
    | some r => pure r
    | none => throw (IO.userError "a line of the recording is no round")

/-- Writes what was handed over to a store. -/
def save (s : Store) (payload : List UInt8) : IO Unit :=
  match s.backend with
  | .memory => do (← IO.getStdout).write ⟨payload.toArray⟩
  | .localFiles => do
    IO.FS.createDirAll (FilePath.text s.path.segments.dropLast)
    IO.FS.writeBinFile (FilePath.text s.path.segments) ⟨payload.toArray⟩
  | _ => throw (IO.userError ("there is no connection to " ++ s.location))

/-- Monitors a recording under the settings. -/
def monitor (c : Config) (filter : String) (rs : List Recording.Round) : IO Unit := do
  let directory := FilePath.parts ((← IO.getEnv "PWD").getD "/")
  let store ← match Store.connect ⟨[]⟩ Files.empty directory c.outputPath with
    | .ok s => pure s
    | .error fault => throw (IO.userError fault.message)
  let told : Settings := ⟨c.namespaceStart, c.queryTimeout, store.location⟩
  let limit := rs.length + 1
  log filter (rs.flatMap (Recording.Round.events c.namespaceStart))
  let start := rs.head?.elim 0 Recording.Round.time
  let (first, result) :=
    Journal.startTracker (Recording.world c.namespaceStart rs 0) told start limit
  log filter first.events
  let .tracking t := result | return
  let world := Recording.world c.namespaceStart rs first.rounds
  match (Session.new first t).run world told limit with
  | .error crash => throw (IO.userError crash.overflow.message)
  | .ok none => return
  | .ok (some done) =>
    if let some payload := done.session.journal.payloads.getLast? then save store payload
    log filter (done.session.journal.events.drop first.events.length)

/-- Runs the program; the exit code is 2 for a command line that is not understood. -/
def run (words : List String) : IO UInt32 := do
  match CommandLine.read words with
  | .error .help => IO.print usage; return 0
  | .error .version => IO.print version; return 0
  | .error halt => IO.eprintln (describe halt); return 2
  | .ok o =>
    try
      let c ← settings o
      monitor c o.logFilter (← rounds)
      log o.logFilter (graceEvents c.gracePeriod)
      IO.sleep (UInt32.ofNat c.gracePeriod.milliseconds)
      return 0
    catch e =>
      IO.eprintln ("downtime monitor failed: " ++ toString e)
      return 1

end OutageWatch.Program

def main (words : List String) : IO UInt32 := OutageWatch.Program.run words
