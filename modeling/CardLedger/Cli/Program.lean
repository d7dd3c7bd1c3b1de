import CardLedger.Cli.Arguments
import CardLedger.Script.Runner
import CardLedger.Store

/-!
# A run of the program

A run reads the command line, then:

1. prepares the sealer from the key's UTF-8 bytes;
2. opens the store, first warning on the error stream when `--db-path` asks for a persistent
   store, which this program does not have (the cards stay in memory);
3. builds the engine, which checks the settings;
4. opens the input file.

A failure in steps 1 to 4 ends the run with code 1 and one report line
`Error:   × <message>` followed by a blank line. Otherwise every record of the input runs as
a script command; a record that is not a command and a command that fails each print a line on
the error stream, and the run ends by printing the card report as CSV, with code 0.

The file system is outside the run: `start` either finishes or asks for the input file and
resumes with what was found there.
-/

namespace CardLedger

namespace Cli

/-- What a run printed, and its exit code. -/
structure Exit where
  code : Nat
  stdout : String := ""
  stderr : String := ""

/-- What was found at the input path. -/
inductive FileEntry where
  /-- A readable file and its text. -/
  | file (text : String)
  /-- A directory: it opens, and reading it gives no records. -/
  | directory
  /-- Nothing could be opened, for the reason given. -/
  | unavailable (message : String)

/-- A run that has read its command line. -/
inductive Launch where
  /-- The run is over. -/
  | finished (exit : Exit)
  /-- The run needs the entry at `path` to go on. -/
  | reading (path : String) (resume : FileEntry → Exit)

def storeWarning : String :=
  "WARNING: Persistent storage requested via --db-path, but 'storage-rocksdb' feature is not " ++
  "enabled. Falling back to In-Memory storage.\n"

def fatal (stderr message : String) : Exit :=
  { code := 1, stderr := stderr ++ "Error:   × " ++ message ++ "\n\n" }

/-- The error line of a record of the script. -/
def recordLine : ScriptRunner.RecordResult → String
  | .applied => ""
  | .unreadable e => "Error reading command: " ++ e.message ++ "\n"
  | .refused e => "Error processing command: " ++ e.message ++ "\n"

/-- Runs the script `text` on a fresh engine and prints the report. -/
def runScript (engine : Engine Store) (stderr : String) (text : String) : Exit :=
  let (results, runner) := ({ engine } : ScriptRunner Store).runText text
  let stderr := stderr ++ String.join (results.map recordLine)
  match runner.report with
  | .ok rows => { code := 0, stdout := CardRow.csv rows, stderr }
  | .error e => fatal stderr e.message

/-- Reads the command line and goes as far as the input file. -/
def start (args : List String) (envKey : Option String) : Launch :=
  match parse args envKey with
  | .error .help => .finished { code := 0, stdout := helpText }
  | .error .version => .finished { code := 0, stdout := versionText }
  | .error (.error text) => .finished { code := 2, stderr := text }
  | .ok settings =>
    match Sealer.ofKey settings.encryptionKey.toUTF8.toList with
    | .error e => .finished (fatal "" e.message)
    | .ok sealer =>
      let config : Config := { maxGenerationAttempts := settings.maxGenerationAttempts,
                               maxTransferRetries := settings.maxTransferRetries }
      let warning := if settings.dbPath.isSome then storeWarning else ""
      match Engine.create (Store.empty sealer) sealer config Entropy.initial with
      | .error e => .finished (fatal warning e.message)
      | .ok engine =>
        .reading settings.input fun
          | .unavailable message => fatal warning message
          | .directory => runScript engine warning ""
          | .file text => runScript engine warning text

/-- A whole run, with the input file looked up by `entryAt`. -/
def run (args : List String) (envKey : Option String) (entryAt : String → FileEntry) : Exit :=
  match start args envKey with
  | .finished exit => exit
  | .reading path resume => resume (entryAt path)

end Cli

end CardLedger
