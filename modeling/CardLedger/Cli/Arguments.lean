import CardLedger.Binary64.Basic
/-!
# The command line

The program takes one positional argument, the input file `<INPUT>`, and four options that take a
value: `--db-path`, `--encryption-key` (needed unless the environment gives a key; a key on the
command line wins), `--max-generation-attempts` (default 10) and `--max-transfer-retries`
(default 3), both counts. `-h`/`--help` ask for the help text and `-V`/`--version` for the
version.

The tokens are read left to right.

* After `--` every token is positional.
* `--name=value` attaches a value. An option written without one takes the next token, unless
  that token is itself an option.
* `-xyz` is a cluster of short flags, read until the first one that stops the reading.
* A token of its own is the input file. A second one is refused.

An option's value is checked only when the next argument is met or the line ends: an option
given twice, or a count that is not a count, is refused then. So an unknown argument met right
after a bad count is the error reported. After the last token the environment's key stands in
for a missing `--encryption-key`; then a required argument that is still missing is reported.

Error texts end with a usage line. The full usage lists `[OPTIONS]` and the required arguments;
the usage fitted to a call lists the required arguments and the options that were used
(`smartUsage`).
-/

namespace CardLedger

namespace Cli

/-- An argument of the command line. -/
inductive Arg where
  | input
  | dbPath
  | encryptionKey
  | maxGenerationAttempts
  | maxTransferRetries
  | help
  | version
deriving DecidableEq

namespace Arg

/-- The long name of an argument, without its dashes. -/
def long : Arg → String
  | .input => "input"
  | .dbPath => "db-path"
  | .encryptionKey => "encryption-key"
  | .maxGenerationAttempts => "max-generation-attempts"
  | .maxTransferRetries => "max-transfer-retries"
  | .help => "help"
  | .version => "version"

/-- The name of an option's value in usage texts. -/
def valueName? : Arg → Option String
  | .dbPath => some "DB_PATH"
  | .encryptionKey => some "ENCRYPTION_KEY"
  | .maxGenerationAttempts => some "MAX_GENERATION_ATTEMPTS"
  | .maxTransferRetries => some "MAX_TRANSFER_RETRIES"
  | _ => none

/-- How an argument is written in messages and usage lines. -/
def text : Arg → String
  | .input => "<INPUT>"
  | a => match a.valueName? with
    | some v => "--" ++ a.long ++ " <" ++ v ++ ">"
    | none => "--" ++ a.long

def named : List Arg :=
  [.dbPath, .encryptionKey, .maxGenerationAttempts, .maxTransferRetries, .help, .version]

def ofLong (name : String) : Option Arg := named.find? (·.long == name)

/-- The argument of a short name. -/
def ofShort : Char → Option Arg
  | 'h' => some .help
  | 'V' => some .version
  | _ => none

def takesValue (a : Arg) : Bool := a.valueName?.isSome

/-- Whether a call must give the argument. -/
def required : Arg → Bool
  | .input => true
  | .encryptionKey => true
  | _ => false

/-- Whether the value of an argument is a count. -/
def isCount : Arg → Bool
  | .maxGenerationAttempts => true
  | .maxTransferRetries => true
  | _ => false

end Arg

/-! ## Texts -/

def programName : String := "cardvault"

def fullUsage : String := programName ++ " [OPTIONS] --encryption-key <ENCRYPTION_KEY> <INPUT>"

def firsts (l : List Arg) : List Arg :=
  l.foldl (fun kept a => if kept.contains a then kept else kept ++ [a]) []

/-- The usage line fitted to the arguments `used`: the required options, then the other options
used, then the input. -/
def smartUsage (used : List Arg) : String :=
  let all := [Arg.input, .encryptionKey] ++ used
  let options := firsts (all.filter (· != .input))
  String.join (programName :: (options.map (·.text) ++ ["<INPUT>"]).map (" " ++ ·))

def usageFor (used : List Arg) : String :=
  if used.isEmpty then fullUsage else smartUsage used

/-- An error text: the message, its tips, the usage line if any, and the pointer to `--help`. -/
def errorText (message : String) (tips : List String) (usage : Option String) : String :=
  "error: " ++ message ++
    (if tips.isEmpty then "" else "\n" ++ String.join (tips.map ("\n  tip: " ++ ·))) ++
    (match usage with
     | some u => "\n\nUsage: " ++ u
     | none => "") ++
    "\n\nFor more information, try '--help'.\n"

/-- The help text. -/
def helpText : String :=
  "\n".intercalate [
    "Usage: " ++ fullUsage,
    "",
    "Arguments:",
    "  <INPUT>  Input commands CSV file",
    "",
    "Options:",
    "      --db-path <DB_PATH>",
    "          Path to persistent database (optional). If provided, uses RocksDB",
    "      --encryption-key <ENCRYPTION_KEY>",
    "          AES-256 key used to seal card numbers at rest (exactly 32 bytes) " ++
      "[env: CARD_ENCRYPTION_KEY]",
    "      --max-generation-attempts <MAX_GENERATION_ATTEMPTS>",
    "          Attempts before card number generation gives up [default: 10]",
    "      --max-transfer-retries <MAX_TRANSFER_RETRIES>",
    "          Retries of a transfer that lost a concurrent update [default: 3]",
    "  -h, --help",
    "          Print help",
    "  -V, --version",
    "          Print version"] ++ "\n"

def versionText : String := programName ++ " 0.1.0\n"

/-! ## Counts -/

/-- Why a text is not a count. -/
inductive CountError where
  | empty
  | invalidDigit
  | tooLarge

/-- The text of a count error. -/
def CountError.message : CountError → String
  | .empty => "cannot parse integer from empty string"
  | .invalidDigit => "invalid digit found in string"
  | .tooLarge => "number too large to fit in target type"

def countLimit : Nat := Nat.pow 2 64 - 1

/-- Reads digits onto `acc`, refusing a non-digit and then a value past the limit, one
character at a time. -/
def countDigits (acc : Nat) : List Char → Except CountError Nat
  | [] => .ok acc
  | c :: rest =>
    if !c.isDigit then .error .invalidDigit
    else
      let acc := acc * 10 + (c.toNat - 48)
      if acc > countLimit then .error .tooLarge else countDigits acc rest

/-- A count: decimal digits after an optional plus sign. -/
def countOf (text : String) : Except CountError Nat :=
  match text.toList with
  | [] => .error .empty
  | ['+'] => .error .invalidDigit
  | ['-'] => .error .invalidDigit
  | '+' :: rest => countDigits 0 rest
  | cs => countDigits 0 cs

example : (countOf "42").toOption = some 42 := by decide
example : (countOf "-1").toOption = none := by decide

/-! ## Suggestions -/

/-- The characters of `a` matched in `b` by the Jaro rule: each character of `a` takes the first
free equal character of `b` within the search window. The flags of both sides. -/
def jaroFlags (a b : List Char) : List Bool × List Bool :=
  let window := max a.length b.length / 2 - 1
  a.zipIdx.foldl (fun (flags : List Bool × List Bool) (c, i) =>
    let lo := i - window
    let hi := min b.length (i + window + 1)
    match (List.range hi).find? (fun j => lo ≤ j ∧ b[j]? = some c ∧ flags.2[j]? = some false) with
    | some j => (flags.1.set i true, flags.2.set j true)
    | none => flags) (a.map fun _ => false, b.map fun _ => false)

def flagged (cs : List Char) (flags : List Bool) : List Char :=
  (cs.zip flags).filterMap fun (c, f) => if f then some c else none

/-- The Jaro similarity of two texts, `(m / |a| + m / |b| + (m - t) / m) / 3` for `m` matched
characters and `t` transpositions, computed in doubles: each quotient and each sum is rounded,
left to right. The rounding matters at the threshold: a score of exactly 7/10 rounds above the
double nearest 0.7. -/
def jaro (a b : List Char) : Binary64 :=
  if a.isEmpty ∧ b.isEmpty then Binary64.ofNat 1
  else if a.isEmpty ∨ b.isEmpty then Binary64.ofNat 0
  else
    let (fa, fb) := jaroFlags a b
    let ma := flagged a fa
    let mb := flagged b fb
    let m := ma.length
    let t := ((ma.zip mb).filter fun (x, y) => x ≠ y).length / 2
    if m = 0 then Binary64.ofNat 0
    else
      let q (n d : Nat) : Binary64 := Binary64.roundRatio false n d
      (((q m a.length).add (q m b.length)).add (q (m - t) m)).div (Binary64.ofNat 3)

def similarEnough : Binary64 := Binary64.roundRatio false 7 10

/-- The long option most like an unknown name, if one is like it enough (a score above
`similarEnough`); of equally like ones, the last. -/
def suggestion (name : String) : Option Arg :=
  (Arg.named.foldl (fun (best : Option (Arg × Binary64)) a =>
    let score := jaro name.toList a.long.toList
    if !similarEnough.lt score then best
    else match best with
      | some (_, top) => if top.lt score || !score.lt top then some (a, score) else best
      | none => some (a, score)) none).map (·.1)

/-! ## Reading the arguments -/

/-- What a call asks the program to do. -/
structure Settings where
  input : String
  dbPath : Option String := none
  encryptionKey : String
  maxGenerationAttempts : Nat := 10
  maxTransferRetries : Nat := 3

/-- How reading the command line ends without settings. -/
inductive Stop where
  | help
  | version
  | error (text : String)

/-- What has been read so far. -/
structure Scan where
  /-- The arguments taken, in the order they were taken. -/
  present : List Arg := []
  /-- The values taken. -/
  values : List (Arg × String) := []
  /-- The argument whose values are still to be taken. -/
  pending : Option (Arg × List String) := none
  /-- Whether the pending option waits for its value in the next token. -/
  awaiting : Bool := false
  /-- Whether `--` was met. -/
  trailing : Bool := false
  /-- Whether the input file was named. -/
  inputNamed : Bool := false

abbrev ScanM := ExceptT Stop (StateM Scan)

def refuse {α : Type} (text : String) : ScanM α := throw (.error text)

def ignoring (m : ScanM Unit) : ScanM Unit := tryCatch m fun _ => pure ()

/-- Takes the values of an argument: exactly one must have come, the argument must be new, and
a count must read. -/
def take (a : Arg) (values : List String) : ScanM Unit := do
  match values with
  | [] => refuse (errorText ("a value is required for '" ++ a.text ++ "' but none was supplied")
      [] none)
  | v :: _ =>
    if (← get).present.contains a then
      refuse (errorText ("the argument '" ++ a.text ++ "' cannot be used multiple times") []
        (some fullUsage))
    modify fun s => { s with present := s.present ++ [a] }
    if a.isCount then
      match countOf v with
      | .error e => refuse (errorText ("invalid value '" ++ v ++ "' for '" ++ a.text ++ "': " ++
          e.message) [] none)
      | .ok _ => pure ()
    modify fun s => { s with values := s.values ++ [(a, v)] }

/-- Takes the pending argument, if any. -/
def resolve : ScanM Unit := do
  match (← get).pending with
  | none => pure ()
  | some (a, values) =>
    modify fun s => { s with pending := none, awaiting := false }
    take a values

/-- Stops for a flag that asks for help or the version. -/
def flag (a : Arg) : ScanM Unit := do
  resolve
  match a with
  | .help => throw .help
  | _ => throw .version

/-- Refuses an unknown argument. -/
def unknown (text : String) (suggested : Option Arg) (trailingTip : Bool) (usage : String) :
    ScanM Unit :=
  let tips :=
    (match suggested with
     | some s => ["a similar argument exists: '--" ++ s.long ++ "'"]
     | none => []) ++
    (if trailingTip then ["to pass '" ++ text ++ "' as a value, use '-- " ++ text ++ "'"] else [])
  refuse (errorText ("unexpected argument '" ++ text ++ "' found") tips (some usage))

/-- Reads a token that names a long argument (`body` is the token without its dashes). -/
def long (body : String) : ScanM Unit := do
  let (name, value?) := match body.splitOn "=" with
    | [] => (body, none)
    | [n] => (n, none)
    | n :: rest => (n, some ("=".intercalate rest))
  match Arg.ofLong name with
  | none =>
    ignoring resolve
    let s ← get
    let suggested := suggestion name
    let used := match suggested with
      | some a => if s.present.contains a then s.present else s.present ++ [a]
      | none => s.present
    unknown ("--" ++ name) suggested (suggested.isNone ∧ !s.trailing) (usageFor used)
  | some a =>
    if a.takesValue then
      match value? with
      | some v => do
        resolve
        take a [v]
      | none => do
        resolve
        modify fun s => { s with pending := some (a, []), awaiting := true }
    else
      match value? with
      | some v => do
        let used := (← get).present.filter (!·.required) ++ [a]
        ignoring resolve
        refuse (errorText ("unexpected value '" ++ v ++ "' for '" ++ a.text ++
          "' found; no more were expected") [] (some (usageFor used)))
      | none => flag a

/-- Reads a cluster of short flags. -/
def short : List Char → ScanM Unit
  | [] => pure ()
  | c :: rest =>
    match Arg.ofShort c with
    | some a => do
      flag a
      short rest
    | none => do
      ignoring resolve
      unknown ("-" ++ c.toString) none true fullUsage

/-- Reads a positional token. -/
def positional (t : String) : ScanM Unit := do
  if (← get).inputNamed then
    ignoring resolve
    unknown t none false fullUsage
  else
    resolve
    modify fun s => { s with pending := some (.input, [t]), inputNamed := true }

/-- Reads one token. -/
def token (t : String) : ScanM Unit := do
  let s ← get
  if s.trailing then positional t
  else if t = "--" then modify fun s => { s with trailing := true }
  else if t.startsWith "--" then long (t.drop 2).toString
  else if t.startsWith "-" ∧ t.length > 1 then short (t.drop 1).toString.toList
  else if s.awaiting then
    modify fun s =>
      { s with pending := s.pending.map (fun (a, vs) => (a, vs ++ [t])), awaiting := false }
  else positional t

def Scan.value? (s : Scan) (a : Arg) : Option String := s.values.lookup a

/-- Reads every token, then adds the environment's key and checks the required arguments. -/
def scan (args : List String) (envKey : Option String) : ScanM Settings := do
  args.forM token
  resolve
  if !(← get).present.contains .encryptionKey then
    match envKey with
    | some k =>
      modify fun s =>
        { s with present := s.present ++ [.encryptionKey], values := s.values ++ [(.encryptionKey, k)] }
    | none => pure ()
  let s ← get
  let missing := [Arg.encryptionKey, .input].filter (!s.present.contains ·)
  if !missing.isEmpty then
    refuse (errorText ("the following required arguments were not provided:" ++
      String.join (missing.map ("\n  " ++ ·.text))) [] (some (smartUsage (s.present ++ missing))))
  let count (a : Arg) (default : Nat) : Nat :=
    match s.value? a with
    | some v => (countOf v).toOption.getD default
    | none => default
  let input := (s.value? .input).getD ""
  let encryptionKey := (s.value? .encryptionKey).getD ""
  let maxGenerationAttempts := count .maxGenerationAttempts 10
  let maxTransferRetries := count .maxTransferRetries 3
  pure { input, dbPath := s.value? .dbPath, encryptionKey, maxGenerationAttempts,
         maxTransferRetries }

def parse (args : List String) (envKey : Option String) : Except Stop Settings :=
  (((scan args envKey).run).run {}).1

end Cli

end CardLedger
