import CardLedger.Cli.Program

/-!
# The program

Reads the key from `CARD_ENCRYPTION_KEY` when the command line gives none, reads the input file,
and prints what the run printed.
-/

open CardLedger.Cli

/-- What is found at a path of the file system. -/
def entryAt (path : String) : IO FileEntry := do
  try
    pure (.file (← IO.FS.readFile path))
  catch
    | .noFileOrDirectory .. => pure (.unavailable "No such file or directory (os error 2)")
    | .permissionDenied .. => pure (.unavailable "Permission denied (os error 13)")
    | _ => pure .directory

/-- Runs the program on its command line. -/
def main (args : List String) : IO UInt32 := do
  let envKey ← IO.getEnv "CARD_ENCRYPTION_KEY"
  let exit ← match start args envKey with
    | .finished exit => pure exit
    | .reading path resume => do pure (resume (← entryAt path))
  IO.print exit.stdout
  IO.eprint exit.stderr
  pure exit.code.toUInt32
