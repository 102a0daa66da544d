import Testbed.Cli.Run

/-!
# The command line

The program reads its arguments, loads the settings file it would read (the one named by
`--config`, or the default file when present) into the bench's disk, runs the command line on
a host whose search path holds no engine, and prints what the command wrote, ending with the
command's exit status.
-/

open Testbed

/-- The settings file a command line reads: the value of `--config`, or the default file. -/
def settingsPath : List String → String
  | "--config" :: path :: _ => path
  | word :: rest =>
    if word.startsWith "--config=" then (word.drop "--config=".length).toString
    else settingsPath rest
  | [] => Config.defaultFile

def readIfPresent (path : String) : IO (Option String) := do
  try
    let text ← IO.FS.readFile path
    pure (some text)
  catch _ => pure none

def main (args : List String) : IO UInt32 := do
  let path := settingsPath args
  let disk : Disk := match ← readIfPresent path with
    | some text => ((({} : Disk).makeDirs (Path.dir path)).toOption.getD {}).write path text
        |>.toOption.getD {}
    | none => {}
  let bench : Bench := { machine := .host {}, disk }
  let (code, after) := (Cli.execute (fun b => b.disk.source) {} args).run bench
  IO.print after.stdout
  IO.eprint after.stderr
  (← IO.getStdout).flush
  pure (code.toNat % 256).toUInt32
