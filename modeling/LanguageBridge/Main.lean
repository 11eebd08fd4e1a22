import LanguageBridge.Client.Unreachable
import LanguageBridge.CommandLine
import LanguageBridge.Host.Bridge
import LanguageBridge.Settings.Location

/-!
# The program

Commands arrive on standard input, events leave on standard output, one message on each line.  The
program opens no sockets of its own, so the language server is never reached; what the bridge does
without one it does in full.
-/

open LanguageBridge

namespace LanguageBridge.Program

/-- The events that have come out since the last time written, and forgotten. -/
def write (b : Host.Bridge) : IO Host.Bridge := do
  let output ← IO.getStdout
  for e in b.system.events do
    output.putStrLn e.line
  output.flush
  return b.having fun s => { s with events := [] }

/-- The bridge brought up to the present time. -/
def catchUp (start : Nat) (b : Host.Bridge) : IO Host.Bridge := do
  let now ← IO.monoMsNow
  write (b.having (·.passTo (now - start)))

/-- The bridge kept up to date while a line is awaited. -/
partial def nextLine (start : Nat) (b : Host.Bridge) (line : Task (Except IO.Error String)) :
    IO (String × Host.Bridge) := do
  let b ← catchUp start b
  if ← IO.hasFinished line then
    match line.get with
    | .ok text => return (text, b)
    | .error e => throw e
  else
    IO.sleep 5
    nextLine start b line

/-- Lines carried out until they end or the bridge does. -/
partial def serve (start : Nat) (b : Host.Bridge) : IO Unit := do
  let input ← IO.getStdin
  let line ← IO.asTask input.getLine Task.Priority.dedicated
  let (text, b) ← nextLine start b line
  if text.isEmpty then return
  match b.handleLine text with
  | (.ends, b) => discard (catchUp start b)
  | (.goesOn, b) => serve start (← catchUp start b)

/-- The content of a file, if it can be read. -/
def readFile? (path : String) : IO (Option ByteArray) := do
  try
    return some (← IO.FS.readBinFile path)
  catch _ => return none

/-- The bridge started with its settings, and run. -/
def start (o : CommandLine.Options) : IO Unit := do
  let home := (← IO.getEnv "HOME").getD ""
  let path := o.settingsPath.getD (Settings.standardPath home (← IO.getEnv "XDG_CONFIG_HOME"))
  let settings := Settings.load (← IO.getEnv "LSP_HOST") (← readFile? path)
  let options := { settings.options with
    languageId := o.languageId.getD settings.options.languageId }
  let system := (Client.System.fresh options).setSnippets settings.snippets
  let bridge := (Host.Bridge.fresh system).having
    (·.connect (o.endpoint.getD settings.host))
  serve (← IO.monoMsNow) bridge

end LanguageBridge.Program

/-- Runs the program; a command line that makes no sense is refused with exit code two. -/
def main (words : List String) : IO UInt32 := do
  match CommandLine.Order.ofWords words with
  | .ok (.serve options) => Program.start options; return 0
  | .ok .help => IO.println CommandLine.summary; return 0
  | .ok .version => IO.println CommandLine.version; return 0
  | .error fault => IO.eprintln fault.message; return 2
