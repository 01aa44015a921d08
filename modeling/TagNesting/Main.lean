import Std.Time.Format
import TagNesting.Program

/-!
# The command

The outer layer: it looks at the environment and at the paths that a run may consult, lets the
program work on what it has seen, and writes the outcome.
-/

namespace TagNesting.Command

open TagNesting.CommandLine TagNesting.Program

/-- What has been seen at a path. -/
structure Sight where
  path : String
  isFile : Bool
  text : Except ReadFault String

/-- The view of the files that have been looked at; elsewhere there is nothing. -/
def filesOf (seen : List Sight) : Files where
  isFile path := seen.any fun s => s.path = path && s.isFile
  read path :=
    match seen.find? (·.path = path) with
    | some s => s.text
    | none => .error .notFound

/-- The reason why the system yields no text. -/
def faultOf (e : IO.Error) : ReadFault :=
  match e with
  | .noFileOrDirectory .. => .notFound
  | .inappropriateType _ code _ => if code = 21 then .isDirectory else .notDirectory
  | e => .other (toString e)

/-- Looks at a path. -/
def look (path : String) : IO Sight := do
  let isFile ← try
      pure ((← (← IO.FS.realPath path).metadata).type matches .file)
    catch _ => pure false
  let text ← try
      let bytes ← IO.FS.readBinFile path
      pure (match String.fromUTF8? bytes with
        | some text => .ok text
        | none => .error .notText)
    catch e => pure (.error (faultOf e))
  return ⟨path, isFile, text⟩

/-- The present time, as the log writes it. -/
def timestamp : IO String := do
  let now ← Std.Time.Timestamp.now
  let utc := Std.Time.DateTime.ofTimestamp now Std.Time.TimeZone.ZoneRules.UTC
  return utc.toPlainDateTime.format "uuuu-MM-dd'T'HH:mm:ss'Z'"

/-- The environment of the process. -/
def environment : IO Environment := do
  return {
    home := ← IO.getEnv "HOME"
    configHome := ← IO.getEnv "XDG_CONFIG_HOME"
    logFilter := ← IO.getEnv "RUST_LOG" }

/-- Writes an outcome and gives its exit status. -/
def write (outcome : Outcome) : IO UInt32 := do
  if let some line := outcome.complaint then IO.eprintln line
  for e in outcome.log do
    IO.eprintln ("[" ++ (← timestamp) ++ " " ++ e.line)
  if let some line := outcome.error then IO.eprintln line
  IO.print outcome.stdout
  return outcome.code.toUInt32

end TagNesting.Command

open TagNesting TagNesting.Command in
/-- The command. -/
def main (argv : List String) : IO UInt32 := do
  let env ← environment
  let paths := match CommandLine.parse argv with
    | .ok args => Program.consulted args env
    | .error _ => []
  let seen ← paths.mapM look
  write (Program.run argv env (filesOf seen))
