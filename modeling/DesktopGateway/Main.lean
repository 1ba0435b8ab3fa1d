import DesktopGateway.Startup.Launch

/-!
# The command line

The gateway as a program. It takes its settings from a file that the environment names, writes its
log to the standard output and the obstacle that ends it to the standard error, and is stopped by
the end of its input.
-/

namespace DesktopGateway.CommandLine

open DesktopGateway.Host
open DesktopGateway.Logging
open DesktopGateway.Startup
open DesktopGateway.Text

def failureOf : IO.Error → Failure
  | .noFileOrDirectory .. => .refused .noEntry
  | .permissionDenied .. => .refused .accessDenied
  | .inappropriateType .. => .refused .isDirectory
  | error => .described .other (toString error)

def readText (path : String) : IO (Except Failure String) := do
  match ← (IO.FS.readBinFile path).toBaseIO with
  | .error error => return .error (failureOf error)
  | .ok bytes => return (Utf8.decode bytes.toList).mapError fun _ => Volume.notText

/-- The settings file and the files that it names, read before the launch. -/
def readFiles (path : String) : IO (String → Except Failure String) := do
  let first ← readText path
  let trust := match Settings.load (fun _ => first) path with
    | .ok settings => [settings.trust.authority, settings.trust.certificate, settings.trust.key]
    | .error _ => []
  let others ← trust.mapM fun path => do return (path, ← readText path)
  return fun wanted =>
    (((path, first) :: others).lookup wanted).getD (.error (.refused .noEntry))

/-- Ports are the business of the host that runs the program. -/
def network : Net.Network where
  lookUp _ := .error (.refused .networkUnreachable)
  connect _ := .error (.refused .networkUnreachable)
  listen _ := .ok ()

def awaitEnd : IO Unit := do
  let _ ← (← IO.getStdin).lines
  return

end DesktopGateway.CommandLine

open DesktopGateway in
def main : IO UInt32 := do
  let path := (← IO.getEnv "DESKPROXY_CONFIG").getD "config.toml"
  let readText ← CommandLine.readFiles path
  let outcome := Startup.Outcome.ofFile CommandLine.network readText (← IO.getEnv "DP_LOG_LEVEL")
    (← IO.getEnv "DP_LOG_FORMAT") path
  for notice in outcome.notices do
    if notice = .stopping then CommandLine.awaitEnd
    IO.println (notice.line outcome.format)
  if let some obstacle := outcome.obstacle then
    IO.eprint obstacle.report
  return UInt32.ofNat outcome.code
