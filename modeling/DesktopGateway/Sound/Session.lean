import DesktopGateway.Host.Program
import DesktopGateway.Sound.Failure
import DesktopGateway.Sound.Graph

/-!
# Sound sessions

A session runs two graphs: one plays the desktop's sound on its output, one records the sound that
it gets on its input.
-/

namespace DesktopGateway.Sound

open DesktopGateway.Host

/-- What a program does once it runs: what it prints, whether it reads its input to the end, and
how it ends by itself. -/
structure Conduct where
  printed : List UInt8
  reads : Bool
  ending : Option Ending
  deriving DecidableEq, Repr

structure Running where
  arguments : List String
  conduct : Conduct
  unread : List UInt8
  written : List UInt8
  inputOpen : Bool
  killed : Bool
  deriving DecidableEq, Repr

namespace Running

def start (graph : Graph) (inputOpen : Bool) (host : Except Host.Failure Conduct) :
    Except Failure Running :=
  let arguments := graph.arguments
  if arguments.any fun argument => argument.toList.contains '\x00' then
    .error (.start graphProgram zeroInArgument)
  else
    match host with
    | .error failure => .error (.start graphProgram failure)
    | .ok conduct => .ok ⟨arguments, conduct, conduct.printed, [], inputOpen, false⟩

def ending? (running : Running) : Option Ending :=
  if running.killed then some Ending.kill
  else if running.conduct.reads && running.inputOpen then none
  else running.conduct.ending

def kill (running : Running) : Running :=
  if running.ending?.isSome then running else { running with killed := true }

end Running

structure Session where
  playback : Running
  recording : Running
  deriving DecidableEq, Repr

namespace Session

/-- Start both programs, the one that plays first. -/
def start (preferences : Preferences) (user : UInt32)
    (playing recording : Except Host.Failure Conduct) : Except Failure Session := do
  let playback ← Running.start (Graph.playbackFor preferences user) false playing
  let recording ← Running.start (Graph.recordingFor preferences user) true recording
  return ⟨playback, recording⟩

def readAll (session : Session) : List UInt8 × Session :=
  (session.playback.unread, { session with playback := { session.playback with unread := [] } })

def readExactly (count : Nat) (session : Session) : Except Host.Failure (List UInt8) × Session :=
  let unread := session.playback.unread
  let after := { session with playback := { session.playback with unread := unread.drop count } }
  (if unread.length < count then .error (.described .unexpectedEnd "early eof")
    else .ok (unread.take count), after)

def write (bytes : List UInt8) (session : Session) : Except Host.Failure Unit × Session :=
  if bytes.isEmpty then (.ok (), session)
  else if session.recording.ending?.isSome then (.error (.refused .brokenPipe), session)
  else
    let recording := { session.recording with written := session.recording.written ++ bytes }
    (.ok (), { session with recording := recording })

def endInput (session : Session) : Session :=
  { session with recording := { session.recording with inputOpen := false } }

/-- How the session ended: both programs have to end well. Nothing as long as one of them runs. -/
def result? (session : Session) : Option (Except Failure Unit) := do
  let playing ← session.playback.ending?
  let recording ← session.recording.ending?
  let failed := [playing, recording].filter fun ending => !ending.succeeded
  return if failed.isEmpty then .ok ()
    else .error (.graphEnded (String.intercalate " : " (failed.map Ending.text)))

def close (session : Session) : Session :=
  ⟨session.playback.kill, session.recording.kill⟩

end Session

end DesktopGateway.Sound
