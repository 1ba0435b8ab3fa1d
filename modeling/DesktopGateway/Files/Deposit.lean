import DesktopGateway.Files.Stage

/-!
# Uploads on a host that may refuse

The run of an upload when the host may refuse whatever a step asks of it: to give the next bytes of
the client, to make a directory or a file, to write, to put the content on the disk, to give a file
away, to remove it, or to send the answer. Of a portion that it refuses to write, and of an answer
that it refuses to send, it may still have taken the first bytes.
-/

namespace DesktopGateway.Files.Upload

open DesktopGateway.Link
open DesktopGateway.Serving
open DesktopGateway.Wire

inductive Chance where
  | granted
  | refused (failure : Host.Failure) (taken : Nat)
  deriving DecidableEq, Repr

namespace Stage

/-- Whether the step asks something of the host. Nothing is given away without an owner. -/
def asksHost (owner : Option Nat) : Stage → Bool
  | asking (.done _) => false
  | resolving name _ => (SafeName.ofName? name).isSome
  | claiming .. | granting _ => owner.isSome
  | _ => true

/-- Go on after a refusal of the host. When an upload that failed cannot be removed, nobody hears of
that. -/
def failed (failure : Host.Failure) : Stage → Stage
  | asking (.next ..) => settled (.error (.dialogue (.stream failure)))
  | resolving .. => settled (.error (.confinement .disabled))
  | making .. => settled (.error (.file directoryName failure))
  | claiming directory .. => settled (.error (.file directory.path failure))
  | opening _ safe _ => settled (.error (.file s!"{directoryName}/{safe}" failure))
  | writing upload .. | syncing upload => discarding upload failure
  | granting upload => settled (.error (.file upload.target.path failure))
  | discarding _ cause => settled (.error (.stream cause))
  | stage => stage

end Stage

namespace Run

/-- The host refuses what the step asks of it. -/
def fail (volume : Volume) (run : Run) (failure : Host.Failure) (taken : Nat) : Run × Volume :=
  match run.stage, run.answer with
  | .writing upload (missing + 1) offset, answer =>
      let delivered := run.exchange.deliver (.portion (min portion (missing + 1)))
      let later :=
        match delivered.1 with
        | .bytes bytes => volume.write upload.handle offset (bytes.take taken)
        | .ended | .waiting => volume
      (⟨run.stage.failed failure, delivered.2, answer⟩, later)
  | .settled result, none =>
      let sent := run.exchange.sent ++ (emission result).bytes.take taken
      (⟨run.stage, { run.exchange with sent, reachable := false },
        some (.error (.dialogue (.stream failure)))⟩, volume)
  | stage, answer => (⟨stage.failed failure, run.exchange, answer⟩, volume)

/-- The next step of a run, on a host that may refuse it. -/
def meet (site : Site) (owner : Option Nat) (state : Run × Volume) : Chance → Run × Volume
  | .granted => state.1.step site owner state.2
  | .refused failure taken =>
      if state.1.stage.asksHost owner then state.1.fail state.2 failure taken
      else state.1.step site owner state.2

def follow (site : Site) (owner : Option Nat) (state : Run × Volume) (chances : List Chance) :
    Run × Volume :=
  chances.foldl (meet site owner) state

end Run

end DesktopGateway.Files.Upload
