import DesktopGateway.Host.Failure

/-!
# Programs

How a program ends, what it leaves behind, and a shell that runs one program after the other and
keeps the arguments of each.
-/

namespace DesktopGateway.Host

inductive Ending where
  | exited (status : Nat)
  | killed (signal : Nat)
  deriving DecidableEq, Repr

namespace Ending

def succeeded (ending : Ending) : Bool :=
  ending = .exited 0

/-- The names of the signals from one on. -/
def signalNames : List String :=
  ["SIGHUP", "SIGINT", "SIGQUIT", "SIGILL", "SIGTRAP", "SIGABRT", "SIGBUS", "SIGFPE", "SIGKILL",
    "SIGUSR1", "SIGSEGV", "SIGUSR2", "SIGPIPE", "SIGALRM", "SIGTERM", "SIGSTKFLT", "SIGCHLD",
    "SIGCONT", "SIGSTOP", "SIGTSTP", "SIGTTIN", "SIGTTOU", "SIGURG", "SIGXCPU", "SIGXFSZ",
    "SIGVTALRM", "SIGPROF", "SIGWINCH", "SIGIO", "SIGPWR", "SIGSYS"]

def kill : Ending :=
  .killed 9

def text : Ending → String
  | exited status => s!"exit status: {status}"
  | killed signal =>
      match signalNames[signal - 1]? with
      | some name => s!"signal: {signal} ({name})"
      | none => s!"signal: {signal}"

end Ending

structure Output where
  ending : Ending
  printed : List UInt8
  complaints : List UInt8
  deriving DecidableEq, Repr

/-- A program cannot be given an argument with a zero byte. -/
def zeroInArgument : Failure :=
  .described .invalidInput "nul byte found in provided data"

/-- A shell answers its runs in their order. It keeps the arguments of those that were started. -/
structure Shell where
  answers : Nat → Except Failure Output
  asked : Nat
  calls : List (List String)

namespace Shell

def new (answers : Nat → Except Failure Output) : Shell :=
  ⟨answers, 0, []⟩

def run (shell : Shell) (arguments : List String) : Except Failure Output × Shell :=
  if arguments.any fun argument => argument.toList.contains '\x00' then
    (.error zeroInArgument, shell)
  else
    match shell.answers shell.asked with
    | .ok output =>
        (.ok output, { shell with asked := shell.asked + 1, calls := shell.calls ++ [arguments] })
    | .error failure => (.error failure, { shell with asked := shell.asked + 1 })

end Shell

end DesktopGateway.Host
