import DesktopGateway.Host.Failure
import DesktopGateway.Settings.Basic
import DesktopGateway.Toml.Document

/-!
# The settings file

A missing file stands for an empty one. A file that cannot be read, is not well formed or does not
fit is an error.
-/

namespace DesktopGateway.Settings

open DesktopGateway.Host

inductive FileFault where
  | unreadable (path : String) (failure : Failure)
  | malformed (path : String)
  | misfit (path : String) (field : Misfit)
  deriving DecidableEq, Repr

def FileFault.message : FileFault → String
  | unreadable path failure => s!"Konfigurationsdatei '{path}' nicht lesbar: {failure.message}"
  | malformed path => s!"Konfigurationsfehler in '{path}'"
  | misfit path field => s!"Konfigurationsfehler in '{path}': {field.key}"

def ofText (path text : String) : Except FileFault Settings :=
  match Toml.Document.entries? text with
  | none => .error (.malformed path)
  | some entries => (ofSection (.named entries)).mapError (.misfit path)

def load (readText : String → Except Failure String) (path : String) : Except FileFault Settings :=
  match readText path with
  | .ok text => ofText path text
  | .error failure =>
      if failure.kind = .notFound then .ok default else .error (.unreadable path failure)

end DesktopGateway.Settings
