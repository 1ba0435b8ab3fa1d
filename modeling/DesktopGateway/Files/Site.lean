import DesktopGateway.Files.Bundle

/-!
# Sites

Where the file services work: the home directory, the identity they act with, the place of their
temporary files, and who packs directories for them.
-/

namespace DesktopGateway.Files

structure Site where
  home : String
  credentials : Volume.Credentials
  temporary : String
  /-- A word that no other running download has. -/
  token : String
  [archiver : Archiver]

namespace Site

def resolve (site : Site) (volume : Volume) (path : String) : Except ConfinementFailure Place :=
  Confinement.resolve volume site.home path

end Site

end DesktopGateway.Files
