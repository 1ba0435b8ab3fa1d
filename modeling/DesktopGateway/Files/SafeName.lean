import DesktopGateway.Text.Quoted

/-!
# Safe names

The name under which an upload is stored: the last part of what the client calls it, with every
character outside a small set replaced.
-/

namespace DesktopGateway.Files.SafeName

def isSeparator (char : Char) : Bool :=
  char = '/' || char = '\\'

def isSafe (char : Char) : Bool :=
  char.isAlphanum || char = '.' || char = '_' || char = '-'

def lastPart (name : List Char) : List Char :=
  (name.reverse.takeWhile fun char => !isSeparator char).reverse

def replace (char : Char) : Char :=
  if isSafe char then char else '-'

/-- The safe name, or nothing when no file can have it. -/
def ofName? (name : String) : Option String :=
  let part := (lastPart name.toList).map replace
  if part = [] || part = ['.'] || part = ['.', '.'] then none else some (String.ofList part)

end DesktopGateway.Files.SafeName
