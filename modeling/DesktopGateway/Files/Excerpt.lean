import DesktopGateway.Files.ContentType

/-!
# Content types by place

The type of a file is told from bytes at certain places. Here every cut and every look at a byte has
an answer only if the places are inside the data.
-/

namespace DesktopGateway.Files.ContentType

def excerpt? (bytes : List UInt8) (first last : Nat) : Option (List UInt8) :=
  if first ≤ last ∧ last ≤ bytes.length then some ((bytes.take last).drop first) else none

/-- The data from its first byte on that is not blank. -/
def contentAt? (head : List UInt8) : Option (List UInt8) :=
  excerpt? head ((head.findIdx? fun byte => !isBlank byte).getD head.length) head.length

def containerAt? (head : List UInt8) : Option (Option ContentType) :=
  if 12 ≤ head.length && (codes "RIFF").isPrefixOf head then
    (excerpt? head 8 12).map fun form => containers.lookup form
  else some none

/-- Whether a tag opens the content; only then the byte behind it is looked at. -/
def tagAt? (content tag : List UInt8) : Option Bool :=
  if content.length ≤ tag.length then some false
  else do
    let front ← excerpt? content 0 tag.length
    if front.map capital = tag.map capital then
      let terminator ← content[tag.length]?
      return terminator = 32 || terminator = 62
    else return false

def ofPlaces? (data : List UInt8) : Option ContentType := do
  let head ← excerpt? data 0 (min data.length window)
  if head.isEmpty then return text
  else
    match bySignature? head with
    | some found => return found
    | none =>
        match ← containerAt? head with
        | some found => return found
        | none =>
            let content ← contentAt? head
            if ← tags.anyM (tagAt? content) then return html
            else if (codes "<?xml").isPrefixOf content then return xml
            else if head.any isBinary then return binary
            else return text

end DesktopGateway.Files.ContentType
