import DesktopGateway.Files.Site
import DesktopGateway.Serving.Exchange
import DesktopGateway.Text.Document

/-!
# Listings

What a client is told about a file: its name, whether it is a directory, and its size. A directory
also shows its entries in the order of their names; links among them are not followed.
-/

namespace DesktopGateway.Files

open DesktopGateway.Text
open DesktopGateway.Serving

structure Item where
  name : String
  isDirectory : Bool
  size : Nat
  deriving DecidableEq, Repr

structure Listing where
  item : Item
  contents : Option (List Item)
  deriving DecidableEq, Repr

namespace Item

/-- The length of an entry can always be read on a volume. On a visit, where the host may refuse to
look at an entry, one that cannot be read counts as empty. -/
def ofEntry (volume : Volume) (entry : Volume.Name × Volume.Node) : Item :=
  ⟨Utf8.lossy entry.1, entry.2.isDirectory, volume.nodeLength entry.2⟩

def fields (item : Item) : List (String × Document) :=
  [("name", .text item.name), ("isDirectory", .boolean item.isDirectory),
    ("size", .number item.size)]

end Item

namespace Listing

/-- Items in the order of their names; equal names keep their order. -/
def sort (items : List Item) : List Item :=
  items.mergeSort fun first second => !decide (second.name < first.name)

def ofPlace (volume : Volume) (place : Place) : Except Host.Failure Listing :=
  match volume.metadata place.bytes with
  | .error failure => .error failure
  | .ok metadata =>
      let item : Item := ⟨place.shownName, metadata.isDirectory, metadata.length⟩
      if metadata.isDirectory then
        (volume.listing place.bytes).map fun entries =>
          ⟨item, some (sort (entries.map (Item.ofEntry volume)))⟩
      else .ok ⟨item, none⟩

def document (listing : Listing) : Document :=
  let contents := match listing.contents with
    | some items => [("contents", Document.list (items.map fun item => .record item.fields))]
    | none => []
  .record [("stat", .record (listing.item.fields ++ contents))]

def bytes (listing : Listing) : List UInt8 :=
  Utf8.encode (listing.document.indented 0)

def ofPath (site : Site) (volume : Volume) (path : String) : Except Failure Listing :=
  match site.resolve volume path with
  | .error failure => .error (.confinement failure)
  | .ok place => (ofPlace volume place).mapError (.file path)

/-- Answer a request for metadata: an acceptance and the document, or a refusal. -/
def serve (site : Site) (volume : Volume) (exchange : Exchange) :
    Except Failure Unit × Exchange :=
  match exchange.readRequest .statRequest with
  | (.error failure, exchange) => exchange.refuse failure
  | (.ok (.statRequest path), exchange) =>
      match ofPath site volume path with
      | .error failure => exchange.refuse failure
      | .ok listing =>
          match exchange.emit Link.Endpoint.acceptance with
          | (.error failure, exchange) => (.error failure, exchange)
          | (.ok (), exchange) =>
              let written := exchange.write listing.bytes
              (written.1.mapError .stream, written.2)
  | (.ok _, exchange) => (.ok (), exchange)

end Listing

end DesktopGateway.Files
