import DesktopGateway.Files.Listing
import DesktopGateway.Text.DocumentReader

/-!
# Reading listings

What a client makes of the document that it is told about a file. Fields are found by their names.
-/

namespace DesktopGateway.Files

open DesktopGateway.Text

namespace Item

def ofFields? (fields : List (String × Document)) : Option Item :=
  match fields.lookup "name", fields.lookup "isDirectory", fields.lookup "size" with
  | some (.text name), some (.boolean isDirectory), some (.number (.ofNat size)) =>
      some ⟨name, isDirectory, size⟩
  | _, _, _ => none

def ofDocument? : Document → Option Item
  | .record fields => ofFields? fields
  | _ => none

end Item

namespace Listing

def ofFields? (fields : List (String × Document)) : Option Listing :=
  match Item.ofFields? fields, fields.lookup "contents" with
  | some item, none => some ⟨item, none⟩
  | some item, some (.list items) =>
      (items.mapM Item.ofDocument?).map fun items => ⟨item, some items⟩
  | _, _ => none

def ofDocument? : Document → Option Listing
  | .record fields =>
      match fields.lookup "stat" with
      | some (.record fields) => ofFields? fields
      | _ => none
  | _ => none

def ofBytes? (bytes : List UInt8) : Option Listing :=
  match Utf8.decode bytes with
  | .ok text => (Document.ofText? text).bind ofDocument?
  | .error _ => none

end Listing

end DesktopGateway.Files
