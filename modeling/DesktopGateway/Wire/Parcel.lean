import DesktopGateway.Wire.Field
import DesktopGateway.Wire.Service
import DesktopGateway.Wire.Window

/-!
# Parcels

The four messages: a request for metadata, a request for a download, an upload and a downloaded
file. The last two are followed by as many raw bytes as their size says.
-/

namespace DesktopGateway.Wire

namespace Parcel

inductive Kind where
  | statRequest
  | fetchRequest
  | storeRequest
  | fetchedFile
  deriving DecidableEq, Repr

namespace Kind

def all : List Kind :=
  [statRequest, fetchRequest, storeRequest, fetchedFile]

def title : Kind → String
  | statRequest => "FStat"
  | fetchRequest => "FGet"
  | storeRequest => "FPut"
  | fetchedFile => "FGetResponse"

def ofTitle? (wanted : String) : Option Kind :=
  all.find? fun kind => kind.title = wanted

def name : Kind → String
  | statRequest => "FStatRequest"
  | fetchRequest => "FGetRequest"
  | storeRequest => "FPutRequest"
  | fetchedFile => "FGetResponse"

end Kind

end Parcel

inductive Parcel (β : Type) where
  | statRequest (path : String)
  | fetchRequest (path : String)
  | storeRequest (name : String) (size : Int64) (content : β)
  | fetchedFile (name contentType : String) (size : Int64) (content : β)
  deriving DecidableEq, Repr

/-- The message that a client sends after the byte of a service. -/
def Service.request? : Service → Option Parcel.Kind
  | .stat => some .statRequest
  | .fetch => some .fetchRequest
  | .store => some .storeRequest
  | .display | .audio => none

namespace Parcel

variable {β γ : Type}

def kind : Parcel β → Kind
  | statRequest _ => .statRequest
  | fetchRequest _ => .fetchRequest
  | storeRequest .. => .storeRequest
  | fetchedFile .. => .fetchedFile

def map (change : β → γ) : Parcel β → Parcel γ
  | statRequest path => statRequest path
  | fetchRequest path => fetchRequest path
  | storeRequest name size content => storeRequest name size (change content)
  | fetchedFile name contentType size content => fetchedFile name contentType size (change content)

def summary : Parcel β → String
  | statRequest path => s!"FStat \x7b Path: $HOME/{path} \x7d"
  | fetchRequest path => s!"FGet \x7b Path: $HOME/{path} \x7d"
  | storeRequest name size _ => s!"FPut \x7b Name: {name}, Size: {size} \x7d"
  | fetchedFile name contentType size _ =>
      s!"FGetResponse \x7b Name: {name}, Type: {contentType}, Size: {size} \x7d"

def contentSize : Parcel β → Nat
  | statRequest _ => 0
  | fetchRequest _ => 0
  | storeRequest _ size _ => size.toNatClampNeg
  | fetchedFile _ _ size _ => size.toNatClampNeg

def checkSize (size : Int64) : Except Fault Unit :=
  if size < 0 then .error (.negativeSize size) else .ok ()

/-- The header, once the size and then the texts in their order are found acceptable. -/
def header : Parcel β → Except Fault (List UInt8)
  | statRequest path => Field.write (.line path)
  | fetchRequest path => Field.write (.line path)
  | storeRequest name size _ => do
      checkSize size
      let nameBytes ← Field.write (.line name)
      return nameBytes ++ Field.sizeBytes size
  | fetchedFile name contentType size _ => do
      checkSize size
      let nameBytes ← Field.write (.line name)
      let typeBytes ← Field.write (.line contentType)
      return nameBytes ++ typeBytes ++ Field.sizeBytes size

def content? : Parcel β → Option β
  | storeRequest _ _ content => some content
  | fetchedFile _ _ _ content => some content
  | _ => none

/-- What a writer puts on the stream, and the fault it ends with. -/
structure Emission where
  bytes : List UInt8
  fault : Option Fault
  deriving DecidableEq, Repr

def encode (parcel : Parcel (List UInt8)) : Emission :=
  match parcel.header with
  | .error fault => ⟨[], some fault⟩
  | .ok header =>
      let content := parcel.content?.getD []
      let sent := content.take parcel.contentSize
      let fault :=
        if sent.length < parcel.contentSize then
          some (.shortContent parcel.contentSize sent.length)
        else none
      ⟨header ++ sent, fault⟩

/-- Read a header; what follows it on the stream is the content. -/
def decode : Kind → Demand (Except Fault (Parcel Unit))
  | .statRequest => Field.readLine.andThen fun path => .done (.ok (statRequest path))
  | .fetchRequest => Field.readLine.andThen fun path => .done (.ok (fetchRequest path))
  | .storeRequest =>
      Field.readLine.andThen fun name =>
      Field.readSize.andThen fun size =>
      .done ((checkSize size).map fun _ => storeRequest name size ())
  | .fetchedFile =>
      Field.readLine.andThen fun name =>
      Field.readLine.andThen fun contentType =>
      Field.readSize.andThen fun size =>
      .done ((checkSize size).map fun _ => fetchedFile name contentType size ())

def window (parcel : Parcel β) : Window :=
  ⟨parcel.contentSize⟩

/-- What reading the content to its end gave. -/
structure Content where
  announced : Nat
  bytes : List UInt8
  outstanding : Nat
  deriving DecidableEq, Repr

def Content.failure? (content : Content) : Option Host.Failure :=
  if content.outstanding = 0 then none else some (Window.ended content.outstanding)

/-- The content at the beginning of the bytes, and the bytes behind it. -/
def Content.take (announced : Nat) (bytes : List UInt8) : Content × List UInt8 :=
  let taken := bytes.take announced
  (⟨announced, taken, announced - taken.length⟩, bytes.drop announced)

/-- Read a whole message from bytes that then end. -/
def read (kind : Kind) (bytes : List UInt8) :
    Except Fault (Parcel Content) × List UInt8 :=
  match (decode kind).run bytes with
  | (.error fault, rest) => (.error fault, rest)
  | (.ok (statRequest path), rest) => (.ok (statRequest path), rest)
  | (.ok (fetchRequest path), rest) => (.ok (fetchRequest path), rest)
  | (.ok (storeRequest name size _), rest) =>
      let taken := Content.take size.toNatClampNeg rest
      (.ok (storeRequest name size taken.1), taken.2)
  | (.ok (fetchedFile name contentType size _), rest) =>
      let taken := Content.take size.toNatClampNeg rest
      (.ok (fetchedFile name contentType size taken.1), taken.2)

def expect (parcel : Parcel β) (wanted : Kind) : Except Fault (Parcel β) :=
  if parcel.kind = wanted then .ok parcel
  else .error (.unexpectedMessage parcel.kind.name wanted.name)

end Parcel

end DesktopGateway.Wire
