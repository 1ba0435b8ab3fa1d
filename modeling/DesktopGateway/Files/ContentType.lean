/-!
# Content types

The type of a file is told from its first bytes: by a signature, by the form of a container, by a
markup tag behind white space, and otherwise by whether the bytes can be text.
-/

namespace DesktopGateway.Files

inductive ContentType where
  | pdf
  | png
  | jpeg
  | gif
  | zip
  | gzip
  | webm
  | ogg
  | mpegAudio
  | bitmap
  | icon
  | utf16BigEndian
  | utf16LittleEndian
  | webp
  | wave
  | avi
  | html
  | xml
  | text
  | binary
  deriving DecidableEq, Repr

namespace ContentType

def name : ContentType → String
  | pdf => "application/pdf"
  | png => "image/png"
  | jpeg => "image/jpeg"
  | gif => "image/gif"
  | zip => "application/zip"
  | gzip => "application/x-gzip"
  | webm => "video/webm"
  | ogg => "application/ogg"
  | mpegAudio => "audio/mpeg"
  | bitmap => "image/bmp"
  | icon => "image/x-icon"
  | utf16BigEndian => "text/plain; charset=utf-16be"
  | utf16LittleEndian => "text/plain; charset=utf-16le"
  | webp => "image/webp"
  | wave => "audio/wave"
  | avi => "video/avi"
  | html => "text/html; charset=utf-8"
  | xml => "text/xml; charset=utf-8"
  | text => "text/plain; charset=utf-8"
  | binary => "application/octet-stream"

/-- How many bytes of a file are looked at. -/
def window : Nat := 512

def codes (text : String) : List UInt8 :=
  text.toList.map fun char => UInt8.ofNat char.toNat

def signatures : List (List UInt8 × ContentType) :=
  [(codes "%PDF-", pdf),
    ([0x89] ++ codes "PNG\r\n" ++ [0x1A, 0x0A], png),
    ([0xFF, 0xD8, 0xFF], jpeg),
    (codes "GIF87a", gif),
    (codes "GIF89a", gif),
    (codes "PK" ++ [3, 4], zip),
    ([0x1F, 0x8B, 8], gzip),
    ([0x1A, 0x45, 0xDF, 0xA3], webm),
    (codes "OggS" ++ [0], ogg),
    (codes "ID3", mpegAudio),
    (codes "BM", bitmap),
    ([0, 0, 1, 0], icon),
    ([0x7F] ++ codes "ELF", binary),
    ([0xEF, 0xBB, 0xBF], text),
    ([0xFE, 0xFF], utf16BigEndian),
    ([0xFF, 0xFE], utf16LittleEndian)]

/-- The forms of a container, told from the four bytes behind its mark and its size. -/
def containers : List (List UInt8 × ContentType) :=
  [(codes "WEBP", webp), (codes "WAVE", wave), (codes "AVI ", avi)]

/-- Tags that open a page, in capitals. -/
def tags : List (List UInt8) :=
  ["<!DOCTYPE HTML", "<HTML", "<HEAD", "<SCRIPT", "<IFRAME", "<H1", "<DIV", "<FONT", "<TABLE",
    "<A", "<STYLE", "<TITLE", "<B", "<BODY", "<BR", "<P", "<!--"].map codes

def isBlank (byte : UInt8) : Bool :=
  byte = 9 || byte = 10 || byte = 12 || byte = 13 || byte = 32

def isBinary (byte : UInt8) : Bool :=
  byte ≤ 8 || byte = 0x0B || (0x0E ≤ byte && byte ≤ 0x1A) || (0x1C ≤ byte && byte ≤ 0x1F)

def capital (byte : UInt8) : UInt8 :=
  if 97 ≤ byte && byte ≤ 122 then byte - 32 else byte

def bySignature? (head : List UInt8) : Option ContentType :=
  (signatures.find? fun signature => signature.1.isPrefixOf head).map (·.2)

def byContainer? (head : List UInt8) : Option ContentType :=
  if (codes "RIFF").isPrefixOf head && 12 ≤ head.length then
    containers.lookup ((head.drop 8).take 4)
  else none

/-- A tag in any case with a blank or a closing bracket behind it. -/
def opensWith (tag content : List UInt8) : Bool :=
  tag.isPrefixOf (content.map capital) &&
    match content.drop tag.length with
    | terminator :: _ => terminator = 32 || terminator = 62
    | [] => false

def byTag? (head : List UInt8) : Option ContentType :=
  let content := head.dropWhile isBlank
  if tags.any fun tag => opensWith tag content then some html else none

def byDeclaration? (head : List UInt8) : Option ContentType :=
  if (codes "<?xml").isPrefixOf (head.dropWhile isBlank) then some xml else none

def ofHead (head : List UInt8) : ContentType :=
  match bySignature? head <|> byContainer? head <|> byTag? head <|> byDeclaration? head with
  | some found => found
  | none => if head.any isBinary then binary else text

def of (data : List UInt8) : ContentType :=
  ofHead (data.take window)

end ContentType

end DesktopGateway.Files
