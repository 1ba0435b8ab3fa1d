/-!
# File contents

The bytes of a file. Zeros at the end that nobody wrote are only counted, so that a file may be
larger than what is stored of it.
-/

namespace DesktopGateway.Volume

structure Content where
  stored : List UInt8
  hole : Nat
  deriving DecidableEq, Repr

namespace Content

def ofBytes (bytes : List UInt8) : Content :=
  ⟨bytes, 0⟩

def empty : Content :=
  ofBytes []

def length (content : Content) : Nat :=
  content.stored.length + content.hole

def take (content : Content) (count : Nat) : List UInt8 :=
  let stored := content.stored.take count
  stored ++ List.replicate (min content.hole (count - stored.length)) 0

def toList (content : Content) : List UInt8 :=
  content.stored ++ List.replicate content.hole 0

/-- Cut the content to a length, or let it grow to it with zeros. -/
def resize (content : Content) (length : Nat) : Content :=
  let stored := content.stored.take length
  ⟨stored, length - stored.length⟩

def drop (content : Content) (count : Nat) : Content :=
  ⟨content.stored.drop count, content.hole - (count - content.stored.length)⟩

/-- Put bytes at an offset; what lay behind them stays. -/
def writeAt (content : Content) (offset : Nat) (bytes : List UInt8) : Content :=
  let before := content.take offset
  let gap := List.replicate (offset - before.length) 0
  let after := content.drop (offset + bytes.length)
  ⟨before ++ gap ++ bytes ++ after.stored, after.hole⟩

theorem length_toList (content : Content) : content.toList.length = content.length := by
  simp [toList, length]

theorem take_eq (content : Content) (count : Nat) :
    content.take count = content.toList.take count := by
  simp only [take, toList, List.take_append, List.take_replicate, List.length_take]
  congr 2
  omega

end Content

end DesktopGateway.Volume
