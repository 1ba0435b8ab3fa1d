/-!
# White space

The characters of Unicode's white space, and cutting and splitting text at them.
-/

namespace DesktopGateway.Text.Blank

def isBlank (char : Char) : Bool :=
  let code := char.toNat
  (9 ≤ code && code ≤ 13) || code = 0x20 || code = 0x85 || code = 0xA0 || code = 0x1680 ||
    (0x2000 ≤ code && code ≤ 0x200A) || code = 0x2028 || code = 0x2029 || code = 0x202F ||
    code = 0x205F || code = 0x3000

def trim (text : String) : String :=
  let front := text.toList.dropWhile isBlank
  String.ofList (front.reverse.dropWhile isBlank).reverse

/-- The words of a text and whether the first of them goes on before it. -/
def wordsFrom (text : List Char) : List Char × List (List Char) :=
  text.foldr
    (fun char (word, later) =>
      if isBlank char then ([], if word.isEmpty then later else word :: later)
      else (char :: word, later))
    ([], [])

def words (text : String) : List String :=
  let cut := wordsFrom text.toList
  (if cut.1.isEmpty then cut.2 else cut.1 :: cut.2).map String.ofList

end DesktopGateway.Text.Blank
