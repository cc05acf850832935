/-!
Texts measured in bytes of their UTF-8 form.
-/
namespace UsageMeter.Text

/-- The number of bytes of a text. -/
def byteCount (s : String) : Nat :=
  (s.toList.map Char.utf8Size).foldr Nat.add 0

/-- The characters that fit into a number of bytes; one that fits only in part leaves a replacement
character. -/
def cutChars : Nat → List Char → List Char
  | _, [] => []
  | limit, c :: cs =>
    if c.utf8Size ≤ limit then c :: cutChars (limit - c.utf8Size) cs
    else if limit = 0 then [] else ['\ufffd']

/-- The text cut to a number of bytes. -/
def cutBytes (limit : Nat) (s : String) : String :=
  String.ofList (cutChars limit s.toList)

end UsageMeter.Text
