/-!
White space and trimming. A blank character is one of the twenty-nine code points with the
bidirectional class of white space or the category of a space separator; trimming removes the
longest blank run at either end and nothing else.
-/
namespace UsageMeter.Text

/-- A blank is a tab-to-return control, a separator control, a space or a line separator. -/
def isBlank (c : Char) : Bool :=
  let n := c.toNat
  (0x09 ≤ n && n ≤ 0x0d) || (0x1c ≤ n && n ≤ 0x20) || n == 0x85 || n == 0xa0 || n == 0x1680 ||
    (0x2000 ≤ n && n ≤ 0x200a) || n == 0x2028 || n == 0x2029 || n == 0x202f || n == 0x205f ||
    n == 0x3000

/-- The text without its leading characters of a class. -/
def stripStart (p : Char → Bool) (cs : List Char) : List Char :=
  cs.dropWhile p

/-- The text without its trailing characters of a class. -/
def stripEnd (p : Char → Bool) (cs : List Char) : List Char :=
  (cs.reverse.dropWhile p).reverse

/-- The text without the characters of a class at either end. -/
def strip (p : Char → Bool) (cs : List Char) : List Char :=
  stripEnd p (stripStart p cs)

def trim (s : String) : String :=
  String.ofList (strip isBlank s.toList)

/-- Whether nothing but white space stands in the text. -/
def isBlankText (s : String) : Bool :=
  s.toList.all isBlank

/-- Splits at every occurrence of a character; there is always one piece more than occurrences. -/
def splitOn (sep : Char) : List Char → List (List Char)
  | [] => [[]]
  | c :: cs =>
    if c = sep then [] :: splitOn sep cs
    else match splitOn sep cs with
      | [] => [[c]]
      | piece :: pieces => (c :: piece) :: pieces

theorem splitOn_ne_nil (sep : Char) (cs : List Char) : splitOn sep cs ≠ [] := by
  cases cs with
  | nil => simp [splitOn]
  | cons c cs =>
    unfold splitOn
    split
    · simp
    · split <;> simp

end UsageMeter.Text
