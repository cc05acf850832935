import UsageMeter.Text.Blank
import UsageMeter.Text.Digits

/-!
Installation ids. An id is written with thirty-two hexadecimal digits, with hyphens anywhere, and
optionally in braces or after the names of its scheme. The digits are read as one hexadecimal
number, which may therefore stand between white space, start with a plus sign or a base mark, and
have single underscores between its digits.
-/
namespace UsageMeter.Config

/-- Deletes every occurrence of a word, from the left, without going back over what it joins. -/
def deleteWord (word : List Char) : List Char → Nat → List Char
  | [], _ => []
  | c :: cs, 0 =>
    if word.isPrefixOf (c :: cs) then deleteWord word cs (word.length - 1)
    else c :: deleteWord word cs 0
  | _ :: cs, skip + 1 => deleteWord word cs skip

/-- The text left without scheme names, braces around it and hyphens. -/
def bareId (cs : List Char) : List Char :=
  let cs := deleteWord "urn:".toList cs 0
  let cs := deleteWord "uuid:".toList cs 0
  (Text.strip (fun c => c == '\x7b' || c == '\x7d') cs).filter (· != '-')

/-- White space around a number. Separator controls are blank in a text but not here. -/
def isNumberBlank (c : Char) : Bool :=
  Text.isBlank c && !(0x1c ≤ c.toNat && c.toNat ≤ 0x1f)

/-- Decimal digits of every script count as ASCII digits. -/
def plainDigit (c : Char) : Char :=
  match Text.decimalDigit? c with
  | some n => Text.digitChar n
  | none => c

/-- Hexadecimal digits with single underscores between them, at least one digit. -/
def isDigitRun : List Char → Bool
  | [] => false
  | [c] => (Text.hexDigit? c).isSome
  | c :: '_' :: cs => (Text.hexDigit? c).isSome && isDigitRun cs
  | c :: cs => (Text.hexDigit? c).isSome && isDigitRun cs

/-- The text after an optional base mark; one underscore may follow the mark. -/
def afterBaseMark : List Char → List Char
  | '0' :: 'x' :: '_' :: cs => cs
  | '0' :: 'X' :: '_' :: cs => cs
  | '0' :: 'x' :: cs => cs
  | '0' :: 'X' :: cs => cs
  | cs => cs

/-- The text after an optional plus sign. -/
def afterSign : List Char → List Char
  | '+' :: cs => cs
  | cs => cs

/-- The number that hexadecimal digits write; underscores among them count for nothing. -/
def hexValue (cs : List Char) : Nat :=
  (cs.filterMap Text.hexDigit?).foldl (fun n d => 16 * n + d) 0

/-- The number that a text writes in hexadecimal. -/
def hexNumber? (cs : List Char) : Option Nat :=
  let run := afterBaseMark (afterSign ((Text.strip isNumberBlank cs).map plainDigit))
  if isDigitRun run then some (hexValue run) else none

/-- Why a text is not an installation id. -/
inductive IdError where
  | length
  | notNumber
  | range
deriving DecidableEq

/-- The number of an installation id, which has 128 bits. -/
def readId (cs : List Char) : Except IdError Nat :=
  let bare := bareId cs
  if bare.length ≠ 32 then .error .length
  else match hexNumber? bare with
    | none => .error .notNumber
    | some n => if n < Nat.pow 2 128 then .ok n else .error .range

/-- Whether a text is an installation id. -/
def isInstallationId (s : String) : Bool :=
  (readId s.toList).isOk

end UsageMeter.Config
