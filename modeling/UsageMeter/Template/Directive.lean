/-!
Templates as lists of literal characters and directives. Two percent signs in a row stand for one.
Any other percent sign starts a directive, which has, in this order and each optional, a key in
parentheses, flags, a width, a precision after a point and one length letter; it ends with its
conversion character. The reader goes through the text once.
-/
namespace UsageMeter.Template

/-- The key of a directive; parentheses inside a key are balanced. -/
inductive Key where
  | absent
  | named (key : List Char)
  | unclosed
deriving DecidableEq

/-- A width or a precision. -/
inductive Size where
  | absent
  | given (n : Nat)
  | argument
deriving DecidableEq

/-- The flags between key and width. -/
structure Flags where
  leftAlign : Bool
  sign : Bool
  blank : Bool
  alternate : Bool
  zero : Bool
deriving DecidableEq

/-- One directive; there is no conversion if the template ends inside it. -/
structure Directive where
  key : Key
  flags : Flags
  width : Size
  precision : Size
  conversion : Option Char
  position : Nat
deriving DecidableEq

/-- A part of a template. -/
inductive Piece where
  | literal (c : Char)
  | directive (d : Directive)
deriving DecidableEq

def Directive.start : Directive :=
  ⟨.absent, ⟨false, false, false, false, false⟩, .absent, .absent, none, 0⟩

/-- The part of the template in which the next character is read. -/
inductive Phase where
  | text
  | key
  | insideKey (depth : Nat) (read : List Char)
  | flags
  | widthDigits
  | afterWidth
  | precisionStart
  | precisionDigits
  | afterPrecision
  | afterLength
deriving DecidableEq

/-- What the reader knows after some characters; the pieces stand in reverse. -/
structure Reader where
  pieces : List Piece
  phase : Phase
  current : Directive
  position : Nat

def Reader.start : Reader :=
  ⟨[], .text, .start, 0⟩

def Flags.set? (f : Flags) : Char → Option Flags
  | '-' => some ⟨true, f.sign, f.blank, f.alternate, f.zero⟩
  | '+' => some ⟨f.leftAlign, true, f.blank, f.alternate, f.zero⟩
  | ' ' => some ⟨f.leftAlign, f.sign, true, f.alternate, f.zero⟩
  | '#' => some ⟨f.leftAlign, f.sign, f.blank, true, f.zero⟩
  | '0' => some ⟨f.leftAlign, f.sign, f.blank, f.alternate, true⟩
  | _ => none

/-- The value of a decimal digit character. -/
def digit? (c : Char) : Option Nat :=
  if '0' ≤ c && c ≤ '9' then some (c.toNat - '0'.toNat) else none

def Size.extend (s : Size) (d : Nat) : Size :=
  match s with
  | .given n => .given (n * 10 + d)
  | _ => .given d

def Reader.finish (r : Reader) (d : Directive) (c : Char) : Reader :=
  ⟨.directive ⟨d.key, d.flags, d.width, d.precision, some c, r.position⟩ :: r.pieces, .text, .start,
    r.position + 1⟩

/-- Goes on with the directive in a phase. -/
def Reader.go (r : Reader) (phase : Phase) (d : Directive) : Reader :=
  ⟨r.pieces, phase, d, r.position + 1⟩

/-- One letter `h`, `l` or `L` is skipped. -/
def Reader.readLength (r : Reader) (d : Directive) (c : Char) : Reader :=
  if c = 'h' || c = 'l' || c = 'L' then r.go .afterLength d else r.finish d c

/-- The point before the precision, or what follows. -/
def Reader.readPoint (r : Reader) (d : Directive) (c : Char) : Reader :=
  if c = '.' then r.go .precisionStart ⟨d.key, d.flags, d.width, .given 0, none, 0⟩
  else r.readLength d c

/-- The first character of the precision, or what follows. -/
def Reader.readPrecision (r : Reader) (d : Directive) (c : Char) : Reader :=
  if c = '*' then r.go .afterPrecision ⟨d.key, d.flags, d.width, .argument, none, 0⟩
  else match digit? c with
    | some n => r.go .precisionDigits ⟨d.key, d.flags, d.width, .given n, none, 0⟩
    | none => r.readLength d c

/-- Another digit of the precision, or what follows. -/
def Reader.morePrecision (r : Reader) (d : Directive) (c : Char) : Reader :=
  match digit? c with
  | some n => r.go .precisionDigits ⟨d.key, d.flags, d.width, d.precision.extend n, none, 0⟩
  | none => r.readLength d c

/-- The first character of the width, or what follows. -/
def Reader.readWidth (r : Reader) (d : Directive) (c : Char) : Reader :=
  if c = '*' then r.go .afterWidth ⟨d.key, d.flags, .argument, .absent, none, 0⟩
  else match digit? c with
    | some n => r.go .widthDigits ⟨d.key, d.flags, .given n, .absent, none, 0⟩
    | none => r.readPoint d c

/-- Another digit of the width, or what follows. -/
def Reader.moreWidth (r : Reader) (d : Directive) (c : Char) : Reader :=
  match digit? c with
  | some n => r.go .widthDigits ⟨d.key, d.flags, d.width.extend n, .absent, none, 0⟩
  | none => r.readPoint d c

/-- Another flag, or what follows. -/
def Reader.readFlags (r : Reader) (d : Directive) (c : Char) : Reader :=
  match d.flags.set? c with
  | some flags => r.go .flags ⟨d.key, flags, .absent, .absent, none, 0⟩
  | none => r.readWidth d c

/-- A character of a key; the parenthesis that closes the key ends it. -/
def Reader.readKey (r : Reader) (depth : Nat) (read : List Char) (c : Char) : Reader :=
  if c = ')' then
    match depth with
    | 0 => r.go .flags ⟨.named read.reverse, Directive.start.flags, .absent, .absent, none, 0⟩
    | depth + 1 => r.go (.insideKey depth (c :: read)) r.current
  else if c = '(' then r.go (.insideKey (depth + 1) (c :: read)) r.current
  else r.go (.insideKey depth (c :: read)) r.current

def Reader.step (r : Reader) (c : Char) : Reader :=
  match r.phase with
  | .text =>
    if c = '%' then r.go .key .start
    else ⟨.literal c :: r.pieces, .text, .start, r.position + 1⟩
  | .key =>
    if c = '%' then ⟨.literal c :: r.pieces, .text, .start, r.position + 1⟩
    else if c = '(' then
      r.go (.insideKey 0 []) ⟨.unclosed, r.current.flags, .absent, .absent, none, 0⟩
    else r.readFlags r.current c
  | .insideKey depth read => r.readKey depth read c
  | .flags => r.readFlags r.current c
  | .widthDigits => r.moreWidth r.current c
  | .afterWidth => r.readPoint r.current c
  | .precisionStart => r.readPrecision r.current c
  | .precisionDigits => r.morePrecision r.current c
  | .afterPrecision => r.readLength r.current c
  | .afterLength => r.finish r.current c

/-- The pieces of a template, the last of them a directive without conversion if it is cut off. -/
def pieces (template : List Char) : List Piece :=
  let r := template.foldl Reader.step .start
  match r.phase with
  | .text => r.pieces.reverse
  | _ => (.directive r.current :: r.pieces).reverse

end UsageMeter.Template
