import UsageMeter.Value.Written

/-!
Why a template cannot be filled in.
-/
namespace UsageMeter.Template

/-- What a size or a character code does not fit into. -/
inductive Bound where
  | size | precision
deriving DecidableEq

/-- The causes of failure. -/
inductive Error where
  | mappingRequired
  | incompleteKey
  | incomplete
  | missingKey (key : String)
  | listIndex
  | tooFewArguments
  | tooManyArguments
  | sizeNotInteger
  | sizeTooLarge (bound : Bound)
  | widthTooBig
  | precisionTooBig
  | precisionTooLarge
  | unsupported (c : Char) (position : Nat)
  | numberRequired (conversion : Char) (kind : String)
  | integerRequired (conversion : Char) (kind : String)
  | realRequired (kind : String)
  | infiniteInteger
  | undefinedInteger
  | integerTooLarge
  | characterRequired
  | characterOutOfRange
deriving DecidableEq

/-- What kind of failure it is. -/
def Error.className : Error → String
  | .mappingRequired | .listIndex | .tooFewArguments | .tooManyArguments | .sizeNotInteger
  | .numberRequired _ _ | .integerRequired _ _ | .realRequired _ | .characterRequired => "TypeError"
  | .incompleteKey | .incomplete | .widthTooBig | .precisionTooBig | .unsupported _ _
  | .undefinedInteger => "ValueError"
  | .missingKey _ => "KeyError"
  | .sizeTooLarge _ | .precisionTooLarge | .infiniteInteger | .integerTooLarge
  | .characterOutOfRange => "OverflowError"

def Error.message : Error → String
  | .mappingRequired => "format requires a mapping"
  | .incompleteKey => "incomplete format key"
  | .incomplete => "incomplete format"
  | .missingKey key => Text.quoted key
  | .listIndex => "list indices must be integers or slices, not str"
  | .tooFewArguments => "not enough arguments for format string"
  | .tooManyArguments => "not all arguments converted during string formatting"
  | .sizeNotInteger => "* wants int"
  | .sizeTooLarge .size => "Python int too large to convert to C ssize_t"
  | .sizeTooLarge .precision => "Python int too large to convert to C int"
  | .widthTooBig => "width too big"
  | .precisionTooBig => "precision too big"
  | .precisionTooLarge => "precision too large"
  | .unsupported c position =>
    let shown := if 31 ≤ c.toNat && c.toNat ≤ 126 then c else '?'
    "unsupported format character '" ++ String.singleton shown ++ "' (0x" ++
      String.ofList (Text.digits 16 c.toNat) ++ ") at index " ++ toString position
  | .numberRequired conversion kind =>
    "%" ++ String.singleton conversion ++ " format: a real number is required, not " ++ kind
  | .integerRequired conversion kind =>
    "%" ++ String.singleton conversion ++ " format: an integer is required, not " ++ kind
  | .realRequired kind => "must be real number, not " ++ kind
  | .infiniteInteger => "cannot convert float infinity to integer"
  | .undefinedInteger => "cannot convert float NaN to integer"
  | .integerTooLarge => "int too large to convert to float"
  | .characterRequired => "%c requires int or char"
  | .characterOutOfRange => "%c arg not in range(0x110000)"

end UsageMeter.Template
