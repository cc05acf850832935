import UsageMeter.Config.Path
import UsageMeter.Table
import UsageMeter.Text.Lines
import UsageMeter.Text.Quoted

/-!
Files of variable assignments. A line is blank, a comment, an assignment with an optional export
word before the name and optional quotes around the value, or malformed. Loading goes line by line
and stops at the first line that cannot be used; what was set before stays set.
-/
namespace UsageMeter.Config

/-- What one line of a file says. -/
inductive Line where
  | skipped
  | assignment (key value : String)
  | malformed
deriving DecidableEq

/-- The text of a value without white space, then double quotes, then single quotes around it. -/
def unquote (cs : List Char) : List Char :=
  Text.strip (· == '\'') (Text.strip (· == '"') (Text.strip Text.isBlank cs))

/-- The text after an export word and the white space behind it. -/
def afterExport (cs : List Char) : List Char :=
  if "export ".toList.isPrefixOf cs then Text.stripStart Text.isBlank (cs.drop 7) else cs

/-- Reads an assignment at its first equals sign. -/
def readAssignment (cs : List Char) : Line :=
  if cs.contains '=' then
    .assignment (Text.trim (String.ofList (cs.takeWhile (· != '='))))
      (String.ofList (unquote ((cs.dropWhile (· != '=')).drop 1)))
  else .malformed

def Line.read (raw : List Char) : Line :=
  match Text.strip Text.isBlank raw with
  | [] => .skipped
  | '#' :: _ => .skipped
  | cs => readAssignment (afterExport cs)

/-- Where variables are set: a mapping takes every name and value, a process only some. -/
inductive Target where
  | mapping | process
deriving DecidableEq

/-- Why a line cannot be used. -/
inductive LineError where
  | malformed (raw : String)
  | emptyName
  | nullCharacter
deriving DecidableEq

/-- Whether the target takes a name with a value. -/
def Target.check (t : Target) (key value : String) : Except LineError Unit :=
  match t with
  | .mapping => .ok ()
  | .process =>
    if key.toList.contains '\x00' || value.toList.contains '\x00' then .error .nullCharacter
    else if key = "" then .error .emptyName
    else .ok ()

/-- Sets a variable, unless it is there and is to be kept. -/
def setVariable (t : Target) (override : Bool) (env : Table String) (key value : String) :
    Except LineError (Table String) :=
  if env.contains key && !override then .ok env
  else (t.check key value).map fun _ => env.insert key value

/-- Loads lines in order; the variables at the end or at the first failure. -/
def loadLines (t : Target) (override : Bool) :
    List (List Char) → Table String → Table String × Except LineError Unit
  | [], env => (env, .ok ())
  | raw :: rest, env =>
    match Line.read raw with
    | .skipped => loadLines t override rest env
    | .malformed => (env, .error (.malformed (String.ofList raw)))
    | .assignment key value =>
      match setVariable t override env key value with
      | .ok env' => loadLines t override rest env'
      | .error e => (env, .error e)

def loadText (t : Target) (override : Bool) (text : String) (env : Table String) :
    Table String × Except LineError Unit :=
  loadLines t override (Text.splitLines text.toList) env

/-- Why a file cannot be loaded. -/
inductive LoadError where
  | notFound (path : Path)
  | isFolder (path : Path)
  | nameTooLong (path : Path)
  | notText
  | line (path : Path) (e : LineError)
deriving DecidableEq

def LoadError.message : LoadError → String
  | .notFound path => "Dotenv file '" ++ path.written ++ "' does not exist"
  | .isFolder path => "[Errno 21] Is a directory: " ++ Text.quoted path.written
  | .nameTooLong path => "[Errno 36] File name too long: " ++ Text.quoted path.written
  | .notText => ""
  | .line path (.malformed raw) =>
    "Invalid line in dotenv file '" ++ path.written ++ "': '" ++ raw ++ "'"
  | .line _ .emptyName => "[Errno 22] Invalid argument"
  | .line _ .nullCharacter => "embedded null byte"

/-- Names the file in the failure of a line. -/
def LoadError.ofLine (path : Path) : Except LineError Unit → Except LoadError Unit
  | .ok _ => .ok ()
  | .error e => .error (.line path e)

/-- The text of a file's bytes, with its line endings as line feeds. -/
def decode? (bytes : ByteArray) : Option String :=
  (String.fromUTF8? bytes).map fun s => String.ofList (Text.universalNewlines s.toList)

def loadFile (d : Folder) (path : Path) (t : Target) (override : Bool) (env : Table String) :
    Table String × Except LoadError Unit :=
  match d.find path with
  | .missing => (env, .error (.notFound path))
  | .tooLong => (env, .error (.nameTooLong path))
  | .folder => (env, .error (.isFolder path))
  | .file bytes =>
    match decode? bytes with
    | none => (env, .error .notText)
    | some text =>
      let (env', result) := loadText t override text env
      (env', LoadError.ofLine path result)

end UsageMeter.Config
