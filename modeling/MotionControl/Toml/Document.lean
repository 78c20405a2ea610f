import MotionControl.Toml.Draft
import MotionControl.Toml.Moment
import MotionControl.Toml.Quotation

/-!
# TOML documents

The grammar of keys, values and lines, and the table that the lines of a document make together:
`parse?` answers the root table of a text, or nothing if the text is no document.
-/

set_option autoImplicit false
set_option relaxedAutoImplicit false

namespace MotionControl.Toml

open Scan

/-! ### Keys -/

/-- Keys with this many components or more are refused. -/
def maxKeyDepth : Nat := 80

def isBareKeyChar (c : Char) : Bool := c.isAlphanum || c == '-' || c == '_'

def simpleKey : Scan String := lineString <|> (String.ofList <$> runOf1 isBareKeyChar)

/-- A key of one or more components with dots between them. -/
def dottedKey : Scan (List String) := do
  let path ← sepBy1 (spaces *> simpleKey <* spaces) (char '.')
  check (path.length < maxKeyDepth)
  return path

/-! ### Values -/

/-- How deep arrays and inline tables may nest. -/
def maxNesting : Nat := 79

def arrayOf (value : Scan Node) : Scan Node := do
  char '['
  let items ← maybe (do
    let items ← sepBy1 (gaps *> value <* gaps) (char ',')
    discard (maybe (char ','))
    return items)
  gaps
  char ']'
  return .array (items.getD [])

def inlineTableOf (value : Scan Node) : Scan Node := do
  char '\x7b'
  let pairs ← maybe (sepBy1 (do
    let key ← dottedKey
    char '='
    spaces
    let node ← value
    spaces
    return (key, node)) (char ','))
  spaces
  char '\x7d'
  liftM (m := Option) (Draft.ofPairs (pairs.getD []))

/-- A date or time, or a number. -/
def numeric : Scan Node :=
  moment.standsFor .moment <|> decimalFloat <|> namedFloat <|> basedInteger <|> decimalInteger

/-- A value without values in it, by its first character. -/
def scalar (first : Char) : Scan Node :=
  if first == '"' || first == '\'' then Node.string <$> quotation
  else if first.isDigit || first == '+' || first == '-' || first == 'i' || first == 'n' then numeric
  else if first == 't' then (word ['t', 'r', 'u', 'e']).standsFor (.boolean true)
  else if first == 'f' then (word ['f', 'a', 'l', 's', 'e']).standsFor (.boolean false)
  else failure

/-- A value with at most `depth` arrays and inline tables around one another. -/
def value : Nat → Scan Node
  | 0 => do
    match ← peek with
    | some c => scalar c
    | none => failure
  | depth + 1 => do
    match ← peek with
    | some '[' => arrayOf (value depth)
    | some '\x7b' => inlineTableOf (value depth)
    | some c => scalar c
    | none => failure

/-! ### Lines -/

/-- What a line of a document says. -/
inductive Statement
  /-- A key gets a value. -/
  | assign (path : List String) (node : Node)
  /-- A table opens. -/
  | openTable (path : List String)
  /-- One more table of an array opens. -/
  | openElement (path : List String)

def header : Scan Statement :=
  (do
    word ['[', '[']
    let path ← dottedKey
    word [']', ']']
    return .openElement path) <|>
  (do
    char '['
    let path ← dottedKey
    char ']'
    return .openTable path)

def assignment : Scan Statement := do
  let path ← dottedKey
  char '='
  spaces
  let node ← value maxNesting
  return .assign path node

/-- A line, which may say nothing. -/
def line : Scan (Option Statement) := do
  match ← peek with
  | some '#' =>
    comment
    lineEnd
    return none
  | some '\n' | some '\r' =>
    newline
    return none
  | some '[' => some <$> (header <* lineRest)
  | some _ => some <$> (assignment <* lineRest)
  | none => failure

/-- The lines of a document, which may start with a byte order mark. -/
def lines : Scan (List Statement) := do
  discard (maybe (char '\ufeff'))
  spaces
  let lines ← many (line <* spaces)
  return lines.filterMap id

/-! ### The table of a document -/

/-- A document under construction: its root table, and the path of the table that takes the keys of
the lines to come. -/
structure Assembly where
  root : Draft.Entries
  focus : List String

namespace Assembly

def empty : Assembly := ⟨[], []⟩

def step (assembly : Assembly) : Statement → Option Assembly
  | .assign path node => do
    let root ← Draft.under (Draft.assign node path) assembly.focus assembly.root
    return { assembly with root }
  | .openTable path => do
    let key ← path.getLast?
    let root ← Draft.under (Draft.openTable key) path.dropLast assembly.root
    return ⟨root, path⟩
  | .openElement path => do
    let key ← path.getLast?
    let root ← Draft.under (Draft.openElement key) path.dropLast assembly.root
    return ⟨root, path⟩

end Assembly

/-- The root table that a document's lines make. -/
def assemble? (statements : List Statement) : Option Node :=
  (statements.foldlM Assembly.step .empty).map fun assembly ↦
    .table (Draft.finishEntries assembly.root)

/-- The root table of a text that is a document. -/
def parse? (text : String) : Option Node := (lines.run? text.toList).bind assemble?

end MotionControl.Toml
