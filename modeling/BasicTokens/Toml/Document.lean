import BasicTokens.Toml.DateTime
import BasicTokens.Toml.Table

/-!
# Toml/Document — the text of a document, read

A document is a sequence of statements, comments and empty lines.  Values nest at most 79 deep and
dotted keys have at most 79 parts.  Where a text is a document, its names are distinct
(`Table.nodup_parse?`).
-/

namespace BasicTokens

namespace Toml

open Reader

/-! ## Keys -/

/-- The characters of a key without quotes. -/
def isBareKey (c : Char) : Bool := c.isAlphanum || c == '-' || c == '_'

/-- One key, with or without quotes. -/
def simpleKey : Reader Key := do
  let (name, span) ← located (takeWhile1 isBareKey <|> Quoted.basic <|> Quoted.literal)
  return ⟨name, span⟩

/-- A key, perhaps behind others with dots between: those others, and the key. -/
def dottedKey : Reader (List Key × Key) := do
  let keys ← separated (char '.') do
    blanks
    let key ← simpleKey
    blanks
    return key
  guard (keys.length < 80)
  let last ← (keys.getLast? : Reader Key)
  return (keys.dropLast, last)

/-! ## Values -/

/-- A value that holds no others. -/
def scalar : Reader Value :=
  (Value.string <$> Quoted.string)
    <|> (do DateTime.dateTime; return .dateTime)
    <|> (Value.float <$> Numeral.float)
    <|> (Value.integer <$> Numeral.integer)
    <|> (do exactly "true".toList; return .boolean true)
    <|> (do exactly "false".toList; return .boolean false)

/-- A key, an equals sign and a value. -/
def assignment (value : Reader Value) : Reader Assignment := do
  let (path, key) ← dottedKey
  char '='
  blanks
  let (value, span) ← located value
  return ⟨path, key, value, span⟩

/-- Values in brackets, with line ends and comments anywhere between and a comma after the last if
one likes. -/
def array (value : Reader Value) : Reader Value := do
  char '['
  let items ← optional (separated (char ',') do
    gap
    let item ← value
    gap
    return item)
  if items.isSome then
    let _ ← optional (char ',')
  gap
  char ']'
  return .array (items.getD [])

/-- Assignments in braces, on one line. -/
def inlineTable (value : Reader Value) : Reader Value := do
  char '\x7b'
  let assignments ← optional (separated (char ',') do
    let a ← assignment value
    blanks
    return a)
  blanks
  char '\x7d'
  let entries ← (Table.assignAll? .inline [] (assignments.getD []) : Reader Table)
  return .table .inline entries

/-- A value that nests at most so deep. -/
def value : Nat → Reader Value
  | 0 => scalar
  | depth + 1 => scalar <|> array (value depth) <|> inlineTable (value depth)

/-! ## Documents -/

/-- A key between brackets that opens a section. -/
def header : Reader Header := do
  let ((isElement, path, key), span) ← located <|
    (do exactly ['[', '[']; let keys ← dottedKey; exactly [']', ']']; return (true, keys))
      <|> (do char '['; let keys ← dottedKey; char ']'; return (false, keys))
  return ⟨path, key, isElement, span⟩

/-- One line: nothing, a comment, a header or an assignment. -/
def line : Reader (Option Statement) :=
  (do newline; return none)
    <|> (do comment; lineEnd; return none)
    <|> (do let h ← header; trailing; return some (.header h))
    <|> (do let a ← assignment (value 79); trailing; return some (.assign a))

/-- The statements of a document.  A byte order mark in front is skipped. -/
def statements : Reader (List Statement) := do
  let _ ← optional (char '\ufeff')
  blanks
  let lines ← many do
    let line ← line
    blanks
    return line
  atEnd
  return lines.filterMap id

/-- The table that a text describes, if the text is a document. -/
def Table.parse? (source : Text) : Option Table := do
  let (statements, _) ← statements.run (.ofSource source)
  Table.ofStatements? statements

theorem Table.nodup_parse? {source : Text} {t : Table} (h : Table.parse? source = some t) :
    t.names.Nodup := by
  obtain ⟨read, -, h⟩ := Option.bind_eq_some_iff.mp h
  exact nodup_ofStatements? h

end Toml

end BasicTokens
