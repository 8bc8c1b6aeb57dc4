import TimingBoard.Text.Quoted

/-!
# JSON values

Settings and configurations are kept in files as JSON. A value here is what the text of a file says
before anything is made of it:

* a number is its literal, so that whether it is whole, and what it is rounded to, is decided by
  whoever needs the number;
* a string literal may hold half of a surrogate pair without the other half. Such a literal is well
  formed but stands for no text.

Members of an object keep their order, and a name may occur more than once.
-/

namespace TimingBoard

/-- A JSON value. -/
inductive Json where
  | null
  | bool (value : Bool)
  | number (literal : Text)
  /-- A string; `none` for one that stands for no text. -/
  | string (value : Option Text)
  | array (items : List Json)
  | object (members : List (Option Text × Json))

namespace Json

/-- The string of a text. -/
def ofText (t : Text) : Json := .string (some t)

/-- An object with named members. -/
def ofMembers (members : List (String × Json)) : Json :=
  .object (members.map fun m => (some m.1.toList, m.2))

/-! ## Writing -/

/-- A character as it is written in a string: controls, quotation marks and backslashes by escapes,
all others as themselves. -/
def escapeChar (c : Char) : Text :=
  match c with
  | '"' => ['\\', '"']
  | '\\' => ['\\', '\\']
  | '\x08' => ['\\', 'b']
  | '\x0c' => ['\\', 'f']
  | '\n' => ['\\', 'n']
  | '\r' => ['\\', 'r']
  | '\t' => ['\\', 't']
  | c =>
    if c.toNat < 0x20 then
      let digits := Text.hexDigits c.toNat
      ['\\', 'u'] ++ List.replicate (4 - digits.length) '0' ++ digits
    else [c]

/-- A text as a string literal. -/
def literal (t : Text) : Text :=
  '"' :: t.flatMap escapeChar ++ ['"']

mutual

/-- A value without any white space. -/
def compact : Json → Text
  | .null => "null".toList
  | .bool value => (if value then "true" else "false").toList
  | .number literal => literal
  | .string value => literal (value.getD [])
  | .array [] => ['[', ']']
  | .array (item :: rest) => '[' :: compact item ++ compactItems rest ++ [']']
  | .object [] => ['\x7b', '\x7d']
  | .object ((name, value) :: rest) =>
    '\x7b' :: literal (name.getD []) ++ ':' :: compact value ++ compactMembers rest ++ ['\x7d']

/-- The items of an array after the first. -/
def compactItems : List Json → Text
  | [] => []
  | item :: rest => ',' :: compact item ++ compactItems rest

/-- The members of an object after the first. -/
def compactMembers : List (Option Text × Json) → Text
  | [] => []
  | (name, value) :: rest =>
    ',' :: literal (name.getD []) ++ ':' :: compact value ++ compactMembers rest

end

/-- A line break and the indentation of a depth. -/
def newLine (depth : Nat) : Text :=
  '\n' :: List.replicate (2 * depth) ' '

mutual

/-- A value with each item and member on a line of its own, indented by two spaces per depth. -/
def indented (depth : Nat) : Json → Text
  | .null => "null".toList
  | .bool value => (if value then "true" else "false").toList
  | .number literal => literal
  | .string value => literal (value.getD [])
  | .array [] => ['[', ']']
  | .array (item :: rest) =>
    '[' :: newLine (depth + 1) ++ indented (depth + 1) item ++ indentedItems depth rest ++
      newLine depth ++ [']']
  | .object [] => ['\x7b', '\x7d']
  | .object ((name, value) :: rest) =>
    '\x7b' :: newLine (depth + 1) ++ literal (name.getD []) ++ ": ".toList ++
      indented (depth + 1) value ++ indentedMembers depth rest ++ newLine depth ++ ['\x7d']

/-- The items of an array after the first. -/
def indentedItems (depth : Nat) : List Json → Text
  | [] => []
  | item :: rest =>
    ',' :: newLine (depth + 1) ++ indented (depth + 1) item ++ indentedItems depth rest

/-- The members of an object after the first. -/
def indentedMembers (depth : Nat) : List (Option Text × Json) → Text
  | [] => []
  | (name, value) :: rest =>
    ',' :: newLine (depth + 1) ++ literal (name.getD []) ++ ": ".toList ++
      indented (depth + 1) value ++ indentedMembers depth rest

end

/-- A value as it is written to a file. -/
def pretty (j : Json) : Text :=
  indented 0 j

end Json

end TimingBoard
