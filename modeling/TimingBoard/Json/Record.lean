import TimingBoard.Json.Basic

/-!
# Records in JSON

A record is an object with the fields as members in any order, or an array with the values of the
fields in their order. Members of other names are passed over, but a field must not be given twice,
and every member's name must be a text. An array must not be longer than the record; it may be
shorter where the fields at its end can be left out.
-/

namespace TimingBoard.Json

/-- The values given for the fields of a record. -/
structure RecordView where
  /-- For each field its value, if it is given. -/
  values : List (Option Json)
  /-- Whether the record is written as an array. -/
  inOrder : Bool

/-- The value of a member; nothing if there is none, and no answer if there are several. -/
def member? (members : List (Text × Json)) (name : Text) : Option (Option Json) :=
  match members.filter (·.1 == name) with
  | [] => some none
  | [(_, value)] => some (some value)
  | _ => none

/-- The values that a value gives for the named fields, if it is a record. -/
def record? (fields : List String) : Json → Option RecordView
  | .object members => do
    let members ← members.mapM fun (name, value) => name.map fun n => (n, value)
    let values ← fields.mapM fun f => member? members f.toList
    return ⟨values, false⟩
  | .array items =>
    if items.length ≤ fields.length then
      some ⟨items.map some ++ List.replicate (fields.length - items.length) none, true⟩
    else none
  | _ => none

/-- The text of a string. -/
def text? : Json → Option Text
  | .string value => value
  | _ => none

/-- The items of an array. -/
def items? : Json → Option (List Json)
  | .array items => some items
  | _ => none

/-- The name of a case without parts: a string, or an object whose only member has it as its name
and `null` as its value. -/
def caseName? : Json → Option Text
  | .string value => value
  | .object [(name, .null)] => name
  | _ => none

/-- The case that a value names. -/
def case? {α : Type} (cases : List α) (name : α → Text) (j : Json) : Option α := do
  let given ← caseName? j
  cases.find? fun a => name a == given

end TimingBoard.Json
