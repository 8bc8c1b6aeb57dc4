import TimingBoard.Number.Natural
import TimingBoard.Text.Basic

/-!
# Host names

A name is made of labels with points between them; a point at the end is that of the root. A name
service is asked only for names whose labels are made of letters, digits, hyphens and underscores,
are not empty and not too long, and do not start with a hyphen. A backslash before a character, or
before three digits of its number, spells out the character.
-/

namespace TimingBoard.HostName

/-- The labels with a character before the first of them. -/
def withFirst (c : Char) : List Text → List Text
  | [] => [[c]]
  | label :: labels => (c :: label) :: labels

/-- The character that is spelled out after a backslash, and the text after it. -/
def spelledOut? : Text → Option (Char × Text)
  | [] => none
  | a :: rest =>
    if a.isDigit then
      match rest with
      | b :: c :: rest =>
        ((Natural.readInBase? 10 [a, b, c]).filter (· < 256)).map fun n => (Char.ofNat n, rest)
      | _ => none
    else some (a, rest)

theorem length_lt_of_spelledOut? {t rest : Text} {c : Char} (h : spelledOut? t = some (c, rest)) :
    rest.length < t.length := by
  match t, h with
  | a :: t, h =>
    simp only [spelledOut?] at h
    split at h
    · split at h
      · next b c rest' =>
        obtain ⟨n, -, hn⟩ := Option.map_eq_some_iff.mp h
        obtain rfl := (Prod.mk.inj hn).2
        simp only [List.length_cons]
        omega
      · exact absurd h (by simp)
    · obtain rfl := (Prod.mk.inj (Option.some.inj h)).2
      simp

/-- The labels of a name. The last is empty if the name ends with a point. -/
def labels? : Text → Option (List Text)
  | [] => some [[]]
  | '.' :: rest => (labels? rest).map ([] :: ·)
  | '\\' :: rest =>
    match h : spelledOut? rest with
    | some (c, rest') =>
      have := length_lt_of_spelledOut? h
      (labels? rest').map (withFirst c)
    | none => none
  | c :: rest => (labels? rest).map (withFirst c)
termination_by t => t.length

/-- A character of a label. -/
def isLabelCharacter (c : Char) : Bool :=
  c.isAlphanum || c == '-' || c == '_'

/-- A label that a name can have. -/
def isLabel (label : Text) : Bool :=
  label != [] && label.length ≤ 63 && label.all isLabelCharacter

/-- The labels without that of the root. -/
def withoutRoot (labels : List Text) : List Text :=
  if labels.getLast? = some [] then labels.dropLast else labels

/-- The length of labels as they are sent, each with its length in front, and that of the root. -/
def sentLength (labels : List Text) : Nat :=
  (labels.map fun label => label.length + 1).foldl (· + ·) 1

/-- A name that a name service can be asked for. -/
def isAskable (name : Text) : Bool :=
  name == ['.'] ||
    match (labels? name).map withoutRoot with
    | some (first :: more) =>
      first.head? != some '-' && (first :: more).all isLabel && sentLength (first :: more) ≤ 255
    | _ => false

/-- The name of the machine itself, in any case of letters. -/
def isThisMachine (name : Text) : Bool :=
  name.map Char.toLower == "localhost".toList

end TimingBoard.HostName
