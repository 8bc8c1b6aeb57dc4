import TimingBoard.Text.Basic

/-!
# Frames

A reply is made of frames. A frame is a line whose first three characters are a tag; the character
after the tag is a separator, and the rest is the payload. A line without a tag is noise.

A line is measured in the bytes of its UTF-8 form: the payload starts at the fifth byte. When the
character after the tag takes more than one byte, no character starts there, and the payload is
empty.
-/

namespace TimingBoard

/-- The kind of a frame. -/
inductive Tag where
  /-- The command is accepted. -/
  | accepted
  /-- The value of a setting. -/
  | value
  /-- Measurement data. -/
  | measurement
  /-- The command is rejected. -/
  | rejected
  deriving DecidableEq

namespace Tag

/-- All tags. -/
def all : List Tag := [.accepted, .value, .measurement, .rejected]

/-- The word for a tag on the line. -/
def word : Tag → Text
  | .accepted => "ACK".toList
  | .value => "VAL".toList
  | .measurement => "MSR".toList
  | .rejected => "ERR".toList

/-- The tag of a word. -/
def ofWord? (t : Text) : Option Tag :=
  all.find? fun tag => tag.word == t

/-- Every tag is found by its word. -/
@[simp] theorem ofWord?_word (tag : Tag) : ofWord? tag.word = some tag := by
  cases tag <;> decide

end Tag

/-- A classified line of a reply. -/
structure Frame where
  tag : Tag
  payload : Text
  deriving DecidableEq

namespace Frame

/-- The payload of what follows a tag. -/
def payloadOf : Text → Text
  | [] => []
  | separator :: payload => if separator.utf8Size = 1 then payload else []

/-- The frame of a line that starts with a tag. -/
def classify? (line : Text) : Option Frame :=
  (Tag.ofWord? (line.take 3)).map fun tag => ⟨tag, payloadOf (line.drop 3)⟩

/-- The first word of the payload, up to its first space. -/
def key (f : Frame) : Text :=
  (Text.cutAtSpace f.payload).1

/-- A frame as a line. -/
def text (f : Frame) : Text :=
  if f.payload = [] then f.tag.word else f.tag.word ++ ' ' :: f.payload

end Frame

end TimingBoard
