/-!
# Text

Everything the board and its client say to each other is plain text. A text is the list of its
characters, so that a rule about text is a rule about lists: trimming drops from the two ends, a
line is cut at its first space, a field is what lies between two separators.

White space is the Unicode property of that name. The information separators U+001C to U+001F and
the zero-width characters U+200B and U+FEFF are not white space.
-/

namespace TimingBoard

/-- A piece of text, as its characters in order. -/
abbrev Text := List Char

namespace Text

/-! ## White space -/

/-- A character with the Unicode property `White_Space`. -/
def isSpace (c : Char) : Bool :=
  (0x9 ≤ c.toNat && c.toNat ≤ 0xD) || c.toNat == 0x20 || c.toNat == 0x85 || c.toNat == 0xA0 ||
    c.toNat == 0x1680 || (0x2000 ≤ c.toNat && c.toNat ≤ 0x200A) || c.toNat == 0x2028 ||
    c.toNat == 0x2029 || c.toNat == 0x202F || c.toNat == 0x205F || c.toNat == 0x3000

/-- A character that would break a line in two: carriage return or line feed. -/
def isLineBreak (c : Char) : Bool :=
  c == '\n' || c == '\r'

/-- The text without the characters of a class at its end. -/
def dropEndWhile (p : Char → Bool) (t : Text) : Text :=
  (t.reverse.dropWhile p).reverse

/-- The text without white space at its end. -/
def trimEnd (t : Text) : Text :=
  dropEndWhile isSpace t

/-- The text without white space at either end. -/
def trim (t : Text) : Text :=
  trimEnd (t.dropWhile isSpace)

/-- A text has no white space at its ends when neither its first nor its last character is one. -/
theorem trim_eq_self_of_ends {t : Text} (first : ∀ c ∈ t.head?, isSpace c = false)
    (last : ∀ c ∈ t.getLast?, isSpace c = false) : trim t = t := by
  have start : t.dropWhile isSpace = t := by
    cases t with
    | nil => rfl
    | cons c r => simp [first c (by simp)]
  have finish : t.reverse.dropWhile isSpace = t.reverse := by
    cases h : t.reverse with
    | nil => rfl
    | cons c r =>
      have : c ∈ t.getLast? := by simp [← List.head?_reverse, h]
      simp [last c this]
  simp [trim, trimEnd, dropEndWhile, start, finish]

/-- The first character left by dropping a class from the start is outside it. -/
theorem head?_dropWhile_space (t : Text) :
    ∀ c ∈ (t.dropWhile isSpace).head?, isSpace c = false := by
  induction t with
  | nil => simp
  | cons a r ih =>
    by_cases h : isSpace a = true
    · simpa [List.dropWhile_cons, h] using ih
    · simp [h]

/-- The last character of a trimmed text is not white space. -/
theorem getLast?_trimEnd (t : Text) : ∀ c ∈ (trimEnd t).getLast?, isSpace c = false := by
  intro c hc
  refine head?_dropWhile_space t.reverse c ?_
  simpa [trimEnd, dropEndWhile] using hc

/-- What trimming leaves at the end is a start of the text. -/
theorem trimEnd_isPrefix (t : Text) : trimEnd t <+: t := by
  have h : t.reverse.dropWhile isSpace <:+ t.reverse := List.dropWhile_suffix _
  simpa [trimEnd, dropEndWhile] using List.reverse_prefix.mpr h

/-- Trimming a second time changes nothing. -/
@[simp] theorem trim_trim (t : Text) : trim (trim t) = trim t := by
  refine trim_eq_self_of_ends ?_ (getLast?_trimEnd _)
  intro c hc
  obtain ⟨rest, hrest⟩ := trimEnd_isPrefix (t.dropWhile isSpace)
  refine head?_dropWhile_space t c ?_
  cases h : trimEnd (t.dropWhile isSpace) with
  | nil => simp [trim, h] at hc
  | cons a r =>
    have ha : a = c := by simpa [trim, h] using hc
    rw [← hrest, h, ha]
    simp

/-! ## Cutting a line -/

/-- The part before the first space and the part after it; all of the text and nothing when it
has no space. -/
def cutAtSpace (t : Text) : Text × Text :=
  (t.takeWhile (· != ' '), (t.dropWhile (· != ' ')).drop 1)

/-- The fields between separators of a class, empty ones included. -/
def fields (p : Char → Bool) : Text → List Text
  | [] => [[]]
  | c :: r =>
    if p c then [] :: fields p r
    else
      match fields p r with
      | [] => [[c]]
      | w :: ws => (c :: w) :: ws

/-- The words of a text: its non-empty runs of characters other than white space. -/
def words (t : Text) : List Text :=
  (fields isSpace t).filter (· != [])

/-- A line without the carriage return that a line feed ended it with. -/
def withoutReturn (line : Text) : Text :=
  match line.reverse with
  | '\r' :: r => r.reverse
  | _ => line

/-- The lines of a text. A line ends at a line feed, together with a carriage return right before
it; characters after the last line feed are a line of their own when there are any. -/
def lines (t : Text) : List Text :=
  let parts := fields (· == '\n') t
  parts.dropLast.map withoutReturn ++ (parts.getLast?.toList.filter (· != []))

/-! ## Putting text together -/

/-- The texts one after the other with a separator between them. -/
def join (separator : Text) (ts : List Text) : Text :=
  (ts.intersperse separator).flatten

/-- The text with spaces before it, so that it fills at least the width. -/
def padStart (width : Nat) (t : Text) : Text :=
  List.replicate (width - t.length) ' ' ++ t

/-- The text with spaces after it, so that it fills at least the width. -/
def padEnd (width : Nat) (t : Text) : Text :=
  t ++ List.replicate (width - t.length) ' '

end Text

end TimingBoard
