import TimingBoard.Client.Basic
import TimingBoard.Proofs.Board.Settings

/-!
# Commands about measurements

The client makes a command about measurements from a key and, for some of them, the number of a
measurement and the name of a file.  What it makes is never refused, except for a name that is no
token, and the board finds in it the key and the value that were put together.

For each key there is one answer, to the board as it is when it answers.
-/

namespace TimingBoard

/-- A text without white space is on one line. -/
lemma Text.isOneLine_of_isSpace {t : Text} (h : ∀ a ∈ t, isSpace a = false) : IsOneLine t := by
  intro a ha
  have hspace := h a ha
  rw [isLineBreak, Bool.or_eq_false_iff, beq_eq_false_iff_ne, beq_eq_false_iff_ne]
  refine ⟨?_, ?_⟩ <;> rintro rfl <;> simp [isSpace] at hspace

namespace Command

variable {c : Command} {key value : Text}

/-- A command about measurements with a key and a value. -/
structure MeasuresWith (key value : Text) (c : Command) : Prop where
  verb : c.verb = .measure
  cut : Text.cutAtSpace c.argument = (key, value)

/-- A word alone is the key of a command. -/
lemma exists_measures_word (key : Text)
    (hkey : Text.trim key = key ∧ key.any Text.isLineBreak = false ∧ ' ' ∉ key) :
    ∃ c, make .measure key = .ok c ∧ c.MeasuresWith key [] := by
  obtain ⟨c, hmake, hverb, hargument⟩ := exists_make .measure hkey.1 hkey.2.1
  refine ⟨c, hmake, hverb, ?_⟩
  rw [hargument, Text.cutAtSpace_of_notMem hkey.2.2]

/-- A word and a value are the key and the value of a command. -/
lemma exists_measures (key : Text)
    (hkey : (∀ a ∈ key, Text.isSpace a = false) ∧ key ≠ [] ∧ Text.IsOneLine key)
    (hvalue : value ≠ []) (hlast : ∀ a ∈ value.getLast?, Text.isSpace a = false)
    (hline : Text.IsOneLine value) :
    ∃ c, make .measure (key ++ ' ' :: value) = .ok c ∧ c.MeasuresWith key value := by
  have htrim := Text.trim_append_cons hkey.1 hkey.2.1 hvalue hlast
  have hone : Text.IsOneLine (key ++ ' ' :: value) :=
    Text.isOneLine_append.2 ⟨hkey.2.2, Text.isOneLine_cons.2 ⟨by decide, hline⟩⟩
  obtain ⟨c, hmake, hverb, -⟩ := exists_make .measure htrim (Text.isOneLine_iff_any.1 hone)
  exact ⟨c, hmake, hverb, Board.cutAtSpace_argument hmake hkey.1 hkey.2.1 hvalue hlast⟩

end Command

namespace Natural

/-- Digits end in no white space. -/
lemma isSpace_of_getLast?_digits (n : Nat) : ∀ a ∈ (digits n).getLast?, Text.isSpace a = false :=
  fun _ ha => Text.isSpace_of_isDigit (isDigit_of_mem_digits (List.mem_of_mem_getLast? ha))

end Natural

namespace Client

/-- The request for statistics is made, with the sign of a cumulative line before the number. -/
lemma exists_statisticsRequest (id : UInt32) (cumulative : Bool) :
    ∃ c, statisticsRequest id cumulative = .ok c ∧ c.MeasuresWith "STAT".toList
      ((if cumulative then ['-'] else []) ++ Natural.digits id.toNat) := by
  have hvalue : (if cumulative then ['-'] else []) ++ Natural.digits id.toNat ≠ [] := by
    simp [Natural.digits_ne_nil]
  have hlast : ∀ a ∈ ((if cumulative then ['-'] else []) ++ Natural.digits id.toNat).getLast?,
      Text.isSpace a = false := by
    rw [List.getLast?_append_of_ne_nil _ (Natural.digits_ne_nil _)]
    exact Natural.isSpace_of_getLast?_digits _
  have hline : Text.IsOneLine ((if cumulative then ['-'] else []) ++ Natural.digits id.toNat) := by
    refine Text.isOneLine_append.2 ⟨?_, Natural.isOneLine_digits _⟩
    split <;> decide
  have hmake := Command.exists_measures "STAT".toList (by decide) hvalue hlast hline
  unfold statisticsRequest
  simpa using hmake

/-- The request to save a measurement is made if the name of the file is a token. -/
lemma exists_saveRequest (id : UInt32) {file : Text} (h : Token.isToken file = true) :
    ∃ c, saveRequest id file = .ok c ∧ c.MeasuresWith "SAV".toList
      (Natural.digits id.toNat ++ ' ' :: file) := by
  obtain ⟨hne, hchars⟩ := Token.isToken_iff.1 h
  have hspace := Token.isSpace_of_mem h
  have hlast : ∀ a ∈ (Natural.digits id.toNat ++ ' ' :: file).getLast?, Text.isSpace a = false := by
    rw [Text.getLast?_append_cons _ hne]
    exact fun a ha => hspace a (List.mem_of_mem_getLast? ha)
  have hline : Text.IsOneLine (Natural.digits id.toNat ++ ' ' :: file) := by
    refine Text.isOneLine_append.2 ⟨Natural.isOneLine_digits _,
      Text.isOneLine_cons.2 ⟨by decide, ?_⟩⟩
    exact Text.isOneLine_of_isSpace hspace
  obtain ⟨c, hmake, hmeasures⟩ :=
    Command.exists_measures "SAV".toList (by decide) (by simp) hlast hline
  exact ⟨c, Token.require_bind_eq_ok.2 ⟨h, by simpa using hmake⟩, hmeasures⟩

/-- The request to save a measurement is refused if the name of the file is no token. -/
lemma saveRequest_of_not_token (id : UInt32) {file : Text} (h : Token.isToken file = false) :
    ∃ cause, saveRequest id file = .error cause := by
  cases hrequest : saveRequest id file with
  | error cause => exact ⟨cause, rfl⟩
  | ok c =>
    have htoken := (Token.require_bind_eq_ok.1 hrequest).1
    simp [h] at htoken

lemma exists_deleteRequest (id : UInt32) :
    ∃ c, Command.make .measure ("DEL ".toList ++ Natural.digits id.toNat) = .ok c ∧
      c.MeasuresWith "DEL".toList (Natural.digits id.toNat) := by
  have hmake := Command.exists_measures "DEL".toList (by decide)
    (Natural.digits_ne_nil id.toNat) (Natural.isSpace_of_getLast?_digits _)
    (Natural.isOneLine_digits _)
  simpa using hmake

end Client

/-! ## Answers -/

namespace Board

variable {c : Command} {key value : Text}

/-- A command about measurements is answered once a run that is over is ended. -/
lemma handle_of_measures (h : c.MeasuresWith key value) (now : Instant) (b : Board) :
    b.handle now c.line = (b.prepared now c.line).answerMeasure now c.argument := by
  rw [handle_line, h.verb]

lemma answerMeasure_start (h : c.MeasuresWith "START".toList value) (now : Instant) (b : Board) :
    b.answerMeasure now c.argument =
      match b.runningSince with
      | some _ => (rejected "9:START", b)
      | none => (accepted, { b with runningSince := some now }) := by
  unfold answerMeasure
  rw [h.cut]
  rfl

lemma answerMeasure_stop (h : c.MeasuresWith "STOP".toList value) (now : Instant) (b : Board) :
    b.answerMeasure now c.argument = (accepted, b.endRun now) := by
  unfold answerMeasure
  rw [h.cut]
  rfl

lemma answerMeasure_status (h : c.MeasuresWith "STATUS".toList value) (now : Instant) (b : Board) :
    b.answerMeasure now c.argument =
      ([dataFrame ["STATUS".toList, if b.runningSince.isSome then statusRunning
        else statusIdle]], b) := by
  unfold answerMeasure
  rw [h.cut]
  rfl

lemma answerMeasure_list (h : c.MeasuresWith "LST".toList value) (now : Instant) (b : Board) :
    b.answerMeasure now c.argument =
      (dataFrame ["LST".toList, "NUM".toList, Natural.digits b.measurements.length] ::
        b.measurements.mapIdx measurementFrame, b) := by
  unfold answerMeasure
  rw [h.cut]
  rfl

/-- The number of a measurement finds its statistics, with or without a sign before it. -/
lemma answerMeasure_statistics {id : UInt32} {cumulative : Bool}
    (h : c.MeasuresWith "STAT".toList
      ((if cumulative then ['-'] else []) ++ Natural.digits id.toNat)) (now : Instant) (b : Board) :
    b.answerMeasure now c.argument =
      match b.measurements[id.toNat]? with
      | some starts => ([statisticsFrame starts], b)
      | none => (rejected "8:STAT", b) := by
  have hsign :
      ((if cumulative then ['-'] else []) ++ Natural.digits id.toNat).dropWhile (· == '-') =
      Natural.digits id.toNat := by
    obtain ⟨d, rest, hdigits⟩ := List.exists_cons_of_ne_nil (Natural.digits_ne_nil id.toNat)
    have hdigit := Natural.isDigit_of_mem_digits (n := id.toNat) (c := d) (by simp [hdigits])
    have hfirst : (d == '-') = false := by
      rw [beq_eq_false_iff_ne]
      rintro rfl
      exact absurd hdigit (by decide)
    rw [hdigits]
    cases cumulative <;> simp [hfirst]
  have hread : Natural.read? UInt64.size (Natural.digits id.toNat) = some id.toNat :=
    Natural.read?_digits (Nat.lt_trans id.toNat_lt (by decide))
  have hanswer : b.answerMeasure now c.argument =
      match (Natural.read? UInt64.size (((if cumulative then ['-'] else []) ++
        Natural.digits id.toNat).dropWhile (· == '-'))).bind (b.measurements[·]?) with
      | some starts => ([statisticsFrame starts], b)
      | none => (rejected "8:STAT", b) := by
    unfold answerMeasure
    rw [h.cut]
    rfl
  rw [hanswer, hsign, hread]
  rfl

/-- The number of a measurement is its place, if there are so many. -/
lemma place?_digits (id : UInt32) (b : Board) :
    b.place? (Natural.digits id.toNat) =
      if id.toNat < b.measurements.length then some id.toNat else none := by
  have hread : Natural.read? UInt64.size (Natural.digits id.toNat) = some id.toNat :=
    Natural.read?_digits (Nat.lt_trans id.toNat_lt (by decide))
  rw [place?, hread]
  split
  · next hid => simp [hid]
  · next hid => simp [Nat.not_lt.1 hid]

lemma answerMeasure_save {id : UInt32} {file : Text} (hfile : file ≠ [])
    (h : c.MeasuresWith "SAV".toList (Natural.digits id.toNat ++ ' ' :: file)) (now : Instant)
    (b : Board) : b.answerMeasure now c.argument =
      if id.toNat < b.measurements.length then (accepted, b) else (rejected "4:SAVE", b) := by
  have hspace : ' ' ∉ Natural.digits id.toNat := fun hmem =>
    absurd (Natural.isDigit_of_mem_digits hmem) (by decide)
  have hanswer : b.answerMeasure now c.argument =
      if (b.place? (Text.cutAtSpace (Natural.digits id.toNat ++ ' ' :: file)).1).isSome ∧
        (Text.cutAtSpace (Natural.digits id.toNat ++ ' ' :: file)).2 ≠ [] then (accepted, b)
      else (rejected "4:SAVE", b) := by
    unfold answerMeasure
    rw [h.cut]
    rfl
  rw [hanswer, Text.cutAtSpace_append hspace, place?_digits]
  by_cases hid : id.toNat < b.measurements.length <;> simp [hid, hfile]

lemma answerMeasure_delete {id : UInt32}
    (h : c.MeasuresWith "DEL".toList (Natural.digits id.toNat)) (now : Instant) (b : Board) :
    b.answerMeasure now c.argument =
      if id.toNat < b.measurements.length then
        (accepted, { b with measurements := b.measurements.eraseIdx id.toNat })
      else (rejected "5:DELETE", b) := by
  have hanswer : b.answerMeasure now c.argument =
      (b.place? (Natural.digits id.toNat)).elim (rejected "5:DELETE", b) fun place =>
        (accepted, { b with measurements := b.measurements.eraseIdx place }) := by
    unfold answerMeasure
    rw [h.cut]
    dsimp only
    cases b.place? (Natural.digits id.toNat) <;> rfl
  rw [hanswer, place?_digits]
  split <;> rfl

lemma answerMeasure_clear (h : c.MeasuresWith "CLR".toList value) (now : Instant) (b : Board) :
    b.answerMeasure now c.argument = (accepted, { b with measurements := [] }) := by
  unfold answerMeasure
  rw [h.cut]
  rfl

end Board

end TimingBoard
