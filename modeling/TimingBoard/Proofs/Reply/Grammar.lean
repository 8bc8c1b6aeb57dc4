import TimingBoard.Proofs.Text.Words
import TimingBoard.Proofs.Time.Spelling
import TimingBoard.Reply.Decode

/-!
# The grammar of payloads

A payload starts with a sentence of its key: fixed words, and between them runs of a class of
characters, each as long as possible.  What follows the sentence is not looked at.  Here the
sentences are described by how the payload is put together, and the functions that cut them are
shown to find exactly them.

From a sentence a value is read if its numbers fit.  A number is a run of digits of any script, and
only ASCII digits have a value, so that a sentence may well show no value.
-/

namespace TimingBoard

namespace Payload

/-! ## Runs -/

/-- Characters of a class, at least one. -/
structure Consists (p : Char → Bool) (run : Text) : Prop where
  ne_nil : run ≠ []
  forall_mem : ∀ c ∈ run, p c = true

/-- No character of a class comes next. -/
def StopsAt (p : Char → Bool) (rest : Text) : Prop :=
  ∀ c ∈ rest.head?, p c = false

variable {p : Char → Bool} {t run rest payload : Text}

lemma after?_eq_some {start : String} : after? start t = some rest ↔ t = start.toList ++ rest := by
  unfold after?
  rw [List.isPrefixOf?_eq_some_iff_append_eq, eq_comm]

/-- A fixed start is taken off. -/
lemma after?_append (start : String) (rest : Text) :
    after? start (start.toList ++ rest) = some rest :=
  after?_eq_some.2 rfl

@[simp] lemma stopsAt_nil : StopsAt p [] := by
  simp [StopsAt]

@[simp] lemma stopsAt_cons {c : Char} : StopsAt p (c :: rest) ↔ p c = false := by
  simp [StopsAt]

/-- What is left after the longest run of a class does not go on with it. -/
lemma stopsAt_dropWhile (t : Text) : StopsAt p (t.dropWhile p) := by
  intro c hc
  have hhead := List.head?_dropWhile_not p t
  rw [Option.mem_def.1 hc] at hhead
  simpa using hhead

/-- The longest run of a class ends where another character comes next. -/
lemma StopsAt.span_append (hstop : StopsAt p rest) (hrun : ∀ c ∈ run, p c = true) :
    (run ++ rest).takeWhile p = run ∧ (run ++ rest).dropWhile p = rest := by
  rw [List.takeWhile_append_of_pos hrun, List.dropWhile_append_of_pos hrun]
  cases rest with
  | nil => simp
  | cons c rest => simp [stopsAt_cons.1 hstop]

/-- A run that is cut off is the longest one. -/
lemma run?_eq_some : run? p t = some (run, rest) ↔
    t = run ++ rest ∧ Consists p run ∧ StopsAt p rest := by
  constructor
  · intro h
    unfold run? at h
    split at h
    · simp at h
    · next hne =>
      obtain ⟨rfl, rfl⟩ := Prod.mk.inj (Option.some.inj h)
      refine ⟨List.takeWhile_append_dropWhile.symm, ⟨hne, fun c hc => ?_⟩, stopsAt_dropWhile t⟩
      exact List.mem_takeWhile_imp hc
  · rintro ⟨rfl, hrun, hstop⟩
    obtain ⟨htake, hdrop⟩ := hstop.span_append hrun.forall_mem
    rw [run?, htake, hdrop, if_neg hrun.ne_nil]

/-- A payload starts with fixed characters and then the longest run of a class. -/
def StartsWithRun (p : Char → Bool) (start : String) (payload run : Text) : Prop :=
  ∃ rest, payload = start.toList ++ (run ++ rest) ∧ Consists p run ∧ StopsAt p rest

/-- Such a run is cut out behind the fixed characters. -/
lemma run?_after?_eq_some {start : String} :
    (do
      let rest ← after? start payload
      let (run, _) ← run? p rest
      return run) = some run ↔ StartsWithRun p start payload run := by
  simp only [bind, Option.bind_eq_some_iff, after?_eq_some, pure, Option.some.injEq, StartsWithRun]
  constructor
  · rintro ⟨t, rfl, ⟨run', rest⟩, hrun, rfl⟩
    obtain ⟨rfl, hchars, hstop⟩ := run?_eq_some.1 hrun
    exact ⟨rest, rfl, hchars, hstop⟩
  · rintro ⟨rest, rfl, hchars, hstop⟩
    exact ⟨_, rfl, (run, rest), run?_eq_some.2 ⟨rfl, hchars, hstop⟩, rfl⟩

/-- A number is a run of digits. -/
lemma consists_digits (n : Nat) : Consists Text.isDecimalDigit (Natural.digits n) :=
  ⟨Natural.digits_ne_nil n, fun _ hc =>
    Text.isDecimalDigit_of_isDigit (Natural.isDigit_of_mem_digits hc)⟩

/-- A run that a payload ends with is the longest one. -/
lemma startsWithRun_append (start : String) (hrun : Consists p run) :
    StartsWithRun p start (start.toList ++ run) run :=
  ⟨[], by rw [List.append_nil], hrun, stopsAt_nil⟩

/-! ## Rows of runs -/

/-- Runs of a class with a separator between them, the last one as long as possible. -/
structure IsRow (p : Char → Bool) (separator : String) (runs : List Text) (t rest : Text) :
    Prop where
  eq_append : t = Text.join separator.toList runs ++ rest
  consists : ∀ run ∈ runs, Consists p run
  stops : StopsAt p rest

section Row

variable {separator : String} {runs : List Text}

lemma isRow_singleton :
    IsRow p separator [run] t rest ↔ t = run ++ rest ∧ Consists p run ∧ StopsAt p rest := by
  constructor
  · rintro ⟨happend, hruns, hstop⟩
    exact ⟨by simpa using happend, hruns run (by simp), hstop⟩
  · rintro ⟨happend, hrun, hstop⟩
    exact ⟨by simpa using happend, by simpa using hrun, hstop⟩

/-- A longer row is a run, the separator and the rest of the row. -/
lemma isRow_cons (hruns : runs ≠ []) : IsRow p separator (run :: runs) t rest ↔
    ∃ u, t = run ++ (separator.toList ++ u) ∧ Consists p run ∧ IsRow p separator runs u rest := by
  have hjoin : Text.join separator.toList (run :: runs) =
      run ++ separator.toList ++ Text.join separator.toList runs := by
    cases runs with
    | nil => exact absurd rfl hruns
    | cons next more => exact Text.join_cons_cons _ _ _ _
  constructor
  · rintro ⟨rfl, hall, hstop⟩
    obtain ⟨hrun, hmore⟩ := List.forall_mem_cons.1 hall
    exact ⟨_, by rw [hjoin]; simp, hrun, rfl, hmore, hstop⟩
  · rintro ⟨u, rfl, hrun, rfl, hmore, hstop⟩
    exact ⟨by rw [hjoin]; simp, List.forall_mem_cons.2 ⟨hrun, hmore⟩, hstop⟩

end Row

/-- The numbers that are cut out are a row of numbers with single spaces. -/
lemma numbers?_eq_some {k : Nat} {numbers : List Text} :
    numbers? (k + 1) t = some numbers ↔
      numbers.length = k + 1 ∧ ∃ rest, IsRow Text.isDecimalDigit " " numbers t rest := by
  induction k generalizing t numbers with
  | zero =>
    simp only [numbers?, number?, Option.map_eq_some_iff]
    constructor
    · rintro ⟨⟨n, rest⟩, hn, rfl⟩
      exact ⟨rfl, rest, isRow_singleton.2 (run?_eq_some.1 hn)⟩
    · rintro ⟨hlength, rest, hrow⟩
      obtain ⟨n, rfl⟩ := List.length_eq_one_iff.1 hlength
      exact ⟨(n, rest), run?_eq_some.2 (isRow_singleton.1 hrow), rfl⟩
  | succ k ih =>
    rw [numbers?]
    simp only [bind, Option.bind_eq_some_iff, pure, Option.some.injEq, after?_eq_some, number?]
    constructor
    · rintro ⟨⟨n, _⟩, hn, u, rfl, more, hmore, rfl⟩
      obtain ⟨rfl, hrun, -⟩ := run?_eq_some.1 hn
      obtain ⟨hlength, rest, hrow⟩ := ih.1 hmore
      have hne : more ≠ [] := List.ne_nil_of_length_eq_add_one hlength
      exact ⟨by simp [hlength], rest, (isRow_cons hne).2 ⟨u, rfl, hrun, hrow⟩⟩
    · rintro ⟨hlength, rest, hrow⟩
      obtain ⟨n, more, rfl⟩ := List.exists_cons_of_length_eq_add_one hlength
      have hmore : more.length = k + 1 := by simpa using hlength
      obtain ⟨u, rfl, hrun, hrow⟩ := (isRow_cons (List.ne_nil_of_length_eq_add_one hmore)).1 hrow
      have hspace : StopsAt Text.isDecimalDigit (" ".toList ++ u) := stopsAt_cons.2 (by decide)
      exact ⟨(n, " ".toList ++ u), run?_eq_some.2 ⟨rfl, hrun, hspace⟩, u, rfl, more,
        ih.2 ⟨hmore, rest, hrow⟩, rfl⟩

/-- What is left after words are cut off follows a row of words with colons. -/
lemma afterWords?_eq_some {k : Nat} :
    afterWords? (k + 1) t = some rest ↔
      ∃ words, words.length = k + 1 ∧ IsRow Text.isWordCharacter ":" words t rest := by
  induction k generalizing t with
  | zero =>
    simp only [afterWords?, Option.map_eq_some_iff]
    constructor
    · rintro ⟨⟨word, _⟩, hword, rfl⟩
      exact ⟨[word], rfl, isRow_singleton.2 (run?_eq_some.1 hword)⟩
    · rintro ⟨words, hlength, hrow⟩
      obtain ⟨word, rfl⟩ := List.length_eq_one_iff.1 hlength
      exact ⟨(word, rest), run?_eq_some.2 (isRow_singleton.1 hrow), rfl⟩
  | succ k ih =>
    rw [afterWords?]
    simp only [bind, Option.bind_eq_some_iff, after?_eq_some]
    constructor
    · rintro ⟨⟨word, _⟩, hword, u, rfl, hmore⟩
      obtain ⟨rfl, hrun, -⟩ := run?_eq_some.1 hword
      obtain ⟨more, hlength, hrow⟩ := ih.1 hmore
      have hne : more ≠ [] := List.ne_nil_of_length_eq_add_one hlength
      exact ⟨word :: more, by simp [hlength], (isRow_cons hne).2 ⟨u, rfl, hrun, hrow⟩⟩
    · rintro ⟨words, hlength, hrow⟩
      obtain ⟨word, more, rfl⟩ := List.exists_cons_of_length_eq_add_one hlength
      have hmore : more.length = k + 1 := by simpa using hlength
      obtain ⟨u, rfl, hrun, hrow⟩ := (isRow_cons (List.ne_nil_of_length_eq_add_one hmore)).1 hrow
      have hcolon : StopsAt Text.isWordCharacter (":".toList ++ u) := stopsAt_cons.2 (by decide)
      exact ⟨(word, ":".toList ++ u), run?_eq_some.2 ⟨rfl, hrun, hcolon⟩, u, rfl,
        ih.2 ⟨more, hmore, hrow⟩⟩

/-! ## Sentences -/

/-- A payload starts with fixed characters and then a row of runs. -/
def StartsWithRow (p : Char → Bool) (start separator : String) (payload : Text)
    (runs : List Text) : Prop :=
  ∃ t rest, payload = start.toList ++ t ∧ IsRow p separator runs t rest

/-- Digits of any script, with a point among them or behind them or without one. -/
def IsMagnitude (t : Text) : Prop :=
  ∃ whole, Consists Text.isDecimalDigit whole ∧
    (t = whole ∨ ∃ fraction, (∀ c ∈ fraction, Text.isDecimalDigit c = true) ∧
      t = whole ++ '.' :: fraction)

/-- A payload starts with a timing setting: its key, a magnitude and the letter of a unit. -/
def StartsWithTime (payload : Text) (key : TimingKey) (magnitude : Text) (unit : TimeUnit) : Prop :=
  IsMagnitude magnitude ∧ ∃ rest, payload = key.word ++ ' ' :: (magnitude ++ unit.letter :: rest)

/-- A payload starts with the live monitor: two numbers, and perhaps after white space a file name
that may be empty. -/
def StartsWithMonitor (payload save count filename : Text) : Prop :=
  ∃ gap rest, payload = "MONITOR ".toList ++
    (save ++ ' ' :: (count ++ (gap ++ (filename ++ rest)))) ∧
    Consists Text.isDecimalDigit save ∧ Consists Text.isDecimalDigit count ∧
    StopsAt Text.isDecimalDigit (gap ++ (filename ++ rest)) ∧ (∀ c ∈ gap, Text.isSpace c = true) ∧
    StopsAt Text.isSpace (filename ++ rest) ∧ (∀ c ∈ filename, Token.isCharacter c = true) ∧
    StopsAt Token.isCharacter rest

/-- A payload starts with an agent: a number and six words with colons between them. -/
def StartsWithAgent (payload id mac : Text) : Prop :=
  ∃ words t rest, payload = "AGENT ".toList ++ (id ++ ' ' :: t) ∧ Consists Text.isDecimalDigit id ∧
    words.length = 6 ∧ IsRow Text.isWordCharacter ":" words t rest ∧
    mac = Text.join ":".toList words

lemma filePrefix?_eq_some :
    filePrefix? payload = some run ↔ StartsWithRun Token.isCharacter "PREFIX " payload run :=
  run?_after?_eq_some

lemma autosave?_eq_some :
    autosave? payload = some run ↔ StartsWithRun Text.isDecimalDigit "AUTOSAVE " payload run :=
  run?_after?_eq_some

lemma agents?_eq_some :
    agents? payload = some run ↔ StartsWithRun Text.isDecimalDigit "AGENTS " payload run :=
  run?_after?_eq_some

lemma measurementCount?_eq_some :
    measurementCount? payload = some run ↔
      StartsWithRun Text.isDecimalDigit "LST NUM " payload run :=
  run?_after?_eq_some

lemma statisticsCount?_eq_some :
    statisticsCount? payload = some run ↔
      StartsWithRun Text.isDecimalDigit "STAT NUM " payload run :=
  run?_after?_eq_some

lemma statistics?_eq_some {numbers : List Text} : statistics? payload = some numbers ↔
    numbers.length = 10 ∧ StartsWithRow Text.isDecimalDigit "STAT " " " payload numbers := by
  simp only [statistics?, bind, Option.bind_eq_some_iff, after?_eq_some, StartsWithRow]
  constructor
  · rintro ⟨t, rfl, hnumbers⟩
    obtain ⟨hlength, rest, hrow⟩ := numbers?_eq_some.1 hnumbers
    exact ⟨hlength, t, rest, rfl, hrow⟩
  · rintro ⟨hlength, t, rest, rfl, hrow⟩
    exact ⟨t, rfl, numbers?_eq_some.2 ⟨hlength, rest, hrow⟩⟩

lemma measurement?_eq_some {id starts : Text} : measurement? payload = some (id, starts) ↔
    StartsWithRow Text.isDecimalDigit "LST " " " payload [id, starts] := by
  simp only [measurement?, bind, Option.bind_eq_some_iff, after?_eq_some, StartsWithRow]
  constructor
  · rintro ⟨t, rfl, numbers, hnumbers, hpair⟩
    obtain ⟨hlength, rest, hrow⟩ := numbers?_eq_some.1 hnumbers
    obtain ⟨a, b, rfl⟩ := List.length_eq_two.1 hlength
    obtain ⟨rfl, rfl⟩ := Prod.mk.inj (Option.some.inj hpair)
    exact ⟨t, rest, rfl, hrow⟩
  · rintro ⟨t, rest, rfl, hrow⟩
    exact ⟨t, rfl, [id, starts], numbers?_eq_some.2 ⟨rfl, rest, hrow⟩, rfl⟩

lemma agent?_eq_some {id mac : Text} :
    agent? payload = some (id, mac) ↔ StartsWithAgent payload id mac := by
  simp only [agent?, bind, Option.bind_eq_some_iff, after?_eq_some, StartsWithAgent, number?, pure,
    Option.some.injEq, Prod.mk.injEq]
  constructor
  · rintro ⟨_, rfl, ⟨id', _⟩, hid, t, rfl, rest, hwords, rfl, rfl⟩
    obtain ⟨rfl, hid, -⟩ := run?_eq_some.1 hid
    obtain ⟨words, hlength, hrow⟩ := afterWords?_eq_some.1 hwords
    refine ⟨words, t, rest, rfl, hid, hlength, hrow, ?_⟩
    simp [hrow.eq_append]
  · rintro ⟨words, t, rest, rfl, hid, hlength, hrow, rfl⟩
    have hspace : StopsAt Text.isDecimalDigit (' ' :: t) := stopsAt_cons.2 (by decide)
    refine ⟨_, rfl, (id, ' ' :: t), run?_eq_some.2 ⟨rfl, hid, hspace⟩, t, rfl, rest,
      afterWords?_eq_some.2 ⟨words, hlength, hrow⟩, rfl, ?_⟩
    simp [hrow.eq_append]

lemma monitor?_eq_some {save count filename : Text} :
    monitor? payload = some (save, count, filename) ↔
      StartsWithMonitor payload save count filename := by
  simp only [monitor?, bind, Option.bind_eq_some_iff, after?_eq_some, StartsWithMonitor, number?,
    pure, Option.some.injEq, Prod.mk.injEq]
  constructor
  · rintro ⟨_, rfl, ⟨save', _⟩, hfirst, t, rfl, ⟨count', u⟩, hsecond, rfl, rfl, rfl⟩
    obtain ⟨rfl, hsave, -⟩ := run?_eq_some.1 hfirst
    obtain ⟨rfl, hcount, hstop⟩ := run?_eq_some.1 hsecond
    have hfile : (u.dropWhile Text.isSpace).takeWhile Token.isCharacter ++
        (u.dropWhile Text.isSpace).dropWhile Token.isCharacter = u.dropWhile Text.isSpace :=
      List.takeWhile_append_dropWhile
    refine ⟨u.takeWhile Text.isSpace, (u.dropWhile Text.isSpace).dropWhile Token.isCharacter, ?_,
      hsave, hcount, ?_, fun c hc => List.mem_takeWhile_imp hc, ?_,
      fun c hc => List.mem_takeWhile_imp hc, stopsAt_dropWhile _⟩
    · rw [hfile, List.takeWhile_append_dropWhile]
      rfl
    · rwa [hfile, List.takeWhile_append_dropWhile]
    · rw [hfile]
      exact stopsAt_dropWhile u
  · rintro ⟨gap, rest, rfl, hsave, hcount, hstop, hgap, hfirst, hfile, hrest⟩
    have hspace : StopsAt Text.isDecimalDigit (' ' :: (count ++ (gap ++ (filename ++ rest)))) :=
      stopsAt_cons.2 (by decide)
    refine ⟨_, rfl, _, run?_eq_some.2 ⟨rfl, hsave, hspace⟩, _, rfl, _,
      run?_eq_some.2 ⟨rfl, hcount, hstop⟩, rfl, rfl, ?_⟩
    rw [(hfirst.span_append hgap).2, (hrest.span_append hfile).1]

/-! ## Times -/

lemma ofWord?_eq_some {word : Text} {key : TimingKey} :
    TimingKey.ofWord? word = some key ↔ word = key.word := by
  constructor
  · intro h
    have hword := List.find?_some h
    exact (eq_of_beq hword).symm
  · rintro rfl
    exact TimingKey.ofWord?_word key

lemma ofLetter?_eq_some {c : Char} {unit : TimeUnit} :
    TimeUnit.ofLetter? c = some unit ↔ c = unit.letter := by
  constructor
  · intro h
    have hletter := List.find?_some h
    exact (eq_of_beq hletter).symm
  · rintro rfl
    exact TimeUnit.ofLetter?_letter unit

lemma IsMagnitude.ne_nil (h : IsMagnitude t) : t ≠ [] := by
  obtain ⟨whole, hwhole, rfl | ⟨fraction, -, rfl⟩⟩ := h
  · exact hwhole.ne_nil
  · simp

/-- A magnitude starts with a digit. -/
lemma IsMagnitude.exists_head (h : IsMagnitude t) :
    ∃ c ∈ t.head?, Text.isDecimalDigit c = true := by
  obtain ⟨whole, hwhole, hform⟩ := h
  obtain ⟨c, rest, rfl⟩ := List.exists_cons_of_ne_nil hwhole.ne_nil
  refine ⟨c, ?_, hwhole.forall_mem c (by simp)⟩
  rcases hform with rfl | ⟨fraction, -, rfl⟩ <;> rfl

/-- What is cut off as a magnitude is one. -/
lemma isMagnitude_cutMagnitude (h : (TimeText.cutMagnitude t).1 ≠ []) :
    IsMagnitude (TimeText.cutMagnitude t).1 := by
  have hdigits (u : Text) : ∀ c ∈ u.takeWhile Text.isDecimalDigit, Text.isDecimalDigit c = true :=
    fun _ hc => List.mem_takeWhile_imp hc
  unfold TimeText.cutMagnitude at h ⊢
  simp only at h ⊢
  split at h
  · exact absurd rfl h
  · next rest _ hwhole => exact ⟨_, ⟨hwhole, hdigits t⟩, Or.inr ⟨_, hdigits rest, rfl⟩⟩
  · next hwhole _ => exact ⟨_, ⟨hwhole, hdigits t⟩, Or.inl rfl⟩

/-- A magnitude is cut off before a character that does not go on with it. -/
lemma cutMagnitude_of_isMagnitude {magnitude : Text} (h : IsMagnitude magnitude)
    (hstop : StopsAt Text.isDecimalDigit rest) (hpoint : rest.head? ≠ some '.') :
    TimeText.cutMagnitude (magnitude ++ rest) = (magnitude, rest) := by
  obtain ⟨whole, ⟨hne, hwhole⟩, rfl | ⟨fraction, hfraction, rfl⟩⟩ := h
  · obtain ⟨htake, hdrop⟩ := hstop.span_append hwhole
    unfold TimeText.cutMagnitude
    simp only [htake, hdrop]
    split
    · exact absurd rfl hne
    · exact absurd rfl hpoint
    · rfl
  · have hdot : StopsAt Text.isDecimalDigit ('.' :: (fraction ++ rest)) :=
      stopsAt_cons.2 (by decide)
    obtain ⟨htake, hdrop⟩ := hdot.span_append hwhole
    obtain ⟨htake', hdrop'⟩ := hstop.span_append hfraction
    rw [List.append_assoc, List.cons_append]
    unfold TimeText.cutMagnitude
    simp only [htake, hdrop, htake', hdrop']

/-- The letter of a unit is neither a digit nor a point. -/
lemma stopsAt_letter (unit : TimeUnit) (rest : Text) :
    StopsAt Text.isDecimalDigit (unit.letter :: rest) ∧ (unit.letter :: rest).head? ≠ some '.' := by
  have hpoint : unit.letter ≠ '.' := by cases unit <;> decide
  exact ⟨stopsAt_cons.2 (by cases unit <;> decide), by simpa using hpoint⟩

lemma timing?_eq_some {key : TimingKey} {text : Text} : timing? payload = some (key, text) ↔
    ∃ magnitude unit, StartsWithTime payload key magnitude unit ∧
      text = magnitude ++ [unit.letter] := by
  constructor
  · intro h
    simp only [timing?, bind, Option.bind_eq_some_iff, after?_eq_some] at h
    obtain ⟨key', hkey, t, hdrop, hcut⟩ := h
    have hpayload : payload = key'.word ++ ' ' :: t := by
      rw [← ofWord?_eq_some.1 hkey]
      exact (List.take_append_drop 2 payload).symm.trans (congrArg _ hdrop)
    have happend := TimeText.cutMagnitude_append t
    have hmagnitude := isMagnitude_cutMagnitude (t := t)
    split at hcut
    · cases hcut
    · next magnitude letter rest hne hparts =>
      rw [hparts] at happend hmagnitude
      split at hcut
      · next hletter =>
        obtain ⟨unit, hunit⟩ := Option.isSome_iff_exists.1 hletter
        obtain ⟨rfl, rfl⟩ := Prod.mk.inj (Option.some.inj hcut)
        obtain rfl := ofLetter?_eq_some.1 hunit
        exact ⟨magnitude, unit,
          ⟨hmagnitude fun hnil => hne hnil, rest, by rw [hpayload, ← happend]⟩, rfl⟩
      · cases hcut
    · cases hcut
  · rintro ⟨magnitude, unit, ⟨hmagnitude, rest, rfl⟩, rfl⟩
    have htake (t : Text) : (key.word ++ ' ' :: t).take 2 = key.word := by cases key <;> rfl
    have hdrop (t : Text) : (key.word ++ ' ' :: t).drop 2 = " ".toList ++ t := by cases key <;> rfl
    obtain ⟨hstop, hpoint⟩ := stopsAt_letter unit rest
    have hcut := cutMagnitude_of_isMagnitude hmagnitude hstop hpoint
    -- A magnitude is not empty, which takes the branch with a letter.
    have hne := hmagnitude.ne_nil
    unfold timing?
    rw [htake, hdrop, TimingKey.ofWord?_word, after?_append]
    simp [hcut]

end Payload

end TimingBoard
