import TimingBoard.Proofs.Board.Measuring
import TimingBoard.Proofs.Client.Acceptance
import TimingBoard.Proofs.Client.Transfer

/-!
# The table of measurements

The table takes two rounds.  The list says which measurements there are, and then the statistics of
each of them are asked for by its number, one after the other, until a question fails.

A line of the list that cannot be read leaves a placeholder with the number zero.  The second round
takes it for a measurement like any other: it asks for the statistics of the measurement with the
number zero, and puts them into the row of the placeholder.  So the rows belong to their lines
exactly if every such question was answered by zeros.
-/

namespace TimingBoard

open Reply

variable {L : Type} [Link L]

namespace Client

/-! ## Questions about statistics -/

/-- The line that asks for the statistics of a measurement. -/
def statisticsLine (m : Measurement) : Bytes :=
  Text.toUtf8 ("MSR STAT -".toList ++ Natural.digits m.id.toNat ++ ['\n'])

/-- The statistics of measurements are asked for one after the other, with the lines that were
answered and the error of the question that failed, if one did. -/
inductive AsksStatistics :
    Client L → List Measurement → List (List Statistics) → Option Error → Client L → Prop
  | done (client : Client L) : AsksStatistics client [] [] none client
  | answered {client next last : Client L} {m : Measurement} {rest : List Measurement}
      {lines : List Statistics} {answers : List (List Statistics)} {failure : Option Error} :
    (statistics m.id true).run client = (.ok lines, next) →
      AsksStatistics next rest answers failure last →
        AsksStatistics client (m :: rest) (lines :: answers) failure last
  | failed {client last : Client L} {m : Measurement} {rest : List Measurement} {e : Error} :
    (statistics m.id true).run client = (.error e, last) →
      AsksStatistics client (m :: rest) [] (some e) last

/-- The rows of measurements, each with the first line that was answered for it. -/
def rowsOf (list : List Measurement) (answers : List (List Statistics)) :
    List (Measurement × Statistics) :=
  List.zipWith (fun m lines => (m, lines.headD .zero)) list answers

section Rounds

variable {client last : Client L} {list : List Measurement} {answers : List (List Statistics)}
  {failure : Option Error}

/-- The questions come to an end, with a failure or without one. -/
lemma exists_asksStatistics (client : Client L) (list : List Measurement) :
    ∃ answers failure last, AsksStatistics client list answers failure last := by
  induction list generalizing client with
  | nil => exact ⟨[], none, client, .done client⟩
  | cons m rest ih =>
    rcases hrun : (statistics m.id true).run client with ⟨e | lines, next⟩
    · exact ⟨[], some e, next, .failed hrun⟩
    · obtain ⟨answers, failure, last, hasks⟩ := ih next
      exact ⟨lines :: answers, failure, last, .answered hrun hasks⟩

namespace AsksStatistics

/-- The second round fails with the question that fails, and gives all rows otherwise. -/
lemma withStatistics_run (h : AsksStatistics client list answers failure last) :
    (withStatistics list).run client = (failure.elim (.ok (rowsOf list answers)) .error, last) := by
  induction h with
  | done client => rfl
  | failed hrun => rw [withStatistics, Call.run_bind_of_error hrun]; rfl
  | @answered _ _ _ _ _ _ _ failure hrun _ ih =>
    rw [withStatistics, Call.run_bind_of_ok hrun]
    cases failure with
    | none => rw [Call.run_bind_of_ok ih]; rfl
    | some e => rw [Call.run_bind_of_error ih]; rfl

/-- Without a failure every question was answered. -/
lemma length_answers (h : AsksStatistics client list answers failure last)
    (hnone : failure = none) :
    answers.length = list.length := by
  induction h with
  | done client => rfl
  | failed hrun => cases hnone
  | answered _ _ ih => rw [List.length_cons, List.length_cons, ih hnone]

end AsksStatistics

end Rounds

/-! ## What is written -/

section Lines

variable {client last : Client (Observed L)} {list : List Measurement}
  {answers : List (List Statistics)} {failure : Option Error} {m : Measurement}

/-- The question about the statistics of a measurement is its line. -/
lemma encode_of_statisticsRequest {command : Command}
    (h : statisticsRequest m.id true = .ok command) : command.encode = statisticsLine m := by
  have hmake : Command.make .measure ("STAT".toList ++ ' ' :: '-' :: Natural.digits m.id.toNat) =
      .ok command := h
  have hlast : ∀ a ∈ ('-' :: Natural.digits m.id.toNat).getLast?, Text.isSpace a = false := by
    obtain ⟨d, rest, hdigits⟩ := List.exists_cons_of_ne_nil (Natural.digits_ne_nil m.id.toNat)
    have hspace := Natural.isSpace_of_getLast?_digits m.id.toNat
    rwa [hdigits, List.getLast?_cons_cons, ← hdigits]
  have hline := Command.line_of_make hmake (by decide) (by decide) (by simp) hlast
  rw [Command.encode, hline]
  rfl

/-- A request writes its line, or the connection is lost and the request fails. -/
lemma written_ask {α : Type} {request : Except Refusal Command} {command : Command} {silent : Bool}
    {kind : Reply → Option α} (h : request = .ok command) (client : Client (Observed L)) :
    let after := (ask request silent kind).run client
    after.2.session.written = client.session.written ++ command.encode ∨
      after.2.session.connected = false ∧ after.2.session.written = client.session.written ∧
        ∃ e, after.1 = .error e := by
  intro after
  have hafter : after = _ := ask_run h client
  rw [hafter]
  cases hconnected : ((Session.execute command silent).run client.session).2.connected with
  | true => exact Or.inl (Session.written_execute command silent hconnected)
  | false =>
    refine (Session.written_execute_or command silent client.session).imp_right ?_
    rintro ⟨hnothing, e, herror⟩
    exact ⟨rfl, hnothing, e, by rw [herror]; rfl⟩

/-- A question about statistics writes its line, or the connection is lost and the question
fails. -/
lemma written_statistics (m : Measurement) (client : Client (Observed L)) :
    let after := (statistics m.id true).run client
    after.2.session.written = client.session.written ++ statisticsLine m ∨
      after.2.session.connected = false ∧ after.2.session.written = client.session.written ∧
        ∃ e, after.1 = .error e := by
  obtain ⟨command, hrequest, -⟩ := exists_statisticsRequest m.id true
  rw [← encode_of_statisticsRequest hrequest]
  exact written_ask hrequest client

/-- The questions are their lines.  The last one can be missing if the connection is lost over
it. -/
lemma AsksStatistics.written (h : AsksStatistics client list answers failure last) :
    last.session.written = client.session.written ++
        (list.take (answers.length + failure.toList.length)).flatMap statisticsLine ∨
      failure ≠ none ∧ last.session.connected = false ∧ last.session.written =
        client.session.written ++ (list.take answers.length).flatMap statisticsLine := by
  induction h with
  | done client => simp
  | @failed client last m rest e hrun =>
    rcases hrun ▸ written_statistics m client with hwritten | ⟨hlost, hnothing, -⟩
    · exact Or.inl (by simp [hwritten])
    · exact Or.inr ⟨by simp, hlost, by simp [hnothing]⟩
  | @answered client next last m rest lines answers failure hrun _ ih =>
    have hwritten : next.session.written = client.session.written ++ statisticsLine m := by
      rcases hrun ▸ written_statistics m client with hwritten | ⟨-, -, e, herror⟩
      · exact hwritten
      · cases herror
    rw [List.length_cons, Nat.succ_add, List.take_succ_cons, List.take_succ_cons, List.flatMap_cons,
      List.flatMap_cons, ← List.append_assoc, ← List.append_assoc, ← hwritten]
    exact ih

/-- The lines of a table: the one that asks for the list, and one for each measurement that is asked
about. -/
def tableLines (asked : List Measurement) : Bytes :=
  Text.toUtf8 "MSR LST\n".toList ++ asked.flatMap statisticsLine

end Lines

/-! ## Rows and the lines of the list -/

/-- A row belongs to a line of the list: it has the measurement that the line shows and the first
line that was answered for it, or zeros throughout. -/
inductive RowBelongs (f : Frame) (lines : List Statistics) : Measurement × Statistics → Prop
  | shown {m : Measurement} : ShowsMeasurement f.payload m →
      RowBelongs f lines (m, lines.headD .zero)
  | unreadable : (∀ m, ¬ ShowsMeasurement f.payload m) → RowBelongs f lines (.placeholder, .zero)

/-- The rows belong one by one to the lines of the list, with what was answered for them. -/
def RowsBelong (frames : List Frame) (answers : List (List Statistics))
    (rows : List (Measurement × Statistics)) : Prop :=
  List.Forall₂ (fun asked row => RowBelongs asked.1 asked.2 row) (frames.zip answers) rows

/-- The row of a line belongs to it unless an unreadable line was given statistics. -/
lemma rowBelongs_readMeasurement {f : Frame} {lines : List Statistics} :
    RowBelongs f lines (readMeasurement f, lines.headD .zero) ↔
      ((∀ m, ¬ ShowsMeasurement f.payload m) → lines.headD .zero = .zero) := by
  constructor
  · intro hbelongs hnone
    generalize hrow : (readMeasurement f, lines.headD .zero) = row at hbelongs
    cases hbelongs with
    | shown hshows => exact absurd hshows (hnone _)
    | unreadable _ => exact congrArg Prod.snd hrow
  · intro hzero
    rcases readMeasurement_eq_iff.1 (rfl : readMeasurement f = _) with hshows |
      ⟨hnone, hplaceholder⟩
    · exact .shown hshows
    · rw [hplaceholder, hzero hnone]
      exact .unreadable hnone

/-- The rows belong to their lines exactly if no unreadable line was given statistics. -/
lemma rowsBelong_rowsOf {frames : List Frame} {answers : List (List Statistics)} :
    RowsBelong frames answers (rowsOf (frames.map readMeasurement) answers) ↔
      ∀ f lines, (f, lines) ∈ frames.zip answers → (∀ m, ¬ ShowsMeasurement f.payload m) →
        lines.headD .zero = .zero := by
  have hrows : rowsOf (frames.map readMeasurement) answers =
      (frames.zip answers).map fun asked => (readMeasurement asked.1, asked.2.headD .zero) := by
    rw [rowsOf, List.zipWith_map_left, List.zip, List.map_zipWith]
  rw [RowsBelong, hrows, List.forall₂_map_right_iff, List.forall₂_same]
  simp only [rowBelongs_readMeasurement, Prod.forall]

section Table

variable {client : Client (Observed L)} {command : Command} {first : Frame} {frames : List Frame}

/-- A list that is announced is answered line by line, and was asked for by its line. -/
lemma measurements_run
    (hhears : client.Hears (Command.make .measure "LST".toList) command (first :: frames))
    (hannounces : Announces command first .measurements frames.length) :
    ∃ listed, measurements.run client = (.ok (frames.map readMeasurement), listed) ∧
      listed.session.written = client.session.written ++ Text.toUtf8 "MSR LST\n".toList := by
  have hamounts : Amounts command first frames (.measurements (frames.map readMeasurement)) :=
    .list hannounces rfl (Listing.reads_iff.2 rfl)
  have hanswer : (measurements.run client).1 = .ok (frames.map readMeasurement) :=
    ask_eq_ok_iff.2 ⟨command, first, frames, _, hhears, hamounts, rfl⟩
  have hline : command.encode = Text.toUtf8 "MSR LST\n".toList := by
    obtain ⟨hverb, hargument⟩ := Command.make_eq_ok hhears.1
    have htrim : Text.trim "LST".toList = "LST".toList := by decide
    rw [Command.encode, Command.line, hargument, htrim, hverb]
    rfl
  refine ⟨_, Prod.ext hanswer rfl, ?_⟩
  rw [← hline]
  refine (written_ask hhears.1 client).resolve_right ?_
  rintro ⟨-, -, e, herror⟩
  cases hanswer.symm.trans herror

/-- **Which rows belong to their lines.**  Where a list of measurements is announced, with any lines
behind it, the table has the list read, line by line, and then asks for the statistics of its
measurements one after the other until a question fails.  It writes the line for the list and one
for each measurement up to the one whose question failed; the last line is missing only if the
connection was lost over it.  A question that fails fails the table.  Otherwise there is a row for
each line of the list, in order, and the rows belong to their lines exactly if zeros were answered
for each line that cannot be read. -/
theorem rowsBelong_iff
    (hhears : client.Hears (Command.make .measure "LST".toList) command (first :: frames))
    (hannounces : Announces command first .measurements frames.length) :
    ∃ listed list answers failure last, measurements.run client = (.ok list, listed) ∧
      List.Forall₂ (fun f m => StandsFor ShowsMeasurement .placeholder f.payload m) frames list ∧
      AsksStatistics listed list answers failure last ∧
      (last.session.written = client.session.written ++
          tableLines (list.take (answers.length + failure.toList.length)) ∨
        failure ≠ none ∧ last.session.connected = false ∧
          last.session.written = client.session.written ++ tableLines (list.take answers.length)) ∧
      (∀ e, failure = some e → table.run client = (.error e, last)) ∧
      (failure = none → ∃ rows, table.run client = (.ok rows, last) ∧ rows.length = frames.length ∧
        answers.length = frames.length ∧
        (RowsBelong frames answers rows ↔ ∀ f lines, (f, lines) ∈ frames.zip answers →
          (∀ m, ¬ ShowsMeasurement f.payload m) → lines.headD .zero = .zero)) := by
  obtain ⟨listed, hlist, hlisted⟩ := measurements_run hhears hannounces
  obtain ⟨answers, failure, last, hasks⟩ :=
    exists_asksStatistics listed (frames.map readMeasurement)
  have htable : table.run client =
      (failure.elim (.ok (rowsOf (frames.map readMeasurement) answers)) .error, last) := by
    rw [table, Call.run_bind_of_ok hlist, hasks.withStatistics_run]
  refine ⟨listed, _, answers, failure, last, hlist, ?_, hasks, ?_, ?_, ?_⟩
  · exact (forall₂_iff_map_eq fun _ _ => readMeasurement_eq_iff).2 rfl
  · simpa only [tableLines, hlisted, List.append_assoc] using hasks.written
  · rintro e rfl
    exact htable
  · rintro rfl
    have hlength : answers.length = frames.length :=
      (hasks.length_answers rfl).trans (List.length_map _)
    exact ⟨_, htable, by simp [rowsOf, hlength], hlength, rowsBelong_rowsOf⟩

/-- A client of a server that sends these replies. -/
def ofReplies (replies : List String) : Client (Observed Script) :=
  (ofSession ⟨.ofChunks (replies.map fun reply => Text.toUtf8 reply.toList), .empty,
    Session.defaultWait, true, .empty⟩).observed

/-- The statistics of a measurement with five starts. -/
def fiveStarts : Statistics :=
  ⟨[5, 20, 1, 1, 1, 1, 1, 1, 1, 1], rfl⟩

/-- Two measurements that can be read, one of them with the number zero, have rows of their own. -/
theorem rowsBelong_iff_twoMeasurements :
    let client := ofReplies ["MSR LST NUM 2\r\nMSR LST 0 5\r\nMSR LST 3 2\r\n",
      "MSR STAT 5 20 1 1 1 1 1 1 1 1\r\n", "MSR STAT NUM 0\r\n"]
    let frames : List Frame := [⟨.measurement, "LST 0 5".toList⟩, ⟨.measurement, "LST 3 2".toList⟩]
    ∃ answers rows last, table.run client = (.ok rows, last) ∧ rows.length = frames.length ∧
      RowsBelong frames answers rows ∧ rows = [(⟨0, 5⟩, fiveStarts), (⟨3, 2⟩, .zero)] ∧
      last.session.written =
        Text.toUtf8 "MSR LST\nMSR STAT -0\nMSR STAT -3\n".toList := by
  intro client frames
  let list : Command := ⟨.measure, "LST".toList, by decide, by decide⟩
  let first : Frame := ⟨.measurement, "LST NUM 2".toList⟩
  let reply := Text.toUtf8 "MSR LST NUM 2\r\nMSR LST 0 5\r\nMSR LST 3 2\r\n".toList
  have hhears : client.Hears (Command.make .measure "LST".toList) list (first :: frames) := by
    have hframes : first :: frames <+: framesOf (reply ++ []) := by decide +kernel
    exact ⟨rfl, _, rfl, rfl, reply ++ [], _, .bytes rfl (by decide) (.nil _), hframes⟩
  have hannounces : Announces list first .measurements frames.length :=
    ⟨rfl, rfl, "2".toList, Payload.startsWithRun_append "LST NUM " ⟨by decide, by decide⟩,
      by decide⟩
  obtain ⟨listed, measurements, answers, failure, last, -, -, -, -, hfails, hrows⟩ :=
    rowsBelong_iff hhears hannounces
  have htable : (table.run client).1 = .ok [(⟨0, 5⟩, fiveStarts), (⟨3, 2⟩, .zero)] := by
    decide +kernel
  have hnone : failure = none := by
    cases failure with
    | none => rfl
    | some e =>
      rw [hfails e rfl] at htable
      cases htable
  obtain ⟨rows, hrun, hlength, -, hbelong⟩ := hrows hnone
  refine ⟨answers, rows, last, hrun, hlength, hbelong.2 fun f lines hmem hnot => ?_, ?_, ?_⟩
  · have hread : ∀ f ∈ frames, readMeasurement f ≠ .placeholder := by decide +kernel
    rcases readMeasurement_eq_iff.1 (rfl : readMeasurement f = _) with hshows | ⟨-, hplaceholder⟩
    · exact absurd hshows (hnot _)
    · exact absurd hplaceholder (hread f (List.of_mem_zip hmem).1)
  · rw [hrun] at htable
    exact Except.ok.inj htable
  · have hwritten : (table.run client).2.session.written =
        Text.toUtf8 "MSR LST\nMSR STAT -0\nMSR STAT -3\n".toList := by decide +kernel
    rwa [hrun] at hwritten

/-- The one line of a list cannot be read, and its row has the statistics of the measurement with
the number zero. -/
theorem not_rowsBelong_unreadableLine :
    let client := ofReplies ["MSR LST NUM 1\r\nMSR LST x\r\n",
      "MSR STAT 5 20 1 1 1 1 1 1 1 1\r\n"]
    let frames : List Frame := [⟨.measurement, "LST x".toList⟩]
    (measurements.run client).1 = .ok (frames.map readMeasurement) ∧
      (∀ m, ¬ ShowsMeasurement "LST x".toList m) ∧
      (table.run client).1 = .ok [(.placeholder, fiveStarts)] ∧
      (table.run client).2.session.written = Text.toUtf8 "MSR LST\nMSR STAT -0\n".toList ∧
      ∀ answers, ¬ RowsBelong frames answers [(.placeholder, fiveStarts)] := by
  intro client frames
  have hnone : ∀ m, ¬ ShowsMeasurement "LST x".toList m := by
    intro m hshows
    have hread : readMeasurement? ⟨.measurement, "LST x".toList⟩ = some m :=
      readMeasurement?_eq_some.2 hshows
    have hunread : readMeasurement? ⟨.measurement, "LST x".toList⟩ = none := by decide +kernel
    cases hunread.symm.trans hread
  refine ⟨by decide +kernel, hnone, by decide +kernel, by decide +kernel, fun answers hbelong => ?_⟩
  cases answers with
  | nil => cases hbelong
  | cons lines rest =>
    cases hbelong with
    | cons hrow _ =>
      generalize hlast : (Measurement.placeholder, fiveStarts) = row at hrow
      cases hrow with
      | shown hshows => exact hnone _ hshows
      | unreadable _ => exact absurd (congrArg Prod.snd hlast) (by decide)

end Table

end Client

end TimingBoard
