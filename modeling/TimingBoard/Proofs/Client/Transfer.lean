import TimingBoard.Proofs.Client.Restoring
import TimingBoard.Proofs.Client.Written
import TimingBoard.Proofs.Session.Heard

/-!
# Transferring a configuration

A configuration is transferred line by line, and a line is only sent once the one before it was
accepted.  So the lines that are sent are the first ones of the plan, one more than were accepted as
long as there are more, and the first frame that does not accept its line ends the transfer with its
error.  Nothing is sent after it, and no frame is taken for a line that is not sent.

A configuration that could not be transferred to its end is refused before its first line.  The
check and the requests of the single lines look at the same names, so that no later line is refused.
-/

namespace TimingBoard

open Session

variable {L : Type}

/-! ## The lines of a transfer -/

/-- The line that changes a setting. -/
def Setting.line : Setting → Text
  | timing key value => "SET ".toList ++ (key.word ++ ' ' :: value.text)
  | filePrefix value => "SET PREFIX ".toList ++ value
  | autosave count => "SET AUTOSAVE ".toList ++ Natural.digits count.toNat
  | format number => "SET FORMAT ".toList ++ Natural.digits number.toNat
  | monitor (some m) => "SET MONITOR ".toList ++
      (Natural.digits m.save.toNat ++ ' ' :: (Natural.digits m.count.toNat ++ ' ' :: m.filename))
  | monitor none => "SET NOMONITOR".toList

namespace Configuration

/-- The line that sets a time, unless the time says that it is to be left alone. -/
def timingLines (key : TimingKey) (value : TimeText) : List Text :=
  if value.text = "0u".toList then [] else [(Setting.timing key value).line]

/-- The line that switches the monitor on if its three parts are given, and off otherwise. -/
def monitorLine : Option Monitor → Text
  | some m =>
    if m.save ≠ 0 ∧ m.count ≠ 0 ∧ m.filename ≠ [] then (Setting.monitor (some m)).line
    else (Setting.monitor none).line
  | none => (Setting.monitor none).line

/-- The lines that write a configuration, in order. -/
def lines (c : Configuration) : List Text :=
  timingLines .totalTime c.totalTime ++ timingLines .windowTime c.windowTime ++
    timingLines .deadtime c.deadtime ++
    (if c.autosave = 0 then [] else [(Setting.filePrefix c.filePrefix).line]) ++
    [(Setting.autosave c.autosave).line, (Setting.format c.format).line, monitorLine c.monitor]

/-- A configuration that could not be written: autosave is on without a prefix that is a token, or
the monitor is on and its file name is no token. -/
def IsInvalid (c : Configuration) : Prop :=
  (c.autosave ≠ 0 ∧ (c.filePrefix = [] ∨ Token.isToken c.filePrefix = false)) ∨
    ∃ m, c.monitor = some m ∧ m.save ≠ 0 ∧ m.count ≠ 0 ∧ m.filename ≠ [] ∧
      Token.isToken m.filename = false

variable {c : Configuration}

lemma isComplete_iff {m : Monitor} :
    m.isComplete = true ↔ m.save ≠ 0 ∧ m.count ≠ 0 ∧ m.filename ≠ [] := by
  simp [Monitor.isComplete, and_assoc]

lemma mem_activeMonitor?_iff {m : Monitor} : m ∈ c.activeMonitor? ↔
    c.monitor = some m ∧ m.save ≠ 0 ∧ m.count ≠ 0 ∧ m.filename ≠ [] := by
  rw [← isComplete_iff]
  exact Option.filter_eq_some_iff

/-- The check passes the configurations that could be written. -/
lemma check_eq_ok_iff : c.check = .ok () ↔ ¬ c.IsInvalid := by
  constructor
  · rintro hcheck (⟨hon, hfile⟩ | ⟨m, hmonitor, hsave, hcount, hname, hfile⟩)
    · have htoken := isToken_filePrefix_of_check hcheck hon
      rcases hfile with hnil | hfile
      · exact (Token.isToken_iff.1 htoken).1 hnil
      · simp [htoken] at hfile
    · have htoken := isToken_of_check hcheck m
        (mem_activeMonitor?_iff.2 ⟨hmonitor, hsave, hcount, hname⟩)
      simp [htoken] at hfile
  · intro hvalid
    refine check_eq_ok (fun hon => ?_) fun m hm => ?_
    · by_contra hfile
      exact hvalid (Or.inl ⟨hon, Or.inr (by simpa using hfile)⟩)
    · by_contra hfile
      obtain ⟨hmonitor, hsave, hcount, hname⟩ := mem_activeMonitor?_iff.1 hm
      exact hvalid (Or.inr ⟨m, hmonitor, hsave, hcount, hname, by simpa using hfile⟩)

/-- The lines of a configuration are those of its plan. -/
lemma map_line_plan (c : Configuration) : c.plan.map Setting.line = c.lines := by
  have htiming (key : TimingKey) (value : TimeText) :
      (timingChange key value).map Setting.line = timingLines key value := by
    unfold timingChange timingLines
    by_cases hsame : value.text = "0u".toList
    · rw [if_pos hsame, if_pos (by simpa [TimeText.isUnchanged] using hsame), List.map_nil]
    · rw [if_neg hsame, if_neg (by simpa [TimeText.isUnchanged] using hsame)]
      rfl
  have hmonitor : (Setting.monitor c.activeMonitor?).line = monitorLine c.monitor := by
    unfold activeMonitor? monitorLine
    cases c.monitor with
    | none => rfl
    | some m =>
      by_cases hon : m.isComplete = true
      · simp only [Option.filter_some, hon, if_pos (isComplete_iff.1 hon), if_true]
      · simp only [Option.filter_some, hon, if_neg (mt isComplete_iff.2 hon)]
        rfl
  simp only [plan, lines, List.map_append, htiming, List.map_cons, List.map_nil, hmonitor]
  split <;> rfl

end Configuration

/-! ## Requests and their lines -/

namespace Command

/-- The line of a command that was made of a word and a value. -/
lemma line_of_make {c : Command} {verb : Verb} {word value : Text}
    (h : make verb (word ++ ' ' :: value) = .ok c) (hword : ∀ a ∈ word, Text.isSpace a = false)
    (hne : word ≠ []) (hvalue : value ≠ []) (hlast : ∀ a ∈ value.getLast?, Text.isSpace a = false) :
    c.line = verb.word ++ ' ' :: (word ++ ' ' :: value) := by
  obtain ⟨hverb, hargument⟩ := make_eq_ok h
  rw [Text.trim_append_cons hword hne hvalue hlast] at hargument
  rw [line, hargument, hverb, if_neg (by simp)]

end Command

namespace Setting

variable {setting : Setting} {command : Command}

/-- A request is the line that changes its setting, if its time is made. -/
lemma line_of_request (hmade : setting.IsMade) (h : setting.request = .ok command) :
    command.line = setting.line := by
  cases setting with
  | timing key value =>
    exact Command.line_of_make h (by cases key <;> decide) (by cases key <;> decide)
      hmade.text_ne_nil fun a ha => hmade.isSpace_of_mem a (List.mem_of_mem_getLast? ha)
  | filePrefix value =>
    obtain ⟨htoken, hmake⟩ := Token.require_bind_eq_ok.1 h
    have hprefix : Command.make .set ("PREFIX".toList ++ ' ' :: value) = .ok command := hmake
    exact Command.line_of_make hprefix (by decide) (by decide) (Token.isToken_iff.1 htoken).1
      fun a ha => Token.isSpace_of_mem htoken a (List.mem_of_mem_getLast? ha)
  | autosave count =>
    have hautosave : Command.make .set ("AUTOSAVE".toList ++ ' ' :: Natural.digits count.toNat) =
        .ok command := h
    exact Command.line_of_make hautosave (by decide) (by decide) (Natural.digits_ne_nil _)
      (Board.getLast?_digits _)
  | format number =>
    have hformat : Command.make .set ("FORMAT".toList ++ ' ' :: Natural.digits number.toNat) =
        .ok command := h
    exact Command.line_of_make hformat (by decide) (by decide) (Natural.digits_ne_nil _)
      (Board.getLast?_digits _)
  | monitor monitor =>
    cases monitor with
    | none =>
      obtain ⟨hverb, hargument⟩ := Command.make_eq_ok h
      have htrim : Text.trim "NOMONITOR".toList = "NOMONITOR".toList := by decide
      rw [Command.line, hargument, htrim, hverb]
      rfl
    | some m =>
      obtain ⟨htoken, hmake⟩ := Token.require_bind_eq_ok.1 h
      have hne := (Token.isToken_iff.1 htoken).1
      have hmonitor : Command.make .set ("MONITOR".toList ++ ' ' :: (Natural.digits m.save.toNat ++
          ' ' :: (Natural.digits m.count.toNat ++ ' ' :: m.filename))) = .ok command := by
        rw [← hmake]
        simp
      refine Command.line_of_make hmonitor (by decide) (by decide) (by simp) fun a ha => ?_
      rw [Text.getLast?_append_cons _ (by simp), Text.getLast?_append_cons _ hne] at ha
      exact Token.isSpace_of_mem htoken a (List.mem_of_mem_getLast? ha)

end Setting

/-! ## Single changes -/

/-- The error of a command that is answered by a frame that does not accept it. -/
def Frame.objection (command : Command) (f : Frame) : Error :=
  if f.tag = .rejected then .rejected command f.payload else .unexpectedFrame command f

namespace Reply

variable {command : Command} {f : Frame}

lemma decodeVerdict_of_accepted (h : f.tag = .accepted) : decodeVerdict command f = .ok .ack := by
  simp [decodeVerdict, h]

lemma decodeVerdict_of_not_accepted (h : f.tag ≠ .accepted) :
    decodeVerdict command f = .error (f.objection command) := by
  unfold decodeVerdict Frame.objection
  cases htag : f.tag <;> simp_all

end Reply

namespace Client

variable [Link L] {setting : Setting} {command : Command}

/-- A change is what its command gives, if that is an acceptance. -/
lemma set_run (h : setting.request = .ok command) (client : Client L) :
    let after := (Session.execute command false).run client.session
    (Client.set setting).run client =
      (after.1.bind fun reply =>
          if reply = .ack then .ok () else .error (.unexpectedReply command reply),
        { client with session := after.2 }) := by
  rw [Client.set, tell, ask_run h]
  rcases (Session.execute command false).run client.session with ⟨e | reply, s⟩
  · rfl
  · cases reply <;> rfl

variable {client : Client (Observed L)}

/-- A change that is asked for is one line, which is written whole, and the frame that is heard then
decides it; unless the line cannot be written, and the change fails.  The tracker is not touched. -/
lemma hears_set (hmade : setting.IsMade) (hrequest : setting.request = .ok command)
    (hconnected : client.session.connected = true) :
    let after := (Client.set setting).run client
    after.2.tracker = client.tracker ∧ ∃ events,
      after.2.session.link.account = client.session.link.account ++ events ∧
      (((∃ event ∈ events, event.failsToWrite = true) ∧ ∃ e, after.1 = .error e) ∨
        events.flatMap LinkEvent.bytes = Text.toUtf8 (setting.line ++ ['\n']) ∧
          ∃ heard, Session.Hears client.session after.2.session events heard ∧
            after.1 = heard.bind fun f =>
              if f.tag = .accepted then .ok () else .error (f.objection command)) := by
  intro after
  obtain ⟨events, haccount, hfate⟩ :=
    Session.hears_execute hconnected (Setting.verb_of_request hrequest) false
  have hafter : after = _ := set_run hrequest client
  rw [hafter]
  refine ⟨rfl, events, haccount, ?_⟩
  rcases hfate with ⟨hunwritten, e, herror⟩ | ⟨hwritten, heard, hhears, hresult⟩
  · exact Or.inl ⟨hunwritten, e, by rw [herror]; rfl⟩
  · refine Or.inr ⟨?_, heard, hhears, ?_⟩
    · rw [hwritten, Command.encode, Setting.line_of_request hmade hrequest]
    · rw [hresult]
      rcases heard with e | f
      · rfl
      · by_cases haccepted : f.tag = .accepted
        · simp [Except.bind, Reply.decodeVerdict_of_accepted haccepted, haccepted]
        · simp [Except.bind, Reply.decodeVerdict_of_not_accepted haccepted, haccepted]

end Client

/-! ## The transfer -/

namespace Configuration

open ClientUse (twoLinePrefix)

/-- The number of acceptances before the first frame that is none. -/
def acceptances (frames : List Frame) : Nat :=
  (frames.takeWhile fun f => f.tag = .accepted).length

@[simp] lemma acceptances_nil : acceptances [] = 0 := rfl

lemma acceptances_cons_of_accepted {f : Frame} (h : f.tag = .accepted) (frames : List Frame) :
    acceptances (f :: frames) = acceptances frames + 1 := by
  simp [acceptances, h]

lemma acceptances_cons_of_not_accepted {f : Frame} (h : f.tag ≠ .accepted) (frames : List Frame) :
    acceptances (f :: frames) = 0 := by
  simp [acceptances, h]

/-- What comes of the transfer of lines, when these frames reach the client in these events, and
these frames are left over. -/
structure Transferred (lines : List Text) (frames left : List Frame) (events : List LinkEvent)
    (result : Except Error Unit) : Prop where
  /-- The first lines are written, and one more of them than were accepted. -/
  written : events.flatMap LinkEvent.bytes =
    (lines.take (acceptances frames + 1)).flatMap fun line => Text.toUtf8 (line ++ ['\n'])
  /-- The frames that are taken are those that answer these lines. -/
  left_eq : left = frames.drop (min lines.length (acceptances frames + 1))
  succeeds_iff : result = .ok () ↔ lines.length ≤ acceptances frames
  /-- The first line whose frame does not accept it ends the transfer with its error. -/
  answered : ∀ line f, lines[acceptances frames]? = some line →
    frames[acceptances frames]? = some f →
      ∃ command : Command, command.line = line ∧ result = .error (f.objection command)
  /-- So does the first line that no frame answers, with the error of the last event. -/
  unanswered : acceptances frames < lines.length → frames[acceptances frames]? = none →
    ∃ event e, events.getLast? = some event ∧ event.waitError? = some e ∧ result = .error e

namespace Transferred

variable {line : Text} {lines : List Text} {frames left : List Frame} {events rest : List LinkEvent}
  {result : Except Error Unit}

/-- No line is transferred by doing nothing. -/
lemma nil (frames : List Frame) : Transferred [] frames frames [] (.ok ()) where
  written := by simp
  left_eq := by simp
  succeeds_iff := by simp
  answered := by simp
  unanswered := by simp

/-- A line that is accepted comes before the others. -/
lemma cons {f : Frame} (hf : f.tag = .accepted)
    (hwritten : events.flatMap LinkEvent.bytes = Text.toUtf8 (line ++ ['\n']))
    (h : Transferred lines frames left rest result) :
    Transferred (line :: lines) (f :: frames) left (events ++ rest) result := by
  have hcount := acceptances_cons_of_accepted hf frames
  constructor
  · rw [List.flatMap_append, hwritten, h.written, hcount]
    rfl
  · rw [h.left_eq, hcount, List.length_cons, Nat.add_min_add_right, List.drop_succ_cons]
  · rw [h.succeeds_iff, hcount, List.length_cons, Nat.add_le_add_iff_right]
  · rw [hcount]
    exact h.answered
  · rw [hcount]
    intro hmore hnone
    obtain ⟨event, e, hlast, herror⟩ := h.unanswered (Nat.lt_of_succ_lt_succ hmore) hnone
    exact ⟨event, e, by rw [List.getLast?_append, hlast]; rfl, herror⟩

/-- A line that is not accepted is the last one. -/
lemma stopped {f : Frame} {command : Command} (hf : f.tag ≠ .accepted) (hline : command.line = line)
    (hwritten : events.flatMap LinkEvent.bytes = Text.toUtf8 (line ++ ['\n'])) (lines : List Text)
    (frames : List Frame) :
    Transferred (line :: lines) (f :: frames) frames events (.error (f.objection command)) := by
  have hcount := acceptances_cons_of_not_accepted hf frames
  constructor
  · rw [hwritten, hcount]
    simp
  · rw [hcount, List.length_cons, Nat.add_min_add_right, Nat.min_zero]
    rfl
  · simp [hcount]
  · rw [hcount]
    intro line' f' hline' hf'
    obtain rfl : line = line' := Option.some.inj hline'
    obtain rfl : f = f' := Option.some.inj hf'
    exact ⟨command, hline, rfl⟩
  · simp [hcount]

/-- A line that is not answered is the last one too. -/
lemma silent {event : LinkEvent} {e : Error} (hlast : events.getLast? = some event)
    (herror : event.waitError? = some e)
    (hwritten : events.flatMap LinkEvent.bytes = Text.toUtf8 (line ++ ['\n'])) (lines : List Text) :
    Transferred (line :: lines) [] [] events (.error e) where
  written := by simp [hwritten]
  left_eq := by simp
  succeeds_iff := by simp
  answered := by simp
  unanswered _ _ := ⟨event, e, hlast, herror, rfl⟩

/-- A transfer does not end with a refusal. -/
lemma ne_refused (h : Transferred lines frames left events result) (cause : Refusal) :
    result ≠ .error (.refused cause) := by
  rintro rfl
  have hmore : acceptances frames < lines.length := by
    by_contra hall
    simpa using h.succeeds_iff.2 (Nat.le_of_not_lt hall)
  cases hframe : frames[acceptances frames]? with
  | some f =>
    obtain ⟨command, -, herror⟩ := h.answered _ f (List.getElem?_eq_getElem hmore) hframe
    unfold Frame.objection at herror
    split at herror <;> simp at herror
  | none =>
    obtain ⟨event, e, -, herror, hresult⟩ := h.unanswered hmore hframe
    obtain rfl := Except.error.inj hresult
    exact event.waitError?_ne_refused cause herror

end Transferred

variable [Link L] {client : Client (Observed L)} {c : Configuration}

/-- Changes that can be asked for are transferred, line after line, unless one of them cannot be
written. -/
lemma transferred_makeChanges {changes : List Setting}
    (hchanges : ∀ change ∈ changes, change.IsMade ∧ ∃ command, change.request = .ok command)
    (hconnected : client.session.connected = true) :
    let after := (makeChanges changes).run client
    after.2.tracker = client.tracker ∧ ∃ events,
      after.2.session.link.account = client.session.link.account ++ events ∧
      ((∃ event ∈ events, event.failsToWrite = true) ∨
        Transferred (changes.map Setting.line)
          (framesOf (client.session.buffer.bytes ++ events.flatMap LinkEvent.heard))
          (framesOf after.2.session.buffer.bytes) events after.1) := by
  induction changes generalizing client with
  | nil =>
    refine ⟨rfl, [], (List.append_nil _).symm, Or.inr ?_⟩
    rw [List.flatMap_nil, List.append_nil]
    exact .nil _
  | cons change rest ih =>
    obtain ⟨⟨hmade, command, hrequest⟩, hrest⟩ := List.forall_mem_cons.1 hchanges
    have hline := Setting.line_of_request hmade hrequest
    have hstep := Client.hears_set hmade hrequest hconnected
    rcases hset : (Client.set change).run client with ⟨result, next⟩
    rw [hset] at hstep
    dsimp only at hstep
    obtain ⟨htracker, events, haccount, hfate⟩ := hstep
    have hfails {e : Error} (he : result = .error e) :
        (makeChanges (change :: rest)).run client = (.error e, next) :=
      Call.run_bind_of_error (hset.trans (by rw [he]))
    rcases hfate with ⟨hunwritten, e, he⟩ | ⟨hwritten, heard, hhears, hresult⟩
    · rw [hfails he]
      exact ⟨htracker, events, haccount, Or.inl hunwritten⟩
    cases hhears with
    | silence hnone hafter hlast herror =>
      rw [hfails hresult]
      refine ⟨htracker, events, haccount, Or.inr ?_⟩
      rw [hnone, hafter]
      exact .silent hlast herror hwritten _
    | @frame f hframes hnext =>
      by_cases hf : f.tag = .accepted
      · have hok : (Client.set change).run client = (.ok (), next) := by
          rw [hset, hresult]
          simp [Except.bind, hf]
        have hrun : (makeChanges (change :: rest)).run client = (makeChanges rest).run next :=
          Call.run_bind_of_ok hok
        obtain ⟨htracker', events', haccount', hfate'⟩ := ih hrest hnext
        rw [hrun]
        refine ⟨htracker'.trans htracker, events ++ events', ?_,
          hfate'.imp ?_ fun htransferred => ?_⟩
        · rw [haccount', haccount, List.append_assoc]
        · rintro ⟨event, hevent, hunwritten⟩
          exact ⟨event, List.mem_append_right _ hevent, hunwritten⟩
        · rw [List.flatMap_append, hframes]
          exact htransferred.cons hf hwritten
      · have hstopped : result = .error (f.objection command) := by
          rw [hresult]
          simp [Except.bind, hf]
        have hfirst := hframes []
        simp only [List.append_nil] at hfirst
        rw [hfails hstopped]
        refine ⟨htracker, events, haccount, Or.inr ?_⟩
        rw [hfirst]
        exact .stopped hf hline hwritten _ _

/-- A configuration that is invalid is refused as a whole. -/
lemma write_run_of_isInvalid (h : c.IsInvalid) (client : Client L) :
    ∃ cause, c.write.run client = (.error (.refused cause), client) := by
  cases hcheck : c.check with
  | ok _ => exact absurd h (check_eq_ok_iff.1 hcheck)
  | error cause => exact ⟨cause, by rw [write, hcheck]; rfl⟩

/-- Any other one is the changes of its plan. -/
lemma write_run_of_not_isInvalid (h : ¬ c.IsInvalid) (client : Client L) :
    c.write.run client = (makeChanges c.plan).run client := by
  rw [write, check_eq_ok_iff.2 h]
  rfl

/-- **A configuration is transferred line by line, or refused as a whole.** A client is connected
over any link, and writes a configuration whose times are made.  None of its writes fails, whatever
reaches it, and whatever it has heard before.  The configuration is refused if it has autosave on
and a prefix that is no token, or the monitor on with a file name that is no token, and for no other
reason.  Then nothing happens to the client and its link.  Otherwise its lines are transferred: one
more is sent than were accepted, as long as there are more; the write succeeds if all were accepted;
and it fails with the error of the first line that was not, after which nothing is sent.  The
tracker stays what it was. -/
theorem transferred_write (c : Configuration) (client : Client L) (hmade : c.IsMade)
    (hconnected : client.session.connected = true) :
    let after := c.write.run client.observed
    let events := after.2.session.link.account
    let frames := framesOf (client.session.buffer.bytes ++ events.flatMap LinkEvent.heard)
    (∀ event ∈ events, event.failsToWrite = false) →
      c.write.run client = (after.1, after.2.unobserved) ∧ after.2.tracker = client.tracker ∧
      ((∃ cause, after.1 = .error (.refused cause)) ↔ c.IsInvalid) ∧
      (c.IsInvalid → after.2 = client.observed) ∧
      (¬ c.IsInvalid →
        Transferred c.lines frames (framesOf after.2.session.buffer.bytes) events after.1) := by
  intro after events frames hwrites
  have hsame : c.write.run client = (after.1, after.2.unobserved) := by
    have hwatches := ((Dialogue.write c).watches_follow client.observed).1
    rwa [Dialogue.follow_write, Dialogue.follow_write] at hwatches
  refine ⟨hsame, ?_⟩
  by_cases hinvalid : c.IsInvalid
  · obtain ⟨cause, hrefused⟩ := write_run_of_isInvalid hinvalid client.observed
    have hafter : after = (.error (.refused cause), client.observed) := hrefused
    rw [hafter]
    exact ⟨rfl, iff_of_true ⟨cause, rfl⟩ hinvalid, fun _ => rfl,
      fun hvalid => absurd hinvalid hvalid⟩
  · have hafter : after = (makeChanges c.plan).run client.observed :=
      write_run_of_not_isInvalid hinvalid client.observed
    have hchanges : ∀ change ∈ c.plan, change.IsMade ∧ ∃ command, change.request = .ok command :=
      fun change hchange => ⟨hmade.of_mem_plan change hchange,
        hmade.exists_request (check_eq_ok_iff.2 hinvalid) change hchange⟩
    have hobserved : client.observed.session.connected = true := hconnected
    obtain ⟨htracker, events', haccount, hfate⟩ := transferred_makeChanges hchanges hobserved
    rw [← hafter] at htracker haccount hfate
    obtain rfl : events = events' := haccount
    have hwritten : ¬ ∃ event ∈ events, event.failsToWrite = true := by
      rintro ⟨event, hevent, hfails⟩
      simp [hwrites event hevent] at hfails
    have htransferred := hfate.resolve_left hwritten
    rw [map_line_plan] at htransferred
    refine ⟨htracker, iff_of_false ?_ hinvalid, fun h => absurd h hinvalid, fun _ => htransferred⟩
    rintro ⟨cause, hrefused⟩
    exact htransferred.ne_refused cause hrefused

/-- A client of a server that accepts one command, rejects the next one, and sends one acceptance
more. -/
def rejectedClient : Client Script :=
  .ofSession ⟨.ofChunks [Text.toUtf8 "ACK\r\nER".toList,
    Text.toUtf8 "R 3:BAD_PARAMETER\r\nACK\r\n".toList], .empty, Session.defaultWait, true, .empty⟩

/-- What becomes of the client and its link when the short windows are written. -/
def rejectedTransfer : Except Error Unit × Client (Observed Script) :=
  shortWindows.write.run rejectedClient.observed

/-- The window is set, the deadtime is rejected, and the prefix is not sent any more.  The
acceptance that came along with the rejection is still there.  A prefix with a second command in it
is refused at once. -/
theorem transferred_write_rejectedDeadtime :
    shortWindows.IsMade ∧ rejectedClient.session.connected = true ∧
      (∀ event ∈ rejectedTransfer.2.session.link.account, event.failsToWrite = false) ∧
      ¬ shortWindows.IsInvalid ∧
      rejectedTransfer.2.session.link.account.flatMap LinkEvent.bytes =
        Text.toUtf8 "SET ST 50u\nSET TD 0.5m\n".toList ∧
      framesOf rejectedTransfer.2.session.buffer.bytes = [⟨.accepted, []⟩] ∧
      (∃ command : Command, command.line = "SET TD 0.5m".toList ∧
        rejectedTransfer.1 = .error (.rejected command "3:BAD_PARAMETER".toList)) ∧
      twoLinePrefix.IsInvalid ∧
      (twoLinePrefix.write.run rejectedClient.observed).2 = rejectedClient.observed := by
  have hmade : shortWindows.IsMade := by
    intro key
    cases key
    · exact Or.inl ⟨"0u".toList, by decide +kernel⟩
    · exact Or.inl ⟨"50u".toList, by decide +kernel⟩
    · exact Or.inl ⟨"0.5m".toList, by decide +kernel⟩
  have hconnected : rejectedClient.session.connected = true := rfl
  have hwrites : ∀ event ∈ rejectedTransfer.2.session.link.account, event.failsToWrite = false := by
    decide +kernel
  have hvalid : ¬ shortWindows.IsInvalid := check_eq_ok_iff.1 (by decide +kernel)
  have htransferred :=
    (transferred_write shortWindows rejectedClient hmade hconnected hwrites).2.2.2.2 hvalid
  have hframes : framesOf (rejectedClient.session.buffer.bytes ++
      rejectedTransfer.2.session.link.account.flatMap LinkEvent.heard) =
      [⟨.accepted, []⟩, ⟨.rejected, "3:BAD_PARAMETER".toList⟩, ⟨.accepted, []⟩] := by decide +kernel
  rw [rejectedTransfer] at hframes
  rw [hframes] at htransferred
  have hinvalid : twoLinePrefix.IsInvalid := Or.inl ⟨by decide, Or.inr (by decide +kernel)⟩
  have hmade' : twoLinePrefix.IsMade := by
    intro key
    cases key <;> exact Or.inl ⟨"0u".toList, by decide +kernel⟩
  have hrefused :=
    (transferred_write twoLinePrefix rejectedClient hmade' hconnected (by decide +kernel)).2.2.2.1
      hinvalid
  exact ⟨hmade, hconnected, hwrites, hvalid, htransferred.written.trans (by decide +kernel),
    htransferred.left_eq.trans (by decide +kernel),
    htransferred.answered _ ⟨.rejected, "3:BAD_PARAMETER".toList⟩ (by decide +kernel) rfl,
    hinvalid, hrefused⟩

end Configuration

end TimingBoard
