import TimingBoard.Proofs.Client.Reachable

/-!
# Writing a configuration and reading it back

A configuration is written change by change, and each change that is accepted puts its value in the
place of one setting.  What the board does besides is to end a run that is over.  So after a write
that succeeds the board has the settings it had before, apart from those that were written.  Reading
asks for them one by one, and the answers do not change the board.

The values pass through four grammars on their way: the one a change is written in, the one the
board reads, the one it answers in and the one the client reads.  Whether a value survives them all
is a question about single settings, and what happens to the board in between is one about whole
calls.  Here the two are put together.
-/

namespace TimingBoard

/-! ## What is written -/

/-- A time in the place of another one, unless it leaves it alone. -/
def TimeText.replacing (value stored : TimeText) : TimeText :=
  if value.isUnchanged then stored else value

namespace Configuration

/-- A configuration whose times are made. -/
def IsMade (c : Configuration) : Prop :=
  ∀ key, (c.timing key).IsMade

/-- The settings of a board once a configuration is written: a time is left alone if it says so, and
the prefix while autosave is off. -/
def writtenTo (c : Configuration) (b : Board) : Board :=
  { b with
    totalTime := c.totalTime.replacing b.totalTime
    windowTime := c.windowTime.replacing b.windowTime
    deadtime := c.deadtime.replacing b.deadtime
    filePrefix := if c.autosave = 0 then b.filePrefix else c.filePrefix
    autosave := c.autosave
    monitor := c.activeMonitor?
    format := c.format }

/-- The configuration that is read from the settings of a board. -/
def ofBoard (b : Board) : Configuration :=
  ⟨b.totalTime, b.windowTime, b.deadtime, b.shownPrefix, b.autosave,
    b.monitor.filter Monitor.isComplete, defaultFormat⟩

variable {c : Configuration} {b : Board}

lemma foldl_timingChange (key : TimingKey) (value : TimeText) (b : Board) :
    (timingChange key value).foldl Setting.apply b =
      b.setTiming key (value.replacing (b.timing key)) := by
  unfold timingChange TimeText.replacing
  split
  · cases key <;> rfl
  · rfl

/-- The changes of a configuration, one after the other, make the settings that it is to have. -/
lemma foldl_plan (c : Configuration) (b : Board) :
    c.plan.foldl Setting.apply b = c.writtenTo b := by
  unfold plan
  simp only [List.foldl_append, foldl_timingChange]
  split
  · next hoff => simp [writtenTo, hoff, Setting.apply, Board.setTiming, Board.timing]
  · next hon => simp [writtenTo, hon, Setting.apply, Board.setTiming, Board.timing]

/-- The changes of a configuration whose times are made. -/
lemma IsMade.of_mem_plan (h : c.IsMade) : ∀ setting ∈ c.plan, setting.IsMade := by
  intro setting hsetting
  rcases cases_of_mem_plan hsetting with ⟨key, -, rfl⟩ | ⟨-, rfl⟩ | rfl | rfl | rfl
  · exact h key
  all_goals trivial

/-- The monitor of a configuration that passes its check has a token for its file name. -/
lemma isToken_of_check (h : c.check = .ok ()) :
    ∀ m ∈ c.activeMonitor?, Token.isToken m.filename = true := by
  intro m hm
  unfold check at h
  rw [Option.mem_def.1 hm] at h
  simp only at h
  split at h
  · split at h
    · cases h
    · exact Token.require_eq_ok.1 (Token.require_bind_eq_ok.1 h).2
  · exact Token.require_eq_ok.1 h

end Configuration

/-! ## Single commands -/

namespace Setting

variable {total : TimeText → Prop} {setting : Setting} {b : Board}

/-- The total time that a change sets, if it sets one, is of a kind. -/
def SetsTotal (total : TimeText → Prop) : Setting → Prop
  | .timing .totalTime value => total value
  | _ => True

lemma SetsTotal.apply (h : setting.SetsTotal total) (hb : total b.totalTime) :
    total (setting.apply b).totalTime := by
  cases setting with
  | timing key value =>
    cases key with
    | totalTime => exact h
    | windowTime => exact hb
    | deadtime => exact hb
  | filePrefix value => exact hb
  | autosave count => exact hb
  | format number => exact hb
  | monitor value => exact hb

lemma mute_apply (setting : Setting) (b : Board) : (setting.apply b).mute = b.mute := by
  cases setting with
  | timing key value => cases key <;> rfl
  | filePrefix value => rfl
  | autosave count => rfl
  | format number => rfl
  | monitor value => rfl

end Setting

namespace Client

variable {client : Client Connection} {total : TimeText → Prop} {before wanted : Board}
  {command : Command}

/-- A client between two commands, with nothing on its way. The board has the settings that are
wanted, and nothing else has happened to it than that its run may have ended by itself. -/
structure HasSettings (total : TimeText → Prop) (before wanted : Board)
    (client : Client Connection) : Prop where
  quiet : client.session.IsQuiet
  settings : Board.SameSettings wanted client.session.link.board
  runsOn : Board.RunsOn total before client.session.link.board
  total : total wanted.totalTime
  mute : wanted.mute = false

/-- The board of a client as it answers its next command. -/
def prepared (command : Command) (client : Client Connection) : Board :=
  client.session.link.board.prepared client.session.link.now command.line

/-- A board that is about to answer has the wanted settings too. -/
lemma HasSettings.prepared (h : client.HasSettings total before wanted) (command : Command) :
    Board.SameSettings wanted (client.prepared command) ∧
      Board.RunsOn total before (client.prepared command) := by
  have htotal : total client.session.link.board.totalTime := by
    have hsame : client.session.link.board.totalTime = wanted.totalTime :=
      h.settings.timing .totalTime
    rw [hsame]
    exact h.total
  exact ⟨h.settings.trans (Board.sameSettings_prepared _ _ _), h.runsOn.prepared htotal _ _⟩

/-- A command that has a complete answer is replied to from it. -/
lemma HasSettings.executes (h : client.HasSettings total before wanted) {frames : List Frame}
    {board : Board} (hanswer : Board.IsAnswer command frames)
    (hhandle : client.session.link.board.handle client.session.link.now command.line =
      (frames, board)) :
    ∃ client' : Client Connection, (overSession.execute command false).run client =
        (Reply.ofAnswer command (frames.map Frame.received), client') ∧
      client'.session.IsQuiet ∧ client'.session.link.board = board := by
  have hmute : client.session.link.board.mute = false := h.settings.mute.trans h.mute
  obtain ⟨s', hexecute, hquiet, hboard⟩ :=
    h.quiet.executes hmute (by rw [hhandle]; exact hanswer) false
  rw [hhandle] at hexecute hboard
  refine ⟨{ client with session := s' }, ?_, hquiet, hboard⟩
  rw [overSession, run_onSession, hexecute]

/-- A change succeeds only if its command is accepted. -/
lemma run_set {setting : Setting} {client' : Client Connection} {reply : Except Error Reply}
    (hrequest : setting.request = .ok command)
    (hexecute : (overSession.execute command false).run client = (reply, client'))
    (hset : ((Client.set setting).run client).1 = .ok ()) :
    reply = .ok .ack ∧ ((Client.set setting).run client).2 = client' := by
  have htell := Dialogue.follow_tell_run (overSession (L := Connection)) hrequest client
  simp only [Dialogue.follow_tell, hexecute] at htell
  rcases htell with ⟨hack, hrun⟩ | ⟨e, hrun⟩
  · have hresult : (Client.set setting).run client = (.ok (), client') := hrun
    rw [hresult]
    exact ⟨hack, rfl⟩
  · have hresult : (Client.set setting).run client = (.error e, client') := hrun
    rw [hresult] at hset
    simp at hset

/-- A change that succeeds is made. -/
lemma HasSettings.set {setting : Setting} (h : client.HasSettings total before wanted)
    (hmade : setting.IsMade) (htotal : setting.SetsTotal total)
    (hset : ((Client.set setting).run client).1 = .ok ()) :
    ((Client.set setting).run client).2.HasSettings total before (setting.apply wanted) := by
  cases hrequest : setting.request with
  | error cause =>
    have hrefused : (Client.set setting).run client = (.error (.refused cause), client) := by
      rw [Client.set, Client.tell, Client.ask, hrequest]
      rfl
    rw [hrefused] at hset
    simp at hset
  | ok command =>
    have hverb := Setting.verb_of_request hrequest
    have hline : client.session.link.board.handle client.session.link.now command.line =
        (client.prepared command).answerSet command.argument := by
      rw [Board.handle_line, hverb]
      rfl
    rcases Board.answerSet_request hmade hrequest (client.prepared command) with hmake | hrefuse
    · obtain ⟨client', hexecute, hquiet, hboard⟩ :=
        h.executes (Board.isAnswer_accepted command) (hline.trans hmake)
      obtain ⟨hsame, hruns⟩ := h.prepared command
      rw [(run_set hrequest hexecute hset).2]
      refine ⟨hquiet, ?_, ?_, htotal.apply h.total, (setting.mute_apply wanted).trans h.mute⟩
      · rw [hboard]
        exact hsame.apply setting
      · rw [hboard]
        exact hruns.apply setting
    · obtain ⟨client', hexecute, -⟩ :=
        h.executes (Board.isAnswer_rejected command (by decide)) (hline.trans hrefuse)
      have htag := Reply.tag_of_ofFrames_eq_ack (by simp [hverb])
        (run_set hrequest hexecute hset).1
      simp at htag

/-- Changes that succeed are made one after the other. -/
lemma HasSettings.makeChanges {changes : List Setting} (h : client.HasSettings total before wanted)
    (hmade : ∀ setting ∈ changes, setting.IsMade ∧ setting.SetsTotal total)
    (hmake : ((Configuration.makeChanges changes).run client).1 = .ok ()) :
    ((Configuration.makeChanges changes).run client).2.HasSettings total before
      (changes.foldl Setting.apply wanted) := by
  induction changes generalizing client wanted with
  | nil => exact h
  | cons change rest ih =>
    have hrun : (Configuration.makeChanges (change :: rest)).run client =
        (Client.set change >>= fun _ => Configuration.makeChanges rest).run client := rfl
    rcases hset : (Client.set change).run client with ⟨e | _, client'⟩
    · rw [hrun, Call.run_bind_of_error hset] at hmake
      simp at hmake
    · rw [hrun, Call.run_bind_of_ok hset] at hmake ⊢
      obtain ⟨hchange, hrest⟩ := List.forall_mem_cons.1 hmade
      have hnext := h.set hchange.1 hchange.2 (by rw [hset])
      rw [hset] at hnext
      exact ih hnext hrest hmake

/-! ## Reading settings -/

/-- What a call gets from every client whose board has the wanted settings. It leaves them so. -/
def Gets {α : Type} (total : TimeText → Prop) (before wanted : Board)
    (call : Call (Client Connection) α) (a : α) : Prop :=
  ∀ client : Client Connection, client.HasSettings total before wanted →
    ∃ client' : Client Connection, call.run client = (.ok a, client') ∧
      client'.HasSettings total before wanted

variable {α β : Type}

lemma gets_pure (a : α) : Gets total before wanted (pure a) a :=
  fun client h => ⟨client, rfl, h⟩

lemma Gets.bind {call : Call (Client Connection) α} {next : α → Call (Client Connection) β} {a : α}
    {b : β} (hcall : Gets total before wanted call a)
      (hnext : Gets total before wanted (next a) b) :
    Gets total before wanted (call >>= next) b := by
  intro client h
  obtain ⟨client₁, hrun₁, h₁⟩ := hcall client h
  obtain ⟨client₂, hrun₂, h₂⟩ := hnext client₁ h₁
  exact ⟨client₂, (Call.run_bind_of_ok hrun₁).trans hrun₂, h₂⟩

/-- A setting that boards with these settings give is what the client gets. -/
lemma gets_ask {word : Text} {kind : Reply → Option α} {reply : Reply} {a : α}
    (hword : Text.trim word = word ∧ word.any Text.isLineBreak = false)
    (hgives : ∀ c b, c.verb = .get → c.argument = word → Board.SameSettings wanted b →
      Board.Gives c b reply) (hkind : kind reply = some a) :
    Gets total before wanted (ask (Command.make .get word) false kind) a := by
  intro client h
  obtain ⟨command, hmake, hget, hargument⟩ := Command.exists_make .get hword.1 hword.2
  obtain ⟨hsame, hruns⟩ := h.prepared command
  obtain ⟨hverb, hanswer, f, hframe, hreply⟩ := hgives command _ hget hargument hsame
  have hhandle : client.session.link.board.handle client.session.link.now command.line =
      ([f], client.prepared command) := by
    rw [Board.handle_line, hverb, ← hframe]
    rfl
  rw [hframe] at hanswer
  obtain ⟨client', hexecute, hquiet, hboard⟩ := h.executes hanswer hhandle
  refine ⟨client', ?_, hquiet, hboard ▸ hsame, hboard ▸ hruns, h.total, h.mute⟩
  have hrequested : (Call.ofRequest (Command.make .get word)).run client =
      (.ok command, client) := by
    rw [hmake]
    rfl
  have hreplied : (onSession (Session.execute command false)).run client =
      (.ok reply, client') := by
    rw [← hreply]
    exact hexecute
  rw [ask, Call.run_bind_of_ok hrequested, Call.run_bind_of_ok hreplied, hkind]
  rfl

/-- The times of a board are read. -/
lemma gets_timing (htyped : wanted.HasTypedSettings) (key : TimingKey) :
    Gets total before wanted (timing key) (wanted.timing key) := by
  have hgives : ∀ c b, c.verb = .get → c.argument = key.word → Board.SameSettings wanted b →
      Board.Gives c b (.timing key (wanted.timing key)) := by
    intro c b hverb hargument hsame
    rw [← hsame.timing key]
    exact (htyped.of_sameSettings hsame).gives_timing hverb hargument
  exact gets_ask (by cases key <;> decide) hgives (if_pos rfl)

/-- The prefix of a board is read as it is shown. -/
lemma gets_filePrefix (hfile : wanted.filePrefix = [] ∨ Token.isToken wanted.filePrefix = true) :
    Gets total before wanted filePrefix wanted.shownPrefix := by
  have hgives : ∀ c b, c.verb = .get → c.argument = "PREFIX".toList →
      Board.SameSettings wanted b → Board.Gives c b (.filePrefix wanted.shownPrefix) := by
    intro c b hverb hargument hsame
    rw [Board.shownPrefix, ← hsame.filePrefix]
    exact Board.gives_filePrefix (hsame.filePrefix ▸ hfile) hverb hargument
  exact gets_ask (by decide) hgives rfl

/-- The autosave interval is read. -/
lemma gets_autosave : Gets total before wanted autosave wanted.autosave := by
  have hgives : ∀ c b, c.verb = .get → c.argument = "AUTOSAVE".toList →
      Board.SameSettings wanted b → Board.Gives c b (.autosave wanted.autosave) := by
    intro c b hverb hargument hsame
    rw [← hsame.autosave]
    exact Board.gives_autosave hverb hargument
  exact gets_ask (by decide) hgives rfl

/-- The monitor is read, and one that is off when there is none. -/
lemma gets_monitor (hfile : ∀ m ∈ wanted.monitor, Token.isToken m.filename = true) :
    Gets total before wanted monitor (wanted.monitor.getD ⟨0, 0, []⟩) := by
  have hgives : ∀ c b, c.verb = .get → c.argument = "MONITOR".toList →
      Board.SameSettings wanted b →
      Board.Gives c b (.monitor (wanted.monitor.getD ⟨0, 0, []⟩)) := by
    intro c b hverb hargument hsame
    rw [← hsame.monitor]
    exact Board.gives_monitor (hsame.monitor ▸ hfile) hverb hargument
  exact gets_ask (by decide) hgives rfl

/-- The settings of a board are read as a configuration. -/
lemma gets_configuration (htyped : wanted.HasTypedSettings) :
    Gets total before wanted Configuration.read (Configuration.ofBoard wanted) := by
  have hmonitor : (some (wanted.monitor.getD ⟨0, 0, []⟩)).filter Monitor.isComplete =
      wanted.monitor.filter Monitor.isComplete := by
    cases wanted.monitor with
    | none => decide
    | some m => rfl
  rw [Configuration.ofBoard, ← hmonitor]
  exact (gets_timing htyped .totalTime).bind <| (gets_timing htyped .windowTime).bind <|
    (gets_timing htyped .deadtime).bind <| (gets_filePrefix htyped.filePrefix).bind <|
    gets_autosave.bind <| (gets_monitor htyped.monitor).bind (gets_pure _)

end Client

/-! ## Whole configurations -/

namespace Configuration

variable {c : Configuration} {client : Client Connection}

/-- The total times of a board to which a configuration is written: the one it has, and the one that
it gets. -/
def TotalsOf (c : Configuration) (b : Board) (total : TimeText) : Prop :=
  total = b.totalTime ∨ total = c.totalTime.replacing b.totalTime

/-- The changes of a configuration set no other total time than its own. -/
lemma setsTotal_of_mem_plan (b : Board) :
    ∀ setting ∈ c.plan, setting.SetsTotal (c.TotalsOf b) := by
  intro setting hsetting
  rcases cases_of_mem_plan hsetting with ⟨key, hchanged, rfl⟩ | ⟨-, rfl⟩ | rfl | rfl | rfl
  · cases key with
    | totalTime =>
      have hown : c.totalTime.replacing b.totalTime = c.totalTime :=
        if_neg (by simpa [timing] using hchanged)
      exact Or.inr hown.symm
    | windowTime => trivial
    | deadtime => trivial
  all_goals trivial

/-- After a write that succeeds the board has the settings of the configuration. -/
lemma hasSettings_of_write {b : Board} (hmade : c.IsMade)
    (h : client.HasSettings (c.TotalsOf b) b b) (hwrite : (c.write.run client).1 = .ok ()) :
    (c.write.run client).2.HasSettings (c.TotalsOf b) b (c.writtenTo b) ∧ c.check = .ok () := by
  cases hcheck : c.check with
  | error cause =>
    have hrefused : c.write.run client = (.error (.refused cause), client) := by
      rw [write, hcheck]
      rfl
    rw [hrefused] at hwrite
    simp at hwrite
  | ok _ =>
    have hrun : c.write.run client = (makeChanges c.plan).run client := by
      rw [write, hcheck]
      rfl
    rw [hrun] at hwrite ⊢
    rw [← foldl_plan]
    exact ⟨h.makeChanges (fun setting hsetting => ⟨hmade.of_mem_plan setting hsetting,
      setsTotal_of_mem_plan b setting hsetting⟩) hwrite, rfl⟩

/-- Writing leaves a reached board a reached one, unless it sets the prefix to the word for none. -/
lemma reachable_write (hnone : c.filePrefix ≠ "NONE".toList)
    (hunfinished : client.session.link.unfinished = [])
    (hreached : client.session.link.board.Reachable) :
    (c.write.run client).2.session.link.board.Reachable := by
  have hcall := Board.Reachable.call (.write c) (fun _ => hnone) hunfinished hreached
  have hrun : ((ClientCall.write c).perform.run client).2 = (c.write.run client).2 := by
    rw [ClientCall.perform]
    rcases hwrite : c.write.run client with ⟨e | _, client'⟩
    · exact congrArg Prod.snd (Call.run_bind_of_error hwrite)
    · exact congrArg Prod.snd (Call.run_bind_of_ok hwrite)
  rwa [hrun] at hcall

/-- **A configuration that is written is read back.** The board is one that typed calls lead to,
none of which sets the prefix to the word that stands for none; it is not mute, and nothing is on
its way. If a configuration is written without an error, then the configuration can be read, and it
has every time that was written and the times before in the place of those that were left alone, the
prefix that was written or the one before while autosave is off, the autosave interval, the monitor
if it is complete, and the default format. The board has these settings and the format that was
written, and nothing else has happened to it than that its run may have ended by a total time that
it had. -/
theorem read_of_write (c : Configuration) (client : Client Connection) (hmade : c.IsMade)
    (hnone : c.filePrefix ≠ "NONE".toList) (hreached : client.session.link.board.Reachable)
    (hquiet : client.session.IsQuiet) (hmute : client.session.link.board.mute = false)
    (hwrite : (c.write.run client).1 = .ok ()) :
    let before := client.session.link.board
    let written := (c.write.run client).2
    let again := (read.run written).2
    (read.run written).1 = .ok
      { totalTime := c.totalTime.replacing before.totalTime
        windowTime := c.windowTime.replacing before.windowTime
        deadtime := c.deadtime.replacing before.deadtime
        filePrefix := if c.autosave = 0 then before.filePrefix else c.filePrefix
        autosave := c.autosave
        monitor := c.activeMonitor?
        format := defaultFormat } ∧
      ∀ after ∈ [written.session.link.board, again.session.link.board],
        Board.SameSettings (c.writtenTo before) after ∧
          Board.RunsOn (c.TotalsOf before) before after := by
  intro before written again
  have hstart : client.HasSettings (c.TotalsOf before) before before :=
    ⟨hquiet, .refl before, .same rfl rfl, Or.inl rfl, hmute⟩
  obtain ⟨hwritten, hcheck⟩ := hasSettings_of_write hmade hstart hwrite
  have hreadable : (c.writtenTo before).IsReadable :=
    (reachable_write hnone hquiet.unfinished hreached).isReadable.of_sameSettings
      hwritten.settings.symm
  have htyped : (c.writtenTo before).HasTypedSettings :=
    ⟨hreadable.timing, hreadable.filePrefix.imp_right And.left, isToken_of_check hcheck⟩
  obtain ⟨client', hread, hagain⟩ := Client.gets_configuration htyped written hwritten
  have hmonitor : c.activeMonitor?.filter Monitor.isComplete = c.activeMonitor? := by
    simp [activeMonitor?]
  have hclient' : again = client' := congrArg Prod.snd hread
  refine ⟨?_, ?_⟩
  · rw [hread, ofBoard, hreadable.shownPrefix_eq, ← hmonitor]
    rfl
  · simp only [List.forall_mem_cons, List.not_mem_nil, hclient']
    exact ⟨⟨hwritten.settings, hwritten.runsOn⟩, ⟨hagain.settings, hagain.runsOn⟩, by simp⟩

/-- A client of a noisy board with an agent, whose clock goes on by seven seconds with each line. -/
def freshClient : Client Connection :=
  .ofSession ⟨⟨{ Board.atRest with agents := [⟨1, "00:11:22:33:44:55".toList⟩], noisy := true },
    fun n => ⟨n * 7000000000⟩, [], [], fun _ => .whole⟩, .empty, Session.defaultWait, true, .empty⟩

/-- The same client once it has started a run. -/
def startedClient : Client Connection :=
  ((ClientCall.startRun .unchanged ⟨0⟩).perform.run freshClient).2

/-- A configuration that leaves the total time alone, which the run has lasted when the second
change arrives. -/
def shortWindows : Configuration :=
  ⟨.unchanged, ⟨"50".toList, some .micros⟩, ⟨"0.5".toList, some .millis⟩, "runs/day".toList, 100,
    some ⟨2, 3, "live".toList⟩, 7⟩

/-- The short windows are read back with the total time of the board and the default format. -/
theorem read_of_write_shortWindows :
    shortWindows.IsMade ∧ shortWindows.filePrefix ≠ "NONE".toList ∧
      startedClient.session.link.board.Reachable ∧ startedClient.session.IsQuiet ∧
      startedClient.session.link.board.mute = false ∧
      (shortWindows.write.run startedClient).1 = .ok () ∧
      (read.run (shortWindows.write.run startedClient).2).1 = .ok { shortWindows with
        totalTime := ⟨"10".toList, some .seconds⟩
        format := defaultFormat } := by
  have hmade : shortWindows.IsMade := by
    intro key
    cases key
    · exact Or.inl ⟨"0u".toList, by decide +kernel⟩
    · exact Or.inl ⟨"50u".toList, by decide +kernel⟩
    · exact Or.inl ⟨"0.5m".toList, by decide +kernel⟩
  have hnone : shortWindows.filePrefix ≠ "NONE".toList := by decide
  have hreached : startedClient.session.link.board.Reachable :=
    .call _ trivial rfl (.setUp _ false true .atRest)
  have hquiet : startedClient.session.IsQuiet := by
    constructor <;> decide +kernel
  have hmute : startedClient.session.link.board.mute = false := by decide +kernel
  have hwrite : (shortWindows.write.run startedClient).1 = .ok () := by decide +kernel
  have hread :=
    (read_of_write shortWindows startedClient hmade hnone hreached hquiet hmute hwrite).1
  refine ⟨hmade, hnone, hreached, hquiet, hmute, hwrite, ?_⟩
  rw [hread]
  decide +kernel

end Configuration

end TimingBoard
