import TimingBoard.Proofs.Client.Asking
import TimingBoard.Proofs.Client.Executed

/-!
# Restoring a configuration

A configuration that was read from a board can be written back, to keep what the board was set to.
It is not plain that this works: what can be written is decided by the check of a configuration,
what can be read by the answers of the board, and what the board can be set to by single calls.

Of the settings that typed calls make, all are restored but those that no configuration can have.
The check refuses a configuration with autosave on and no prefix, while a single call turns autosave
on whatever the prefix is.  A monitor without saves or counts is read as none.
-/

namespace TimingBoard

/-! ## Settings that typed calls make -/

namespace Setting

variable {setting read : Setting} {c : Command}

/-- A change whose names are tokens. -/
def HasTokens : Setting → Prop
  | .filePrefix value => Token.isToken value = true
  | .monitor (some m) => Token.isToken m.filename = true
  | _ => True

/-- A change that is not refused has tokens. -/
lemma hasTokens_of_request (h : setting.request = .ok c) : setting.HasTokens := by
  cases setting with
  | filePrefix value => exact (Token.require_bind_eq_ok.1 h).1
  | monitor value =>
    cases value with
    | none => trivial
    | some m => exact (Token.require_bind_eq_ok.1 h).1
  | _ => trivial

/-- From the command of a change, the board reads no names but its own. -/
lemma hasTokens_of_isReadFrom (h : setting.request = .ok c)
    (hread : read.IsReadFrom (Text.cutAtSpace c.argument).1 (Text.cutAtSpace c.argument).2) :
    read.HasTokens := by
  cases setting with
  | timing key value =>
    -- The time may be any text, so that the board may read another one, or none; but it reads a
    -- time.
    have hbegins : (Text.cutAtSpace c.argument).1 <+: key.word ++ ' ' :: value.text := by
      refine Command.key_isPrefix_of_make h ?_
      cases key <;> simp [TimingKey.word, Text.isSpace]
    cases read with
    | filePrefix name =>
      rw [hread.1] at hbegins
      cases key <;> simp [TimingKey.word] at hbegins
    | monitor value =>
      cases value with
      | none => trivial
      | some m =>
        rw [hread.1] at hbegins
        cases key <;> simp [TimingKey.word] at hbegins
    | _ => trivial
  | _ =>
    rw [hread.eq (isReadFrom_of_request h trivial)]
    exact hasTokens_of_request h

lemma IsSettable.isMade (h : setting.IsSettable) : setting.IsMade := by
  cases setting with
  | timing key value => exact Or.inl ⟨_, (Board.settableTime?_eq_some.1 h).1⟩
  | _ => trivial

end Setting

/-- A command from which the board reads no names but tokens. -/
def Command.KeepsTokens (c : Command) : Prop :=
  c.verb = .set → ∀ setting : Setting,
    setting.IsReadFrom (Text.cutAtSpace c.argument).1 (Text.cutAtSpace c.argument).2 →
      setting.HasTokens

namespace Board

variable {b : Board} {c : Command} {key value : Text}

lemma HasTypedSettings.apply {setting : Setting} (h : b.HasTypedSettings)
    (hread : setting.IsReadFrom key value) (htokens : setting.HasTokens) :
    (setting.apply b).HasTypedSettings := by
  have htimes := settableTimes_apply h.timing hread
  cases setting with
  | timing timing t =>
    refine ⟨htimes, ?_, ?_⟩
    · cases timing <;> exact h.filePrefix
    · cases timing <;> exact h.monitor
  | filePrefix name => exact ⟨htimes, Or.inr htokens, h.monitor⟩
  | autosave count => exact ⟨htimes, h.filePrefix, h.monitor⟩
  | format number => exact ⟨htimes, h.filePrefix, h.monitor⟩
  | monitor monitor =>
    refine ⟨htimes, h.filePrefix, fun m hm => ?_⟩
    obtain rfl : monitor = some m := hm
    exact htokens

/-- A command with tokens leaves typed settings. -/
lemma HasTypedSettings.handle (h : b.HasTypedSettings) (hc : c.KeepsTokens) (now : Instant) :
    (b.handle now c.line).2.HasTypedSettings :=
  keeps_handle HasTypedSettings.of_sameSettings
    (fun hverb _ setting h hread => h.apply hread (hc hverb setting hread)) h now

/-- A board that typed calls of clients lead to from one at rest. The clients come one after the
other, and each finds the board between two lines; what else becomes of a client is left open.
Between the calls the agents may change, and the board may be silenced or made noisy. -/
inductive TypedReachable : Board → Prop
  | atRest : TypedReachable .atRest
  | setUp {b : Board} (agents : List Agent) (mute noisy : Bool) : TypedReachable b →
      TypedReachable { b with agents := agents, mute := mute, noisy := noisy }
  | call {client : Client Connection} (what : ClientCall) : what.IsTyped →
      client.session.link.unfinished = [] → TypedReachable client.session.link.board →
      TypedReachable (what.perform.run client).2.session.link.board

/-- Typed calls lead to typed settings. -/
lemma TypedReachable.hasTypedSettings (h : b.TypedReachable) : b.HasTypedSettings := by
  induction h with
  | atRest =>
    have htimes := Reachable.atRest.isReadable.timing
    exact ⟨htimes, Or.inl rfl, fun m hm => by cases hm⟩
  | setUp agents mute noisy _ ih =>
    refine ⟨fun key => ?_, ih.filePrefix, ih.monitor⟩
    have htime := ih.timing key
    cases key <;> exact htime
  | call what htyped hline _ ih =>
    have hasks : what.dialogue.AsksOnly Command.KeepsTokens :=
      ClientCall.asksOnly htyped (fun _ hverb hset => absurd hset hverb)
        fun _ _ _ hc _ _ hread => Setting.hasTokens_of_isReadFrom hc hread
    have hkeeps := Client.keeps_perform (P := HasTypedSettings) hasks
      fun command hcommand b now hb => hb.handle hcommand now
    exact (hkeeps _ ⟨hline, ih⟩).2

/-- Typed calls of one client lead on from a board that typed calls lead to. -/
lemma TypedReachable.runAll {client : Client Connection} {calls : List ClientCall}
    (hcalls : ∀ call ∈ calls, call.IsTyped) (hline : client.session.link.unfinished = [])
    (h : client.session.link.board.TypedReachable) :
    (Call.runAll ClientCall.perform calls client).2.session.link.board.TypedReachable := by
  induction calls generalizing client with
  | nil => exact h
  | cons call rest ih =>
    obtain ⟨hcall, hrest⟩ := List.forall_mem_cons.1 hcalls
    have hkeeps := Client.keeps_perform (P := fun _ => True) call.dialogue.asksOnly_true
      fun _ _ _ _ _ => trivial
    exact ih hrest (hkeeps client ⟨hline, trivial⟩).1 (.call call hcall hline h)

/-- The times of a board are times that it can be set to. -/
lemma HasTypedSettings.isSettable (h : b.HasTypedSettings) (key : TimingKey) :
    settableTime? (b.timing key).text = some (b.timing key) := by
  obtain ⟨spelling, hspelling⟩ := h.timing key
  obtain ⟨hread, hunit⟩ := settableTime?_eq_some.1 hspelling
  exact settableTime?_eq_some.2 ⟨TimeText.read_text hread, hunit⟩

lemma HasTypedSettings.isToken_shownPrefix (h : b.HasTypedSettings) (hne : b.shownPrefix ≠ []) :
    Token.isToken b.shownPrefix = true ∧ b.shownPrefix = b.filePrefix := by
  unfold shownPrefix at hne ⊢
  split at hne
  · exact absurd rfl hne
  · next hother =>
    rw [if_neg hother]
    exact ⟨h.filePrefix.resolve_left hne, rfl⟩

end Board

/-! ## Changes that succeed -/

namespace Client

variable {client : Client Connection} {total : TimeText → Prop} {before wanted : Board}
  {command : Command}

/-- A change that the board can make succeeds. -/
lemma HasSettings.set_eq_ok {setting : Setting} (h : client.HasSettings total before wanted)
    (hrequest : setting.request = .ok command) (hsettable : setting.IsSettable) :
    ((Client.set setting).run client).1 = .ok () := by
  have hverb := Setting.verb_of_request hrequest
  have hhandle : client.session.link.board.handle client.session.link.now command.line =
      (Board.accepted, setting.apply (client.prepared command)) := by
    rw [Board.handle_line, hverb]
    exact Board.answerSet_of_isSettable hrequest hsettable _
  obtain ⟨client', hexecute, -⟩ := h.executes (Board.isAnswer_accepted command) hhandle
  rw [Reply.ofAnswer_accepted (Or.inl hverb)] at hexecute
  have hrun : (Client.set setting).run client = (.ok (), client') :=
    ask_run_of_ok hrequest hexecute rfl
  rw [hrun]

/-- Changes that the board can make succeed one after the other. -/
lemma HasSettings.makeChanges_eq_ok {changes : List Setting}
    (h : client.HasSettings total before wanted)
    (hrequest : ∀ setting ∈ changes, ∃ command, setting.request = .ok command)
    (hsettable : ∀ setting ∈ changes, setting.IsSettable ∧ setting.SetsTotal total) :
    ((Configuration.makeChanges changes).run client).1 = .ok () := by
  induction changes generalizing client wanted with
  | nil => rfl
  | cons change rest ih =>
    obtain ⟨⟨command, hcommand⟩, hrequests⟩ := List.forall_mem_cons.1 hrequest
    obtain ⟨⟨hchange, htotal⟩, hrest⟩ := List.forall_mem_cons.1 hsettable
    have hset := h.set_eq_ok hcommand hchange
    have hnext := h.set hchange.isMade htotal hset
    have hrun : (Configuration.makeChanges (change :: rest)).run client =
        (Client.set change >>= fun _ => Configuration.makeChanges rest).run client := rfl
    rw [hrun, Call.run_bind_of_ok (Prod.ext hset rfl)]
    exact ih hnext hrequests hrest

end Client

/-! ## What is read can be written -/

namespace Configuration

variable {b : Board} {client : Client Connection}

lemma autosaveWithoutPrefix_of_check {c : Configuration} (hon : c.autosave ≠ 0)
    (hempty : c.filePrefix = []) : c.check = .error .autosaveWithoutPrefix := by
  unfold check
  rw [if_pos hon, if_pos hempty]
  rfl

/-- Names that are tokens pass the check of a configuration. -/
lemma check_eq_ok {c : Configuration} (hfile : c.autosave ≠ 0 → Token.isToken c.filePrefix = true)
    (hmonitor : ∀ m ∈ c.activeMonitor?, Token.isToken m.filename = true) : c.check = .ok () := by
  unfold check
  cases hactive : c.activeMonitor? with
  | none =>
    by_cases hoff : c.autosave = 0
    · rw [if_neg (not_not_intro hoff)]
      rfl
    · have htoken := hfile hoff
      rw [if_pos hoff, if_neg (Token.isToken_iff.1 htoken).1]
      exact Token.require_bind_eq_ok.2 ⟨htoken, rfl⟩
  | some m =>
    have hlast : Token.require .monitorFile m.filename = .ok () :=
      Token.require_eq_ok.2 (hmonitor m hactive)
    by_cases hoff : c.autosave = 0
    · rw [if_neg (not_not_intro hoff)]
      exact hlast
    · have htoken := hfile hoff
      rw [if_pos hoff, if_neg (Token.isToken_iff.1 htoken).1]
      exact Token.require_bind_eq_ok.2 ⟨htoken, hlast⟩

lemma timing_ofBoard (b : Board) (key : TimingKey) : (ofBoard b).timing key = b.timing key := by
  cases key <;> rfl

lemma mem_of_mem_activeMonitor? {m : Monitor} (hm : m ∈ (ofBoard b).activeMonitor?) :
    m ∈ b.monitor :=
  (Option.filter_eq_some_iff.1 (Option.filter_eq_some_iff.1 hm).1).1

/-- A configuration that was read passes its check, unless it has autosave on and no prefix. -/
lemma check_ofBoard (h : b.HasTypedSettings) (hfile : b.autosave = 0 ∨ b.shownPrefix ≠ []) :
    (ofBoard b).check = .ok () :=
  check_eq_ok (fun hon => (h.isToken_shownPrefix (hfile.resolve_left hon)).1)
    fun m hm => h.monitor m (mem_of_mem_activeMonitor? hm)

/-- The changes that write back what was read are changes that the board can make. -/
lemma isSettable_of_mem_plan (h : b.HasTypedSettings) :
    ∀ setting ∈ (ofBoard b).plan, setting.IsSettable := by
  intro setting hsetting
  rcases cases_of_mem_plan hsetting with ⟨key, -, rfl⟩ | ⟨-, rfl⟩ | rfl | rfl | rfl
  · rw [timing_ofBoard]
    exact h.isSettable key
  all_goals trivial

lemma replacing_self (t : TimeText) : t.replacing t = t :=
  ite_self t

/-- The settings that are restored, on a board that has them. -/
structure Restores (before after : Board) : Prop where
  timing (key : TimingKey) : after.timing key = before.timing key
  filePrefix : after.filePrefix = before.filePrefix
  autosave : after.autosave = before.autosave
  monitor : (∀ m ∈ before.monitor, m.save ≠ 0 ∧ m.count ≠ 0) → after.monitor = before.monitor

lemma Restores.refl (b : Board) : Restores b b :=
  ⟨fun _ => rfl, rfl, rfl, fun _ => rfl⟩

lemma Restores.of_sameSettings {before after after' : Board} (h : Restores before after)
    (hsame : Board.SameSettings after after') : Restores before after' :=
  ⟨fun key => (hsame.timing key).trans (h.timing key), hsame.filePrefix.trans h.filePrefix,
    hsame.autosave.trans h.autosave, fun hmonitor => hsame.monitor.trans (h.monitor hmonitor)⟩

/-- To write what was read changes none of the settings but a monitor without saves or counts. -/
lemma restores_writtenTo (h : b.HasTypedSettings) (hfile : b.autosave = 0 ∨ b.shownPrefix ≠ []) :
    Restores b ((ofBoard b).writtenTo b) := by
  constructor
  · intro key
    cases key <;> exact replacing_self _
  · change (if b.autosave = 0 then b.filePrefix else b.shownPrefix) = b.filePrefix
    split
    · rfl
    · next hon => exact (h.isToken_shownPrefix (hfile.resolve_left hon)).2
  · rfl
  · intro hmonitor
    have hcomplete : b.monitor.filter Monitor.isComplete = b.monitor := by
      cases hm : b.monitor with
      | none => rfl
      | some m =>
        have hname := (Token.isToken_iff.1 (h.monitor m hm)).1
        have hparts : m.isComplete = true := by simp [Monitor.isComplete, hmonitor m hm, hname]
        exact Option.filter_some_pos hparts
    change (b.monitor.filter Monitor.isComplete).filter Monitor.isComplete = b.monitor
    rw [hcomplete, hcomplete]

/-- A board from which a configuration is read is not mute. -/
lemma mute_of_read {c : Configuration} (hquiet : client.session.IsQuiet)
    (hread : (read.run client).1 = .ok c) : client.session.link.board.mute = false := by
  cases hmute : client.session.link.board.mute with
  | false => rfl
  | true =>
    obtain ⟨command, hmake, -⟩ : ∃ command,
        Command.make .get TimingKey.totalTime.word = .ok command ∧
        command.verb = .get ∧ command.argument = TimingKey.totalTime.word :=
      Command.exists_make .get (by decide) (by decide)
    have hsilent : (Session.execute command false).run client.session = (.error .timeout,
        (client.session.afterLine command).2.noted false (.sent command)) :=
      Session.execute_run_of_mute hquiet ((Session.mute_afterLine _ _).trans hmute)
    have hexecute : ((Client.overSession.execute command false).run client).1 =
        .error .timeout := by
      rw [Client.overSession, Client.run_onSession, hsilent]
    have htiming : ((Client.timing .totalTime).run client).1 = .error .timeout :=
      congrArg Prod.fst (Client.ask_run_of_error hmake (Prod.ext hexecute rfl))
    rw [read, Call.run_bind_of_error (Prod.ext htiming rfl)] at hread
    cases hread

/-- After what was read is written, the board has the settings that are written. -/
lemma hasSettings_of_write_ofBoard (h : b.HasTypedSettings)
    (hclient : client.HasSettings ((ofBoard b).TotalsOf b) b b)
    (hfile : b.autosave = 0 ∨ b.shownPrefix ≠ []) :
    ((ofBoard b).write.run client).1 = .ok () ∧ ((ofBoard b).write.run client).2.HasSettings
      ((ofBoard b).TotalsOf b) b ((ofBoard b).writtenTo b) := by
  have hmade : (ofBoard b).IsMade := by
    intro key
    rw [timing_ofBoard]
    exact Or.inl ⟨_, (Board.settableTime?_eq_some.1 (h.isSettable key)).1⟩
  have hcheck := check_ofBoard h hfile
  have hwrite : ((ofBoard b).write.run client).1 = .ok () := by
    have hrun : (ofBoard b).write.run client = (makeChanges (ofBoard b).plan).run client := by
      rw [write, hcheck]
      rfl
    rw [hrun]
    exact hclient.makeChanges_eq_ok (hmade.exists_request hcheck) fun setting hsetting =>
      ⟨isSettable_of_mem_plan h setting hsetting, setsTotal_of_mem_plan b setting hsetting⟩
  exact ⟨hwrite, (hasSettings_of_write hmade hclient hwrite).1⟩

/-- **What is read can be written back.** The board is one that typed calls lead to, and nothing is
on its way between it and a client, who reads its configuration.  Then the same client or another
one writes that configuration back to the board as it is.  This succeeds unless autosave is on and
no prefix was read; such a configuration is refused, and nothing is sent.  In either case the times,
the prefix and the autosave interval of the board are what they were, and so is the monitor if it
has saves and counts, or if there is none. -/
theorem write_of_read (c : Configuration) (reader : Client Connection)
    (hreached : reader.session.link.board.TypedReachable) (hquiet : reader.session.IsQuiet)
    (hread : (read.run reader).1 = .ok c) :
    let before := reader.session.link.board
    let again := (read.run reader).2
    again.session.IsQuiet ∧ Board.SameSettings before again.session.link.board ∧
      ∀ writer : Client Connection, writer.session.IsQuiet →
        writer.session.link.board = again.session.link.board →
        (if c.autosave = 0 ∨ c.filePrefix ≠ [] then (c.write.run writer).1 = .ok ()
          else c.write.run writer = (.error (.refused .autosaveWithoutPrefix), writer)) ∧
        Restores before (c.write.run writer).2.session.link.board := by
  intro before again
  have htyped := hreached.hasTypedSettings
  have hstart : reader.HasSettings ((ofBoard before).TotalsOf before) before before :=
    ⟨hquiet, .refl before, .same rfl rfl, Or.inl rfl, mute_of_read hquiet hread⟩
  obtain ⟨client', hrun, hagain⟩ := Client.gets_configuration htyped reader hstart
  obtain rfl : ofBoard before = c := Except.ok.inj ((congrArg Prod.fst hrun).symm.trans hread)
  obtain rfl : again = client' := congrArg Prod.snd hrun
  refine ⟨hagain.quiet, hagain.settings, fun writer hwriter hboard => ?_⟩
  by_cases hfile : (ofBoard before).autosave = 0 ∨ (ofBoard before).filePrefix ≠ []
  · have hready : writer.HasSettings ((ofBoard before).TotalsOf before) before before :=
      ⟨hwriter, hboard ▸ hagain.settings, hboard ▸ hagain.runsOn, hagain.total, hagain.mute⟩
    obtain ⟨hwrite, hwritten⟩ := hasSettings_of_write_ofBoard htyped hready hfile
    rw [if_pos hfile]
    exact ⟨hwrite, (restores_writtenTo htyped hfile).of_sameSettings hwritten.settings⟩
  · obtain ⟨hon, hempty⟩ := not_or.1 hfile
    have hrefused : (ofBoard before).write.run writer =
        (.error (.refused .autosaveWithoutPrefix), writer) := by
      rw [write, autosaveWithoutPrefix_of_check hon (not_not.1 hempty)]
      rfl
    rw [if_neg hfile, hrefused]
    exact ⟨rfl, (Restores.refl before).of_sameSettings (hboard ▸ hagain.settings)⟩

/-- A client of a board at rest. -/
def restingClient : Client Connection :=
  .ofSession ⟨.toBoard .atRest ⟨0⟩, .empty, Session.defaultWait, true, .empty⟩

/-- A client after calls that leave the board with a time, a prefix, autosave and a monitor. -/
def presetClient : Client Connection :=
  (Call.runAll ClientCall.perform [.set (.timing .totalTime ⟨"1.50".toList, some .minutes⟩),
    .set (.filePrefix "runs/a".toList), .set (.autosave 5),
    .set (.monitor (some ⟨2, 3, "live".toList⟩))] restingClient).2

/-- A prefix, autosave and a monitor are written back by the client that has read them. -/
theorem write_of_read_preset :
    presetClient.session.link.board.TypedReachable ∧ presetClient.session.IsQuiet ∧
      ∃ c, (read.run presetClient).1 = .ok c ∧ (c.autosave = 0 ∨ c.filePrefix ≠ []) ∧
        (c.write.run (read.run presetClient).2).1 = .ok () ∧
        Restores presetClient.session.link.board
          (c.write.run (read.run presetClient).2).2.session.link.board := by
  have hreached : presetClient.session.link.board.TypedReachable :=
    .runAll (by simp [ClientCall.IsTyped]) rfl .atRest
  have hquiet : presetClient.session.IsQuiet := by
    constructor <;> decide +kernel
  have hread : (read.run presetClient).1 = .ok ⟨⟨"1.50".toList, some .minutes⟩,
      ⟨"20".toList, some .micros⟩, ⟨"10".toList, some .micros⟩, "runs/a".toList, 5,
      some ⟨2, 3, "live".toList⟩, defaultFormat⟩ := by decide +kernel
  obtain ⟨hagain, -, hwrite⟩ := write_of_read _ presetClient hreached hquiet hread
  obtain ⟨hresult, hrestores⟩ := hwrite _ hagain rfl
  exact ⟨hreached, hquiet, _, hread, by decide, hresult, hrestores⟩

/-- A single call turns autosave on at a board without prefix. The configuration of the board can be
read, but what was read cannot be written back. -/
theorem not_write_of_read_autosave :
    let client := (Call.runAll ClientCall.perform [.set (.autosave 5)] restingClient).2
    client.session.link.board.TypedReachable ∧ client.session.IsQuiet ∧
      (read.run client).1 = .ok ⟨⟨"10".toList, some .seconds⟩, ⟨"20".toList, some .micros⟩,
        ⟨"10".toList, some .micros⟩, [], 5, none, defaultFormat⟩ ∧
      ∀ c, (read.run client).1 = .ok c →
        (c.write.run (read.run client).2).1 = .error (.refused .autosaveWithoutPrefix) := by
  intro client
  have hreached : client.session.link.board.TypedReachable :=
    .runAll (by simp [ClientCall.IsTyped]) rfl .atRest
  have hquiet : client.session.IsQuiet := by
    constructor <;> decide +kernel
  have hread : (read.run client).1 = .ok ⟨⟨"10".toList, some .seconds⟩,
      ⟨"20".toList, some .micros⟩, ⟨"10".toList, some .micros⟩, [], 5, none, defaultFormat⟩ := by
    decide +kernel
  refine ⟨hreached, hquiet, hread, fun c hc => ?_⟩
  obtain rfl := Except.ok.inj (hread.symm.trans hc)
  rfl

end Configuration

end TimingBoard
