import TimingBoard.Proofs.Client.Following
import TimingBoard.Proofs.Session.Offered

/-!
# Answers that belong to the question

Any frame may reach a client after any command: the value of another setting, data that was asked
for before, an acceptance.  A call takes it for its answer only if it is one.  So what a call
answers is told by the first frames that reach the session: a value by a frame with the word that
was asked for, a status and a list by data with their words, and an order is carried out if the
first frame accepts it.  A call that fails leaves the tracker alone.
-/

namespace TimingBoard

open Reply

variable {α L : Type}

/-! ## Replies of one kind -/

namespace Reply

variable {c : Command} {f : Frame} {frames : List Frame} {reply : Reply} {l : Listing}

/-- The value of a setting is shown by the one frame that carries it. -/
lemma amounts_setting_iff (h : settingWord reply ≠ []) :
    Amounts c f frames reply ↔ frames = [] ∧ IsValue c f ∧ ShowsSetting f.payload reply := by
  constructor
  · intro hamounts
    cases hamounts with
    | alone hjudges =>
      cases hjudges with
      | setting hvalue hshows => exact ⟨rfl, hvalue, hshows⟩
      | _ => exact absurd rfl h
    | list _ _ hreads =>
      cases hreads <;> exact absurd rfl h
  · rintro ⟨rfl, hvalue, hshows⟩
    exact .alone (.setting hvalue hshows)

/-- An acceptance is one frame that says so. -/
lemma amounts_ack_iff : Amounts c f frames .ack ↔
    frames = [] ∧ (c.verb = .set ∨ c.verb = .measure) ∧ f.tag = .accepted := by
  constructor
  · intro hamounts
    cases hamounts with
    | alone hjudges => exact ⟨rfl, judges_ack_iff.1 hjudges⟩
    | list _ _ hreads => cases hreads
  · rintro ⟨rfl, haccepts⟩
    exact .alone (judges_ack_iff.2 haccepts)

/-- A status is shown by the one frame that carries it. -/
lemma amounts_status_iff {text : Text} : Amounts c f frames (.status text) ↔
    frames = [] ∧ IsData c f ∧ ShowsStatus f.payload text := by
  constructor
  · intro hamounts
    cases hamounts with
    | alone hjudges =>
      cases hjudges with
      | setting _ hshows => cases hshows
      | status hdata hshows => exact ⟨rfl, hdata, hshows⟩
    | list _ _ hreads => cases hreads
  · rintro ⟨rfl, hdata, hshows⟩
    exact .alone (.status hdata hshows)

/-- The list that a reply belongs to. -/
def listing? : Reply → Option Listing
  | .agents _ => some .agents
  | .measurements _ => some .measurements
  | .statistics _ | .statisticsList _ => some .statistics
  | _ => none

/-- A reply that belongs to a list starts with a frame that has its tag and its word. -/
lemma Amounts.of_listing (h : Amounts c f frames reply) (hl : listing? reply = some l) :
    f.tag = l.tag ∧ f.key = l.word := by
  cases h with
  | alone hjudges =>
    cases hjudges with
    | setting _ hshows => cases hshows <;> cases hl
    | noList hdata hkey _ =>
      obtain rfl := Option.some.inj hl
      exact ⟨hdata.tag_eq, hkey⟩
    | oneLine hdata hkey _ _ =>
      obtain rfl := Option.some.inj hl
      exact ⟨hdata.tag_eq, hkey⟩
    | _ => cases hl
  | list hannounces _ hreads =>
    cases hreads <;> obtain rfl := Option.some.inj hl <;>
      exact ⟨hannounces.tag_eq, hannounces.key_eq⟩

end Reply

/-! ## Requests -/

/-- The orders to the board: calls that only have to be accepted. -/
inductive Order where
  | set (setting : Setting)
  | start (length : TimeText) (now : Instant)
  | stop
  | save (id : UInt32) (file : Text)
  | delete (id : UInt32)
  | clear

namespace Order

/-- The request of an order, refused if its arguments are not valid. -/
def request : Order → Except Refusal Command
  | set setting => setting.request
  | start _ _ => Command.make .measure "START".toList
  | stop => Command.make .measure "STOP".toList
  | save id file => Client.saveRequest id file
  | delete id => Command.make .measure ("DEL ".toList ++ Natural.digits id.toNat)
  | clear => Command.make .measure "CLR".toList

/-- The arguments of an order are valid: a name in them is a token, and a time does not break the
line. -/
def IsValid : Order → Prop
  | set (.timing key value) => Text.IsOneLine (Text.trim (key.word ++ ' ' :: value.text))
  | set (.filePrefix value) => Token.isToken value = true
  | set (.monitor (some m)) => Token.isToken m.filename = true
  | save _ file => Token.isToken file = true
  | _ => True

/-- The call that gives an order. -/
def give [Link L] : Order → Call (Client L) Unit
  | set setting => Client.set setting
  | start length now => Client.startRun length now
  | stop => Client.stopRun
  | save id file => Client.save id file
  | delete id => Client.delete id
  | clear => Client.clear

/-- An order changes a setting or is about measurements. -/
lemma verb_of_request {order : Order} {c : Command} (h : order.request = .ok c) :
    c.verb = .set ∨ c.verb = .measure := by
  cases order with
  | set setting => exact Or.inl (Setting.verb_of_request h)
  | save id file => exact Or.inr (Command.make_eq_ok (Token.require_bind_eq_ok.1 h).2).1
  | start length now => exact Or.inr (Command.make_eq_ok h).1
  | stop => exact Or.inr (Command.make_eq_ok h).1
  | delete id => exact Or.inr (Command.make_eq_ok h).1
  | clear => exact Or.inr (Command.make_eq_ok h).1

/-- An order is refused exactly if its arguments are not valid. -/
lemma exists_request_iff (order : Order) : (∃ c, order.request = .ok c) ↔ order.IsValid := by
  have hplain {verb : Verb} {argument : Text} (h : Text.IsOneLine argument) :
      (∃ c, Command.make verb argument = .ok c) ↔ True :=
    iff_true_intro (Command.exists_make_of_isOneLine verb h)
  have hdigits (word : Text) (hword : Text.IsOneLine word) (n : UInt32) :
      Text.IsOneLine (word ++ Natural.digits n.toNat) :=
    Text.isOneLine_append.2 ⟨hword, Natural.isOneLine_digits _⟩
  cases order with
  | set setting =>
    cases setting with
    | timing key value => exact Command.exists_make_iff_isOneLine
    | filePrefix value => exact Setting.exists_request_filePrefix
    | autosave count => exact hplain (hdigits _ (by decide) count)
    | format number => exact hplain (hdigits _ (by decide) number)
    | monitor value =>
      cases value with
      | none =>
        have hline : Text.IsOneLine "NOMONITOR".toList := by decide
        exact hplain hline
      | some m => exact Setting.exists_request_monitor
  | save id file =>
    constructor
    · rintro ⟨c, hc⟩
      exact (Token.require_bind_eq_ok.1 hc).1
    · intro hfile
      obtain ⟨c, hc, -⟩ := Client.exists_saveRequest id hfile
      exact ⟨c, hc⟩
  | start length now => exact hplain (by decide)
  | stop => exact hplain (by decide)
  | delete id => exact hplain (hdigits _ (by decide) id)
  | clear => exact hplain (by decide)

end Order

namespace Client

/-- A request is valid and its command written, and these are the first frames that reach the client
then. -/
def Hears [Link L] (client : Client L) (request : Except Refusal Command) (command : Command)
    (frames : List Frame) : Prop :=
  request = .ok command ∧ client.session.Receives command frames

/-- The word of a setting is asked for, and the first frame that reaches the client shows its
value. -/
def HearsValue [Link L] (client : Client L) (word : Text) (reply : Reply) : Prop :=
  ∃ command f, client.Hears (Command.make .get word) command [f] ∧ f.tag = .value ∧ f.key = word ∧
    ShowsSetting f.payload reply

/-- A list is asked for, and the first frames that reach the client amount to the reply; they start
with a frame that has the tag and the word of the list. -/
def HearsList [Link L] (client : Client L) (request : Except Refusal Command) (l : Listing)
    (reply : Reply) : Prop :=
  ∃ command f frames, client.Hears request command (f :: frames) ∧ f.tag = l.tag ∧ f.key = l.word ∧
    Amounts command f frames reply

variable [Link L] {client : Client L} {request : Except Refusal Command} {silent : Bool}
  {kind : Reply → Option α} {a : α}

/-- A request is answered by a reply of the kind that it asks for. -/
lemma ask_eq_ok_iff : ((ask request silent kind).run client).1 = .ok a ↔
    ∃ command f frames reply, client.Hears request command (f :: frames) ∧
      Amounts command f frames reply ∧ kind reply = some a := by
  cases request with
  | error cause =>
    rw [ask_run_of_refused rfl]
    simp [Hears]
  | ok command =>
    have hexecute (reply : Reply) :
        ((overSession.execute command silent).run client).1 = .ok reply ↔ ∃ f frames,
          client.session.Receives command (f :: frames) ∧ Amounts command f frames reply :=
      Session.execute_eq_ok_iff
    constructor
    · intro hask
      rcases hrun : (overSession.execute command silent).run client with ⟨e | reply, after⟩
      · rw [ask_run_of_error rfl hrun] at hask
        cases hask
      · obtain ⟨f, frames, hreceives, hamounts⟩ := (hexecute reply).1 (by rw [hrun])
        rw [ask_eq rfl, Call.run_bind_of_ok hrun] at hask
        cases hkind : kind reply with
        | none => simp [hkind] at hask
        | some b =>
          obtain rfl : b = a := by simpa [hkind] using hask
          exact ⟨command, f, frames, reply, ⟨rfl, hreceives⟩, hamounts, hkind⟩
    · rintro ⟨_, f, frames, reply, ⟨hcommand, hreceives⟩, hamounts, hkind⟩
      obtain rfl := Except.ok.inj hcommand
      have hreply := (hexecute reply).2 ⟨f, frames, hreceives, hamounts⟩
      have hrun : (overSession.execute command silent).run client =
          (.ok reply, ((overSession.execute command silent).run client).2) := Prod.ext hreply rfl
      rw [ask_run_of_ok rfl hrun hkind]

/-- The value of a setting is answered exactly when the client hears it. -/
lemma ask_eq_ok_iff_hearsValue {word : Text} {reply : Reply}
    (hkind : ∀ reply', kind reply' = some a ↔ reply' = reply) (hword : settingWord reply = word)
    (hne : word ≠ []) :
    ((ask (Command.make .get word) silent kind).run client).1 = .ok a ↔
      client.HearsValue word reply := by
  have hamounts {command : Command} {f : Frame} {frames : List Frame} :
      Amounts command f frames reply ↔ _ := amounts_setting_iff (hword ▸ hne)
  constructor
  · intro hask
    obtain ⟨command, f, frames, reply', hhears, hreply, hsome⟩ := ask_eq_ok_iff.1 hask
    obtain rfl := (hkind reply').1 hsome
    obtain ⟨rfl, hvalue, hshows⟩ := hamounts.1 hreply
    exact ⟨command, f, hhears, hvalue.tag_eq, hshows.key_eq.trans hword, hshows⟩
  · rintro ⟨command, f, hhears, htag, -, hshows⟩
    have hverb := (Command.make_eq_ok hhears.1).1
    exact ask_eq_ok_iff.2 ⟨command, f, [], reply, hhears, hamounts.2 ⟨rfl, ⟨hverb, htag⟩, hshows⟩,
      (hkind reply).2 rfl⟩

/-- A list is answered exactly when the client hears it in a reply of the kind that is asked for. -/
lemma ask_eq_ok_iff_hearsList {l : Listing} (hkind : ∀ reply, kind reply = some a →
    listing? reply = some l) : ((ask request silent kind).run client).1 = .ok a ↔
      ∃ reply, kind reply = some a ∧ client.HearsList request l reply := by
  rw [ask_eq_ok_iff]
  constructor
  · rintro ⟨command, f, frames, reply, hhears, hamounts, hsome⟩
    obtain ⟨htag, hkey⟩ := hamounts.of_listing (hkind reply hsome)
    exact ⟨reply, hsome, command, f, frames, hhears, htag, hkey, hamounts⟩
  · rintro ⟨reply, hsome, command, f, frames, hhears, -, -, hamounts⟩
    exact ⟨command, f, frames, reply, hhears, hamounts, hsome⟩

/-- A list that only one reply gives is answered exactly when the client hears this reply. -/
lemma ask_eq_ok_iff_hearsList_of_eq {l : Listing} {reply : Reply}
    (hkind : ∀ reply', kind reply' = some a ↔ reply' = reply) (hl : listing? reply = some l) :
    ((ask request silent kind).run client).1 = .ok a ↔ client.HearsList request l reply := by
  have hlisting (reply' : Reply) (h : kind reply' = some a) : listing? reply' = some l := by
    rwa [(hkind reply').1 h]
  simp only [ask_eq_ok_iff_hearsList hlisting, hkind, exists_eq_left]

/-- A status is answered by data with its word, and is the text behind it. -/
lemma status_eq_ok_iff {text : Text} : (status.run client).1 = .ok text ↔
    ∃ command f, client.Hears (Command.make .measure "STATUS".toList) command [f] ∧
      f.tag = .measurement ∧ f.key = "STATUS".toList ∧ ShowsStatus f.payload text := by
  have hkind (reply : Reply) : statusOf? reply = some text ↔ reply = .status text := by
    cases reply <;> simp [statusOf?]
  rw [status, ask_eq_ok_iff]
  constructor
  · rintro ⟨command, f, frames, reply, hhears, hamounts, hsome⟩
    obtain rfl := (hkind reply).1 hsome
    obtain ⟨rfl, hdata, hshows⟩ := amounts_status_iff.1 hamounts
    exact ⟨command, f, hhears, hdata.tag_eq, key_eq_status_iff.2 ⟨text, hshows⟩, hshows⟩
  · rintro ⟨command, f, hhears, htag, -, hshows⟩
    have hverb := (Command.make_eq_ok hhears.1).1
    exact ⟨command, f, [], .status text, hhears, amounts_status_iff.2 ⟨rfl, ⟨hverb, htag⟩, hshows⟩,
      rfl⟩

/-- Statistics are answered by one line, or by a list of lines. -/
lemma statistics_eq_ok_iff {id : UInt32} {cumulative : Bool} {lines : List Statistics} :
    ((statistics id cumulative).run client).1 = .ok lines ↔
      (∃ line, lines = [line] ∧
        client.HearsList (statisticsRequest id cumulative) .statistics (.statistics line)) ∨
        client.HearsList (statisticsRequest id cumulative) .statistics (.statisticsList lines) := by
  rw [statistics, ask_eq_ok_iff_hearsList (l := .statistics)]
  · constructor
    · rintro ⟨reply, hkind, hhears⟩
      cases reply with
      | statistics line => exact Or.inl ⟨line, by simpa using hkind.symm, hhears⟩
      | statisticsList lines' =>
        obtain rfl : lines' = lines := by simpa using hkind
        exact Or.inr hhears
      | _ => simp at hkind
    · rintro (⟨line, rfl, hhears⟩ | hhears)
      · exact ⟨.statistics line, rfl, hhears⟩
      · exact ⟨.statisticsList lines, rfl, hhears⟩
  · intro reply hkind
    cases reply with
    | statistics line => rfl
    | statisticsList lines => rfl
    | _ => simp at hkind

/-- What only has to be accepted succeeds exactly when the first frame accepts it. -/
lemma tell_eq_ok_iff (h : ∀ command, request = .ok command →
    command.verb = .set ∨ command.verb = .measure) : ((tell request).run client).1 = .ok () ↔
      ∃ command f, client.Hears request command [f] ∧ f.tag = .accepted := by
  rw [tell, ask_eq_ok_iff]
  constructor
  · rintro ⟨command, f, frames, reply, hhears, hamounts, hsome⟩
    have hack : reply = .ack := by cases reply <;> simp at hsome ⊢
    obtain ⟨rfl, -, htag⟩ := amounts_ack_iff.1 (hack ▸ hamounts)
    exact ⟨command, f, hhears, htag⟩
  · rintro ⟨command, f, hhears, htag⟩
    exact ⟨command, f, [], .ack, hhears, amounts_ack_iff.2 ⟨rfl, h command hhears.1, htag⟩, rfl⟩

/-- An order succeeds exactly when its request is told. -/
lemma give_eq_ok_iff (order : Order) :
    (order.give.run client).1 = .ok () ↔ ((tell order.request).run client).1 = .ok () := by
  cases order with
  | start length now =>
    change ((startRun length now).run client).1 = _ ↔ ((tell (Command.make .measure
      "START".toList)).run client).1 = _
    rcases hrun : (tell (Command.make .measure "START".toList)).run client with ⟨e | u, after⟩
    · rw [startRun, Call.run_bind_of_error hrun]
    · rw [startRun, Call.run_bind_of_ok hrun]
      simp [Call.update, Call.run]
  | _ => exact Iff.rfl

/-- **A call answers only what belongs to it.**  The value of a setting is answered exactly when the
first frame that reaches the client then is a value with the word of this setting that shows it, a
status when it is data with the word of a status, and a list when the first frames amount to it and
the first of them has the tag and the word of the list.  An order is carried out exactly when its
arguments are valid, its command is written and the first frame accepts it.  The arguments are valid
when the names in them are tokens, and a command is written when the session is connected and its
link takes the bytes of the command and sends them on.  Every call that does not answer fails, and
leaves the tracker alone. -/
theorem answers_belong (client : Client L) :
    (∀ key value, ((timing key).run client).1 = .ok value ↔
      client.HearsValue key.word (.timing key value)) ∧
    (∀ value, (filePrefix.run client).1 = .ok value ↔
      client.HearsValue "PREFIX".toList (.filePrefix value)) ∧
    (∀ count, (autosave.run client).1 = .ok count ↔
      client.HearsValue "AUTOSAVE".toList (.autosave count)) ∧
    (∀ value, (monitor.run client).1 = .ok value ↔
      client.HearsValue "MONITOR".toList (.monitor value)) ∧
    (∀ list, (agents.run client).1 = .ok list ↔
      client.HearsList (Command.make .get "AGENTS".toList) .agents (.agents list)) ∧
    (∀ text, (status.run client).1 = .ok text ↔
      ∃ command f, client.Hears (Command.make .measure "STATUS".toList) command [f] ∧
        f.tag = .measurement ∧ f.key = "STATUS".toList ∧ ShowsStatus f.payload text) ∧
    (∀ list, (measurements.run client).1 = .ok list ↔
      client.HearsList (Command.make .measure "LST".toList) .measurements (.measurements list)) ∧
    (∀ id cumulative lines, ((statistics id cumulative).run client).1 = .ok lines ↔
      (∃ line, lines = [line] ∧
        client.HearsList (statisticsRequest id cumulative) .statistics (.statistics line)) ∨
        client.HearsList (statisticsRequest id cumulative) .statistics (.statisticsList lines)) ∧
    (∀ order : Order, (order.give.run client).1 = .ok () ↔
      ∃ command f, client.Hears order.request command [f] ∧ f.tag = .accepted) ∧
    (∀ order : Order, (∃ command, order.request = .ok command) ↔ order.IsValid) ∧
    (∀ command after, (Session.send command).run client.session = (.ok (), after) ↔
      client.session.connected = true ∧ ∃ written,
        Link.write command.encode client.session.link = (.ok (), written) ∧
        Link.flush written = (.ok (), after.link) ∧
        after = { client.session with link := after.link }) ∧
    ∀ call : ClientCall, (∃ answer, (call.perform.run client).1 = .ok answer) ∨
      ∃ e, (call.perform.run client).1 = .error e ∧
        (call.perform.run client).2.tracker = client.tracker := by
  refine ⟨fun key value => ?_, fun value => ?_, fun count => ?_, fun value => ?_, fun list => ?_,
    fun text => status_eq_ok_iff, fun list => ?_, fun id cumulative lines => statistics_eq_ok_iff,
    fun order => ?_, Order.exists_request_iff, fun command after => Session.send_eq_ok_iff,
    fun call => ?_⟩
  · refine ask_eq_ok_iff_hearsValue (fun reply => ?_) rfl (by cases key <;> decide)
    cases reply <;> simp
  · refine ask_eq_ok_iff_hearsValue (fun reply => ?_) rfl (by decide)
    cases reply <;> simp
  · refine ask_eq_ok_iff_hearsValue (fun reply => ?_) rfl (by decide)
    cases reply <;> simp
  · refine ask_eq_ok_iff_hearsValue (fun reply => ?_) rfl (by decide)
    cases reply <;> simp
  · refine ask_eq_ok_iff_hearsList_of_eq (fun reply => ?_) rfl
    cases reply <;> simp
  · refine ask_eq_ok_iff_hearsList_of_eq (fun reply => ?_) rfl
    cases reply <;> simp
  · rw [give_eq_ok_iff]
    exact tell_eq_ok_iff fun command h => Order.verb_of_request h
  · have htracks := ClientStep.tracks_perform (.call call) client
    change ClientStep.Tracks _ (call.perform.run client).1 _
      (call.perform.run client).2.tracker at htracks
    cases hresult : (call.perform.run client).1 with
    | ok answer => exact Or.inl ⟨answer, rfl⟩
    | error e => exact Or.inr ⟨e, rfl, (hresult ▸ htracks).eq_of_error⟩

end Client

end TimingBoard
