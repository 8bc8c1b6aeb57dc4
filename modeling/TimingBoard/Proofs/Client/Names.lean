import TimingBoard.Proofs.Client.Asking
import TimingBoard.Proofs.Client.Restoring

/-!
# Names that come back

A file prefix and the file name of a monitor are names that the board must be able to tell from the
words around them, so that the client only sets tokens.  Every token arrives on the board as it was
sent, and comes back as it was stored, whatever else the board has been through.

One prefix is lost on its way back.  The board answers with the word `NONE` where it has no prefix,
and the client takes the word for that even where it was set.
-/

namespace TimingBoard

namespace Client

variable {client : Client Connection} {setting : Setting}

/-- A served client has the settings of its board. -/
lemma IsServed.hasSettings (h : client.IsServed) :
    client.HasSettings (fun _ => True) client.board client.board :=
  ⟨h.quiet, .refl _, .same rfl rfl, trivial, h.unmuted⟩

/-- A change that the board can make succeeds exactly if it is requested, and is made then. -/
lemma IsServed.set_of_isSettable (h : client.IsServed) (hsettable : setting.IsSettable) :
    (((set setting).run client).1 = .ok () ↔ ∃ command, setting.request = .ok command) ∧
    (((set setting).run client).1 = .ok () → ((set setting).run client).2.HasSettings
      (fun _ => True) client.board (setting.apply client.board)) := by
  have hsetsTotal : setting.SetsTotal fun _ => True := by
    unfold Setting.SetsTotal
    split <;> trivial
  refine ⟨⟨fun hset => ?_, ?_⟩, h.hasSettings.set hsettable.isMade hsetsTotal⟩
  · cases hrequest : setting.request with
    | ok command => exact ⟨command, rfl⟩
    | error cause =>
      rw [set, tell, ask_run_of_refused hrequest] at hset
      cases hset
  · rintro ⟨command, hrequest⟩
    exact h.hasSettings.set_eq_ok hrequest hsettable

/-- A name that is no token is refused, and the client and its board stay as they are. -/
lemma set_run_of_not_token {role : TokenRole} {value : Text} {request : Except Refusal Command}
    (hrequest : setting.request = Token.require role value >>= fun _ => request)
    (htoken : Token.isToken value = false) :
    (set setting).run client = (.error (.refused (.notAToken role value)), client) := by
  have hrefused : setting.request = .error (.notAToken role value) := by
    rw [hrequest, Token.require, if_neg (by simp [htoken])]
    rfl
  exact ask_run_of_refused hrefused

/-- **Names come back.**  A prefix and the file name of a monitor are set exactly if they are
tokens.  The board then has the name that was set.  The monitor that is read is the one that was
set, with both of its numbers.  The prefix that is read is the one that was set, unless it is the
word that stands for none.  A name that is no token is refused, and the client stays as it is, and
the board with it. -/
theorem names_of_set (h : client.IsServed) :
    (∀ value, let result := (set (.filePrefix value)).run client
      (result.1 = .ok () ↔ Token.isToken value = true) ∧
      (result.1 = .ok () → result.2.board.filePrefix = value ∧
        (filePrefix.run result.2).1 = .ok (if value = "NONE".toList then [] else value)) ∧
      (Token.isToken value = false →
        result = (.error (.refused (.notAToken .filePrefix value)), client) ∧
          result.2.board = client.board)) ∧
    (∀ m : Monitor, let result := (set (.monitor (some m))).run client
      (result.1 = .ok () ↔ Token.isToken m.filename = true) ∧
      (result.1 = .ok () → result.2.board.monitor = some m ∧
        (monitor.run result.2).1 = .ok m) ∧
      (Token.isToken m.filename = false →
        result = (.error (.refused (.notAToken .monitorFile m.filename)), client) ∧
          result.2.board = client.board)) := by
  constructor
  · intro value result
    have hsettable : (Setting.filePrefix value).IsSettable := trivial
    obtain ⟨hrequest, hmade⟩ := h.set_of_isSettable hsettable
    rw [Setting.exists_request_filePrefix] at hrequest
    refine ⟨hrequest, fun hset => ?_, fun hnot => ?_⟩
    · have hafter := hmade hset
      have htoken : Token.isToken value = true := hrequest.1 hset
      obtain ⟨client', hread, -⟩ := gets_filePrefix (Or.inr htoken) result.2 hafter
      exact ⟨hafter.settings.filePrefix, congrArg Prod.fst hread⟩
    · have hrefused : result = _ := set_run_of_not_token rfl hnot
      exact ⟨hrefused, by rw [hrefused]⟩
  · intro m result
    have hsettable : (Setting.monitor (some m)).IsSettable := trivial
    obtain ⟨hrequest, hmade⟩ := h.set_of_isSettable hsettable
    rw [Setting.exists_request_monitor] at hrequest
    refine ⟨hrequest, fun hset => ?_, fun hnot => ?_⟩
    · have hafter := hmade hset
      have htoken : ∀ m' ∈ some m, Token.isToken m'.filename = true := by
        simpa using hrequest.1 hset
      obtain ⟨client', hread, -⟩ := gets_monitor htoken result.2 hafter
      exact ⟨hafter.settings.monitor, congrArg Prod.fst hread⟩
    · have hrefused : result = _ := set_run_of_not_token rfl hnot
      exact ⟨hrefused, by rw [hrefused]⟩

/-- A client of a noisy board with a prefix of two lines and a run in progress. -/
def crowdedClient : Client Connection :=
  .ofSession ⟨⟨{ Board.atRest with
      filePrefix := "x\r\nMSR STATUS IDLE".toList, noisy := true, runningSince := some ⟨0⟩ },
    fun n => ⟨n * 7000000000⟩, [], [], fun _ => .whole⟩, .empty, Session.defaultWait, true, .empty⟩

/-- A path is set as a prefix and read back while the run ends by itself. Two words are refused. -/
theorem names_of_set_crowded : crowdedClient.IsServed ∧
    (let result := (set (.filePrefix "runs/a".toList)).run crowdedClient
    result.1 = .ok () ∧ result.2.board.filePrefix = "runs/a".toList ∧
      (filePrefix.run result.2).1 = .ok "runs/a".toList) ∧
    (set (.filePrefix "two words".toList)).run crowdedClient =
      (.error (.refused (.notAToken .filePrefix "two words".toList)), crowdedClient) := by
  have hserved : crowdedClient.IsServed := by
    refine ⟨?_, rfl⟩
    constructor <;> rfl
  have hnames := (names_of_set hserved).1
  obtain ⟨hset, hread, -⟩ := hnames "runs/a".toList
  have hok := hset.2 (by decide)
  exact ⟨hserved, ⟨hok, hread hok⟩, ((hnames "two words".toList).2.2 (by decide)).1⟩

/-- The word that stands for no prefix is set, and is read back as none. -/
theorem not_names_of_set_none :
    let result := (set (.filePrefix "NONE".toList)).run Configuration.restingClient
    Token.isToken "NONE".toList = true ∧ Configuration.restingClient.IsServed ∧
      result.1 = .ok () ∧ result.2.board.filePrefix = "NONE".toList ∧
      (filePrefix.run result.2).1 = .ok [] := by
  intro result
  refine ⟨by decide, ⟨?_, rfl⟩, by decide +kernel, by decide +kernel, by decide +kernel⟩
  constructor <;> rfl

end Client

end TimingBoard
