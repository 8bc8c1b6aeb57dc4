import TimingBoard.Proofs.Board.Measuring
import TimingBoard.Proofs.Client.Calls
import TimingBoard.Proofs.Reply.Alike

/-!
# Calls that meet with numbers of starts

A call of a client asks the same commands whatever the numbers of starts in the replies are.  It
takes them over into what it answers, and that is all.  A table goes through a list of measurements,
but it asks for them by their places, which are the same.

The tracker of a client is not asked by any call of a user, so that two clients may have different
ones.
-/

namespace TimingBoard

variable {α β : Type} {twin : UInt32 → UInt32 → Prop} {V : α → α → Prop} {W : β → β → Prop}

/-! ## Dialogues -/

namespace Dialogue

/-- Dialogues that ask the same, as long as the replies differ in nothing but numbers of starts, and
end in the same way.  What they see of the tracker makes no difference. -/
inductive Alike (twin : UInt32 → UInt32 → Prop) (V : α → α → Prop) : Dialogue α → Dialogue α → Prop
  | stop {result result' : Except Error α} : ResultsAlike V result result' →
      Alike twin V (stop result) (stop result')
  | ask {c : Command} {silent : Bool} {next next' : Reply → Dialogue α} :
      (∀ reply reply', reply.Alike twin c reply' → Alike twin V (next reply) (next' reply')) →
      Alike twin V (ask c silent next) (ask c silent next')
  | track {change : RunTracker → RunTracker} {next next' : RunTracker → Dialogue α} :
      (∀ tracker tracker', Alike twin V (next tracker) (next' tracker')) →
      Alike twin V (track change next) (track change next')

variable {d d' : Dialogue α}

lemma Alike.bind {f f' : α → Dialogue β} (h : d.Alike twin V d')
    (hf : ∀ a a', V a a' → (f a).Alike twin W (f' a')) :
    (d >>= f).Alike twin W (d' >>= f') := by
  change (d.andThen f).Alike twin W (d'.andThen f')
  induction h with
  | stop hresults =>
    cases hresults with
    | ok hvalues => exact hf _ _ hvalues
    | error e => exact .stop (.error e)
  | ask hnext ih => exact .ask fun reply reply' hreplies => ih reply reply' hreplies
  | track hnext ih => exact .track fun tracker tracker' => ih tracker tracker'

lemma Alike.map {f f' : α → β} (h : d.Alike twin V d') (hf : ∀ a a', V a a' → W (f a) (f' a')) :
    (f <$> d).Alike twin W (f' <$> d') :=
  h.bind fun a a' hvalues => .stop (.ok (hf a a' hvalues))

/-- A request is alike if the replies to its command are the same or of the right kind. -/
lemma alike_askFor [Std.Refl V] {request : Except Refusal Command} {silent : Bool}
    {kind : Reply → Option α}
    (h : ∀ c, request = .ok c → ∀ reply reply', reply.Alike twin c reply' →
      reply = reply' ∨ ∃ a a', kind reply = some a ∧ kind reply' = some a' ∧ V a a') :
    (askFor request silent kind).Alike twin V (askFor request silent kind) := by
  cases request with
  | error cause => exact .stop (.error _)
  | ok c =>
    refine .ask fun reply reply' hreplies => ?_
    obtain rfl | ⟨a, a', hkind, hkind', hvalues⟩ := h c rfl reply reply' hreplies
    · cases hkind : kind reply with
      | some a => exact .stop (.ok (Std.Refl.refl a))
      | none => exact .stop (.error _)
    · simp only [hkind, hkind']
      exact .stop (.ok hvalues)

end Dialogue

/-! ## Requests -/

namespace Command

/-- The keys of the commands whose replies tell numbers of starts. -/
def startsKeys : List Text := ["LST".toList, "LIST".toList, "STAT".toList]

variable {c : Command} {key value : Text} {keys : List Text}

lemma not_asksFor_of_verb (h : c.verb ≠ .measure) : ¬ c.AsksFor keys :=
  fun hasks => h hasks.verb

lemma MeasuresWith.not_asksFor (h : c.MeasuresWith key value) (hkey : key ∉ keys) :
    ¬ c.AsksFor keys := by
  intro hasks
  have hmem := hasks.key_mem
  rw [h.cut] at hmem
  exact hkey hmem

end Command

/-- The replies to a command that does not ask for starts are the same. -/
lemma Reply.Alike.eq_of_not_asksFor {c : Command} {reply reply' : Reply}
    (h : reply.Alike twin c reply') (hc : ¬ c.AsksFor Command.startsKeys) : reply = reply' := by
  cases h with
  | same => rfl
  | measurements hasks =>
    exact absurd ⟨hasks.verb, List.mem_append_left [_] hasks.key_mem⟩ hc
  | statistics hasks =>
    exact absurd ⟨hasks.verb, List.mem_append_right [_, _] hasks.key_mem⟩ hc

namespace Dialogue

/-- A request that does not ask for starts. -/
lemma alike_askFor_of_not_asksFor [Std.Refl V] {request : Except Refusal Command} {silent : Bool}
    {kind : Reply → Option α} (h : ∀ c, request = .ok c → ¬ c.AsksFor Command.startsKeys) :
    (askFor request silent kind).Alike twin V (askFor request silent kind) :=
  alike_askFor fun c hc _ _ hreplies => Or.inl (hreplies.eq_of_not_asksFor (h c hc))

lemma alike_get [Std.Refl V] {key : Text} {silent : Bool} {kind : Reply → Option α} :
    (askFor (Command.make .get key) silent kind).Alike twin V
      (askFor (Command.make .get key) silent kind) :=
  alike_askFor_of_not_asksFor fun c hc => Command.not_asksFor_of_verb (by
    simp [(Command.make_eq_ok hc).1])

lemma alike_change (setting : Setting) :
    (tell setting.request).Alike twin Eq (tell setting.request) :=
  alike_askFor_of_not_asksFor fun c hc => Command.not_asksFor_of_verb (by
    simp [Setting.verb_of_request hc])

/-- A request about measurements with a key that does not ask for starts. -/
lemma alike_measure [Std.Refl V] {request : Except Refusal Command} {silent : Bool}
    {kind : Reply → Option α} {key value : Text}
    (h : ∃ c, request = .ok c ∧ c.MeasuresWith key value) (hkey : key ∉ Command.startsKeys) :
    (askFor request silent kind).Alike twin V (askFor request silent kind) := by
  obtain ⟨c, hmake, hc⟩ := h
  refine alike_askFor_of_not_asksFor fun c' hc' => ?_
  obtain rfl : c = c' := Except.ok.inj (hmake.symm.trans hc')
  exact hc.not_asksFor hkey

lemma alike_makeChanges (changes : List Setting) :
    (makeChanges changes).Alike twin Eq (makeChanges changes) := by
  induction changes with
  | nil => exact .stop (.ok rfl)
  | cons change rest ih => exact (alike_change change).bind fun _ _ _ => ih

lemma alike_read : read.Alike twin Eq read := by
  have hget {γ : Type} {key : Text} {kind : Reply → Option γ} :
      (askFor (Command.make .get key) false kind).Alike twin Eq
        (askFor (Command.make .get key) false kind) := alike_get
  refine hget.bind ?_
  rintro totalTime - rfl
  refine hget.bind ?_
  rintro windowTime - rfl
  refine hget.bind ?_
  rintro deadtime - rfl
  refine hget.bind ?_
  rintro name - rfl
  refine hget.bind ?_
  rintro count - rfl
  refine hget.map ?_
  rintro monitor - rfl
  rfl

/-! ## Measurements -/

variable [Std.Refl twin]

lemma alike_measurements :
    measurements.Alike twin (List.Forall₂ (Measurement.Alike twin)) measurements := by
  obtain ⟨c, hmake, hc⟩ := Command.exists_measures_word "LST".toList (by decide)
  have := (⟨List.forall₂_refl⟩ : Std.Refl (List.Forall₂ (Measurement.Alike twin)))
  refine alike_askFor fun c' hc' reply reply' hreplies => ?_
  obtain rfl : c = c' := Except.ok.inj (hmake.symm.trans hc')
  cases hreplies with
  | same => exact Or.inl rfl
  | measurements hasks hlists => exact Or.inr ⟨_, _, rfl, rfl, hlists⟩
  | statistics hasks => exact absurd hasks (hc.not_asksFor (by decide))

omit [Std.Refl twin] in
lemma alike_statistics (id : UInt32) (cumulative : Bool) :
    (statistics id cumulative).Alike twin (List.Forall₂ (Statistics.Alike twin))
      (statistics id cumulative) := by
  obtain ⟨c, hmake, hc⟩ := Client.exists_statisticsRequest id cumulative
  have := (⟨List.forall₂_refl⟩ : Std.Refl (List.Forall₂ (Statistics.Alike twin)))
  refine alike_askFor fun c' hc' reply reply' hreplies => ?_
  obtain rfl : c = c' := Except.ok.inj (hmake.symm.trans hc')
  cases hreplies with
  | same => exact Or.inl rfl
  | measurements hasks => exact absurd hasks (hc.not_asksFor (by decide))
  | statistics hasks hlines => exact Or.inr ⟨_, _, rfl, rfl, .cons hlines .nil⟩

end Dialogue

/-- Rows of a table with measurements and statistics alike. -/
structure RowsAlike (twin : UInt32 → UInt32 → Prop) (row row' : Measurement × Statistics) :
    Prop where
  measurement : row.1.Alike twin row'.1
  statistics : row.2.Alike twin row'.2

/-- Answers that differ in nothing but numbers of starts. -/
inductive Answer.Alike (twin : UInt32 → UInt32 → Prop) : Answer → Answer → Prop
  | same (answer : Answer) : Answer.Alike twin answer answer
  | measurements {list list' : List Measurement} :
      List.Forall₂ (Measurement.Alike twin) list list' →
      Answer.Alike twin (.measurements list) (.measurements list')
  | statistics {lines lines' : List Statistics} :
      List.Forall₂ (Statistics.Alike twin) lines lines' →
      Answer.Alike twin (.statistics lines) (.statistics lines')
  | table {rows rows' : List (Measurement × Statistics)} :
      List.Forall₂ (RowsAlike twin) rows rows' →
      Answer.Alike twin (.table rows) (.table rows')

namespace Dialogue

/-- Tables of lists alike have rows alike. -/
lemma alike_withStatistics {list list' : List Measurement}
    (h : List.Forall₂ (Measurement.Alike twin) list list') :
    (withStatistics list).Alike twin (List.Forall₂ (RowsAlike twin)) (withStatistics list') := by
  induction h with
  | nil => exact .stop (.ok .nil)
  | @cons m m' rest rest' hfirst hrest ih =>
    rw [withStatistics, withStatistics, hfirst.id]
    refine (alike_statistics m.id true).bind fun lines lines' hlines => ?_
    refine ih.map fun rows rows' hrows => .cons ⟨hfirst, ?_⟩ hrows
    cases hlines with
    | nil => exact .same .zero
    | cons hline _ => exact hline

end Dialogue

/-! ## Calls -/

namespace ClientCall

open Dialogue

/-- A call of a user asks the same whatever the numbers of starts are. -/
theorem alike_dialogue [Std.Refl twin] {call : ClientCall} (htyped : call.IsTyped)
    (huser : call.isPoll = false) : call.dialogue.Alike twin (Answer.Alike twin) call.dialogue := by
  have hsame {γ : Type} {d : Dialogue γ} (f : γ → Answer) (hd : d.Alike twin Eq d) :
      (f <$> d).Alike twin (Answer.Alike twin) (f <$> d) :=
    hd.map fun a a' (heq : a = a') => heq ▸ .same (f a)
  have hword {γ : Type} (key : Text) {kind : Reply → Option γ}
      (hkey : Text.trim key = key ∧ key.any Text.isLineBreak = false ∧ ' ' ∉ key)
      (hplain : key ∉ Command.startsKeys) :
      (askFor (Command.make .measure key) false kind).Alike twin Eq
        (askFor (Command.make .measure key) false kind) :=
    alike_measure (Command.exists_measures_word key hkey) hplain
  cases call
  case raw typed => exact htyped.elim
  case pollStatus now => simp [isPoll] at huser
  case set setting => exact hsame _ (alike_change setting)
  case timing key => exact hsame _ alike_get
  case filePrefix => exact hsame _ alike_get
  case autosave => exact hsame _ alike_get
  case monitor => exact hsame _ alike_get
  case agents => exact hsame _ alike_get
  case startRun length now =>
    have hstart : (Dialogue.startRun length now).Alike twin Eq (Dialogue.startRun length now) :=
      (hword "START".toList (by decide) (by decide)).bind fun _ _ _ =>
        .track fun _ _ => .stop (.ok rfl)
    exact hsame _ hstart
  case stopRun => exact hsame _ (hword "STOP".toList (by decide) (by decide))
  case status => exact hsame _ (hword "STATUS".toList (by decide) (by decide))
  case measurements => exact alike_measurements.map fun _ _ hlists => .measurements hlists
  case statistics id cumulative =>
    exact (alike_statistics id cumulative).map fun _ _ hlines => .statistics hlines
  case table =>
    exact (alike_measurements.bind fun _ _ hlists => alike_withStatistics hlists).map
      fun _ _ hrows => .table hrows
  case save id file =>
    have hsave : (Dialogue.tell (Client.saveRequest id file)).Alike twin Eq
        (Dialogue.tell (Client.saveRequest id file)) := by
      cases hfile : Token.isToken file with
      | true => exact alike_measure (Client.exists_saveRequest id hfile) (by decide)
      | false =>
        obtain ⟨cause, hrefused⟩ := Client.saveRequest_of_not_token id hfile
        rw [hrefused]
        exact .stop (.error _)
    exact hsame _ hsave
  case delete id => exact hsame _ (alike_measure (Client.exists_deleteRequest id) (by decide))
  case clear => exact hsame _ (hword "CLR".toList (by decide) (by decide))
  case write configuration =>
    have hcheck : (ofRequest configuration.check).Alike twin Eq (ofRequest configuration.check) :=
      .stop (Std.Refl.refl _)
    exact hsame _ (hcheck.bind fun _ _ _ => alike_makeChanges configuration.plan)
  case read => exact hsame _ alike_read

end ClientCall

end TimingBoard
