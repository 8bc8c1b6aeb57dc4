import TimingBoard.Board.Connection
import TimingBoard.Proofs.Time.Seconds
import TimingBoard.Tool.Connect

/-!
# Timeouts that a connection can use

A connection waits for replies as long as its settings say, and a link does not take a wait of no
time.  The tool has the wait from an option, or from the settings file, or it is the standard one.

The option must be a positive number of seconds.  This is looked at before the number is rounded to
nanoseconds, so that no time comes of a number that is at most half a nanosecond.  The number in a
file must only not be negative.  A file can therefore ask for no time with a zero as well, and this
is the only difference between the two.
-/

namespace TimingBoard

namespace Binary64

variable {x : Binary64}

/-- A number is above zero if it is not negative and not one of the two zeros. -/
lemma zero_lt_finite_iff {negative : Bool} {units : Nat} :
    zero.lt (.finite negative units) = true ↔ (negative = true → units = 0) ∧ units ≠ 0 := by
  cases negative
  · simp [lt, rank?, zero, Nat.pos_iff_ne_zero]
  · simp [lt, rank?, zero]

end Binary64

namespace ConnectionSettings

variable {contents : Bytes} {s : ConnectionSettings} {x : Binary64}

/-- A settings file gives a number of seconds for the timeout. -/
def GivesTimeout (contents : Bytes) (x : Binary64) : Prop :=
  ∃ t j view value, Text.ofUtf8? contents = some t ∧ Json.read? t = some j ∧
    j.record? ["host", "port", "poll_interval", "response_timeout"] = some view ∧
    view.values[3]? = some (some value) ∧ value.binary64? = some x

/-- The timeout of settings from a file is the number of seconds that the file gives, or the
standard one if it gives none. -/
lemma responseTimeout_of_ofFile? (h : ofFile? contents = some s) :
    (∀ x, GivesTimeout contents x → Span.ofBinary64 x = .ok s.responseTimeout) ∧
      ((∀ x, ¬ GivesTimeout contents x) → s.responseTimeout = standard.responseTimeout) := by
  simp only [ofFile?, Json.ofFile?, ofJson?, bind, Option.bind_eq_some_iff] at h
  obtain ⟨t, ht, j, hj, view, hview, hs⟩ := h
  split at hs
  · next host port pollInterval responseTimeout hvalues =>
    simp only [Option.bind_eq_some_iff] at hs
    obtain ⟨_, -, _, -, _, -, wait, hwait, heq⟩ := hs
    have hresponse : s.responseTimeout = wait := by rw [← Option.some.inj heq]
    rw [hresponse]
    cases responseTimeout with
    | none =>
      refine ⟨?_, fun _ => (Option.some.inj hwait).symm⟩
      rintro x ⟨t', j', view', value, ht', hj', hview', hvalue, -⟩
      obtain rfl := Option.some.inj (ht.symm.trans ht')
      obtain rfl := Option.some.inj (hj.symm.trans hj')
      obtain rfl := Option.some.inj (hview.symm.trans hview')
      simp [hvalues] at hvalue
    | some value =>
      have hread : Span.ofJson? value = some wait := hwait
      simp only [Span.ofJson?, bind, Option.bind_eq_some_iff] at hread
      obtain ⟨y, hy, hspan⟩ := hread
      have hgives : GivesTimeout contents y :=
        ⟨t, j, view, value, ht, hj, hview, by simp [hvalues], hy⟩
      refine ⟨?_, fun hnone => absurd hgives (hnone y)⟩
      rintro x ⟨t', j', view', value', ht', hj', hview', hvalue, hx⟩
      obtain rfl := Option.some.inj (ht.symm.trans ht')
      obtain rfl := Option.some.inj (hj.symm.trans hj')
      obtain rfl := Option.some.inj (hview.symm.trans hview')
      obtain rfl : value = value' := by simpa [hvalues] using hvalue
      obtain rfl := Option.some.inj (hy.symm.trans hx)
      split at hspan
      · next hok => rw [hok, Option.some.inj hspan]
      · cases hspan
  · cases hs

end ConnectionSettings

namespace Tool

variable {x : Binary64} {wait : Span} {i : Invocation} {contents : Option Bytes}
  {s : ConnectionSettings}

/-! ## Waits that are asked for -/

/-- An option is taken for a wait like a number in a file, but for the two zeros. -/
lemma timeoutOf_eq_ok_iff :
    timeoutOf x = .ok wait ↔ Span.ofBinary64 x = .ok wait ∧ ¬ x.IsZero := by
  unfold timeoutOf
  constructor
  · intro h
    split at h
    · next hpositive =>
      cases hspan : Span.ofBinary64 x with
      | error fault => simp [hspan, Except.mapError] at h
      | ok span =>
        refine ⟨by simpa [hspan, Except.mapError] using h, ?_⟩
        rintro ⟨negative, rfl⟩
        exact (Binary64.zero_lt_finite_iff.1 hpositive).2 rfl
    · cases h
  · rintro ⟨hspan, hnot⟩
    obtain ⟨negative, units, rfl, hsign, -⟩ := Span.ofBinary64_eq_ok_iff.1 hspan
    have hunits : units ≠ 0 := by
      rintro rfl
      exact hnot ⟨negative, rfl⟩
    rw [if_pos (Binary64.zero_lt_finite_iff.2 ⟨hsign, hunits⟩), hspan]
    rfl

/-- An invocation asks for a timeout of a number of seconds: by its option, or by its settings file
if it has no such option. -/
inductive Invocation.AsksFor (i : Invocation) (contents : Option Bytes) (x : Binary64) : Prop
  | option : i.timeout = some x → AsksFor i contents x
  | file {path : Text} {bytes : Bytes} : i.timeout = none → i.config = some path →
      contents = some bytes → ConnectionSettings.GivesTimeout bytes x → AsksFor i contents x

/-- The options leave the timeout alone unless one of them is about it. -/
lemma Invocation.over_eq_ok {base : ConnectionSettings} (h : i.over base = .ok s) :
    (i.timeout = none ∧ s.responseTimeout = base.responseTimeout) ∨
      ∃ x, i.timeout = some x ∧ timeoutOf x = .ok s.responseTimeout := by
  unfold Invocation.over at h
  cases htimeout : i.timeout with
  | none =>
    rw [htimeout] at h
    refine .inl ⟨rfl, ?_⟩
    rw [← Except.ok.inj h]
  | some x =>
    rw [htimeout] at h
    cases hwait : timeoutOf x with
    | error failure =>
      simp only [hwait] at h
      cases h
    | ok wait =>
      simp only [hwait] at h
      refine .inr ⟨x, rfl, ?_⟩
      rw [← Except.ok.inj h]
      exact hwait

/-- The settings of a file are read from its contents. -/
lemma settingsOf_eq_ok {path : Text} (h : settingsOf path contents = .ok s) :
    ∃ bytes, contents = some bytes ∧ ConnectionSettings.ofFile? bytes = some s := by
  unfold settingsOf at h
  split at h
  · next settings hread =>
    obtain rfl := Except.ok.inj h
    exact Option.bind_eq_some_iff.1 hread
  · cases h

/-- The timeout of an invocation is the number of seconds that it asks for, or the standard one. -/
lemma Invocation.responseTimeout_of_settings (h : i.settings contents = .ok s) :
    (∀ x, i.AsksFor contents x → Span.ofBinary64 x = .ok s.responseTimeout ∧
      (i.timeout = some x → ¬ x.IsZero)) ∧
    ((∀ x, ¬ i.AsksFor contents x) →
      s.responseTimeout = ConnectionSettings.standard.responseTimeout) := by
  -- Either the file is read first, or the standard settings are taken.
  obtain ⟨base, hbase, hover⟩ : ∃ base, (i.config = none ∧ base = .standard ∨
      ∃ path bytes, i.config = some path ∧ contents = some bytes ∧
        ConnectionSettings.ofFile? bytes = some base) ∧ i.over base = .ok s := by
    unfold settings at h
    cases hconfig : i.config with
    | none => exact ⟨_, .inl ⟨rfl, rfl⟩, by simpa only [hconfig] using h⟩
    | some path =>
      simp only [hconfig] at h
      cases hfile : settingsOf path contents with
      | error failure =>
        rw [hfile] at h
        cases h
      | ok base =>
        obtain ⟨bytes, hbytes, hread⟩ := settingsOf_eq_ok hfile
        rw [hfile] at h
        exact ⟨base, .inr ⟨path, bytes, rfl, hbytes, hread⟩, h⟩
  rcases over_eq_ok hover with ⟨hoption, hsame⟩ | ⟨y, hoption, hwait⟩
  · rw [hsame]
    rcases hbase with ⟨hconfig, rfl⟩ | ⟨path, bytes, hconfig, rfl, hread⟩
    · refine ⟨fun x hasks => ?_, fun _ => rfl⟩
      cases hasks with
      | option hsome => simp [hoption] at hsome
      | file _ hsome _ _ => simp [hconfig] at hsome
    · obtain ⟨hgiven, hnone⟩ := ConnectionSettings.responseTimeout_of_ofFile? hread
      refine ⟨fun x hasks => ?_, fun hasks => hnone fun x hgives => ?_⟩
      · refine ⟨?_, fun hsome => by simp [hoption] at hsome⟩
        cases hasks with
        | option hsome => simp [hoption] at hsome
        | file _ _ hbytes hgives =>
          obtain rfl := Option.some.inj hbytes
          exact hgiven x hgives
      · exact hasks x (.file hoption hconfig rfl hgives)
  · obtain ⟨hspan, hzero⟩ := timeoutOf_eq_ok_iff.1 hwait
    refine ⟨fun x hasks => ?_, fun hasks => absurd (.option hoption) (hasks y)⟩
    cases hasks with
    | option hsome =>
      obtain rfl := Option.some.inj (hoption.symm.trans hsome)
      exact ⟨hspan, fun _ => hzero⟩
    | file hnone _ _ _ => simp [hoption] at hnone

/-! ## Waits that a link takes -/

variable {L : Type} [Link L]

/-- A link takes every wait but that of no time. -/
def RefusesNoTime (L : Type) [Link L] : Prop :=
  ∀ (wait : Span) (link : L), (∃ link', Link.setWait wait link = (.ok (), link')) ↔ wait ≠ .zero

lemma refusesNoTime_connection : RefusesNoTime Connection := by
  intro wait link
  have hzero : wait = .zero ↔ wait.nanos = 0 := Span.eq_zero_iff
  change (∃ link', Connection.setWait wait link = _) ↔ _
  rw [Connection.setWait, ne_eq, hzero]
  split <;> simp_all

/-- A client waits as the settings say exactly if they say to wait. -/
lemma exists_clientOf_iff (h : RefusesNoTime L) (link : L) :
    (∃ client, clientOf s link = .ok client) ↔ s.responseTimeout ≠ .zero := by
  obtain ⟨started, hstart⟩ := (h Session.defaultWait link).2 (by decide)
  have hsession : Session.start link =
      .ok ⟨started, .empty, Session.defaultWait, true, .empty⟩ := by
    rw [Session.start, hstart]
  rw [← h s.responseTimeout started]
  rcases hset : Link.setWait s.responseTimeout started with ⟨fault | ⟨⟩, link'⟩
  · simp [clientOf, hsession, Session.setWait, Call.run, hset, bind, Except.bind]
  · simp only [clientOf, hsession, Session.setWait, Call.run, hset, bind, Except.bind]
    exact iff_of_true ⟨_, rfl⟩ ⟨_, rfl⟩

/-! ## Which settings can be used -/

/-- **When settings that are accepted can be used.**  The settings of an invocation, with any
settings file, have no time for a timeout exactly if the invocation asks for a number of seconds
that is at most half a nanosecond; and over a link that refuses nothing else, a client can be had
exactly if they do not.  An option and a file are taken for the same numbers and the same waits, but
for the two zeros: the option refuses them, and the file does not.  A number above zero is refused
as too long, or taken for a wait, which is no time exactly if the number is at most half a
nanosecond. -/
theorem isUsable_iff (h : i.settings contents = .ok s) :
    (s.responseTimeout = .zero ↔ ∃ x, i.AsksFor contents x ∧ x.IsNoTime) ∧
    (∀ (L : Type) [Link L], RefusesNoTime L → ∀ link : L,
      (∃ client, clientOf s link = .ok client) ↔ ∀ x, i.AsksFor contents x → ¬ x.IsNoTime) ∧
    (∀ x, i.AsksFor contents x →
      Span.ofBinary64 x = .ok s.responseTimeout ∧ (i.timeout = some x → ¬ x.IsZero)) ∧
    (∀ x wait, timeoutOf x = .ok wait ↔ Span.ofBinary64 x = .ok wait ∧ ¬ x.IsZero) ∧
    ∀ x wait, Span.ofBinary64 x = .ok wait → (wait = .zero ↔ x.IsNoTime) := by
  obtain ⟨hasked, hstandard⟩ := i.responseTimeout_of_settings h
  have hzero : s.responseTimeout = .zero ↔ ∃ x, i.AsksFor contents x ∧ x.IsNoTime := by
    constructor
    · intro hnone
      by_contra hnot
      by_cases hasks : ∃ x, i.AsksFor contents x
      · obtain ⟨x, hx⟩ := hasks
        exact hnot ⟨x, hx, (Span.eq_zero_iff_of_ofBinary64 (hasked x hx).1).1 hnone⟩
      · rw [hstandard (not_exists.1 hasks)] at hnone
        exact absurd hnone (by decide)
    · rintro ⟨x, hx, htiny⟩
      exact (Span.eq_zero_iff_of_ofBinary64 (hasked x hx).1).2 htiny
  refine ⟨hzero, fun L _ hrefuses link => ?_, hasked, fun x wait => timeoutOf_eq_ok_iff,
    fun x wait hwait => Span.eq_zero_iff_of_ofBinary64 hwait⟩
  rw [exists_clientOf_iff hrefuses, ne_eq, hzero, not_exists]
  exact forall_congr' fun x => not_and

/-- With an option of half a second a client of a board is had. -/
theorem isUsable_iff_halfSecond :
    let half : Invocation := ⟨none, none, none, Binary64.read? "0.5".toList, .status⟩
    ∃ s, half.settings none = .ok s ∧ s.responseTimeout = .ofMillis 500 ∧
      ∀ link : Connection, ∃ client, clientOf s link = .ok client := by
  intro half
  let s : ConnectionSettings :=
    { ConnectionSettings.standard with responseTimeout := .ofMillis 500 }
  have hsettings : half.settings none = .ok s := by decide +kernel
  obtain ⟨hzero, hclient, -⟩ := isUsable_iff hsettings
  have hsome : s.responseTimeout ≠ .zero := by decide
  refine ⟨s, hsettings, rfl, fun link => ?_⟩
  exact (hclient Connection refusesNoTime_connection link).2 fun x hasks htiny =>
    hsome (hzero.2 ⟨x, hasks, htiny⟩)

/-- An option of a tenth of a nanosecond and a zero in a file are accepted, and no client waits like
this. The same zero is refused as an option. -/
theorem not_isUsable_tenthOfNanosecond :
    let tenth := Binary64.ofDecimal false 1 (-10)
    let option : Invocation := ⟨none, none, none, some tenth, .status⟩
    let file : Invocation := ⟨some "s.json".toList, none, none, none, .status⟩
    let contents := Text.toUtf8 "\x7b\"response_timeout\":0\x7d".toList
    let s : ConnectionSettings := { ConnectionSettings.standard with responseTimeout := .zero }
    Binary64.zero.lt tenth = true ∧ option.settings none = .ok s ∧
      file.settings (some contents) = .ok s ∧ timeoutOf .zero = .error .timeoutNotPositive ∧
      ∀ link : Connection, clientOf s link = .error (.network Connection.emptyWait) := by
  intro tenth option file contents s
  exact ⟨by decide +kernel, by decide +kernel, by decide +kernel, by decide +kernel,
    fun link => rfl⟩

end Tool

end TimingBoard
