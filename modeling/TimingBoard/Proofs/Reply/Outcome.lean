import TimingBoard.Proofs.Reply.Lists

/-!
# The outcomes of a reply

A reply fails in three ways of its own: the board rejects the command, the frame cannot answer it,
or the payload is malformed.  Callers react to each of them differently, so that each is described
by an exact condition on the command and the first frame.  The only other way to fail is with the
source, while the frames of an announced list are taken.
-/

namespace TimingBoard

namespace Reply

variable {σ : Type} {next : Call σ Frame} {c : Command} {f : Frame} {s : σ} {l : Listing} {n : Nat}

/-! ## Failures of the frame and of the source -/

/-- A list is announced, and the source fails before it has handed out all of its frames. -/
def SourceFails (next : Call σ Frame) (c : Command) (f : Frame) (s : σ) (e : Error) : Prop :=
  ∃ l n k u, Announces c f l n ∧ k < n ∧ FailsAfter next s k e u

/-- The reply fails by what its first frame says, and not with the source. -/
def FailsByFrame (next : Call σ Frame) (c : Command) (f : Frame) (s : σ) (e : Error) : Prop :=
  ((decode next c f).run s).1 = .error e ∧ ¬ SourceFails next c f s e

/-- What a first frame and the frames after it amount to: the frame decides the reply alone, or it
announces the others as a list. -/
inductive Amounts (c : Command) (f : Frame) : List Frame → Reply → Prop
  | alone {reply : Reply} : Judges c f (.ok reply) → Amounts c f [] reply
  | list {l : Listing} {n : Nat} {frames : List Frame} {reply : Reply} : Announces c f l n →
      frames.length = n → l.Reads frames reply → Amounts c f frames reply

/-- A frame that fails the reply announces no list. -/
lemma Judges.not_announces {e : Error} (h : Judges c f (.error e)) : ¬ Announces c f l n := by
  intro hannounces
  -- A list is read from a source that is not asked, and fails with a source that gives up.
  let source : Call Unit Frame := Call.fail .timeout
  have hdecode : (decode source c f).run () = (.error e, ()) := by
    rw [h.decode_eq source, Call.run_ofExcept]
  cases n with
  | zero =>
    have hrun : (decode source c f).run () = (.ok (l.reply []), ()) :=
      hannounces.decode_run rfl (.nil ())
    simp [hrun] at hdecode
  | succ n =>
    have hrun : (decode source c f).run () = (.error .timeout, ()) :=
      hannounces.decode_run_of_failsAfter (Nat.succ_pos n) ⟨[], (), rfl, .nil (), rfl⟩
    obtain rfl : Error.timeout = e := by simpa [hrun] using hdecode
    cases h

/-- A reply fails by its first frame, is what the frames amount to that are handed out, or fails
with the source. -/
lemma decode_run_cases (next : Call σ Frame) (c : Command) (f : Frame) (s : σ) :
    (∃ e, ((decode next c f).run s).1 = .error e ∧ Judges c f (.error e)) ∨
      (∃ reply, ((decode next c f).run s).1 = .ok reply ∧
        ∃ frames t, Yields next s frames t ∧ Amounts c f frames reply) ∨
      ∃ e, ((decode next c f).run s).1 = .error e ∧ SourceFails next c f s e := by
  rcases judges_or_announces c f with ⟨e | reply, hjudges⟩ | ⟨l, n, hannounces⟩
  · exact Or.inl ⟨e, by rw [hjudges.decode_eq next, Call.run_ofExcept], hjudges⟩
  · exact Or.inr (Or.inl ⟨reply, by rw [hjudges.decode_eq next, Call.run_ofExcept], [], s, .nil s,
      .alone hjudges⟩)
  rcases yields_or_failsAfter next n s with ⟨frames, t, hlength, hyields⟩ | ⟨k, e, u, hk, hfails⟩
  · exact Or.inr (Or.inl ⟨l.reply frames, by rw [hannounces.decode_run hlength hyields], frames, t,
      hyields, .list hannounces hlength (Listing.reads_iff.2 rfl)⟩)
  · exact Or.inr (Or.inr ⟨e, by rw [hannounces.decode_run_of_failsAfter hk hfails], l, n, k, u,
      hannounces, hk, hfails⟩)

/-- The failures of a frame are the errors of the table. -/
lemma failsByFrame_iff {e : Error} : FailsByFrame next c f s e ↔ Judges c f (.error e) := by
  constructor
  · rintro ⟨hresult, hsource⟩
    rcases decode_run_cases next c f s with ⟨e', he', hjudges⟩ | ⟨reply, hreply, -⟩ |
      ⟨e', he', hfails⟩
    · obtain rfl : e = e' := by simpa [hresult] using he'
      exact hjudges
    · simp [hresult] at hreply
    · obtain rfl : e = e' := by simpa [hresult] using he'
      exact absurd hfails hsource
  · intro h
    refine ⟨by rw [h.decode_eq next, Call.run_ofExcept], ?_⟩
    rintro ⟨l, n, k, u, hannounces, -⟩
    exact h.not_announces hannounces

/-- The replies are what the frames amount to that are handed out. -/
lemma decode_run_eq_ok_iff {reply : Reply} : ((decode next c f).run s).1 = .ok reply ↔
    ∃ frames t, Yields next s frames t ∧ Amounts c f frames reply := by
  constructor
  · intro hresult
    rcases decode_run_cases next c f s with ⟨e, he, -⟩ | ⟨reply', hreply', hframes⟩ | ⟨e, he, -⟩
    · simp [hresult] at he
    · obtain rfl : reply = reply' := by simpa [hresult] using hreply'
      exact hframes
    · simp [hresult] at he
  · rintro ⟨frames, t, hyields, hamounts⟩
    cases hamounts with
    | alone hjudges => rw [hjudges.decode_eq next, Call.run_ofExcept]
    | list hannounces hlength hreads =>
      rw [hannounces.decode_run hlength hyields, Listing.reads_iff.1 hreads]

/-- A reply that no list amounts to is decided by the first frame. -/
lemma decode_run_eq_ok_iff_judges {reply : Reply} (h : ∀ l frames, ¬ Listing.Reads l frames reply) :
    ((decode next c f).run s).1 = .ok reply ↔ Judges c f (.ok reply) := by
  rw [decode_run_eq_ok_iff]
  constructor
  · rintro ⟨frames, t, -, hamounts⟩
    cases hamounts with
    | alone hjudges => exact hjudges
    | list _ _ hreads => exact absurd hreads (h _ _)
  · intro hjudges
    exact ⟨[], s, .nil s, .alone hjudges⟩

/-! ## The rows for each outcome -/

lemma judges_rejected_iff {command : Command} {reason : Text} :
    Judges c f (.error (.rejected command reason)) ↔
      c.verb ≠ .extend ∧ f.tag = .rejected ∧ command = c ∧ reason = f.payload := by
  constructor
  · intro h
    cases h with
    | rejected hverb htag => exact ⟨hverb, htag, rfl, rfl⟩
  · rintro ⟨hverb, htag, rfl, rfl⟩
    exact .rejected hverb htag

lemma judges_unexpectedFrame_iff {command : Command} {frame : Frame} :
    Judges c f (.error (.unexpectedFrame command frame)) ↔
      CannotAnswer f.tag c.verb ∧ command = c ∧ frame = f := by
  constructor
  · intro h
    cases h with
    | cannotAnswer hanswer => exact ⟨hanswer, rfl, rfl⟩
  · rintro ⟨hanswer, rfl, rfl⟩
    exact .cannotAnswer hanswer

lemma judges_malformed_iff {command : Command} {frame : Frame} :
    Judges c f (.error (.malformed command frame)) ↔
      IsMalformed c f ∧ command = c ∧ frame = f := by
  constructor
  · intro h
    cases h with
    | malformed hmalformed => exact ⟨hmalformed, rfl, rfl⟩
  · rintro ⟨hmalformed, rfl, rfl⟩
    exact .malformed hmalformed

lemma judges_ack_iff :
    Judges c f (.ok .ack) ↔ (c.verb = .set ∨ c.verb = .measure) ∧ f.tag = .accepted := by
  constructor
  · intro h
    cases h with
    | accepted hverb htag => exact ⟨hverb, htag⟩
    | setting _ hshows => cases hshows
  · rintro ⟨hverb, htag⟩
    exact .accepted hverb htag

lemma judges_empty_iff : Judges c f (.ok .empty) ↔ c.verb = .extend ∨
    (IsValue c f ∧ f.key ∉ settingWords) ∨
      IsData c f ∧ f.key ∉ ["STATUS", "LST", "STAT"].map String.toList := by
  constructor
  · intro h
    cases h with
    | uninterpreted hverb => exact Or.inl hverb
    | setting _ hshows => cases hshows
    | otherSetting hvalue hword => exact Or.inr (Or.inl ⟨hvalue, hword⟩)
    | otherData hdata hword => exact Or.inr (Or.inr ⟨hdata, hword⟩)
  · rintro (hverb | ⟨hvalue, hword⟩ | ⟨hdata, hword⟩)
    · exact .uninterpreted hverb
    · exact .otherSetting hvalue hword
    · exact .otherData hdata hword

/-! ## The outcomes -/

/-- **The outcomes of a reply.**  A command other than an extension is rejected exactly by a frame
that says so, with its payload for a reason.  The reply is unexpected exactly where the frame cannot
answer the verb, accepted exactly where a change or a command about measurements is, and malformed
exactly where a payload breaks the grammar of its first word or its numbers do not fit.  A reply is
empty for extensions and for words that are not understood.  Where none of the failures applies, the
reply is what the frames amount to, or it fails with the source. -/
theorem decode_outcome (next : Call σ Frame) (c : Command) (f : Frame) (s : σ) :
    (∀ command reason, FailsByFrame next c f s (.rejected command reason) ↔
      c.verb ≠ .extend ∧ f.tag = .rejected ∧ command = c ∧ reason = f.payload) ∧
    (∀ command frame, FailsByFrame next c f s (.unexpectedFrame command frame) ↔
      CannotAnswer f.tag c.verb ∧ command = c ∧ frame = f) ∧
    (∀ command frame, FailsByFrame next c f s (.malformed command frame) ↔
      IsMalformed c f ∧ command = c ∧ frame = f) ∧
    (((decode next c f).run s).1 = .ok .ack ↔
      (c.verb = .set ∨ c.verb = .measure) ∧ f.tag = .accepted) ∧
    (((decode next c f).run s).1 = .ok .empty ↔ c.verb = .extend ∨
      (IsValue c f ∧ f.key ∉ settingWords) ∨
        IsData c f ∧ f.key ∉ ["STATUS", "LST", "STAT"].map String.toList) ∧
    (∀ reply, ((decode next c f).run s).1 = .ok reply ↔
      ∃ frames t, Yields next s frames t ∧ Amounts c f frames reply) ∧
    ((c.verb ≠ .extend ∧ f.tag = .rejected) ∨ CannotAnswer f.tag c.verb ∨ IsMalformed c f ∨
      (∃ reply, ((decode next c f).run s).1 = .ok reply) ∨
        ∃ e, ((decode next c f).run s).1 = .error e ∧ SourceFails next c f s e) := by
  refine ⟨fun command reason => failsByFrame_iff.trans judges_rejected_iff,
    fun command frame => failsByFrame_iff.trans judges_unexpectedFrame_iff,
    fun command frame => failsByFrame_iff.trans judges_malformed_iff,
    (decode_run_eq_ok_iff_judges ?_).trans judges_ack_iff,
    (decode_run_eq_ok_iff_judges ?_).trans judges_empty_iff,
    fun reply => decode_run_eq_ok_iff, ?_⟩
  · intro l frames hreads
    cases hreads
  · intro l frames hreads
    cases hreads
  · rcases decode_run_cases next c f s with ⟨e, -, hjudges⟩ | ⟨reply, hreply, -⟩ | hsource
    · cases hjudges with
      | rejected hverb htag => exact Or.inl ⟨hverb, htag⟩
      | cannotAnswer hanswer => exact Or.inr (Or.inl hanswer)
      | malformed hmalformed => exact Or.inr (Or.inr (Or.inl hmalformed))
    · exact Or.inr (Or.inr (Or.inr (Or.inl ⟨reply, hreply⟩)))
    · exact Or.inr (Or.inr (Or.inr (Or.inr hsource)))

end Reply

end TimingBoard
