import TimingBoard.Proofs.Number.Digits
import TimingBoard.Proofs.Number.Plain
import TimingBoard.Run.Countdown

/-!
# What a countdown shows

The text of a countdown has a sign, and its whole seconds as hours, minutes and seconds.  Minutes
and seconds take two digits each, and hours as many as they need, so that a text may be of any
length.  Read from its end it is still unambiguous: the last five characters are the minutes and the
seconds, and what is left of the digits before them are the hours.

So nothing but a fraction of a second is lost.  Two countdowns look the same only if they have the
same sign and the same whole seconds, and no run at all looks like a run with no time left.
-/

namespace TimingBoard.Countdown

/-! ## Two digits -/

lemma isDigit_of_mem_twoDigits {n : Nat} {c : Char} (h : c ∈ twoDigits n) : c.isDigit = true := by
  rcases List.mem_append.1 h with hzero | hdigit
  · rw [List.eq_of_mem_replicate hzero]
    rfl
  · exact Natural.isDigit_of_mem_digits hdigit

/-- The zeros in front do not change the number. -/
lemma value_twoDigits (n : Nat) : Natural.value (twoDigits n) = n :=
  (Natural.value_zeros_append _ _).trans (Natural.value_digits n)

lemma length_twoDigits (n : Nat) : (twoDigits n).length = max 2 (Natural.digits n).length := by
  simp only [twoDigits, List.length_append, List.length_replicate]
  omega

/-- A number below a hundred has exactly two digits. -/
lemma length_twoDigits_of_lt {n : Nat} (h : n < 100) : (twoDigits n).length = 2 := by
  have hle : (Natural.digits n).length ≤ 2 :=
    (Nat.length_toDigits_le_iff (by decide) (by decide)).2 h
  rw [length_twoDigits, max_eq_left hle]

/-! ## Hours, minutes and seconds -/

/-- A number of seconds in three parts, each of them a number in decimal digits. -/
structure Spells (hours minutes seconds : Text) (total : Nat) : Prop where
  isDigit : ∀ part ∈ [hours, minutes, seconds], ∀ c ∈ part, c.isDigit = true
  two_le_length : 2 ≤ hours.length
  length_minutes : minutes.length = 2
  length_seconds : seconds.length = 2
  minutes_lt : Natural.value minutes < 60
  seconds_lt : Natural.value seconds < 60
  total_eq : 3600 * Natural.value hours + 60 * Natural.value minutes + Natural.value seconds = total

/-- The three parts with colons between them. -/
def clock (hours minutes seconds : Text) : Text :=
  hours ++ ':' :: minutes ++ ':' :: seconds

/-- A number of seconds is spelled by its hours, minutes and seconds. -/
lemma spells_twoDigits (total : Nat) :
    Spells (twoDigits (total / 3600)) (twoDigits (total % 3600 / 60)) (twoDigits (total % 60))
      total where
  isDigit := by
    have hdigits (n : Nat) : ∀ c ∈ twoDigits n, c.isDigit = true :=
      fun _ => isDigit_of_mem_twoDigits
    simp only [List.forall_mem_cons, List.not_mem_nil, false_implies, implies_true, and_true]
    exact ⟨hdigits _, hdigits _, hdigits _⟩
  two_le_length := by
    rw [length_twoDigits]
    exact le_max_left _ _
  length_minutes := length_twoDigits_of_lt (by omega)
  length_seconds := length_twoDigits_of_lt (by omega)
  minutes_lt := by
    rw [value_twoDigits]
    omega
  seconds_lt := by
    rw [value_twoDigits]
    omega
  total_eq := by
    simp only [value_twoDigits]
    omega

/-- Equal texts have equal parts: minutes and seconds are found from the end. -/
lemma Spells.clock_inj {hours minutes seconds hours' minutes' seconds' : Text} {total total' : Nat}
    (h : Spells hours minutes seconds total) (h' : Spells hours' minutes' seconds' total')
    (heq : clock hours minutes seconds = clock hours' minutes' seconds') : total = total' := by
  have hlength : (':' :: seconds).length = (':' :: seconds').length := by
    simp [h.length_seconds, h'.length_seconds]
  obtain ⟨hfront, hseconds⟩ := List.append_inj' heq hlength
  have hlength' : (':' :: minutes).length = (':' :: minutes').length := by
    simp [h.length_minutes, h'.length_minutes]
  obtain ⟨rfl, hminutes⟩ := List.append_inj' hfront hlength'
  obtain ⟨-, rfl⟩ := List.cons.inj hseconds
  obtain ⟨-, rfl⟩ := List.cons.inj hminutes
  exact h.total_eq.symm.trans h'.total_eq

/-- Such a text starts with a digit, and not with a sign. -/
lemma Spells.head?_clock {hours minutes seconds : Text} {total : Nat}
    (h : Spells hours minutes seconds total) : (clock hours minutes seconds).head? ≠ some '-' := by
  cases hours with
  | nil => exact absurd h.two_le_length (by decide)
  | cons c hours =>
    have hdigit : c.isDigit = true := h.isDigit (c :: hours) (by simp) c (by simp)
    rintro heq
    obtain rfl : c = '-' := Option.some.inj heq
    exact absurd hdigit (by decide)

/-! ## The text of a countdown -/

/-- The countdown of a run that is past its end. -/
def Overruns (c : Countdown) : Prop :=
  ∃ past, c = overrun past

/-- The seconds that are left or past, without a fraction; none when no run is timed. -/
def secondsHeld : Countdown → Nat
  | inactive => 0
  | remaining left => left.nanos / nanosPerSecond
  | overrun past => past.nanos / nanosPerSecond

/-- A countdown shows the seconds that it holds. -/
lemma wholeSeconds_eq (c : Countdown) : c.wholeSeconds = c.secondsHeld := by
  cases c <;> rfl

lemma isOverrun_iff (c : Countdown) : c.isOverrun = true ↔ c.Overruns := by
  cases c <;> simp [isOverrun, Overruns]

variable (c : Countdown)

/-- The text is the sign of an overrun, or nothing, and the whole seconds. -/
lemma exists_text_eq : ∃ sign hours minutes seconds, c.text = sign ++ clock hours minutes seconds ∧
    Spells hours minutes seconds c.secondsHeld ∧
      (sign = "- ".toList ∧ c.Overruns ∨ sign = [] ∧ ¬ c.Overruns) := by
  have hspells := spells_twoDigits c.wholeSeconds
  rw [wholeSeconds_eq] at hspells
  refine ⟨if c.isOverrun then "- ".toList else [], _, _, _, ?_, hspells, ?_⟩
  · simp [text, clock, wholeSeconds_eq]
  · rw [← isOverrun_iff]
    cases c.isOverrun <;> simp

/-- Only an overrun starts with a sign. -/
lemma sign_prefix_text_iff : "- ".toList <+: c.text ↔ c.Overruns := by
  obtain ⟨sign, hours, minutes, seconds, htext, hspells, ⟨rfl, hover⟩ | ⟨rfl, hnot⟩⟩ :=
    c.exists_text_eq
  · exact iff_of_true (htext ▸ List.prefix_append _ _) hover
  · refine iff_of_false (fun hprefix => hspells.head?_clock ?_) hnot
    obtain ⟨rest, hrest⟩ := htext ▸ hprefix
    exact (congrArg List.head? hrest).symm

/-- Countdowns with the same text hold the same seconds. -/
lemma secondsHeld_eq_of_text_eq {d : Countdown} (h : c.text = d.text) :
    c.secondsHeld = d.secondsHeld := by
  have hover : c.Overruns ↔ d.Overruns := by
    rw [← sign_prefix_text_iff, ← sign_prefix_text_iff, h]
  obtain ⟨sign, hours, minutes, seconds, htext, hspells, hsign⟩ := c.exists_text_eq
  obtain ⟨sign', hours', minutes', seconds', htext', hspells', hsign'⟩ := d.exists_text_eq
  obtain rfl : sign = sign' := by
    rcases hsign with ⟨rfl, hc⟩ | ⟨rfl, hc⟩ <;> rcases hsign' with ⟨rfl, hd⟩ | ⟨rfl, hd⟩
    · rfl
    · exact absurd (hover.1 hc) hd
    · exact absurd (hover.2 hd) hc
    · rfl
  rw [htext, htext'] at h
  exact hspells.clock_inj hspells' (List.append_cancel_left h)

/-- **The text of a countdown is faithful.**  It is the sign of an overrun, or nothing, and the
whole seconds in hours, minutes and seconds.  It starts with the sign exactly if the countdown is an
overrun.  So two countdowns have the same text exactly if both or none of them is an overrun and
they hold the same whole seconds. -/
theorem text_faithful :
    (∃ sign hours minutes seconds, c.text = sign ++ clock hours minutes seconds ∧
      Spells hours minutes seconds c.secondsHeld ∧
        (sign = "- ".toList ∧ c.Overruns ∨ sign = [] ∧ ¬ c.Overruns)) ∧
    ("- ".toList <+: c.text ↔ c.Overruns) ∧
    ∀ d : Countdown, c.text = d.text ↔
      (c.Overruns ↔ d.Overruns) ∧ c.secondsHeld = d.secondsHeld := by
  refine ⟨c.exists_text_eq, c.sign_prefix_text_iff, fun d => ⟨fun heq => ⟨?_, ?_⟩, ?_⟩⟩
  · rw [← sign_prefix_text_iff, ← sign_prefix_text_iff, heq]
  · exact c.secondsHeld_eq_of_text_eq heq
  · rintro ⟨hover, hseconds⟩
    have hsign : c.isOverrun = d.isOverrun := by
      rw [Bool.eq_iff_iff, isOverrun_iff, isOverrun_iff, hover]
    simp only [text, hsign, wholeSeconds_eq, hseconds]

/-- The longest span has sixteen digits of hours, and no run looks like a run with no time left. -/
example : (remaining .longest).text = "5124095576030431:00:15".toList ∧
    inactive.text = (remaining .zero).text := by
  decide +kernel

end TimingBoard.Countdown
