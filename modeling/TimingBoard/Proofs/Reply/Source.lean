import Mathlib.Tactic.Lemma
import TimingBoard.Reply.Decode

/-!
# Replies from a list of frames

A reply is read from a source of frames.  The plainest source is a list of frames, which gives up at
its end: it defines what the reply of given frames is, without a session, a link or a buffer.

A first frame announces how many frames follow it, and reading the reply takes exactly that many.

How a reply is read is the same for all sources, so that sources which are related lead to replies
which are related.  Any source that hands out the frames of a list in order leads to the same reply,
and what a source keeps is kept when a reply is read.
-/

namespace TimingBoard

variable {σ α β : Type}

namespace Call

@[simp] lemma run_ofExcept (x : Except Error α) (s : σ) :
    (ofExcept x : Call σ α).run s = (x, s) := by
  cases x <;> rfl

lemma run_bind_of_ok {call : Call σ α} {next : α → Call σ β} {s s' : σ} {a : α}
    (h : call.run s = (.ok a, s')) : (call >>= next).run s = (next a).run s' := by
  rw [run_bind, h]

lemma run_bind_of_error {call : Call σ α} {next : α → Call σ β} {s s' : σ} {e : Error}
    (h : call.run s = (.error e, s')) : (call >>= next).run s = (.error e, s') := by
  rw [run_bind, h]

/-- A call does not answer what it never goes on to answer. -/
lemma run_bind_ne_ok {call : Call σ α} {next : α → Call σ β} {b : β}
    (h : ∀ a s, ((next a).run s).1 ≠ .ok b) (s : σ) : ((call >>= next).run s).1 ≠ .ok b := by
  rcases hcall : call.run s with ⟨_ | a, s'⟩
  · rw [run_bind_of_error hcall]
    simp
  · rw [run_bind_of_ok hcall]
    exact h a s'

end Call

namespace Reply

/-- The next frame of a list. A list that has run out gives up. -/
def nextOf : Call (List Frame) Frame
  | [] => (.error .timeout, [])
  | f :: rest => (.ok f, rest)

/-- The reply to a command whose answer is a first frame and the frames after it. -/
def ofFrames (c : Command) (first : Frame) (rest : List Frame) : Except Error Reply :=
  ((decode nextOf c first).run rest).1

/-- The reply to a command whose answer is the given frames, the first of them included. -/
def ofAnswer (c : Command) (frames : List Frame) : Except Error Reply :=
  ((nextOf >>= decode nextOf c).run frames).1

lemma ofAnswer_cons (c : Command) (first : Frame) (rest : List Frame) :
    ofAnswer c (first :: rest) = ofFrames c first rest := rfl

/-- The number of frames that the first frame of a reply announces. -/
def followUpCount (c : Command) (f : Frame) : Nat :=
  match c.verb, f.tag with
  | .get, .value =>
    if f.key = "AGENTS".toList then (announced? (Payload.agents? f.payload)).getD 0 else 0
  | .measure, .measurement =>
    if f.key = "LST".toList then (announced? (Payload.measurementCount? f.payload)).getD 0
    else if f.key = "STAT".toList then (announced? (Payload.statisticsCount? f.payload)).getD 0
    else 0
  | _, _ => 0

/-! ## What a reply takes from the list -/

@[simp] lemma nextOf_run_nil : nextOf.run [] = (.error .timeout, []) := rfl

@[simp] lemma nextOf_run_cons (f : Frame) (rest : List Frame) :
    nextOf.run (f :: rest) = (.ok f, rest) := rfl

/-- Follow-up frames are the first frames of the list, each read by itself. -/
lemma followUps_run {read : Frame → α} {n : Nat} {frames : List Frame} (h : n ≤ frames.length) :
    (followUps nextOf read n).run frames = (.ok ((frames.take n).map read), frames.drop n) := by
  induction n generalizing frames with
  | zero => rfl
  | succ n ih =>
    cases frames with
    | nil => simp at h
    | cons f rest =>
      have hlength : n ≤ rest.length := by simpa using h
      rw [followUps, Call.run_bind_of_ok (nextOf_run_cons f rest), Call.run_bind_of_ok (ih hlength)]
      rfl

/-- A list that ends too early gives no follow-up frames. -/
lemma followUps_run_of_lt {read : Frame → α} {n : Nat} {frames : List Frame}
    (h : frames.length < n) : (followUps nextOf read n).run frames = (.error .timeout, []) := by
  induction n generalizing frames with
  | zero => simp at h
  | succ n ih =>
    cases frames with
    | nil => rfl
    | cons f rest =>
      have hlength : rest.length < n := by simpa using h
      rw [followUps, Call.run_bind_of_ok (nextOf_run_cons f rest),
        Call.run_bind_of_error (ih hlength)]

/-- A call on a list of frames that takes the first `n` of them, and gives up only when there are
fewer. -/
def Takes (n : Nat) (call : Call (List Frame) α) : Prop :=
  ∀ frames : List Frame,
    (n ≤ frames.length → (call.run frames).1 ≠ .error .timeout ∧
      (call.run frames).2 = frames.drop n) ∧
    (frames.length < n → (call.run frames).1 = .error .timeout)

lemma takes_ofExcept {x : Except Error α} (h : x ≠ .error .timeout) :
    Takes 0 (Call.ofExcept x) := by
  simp [Takes, h]

lemma takes_pure (a : α) : Takes 0 (pure a : Call (List Frame) α) := by
  simp [Takes]

/-- A list of follow-up frames takes as many frames as are announced. -/
lemma takes_followUps {read : Frame → α} (n : Nat) (make : List α → β) :
    Takes n (do return make (← followUps nextOf read n)) := by
  intro frames
  refine ⟨fun h => ?_, fun h => ?_⟩
  · rw [Call.run_bind_of_ok (followUps_run h)]
    simp
  · rw [Call.run_bind_of_error (followUps_run_of_lt h)]

/-- A count that cannot be read announces nothing, and fails in another way than by giving up. -/
lemma takes_of_announced {c : Command} {f : Frame} {count : Option Nat}
    {next : Nat → Call (List Frame) α} (h : ∀ n, Takes n (next n)) :
    Takes (count.getD 0) (do next (← Call.ofExcept (orMalformed c f count))) := by
  cases count with
  | none => exact takes_ofExcept (x := .error (.malformed c f)) (by simp)
  | some n => exact h n

lemma decodeVerdict_ne_timeout (c : Command) (f : Frame) : decodeVerdict c f ≠ .error .timeout := by
  unfold decodeVerdict
  split <;> simp

lemma orMalformed_ne_timeout (c : Command) (f : Frame) (value : Option α) :
    orMalformed c f value ≠ .error .timeout := by
  cases value <;> simp [orMalformed]

/-- The reply of a frame with a value takes the agents that the frame announces. -/
lemma takes_decodeValue (c : Command) (f : Frame) :
    Takes (if f.key = "AGENTS".toList then (announced? (Payload.agents? f.payload)).getD 0 else 0)
      (decodeValue nextOf c f) := by
  unfold decodeValue
  by_cases hagents : f.key = "AGENTS".toList
  · have htiming : (TimingKey.ofWord? "AGENTS".toList).isSome = false := by decide
    simp only [hagents, htiming, Bool.false_eq_true, if_false, if_true]
    rw [if_neg (by decide), if_neg (by decide), if_neg (by decide)]
    exact takes_of_announced fun n => takes_followUps n _
  · simp only [hagents, if_false]
    repeat' split
    any_goals exact takes_ofExcept (orMalformed_ne_timeout _ _ _)
    exact takes_pure _

/-- A frame that announces a list takes it, and one that does not takes nothing. -/
lemma takes_of_count {c : Command} {f : Frame} {count : Option Text} {one : Call (List Frame) α}
    {next : Nat → Call (List Frame) α} (hone : Takes 0 one) (hnext : ∀ n, Takes n (next n)) :
    Takes ((announced? count).getD 0)
      (match count with
        | none => one
        | some run => do next (← Call.ofExcept (orMalformed c f (announced? (some run))))) := by
  cases count with
  | none => exact hone
  | some run => exact takes_of_announced hnext

/-- The reply of a frame with measurement data takes the lines that the frame announces. -/
lemma takes_decodeMeasurement (c : Command) (f : Frame) :
    Takes (if f.key = "LST".toList then (announced? (Payload.measurementCount? f.payload)).getD 0
      else if f.key = "STAT".toList then (announced? (Payload.statisticsCount? f.payload)).getD 0
      else 0) (decodeMeasurement nextOf c f) := by
  unfold decodeMeasurement
  by_cases hlist : f.key = "LST".toList
  · simp only [hlist, if_true]
    rw [if_neg (by decide)]
    exact takes_of_count (takes_pure _) fun n => takes_followUps n _
  · by_cases hstatistics : f.key = "STAT".toList
    · simp only [hstatistics, if_true]
      rw [if_neg (by decide), if_neg (by decide), if_neg (by decide)]
      exact takes_of_count (takes_pure _) fun n => takes_followUps n _
    · simp only [hlist, hstatistics, if_false]
      split <;> exact takes_pure _

/-- A reply takes as many frames as its first frame announces. -/
lemma takes_decode (c : Command) (f : Frame) : Takes (followUpCount c f) (decode nextOf c f) := by
  unfold followUpCount
  split
  · next hverb htag =>
    rw [decode, hverb, htag]
    exact takes_decodeValue c f
  · next hverb htag =>
    rw [decode, hverb, htag]
    exact takes_decodeMeasurement c f
  · next hvalue hmeasurement =>
    unfold decode
    split
    · exact takes_ofExcept (decodeVerdict_ne_timeout c f)
    · next hverb htag => exact absurd htag (hvalue hverb)
    · exact takes_ofExcept (decodeVerdict_ne_timeout c f)
    · exact takes_ofExcept (x := .error (.unexpectedFrame c f)) (by simp)
    · next hverb htag => exact absurd htag (hmeasurement hverb)
    · exact takes_ofExcept (decodeVerdict_ne_timeout c f)
    · exact takes_pure _

/-- A reply with all its frames is read to its end. -/
lemma decode_run_of_length {c : Command} {f : Frame} {rest : List Frame}
    (h : rest.length = followUpCount c f) :
    (decode nextOf c f).run rest = (ofFrames c f rest, []) := by
  have hrest := (takes_decode c f rest).1 (Nat.le_of_eq h.symm)
  exact Prod.ext rfl (hrest.2.trans (List.drop_of_length_le (Nat.le_of_eq h)))

/-- A reply with all its frames does not give up. -/
lemma ofFrames_ne_timeout {c : Command} {f : Frame} {rest : List Frame}
    (h : rest.length = followUpCount c f) : ofFrames c f rest ≠ .error .timeout :=
  ((takes_decode c f rest).1 (Nat.le_of_eq h.symm)).1

/-! ## Acceptance -/

/-- Frames of measurement data accept nothing. -/
lemma decodeMeasurement_ne_ack (next : Call σ Frame) (c : Command) (f : Frame) (s : σ) :
    ((decodeMeasurement next c f).run s).1 ≠ .ok .ack := by
  have hpure (reply : Reply) (hreply : reply ≠ .ack) (s : σ) :
      ((pure reply : Call σ Reply).run s).1 ≠ .ok .ack := by
    simpa using hreply
  unfold decodeMeasurement
  simp only
  split
  · exact hpure _ (by simp) s
  split
  · split
    · exact hpure _ (by simp) s
    · refine Call.run_bind_ne_ok (fun n => Call.run_bind_ne_ok fun list => ?_) s
      exact hpure _ (by simp)
  split
  · split
    · exact hpure _ (by simp) s
    · refine Call.run_bind_ne_ok (fun n => Call.run_bind_ne_ok fun list => ?_) s
      exact hpure _ (by simp)
  · exact hpure _ (by simp) s

/-- A command that does not ask for a setting is accepted only by a frame that says so. -/
lemma tag_of_ofFrames_eq_ack {c : Command} {f : Frame} {rest : List Frame} (hc : c.verb ≠ .get)
    (h : ofFrames c f rest = .ok .ack) : f.tag = .accepted := by
  have hverdict : decodeVerdict c f = .ok .ack → f.tag = .accepted := by
    unfold decodeVerdict
    split
    · next htag => exact fun _ => htag
    all_goals simp
  unfold ofFrames decode at h
  split at h
  · rw [Call.run_ofExcept] at h
    exact hverdict h
  · next hverb _ => exact absurd hverb hc
  · next hverb _ => exact absurd hverb hc
  · next hverb _ _ => exact absurd hverb hc
  · exact absurd h (decodeMeasurement_ne_ack nextOf c f rest)
  · rw [Call.run_ofExcept] at h
    exact hverdict h
  · simp at h

end Reply

/-! ## Other sources -/

/-- An error that a frame gives rise to: it rejects the command, cannot answer it, or cannot be
read. -/
def Error.IsOfFrame : Error → Prop
  | rejected _ _ | unexpectedFrame _ _ | malformed _ _ => True
  | _ => False

lemma Error.IsOfFrame.losesConnection {e : Error} (h : e.IsOfFrame) :
    e.losesConnection = false := by
  cases e with
  | network fault => exact h.elim
  | notConnected => exact h.elim
  | _ => rfl

namespace Call

variable {τ : Type}

/-- An answer, or an error that does not mean that the connection is lost. -/
def SparesConnection (x : Except Error α) : Prop :=
  ∀ e, x = .error e → e.losesConnection = false

lemma sparesConnection_ok (a : α) : SparesConnection (.ok a) := by
  intro e h
  cases h

lemma sparesConnection_error {e : Error} (h : e.losesConnection = false) :
    SparesConnection (.error e : Except Error α) := by
  intro e' he'
  rwa [← Except.error.inj he']

/-- An answer, or an error that a frame gives rise to. -/
def IsJudgement (x : Except Error α) : Prop :=
  ∀ e, x = .error e → e.IsOfFrame

lemma isJudgement_ok (a : α) : IsJudgement (.ok a) := by
  intro e h
  cases h

lemma isJudgement_error {e : Error} (h : e.IsOfFrame) :
    IsJudgement (.error e : Except Error α) := by
  intro e' he'
  rwa [← Except.error.inj he']

lemma IsJudgement.sparesConnection {x : Except Error α} (h : IsJudgement x) : SparesConnection x :=
  fun e he => (h e he).losesConnection

/-- A verdict on a command is a judgement, and so is that a payload cannot be read. -/
lemma isJudgement_decodeVerdict (c : Command) (f : Frame) :
    IsJudgement (Reply.decodeVerdict c f) := by
  unfold Reply.decodeVerdict
  split
  · exact isJudgement_ok _
  all_goals exact isJudgement_error trivial

lemma isJudgement_orMalformed (c : Command) (f : Frame) (value : Option α) :
    IsJudgement (Reply.orMalformed c f value) := by
  cases value with
  | none => exact isJudgement_error trivial
  | some a => exact isJudgement_ok a

/-- A relation between calls on two kinds of states that holds of calls which only answer, or fail,
in the same way by the judgement of a frame, and carries over from the parts of a call to the
whole. -/
structure Compatible (Q : ∀ {α : Type}, Call σ α → Call τ α → Prop) : Prop where
  ofExcept {α : Type} {x : Except Error α} : IsJudgement x →
    Q (Call.ofExcept x) (Call.ofExcept x)
  bind {α β : Type} {call : Call σ α} {spec : Call τ α} {next : α → Call σ β}
    {specNext : α → Call τ β} : Q call spec → (∀ a, Q (next a) (specNext a)) →
      Q (call >>= next) (spec >>= specNext)

section Compatible

variable {Q : ∀ {α : Type}, Call σ α → Call τ α → Prop} (h : Compatible Q)
  {next : Call σ Frame} {specNext : Call τ Frame} (hnext : Q next specNext)

include h

lemma Compatible.pure (a : α) : Q (Pure.pure a : Call σ α) (Pure.pure a : Call τ α) :=
  h.ofExcept (isJudgement_ok a)

include hnext

lemma Compatible.followUps (read : Frame → α) (n : Nat) :
    Q (Reply.followUps next read n) (Reply.followUps specNext read n) := by
  induction n with
  | zero => exact h.pure _
  | succ n ih => exact h.bind hnext fun f => h.bind ih fun rest => h.pure _

/-- A list of follow-up frames behind a count. -/
lemma Compatible.announced {read : Frame → α} {make : List α → Reply} (c : Command) (f : Frame)
    (count : Option Nat) :
    Q (do return make (← Reply.followUps next read
        (← Call.ofExcept (Reply.orMalformed c f count))))
      (do return make (← Reply.followUps specNext read
        (← Call.ofExcept (Reply.orMalformed c f count)))) :=
  h.bind (h.ofExcept (isJudgement_orMalformed c f count)) fun n =>
    h.bind (h.followUps hnext read n) fun _ => h.pure _

lemma Compatible.decodeValue (c : Command) (f : Frame) :
    Q (Reply.decodeValue next c f) (Reply.decodeValue specNext c f) := by
  unfold Reply.decodeValue
  simp only
  split
  · exact h.ofExcept (isJudgement_orMalformed c f _)
  split
  · exact h.ofExcept (isJudgement_orMalformed c f _)
  split
  · exact h.ofExcept (isJudgement_orMalformed c f _)
  split
  · exact h.ofExcept (isJudgement_orMalformed c f _)
  split
  · exact h.announced hnext c f _
  · exact h.pure _

lemma Compatible.decodeMeasurement (c : Command) (f : Frame) :
    Q (Reply.decodeMeasurement next c f) (Reply.decodeMeasurement specNext c f) := by
  unfold Reply.decodeMeasurement
  simp only
  split
  · exact h.pure _
  split
  · split
    · exact h.pure _
    · exact h.announced hnext c f _
  split
  · split
    · exact h.pure _
    · exact h.announced hnext c f _
  · exact h.pure _

/-- Replies from related sources are related. -/
theorem Compatible.decode (c : Command) (f : Frame) :
    Q (Reply.decode next c f) (Reply.decode specNext c f) := by
  unfold Reply.decode
  split
  · exact h.ofExcept (isJudgement_decodeVerdict c f)
  · exact h.decodeValue hnext c f
  · exact h.ofExcept (isJudgement_decodeVerdict c f)
  · exact h.ofExcept (isJudgement_error (e := .unexpectedFrame c f) trivial)
  · exact h.decodeMeasurement hnext c f
  · exact h.ofExcept (isJudgement_decodeVerdict c f)
  · exact h.pure _

end Compatible

/-! ## Sources that hand out the same frames -/

variable {R : σ → List Frame → Prop} {patient : Prop}

/-- A call on other states reads frames as `spec` reads them from a list: it takes the same frames
off the same list and answers the same, unless it is not patient and gives up earlier. The relation
says which frames a state still has to hand out. -/
def ReadsFrom (R : σ → List Frame → Prop) (patient : Prop) (call : Call σ α)
    (spec : Call (List Frame) α) : Prop :=
  ∀ s frames, R s frames → ∃ rest, rest <:+ frames ∧ R (call.run s).2 rest ∧
    (spec.run frames = ((call.run s).1, rest) ∨ (¬ patient ∧ (call.run s).1 = .error .timeout))

/-- Calls that read from the same frames one after the other. -/
lemma ReadsFrom.bind {call : Call σ α} {spec : Call (List Frame) α} {next : α → Call σ β}
    {specNext : α → Call (List Frame) β} (h : ReadsFrom R patient call spec)
    (hnext : ∀ a, ReadsFrom R patient (next a) (specNext a)) :
    ReadsFrom R patient (call >>= next) (spec >>= specNext) := by
  intro s frames hs
  obtain ⟨rest, hsuffix, hrest, hcase⟩ := h s frames hs
  rcases hcall : call.run s with ⟨result, s'⟩
  rw [hcall] at hrest hcase
  cases result with
  | error e =>
    rw [run_bind_of_error hcall]
    refine ⟨rest, hsuffix, hrest, ?_⟩
    rcases hcase with hspec | hearly
    · exact Or.inl (run_bind_of_error hspec)
    · exact Or.inr ⟨hearly.1, by simpa using hearly.2⟩
  | ok a =>
    obtain ⟨rest', hsuffix', hrest', hcase'⟩ := hnext a s' rest hrest
    rw [run_bind_of_ok hcall]
    refine ⟨rest', hsuffix'.trans hsuffix, hrest', ?_⟩
    rcases hcase with hspec | hearly
    · rwa [run_bind_of_ok hspec]
    · simp at hearly

lemma compatible_readsFrom (R : σ → List Frame → Prop) (patient : Prop) :
    Compatible fun call spec => ReadsFrom R patient call spec where
  ofExcept _ := fun s frames h => ⟨frames, List.suffix_rfl, by simpa using h, Or.inl (by simp)⟩
  bind := ReadsFrom.bind

/-- A reply is the same from every source that hands out the same frames. -/
lemma readsFrom_decode {next : Call σ Frame} (hnext : ReadsFrom R patient next Reply.nextOf)
    (c : Command) (f : Frame) :
    ReadsFrom R patient (Reply.decode next c f) (Reply.decode Reply.nextOf c f) :=
  (compatible_readsFrom R patient).decode hnext c f

/-! ## Properties that calls keep -/

/-- A call that leaves a property of the state true. -/
def Keeps (P : σ → Prop) (call : Call σ α) : Prop :=
  ∀ s, P s → P (call.run s).2

variable {P : σ → Prop}

lemma keeps_ofExcept (x : Except Error α) : Keeps P (ofExcept x) := by
  intro s hs
  simpa using hs

lemma Keeps.bind {call : Call σ α} {next : α → Call σ β} (h : Keeps P call)
    (hnext : ∀ a, Keeps P (next a)) : Keeps P (call >>= next) := by
  intro s hs
  have hafter := h s hs
  rcases hcall : call.run s with ⟨e | a, s'⟩
  · rw [run_bind_of_error hcall]
    rwa [hcall] at hafter
  · rw [run_bind_of_ok hcall]
    rw [hcall] at hafter
    exact hnext a s' hafter

lemma compatible_keeps (P : σ → Prop) :
    Compatible fun call (_ : Call Unit _) => Keeps P call where
  ofExcept _ := keeps_ofExcept _
  bind := Keeps.bind

/-- Understanding a reply keeps what reading a frame keeps. -/
lemma keeps_decode {next : Call σ Frame} (hnext : Keeps P next) (c : Command) (f : Frame) :
    Keeps P (Reply.decode next c f) :=
  @Compatible.decode σ Unit _ (compatible_keeps P) next (fail .timeout) hnext c f

end Call

end TimingBoard
