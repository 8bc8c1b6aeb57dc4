import TimingBoard.Proofs.Reply.Judgement

/-!
# Lists take what was announced

A source of frames hands them out one after the other, until it fails.  A reply takes frames from
its source only where its first frame announces a list, and then exactly as many as are announced:
one more or one less would shift every later reply on the line.

A line of a list that cannot be understood never fails the reply.  An agent is left out, and a
measurement or a line of statistics is replaced by zeros.  Only the source can fail it, with its own
error and at the frame that it fails to hand out.
-/

namespace TimingBoard

namespace Reply

variable {σ α : Type} {next : Call σ Frame} {c : Command} {f : Frame} {l : Listing} {n : Nat}

/-! ## Sources -/

/-- A source hands out frames one after the other, with its states before and after. -/
inductive Yields (next : Call σ Frame) : σ → List Frame → σ → Prop
  | nil (s : σ) : Yields next s [] s
  | cons {s t u : σ} {f : Frame} {frames : List Frame} : next.run s = (.ok f, t) →
      Yields next t frames u → Yields next s (f :: frames) u

/-- A source hands out a number of frames and then fails. -/
def FailsAfter (next : Call σ Frame) (s : σ) (k : Nat) (e : Error) (u : σ) : Prop :=
  ∃ frames t, frames.length = k ∧ Yields next s frames t ∧ next.run t = (.error e, u)

/-- A list of frames hands out the frames that it starts with. -/
lemma yields_nextOf (frames rest : List Frame) : Yields nextOf (frames ++ rest) frames rest := by
  induction frames with
  | nil => exact .nil rest
  | cons f frames ih => exact .cons (nextOf_run_cons f _) ih

/-- A source that is asked for a number of frames hands them out or fails before. -/
lemma yields_or_failsAfter (next : Call σ Frame) (n : Nat) (s : σ) :
    (∃ frames t, frames.length = n ∧ Yields next s frames t) ∨
      ∃ k e u, k < n ∧ FailsAfter next s k e u := by
  induction n generalizing s with
  | zero => exact Or.inl ⟨[], s, rfl, .nil s⟩
  | succ n ih =>
    rcases hnext : next.run s with ⟨e | f, t⟩
    · exact Or.inr ⟨0, e, t, Nat.succ_pos n, [], s, rfl, .nil s, hnext⟩
    · rcases ih t with ⟨frames, u, hlength, hyields⟩ |
        ⟨k, e, u, hk, frames, v, hlength, hyields, hv⟩
      · exact Or.inl ⟨f :: frames, u, by simp [hlength], .cons hnext hyields⟩
      · exact Or.inr ⟨k + 1, e, u, Nat.succ_lt_succ hk, f :: frames, v, by simp [hlength],
          .cons hnext hyields, hv⟩

/-- Follow-up frames are those that the source hands out, each read by itself. -/
lemma Yields.followUps_run {s t : σ} {frames : List Frame} (h : Yields next s frames t)
    (read : Frame → α) :
    (followUps next read frames.length).run s = (.ok (frames.map read), t) := by
  induction h with
  | nil s => rfl
  | cons hnext _ ih =>
    rw [List.length_cons, followUps, Call.run_bind_of_ok hnext, Call.run_bind_of_ok ih]
    rfl

/-- A source that fails too early fails the follow-up frames with its error. -/
lemma FailsAfter.followUps_run {s u : σ} {k : Nat} {e : Error} (h : FailsAfter next s k e u)
    (hk : k < n) (read : Frame → α) : (followUps next read n).run s = (.error e, u) := by
  obtain ⟨frames, t, rfl, hyields, hfail⟩ := h
  induction hyields generalizing n with
  | nil s =>
    obtain ⟨n, rfl⟩ := Nat.exists_eq_succ_of_ne_zero hk.ne'
    rw [followUps, Call.run_bind_of_error hfail]
  | cons hnext _ ih =>
    obtain ⟨n, rfl⟩ := Nat.exists_eq_succ_of_ne_zero (Nat.ne_zero_of_lt hk)
    rw [followUps, Call.run_bind_of_ok hnext,
      Call.run_bind_of_error (ih (Nat.lt_of_succ_lt_succ hk) hfail)]

/-! ## What the frames of a list amount to -/

/-- The agents that frames show, in order; a frame that shows none is left out. -/
inductive AgentsOf : List Frame → List Agent → Prop
  | nil : AgentsOf [] []
  | shown {f : Frame} {agent : Agent} {frames : List Frame} {list : List Agent} :
      ShowsAgent f agent → AgentsOf frames list → AgentsOf (f :: frames) (agent :: list)
  | leftOut {f : Frame} {frames : List Frame} {list : List Agent} :
      (∀ agent, ¬ ShowsAgent f agent) →
      AgentsOf frames list → AgentsOf (f :: frames) list

lemma agentsOf_iff {frames : List Frame} {list : List Agent} :
    AgentsOf frames list ↔ list = frames.filterMap readAgent? := by
  constructor
  · intro h
    induction h with
    | nil => rfl
    | shown hshows _ ih => rw [List.filterMap_cons_some (readAgent?_eq_some.2 hshows), ← ih]
    | @leftOut f _ _ hshows _ ih =>
      have hnone : readAgent? f = none :=
        Option.eq_none_iff_forall_ne_some.2 fun agent h => hshows agent (readAgent?_eq_some.1 h)
      rw [List.filterMap_cons_none hnone, ← ih]
  · rintro rfl
    induction frames with
    | nil => exact .nil
    | cons f frames ih =>
      cases hread : readAgent? f with
      | none =>
        rw [List.filterMap_cons_none hread]
        exact .leftOut (fun agent hagent => by simp [readAgent?_eq_some.2 hagent] at hread) ih
      | some agent =>
        rw [List.filterMap_cons_some hread]
        exact .shown (readAgent?_eq_some.1 hread) ih

/-- There are at most as many agents as frames. -/
lemma AgentsOf.length_le {frames : List Frame} {list : List Agent} (h : AgentsOf frames list) :
    list.length ≤ frames.length := by
  induction h with
  | nil => exact Nat.le_refl _
  | shown _ _ ih => exact Nat.succ_le_succ ih
  | leftOut _ _ ih => exact Nat.le_succ_of_le ih

/-- What the frames of a list amount to: the agents they show, or an entry for each frame. The entry
for a frame that shows none is made of zeros. -/
inductive Listing.Reads : Listing → List Frame → Reply → Prop
  | agents {frames : List Frame} {list : List Agent} : AgentsOf frames list →
      Reads .agents frames (.agents list)
  | measurements {frames : List Frame} {list : List Measurement} :
      List.Forall₂ (fun f m => StandsFor ShowsMeasurement ⟨0, 0⟩ f.payload m) frames list →
        Reads .measurements frames (.measurements list)
  | statistics {frames : List Frame} {lines : List Statistics} :
      List.Forall₂ (fun f line => StandsFor ShowsStatistics ⟨List.replicate 10 0, by decide⟩
        f.payload line) frames lines →
        Reads .statistics frames (.statisticsList lines)

/-- The reply of the frames of a list. -/
def Listing.reply : Listing → List Frame → Reply
  | .agents, frames => .agents (frames.filterMap readAgent?)
  | .measurements, frames => .measurements (frames.map readMeasurement)
  | .statistics, frames => .statisticsList (frames.map readStatistics)

/-- A function that is known entry by entry is known on a list. -/
lemma forall₂_iff_map_eq {β : Type} {R : α → β → Prop} {g : α → β} (h : ∀ a b, g a = b ↔ R a b)
    {list : List α} {entries : List β} : List.Forall₂ R list entries ↔ list.map g = entries := by
  rw [← List.forall₂_eq_eq_eq, List.forall₂_map_left_iff]
  simp only [h]

lemma Listing.reads_iff {frames : List Frame} {reply : Reply} :
    l.Reads frames reply ↔ reply = l.reply frames := by
  constructor
  · intro h
    cases h with
    | agents hagents => exact congrArg Reply.agents (agentsOf_iff.1 hagents)
    | measurements hentries =>
      exact congrArg Reply.measurements
        ((forall₂_iff_map_eq fun _ _ => readMeasurement_eq_iff).1 hentries).symm
    | statistics hlines =>
      exact congrArg Reply.statisticsList
        ((forall₂_iff_map_eq fun _ _ => readStatistics_eq_iff).1 hlines).symm
  · rintro rfl
    cases l with
    | agents => exact .agents (agentsOf_iff.2 rfl)
    | measurements =>
      exact .measurements ((forall₂_iff_map_eq fun _ _ => readMeasurement_eq_iff).2 rfl)
    | statistics =>
      exact .statistics ((forall₂_iff_map_eq fun _ _ => readStatistics_eq_iff).2 rfl)

/-! ## Runs of the decoder -/

/-- Where a list is announced, so many follow-up frames are asked for and read. -/
lemma Announces.exists_decode_eq (h : Announces c f l n) (next : Call σ Frame) :
    ∃ (α : Type) (read : Frame → α) (make : List α → Reply),
      decode next c f = (do return make (← followUps next read n)) ∧
        ∀ frames, make (frames.map read) = l.reply frames := by
  obtain ⟨hverb, htag, run, hstart, hread⟩ := h
  have hannounced : announced? (some run) = some n := hread
  have hkey := l.key_eq hstart
  have hrun := l.count?_eq_some.2 hstart
  cases l with
  | agents =>
    refine ⟨Option Agent, readAgent?, fun agents => .agents (agents.filterMap id), ?_,
      fun frames => ?_⟩
    · change Payload.agents? f.payload = some run at hrun
      rw [decode_of_isValue next ⟨hverb, htag⟩, decodeValue_of_agents next hkey, hrun, hannounced]
      rfl
    · simp [Listing.reply, List.filterMap_map]
  | measurements =>
    refine ⟨Measurement, readMeasurement, .measurements, ?_, fun frames => rfl⟩
    change Payload.measurementCount? f.payload = some run at hrun
    rw [decode_of_isData next ⟨hverb, htag⟩, decodeMeasurement_of_list next hkey]
    simp only [hrun, hannounced]
    rfl
  | statistics =>
    refine ⟨Statistics, readStatistics, .statisticsList, ?_, fun frames => rfl⟩
    change Payload.statisticsCount? f.payload = some run at hrun
    rw [decode_of_isData next ⟨hverb, htag⟩, decodeMeasurement_of_statistics next hkey]
    simp only [hrun, hannounced]
    rfl

/-- An announced list is read from the frames that the source hands out. -/
lemma Announces.decode_run (h : Announces c f l n) {s t : σ} {frames : List Frame}
    (hlength : frames.length = n) (hyields : Yields next s frames t) :
    (decode next c f).run s = (.ok (l.reply frames), t) := by
  obtain ⟨α, read, make, hdecode, hmake⟩ := h.exists_decode_eq next
  subst hlength
  rw [hdecode, Call.run_bind_of_ok (hyields.followUps_run read), hmake frames]
  rfl

/-- The frames of an announced list are its reply. -/
lemma Announces.ofFrames_eq (h : Announces c f l n) {frames : List Frame}
    (hlength : frames.length = n) : ofFrames c f frames = .ok (l.reply frames) := by
  have hyields := yields_nextOf frames []
  rw [List.append_nil] at hyields
  rw [ofFrames, h.decode_run hlength hyields]

/-- An announced list fails with the source. -/
lemma Announces.decode_run_of_failsAfter (h : Announces c f l n) {s u : σ} {k : Nat} {e : Error}
    (hk : k < n) (hfails : FailsAfter next s k e u) : (decode next c f).run s = (.error e, u) := by
  obtain ⟨α, read, make, hdecode, -⟩ := h.exists_decode_eq next
  rw [hdecode, Call.run_bind_of_error (hfails.followUps_run hk read)]

/-- **A reply takes as many frames as are announced.**  Without an announcement the reply is the
same from every source, and leaves it as it is.  Where a list of `n` lines is announced, `n` frames
are taken if the source hands them out, and they are read line by line; and if it fails before, the
reply fails with its error, and nothing is taken after it. -/
theorem decode_takes_announced (c : Command) (f : Frame) :
    ((∀ l n, ¬ Announces c f l n) → ∃ x : Except Error Reply,
      ∀ (σ : Type) (next : Call σ Frame) (s : σ), (decode next c f).run s = (x, s)) ∧
    ∀ l n, Announces c f l n → ∀ (σ : Type) (next : Call σ Frame) (s : σ),
      (∀ frames t, frames.length = n → Yields next s frames t → ∃ reply, l.Reads frames reply ∧
        (∀ list, reply = .agents list → list.length ≤ n) ∧
          (decode next c f).run s = (.ok reply, t)) ∧
      ∀ k e u, k < n → FailsAfter next s k e u → (decode next c f).run s = (.error e, u) := by
  refine ⟨fun hnone => ?_, fun l n h σ next s => ⟨fun frames t hlength hyields => ?_, ?_⟩⟩
  · rcases judges_or_announces c f with ⟨x, hjudges⟩ | ⟨l, n, hannounces⟩
    · exact ⟨x, fun σ next s => by rw [hjudges.decode_eq next, Call.run_ofExcept]⟩
    · exact absurd hannounces (hnone l n)
  · have hreads : l.Reads frames (l.reply frames) := Listing.reads_iff.2 rfl
    refine ⟨l.reply frames, hreads, fun list hlist => ?_, h.decode_run hlength hyields⟩
    rw [hlist] at hreads
    cases hreads with
    | agents hagents => exact hlength ▸ hagents.length_le
  · intro k e u hk hfails
    exact h.decode_run_of_failsAfter hk hfails

/-- A list of two measurements, the second of which cannot be read, leaves the third frame alone,
and a source that ends after the first fails it. A line of statistics that cannot be read is ten
zeros, and the answer to a stop takes nothing. -/
theorem decode_takes_announced_twoLines :
    let list : Command := ⟨.measure, "LST".toList, by decide, by decide⟩
    let statistics : Command := ⟨.measure, "STAT 4".toList, by decide, by decide⟩
    let stop : Command := ⟨.measure, "STOP".toList, by decide, by decide⟩
    (decode nextOf list ⟨.measurement, "LST NUM 2".toList⟩).run [⟨.measurement, "LST 4 7".toList⟩,
        ⟨.rejected, "LST 5 x".toList⟩, ⟨.accepted, []⟩] =
      (.ok (.measurements [⟨4, 7⟩, ⟨0, 0⟩]), [⟨.accepted, []⟩]) ∧
    (decode nextOf list ⟨.measurement, "LST NUM 2".toList⟩).run [⟨.measurement, "LST 4 7".toList⟩] =
      (.error .timeout, []) ∧
    (decode nextOf statistics ⟨.measurement, "STAT NUM 1".toList⟩).run
        [⟨.measurement, "STAT 7".toList⟩] =
      (.ok (.statisticsList [⟨[0, 0, 0, 0, 0, 0, 0, 0, 0, 0], by decide⟩]), []) ∧
    ∃ x : Except Error Reply, ∀ frames, (decode nextOf stop ⟨.accepted, []⟩).run frames =
      (x, frames) := by
  intro list statistics stop
  have hlist : Announces list ⟨.measurement, "LST NUM 2".toList⟩ .measurements 2 := by
    have hdigits : Payload.Consists Text.isDecimalDigit "2".toList := ⟨by decide, by decide⟩
    exact ⟨rfl, rfl, "2".toList, Payload.startsWithRun_append "LST NUM " hdigits, by decide⟩
  have hstatistics : Announces statistics ⟨.measurement, "STAT NUM 1".toList⟩ .statistics 1 := by
    have hdigits : Payload.Consists Text.isDecimalDigit "1".toList := ⟨by decide, by decide⟩
    exact ⟨rfl, rfl, "1".toList, Payload.startsWithRun_append "STAT NUM " hdigits, by decide⟩
  have hstop : ∀ l n, ¬ Announces stop ⟨.accepted, []⟩ l n := by
    intro l n h
    have htag := h.tag_eq
    cases l <;> cases htag
  have htakes := (decode_takes_announced list _).2 _ _ hlist _ nextOf
  refine ⟨?_, ?_, ?_, ?_⟩
  · obtain ⟨reply, hreads, -, hrun⟩ := (htakes _).1 [⟨.measurement, "LST 4 7".toList⟩,
      ⟨.rejected, "LST 5 x".toList⟩] [⟨.accepted, []⟩] rfl (yields_nextOf _ _)
    have hreply : reply = .measurements [⟨4, 7⟩, ⟨0, 0⟩] :=
      (Listing.reads_iff.1 hreads).trans (by decide)
    exact hreply ▸ hrun
  · exact (htakes _).2 1 .timeout [] (by decide) ⟨[⟨.measurement, "LST 4 7".toList⟩], [], rfl,
      yields_nextOf [_] [], rfl⟩
  · obtain ⟨reply, hreads, -, hrun⟩ := ((decode_takes_announced statistics _).2 _ _ hstatistics _
      nextOf _).1 [⟨.measurement, "STAT 7".toList⟩] [] rfl (yields_nextOf _ [])
    have hreply : reply = .statisticsList [⟨[0, 0, 0, 0, 0, 0, 0, 0, 0, 0], by decide⟩] :=
      (Listing.reads_iff.1 hreads).trans (by decide)
    exact hreply ▸ hrun
  · obtain ⟨x, hx⟩ := (decode_takes_announced stop ⟨.accepted, []⟩).1 hstop
    exact ⟨x, hx _ nextOf⟩

end Reply

end TimingBoard
