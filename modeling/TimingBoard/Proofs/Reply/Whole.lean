import TimingBoard.Proofs.Reply.Outcome
import TimingBoard.Proofs.Reply.Values

/-!
# Values that fill their payload

The value of a setting has a frame to itself, so that its payload should be a sentence and nothing
else.  The decoder looks for the sentence at the start of the payload and does not look at what
follows it: `TT 5min` is taken for the five milliseconds of `TT 5m`.

The payloads that show a value are split here into those that are a sentence and those that overrun
one.  Both are decoded, so that the grammar holds of the whole payload exactly where nothing is
overrun.
-/

namespace TimingBoard

namespace Reply

open Payload

variable {σ : Type} {c : Command} {f : Frame} {payload : Text} {reply other : Reply}

/-! ## Sentences -/

/-- A reply is the value of a setting that the client understands. -/
def IsSetting : Reply → Prop
  | .timing _ _ | .filePrefix _ | .autosave _ | .monitor _ => True
  | _ => False

/-- The whole payload is a sentence of the grammar of its key, and shows the value of a setting. -/
inductive IsSentence (payload : Text) : Reply → Prop
  | timing {key : TimingKey} {magnitude : Text} {unit : TimeUnit} {x : Binary64} :
    payload = key.word ++ ' ' :: (magnitude ++ [unit.letter]) → IsMagnitude magnitude →
      Binary64.read? magnitude = some x → x.isFinite = true →
        IsSentence payload (.timing key ⟨magnitude, some unit⟩)
  | filePrefix {token : Text} :
    payload = "PREFIX ".toList ++ token → Consists Token.isCharacter token →
      IsSentence payload (.filePrefix (if token = "NONE".toList then [] else token))
  | autosave {run : Text} {count : UInt32} :
    payload = "AUTOSAVE ".toList ++ run → Consists Text.isDecimalDigit run →
      Natural.readUInt32? run = some count → IsSentence payload (.autosave count)
  | monitor {saveRun countRun filename : Text} {save count : UInt32} :
    payload = "MONITOR ".toList ++ (saveRun ++ ' ' :: (countRun ++ lastWord filename)) →
      Consists Text.isDecimalDigit saveRun → Consists Text.isDecimalDigit countRun →
        (∀ c ∈ filename, Token.isCharacter c = true) → Natural.readUInt32? saveRun = some save →
          Natural.readUInt32? countRun = some count →
            IsSentence payload (.monitor ⟨save, count, filename⟩)

/-- The payload goes on behind the sentence that shows the value of a setting.  Behind the numbers
of a monitor the file name is looked for after any white space, or none. -/
inductive Overruns (payload : Text) : Reply → Prop
  | timing {key : TimingKey} {magnitude rest : Text} {unit : TimeUnit} {x : Binary64} :
    payload = key.word ++ ' ' :: (magnitude ++ unit.letter :: rest) → rest ≠ [] →
      IsMagnitude magnitude → Binary64.read? magnitude = some x → x.isFinite = true →
        Overruns payload (.timing key ⟨magnitude, some unit⟩)
  | filePrefix {token rest : Text} :
    payload = "PREFIX ".toList ++ (token ++ rest) → rest ≠ [] → StopsAt Token.isCharacter rest →
      Consists Token.isCharacter token →
        Overruns payload (.filePrefix (if token = "NONE".toList then [] else token))
  | autosave {run rest : Text} {count : UInt32} :
    payload = "AUTOSAVE ".toList ++ (run ++ rest) → rest ≠ [] → StopsAt Text.isDecimalDigit rest →
      Consists Text.isDecimalDigit run → Natural.readUInt32? run = some count →
        Overruns payload (.autosave count)
  | monitor {saveRun countRun gap filename rest : Text} {save count : UInt32} :
    payload = "MONITOR ".toList ++ (saveRun ++ ' ' :: (countRun ++ (gap ++ (filename ++ rest)))) →
      gap ++ (filename ++ rest) ≠ lastWord filename →
        Consists Text.isDecimalDigit saveRun → Consists Text.isDecimalDigit countRun →
          StopsAt Text.isDecimalDigit (gap ++ (filename ++ rest)) →
            (∀ c ∈ gap, Text.isSpace c = true) → StopsAt Text.isSpace (filename ++ rest) →
              (∀ c ∈ filename, Token.isCharacter c = true) → StopsAt Token.isCharacter rest →
                Natural.readUInt32? saveRun = some save →
                  Natural.readUInt32? countRun = some count →
                  Overruns payload (.monitor ⟨save, count, filename⟩)

/-! ## Sentences at the start of a payload -/

/-- A sentence shows its value. -/
lemma IsSentence.showsSetting (h : IsSentence payload reply) : ShowsSetting payload reply := by
  cases h with
  | timing hpayload hmagnitude hx hfinite => exact .timing ⟨hmagnitude, [], hpayload⟩ hx hfinite
  | filePrefix hpayload hrun =>
    exact .filePrefix (hpayload ▸ startsWithRun_append "PREFIX " hrun)
  | autosave hpayload hrun hcount =>
    exact .autosave (hpayload ▸ startsWithRun_append "AUTOSAVE " hrun) hcount
  | monitor hpayload hsaveRun hcountRun hfile hsave hcount =>
    exact .monitor (hpayload ▸ startsWithMonitor_lastWord hsaveRun hcountRun hfile) hsave hcount

/-- A sentence that is overrun shows its value all the same. -/
lemma Overruns.showsSetting (h : Overruns payload reply) : ShowsSetting payload reply := by
  cases h with
  | timing hpayload _ hmagnitude hx hfinite => exact .timing ⟨hmagnitude, _, hpayload⟩ hx hfinite
  | filePrefix hpayload _ hstop hrun => exact .filePrefix ⟨_, hpayload, hrun, hstop⟩
  | autosave hpayload _ hstop hrun hcount => exact .autosave ⟨_, hpayload, hrun, hstop⟩ hcount
  | monitor hpayload _ hsaveRun hcountRun hstop hgap hfirst hfile hrest hsave hcount =>
    exact .monitor ⟨_, _, hpayload, hsaveRun, hcountRun, hstop, hgap, hfirst, hfile, hrest⟩
      hsave hcount

/-- A value is shown by a sentence, or by a payload that overruns one. -/
lemma showsSetting_iff_isSentence_or_overruns :
    ShowsSetting payload reply ↔ IsSentence payload reply ∨ Overruns payload reply := by
  refine ⟨fun h => ?_, fun h => h.elim IsSentence.showsSetting Overruns.showsSetting⟩
  cases h with
  | timing hstart hx hfinite =>
    obtain ⟨hmagnitude, rest, hpayload⟩ := hstart
    by_cases hrest : rest = []
    · exact Or.inl (.timing (hrest ▸ hpayload) hmagnitude hx hfinite)
    · exact Or.inr (.timing hpayload hrest hmagnitude hx hfinite)
  | filePrefix hstart =>
    obtain ⟨rest, hpayload, hrun, hstop⟩ := hstart
    by_cases hrest : rest = []
    · exact Or.inl (.filePrefix (by rw [hpayload, hrest, List.append_nil]) hrun)
    · exact Or.inr (.filePrefix hpayload hrest hstop hrun)
  | autosave hstart hcount =>
    obtain ⟨rest, hpayload, hrun, hstop⟩ := hstart
    by_cases hrest : rest = []
    · exact Or.inl (.autosave (by rw [hpayload, hrest, List.append_nil]) hrun hcount)
    · exact Or.inr (.autosave hpayload hrest hstop hrun hcount)
  | @monitor _ _ filename _ _ hstart hsave hcount =>
    obtain ⟨gap, rest, hpayload, hsaveRun, hcountRun, hstop, hgap, hfirst, hfile, hrest⟩ := hstart
    by_cases htail : gap ++ (filename ++ rest) = lastWord filename
    · exact Or.inl (.monitor (htail ▸ hpayload) hsaveRun hcountRun hfile hsave hcount)
    · exact Or.inr (.monitor hpayload htail hsaveRun hcountRun hstop hgap hfirst hfile hrest hsave
        hcount)

/-! ## Sentences that are not overrun -/

/-- The reader of the first word finds one value. -/
lemma showsSetting_unique (h : ShowsSetting payload reply) (hother : ShowsSetting payload other) :
    reply = other := by
  obtain ⟨read, hread, hsome⟩ := (showsSetting_iff (f := ⟨.value, payload⟩)).1 h
  obtain ⟨read', hread', hsome'⟩ := (showsSetting_iff (f := ⟨.value, payload⟩)).1 hother
  obtain rfl : read = read' := Option.some.inj (hread.symm.trans hread')
  exact Option.some.inj (hsome.symm.trans hsome')

/-- A run is cut out behind a fixed start in one way. -/
lemma startsWithRun_unique {p : Char → Bool} {start : String} {run run' : Text}
    (h : StartsWithRun p start payload run) (h' : StartsWithRun p start payload run') :
    run = run' :=
  Option.some.inj ((run?_after?_eq_some.2 h).symm.trans (run?_after?_eq_some.2 h'))

/-- The parts of a monitor are cut out in one way. -/
lemma startsWithMonitor_unique {save count filename save' count' filename' : Text}
    (h : StartsWithMonitor payload save count filename)
    (h' : StartsWithMonitor payload save' count' filename') :
    save = save' ∧ count = count' ∧ filename = filename' := by
  simpa using (Payload.monitor?_eq_some.2 h).symm.trans (Payload.monitor?_eq_some.2 h')

/-- A sentence is not overrun. -/
lemma IsSentence.not_overruns (h : IsSentence payload reply) : ¬ Overruns payload other := by
  intro hover
  -- Both show the same value, and cut it out in the same way, so that the same is left behind it.
  have heq := showsSetting_unique h.showsSetting hover.showsSetting
  cases h with
  | timing hpayload =>
    cases hover with
    | timing hpayload' hrest =>
      cases heq
      rw [hpayload] at hpayload'
      exact hrest (by simpa using hpayload')
    | _ => cases heq
  | filePrefix hpayload hrun =>
    cases hover with
    | filePrefix hpayload' hrest hstop hrun' =>
      obtain rfl := startsWithRun_unique (hpayload ▸ startsWithRun_append "PREFIX " hrun)
        ⟨_, hpayload', hrun', hstop⟩
      rw [hpayload] at hpayload'
      exact hrest (by simpa using hpayload')
    | _ => cases heq
  | autosave hpayload hrun =>
    cases hover with
    | autosave hpayload' hrest hstop hrun' =>
      obtain rfl := startsWithRun_unique (hpayload ▸ startsWithRun_append "AUTOSAVE " hrun)
        ⟨_, hpayload', hrun', hstop⟩
      rw [hpayload] at hpayload'
      exact hrest (by simpa using hpayload')
    | _ => cases heq
  | monitor hpayload hsave hcount hfile =>
    cases hover with
    | monitor hpayload' htail hsave' hcount' hstop hgap hfirst hfile' hrest =>
      obtain ⟨rfl, rfl, rfl⟩ := startsWithMonitor_unique
        (hpayload ▸ startsWithMonitor_lastWord hsave hcount hfile)
        ⟨_, _, hpayload', hsave', hcount', hstop, hgap, hfirst, hfile', hrest⟩
      rw [hpayload] at hpayload'
      exact htail (by simpa using hpayload'.symm)
    | _ => cases heq

/-! ## What is decoded -/

variable (next : Call σ Frame) (s : σ)

lemma ShowsSetting.isSetting (h : ShowsSetting payload reply) : reply.IsSetting := by
  cases h <;> trivial

/-- The value of a setting is decoded from the payloads that show it. -/
lemma decode_run_eq_setting_iff (hvalue : IsValue c f) (hsetting : reply.IsSetting) :
    ((decode next c f).run s).1 = .ok reply ↔ ShowsSetting f.payload reply := by
  rw [decode_run_eq_ok_iff_judges (by rintro l frames hreads; cases hreads <;> exact hsetting)]
  constructor
  · intro hjudges
    cases hjudges with
    | setting _ hshows => exact hshows
    | _ => exact hsetting.elim
  · exact Judges.setting hvalue

/-- Behind the word of a setting a payload that shows no value is malformed. -/
lemma decode_run_of_not_shows (hvalue : IsValue c f) (hword : f.key ∈ settingWords)
    (hagents : f.key ≠ "AGENTS".toList) (h : ∀ reply, ¬ ShowsSetting f.payload reply) :
    ((decode next c f).run s).1 = .error (.malformed c f) := by
  have hmalformed : IsMalformed c f :=
    .value hvalue hword h fun n hannounces => hagents hannounces.key_eq
  rw [hmalformed.decode_eq, Call.run_ofExcept]

/-- A payload that starts with a value has a first word that is understood, and announces no
agents. -/
lemma ShowsSetting.key_mem_of_append {head rest : Text} (h : ShowsSetting head reply)
    (hpayload : f.payload = head ++ rest) : f.key ∈ settingWords ∧ f.key ≠ "AGENTS".toList := by
  obtain ⟨read, hread, -⟩ := (showsSetting_iff (f := ⟨.value, head⟩)).1 h
  rw [h.key_eq] at hread
  rw [h.key_eq_of_append hpayload]
  refine ⟨mem_settingWords_iff.2 (Or.inl (by rw [hread]; rfl)), fun hagents => ?_⟩
  have hnone : reader? "AGENTS".toList = none := rfl
  rw [hagents, hnone] at hread
  cases hread

/-- The grammar is enforced on the whole of a payload: the value of a setting is decoded from a
sentence alone, and a payload that starts with a sentence and is none is malformed. -/
structure EnforcesWhole (next : Call σ Frame) (c : Command) (f : Frame) (s : σ) : Prop where
  isSentence : ∀ reply : Reply, reply.IsSetting → ((decode next c f).run s).1 = .ok reply →
    IsSentence f.payload reply
  malformed : ∀ (head rest : Text) (shown : Reply), f.payload = head ++ rest →
    IsSentence head shown → (∀ reply, ¬ IsSentence f.payload reply) →
      ((decode next c f).run s).1 = .error (.malformed c f)

/-- **Where the grammar is enforced.**  A value is decoded exactly from the payloads that are its
sentence and those that overrun it, and no payload is both.  Hence the grammar is enforced on the
whole payload exactly where no sentence is overrun.  Behind the word of a setting everything else is
malformed. -/
theorem enforcesWhole_iff (next : Call σ Frame) (s : σ) (hvalue : IsValue c f) :
    (EnforcesWhole next c f s ↔ ∀ reply, ¬ Overruns f.payload reply) ∧
    (∀ reply : Reply, reply.IsSetting → (((decode next c f).run s).1 = .ok reply ↔
      IsSentence f.payload reply ∨ Overruns f.payload reply)) ∧
    (∀ reply other, IsSentence f.payload reply → ¬ Overruns f.payload other) ∧
    (f.key ∈ settingWords → f.key ≠ "AGENTS".toList → (∀ reply, ¬ IsSentence f.payload reply) →
      (∀ reply, ¬ Overruns f.payload reply) →
        ((decode next c f).run s).1 = .error (.malformed c f)) := by
  have hdecode : ∀ reply : Reply, reply.IsSetting → (((decode next c f).run s).1 = .ok reply ↔
      IsSentence f.payload reply ∨ Overruns f.payload reply) := fun reply hsetting =>
    (decode_run_eq_setting_iff next s hvalue hsetting).trans showsSetting_iff_isSentence_or_overruns
  have hmalformed : f.key ∈ settingWords → f.key ≠ "AGENTS".toList →
      (∀ reply, ¬ IsSentence f.payload reply) → (∀ reply, ¬ Overruns f.payload reply) →
        ((decode next c f).run s).1 = .error (.malformed c f) := by
    intro hword hagents hnone hover
    refine decode_run_of_not_shows next s hvalue hword hagents fun reply hshows => ?_
    exact (showsSetting_iff_isSentence_or_overruns.1 hshows).elim (hnone reply) (hover reply)
  refine ⟨⟨fun henforces reply hover => ?_, fun hover => ⟨fun reply hsetting hok => ?_, ?_⟩⟩,
    hdecode, fun reply other h => h.not_overruns, hmalformed⟩
  · have hsetting := hover.showsSetting.isSetting
    have hok := (hdecode reply hsetting).2 (Or.inr hover)
    exact (henforces.isSentence reply hsetting hok).not_overruns hover
  · exact ((hdecode reply hsetting).1 hok).resolve_right (hover reply)
  · intro head rest shown hpayload hsentence hnone
    obtain ⟨hword, hagents⟩ := hsentence.showsSetting.key_mem_of_append hpayload
    exact hmalformed hword hagents hnone hover

/-- A second word behind the file prefix is not looked at. -/
theorem enforcesWhole_iff_secondWord :
    let ask : Command := ⟨.get, "PREFIX".toList, by decide, by decide⟩
    let first : Frame := ⟨.value, "PREFIX run 7".toList⟩
    IsValue ask first ∧ Overruns first.payload (.filePrefix "run".toList) ∧
      ((decode nextOf ask first).run []).1 = .ok (.filePrefix "run".toList) ∧
      ¬ EnforcesWhole nextOf ask first [] := by
  intro ask first
  have hvalue : IsValue ask first := ⟨rfl, rfl⟩
  have hover : Overruns first.payload (.filePrefix "run".toList) :=
    @Overruns.filePrefix _ "run".toList " 7".toList rfl (by decide) (stopsAt_cons.2 (by decide))
      ⟨by decide, by decide⟩
  obtain ⟨henforces, hdecode, -, -⟩ := enforcesWhole_iff nextOf [] hvalue
  exact ⟨hvalue, hover, (hdecode (.filePrefix _) trivial).2 (Or.inr hover),
    fun h => henforces.1 h _ hover⟩

/-- Five minutes in a longer spelling are decoded as five milliseconds. -/
theorem not_enforcesWhole_longerUnit :
    let ask : Command := ⟨.get, "TT".toList, by decide, by decide⟩
    let first : Frame := ⟨.value, "TT 5min".toList⟩
    IsValue ask first ∧
      ((decode nextOf ask first).run []).1 = .ok (.timing .totalTime ⟨['5'], some .millis⟩) ∧
      ¬ EnforcesWhole nextOf ask first [] := by
  intro ask first
  have hok : ((decode nextOf ask first).run []).1 =
      .ok (.timing .totalTime ⟨['5'], some .millis⟩) := by decide +kernel
  refine ⟨⟨rfl, rfl⟩, hok, fun henforces => ?_⟩
  have hsentence := henforces.isSentence (.timing _ _) trivial hok
  cases hsentence with
  | timing hpayload => simp [first, TimingKey.word, TimeUnit.letter] at hpayload

end Reply

end TimingBoard
