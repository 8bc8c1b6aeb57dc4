import TimingBoard.Proofs.Json.Configurations

/-!
# Configurations with members left out

A configuration is read from its members in any order and with any blanks between them.  The monitor
and the format can be left out, and are then read as no monitor and as the usual format.

So a configuration whose times were read survives its JSON, whatever its texts are: every character
of them is written in a string, by an escape or as itself.
-/

namespace TimingBoard

/-- A legal time is read from its JSON. -/
lemma TimeText.IsLegal.ofJson?_toJson {t : TimeText} (h : t.IsLegal) :
    ofJson? t.toJson = some t := by
  rw [IsLegal] at h
  simp [ofJson?, toJson, Json.text?, Json.ofText, h]

/-- An object with named members is read back if the values of the members are. -/
lemma Json.isWritable_ofMembers {members : List (String × Json)} :
    (Json.ofMembers members).IsWritable ↔ ∀ m ∈ members, m.2.IsWritable := by
  rw [ofMembers, IsWritable]
  induction members with
  | nil => simp [AreNamed]
  | cons m members ih => simp [AreNamed, ih]

namespace Configuration

/-! ## Members -/

variable {c : Configuration} {left : List String} {text : Text}

/-- The members of a configuration. -/
def members (c : Configuration) : List (String × Json) :=
  [("total_time", c.totalTime.toJson), ("window_time", c.windowTime.toJson),
    ("deadtime", c.deadtime.toJson), ("prefix", .ofText c.filePrefix),
    ("autosave", .ofNat c.autosave.toNat),
    ("monitor", match c.monitor with
      | some m => m.toJson
      | none => .null),
    ("format", .ofNat c.format.toNat)]

lemma nodup_members (c : Configuration) : (c.members.map Prod.fst).Nodup := by
  change ["total_time", "window_time", "deadtime", "prefix", "autosave", "monitor", "format"].Nodup
  decide

/-- The members of a configuration that are not left out. -/
def membersWithout (left : List String) (c : Configuration) : List (String × Json) :=
  c.members.filter fun m => m.1 ∉ left

/-- A text of the members of a configuration that are not left out, in any order and with any
blanks. -/
def WrittenWithout (left : List String) (c : Configuration) (text : Text) : Prop :=
  ∃ members, members.Perm (c.membersWithout left) ∧ Json.Writes text (.value (.ofMembers members))

/-- The configuration that is read if members are left out. -/
def withDefaults (left : List String) (c : Configuration) : Configuration :=
  { c with
    monitor := if "monitor" ∈ left then none else c.monitor
    format := if "format" ∈ left then defaultFormat else c.format }

/-! ## Reading -/

/-- A configuration is read from its members in any order, if none is left out but the monitor and
the format. -/
lemma ofJson?_ofMembers {members : List (String × Json)}
    (hperm : members.Perm (c.membersWithout left))
    (hleft : left ⊆ ["monitor", "format"]) (htimes : c.HasTimes TimeText.IsLegal) :
    ofJson? (.ofMembers members) = some (c.withDefaults left) := by
  have hnodup : ((c.membersWithout left).map Prod.fst).Nodup :=
    c.nodup_members.sublist (List.filter_sublist.map Prod.fst)
  have hlookup (name : String) :
      members.lookup name = if name ∈ left then none else c.members.lookup name := by
    rw [Json.lookup_eq_of_perm hnodup hperm, membersWithout,
      Json.lookup_filter c.nodup_members (fun name => name ∉ left)]
    simp only [decide_eq_true_eq, ite_not]
  have hkept (name : String) (hname : name ∉ ["monitor", "format"]) :
      members.lookup name = c.members.lookup name := by
    rw [hlookup, if_neg fun hmem => hname (hleft hmem)]
  let monitor : Json := match c.monitor with
    | some m => m.toJson
    | none => .null
  have hrecord : (Json.ofMembers members).record?
      ["total_time", "window_time", "deadtime", "prefix", "autosave", "monitor", "format"] =
      some ⟨[some c.totalTime.toJson, some c.windowTime.toJson, some c.deadtime.toJson,
        some (.ofText c.filePrefix), some (.ofNat c.autosave.toNat),
        if "monitor" ∈ left then none else some monitor,
        if "format" ∈ left then none else some (.ofNat c.format.toNat)], false⟩ := by
    rw [Json.record?_ofMembers _ ((hperm.map Prod.fst).nodup_iff.2 hnodup)]
    simp only [List.map_cons, List.map_nil, hkept "total_time" (by decide),
      hkept "window_time" (by decide), hkept "deadtime" (by decide), hkept "prefix" (by decide),
      hkept "autosave" (by decide), hlookup "monitor", hlookup "format"]
    rfl
  have hmonitor : monitorOfJson? false (if "monitor" ∈ left then none else some monitor) =
      some (if "monitor" ∈ left then none else c.monitor) := by
    split
    · rfl
    · exact monitorOfJson?_toJson c.monitor
  simp only [ofJson?, hrecord, bind, Option.bind_some, hmonitor, Json.uint32?_ofNat,
    htimes.totalTime.ofJson?_toJson, htimes.windowTime.ofJson?_toJson,
      htimes.deadtime.ofJson?_toJson]
  unfold withDefaults
  by_cases hformat : "format" ∈ left
  · rw [if_pos hformat, if_pos hformat]
    rfl
  · simp only [if_neg hformat, Json.uint32?_ofNat]
    rfl

/-- A text of a configuration is read as it, and so are the bytes of the text. -/
lemma WrittenWithout.read (h : c.WrittenWithout left text) (hleft : left ⊆ ["monitor", "format"])
    (htimes : c.HasTimes TimeText.IsLegal) :
    (Json.read? text).bind ofJson? = some (c.withDefaults left) ∧
      ofFile? (Text.toUtf8 text) = some (c.withDefaults left) := by
  obtain ⟨members, hperm, hwrites⟩ := h
  have hread : (Json.read? text).bind ofJson? = some (c.withDefaults left) := by
    rw [hwrites.read?, Option.bind_some, ofJson?_ofMembers hperm hleft htimes]
  refine ⟨hread, ?_⟩
  simpa only [ofFile?, Json.ofFile?, Text.ofUtf8?_toUtf8, bind, Option.bind_some] using hread

/-- What is left of the members is written compactly, or on lines of its own. -/
lemma writtenWithout_written (left : List String) (c : Configuration) :
    c.WrittenWithout left (Json.ofMembers (c.membersWithout left)).compact ∧
      c.WrittenWithout left (Json.ofMembers (c.membersWithout left)).pretty := by
  have hwritable : (Json.ofMembers (c.membersWithout left)).IsWritable :=
    Json.isWritable_ofMembers.2 fun m hm =>
      Json.isWritable_ofMembers.1 c.isWritable_toJson m (List.mem_of_mem_filter hm)
  exact ⟨⟨_, .refl _, Json.writes_compact _ hwritable⟩,
    ⟨_, .refl _, Json.writes_indented 0 _ hwritable⟩⟩

/-- **Configurations survive their JSON.**  A configuration whose times were read, with any texts
and numbers in it, is read back from either text of its JSON, and from the bytes of its file.  Its
members can be in any order, and with any blanks, and the monitor and the format can be left out:
then the configuration is read without a monitor and with the usual format, and is otherwise the
same. -/
theorem read_of_writtenWithout
    (htimes : c.HasTimes fun t => ∃ spelling, TimeText.read spelling = .ok t) :
    ((Json.read? c.toJson.compact).bind ofJson? = some c ∧
      (Json.read? c.toJson.pretty).bind ofJson? = some c ∧
      ofFile? (Text.toUtf8 c.toJson.pretty) = some c) ∧
    (∀ left ⊆ ["monitor", "format"],
      c.WrittenWithout left (Json.ofMembers (c.membersWithout left)).compact ∧
      c.WrittenWithout left (Json.ofMembers (c.membersWithout left)).pretty ∧
      ∀ text, c.WrittenWithout left text →
        (Json.read? text).bind ofJson? = some (c.withDefaults left) ∧
        ofFile? (Text.toUtf8 text) = some (c.withDefaults left)) ∧
    c.withDefaults [] = c ∧ c.withDefaults ["format"] = { c with format := 12 } ∧
    (c.monitor = none → c.withDefaults ["monitor"] = c ∧
      c.withDefaults ["monitor", "format"] = { c with format := 12 }) := by
  have hbuilt : c.HasTimes TimeText.IsBuilt := by
    obtain ⟨⟨_, htotal⟩, ⟨_, hwindow⟩, ⟨_, hdead⟩⟩ := htimes
    exact ⟨.spelled htotal, .spelled hwindow, .spelled hdead⟩
  have hlegal : c.HasTimes TimeText.IsLegal := by
    obtain ⟨⟨_, htotal⟩, ⟨_, hwindow⟩, ⟨_, hdead⟩⟩ := htimes
    exact ⟨TimeText.read_text htotal, TimeText.read_text hwindow, TimeText.read_text hdead⟩
  obtain ⟨hcompact, hpretty, hfile⟩ := read_written_iff (r := c) hbuilt
  refine ⟨⟨hcompact.2 ⟨rfl, hlegal⟩, hpretty.2 ⟨rfl, hlegal⟩, hfile.2 ⟨rfl, hlegal⟩⟩,
    fun left hleft => ?_, rfl, rfl, fun hmonitor => ?_⟩
  · obtain ⟨hcompact, hpretty⟩ := writtenWithout_written left c
    exact ⟨hcompact, hpretty, fun text htext => htext.read hleft hlegal⟩
  · obtain ⟨_, _, _, _, _, monitor, _⟩ := c
    obtain rfl : monitor = none := hmonitor
    exact ⟨rfl, rfl⟩

/-- A configuration with quotation marks, controls and a character from beyond the first plane in
its prefix. -/
def oddPrefix : Configuration :=
  ⟨⟨"10".toList, some .seconds⟩, ⟨"2.5".toList, some .minutes⟩, .unchanged,
    "a\"\\\n\x01".toList ++ [Char.ofNat 0x1F600], 4294967295, none, 7⟩

/-- The file of a configuration with an odd prefix is read, also without its monitor and its
format. -/
theorem read_of_writtenWithout_oddPrefix :
    ofFile? (Text.toUtf8 oddPrefix.toJson.pretty) = some oddPrefix ∧
    ofFile? (Text.toUtf8 (Json.ofMembers
      (oddPrefix.membersWithout ["monitor", "format"])).compact) =
        some { oddPrefix with format := 12 } := by
  have htimes : oddPrefix.HasTimes fun t => ∃ spelling, TimeText.read spelling = .ok t :=
    ⟨⟨"10s".toList, by decide +kernel⟩, ⟨"2.5M".toList, by decide +kernel⟩,
      ⟨"0u".toList, by decide +kernel⟩⟩
  obtain ⟨⟨-, -, hfile⟩, hleft, -, -, hnone⟩ := read_of_writtenWithout htimes
  refine ⟨hfile, ?_⟩
  obtain ⟨hcompact, -, hread⟩ := hleft ["monitor", "format"] (List.Subset.refl _)
  rw [← (hnone rfl).2]
  exact (hread _ hcompact).2

end Configuration

end TimingBoard
