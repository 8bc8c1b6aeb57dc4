import TimingBoard.Proofs.Json.Literals

/-!
# Texts of JSON values

A value is written compactly, or with its items and members on lines of their own.  Both ways put
the same parts in the same order, and differ only in the blanks between them.  So the texts are
described once, with any blanks between the parts, and whatever is written like this is read back as
the value that it was written for.

Every step of reading takes one of a number of steps, and twice the length of a text is enough of
them.
-/

namespace TimingBoard.Json

variable {t u rest blank : Text} {j : Json}

/-! ## Blanks -/

/-- A text of blanks only. -/
def IsBlankText (t : Text) : Prop :=
  ∀ c ∈ t, isBlank c = true

lemma isBlankText_nil : IsBlankText [] := by
  simp [IsBlankText]

lemma isBlankText_newLine (depth : Nat) : IsBlankText (newLine depth) := by
  intro c hc
  rcases List.mem_cons.1 hc with rfl | hc
  · decide
  · rw [List.eq_of_mem_replicate hc]
    decide

/-- Blanks in front of a text are passed over. -/
lemma skipBlank_append (h : IsBlankText blank) (t : Text) : skipBlank (blank ++ t) = skipBlank t :=
  List.dropWhile_append_of_pos h

lemma skipBlank_cons {c : Char} (h : isBlank c = false) (t : Text) :
    skipBlank (c :: t) = c :: t := by
  simp [skipBlank, h]

@[simp] lemma skipBlank_skipBlank (t : Text) : skipBlank (skipBlank t) = skipBlank t := by
  cases hskip : skipBlank t with
  | nil => rfl
  | cons c more =>
    have hfirst := List.head?_dropWhile_not isBlank t
    rw [show t.dropWhile isBlank = c :: more from hskip] at hfirst
    exact skipBlank_cons (by simpa using hfirst) more

lemma valueWithin_skipBlank (steps : Nat) (t : Text) :
    valueWithin steps (skipBlank t) = valueWithin steps t := by
  cases steps with
  | zero => rfl
  | succ steps => rw [valueWithin, valueWithin, skipBlank_skipBlank]

lemma itemsWithin_skipBlank (steps : Nat) (t : Text) :
    itemsWithin steps (skipBlank t) = itemsWithin steps t := by
  cases steps with
  | zero => rfl
  | succ steps => rw [itemsWithin, itemsWithin, valueWithin_skipBlank]

lemma membersWithin_skipBlank (steps : Nat) (t : Text) :
    membersWithin steps (skipBlank t) = membersWithin steps t := by
  cases steps with
  | zero => rfl
  | succ steps => rw [membersWithin, membersWithin, skipBlank_skipBlank]

/-! ## The grammar -/

/-- What a text stands for: a value, or what is between the brackets of an array or an object. -/
inductive Part where
  | value (j : Json)
  | items (items : List Json)
  | members (members : List (Option Text × Json))

/-- A text is written for a part of a value, with any blanks around items and members. -/
inductive Writes : Text → Part → Prop
  | null : Writes "null".toList (.value .null)
  | bool (value : Bool) : Writes (if value then "true" else "false").toList (.value (.bool value))
  | number {digits : Text} : IsNumber digits → Writes digits (.value (.number digits))
  | string (text : Text) : Writes (literal text) (.value (.string (some text)))
  | emptyArray : Writes ['[', ']'] (.value (.array []))
  | array {t : Text} {items : List Json} : Writes t (.items items) →
      Writes ('[' :: t ++ [']']) (.value (.array items))
  | emptyObject : Writes ['\x7b', '\x7d'] (.value (.object []))
  | object {t : Text} {members : List (Option Text × Json)} : Writes t (.members members) →
      Writes ('\x7b' :: t ++ ['\x7d']) (.value (.object members))
  | lastItem {before t behind : Text} {j : Json} : IsBlankText before → Writes t (.value j) →
      IsBlankText behind → Writes (before ++ t ++ behind) (.items [j])
  | item {before t u : Text} {j : Json} {items : List Json} : IsBlankText before →
      Writes t (.value j) → Writes u (.items items) →
      Writes (before ++ t ++ ',' :: u) (.items (j :: items))
  | lastMember {before between t behind : Text} {name : Text} {j : Json} : IsBlankText before →
      IsBlankText between → Writes t (.value j) → IsBlankText behind →
      Writes (before ++ literal name ++ ':' :: between ++ t ++ behind) (.members [(some name, j)])
  | member {before between t u : Text} {name : Text} {j : Json}
      {members : List (Option Text × Json)} : IsBlankText before → IsBlankText between →
      Writes t (.value j) → Writes u (.members members) →
      Writes (before ++ literal name ++ ':' :: between ++ t ++ ',' :: u)
        (.members ((some name, j) :: members))

/-! ## Reading what is written -/

/-- What may come right behind a value. -/
def EndsValue (rest : Text) : Prop :=
  ∀ c ∈ rest.head?, isBlank c = true ∨ c = ',' ∨ c = ']' ∨ c = '\x7d'

lemma EndsValue.endsNumber (h : EndsValue rest) : EndsNumber rest := by
  intro c hc
  rcases h c hc with hblank | rfl | rfl | rfl
  · simp only [isBlank, Bool.or_eq_true, beq_iff_eq] at hblank
    rcases hblank with ((rfl | rfl) | rfl) | rfl <;> decide
  all_goals decide

lemma endsValue_append (hblank : IsBlankText blank) (h : EndsValue rest) :
    EndsValue (blank ++ rest) := by
  cases blank with
  | nil => exact h
  | cons c blank =>
    intro d hd
    obtain rfl : c = d := Option.some.inj hd
    exact .inl (hblank c (by simp))

/-- A number starts with a digit or its sign. -/
lemma IsNumber.head (h : IsNumber t) : ∃ c more, t = c :: more ∧ (c.isDigit = true ∨ c = '-') := by
  unfold IsNumber at h
  cases t with
  | nil => cases h
  | cons c more =>
    refine ⟨c, more, rfl, ?_⟩
    by_contra hc
    simp only [not_or, Bool.not_eq_true] at hc
    have hhead : (c :: more).head? ≠ some '-' := fun heq => hc.2 (Option.some.inj heq)
    have hwhole : wholePart? (c :: more) = none := by
      unfold wholePart?
      split
      · next heq =>
        obtain ⟨rfl, -⟩ := List.cons.inj heq
        exact absurd hc.1 (by decide)
      · simp [digits?, hc.1]
    rw [number?_of_head? hhead, parts?, hwhole] at h
    cases h

/-- No text of a value starts with a blank or a closing bracket. -/
lemma Writes.head (h : Writes t (.value j)) :
    ∃ c more, t = c :: more ∧ isBlank c = false ∧ c ≠ ']' := by
  cases h with
  | null => exact ⟨_, _, rfl, by decide⟩
  | bool value => cases value <;> exact ⟨_, _, rfl, by decide⟩
  | number hnumber =>
    obtain ⟨c, more, rfl, hc⟩ := hnumber.head
    refine ⟨c, more, rfl, ?_⟩
    rcases hc with hdigit | rfl
    · refine ⟨?_, ?_⟩
      · simp only [isBlank, Bool.or_eq_false_iff, beq_eq_false_iff_ne]
        refine ⟨⟨⟨?_, ?_⟩, ?_⟩, ?_⟩ <;> rintro rfl <;> cases hdigit
      · rintro rfl
        cases hdigit
    · decide
  | string => exact ⟨_, _, rfl, by decide⟩
  | emptyArray => exact ⟨_, _, rfl, by decide⟩
  | array => exact ⟨_, _, rfl, by decide⟩
  | emptyObject => exact ⟨_, _, rfl, by decide⟩
  | object => exact ⟨_, _, rfl, by decide⟩

lemma word?_append (word : String) (value : Json) (rest : Text) :
    word? word value (word.toList ++ rest) = some (value, rest) := by
  rw [word?, List.isPrefixOf?_eq_some_iff_append_eq.2 rfl, Option.map_some]

/-- A number is read where a value is expected. -/
lemma valueWithin_number (h : IsNumber t) (hrest : EndsValue rest) (steps : Nat) :
    valueWithin (steps + 1) (t ++ rest) = some (.number t, rest) := by
  obtain ⟨c, more, rfl, hc⟩ := h.head
  obtain ⟨_, _, hcons, hblank, -⟩ := (Writes.number h).head
  obtain ⟨rfl, -⟩ := List.cons.inj hcons
  have hread := h.number?_append hrest.endsNumber
  have hother {d : Char} (hdigit : d.isDigit = false) (hminus : d ≠ '-') : c ≠ d := by
    rintro rfl
    rcases hc with hc | hc
    · rw [hc] at hdigit
      cases hdigit
    · exact hminus hc
  rw [List.cons_append] at hread ⊢
  rw [valueWithin, skipBlank_cons hblank]
  split
  · next heq => exact absurd (List.cons.inj heq).1 (hother (by decide) (by decide))
  · next heq => exact absurd (List.cons.inj heq).1 (hother (by decide) (by decide))
  · next heq => exact absurd (List.cons.inj heq).1 (hother (by decide) (by decide))
  · next heq => exact absurd (List.cons.inj heq).1 (hother (by decide) (by decide))
  · next heq => exact absurd (List.cons.inj heq).1 (hother (by decide) (by decide))
  · next heq => exact absurd (List.cons.inj heq).1 (hother (by decide) (by decide))
  · rw [hread]
    rfl

/-- A text is read back as a part, whatever comes behind it, given two steps for each character. -/
def ReadsBack (t : Text) : Part → Prop
  | .value j => ∀ steps rest, 2 * t.length ≤ steps → EndsValue rest →
      valueWithin steps (t ++ rest) = some (j, rest)
  | .items items => ∀ steps rest, 2 * t.length + 1 ≤ steps →
      itemsWithin steps (t ++ ']' :: rest) = some (items, rest)
  | .members members => ∀ steps rest, 2 * t.length + 1 ≤ steps →
      membersWithin steps (t ++ '\x7d' :: rest) = some (members, rest)

lemma readsBack_value {c : Char} {more : Text} (h : ∀ steps rest, 2 * more.length + 1 ≤ steps →
    EndsValue rest → valueWithin (steps + 1) (c :: (more ++ rest)) = some (j, rest)) :
    ReadsBack (c :: more) (.value j) := by
  intro steps rest hsteps hrest
  obtain ⟨steps, rfl⟩ : ∃ k, steps = k + 1 := ⟨steps - 1, by simp at hsteps; omega⟩
  exact h steps rest (by simp at hsteps; omega) hrest

/-- A value is read where an item or the value of a member is expected, with blanks in front of
it. -/
lemma ReadsBack.valueWithin (h : ReadsBack t (.value j)) (hblank : IsBlankText blank) {steps : Nat}
    (hsteps : 2 * t.length ≤ steps) (hrest : EndsValue rest) :
    valueWithin steps (blank ++ t ++ rest) = some (j, rest) := by
  rw [← valueWithin_skipBlank, List.append_assoc, skipBlank_append hblank, valueWithin_skipBlank]
  exact h steps rest hsteps hrest

/-- The items of an array do not start with its closing bracket. -/
lemma Writes.skipBlank_items {items : List Json} (h : Writes t (.items items)) (rest : Text) :
    ∃ c more, skipBlank (t ++ rest) = c :: more ∧ c ≠ ']' := by
  have hfirst {before t rest : Text} {j : Json} (hbefore : IsBlankText before)
      (ht : Writes t (.value j)) : ∃ c more, skipBlank (before ++ t ++ rest) = c :: more ∧
        c ≠ ']' := by
    obtain ⟨c, more, rfl, hblank, hbracket⟩ := ht.head
    refine ⟨c, more ++ rest, ?_, hbracket⟩
    rw [List.append_assoc, skipBlank_append hbefore, List.cons_append, skipBlank_cons hblank]
  cases h with
  | lastItem hbefore ht =>
    rw [List.append_assoc]
    exact hfirst hbefore ht
  | item hbefore ht =>
    rw [List.append_assoc]
    exact hfirst hbefore ht

lemma readsBack_array {items : List Json} (hwrites : Writes t (.items items))
    (h : ReadsBack t (.items items)) : ReadsBack ('[' :: t ++ [']']) (.value (.array items)) := by
  rw [List.cons_append]
  refine readsBack_value fun steps rest hsteps _ => ?_
  have hread := h steps rest (by simp at hsteps; omega)
  obtain ⟨c, more, hskip, hbracket⟩ := hwrites.skipBlank_items (']' :: rest)
  rw [← itemsWithin_skipBlank, hskip] at hread
  rw [valueWithin, skipBlank_cons (by decide), List.append_assoc, List.singleton_append]
  simp only [hskip]
  split
  · next heq => exact absurd (List.cons.inj heq).1 hbracket
  · rw [hread]
    rfl

/-- The members of an object start with the quotation mark of a name. -/
lemma Writes.skipBlank_members {members : List (Option Text × Json)}
    (h : Writes t (.members members)) (rest : Text) :
      ∃ more, skipBlank (t ++ rest) = '"' :: more := by
  have hfirst {before rest : Text} (name : Text) (hbefore : IsBlankText before) :
      ∃ more, skipBlank (before ++ literal name ++ rest) = '"' :: more := by
    refine ⟨name.flatMap escapeChar ++ ['"'] ++ rest, ?_⟩
    rw [List.append_assoc, skipBlank_append hbefore]
    exact skipBlank_cons (by decide) _
  cases h with
  | lastMember hbefore =>
    simp only [List.append_assoc, List.cons_append]
    rw [← List.append_assoc]
    exact hfirst _ hbefore
  | member hbefore =>
    simp only [List.append_assoc, List.cons_append]
    rw [← List.append_assoc]
    exact hfirst _ hbefore

lemma readsBack_object {members : List (Option Text × Json)} (hwrites : Writes t (.members members))
    (h : ReadsBack t (.members members)) :
    ReadsBack ('\x7b' :: t ++ ['\x7d']) (.value (.object members)) := by
  rw [List.cons_append]
  refine readsBack_value fun steps rest hsteps _ => ?_
  have hread := h steps rest (by simp at hsteps; omega)
  obtain ⟨more, hskip⟩ := hwrites.skipBlank_members ('\x7d' :: rest)
  rw [← membersWithin_skipBlank, hskip] at hread
  rw [valueWithin, skipBlank_cons (by decide), List.append_assoc, List.singleton_append]
  simp only [hskip]
  exact congrArg (Option.map fun x => (object x.1, x.2)) hread

/-- The name of a member is read up to what comes behind it. -/
lemma membersWithin_of_name (name : Text) (hblank : IsBlankText blank) (steps : Nat) (rest : Text) :
    membersWithin (steps + 1) (blank ++ literal name ++ ':' :: rest) = (do
      let (value, rest) ← valueWithin steps rest
      match skipBlank rest with
      | '\x7d' :: rest => some ([(some name, value)], rest)
      | ',' :: rest =>
        (membersWithin steps rest).map fun (members, rest) => ((some name, value) :: members, rest)
      | _ => none) := by
  have hskip : skipBlank (blank ++ literal name ++ ':' :: rest) =
      '"' :: (name.flatMap escapeChar ++ '"' :: ':' :: rest) := by
    rw [List.append_assoc, skipBlank_append hblank, literal]
    simp only [List.cons_append, List.append_assoc, List.nil_append]
    exact skipBlank_cons (by decide) _
  rw [membersWithin, hskip]
  simp only [string?_literal, bind, Option.bind_some]
  rw [skipBlank_cons (by decide)]
  rfl

/-- A closing bracket or a comma ends a value, also behind blanks. -/
lemma ReadsBack.valueWithin_append (h : ReadsBack t (.value j)) {before behind : Text} {c : Char}
    (hbefore : IsBlankText before) (hbehind : IsBlankText behind) {steps : Nat}
    (hsteps : 2 * t.length ≤ steps) (hc : c = ',' ∨ c = ']' ∨ c = '\x7d') (rest : Text) :
    ∃ left, Json.valueWithin steps (before ++ t ++ behind ++ c :: rest) = some (j, left) ∧
      skipBlank left = c :: rest := by
  have hends : EndsValue (c :: rest) := by
    intro d hd
    obtain rfl : c = d := Option.some.inj hd
    exact .inr hc
  have hblank : isBlank c = false := by
    rcases hc with rfl | rfl | rfl <;> decide
  refine ⟨behind ++ c :: rest, ?_, ?_⟩
  · rw [List.append_assoc (before ++ t)]
    exact h.valueWithin hbefore hsteps (endsValue_append hbehind hends)
  · rw [skipBlank_append hbehind, skipBlank_cons hblank]

/-- **Reading what is written.** A text is read back as the part of a value that it is written
for. -/
theorem Writes.readsBack {part : Part} (h : Writes t part) : ReadsBack t part := by
  induction h with
  | null => exact readsBack_value fun steps rest _ _ => word?_append "ull" .null rest
  | bool value =>
    cases value with
    | true => exact readsBack_value fun steps rest _ _ => word?_append "rue" (.bool true) rest
    | false => exact readsBack_value fun steps rest _ _ => word?_append "alse" (.bool false) rest
  | number hnumber =>
    obtain ⟨c, more, rfl, -⟩ := hnumber.head
    exact readsBack_value fun steps rest _ hrest => valueWithin_number hnumber hrest steps
  | string text =>
    rw [literal, List.cons_append]
    refine readsBack_value fun steps rest _ _ => ?_
    rw [valueWithin, skipBlank_cons (by decide), List.append_assoc]
    simp only [List.singleton_append, string?_literal]
    rfl
  | emptyArray => exact readsBack_value fun steps rest _ _ => rfl
  | array ht ih => exact readsBack_array ht ih
  | emptyObject => exact readsBack_value fun steps rest _ _ => rfl
  | object ht ih => exact readsBack_object ht ih
  | @lastItem before t behind _ hbefore _ hbehind ih =>
    intro steps rest hsteps
    simp only [List.length_append] at hsteps
    obtain ⟨steps, rfl⟩ : ∃ k, steps = k + 1 := ⟨steps - 1, by omega⟩
    have hlength : 2 * t.length ≤ steps := by omega
    obtain ⟨left, hread, hleft⟩ :=
      ih.valueWithin_append hbefore hbehind hlength (.inr (.inl rfl)) rest
    rw [itemsWithin, hread]
    simp only [bind, Option.bind_some, hleft]
  | @item before t u _ _ hbefore _ _ ih ihu =>
    intro steps rest hsteps
    simp only [List.length_append, List.length_cons] at hsteps
    obtain ⟨steps, rfl⟩ : ∃ k, steps = k + 1 := ⟨steps - 1, by omega⟩
    have hlength : 2 * t.length ≤ steps := by omega
    have htext : before ++ t ++ ',' :: u ++ ']' :: rest =
        before ++ t ++ [] ++ ',' :: (u ++ ']' :: rest) := by simp
    obtain ⟨left, hread, hleft⟩ := ih.valueWithin_append hbefore isBlankText_nil hlength (.inl rfl)
      (u ++ ']' :: rest)
    rw [itemsWithin, htext, hread]
    simp only [bind, Option.bind_some, hleft]
    rw [ihu steps rest (by omega)]
    rfl
  | @lastMember before between t behind name _ hbefore hbetween _ hbehind ih =>
    intro steps rest hsteps
    simp only [List.length_append, List.length_cons] at hsteps
    obtain ⟨steps, rfl⟩ : ∃ k, steps = k + 1 := ⟨steps - 1, by omega⟩
    have hlength : 2 * t.length ≤ steps := by omega
    have htext : before ++ literal name ++ ':' :: between ++ t ++ behind ++ '\x7d' :: rest =
        before ++ literal name ++ ':' :: (between ++ t ++ behind ++ '\x7d' :: rest) := by simp
    obtain ⟨left, hread, hleft⟩ :=
      ih.valueWithin_append hbetween hbehind hlength (.inr (.inr rfl)) rest
    rw [htext, membersWithin_of_name name hbefore, hread]
    simp only [bind, Option.bind_some, hleft]
  | @member before between t u name _ _ hbefore hbetween _ _ ih ihu =>
    intro steps rest hsteps
    simp only [List.length_append, List.length_cons] at hsteps
    obtain ⟨steps, rfl⟩ : ∃ k, steps = k + 1 := ⟨steps - 1, by omega⟩
    have hlength : 2 * t.length ≤ steps := by omega
    have htext : before ++ literal name ++ ':' :: between ++ t ++ ',' :: u ++ '\x7d' :: rest =
        before ++ literal name ++ ':' :: (between ++ t ++ [] ++ ',' :: (u ++ '\x7d' :: rest)) := by
          simp
    obtain ⟨left, hread, hleft⟩ := ih.valueWithin_append hbetween isBlankText_nil hlength (.inl rfl)
      (u ++ '\x7d' :: rest)
    rw [htext, membersWithin_of_name name hbefore, hread]
    simp only [bind, Option.bind_some, hleft]
    rw [ihu steps rest (by omega)]
    rfl

/-- A text that is written for a value is read as it. -/
lemma Writes.read? (h : Writes t (.value j)) : Json.read? t = some j := by
  have hread := h.readsBack (2 * t.length + 2) [] (by omega) (by simp [EndsValue])
  rw [List.append_nil] at hread
  simp [Json.read?, hread, skipBlank]

/-! ## How values are written -/

mutual

/-- A value that is read back: its strings stand for texts, and its numbers are literals of
numbers. -/
def IsWritable : Json → Prop
  | .number literal => IsNumber literal
  | .string value => value.isSome = true
  | .array items => AreWritable items
  | .object members => AreNamed members
  | _ => True

/-- Items of an array that are read back. -/
def AreWritable : List Json → Prop
  | [] => True
  | item :: rest => IsWritable item ∧ AreWritable rest

/-- Members of an object that are read back. -/
def AreNamed : List (Option Text × Json) → Prop
  | [] => True
  | (name, value) :: rest => name.isSome = true ∧ IsWritable value ∧ AreNamed rest

end

mutual

/-- A value is written compactly. -/
lemma writes_compact : (j : Json) → j.IsWritable → Writes (compact j) (.value j)
  | .null, _ => .null
  | .bool value, _ => .bool value
  | .number _, h => .number h
  | .string (some text), _ => .string text
  | .array [], _ => .emptyArray
  | .array (item :: rest), h => by
    have hitems := writes_compactItems rest h.2 (writes_compact item h.1)
    exact .array hitems
  | .object [], _ => .emptyObject
  | .object ((some name, value) :: rest), h => by
    have hmembers := writes_compactMembers rest h.2.2 name (writes_compact value h.2.1)
    exact .object hmembers

/-- The items after the first are written compactly. -/
lemma writes_compactItems : (rest : List Json) → AreWritable rest → {t : Text} → {j : Json} →
    Writes t (.value j) → Writes (t ++ compactItems rest) (.items (j :: rest))
  | [], _, _, _, ht => .lastItem isBlankText_nil ht isBlankText_nil
  | item :: rest, h, _, _, ht =>
    .item isBlankText_nil ht (writes_compactItems rest h.2 (writes_compact item h.1))

/-- The members after the first are written compactly. -/
lemma writes_compactMembers : (rest : List (Option Text × Json)) → AreNamed rest → (name : Text) →
    {t : Text} → {j : Json} → Writes t (.value j) →
    Writes (literal name ++ ':' :: t ++ compactMembers rest) (.members ((some name, j) :: rest))
  | [], _, name, t, j, ht => by
    have hlast : Writes ([] ++ literal name ++ ':' :: [] ++ t ++ []) (.members [(some name, j)]) :=
      .lastMember isBlankText_nil isBlankText_nil ht isBlankText_nil
    simpa [compactMembers] using hlast
  | (some next, value) :: rest, h, name, t, j, ht => by
    have hrest := writes_compactMembers rest h.2.2 next (writes_compact value h.2.1)
    have hmember : Writes ([] ++ literal name ++ ':' :: [] ++ t ++ ',' ::
        (literal next ++ ':' :: compact value ++ compactMembers rest))
        (.members ((some name, j) :: (some next, value) :: rest)) :=
      .member isBlankText_nil isBlankText_nil ht hrest
    simpa [compactMembers] using hmember

end

lemma isBlankText_space : IsBlankText [' '] := by
  simp [IsBlankText, isBlank]

mutual

/-- A value is written with its parts on lines of their own. -/
lemma writes_indented (depth : Nat) : (j : Json) → j.IsWritable →
    Writes (indented depth j) (.value j)
  | .null, _ => .null
  | .bool value, _ => .bool value
  | .number _, h => .number h
  | .string (some text), _ => .string text
  | .array [], _ => .emptyArray
  | .array (item :: rest), h => by
    have hitems := writes_indentedItems depth rest h.2 (writes_indented (depth + 1) item h.1)
    simpa [indented] using Writes.array hitems
  | .object [], _ => .emptyObject
  | .object ((some name, value) :: rest), h => by
    have hmembers := writes_indentedMembers depth rest h.2.2 name
      (writes_indented (depth + 1) value h.2.1)
    simpa [indented] using Writes.object hmembers

/-- The items after the first are written on lines of their own. -/
lemma writes_indentedItems (depth : Nat) : (rest : List Json) → AreWritable rest → {t : Text} →
    {j : Json} → Writes t (.value j) →
    Writes (newLine (depth + 1) ++ t ++ indentedItems depth rest ++ newLine depth)
      (.items (j :: rest))
  | [], _, t, j, ht => by
    have hlast := Writes.lastItem (isBlankText_newLine (depth + 1)) ht (isBlankText_newLine depth)
    simpa [indentedItems] using hlast
  | item :: rest, h, t, j, ht => by
    have hrest := writes_indentedItems depth rest h.2 (writes_indented (depth + 1) item h.1)
    have hitem := Writes.item (isBlankText_newLine (depth + 1)) ht hrest
    simpa [indentedItems] using hitem

/-- The members after the first are written on lines of their own. -/
lemma writes_indentedMembers (depth : Nat) : (rest : List (Option Text × Json)) → AreNamed rest →
    (name : Text) → {t : Text} → {j : Json} → Writes t (.value j) →
    Writes (newLine (depth + 1) ++ literal name ++ ": ".toList ++ t ++ indentedMembers depth rest ++
      newLine depth) (.members ((some name, j) :: rest))
  | [], _, name, t, j, ht => by
    have hlast : Writes (newLine (depth + 1) ++ literal name ++ ':' :: [' '] ++ t ++ newLine depth)
        (.members [(some name, j)]) :=
      .lastMember (isBlankText_newLine _) isBlankText_space ht (isBlankText_newLine _)
    simpa [indentedMembers] using hlast
  | (some next, value) :: rest, h, name, t, j, ht => by
    have hrest :=
      writes_indentedMembers depth rest h.2.2 next (writes_indented (depth + 1) value h.2.1)
    have hmember : Writes (newLine (depth + 1) ++ literal name ++ ':' :: [' '] ++ t ++ ',' :: _)
        (.members ((some name, j) :: (some next, value) :: rest)) :=
      .member (isBlankText_newLine _) isBlankText_space ht hrest
    simpa [indentedMembers] using hmember

end

/-- **Values survive their texts.** A value whose strings stand for texts and whose numbers are
literals of numbers is read back from either text that is written for it. -/
theorem read?_written {j : Json} (h : j.IsWritable) :
    read? j.compact = some j ∧ read? j.pretty = some j :=
  ⟨(writes_compact j h).read?, (writes_indented 0 j h).read?⟩

end TimingBoard.Json
