import Mathlib.Data.List.Nodup
import Mathlib.Tactic.Lemma
import TimingBoard.Json.Codec

/-!
# Records as JSON

A record is written as an object, with each field under its own name.  Whatever members an object
has, as long as no two of them share a name, each field is given the value of the member with its
name, and none if there is no such member.  So the order of the members does not matter, and members
of other names are passed over.
-/

namespace TimingBoard.Json

variable {members others : List (String × Json)} {name : String} {value : Json}

lemma mapM_of_forall {α β : Type} {f : α → Option β} {g : α → β} {l : List α}
    (h : ∀ a ∈ l, f a = some (g a)) : l.mapM f = some (l.map g) := by
  induction l with
  | nil => rfl
  | cons a l ih =>
    rw [List.mapM_cons, h a (by simp), ih fun b hb => h b (by simp [hb])]
    rfl

/-! ## Members -/

/-- A member is found under its name, if no two members share a name. -/
lemma lookup_eq_some_iff_mem (h : (members.map Prod.fst).Nodup) :
    members.lookup name = some value ↔ (name, value) ∈ members := by
  induction members with
  | nil => simp
  | cons m members ih =>
    obtain ⟨key, first⟩ := m
    obtain ⟨hfresh, hrest⟩ := List.nodup_cons.1 h
    by_cases hname : name = key
    · subst hname
      have hnot : (name, value) ∉ members := fun hmem => hfresh (List.mem_map.2 ⟨_, hmem, rfl⟩)
      simp [hnot, eq_comm]
    · have hskip : (name == key) = false := beq_eq_false_iff_ne.2 hname
      rw [List.lookup_cons, hskip, ih hrest]
      simp [hname]

/-- The order of members does not matter. -/
lemma lookup_eq_of_perm (h : (members.map Prod.fst).Nodup) (hperm : others.Perm members)
    (name : String) : others.lookup name = members.lookup name := by
  have hothers : (others.map Prod.fst).Nodup := (hperm.map Prod.fst).nodup_iff.2 h
  ext value
  rw [lookup_eq_some_iff_mem hothers, lookup_eq_some_iff_mem h, hperm.mem_iff]

/-- What is left of the members is found as before. -/
lemma lookup_filter (h : (members.map Prod.fst).Nodup) (keeps : String → Bool) (name : String) :
    (members.filter fun m => keeps m.1).lookup name =
      if keeps name then members.lookup name else none := by
  have hkept : ((members.filter fun m => keeps m.1).map Prod.fst).Nodup :=
    h.sublist (List.filter_sublist.map Prod.fst)
  ext value
  rw [lookup_eq_some_iff_mem hkept, List.mem_filter]
  split <;> simp_all [lookup_eq_some_iff_mem h]

/-! ## Records -/

/-- No member has a name that is not among theirs. -/
lemma filter_eq_nil_of_notMem (h : name ∉ members.map Prod.fst) :
    (members.map fun m => (m.1.toList, m.2)).filter (·.1 == name.toList) = [] := by
  rw [List.filter_eq_nil_iff]
  rintro entry hentry heq
  obtain ⟨m, hm, rfl⟩ := List.mem_map.1 hentry
  exact h (List.mem_map.2 ⟨m, hm, String.toList_inj.1 (beq_iff_eq.1 heq)⟩)

/-- A field is given the value of the member with its name. -/
lemma member?_map (h : (members.map Prod.fst).Nodup) (name : String) :
    member? (members.map fun m => (m.1.toList, m.2)) name.toList = some (members.lookup name) := by
  unfold member?
  induction members with
  | nil => rfl
  | cons m members ih =>
    obtain ⟨hfresh, hrest⟩ := List.nodup_cons.1 h
    by_cases hname : name = m.1
    · subst hname
      rw [List.map_cons, List.filter_cons_of_pos (by simp), filter_eq_nil_of_notMem hfresh,
        List.lookup_cons]
      simp
    · have hskip : ¬ (m.1.toList == name.toList) = true := fun heq =>
        hname (String.toList_inj.1 (beq_iff_eq.1 heq)).symm
      have hother : (name == m.1) = false := beq_eq_false_iff_ne.2 hname
      rw [List.map_cons, List.filter_cons, if_neg hskip, ih hrest, List.lookup_cons, hother]

/-- A record is read from named members. -/
lemma record?_ofMembers (fields : List String) (h : (members.map Prod.fst).Nodup) :
    record? fields (.ofMembers members) = some ⟨fields.map fun f => members.lookup f, false⟩ := by
  have hnames : (members.map fun m => (some m.1.toList, m.2)).mapM
      (fun (name, value) => name.map fun n => (n, value)) =
        some (members.map fun m => (m.1.toList, m.2)) := by
    rw [List.mapM_map]
    exact mapM_of_forall fun _ _ => rfl
  have hvalues : fields.mapM (fun f => member? (members.map fun m => (m.1.toList, m.2)) f.toList) =
      some (fields.map fun f => members.lookup f) :=
    mapM_of_forall fun f _ => member?_map h f
  unfold record? ofMembers
  simp only [hnames, hvalues, bind, Option.bind_some]
  rfl

end TimingBoard.Json
