import Mathlib.Data.List.Dedup
import StaticSite.Association

/-!
Contract: what a sequence of bindings leaves.

Owns:
- look-up after a sequence of bindings, where the last binding of a name counts;
- the names after a sequence of bindings, each of which occurs once;
- look-up among entries without equal names.

Does not own: single bindings (see `StaticSite.Association`).
-/

namespace StaticSite.Association

variable {Value : Type}

/-- The entries after some bindings, made in order. -/
def bindAll (bindings : List (String × Value)) (entries : List (String × Value)) :
    List (String × Value) :=
  bindings.foldl (fun bound binding => bind binding.1 binding.2 bound) entries

theorem ofBindings_eq (bindings : List (String × Value)) :
    ofBindings bindings = bindAll bindings [] :=
  rfl

/-- The value of a name after some bindings is that of its last binding, or else the
one it had before. -/
theorem lookup_bindAll (bindings entries : List (String × Value)) (name : String) :
    (bindAll bindings entries).lookup name =
      (bindings.reverse.lookup name).or (entries.lookup name) := by
  induction bindings generalizing entries with
  | nil => rfl
  | cons binding others inductionHypothesis =>
      obtain ⟨bound, value⟩ := binding
      have later : bindAll ((bound, value) :: others) entries =
          bindAll others (bind bound value entries) := rfl
      rw [later, inductionHypothesis, List.reverse_cons, List.lookup_append, Option.or_assoc]
      congr 1
      by_cases same : name = bound
      · subst same
        simp [lookup_bind_self]
      · rw [lookup_bind_of_ne same]
        have differs : (name == bound) = false := beq_eq_false_iff_ne.mpr same
        simp [List.lookup_cons, differs]

/-- The value of a name after some bindings of nothing else is that of its last
binding. -/
theorem lookup_ofBindings (bindings : List (String × Value)) (name : String) :
    (ofBindings bindings).lookup name = bindings.reverse.lookup name := by
  rw [ofBindings_eq, lookup_bindAll]
  simp

theorem mem_names_bind (name other : String) (value : Value)
    (entries : List (String × Value)) :
    other ∈ (bind name value entries).map Prod.fst ↔
      other = name ∨ other ∈ entries.map Prod.fst := by
  rw [names_bind]
  split
  · rename_i bound
    constructor
    · exact Or.inr
    · rintro (rfl | member)
      · exact bound
      · exact member
  · rw [List.mem_append, List.mem_singleton, or_comm]

theorem nodup_names_bind (name : String) (value : Value) {entries : List (String × Value)}
    (distinct : (entries.map Prod.fst).Nodup) :
    ((bind name value entries).map Prod.fst).Nodup := by
  rw [names_bind]
  split
  · exact distinct
  · rename_i unbound
    exact List.nodup_append.mpr
      ⟨distinct, List.nodup_singleton name, by
        intro existing member other isName equal
        rw [List.mem_singleton] at isName
        rw [equal, isName] at member
        exact unbound member⟩

theorem mem_names_bindAll (bindings entries : List (String × Value)) (name : String) :
    name ∈ (bindAll bindings entries).map Prod.fst ↔
      name ∈ bindings.map Prod.fst ∨ name ∈ entries.map Prod.fst := by
  induction bindings generalizing entries with
  | nil => simp [bindAll]
  | cons binding others inductionHypothesis =>
      have later : bindAll (binding :: others) entries =
          bindAll others (bind binding.1 binding.2 entries) := rfl
      rw [later, inductionHypothesis, mem_names_bind, List.map_cons, List.mem_cons]
      tauto

theorem nodup_names_bindAll (bindings : List (String × Value))
    {entries : List (String × Value)} (distinct : (entries.map Prod.fst).Nodup) :
    ((bindAll bindings entries).map Prod.fst).Nodup := by
  induction bindings generalizing entries with
  | nil => exact distinct
  | cons binding others inductionHypothesis =>
      exact inductionHypothesis (nodup_names_bind binding.1 binding.2 distinct)

/-- Bindings leave exactly the names that they bind. -/
theorem mem_names_ofBindings (bindings : List (String × Value)) (name : String) :
    name ∈ (ofBindings bindings).map Prod.fst ↔ name ∈ bindings.map Prod.fst := by
  rw [ofBindings_eq, mem_names_bindAll]
  simp

theorem nodup_names_ofBindings (bindings : List (String × Value)) :
    ((ofBindings bindings).map Prod.fst).Nodup :=
  nodup_names_bindAll bindings List.nodup_nil

/-- The names that bindings leave, and their order, depend on the names alone. -/
theorem names_bindAll (bindings entries : List (String × Value)) :
    (bindAll bindings entries).map Prod.fst =
      (bindings.map Prod.fst).foldl
        (fun names name => if name ∈ names then names else names ++ [name])
        (entries.map Prod.fst) := by
  induction bindings generalizing entries with
  | nil => rfl
  | cons binding others inductionHypothesis =>
      have later : bindAll (binding :: others) entries =
          bindAll others (bind binding.1 binding.2 entries) := rfl
      rw [later, inductionHypothesis, names_bind, List.map_cons, List.foldl_cons]

theorem names_ofBindings_congr {bindings others : List (String × Value)}
    (same : bindings.map Prod.fst = others.map Prod.fst) :
    (ofBindings bindings).map Prod.fst = (ofBindings others).map Prod.fst := by
  rw [ofBindings_eq, ofBindings_eq, names_bindAll, names_bindAll, same]

/-- Every entry after a binding is the new one or was there before. -/
theorem mem_of_mem_bind {name : String} {value : Value} {entries : List (String × Value)}
    {entry : String × Value} (member : entry ∈ bind name value entries) :
    entry = (name, value) ∨ entry ∈ entries := by
  induction entries with
  | nil => exact Or.inl (List.mem_singleton.mp member)
  | cons first others inductionHypothesis =>
      obtain ⟨existing, old⟩ := first
      rw [bind] at member
      split at member
      · rcases List.mem_cons.mp member with isNew | later
        · exact Or.inl isNew
        · exact Or.inr (List.mem_cons_of_mem _ later)
      · rcases List.mem_cons.mp member with isFirst | later
        · exact Or.inr (isFirst ▸ List.mem_cons_self)
        · exact (inductionHypothesis later).imp_right (List.mem_cons_of_mem _)

theorem mem_of_mem_bindAll {bindings entries : List (String × Value)} {entry : String × Value}
    (member : entry ∈ bindAll bindings entries) : entry ∈ bindings ∨ entry ∈ entries := by
  induction bindings generalizing entries with
  | nil => exact Or.inr member
  | cons binding others inductionHypothesis =>
      have later : bindAll (binding :: others) entries =
          bindAll others (bind binding.1 binding.2 entries) := rfl
      rw [later] at member
      rcases inductionHypothesis member with inOthers | inBound
      · exact Or.inl (List.mem_cons_of_mem _ inOthers)
      · rcases mem_of_mem_bind inBound with isBinding | before
        · exact Or.inl (isBinding ▸ List.mem_cons_self)
        · exact Or.inr before

theorem mem_of_mem_ofBindings {bindings : List (String × Value)} {entry : String × Value}
    (member : entry ∈ ofBindings bindings) : entry ∈ bindings := by
  rw [ofBindings_eq] at member
  exact (mem_of_mem_bindAll member).resolve_right List.not_mem_nil

theorem isEmpty_bind (name : String) (value : Value) (entries : List (String × Value)) :
    (bind name value entries).isEmpty = false := by
  cases entries with
  | nil => rfl
  | cons _ _ =>
      rw [bind]
      split <;> rfl

theorem bind_of_not_mem {name : String} (value : Value) {entries : List (String × Value)}
    (unbound : name ∉ entries.map Prod.fst) : bind name value entries = entries ++ [(name, value)] := by
  induction entries with
  | nil => rfl
  | cons entry others inductionHypothesis =>
      obtain ⟨existing, old⟩ := entry
      rw [List.map_cons, List.mem_cons, not_or] at unbound
      have differs : (existing == name) = false :=
        beq_eq_false_iff_ne.mpr fun same => unbound.1 same.symm
      rw [bind, differs, inductionHypothesis unbound.2]
      rfl

theorem bindAll_of_nodup {bindings entries : List (String × Value)}
    (distinct : ((entries ++ bindings).map Prod.fst).Nodup) :
    bindAll bindings entries = entries ++ bindings := by
  induction bindings generalizing entries with
  | nil => exact (List.append_nil entries).symm
  | cons binding others inductionHypothesis =>
      obtain ⟨name, value⟩ := binding
      have unbound : name ∉ entries.map Prod.fst := by
        rw [List.map_append, List.map_cons, List.nodup_middle, List.nodup_cons] at distinct
        exact fun member => distinct.1 (List.mem_append_left _ member)
      have later : bindAll ((name, value) :: others) entries =
          bindAll others (bind name value entries) := rfl
      rw [later, bind_of_not_mem value unbound, inductionHypothesis, List.append_assoc]
      · rfl
      · rw [List.append_assoc]
        exact distinct

/-- Bindings of different names are what they leave. -/
theorem ofBindings_of_nodup {bindings : List (String × Value)}
    (distinct : (bindings.map Prod.fst).Nodup) : ofBindings bindings = bindings := by
  rw [ofBindings_eq, bindAll_of_nodup (by exact distinct), List.nil_append]

theorem mem_of_lookup_eq_some {entries : List (String × Value)} {name : String} {value : Value}
    (found : entries.lookup name = some value) : (name, value) ∈ entries := by
  obtain ⟨before, after, isEntry, _⟩ := List.lookup_eq_some_iff.mp found
  rw [isEntry]
  exact List.mem_append_right before List.mem_cons_self

theorem lookup_eq_none_of_not_mem {entries : List (String × Value)} {name : String}
    (unbound : name ∉ entries.map Prod.fst) : entries.lookup name = none := by
  rw [List.lookup_eq_none_iff]
  intro entry member
  apply bne_iff_ne.mpr
  intro same
  rw [same] at unbound
  exact unbound (List.mem_map_of_mem member)

theorem isSome_lookup_iff {entries : List (String × Value)} {name : String} :
    (entries.lookup name).isSome = true ↔ name ∈ entries.map Prod.fst := by
  constructor
  · intro isBound
    obtain ⟨value, found⟩ := Option.isSome_iff_exists.mp isBound
    exact List.mem_map_of_mem (mem_of_lookup_eq_some found)
  · intro member
    by_contra unbound
    have notFound := Option.not_isSome_iff_eq_none.mp unbound
    obtain ⟨entry, isEntry, rfl⟩ := List.mem_map.mp member
    have differs := List.lookup_eq_none_iff.mp notFound entry isEntry
    exact bne_iff_ne.mp differs rfl

/-- A change of the values changes what is looked up. -/
theorem lookup_map_value {Other : Type} (change : Value → Other) (entries : List (String × Value))
    (name : String) :
    (entries.map fun entry => (entry.1, change entry.2)).lookup name =
      (entries.lookup name).map change := by
  induction entries with
  | nil => rfl
  | cons entry others inductionHypothesis =>
      rw [List.map_cons, List.lookup_cons, List.lookup_cons, inductionHypothesis]
      cases name == entry.1 with
      | true => rfl
      | false => rfl

/-- In entries without equal names, the first entry of a name is the last one. -/
theorem lookup_reverse_of_nodup {entries : List (String × Value)}
    (distinct : (entries.map Prod.fst).Nodup) (name : String) :
    entries.reverse.lookup name = entries.lookup name := by
  induction entries with
  | nil => rfl
  | cons entry others inductionHypothesis =>
      obtain ⟨first, value⟩ := entry
      rw [List.map_cons, List.nodup_cons] at distinct
      rw [List.reverse_cons, List.lookup_append, inductionHypothesis distinct.2,
        List.lookup_cons, List.lookup_cons]
      by_cases same : name = first
      · have unbound : others.lookup first = none := lookup_eq_none_of_not_mem distinct.1
        simp [unbound, same]
      · have differs : (name == first) = false := beq_eq_false_iff_ne.mpr same
        simp [differs]

/-- In entries without equal names, a name has the value of any entry with it. -/
theorem lookup_eq_some_iff_of_nodup {entries : List (String × Value)}
    (distinct : (entries.map Prod.fst).Nodup) (name : String) (value : Value) :
    entries.lookup name = some value ↔ (name, value) ∈ entries := by
  induction entries with
  | nil => simp
  | cons entry others inductionHypothesis =>
      obtain ⟨first, held⟩ := entry
      rw [List.map_cons, List.nodup_cons] at distinct
      rw [List.lookup_cons, List.mem_cons]
      by_cases same : name = first
      · have notLater : (name, value) ∉ others := fun later =>
          distinct.1 (List.mem_map.mpr ⟨(name, value), later, same⟩)
        simp [same ▸ notLater, same, eq_comm]
      · have differs : (name == first) = false := beq_eq_false_iff_ne.mpr same
        simp [differs, same, inductionHypothesis distinct.2]

/-- Entries without equal names that bind the same values are the same but for their order. -/
theorem perm_of_lookup_eq {entries others : List (String × Value)}
    (distinct : (entries.map Prod.fst).Nodup) (otherDistinct : (others.map Prod.fst).Nodup)
    (same : ∀ name, entries.lookup name = others.lookup name) : entries.Perm others := by
  refine (List.perm_ext_iff_of_nodup distinct.of_map otherDistinct.of_map).mpr ?_
  rintro ⟨name, value⟩
  rw [← lookup_eq_some_iff_of_nodup distinct, ← lookup_eq_some_iff_of_nodup otherDistinct, same]

end StaticSite.Association
