import Mathlib.Data.List.AList

/-
This file adds the insertion rules of an unordered map to association lists with distinct keys.
-/

namespace VehicleEdge

/-- A keyed map holds at most one value for each key. -/
abbrev KeyedMap (Key Value : Type) := AList (fun _ : Key => Value)

namespace KeyedMap

variable {Key Value : Type} [DecidableEq Key]

/-- This insertion keeps the value of a key that is already present. -/
def insertNew (map : KeyedMap Key Value) (key : Key) (value : Value) : KeyedMap Key Value :=
  if key ∈ map then map else map.insert key value

/-- The range insertion adds the entries in order and never overwrites a value. -/
def insertRange (map : KeyedMap Key Value) (entries : List (Σ _ : Key, Value)) : KeyedMap Key Value :=
  entries.foldl (fun map entry => insertNew map entry.1 entry.2) map

theorem lookup_insertNew (map : KeyedMap Key Value) (key query : Key) (value : Value) :
    (insertNew map key value).lookup query =
      (map.lookup query).or (if query = key then some value else none) := by
  unfold insertNew
  by_cases same : query = key
  · subst same
    split
    case isTrue present =>
      obtain ⟨stored, found⟩ := Option.isSome_iff_exists.mp (AList.lookup_isSome.mpr present)
      simp [found]
    case isFalse absent => simp [AList.lookup_eq_none.mpr absent]
  · rw [if_neg same, Option.or_none]
    split
    · rfl
    · exact AList.lookup_insert_ne same

/-- The range insertion prefers the map and then the first entry of the range. -/
theorem lookup_insertRange (map : KeyedMap Key Value) (entries : List (Σ _ : Key, Value))
    (query : Key) :
    (insertRange map entries).lookup query = (map.lookup query).or (entries.dlookup query) := by
  induction entries generalizing map with
  | nil => simp [insertRange]
  | cons entry entries ih =>
      obtain ⟨key, value⟩ := entry
      change (insertRange (insertNew map key value) entries).lookup query = _
      rw [ih, lookup_insertNew, Option.or_assoc]
      by_cases same : query = key
      · subst same
        simp
      · simp [same, List.dlookup_cons_ne entries ⟨key, value⟩ same]

/-- The overwriting insertion adds the entries in order and keeps the last value of each key. -/
def overwrite (map : KeyedMap Key Value) (entries : List (Σ _ : Key, Value)) : KeyedMap Key Value :=
  entries.foldl (fun map entry => map.insert entry.1 entry.2) map

theorem lookup_overwrite (map : KeyedMap Key Value) (entries : List (Σ _ : Key, Value)) (query : Key) :
    (overwrite map entries).lookup query = (entries.reverse.dlookup query).or (map.lookup query) := by
  induction entries generalizing map with
  | nil => simp [overwrite]
  | cons entry entries ih =>
      obtain ⟨key, value⟩ := entry
      change (overwrite (map.insert key value) entries).lookup query = _
      rw [ih, List.reverse_cons, List.dlookup_append, Option.or_assoc]
      by_cases same : query = key
      · subst same
        simp
      · let entry : Σ _ : Key, Value := ⟨key, value⟩
        have other : List.dlookup query [entry] = none := List.dlookup_cons_ne [] entry same
        rw [AList.lookup_insert_ne same, other, Option.none_or]

/-- A lookup in a list of entries finds the first entry of its key. -/
theorem dlookup_map {Entry : Type} (key : Entry → Key) (value : Entry → Value) (entries : List Entry)
    (query : Key) :
    (entries.map fun entry => (⟨key entry, value entry⟩ : Σ _ : Key, Value)).dlookup query =
      (entries.find? fun entry => key entry = query).map value := by
  induction entries with
  | nil => rfl
  | cons entry entries ih =>
      let first : Σ _ : Key, Value := ⟨key entry, value entry⟩
      by_cases same : key entry = query
      · subst same
        simp
      · rw [List.map_cons, List.dlookup_cons_ne _ first (Ne.symm same), ih,
          List.find?_cons_of_neg (by simpa using same)]

section Rename

variable {Label : Type} [DecidableEq Label]

/-- The renaming loop stores each entry under its label and drops the entries without one. -/
def relabel (label : Key → Option Label) (entries : List (Σ _ : Key, Value)) : KeyedMap Label Value :=
  entries.foldl (fun map entry =>
    match label entry.1 with
    | some target => map.insert target entry.2
    | none => map) ∅

theorem lookup_relabel_loop (label : Key → Option Label) (entries : List (Σ _ : Key, Value))
    (map : KeyedMap Label Value) {key : Key} {target : Label} (named : label key = some target)
    (unique : ∀ other, label other = some target → other = key)
    (distinct : entries.NodupKeys) :
    (entries.foldl (fun map entry =>
      match label entry.1 with
      | some target => AList.insert target entry.2 map
      | none => map) map).lookup target = (entries.dlookup key).or (map.lookup target) := by
  induction entries generalizing map with
  | nil => simp
  | cons entry entries ih =>
      obtain ⟨other, value⟩ := entry
      obtain ⟨fresh, distinct⟩ := List.nodupKeys_cons.mp distinct
      rw [List.foldl_cons, ih _ distinct]
      by_cases same : other = key
      · subst same
        have absent : entries.dlookup other = none := List.dlookup_eq_none.mpr fresh
        simp [named, absent]
      · rw [List.dlookup_cons_ne entries ⟨other, value⟩ (Ne.symm same)]
        congr 1
        cases found : label other with
        | none => rfl
        | some owner =>
            have different : target ≠ owner := by
              intro equal
              exact same (unique other (found.trans (congrArg some equal.symm)))
            exact AList.lookup_insert_ne different

/-- A label that belongs to one key carries exactly the value of that key. -/
theorem lookup_relabel (label : Key → Option Label) (map : KeyedMap Key Value) {key : Key}
    {target : Label} (named : label key = some target)
    (unique : ∀ other, label other = some target → other = key) :
    (relabel label map.entries).lookup target = map.lookup key := by
  rw [relabel, lookup_relabel_loop label map.entries ∅ named unique map.nodupKeys]
  simp [AList.lookup]

/-- Every carried value belongs to a key with its label. -/
theorem exists_of_lookup_relabel (label : Key → Option Label) (map : KeyedMap Key Value) {target : Label}
    {value : Value} (carried : (relabel label map.entries).lookup target = some value) :
    ∃ key, label key = some target ∧ map.lookup key = some value := by
  suffices loop : ∀ (entries : List (Σ _ : Key, Value)) (carrier : KeyedMap Label Value),
      (entries.foldl (fun map entry =>
        match label entry.1 with
        | some target => AList.insert target entry.2 map
        | none => map) carrier).lookup target = some value →
      carrier.lookup target = some value ∨ ∃ key, label key = some target ∧ ⟨key, value⟩ ∈ entries by
    rcases loop map.entries ∅ carried with absent | ⟨key, named, member⟩
    · simp at absent
    · exact ⟨key, named, AList.mem_lookup_iff.mpr member⟩
  intro entries
  induction entries with
  | nil => exact fun _ found => .inl found
  | cons entry entries ih =>
      intro carrier found
      rcases ih _ found with early | ⟨key, named, member⟩
      · dsimp only at early
        cases own : label entry.1 with
        | none => exact .inl (by rwa [own] at early)
        | some owner =>
            rw [own] at early
            by_cases same : target = owner
            · subst same
              rw [AList.lookup_insert] at early
              cases early
              exact .inr ⟨entry.1, own, List.mem_cons_self⟩
            · exact .inl ((AList.lookup_insert_ne same).symm.trans early)
      · exact .inr ⟨key, named, List.mem_cons_of_mem _ member⟩

omit [DecidableEq Key] in
/-- A label without a key carries nothing. -/
theorem lookup_relabel_none (label : Key → Option Label) (entries : List (Σ _ : Key, Value))
    {target : Label} (unnamed : ∀ key, label key ≠ some target) :
    (relabel label entries).lookup target = none := by
  suffices loop : ∀ map : KeyedMap Label Value, map.lookup target = none →
      (entries.foldl (fun map entry =>
        match label entry.1 with
        | some target => AList.insert target entry.2 map
        | none => map) map).lookup target = none from loop ∅ (AList.lookup_empty target)
  induction entries with
  | nil => exact fun map absent => absent
  | cons entry entries ih =>
      intro map absent
      apply ih
      dsimp only
      cases found : label entry.1 with
      | none => exact absent
      | some owner =>
          have different : target ≠ owner := by
            intro equal
            exact unnamed entry.1 (found.trans (congrArg some equal.symm))
          exact (AList.lookup_insert_ne different).trans absent

end Rename

end KeyedMap

end VehicleEdge
