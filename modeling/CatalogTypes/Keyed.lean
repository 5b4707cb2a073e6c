/-!
# Keyed lists

A table whose keys keep the place of their first entry and the value of their last: what a
document's object, an environment and a set of options are here.  A keyed list is a plain list of
pairs, so that order is part of its value and look-up is the first match.
-/

namespace CatalogTypes

/-- Entries in the order in which their keys first came. -/
abbrev Keyed (α : Type) := List (String × α)

namespace Keyed

variable {α : Type}

/-- The value under a key. -/
def find? : Keyed α → String → Option α
  | [], _ => none
  | (k, v) :: rest, key => if k = key then some v else find? rest key

/-- Whether a key has an entry. -/
def has (table : Keyed α) (key : String) : Bool := (table.find? key).isSome

/-- The keys in order. -/
def keys (table : Keyed α) : List String := table.map Prod.fst

/-- The table with a value under a key: an entry that exists keeps its place, a new one comes
last. -/
def set : Keyed α → String → α → Keyed α
  | [], key, value => [(key, value)]
  | (k, v) :: rest, key, value =>
    if k = key then (k, value) :: rest else (k, v) :: set rest key value

/-- The table with every entry of another one set in turn. -/
def update (table entries : Keyed α) : Keyed α :=
  entries.foldl (fun t (key, value) => t.set key value) table

/-- The table of a list of entries, later ones replacing the values of earlier ones. -/
def ofPairs (entries : List (String × α)) : Keyed α := update [] entries

/-! ## Look-up -/

theorem find?_set_self (table : Keyed α) (key : String) (value : α) :
    (table.set key value).find? key = some value := by
  induction table with
  | nil => simp [set, find?]
  | cons entry rest ih =>
    obtain ⟨k, v⟩ := entry
    by_cases h : k = key <;> simp [set, h, find?, ih]

theorem find?_set_of_ne (table : Keyed α) {key other : String} (value : α) (h : key ≠ other) :
    (table.set key value).find? other = table.find? other := by
  induction table with
  | nil => simp [set, find?, h]
  | cons entry rest ih =>
    obtain ⟨k, v⟩ := entry
    by_cases hk : k = key
    · subst hk; simp [set, find?, h]
    · simp [set, hk, find?, ih]

theorem has_iff {table : Keyed α} {key : String} :
    table.has key = true ↔ ∃ value, table.find? key = some value :=
  Option.isSome_iff_exists

theorem mem_of_find? {table : Keyed α} {key : String} {value : α}
    (h : table.find? key = some value) : (key, value) ∈ table := by
  induction table with
  | nil => simp [find?] at h
  | cons entry rest ih =>
    obtain ⟨k, v⟩ := entry
    simp only [find?] at h
    split at h
    · next hk => simp_all
    · exact List.mem_cons_of_mem _ (ih h)

theorem find?_append (table more : Keyed α) (key : String) :
    find? (table ++ more) key = (table.find? key).or (more.find? key) := by
  induction table with
  | nil => rfl
  | cons entry rest ih =>
    obtain ⟨k, v⟩ := entry
    by_cases same : k = key <;> simp [find?, same, ih]

/-! ## Keys -/

theorem has_iff_mem_keys {table : Keyed α} {key : String} :
    table.has key = true ↔ key ∈ table.keys := by
  induction table with
  | nil => simp [has, find?, keys]
  | cons entry rest ih =>
    obtain ⟨k, v⟩ := entry
    by_cases h : k = key
    · simp [has, find?, keys, h]
    · simpa [has, find?, keys, h, Ne.symm h] using ih

theorem has_set {table : Keyed α} {key other : String} {value : α} :
    (table.set key value).has other = true ↔ key = other ∨ table.has other = true := by
  by_cases h : key = other
  · subst h
    simp [has, find?_set_self]
  · simp [has, find?_set_of_ne table value h, h]

theorem has_update {table entries : Keyed α} {key : String} :
    (table.update entries).has key = true ↔ table.has key = true ∨ entries.has key = true := by
  induction entries generalizing table with
  | nil => simp [update, has, find?]
  | cons entry rest ih =>
    obtain ⟨k, v⟩ := entry
    have step : (table.update ((k, v) :: rest)) = (table.set k v).update rest := rfl
    have heads : has ((k, v) :: rest) key = true ↔ k = key ∨ has rest key = true := by
      by_cases h : k = key <;> simp [has, find?, h]
    rw [step, ih, has_set, heads, or_assoc, or_left_comm]

theorem find?_eq_none {table : Keyed α} {key : String} (h : key ∉ table.keys) :
    table.find? key = none := by
  have absent : ¬ table.has key = true := fun there => h (has_iff_mem_keys.1 there)
  simpa [has] using absent

theorem find?_filter {table : Keyed α} (distinct : table.keys.Nodup) (p : α → Bool)
    (key : String) :
    find? (table.filter fun entry => p entry.2) key = (table.find? key).filter p := by
  induction table with
  | nil => rfl
  | cons entry rest ih =>
    obtain ⟨k, v⟩ := entry
    obtain ⟨fresh, distinct⟩ := List.nodup_cons.1 distinct
    have behind := ih distinct
    by_cases same : k = key
    · subst same
      rw [find?_eq_none fresh] at behind
      cases kept : p v <;> simp [find?, kept, behind, Option.filter]
    · cases kept : p v <;> simp [find?, kept, same, behind]

/-- Of two tables the one that is set over the other is looked into first. -/
theorem find?_update {table entries : Keyed α} {key : String} (h : entries.keys.Nodup) :
    (table.update entries).find? key = (entries.find? key).or (table.find? key) := by
  induction entries generalizing table with
  | nil => rfl
  | cons entry rest ih =>
    obtain ⟨k, v⟩ := entry
    obtain ⟨fresh, distinct⟩ := List.nodup_cons.1 h
    show ((table.set k v).update rest).find? key = _
    rw [ih distinct]
    by_cases same : k = key
    · subst same
      rw [find?_eq_none fresh, find?_set_self]
      simp [find?]
    · rw [find?_set_of_ne table v same]
      simp [find?, same]

/-! ## One table set over another -/

theorem set_cons_self (k : String) (v value : α) (rest : Keyed α) :
    set ((k, v) :: rest) k value = (k, value) :: rest := by
  simp [set]

theorem set_cons_of_ne {k key : String} (ne : k ≠ key) (v value : α) (rest : Keyed α) :
    set ((k, v) :: rest) key value = (k, v) :: set rest key value := by
  simp [set, ne]

theorem keys_set (table : Keyed α) (key : String) (value : α) :
    (table.set key value).keys = if key ∈ table.keys then table.keys else table.keys ++ [key] := by
  induction table with
  | nil => rfl
  | cons entry rest ih =>
    obtain ⟨k, v⟩ := entry
    by_cases same : k = key
    · subst same
      simp [set_cons_self, keys]
    · have behind : keys ((k, v) :: rest) = k :: keys rest := rfl
      rw [set_cons_of_ne same, behind]
      show k :: (set rest key value).keys = _
      rw [ih]
      by_cases there : key ∈ keys rest <;> simp [there, Ne.symm same]

theorem nodup_keys_set {table : Keyed α} (h : table.keys.Nodup) (key : String) (value : α) :
    (table.set key value).keys.Nodup := by
  rw [keys_set]
  split
  · exact h
  · next fresh =>
    refine List.nodup_append.2 ⟨h, List.pairwise_singleton _ key, ?_⟩
    intro k old other new same
    exact fresh (List.mem_singleton.1 new ▸ same ▸ old)

theorem nodup_keys_update {table : Keyed α} (h : table.keys.Nodup) (entries : Keyed α) :
    (table.update entries).keys.Nodup := by
  induction entries generalizing table with
  | nil => exact h
  | cons entry rest ih => exact ih (nodup_keys_set h entry.1 entry.2)

theorem nodup_keys_empty : (keys ([] : Keyed α)).Nodup := List.Pairwise.nil

theorem nodup_keys_ofPairs (entries : List (String × α)) : (ofPairs entries).keys.Nodup :=
  nodup_keys_update nodup_keys_empty entries

theorem set_set_self (table : Keyed α) (key : String) (value value' : α) :
    (table.set key value).set key value' = table.set key value' := by
  induction table with
  | nil => simp [set]
  | cons entry rest ih =>
    obtain ⟨k, v⟩ := entry
    by_cases same : k = key <;> simp [set, same, ih]

/-- An entry that is there keeps its place, so it does not matter whether another one is set before
it or after it. -/
theorem set_set_of_has {table : Keyed α} {key other : String} (there : table.has key = true)
    (ne : key ≠ other) (value value' : α) :
    (table.set other value').set key value = (table.set key value).set other value' := by
  induction table with
  | nil => simp [has, find?] at there
  | cons entry rest ih =>
    obtain ⟨k, v⟩ := entry
    by_cases hk : k = key
    · subst hk
      simp [set, ne]
    · have later : has rest key = true := by simpa [has, find?, hk] using there
      by_cases ho : k = other
      · subst ho
        simp [set, hk]
      · simp [set, hk, ho, ih later]

theorem set_update_of_notMem {table entries : Keyed α} {key : String}
    (there : table.has key = true) (absent : key ∉ entries.keys) (value : α) :
    (table.update entries).set key value = (table.set key value).update entries := by
  induction entries generalizing table with
  | nil => rfl
  | cons entry rest ih =>
    obtain ⟨k, v⟩ := entry
    obtain ⟨ne, absent⟩ := List.ne_and_not_mem_of_not_mem_cons absent
    show ((table.set k v).update rest).set key value = ((table.set key value).set k v).update rest
    rw [ih (has_set.2 (.inr there)) absent, set_set_of_has there ne]

/-- An entry that is set in a table comes last where the table is set over another one. -/
theorem update_set {table entries : Keyed α} (distinct : entries.keys.Nodup) (key : String)
    (value : α) : table.update (entries.set key value) = (table.update entries).set key value := by
  induction entries generalizing table with
  | nil => rfl
  | cons entry rest ih =>
    obtain ⟨k, v⟩ := entry
    obtain ⟨fresh, distinct⟩ := List.nodup_cons.1 distinct
    by_cases same : k = key
    · subst same
      rw [set_cons_self]
      show (table.set k value).update rest = ((table.set k v).update rest).set k value
      rw [set_update_of_notMem (has_set.2 (.inl rfl)) fresh, set_set_self]
    · rw [set_cons_of_ne same]
      exact ih distinct

theorem update_update {table entries : Keyed α} (distinct : entries.keys.Nodup)
    (more : Keyed α) : table.update (entries.update more) = (table.update entries).update more := by
  induction more generalizing table entries with
  | nil => rfl
  | cons entry rest ih =>
    show table.update ((entries.set entry.1 entry.2).update rest) =
      ((table.update entries).set entry.1 entry.2).update rest
    rw [ih (nodup_keys_set distinct entry.1 entry.2), update_set distinct]

theorem set_eq_append {table : Keyed α} {key : String} (h : key ∉ table.keys) (value : α) :
    table.set key value = table ++ [(key, value)] := by
  induction table with
  | nil => rfl
  | cons entry rest ih =>
    obtain ⟨k, v⟩ := entry
    obtain ⟨ne, fresh⟩ := List.ne_and_not_mem_of_not_mem_cons h
    rw [set_cons_of_ne (Ne.symm ne), ih fresh]
    rfl

/-- Entries under keys of their own come last. -/
theorem update_eq_append {table entries : Keyed α} (h : (keys (table ++ entries)).Nodup) :
    table.update entries = table ++ entries := by
  induction entries generalizing table with
  | nil => exact (List.append_nil table).symm
  | cons entry rest ih =>
    obtain ⟨k, v⟩ := entry
    have apart : table ++ (k, v) :: rest = (table ++ [(k, v)]) ++ rest := by simp
    have fresh : k ∉ table.keys := by
      intro there
      rw [keys, List.map_append] at h
      exact (List.nodup_append.1 h).2.2 k there k List.mem_cons_self rfl
    show (table.set k v).update rest = _
    rw [set_eq_append fresh, ih (apart ▸ h), apart]

/-- Entries under distinct keys are a table as they are. -/
theorem ofPairs_eq_self {entries : List (String × α)} (h : (keys entries).Nodup) :
    ofPairs entries = entries := update_eq_append h

theorem forall_mem_set {p : α → Prop} {table : Keyed α} (h : ∀ entry ∈ table, p entry.2)
    {value : α} (new : p value) (key : String) : ∀ entry ∈ table.set key value, p entry.2 := by
  induction table with
  | nil => simpa [set] using new
  | cons entry rest ih =>
    obtain ⟨k, v⟩ := entry
    obtain ⟨here, others⟩ := List.forall_mem_cons.1 h
    by_cases same : k = key
    · subst same
      rw [set_cons_self]
      exact List.forall_mem_cons.2 ⟨new, others⟩
    · rw [set_cons_of_ne same]
      exact List.forall_mem_cons.2 ⟨here, ih others⟩

theorem forall_mem_update {p : α → Prop} {table entries : Keyed α}
    (h : ∀ entry ∈ table, p entry.2) (new : ∀ entry ∈ entries, p entry.2) :
    ∀ entry ∈ table.update entries, p entry.2 := by
  induction entries generalizing table with
  | nil => exact h
  | cons entry rest ih =>
    obtain ⟨here, others⟩ := List.forall_mem_cons.1 new
    exact ih (forall_mem_set h here entry.1) others

/-- Of entries that follow others a table can be made first, which is then set over theirs. -/
theorem ofPairs_append (entries more : List (String × α)) :
    ofPairs (entries ++ more) = (ofPairs entries).update (ofPairs more) := by
  have joined : ofPairs (entries ++ more) = (ofPairs entries).update more := List.foldl_append
  rw [joined]
  exact (update_update nodup_keys_empty more).symm

end Keyed

end CatalogTypes
