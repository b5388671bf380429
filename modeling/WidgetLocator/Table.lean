namespace WidgetLocator

/-- Puts a value in its place among sorted entries; a value that was there under the name is
replaced. -/
def insertEntry {α : Type} (name : String) (value : α) : List (String × α) → List (String × α)
  | [] => [(name, value)]
  | (n, v) :: rest =>
    if name < n then (name, value) :: (n, v) :: rest
    else if name = n then (name, value) :: rest
    else (n, v) :: insertEntry name value rest

theorem mem_insertEntry {α : Type} {name : String} {value : α} {entries : List (String × α)}
    {e : String × α} (h : e ∈ insertEntry name value entries) :
    e = (name, value) ∨ e ∈ entries := by
  induction entries with
  | nil => simpa [insertEntry] using h
  | cons head rest ih =>
    obtain ⟨n, v⟩ := head
    rw [insertEntry] at h
    split at h
    · simpa using h
    · split at h
      · rcases List.mem_cons.mp h with rfl | h
        · exact Or.inl rfl
        · exact Or.inr (List.mem_cons_of_mem _ h)
      · rcases List.mem_cons.mp h with rfl | h
        · exact Or.inr (by simp)
        · exact (ih h).imp_right (List.mem_cons_of_mem _)

theorem insertEntry_sorted {α : Type} {name : String} {value : α} {entries : List (String × α)}
    (h : entries.Pairwise (·.1 < ·.1)) :
    (insertEntry name value entries).Pairwise (·.1 < ·.1) := by
  induction entries with
  | nil => simp [insertEntry]
  | cons head rest ih =>
    obtain ⟨n, v⟩ := head
    obtain ⟨hn, hr⟩ := List.pairwise_cons.mp h
    rw [insertEntry]
    split
    next lt =>
      refine List.pairwise_cons.mpr ⟨fun e he => ?_, h⟩
      rcases List.mem_cons.mp he with rfl | he
      · exact lt
      · exact String.lt_trans lt (hn e he)
    next nlt =>
      split
      next eq => subst eq; exact List.pairwise_cons.mpr ⟨hn, hr⟩
      next ne =>
        refine List.pairwise_cons.mpr ⟨fun e he => ?_, ih hr⟩
        rcases mem_insertEntry he with rfl | he
        · rcases Std.lt_trichotomy name n with lt | eq | gt
          · exact absurd lt nlt
          · exact absurd eq ne
          · exact gt
        · exact hn e he

theorem insertEntry_last {α : Type} {name : String} {entries : List (String × α)} (value : α)
    (last : ∀ e ∈ entries, e.1 < name) :
    insertEntry name value entries = entries ++ [(name, value)] := by
  induction entries with
  | nil => rfl
  | cons head rest ih =>
    obtain ⟨n, v⟩ := head
    have before : n < name := last (n, v) (by simp)
    have not_first : ¬name < n := fun h => String.lt_irrefl n (String.lt_trans before h)
    have not_same : name ≠ n := by
      rintro rfl
      exact String.lt_irrefl name before
    rw [insertEntry, if_neg not_first, if_neg not_same, List.cons_append,
      ih fun e he => last e (List.mem_cons_of_mem _ he)]

theorem find?_insertEntry {α : Type} {name other : String} {value : α}
    {entries : List (String × α)} :
    (insertEntry name value entries).find? (·.1 == other) =
      if other = name then some (name, value) else entries.find? (·.1 == other) := by
  induction entries with
  | nil => grind [insertEntry]
  | cons head rest ih =>
    obtain ⟨n, v⟩ := head
    rw [insertEntry]
    split
    next => grind
    next => split <;> grind

/-- Values by name. -/
structure Table (α : Type) where
  entries : List (String × α)
  sorted : entries.Pairwise (·.1 < ·.1)

namespace Table

variable {α : Type}

def empty : Table α :=
  ⟨[], List.Pairwise.nil⟩

instance : Inhabited (Table α) :=
  ⟨empty⟩

instance [DecidableEq α] : DecidableEq (Table α) := fun a b =>
  if h : a.entries = b.entries then isTrue (by cases a; cases b; simp_all)
  else isFalse fun e => h (by rw [e])

instance [Repr α] : Repr (Table α) :=
  ⟨fun t n => reprPrec t.entries n⟩

def insert (t : Table α) (name : String) (value : α) : Table α :=
  ⟨insertEntry name value t.entries, insertEntry_sorted t.sorted⟩

/-- The table of some entries, the last value for a name being kept. -/
def ofList (entries : List (String × α)) : Table α :=
  entries.foldl (fun t (name, value) => t.insert name value) empty

theorem entries_foldl_insert {start : Table α} {entries : List (String × α)}
    (h : (start.entries ++ entries).Pairwise (·.1 < ·.1)) :
    (entries.foldl (fun t (name, value) => t.insert name value) start).entries =
      start.entries ++ entries := by
  induction entries generalizing start with
  | nil => exact (List.append_nil _).symm
  | cons head rest ih =>
    obtain ⟨name, value⟩ := head
    have last : ∀ e ∈ start.entries, e.1 < name := by
      intro e he
      exact (List.pairwise_append.mp h).2.2 e he (name, value) (by simp)
    have after : (start.insert name value).entries = start.entries ++ [(name, value)] :=
      insertEntry_last value last
    have shifted :
        (start.insert name value).entries ++ rest = start.entries ++ (name, value) :: rest := by
      rw [after, List.append_assoc, List.singleton_append]
    rw [List.foldl_cons, ← shifted]
    exact ih (shifted.symm ▸ h)

theorem eq_of_entries {a b : Table α} (h : a.entries = b.entries) : a = b := by
  cases a
  cases h
  rfl

theorem ofList_entries (t : Table α) : ofList t.entries = t :=
  eq_of_entries (entries_foldl_insert t.sorted)

def erase (t : Table α) (name : String) : Table α :=
  ⟨t.entries.filter (·.1 ≠ name), t.sorted.filter _⟩

def get? (t : Table α) (name : String) : Option α :=
  (t.entries.find? (·.1 == name)).map (·.2)

theorem get?_insert (t : Table α) (name other : String) (value : α) :
    (t.insert name value).get? other = if other = name then some value else t.get? other := by
  simp only [get?, insert, find?_insertEntry]
  split <;> rfl

theorem get?_foldl_insert (start : Table α) (entries : List (String × α)) (name : String) :
    (entries.foldl (fun t (name, value) => t.insert name value) start).get? name =
      ((entries.reverse.find? (·.1 == name)).map (·.2)).or (start.get? name) := by
  induction entries generalizing start with
  | nil => rfl
  | cons entry rest ih =>
    rw [List.foldl_cons, ih, get?_insert, List.reverse_cons, List.find?_append, Option.map_or,
      Option.or_assoc]
    by_cases here : name = entry.1
    · simp [here]
    · simp [here, Ne.symm here]

theorem get?_ofList (entries : List (String × α)) (name : String) :
    (ofList entries).get? name = (entries.reverse.find? (·.1 == name)).map (·.2) :=
  (get?_foldl_insert empty entries name).trans (Option.or_none)

theorem get?_erase (t : Table α) (name other : String) :
    (t.erase name).get? other = if other = name then none else t.get? other := by
  simp only [get?, erase, List.find?_filter]
  by_cases same : other = name
  · simp [same]
  · rw [if_neg same]
    congr 2
    funext e
    by_cases here : e.1 = other <;> simp [here, same]

def contains (t : Table α) (name : String) : Bool :=
  (t.get? name).isSome

def names (t : Table α) : List String :=
  t.entries.map (·.1)

theorem mem_names_of_get? {t : Table α} {name : String} {value : α} (h : t.get? name = some value) :
    name ∈ t.names := by
  obtain ⟨entry, found, _⟩ := Option.map_eq_some_iff.mp h
  have same : entry.1 = name := by simpa using List.find?_some found
  exact same ▸ List.mem_map.mpr ⟨entry, List.mem_of_find?_eq_some found, rfl⟩

end Table

end WidgetLocator
