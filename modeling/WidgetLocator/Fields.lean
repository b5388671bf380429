namespace WidgetLocator

/-- Sets a field: a new name goes to the end, a known one keeps its place and takes the value. -/
def setField {α : Type} (fields : List (String × α)) (name : String) (value : α) :
    List (String × α) :=
  match fields with
  | [] => [(name, value)]
  | (n, v) :: rest =>
    if n = name then (n, value) :: rest else (n, v) :: setField rest name value

/-- The value of the first field with a name. -/
def field? {α : Type} (fields : List (String × α)) (name : String) : Option α :=
  (fields.find? (·.1 == name)).map (·.2)

theorem setField_names {α : Type} (fields : List (String × α)) (name : String) (value : α) :
    (setField fields name value).map (·.1) =
      if name ∈ fields.map (·.1) then fields.map (·.1) else fields.map (·.1) ++ [name] := by
  induction fields with
  | nil => simp [setField]
  | cons head rest ih =>
    obtain ⟨n, v⟩ := head
    by_cases h : n = name
    · simp [setField, h]
    · have h' : name ≠ n := fun e => h e.symm
      simp only [setField, h, if_false, List.map_cons, ih, List.mem_cons, h', false_or]
      split <;> rfl

theorem setField_nodup {α : Type} {fields : List (String × α)} (name : String) (value : α)
    (h : (fields.map (·.1)).Nodup) : ((setField fields name value).map (·.1)).Nodup := by
  rw [setField_names]
  split
  · exact h
  next hn =>
    refine List.nodup_append.mpr ⟨h, by simp, ?_⟩
    rintro a ha b hb rfl
    exact hn (List.mem_singleton.mp hb ▸ ha)

theorem setField_new {α : Type} {fields : List (String × α)} {name : String} (value : α)
    (new : name ∉ fields.map (·.1)) : setField fields name value = fields ++ [(name, value)] := by
  induction fields with
  | nil => rfl
  | cons head rest ih =>
    obtain ⟨n, v⟩ := head
    have apart : n ≠ name := by
      rintro rfl
      exact new (by simp)
    have later : name ∉ rest.map (·.1) := fun h => new (List.mem_cons_of_mem _ h)
    rw [setField, if_neg apart, ih later, List.cons_append]

/-- Values with distinct names. -/
structure Fields (α : Type) where
  entries : List (String × α)
  distinct : (entries.map (·.1)).Nodup

namespace Fields

variable {α : Type}

def empty : Fields α :=
  ⟨[], List.nodup_nil⟩

instance : Inhabited (Fields α) :=
  ⟨empty⟩

instance [Repr α] : Repr (Fields α) :=
  ⟨fun f n => reprPrec f.entries n⟩

def set (fields : Fields α) (name : String) (value : α) : Fields α :=
  ⟨setField fields.entries name value, setField_nodup name value fields.distinct⟩

/-- The fields of some entries: of several values for a name the last one stays, at the place of
the first. -/
def ofList (entries : List (String × α)) : Fields α :=
  entries.foldl (fun f (name, value) => f.set name value) empty

theorem entries_foldl_set {start : Fields α} {entries : List (String × α)}
    (h : ((start.entries ++ entries).map (·.1)).Nodup) :
    (entries.foldl (fun f (name, value) => f.set name value) start).entries =
      start.entries ++ entries := by
  induction entries generalizing start with
  | nil => exact (List.append_nil _).symm
  | cons head rest ih =>
    obtain ⟨name, value⟩ := head
    have new : name ∉ start.entries.map (·.1) := by
      rw [List.map_append] at h
      intro there
      exact (List.nodup_append.mp h).2.2 name there name (by simp) rfl
    have after : (start.set name value).entries = start.entries ++ [(name, value)] :=
      setField_new value new
    have shifted :
        (start.set name value).entries ++ rest = start.entries ++ (name, value) :: rest := by
      rw [after, List.append_assoc, List.singleton_append]
    rw [List.foldl_cons, ← shifted]
    exact ih (shifted.symm ▸ h)

theorem eq_of_entries {a b : Fields α} (h : a.entries = b.entries) : a = b := by
  cases a
  cases h
  rfl

theorem ofList_entries (fields : Fields α) : ofList fields.entries = fields :=
  eq_of_entries (entries_foldl_set fields.distinct)

def get? (fields : Fields α) (name : String) : Option α :=
  field? fields.entries name

end Fields

end WidgetLocator
