import WidgetLocator.Snapshot
import Mathlib.Data.List.Perm.Subperm

namespace WidgetLocator
namespace Snapshot

/-- The definition with which a class is registered. -/
def definition? (snapshot : Snapshot) (name : String) : Option ClassDefinition :=
  snapshot.classes.bind (·.get? name)

/-- A class is reached from another one by steps to the superclass, on which all classes are
registered. -/
inductive Inherits (snapshot : Snapshot) (start : String) : String → Prop
  | self {definition : ClassDefinition} : snapshot.definition? start = some definition →
      Inherits snapshot start start
  | above {name superclass : String} {definition upper : ClassDefinition} :
      Inherits snapshot start name → snapshot.definition? name = some definition →
      definition.superclass = some superclass → snapshot.definition? superclass = some upper →
      Inherits snapshot start superclass

section Chain

variable {classes : Table ClassDefinition} {name superclass : String} {seen : List String}
  {definition upper : ClassDefinition} {entry : String × ClassDefinition} {fuel : Nat}

/-- The classes that were seen are registered, and the other ones are not more than the rounds that
are left. -/
structure HasRoom (classes : Table ClassDefinition) (fuel : Nat) (seen : List String) : Prop where
  distinct : seen.Nodup
  known : ∀ c ∈ seen, c ∈ classes.names
  enough : classes.entries.length ≤ fuel + seen.length

theorem HasRoom.start (enough : classes.entries.length ≤ fuel) : HasRoom classes fuel [] :=
  ⟨List.nodup_nil, by simp, enough⟩

theorem HasRoom.step (room : HasRoom classes fuel seen)
    (registered : classes.get? name = some definition) (new : name ∉ seen) :
    ∃ left, fuel = left + 1 ∧ HasRoom classes left (name :: seen) := by
  have distinct : (name :: seen).Nodup := List.nodup_cons.mpr ⟨new, room.distinct⟩
  have known : ∀ c ∈ name :: seen, c ∈ classes.names :=
    List.forall_mem_cons.mpr ⟨Table.mem_names_of_get? registered, room.known⟩
  have bound : (name :: seen).length ≤ classes.entries.length := by
    simpa [Table.names] using (List.subperm_of_subset distinct known).length_le
  have enough := room.enough
  rw [List.length_cons] at bound
  refine ⟨fuel - 1, by omega, distinct, known, ?_⟩
  rw [List.length_cons]
  omega

/-- A chain ends at a class that is not registered or was seen. -/
theorem classChainFrom_of_stuck
    (stuck : ∀ definition, classes.get? name = some definition → name ∈ seen) :
    classChainFrom classes fuel seen name = [] := by
  cases fuel with
  | zero => rfl
  | succ fuel =>
    cases registered : classes.get? name with
    | none => simp [classChainFrom, registered]
    | some definition => simp [classChainFrom, stuck definition registered]

theorem classChainFrom_of_registered (registered : classes.get? name = some definition)
    (new : name ∉ seen) :
    classChainFrom classes (fuel + 1) seen name =
      (name, definition) ::
        (definition.superclass.map (classChainFrom classes fuel (name :: seen))).getD [] := by
  have fresh : ¬seen.contains name = true := fun again => new (List.contains_iff_mem.mp again)
  simp only [classChainFrom, if_neg fresh, registered]
  cases definition.superclass <;> rfl

theorem stuck_or_registered (classes : Table ClassDefinition) (seen : List String) (name : String) :
    (∀ definition, classes.get? name = some definition → name ∈ seen) ∨
      ∃ definition, classes.get? name = some definition ∧ name ∉ seen := by
  by_cases onward : ∃ definition, classes.get? name = some definition ∧ name ∉ seen
  · exact Or.inr onward
  · push Not at onward
    exact Or.inl onward

/-- What one round puts on a chain. -/
theorem mem_classChainFrom_succ :
    entry ∈ classChainFrom classes (fuel + 1) seen name ↔
      ∃ definition, classes.get? name = some definition ∧ name ∉ seen ∧
        (entry = (name, definition) ∨ ∃ superclass, definition.superclass = some superclass ∧
          entry ∈ classChainFrom classes fuel (name :: seen) superclass) := by
  rcases stuck_or_registered classes seen name with stuck | ⟨definition, registered, new⟩
  · rw [classChainFrom_of_stuck stuck]
    refine ⟨fun h => absurd h List.not_mem_nil, ?_⟩
    rintro ⟨definition, registered, new, _⟩
    exact absurd (stuck definition registered) new
  · rw [classChainFrom_of_registered registered new]
    cases above : definition.superclass <;> simp [registered, new, above]

theorem mem_classChainFrom (h : entry ∈ classChainFrom classes fuel seen name) :
    classes.get? entry.1 = some entry.2 ∧ entry.1 ∉ seen := by
  induction fuel generalizing seen name with
  | zero => exact absurd h List.not_mem_nil
  | succ fuel ih =>
    obtain ⟨definition, registered, new, rfl | ⟨superclass, _, h⟩⟩ := mem_classChainFrom_succ.mp h
    · exact ⟨registered, new⟩
    · obtain ⟨registered, new⟩ := ih h
      exact ⟨registered, fun again => new (List.mem_cons_of_mem _ again)⟩

theorem nodup_classChainFrom : ((classChainFrom classes fuel seen name).map (·.1)).Nodup := by
  induction fuel generalizing seen name with
  | zero => exact List.nodup_nil
  | succ fuel ih =>
    rcases stuck_or_registered classes seen name with stuck | ⟨definition, registered, new⟩
    · rw [classChainFrom_of_stuck stuck]
      exact List.nodup_nil
    · rw [classChainFrom_of_registered registered new, List.map_cons, List.nodup_cons]
      cases definition.superclass with
      | none => simp
      | some superclass =>
        refine ⟨fun twice => ?_, ih⟩
        obtain ⟨entry, h, same⟩ := List.mem_map.mp twice
        exact (mem_classChainFrom h).2 (same ▸ List.mem_cons_self)

/-- A chain with room ends because it cannot go on, and not for want of rounds. -/
theorem classChainFrom_succ (room : HasRoom classes fuel seen) :
    classChainFrom classes (fuel + 1) seen name = classChainFrom classes fuel seen name := by
  induction fuel generalizing seen name with
  | zero =>
    rcases stuck_or_registered classes seen name with stuck | ⟨definition, registered, new⟩
    · exact classChainFrom_of_stuck stuck
    · -- no class is left that could be registered
      obtain ⟨left, no, _⟩ := room.step registered new
      omega
  | succ fuel ih =>
    rcases stuck_or_registered classes seen name with stuck | ⟨definition, registered, new⟩
    · rw [classChainFrom_of_stuck stuck, classChainFrom_of_stuck stuck]
    · obtain ⟨left, same, room⟩ := room.step registered new
      obtain rfl : fuel = left := Nat.succ_inj.mp same
      rw [classChainFrom_of_registered registered new, classChainFrom_of_registered registered new]
      cases definition.superclass with
      | none => rfl
      | some superclass => exact congrArg _ (ih room)

theorem classChainFrom_of_le (enough : classes.entries.length ≤ fuel) :
    classChainFrom classes fuel [] name =
      classChainFrom classes classes.entries.length [] name := by
  obtain ⟨more, rfl⟩ := Nat.exists_eq_add_of_le enough
  induction more with
  | zero => rfl
  | succ more ih =>
    have less := Nat.le_add_right classes.entries.length more
    exact (classChainFrom_succ (.start less)).trans (ih less)

theorem self_mem_classChainFrom (room : HasRoom classes fuel seen)
    (registered : classes.get? name = some definition) (new : name ∉ seen) :
    (name, definition) ∈ classChainFrom classes fuel seen name := by
  obtain ⟨left, rfl, _⟩ := room.step registered new
  exact mem_classChainFrom_succ.mpr ⟨definition, registered, new, Or.inl rfl⟩

/-- The superclass of a class on a chain is on it too, unless it was seen before. -/
theorem above_mem_classChainFrom (room : HasRoom classes fuel seen)
    (h : entry ∈ classChainFrom classes fuel seen name)
    (above : entry.2.superclass = some superclass)
    (registered : classes.get? superclass = some upper) (new : superclass ∉ seen) :
    (superclass, upper) ∈ classChainFrom classes fuel seen name := by
  induction fuel generalizing seen name with
  | zero => exact absurd h List.not_mem_nil
  | succ fuel ih =>
    obtain ⟨definition, here, fresh, onward⟩ := mem_classChainFrom_succ.mp h
    by_cases same : superclass = name
    · -- the chain has come to its first class again
      cases same
      exact self_mem_classChainFrom room registered fresh
    · obtain ⟨left, rest, room⟩ := room.step here fresh
      obtain rfl : fuel = left := Nat.succ_inj.mp rest
      have new' : superclass ∉ name :: seen := List.not_mem_cons_of_ne_of_not_mem same new
      refine mem_classChainFrom_succ.mpr ⟨definition, here, fresh, Or.inr ?_⟩
      rcases onward with rfl | ⟨next, link, h⟩
      · exact ⟨superclass, above, self_mem_classChainFrom room registered new'⟩
      · exact ⟨next, link, ih room h new'⟩

end Chain

section Registry

variable {snapshot : Snapshot} {start name key : String} {definition : ClassDefinition}
  {classes : Table ClassDefinition} {fuel : Nat} {seen : List String} {node : NodeId}

theorem definition?_of_classes (h : snapshot.classes = some classes) :
    snapshot.definition? name = classes.get? name := by
  rw [definition?, h, Option.bind_some]

theorem classChain_of_classes (h : snapshot.classes = some classes) :
    snapshot.classChain start =
      classChainFrom classes (classes.entries.length + 1) [] start := by
  rw [classChain, h]

theorem classChain_of_none (h : snapshot.classes = none) : snapshot.classChain start = [] := by
  rw [classChain, h]

theorem Inherits.registered (h : snapshot.Inherits start name) :
    ∃ definition, snapshot.definition? name = some definition := by
  cases h with
  | self registered => exact ⟨_, registered⟩
  | above _ _ _ registered => exact ⟨_, registered⟩

theorem inherits_of_mem_classChainFrom (h : snapshot.classes = some classes)
    {entry : String × ClassDefinition} (listed : entry ∈ classChainFrom classes fuel seen name)
    (reached : ∀ definition, snapshot.definition? name = some definition →
      snapshot.Inherits start name) : snapshot.Inherits start entry.1 := by
  induction fuel generalizing seen name with
  | zero => exact absurd listed List.not_mem_nil
  | succ fuel ih =>
    obtain ⟨definition, registered, _, step⟩ := mem_classChainFrom_succ.mp listed
    rw [← definition?_of_classes h] at registered
    have here := reached definition registered
    rcases step with rfl | ⟨superclass, link, listed⟩
    · exact here
    · exact ih listed fun upper known => here.above registered link known

theorem mem_classChainFrom_of_inherits (h : snapshot.classes = some classes)
    (enough : classes.entries.length ≤ fuel) (reached : snapshot.Inherits start name)
    (registered : snapshot.definition? name = some definition) :
    (name, definition) ∈ classChainFrom classes fuel [] start := by
  induction reached generalizing definition with
  | self =>
    rw [definition?_of_classes h] at registered
    exact self_mem_classChainFrom (.start enough) registered List.not_mem_nil
  | above _ below link _ ih =>
    rw [definition?_of_classes h] at registered
    exact above_mem_classChainFrom (.start enough) (ih below) link registered List.not_mem_nil

theorem mem_classChain_iff :
    (name, definition) ∈ snapshot.classChain start ↔
      snapshot.Inherits start name ∧ snapshot.definition? name = some definition := by
  cases h : snapshot.classes with
  | none => simp [classChain_of_none h, definition?, h]
  | some classes =>
    rw [classChain_of_classes h]
    refine ⟨fun listed => ⟨?_, ?_⟩, fun ⟨reached, registered⟩ => ?_⟩
    · exact inherits_of_mem_classChainFrom h listed fun _ registered => .self registered
    · rw [definition?_of_classes h]
      exact (mem_classChainFrom listed).1
    · exact mem_classChainFrom_of_inherits h (Nat.le_succ _) reached registered

theorem nodup_classChain : ((snapshot.classChain start).map (·.1)).Nodup := by
  cases h : snapshot.classes with
  | none =>
    rw [classChain_of_none h]
    exact List.nodup_nil
  | some classes =>
    rw [classChain_of_classes h]
    exact nodup_classChainFrom

theorem mem_classesOf_iff :
    (name, definition) ∈ snapshot.classesOf node ↔
      ∃ own, snapshot.classOf node = some own ∧ snapshot.Inherits own name ∧
        snapshot.definition? name = some definition := by
  cases h : snapshot.classOf node with
  | none => simp [classesOf, h]
  | some own => simp [classesOf, h, mem_classChain_iff]

theorem isInstance_iff {c : ClassRef} :
    snapshot.typeRegistry.isInstance node c = true ↔
      ∃ own, snapshot.classOf node = some own ∧ snapshot.Inherits own c.name := by
  simp only [typeRegistry, List.any_eq_true, Prod.exists, beq_iff_eq]
  constructor
  · rintro ⟨name, definition, listed, rfl⟩
    obtain ⟨own, h, reached, _⟩ := mem_classesOf_iff.mp listed
    exact ⟨own, h, reached⟩
  · rintro ⟨own, h, reached⟩
    obtain ⟨definition, registered⟩ := reached.registered
    exact ⟨c.name, definition, mem_classesOf_iff.mpr ⟨own, h, reached, registered⟩, rfl⟩

theorem hasProperty_iff :
    snapshot.typeRegistry.hasProperty node key = true ↔
      ∃ own name definition, snapshot.classOf node = some own ∧ snapshot.Inherits own name ∧
        snapshot.definition? name = some definition ∧ key ∈ definition.properties := by
  simp only [typeRegistry, List.any_eq_true, Prod.exists, List.contains_iff_mem, mem_classesOf_iff]
  constructor
  · rintro ⟨name, definition, ⟨own, h, reached, registered⟩, declared⟩
    exact ⟨own, name, definition, h, reached, registered, declared⟩
  · rintro ⟨own, name, definition, h, reached, registered, declared⟩
    exact ⟨name, definition, ⟨own, h, reached, registered⟩, declared⟩

end Registry

/-- Class membership and properties follow the superclasses of registered classes, however they run,
and each class is looked at once at most. -/
theorem classes_follow_superclasses (snapshot : Snapshot) :
    (∀ name, ((snapshot.classChain name).map (·.1)).Nodup ∧
      ∀ classes ∈ snapshot.classes, ∀ rounds ≥ classes.entries.length,
        classChainFrom classes rounds [] name = snapshot.classChain name) ∧
    (∀ node c, snapshot.typeRegistry.isInstance node c = true ↔
      ∃ own, snapshot.classOf node = some own ∧ snapshot.Inherits own c.name) ∧
    (∀ node key, snapshot.typeRegistry.hasProperty node key = true ↔
      ∃ own name definition, snapshot.classOf node = some own ∧ snapshot.Inherits own name ∧
        snapshot.definition? name = some definition ∧ key ∈ definition.properties) ∧
    (∀ node name superclass definition upper, snapshot.definition? name = some definition →
      definition.superclass = some superclass → snapshot.definition? superclass = some upper →
      snapshot.typeRegistry.isInstance node ⟨name⟩ = true →
      snapshot.typeRegistry.isInstance node ⟨superclass⟩ = true) := by
  refine ⟨fun name => ⟨nodup_classChain, fun classes h rounds enough => ?_⟩,
    fun _ _ => isInstance_iff, fun _ _ => hasProperty_iff,
    fun node name superclass definition upper below link above h => ?_⟩
  · rw [classChain_of_classes h, classChainFrom_of_le enough, classChainFrom_of_le (Nat.le_succ _)]
  · obtain ⟨own, h, reached⟩ := isInstance_iff.mp h
    exact isInstance_iff.mpr ⟨own, h, reached.above below link above⟩

def nodeOfClass (name : String) : NodeDefinition :=
  { (default : NodeDefinition) with className := some name }

def classBelow (superclass : String) (properties : List String) : ClassDefinition :=
  { superclass := some superclass, properties }

/-- Two classes above each other, and one above which there is a class that is not registered. -/
def circularDocument : SnapshotDocument where
  location := none
  toolkit := none
  application := none
  clientDocument := none
  classes := some ⟨[("a", classBelow "b" []), ("b", classBelow "a" ["p"]),
    ("c", classBelow "d" ["q"])], by decide⟩
  nodes := ⟨[("x", nodeOfClass "a"), ("y", nodeOfClass "c")], by decide⟩

def circularClasses : Snapshot :=
  (ofDocument circularDocument).toOption.get rfl

theorem classes_follow_superclasses_circular :
    circularClasses.classChain "a" = [("a", classBelow "b" []), ("b", classBelow "a" ["p"])] ∧
      circularClasses.typeRegistry.isInstance 0 ⟨"b"⟩ = true ∧
      circularClasses.typeRegistry.hasProperty 0 "p" = true ∧
      circularClasses.typeRegistry.isInstance 1 ⟨"d"⟩ = false := by
  obtain ⟨chain, member, property, transitive⟩ := classes_follow_superclasses circularClasses
  refine ⟨((chain "a").2 _ rfl 3 (Nat.le_refl 3)).symm, ?_, ?_, ?_⟩
  · have own : circularClasses.typeRegistry.isInstance 0 ⟨"a"⟩ = true :=
      (member 0 ⟨"a"⟩).mpr ⟨"a", rfl, .self rfl⟩
    exact transitive 0 "a" "b" _ _ rfl rfl rfl own
  · exact (property 0 "p").mpr
      ⟨"a", "b", _, rfl, .above (.self rfl) rfl rfl rfl, rfl, List.mem_singleton.mpr rfl⟩
  · refine Bool.eq_false_iff.mpr fun h => ?_
    obtain ⟨own, _, reached⟩ := (member 1 ⟨"d"⟩).mp h
    obtain ⟨definition, unknown⟩ := reached.registered
    cases unknown

end Snapshot
end WidgetLocator
