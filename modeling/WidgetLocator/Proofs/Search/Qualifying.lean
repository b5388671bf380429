import WidgetLocator.Graph.Steps

namespace WidgetLocator
namespace WidgetGraph

variable {ν : Type} {graph : WidgetGraph ν} {registry : Option (TypeRegistry ν)}
  {known : TypeRegistry ν} {node child : ν} {name key raw : String} {pattern : Pattern}

/-- A registry declares an attribute as a property of a node. -/
def Declares (registry : Option (TypeRegistry ν)) (key : String) (node : ν) : Prop :=
  ∃ known ∈ registry, known.hasProperty node key = true

/-- The attribute of a node matches a pattern, and counts as true if it is declared. -/
def Qualifies (graph : WidgetGraph ν) (registry : Option (TypeRegistry ν)) (key : String)
    (pattern : Pattern) (node : ν) : Prop :=
  ∃ value, graph.generalProperty registry node key = some value ∧
    pattern.occursIn (graph.stringify value) = true ∧
    (Declares registry key node → value.isTruthy = true)

/-- Of the children at some places, the one at the first place that qualifies. -/
def FirstChild [DecidableEq ν] (graph : WidgetGraph ν) (node : ν) (qualifies : ν → Prop)
    (found : ν) : Prop :=
  ∃ i, graph.byIndex node i = some found ∧ qualifies found ∧
    ∀ j < i, ∀ earlier, graph.byIndex node j = some earlier → ¬qualifies earlier

section Attributes

theorem generalProperty_of_declared (hr : known ∈ registry)
    (declared : known.hasProperty node key = true) :
    graph.generalProperty registry node key = some (known.property node key) := by
  cases hr
  exact if_pos declared

theorem generalProperty_of_not_declared (h : ¬Declares registry key node) :
    graph.generalProperty registry node key = graph.member node key := by
  cases registry with
  | none => rfl
  | some known => exact if_neg fun declared => h ⟨known, rfl, declared⟩

/-- A declared property decides alone, whatever the members are. -/
theorem qualifies_iff_of_declared (hr : known ∈ registry)
    (declared : known.hasProperty node key = true) :
    graph.Qualifies registry key pattern node ↔
      (known.property node key).isTruthy = true ∧
        pattern.occursIn (graph.stringify (known.property node key)) = true := by
  rw [Qualifies, generalProperty_of_declared hr declared]
  constructor
  · rintro ⟨value, h, matched, truthy⟩
    cases h
    exact ⟨truthy ⟨known, hr, declared⟩, matched⟩
  · rintro ⟨truthy, matched⟩
    exact ⟨_, rfl, matched, fun _ => truthy⟩

theorem qualifies_iff_of_not_declared (h : ¬Declares registry key node) :
    graph.Qualifies registry key pattern node ↔
      ∃ value, graph.member node key = some value ∧
        pattern.occursIn (graph.stringify value) = true := by
  rw [Qualifies, generalProperty_of_not_declared h]
  constructor
  · rintro ⟨value, member, matched, _⟩
    exact ⟨value, member, matched⟩
  · rintro ⟨value, member, matched⟩
    exact ⟨value, member, matched, fun declared => absurd declared h⟩

theorem attributeMatches_iff :
    graph.attributeMatches registry key pattern node = true ↔
      graph.Qualifies registry key pattern node := by
  by_cases declared : Declares registry key node
  · obtain ⟨known, hr, has⟩ := declared
    rw [qualifies_iff_of_declared hr has]
    have here : registry.filter (·.hasProperty node key) = some known :=
      Option.filter_eq_some_iff.mpr ⟨hr, has⟩
    simp only [attributeMatches, here, Bool.and_eq_true]
  · rw [qualifies_iff_of_not_declared declared]
    have nowhere : registry.filter (·.hasProperty node key) = none :=
      Option.filter_eq_none_iff.mpr fun known hr has => declared ⟨known, hr, has⟩
    simp only [attributeMatches, nowhere]
    cases graph.member node key <;> simp

end Attributes

section Children

variable [DecidableEq ν] {qualifies : ν → Prop}

theorem find?_descendants_iff {test : ν → Bool} (h : ∀ v, test v = true ↔ qualifies v) :
    (graph.descendants node).find? test = some child ↔ graph.FirstChild node qualifies child := by
  simp only [FirstChild, byIndex, ← h, List.find?_eq_some_iff_getElem]
  constructor
  · rintro ⟨passes, i, lt, rfl, before⟩
    refine ⟨i, List.getElem?_eq_getElem lt, passes, fun j hj earlier he => ?_⟩
    obtain ⟨_, rfl⟩ := List.getElem?_eq_some_iff.mp he
    simpa using before j hj
  · rintro ⟨i, at_i, passes, before⟩
    obtain ⟨lt, same⟩ := List.getElem?_eq_some_iff.mp at_i
    refine ⟨passes, i, lt, same, fun j hj => ?_⟩
    simpa using before j hj _ (List.getElem?_eq_getElem (Nat.lt_trans hj lt))

/-- No place leads from a node to itself. -/
theorem FirstChild.ne (h : graph.FirstChild node qualifies child) : child ≠ node := by
  obtain ⟨i, at_i, _⟩ := h
  have listed : child ∈ graph.descendants node := List.mem_of_getElem? at_i
  simpa using (List.mem_filter.mp listed).2

theorem byAttribute_pattern_iff :
    graph.byAttribute registry node ⟨raw, some ⟨key, some pattern⟩⟩ = some child ↔
      graph.FirstChild node (graph.Qualifies registry key pattern) child :=
  find?_descendants_iff fun _ => attributeMatches_iff

theorem byAttribute_object_iff :
    graph.byAttribute registry node ⟨raw, some ⟨key, none⟩⟩ = some child ↔
      graph.generalProperty registry node key = some (.object child) := by
  refine Option.bind_eq_some_iff.trans ⟨?_, fun h => ⟨_, h, rfl⟩⟩
  rintro ⟨value, h, object⟩
  rw [h, Value.eq_object_of_object? object]

theorem byClass_iff {c : ClassRef} (h : known.classByName name = some c) :
    graph.byClass (some known) node name = .ok (some child) ↔
      graph.FirstChild node (fun v => known.isInstance v c = true) child := by
  rw [← find?_descendants_iff fun _ => Iff.rfl]
  simp only [byClass, h, Except.ok.injEq]

theorem byClass_ne : graph.byClass registry node name ≠ .ok (some node) := by
  intro h
  cases registry with
  | none => cases h
  | some known =>
    cases hc : known.classByName name with
    | none => simp [byClass, hc] at h
    | some c => exact ((byClass_iff hc).mp h).ne rfl

end Children

/-- Attribute steps with a pattern and class steps lead to the first child that qualifies, and
attribute steps without one to the object in the attribute. Declared properties hide members. -/
theorem steps_to_first_qualifying [DecidableEq ν] (graph : WidgetGraph ν)
    (registry : Option (TypeRegistry ν)) (node : ν) (key : String) :
    (∀ raw pattern child,
      graph.byAttribute registry node ⟨raw, some ⟨key, some pattern⟩⟩ = some child ↔
        graph.FirstChild node (graph.Qualifies registry key pattern) child) ∧
    (∀ known ∈ registry, ∀ name c, known.classByName name = some c → ∀ child,
      graph.byClass registry node name = .ok (some child) ↔
        graph.FirstChild node (fun v => known.isInstance v c = true) child) ∧
    (∀ raw object,
      graph.byAttribute registry node ⟨raw, some ⟨key, none⟩⟩ = some object ↔
        graph.generalProperty registry node key = some (.object object)) ∧
    (∀ known ∈ registry, ∀ v, known.hasProperty v key = true →
      (∀ pattern, graph.Qualifies registry key pattern v ↔
        (known.property v key).isTruthy = true ∧
          pattern.occursIn (graph.stringify (known.property v key)) = true) ∧
      ∀ raw object, graph.byAttribute registry v ⟨raw, some ⟨key, none⟩⟩ = some object ↔
        known.property v key = .object object) ∧
    (∀ raw pattern,
      graph.byAttribute registry node ⟨raw, some ⟨key, some pattern⟩⟩ ≠ some node) ∧
    ∀ name, graph.byClass registry node name ≠ .ok (some node) := by
  refine ⟨fun _ _ _ => byAttribute_pattern_iff, fun known hr name c hc child => ?_,
    fun _ _ => byAttribute_object_iff,
    fun known hr v declared => ⟨fun pattern => ?_, fun raw object => ?_⟩,
    fun raw pattern h => ?_, fun _ => byClass_ne⟩
  · cases hr
    exact byClass_iff hc
  · exact qualifies_iff_of_declared hr declared
  · rw [byAttribute_object_iff, generalProperty_of_declared hr declared, Option.some.injEq]
  · exact (byAttribute_pattern_iff.mp h).ne rfl

/-- A node with itself, a text and three other nodes below it, all with the same member. -/
def threeBelow : WidgetGraph Nat where
  children node :=
    if node = 0 then some [.object 0, .text "t", .object 1, .object 2, .object 3] else none
  members _ := [("k", .object 4)]

/-- All attributes of the first and the last of them are declared, and null. -/
def outerDeclared : TypeRegistry Nat where
  classByName name := some ⟨name⟩
  isInstance node _ := node == 3
  hasProperty node _ := node == 1 || node == 3
  property _ _ := .null

/-- The pattern that occurs in any text. -/
def anyText : Pattern :=
  (Pattern.ofText? "").get (by decide +kernel)

theorem steps_to_first_qualifying_hidden :
    threeBelow.byAttribute (some outerDeclared) 0 ⟨"[@k=]", some ⟨"k", some anyText⟩⟩ = some 2 ∧
      threeBelow.byClass (some outerDeclared) 0 "c" = .ok (some 3) ∧
      threeBelow.byAttribute (some outerDeclared) 1 ⟨"[@k]", some ⟨"k", none⟩⟩ = none := by
  obtain ⟨pattern, ofClass, _, hides, _, _⟩ :=
    steps_to_first_qualifying threeBelow (some outerDeclared) 0 "k"
  refine ⟨(pattern _ _ 2).mpr ⟨1, rfl, ?_, ?_⟩, ?_, ?_⟩
  · exact ⟨.object 4, rfl, by decide, fun _ => rfl⟩
  · intro j hj earlier he qualifies
    obtain rfl : j = 0 := by omega
    cases he
    have truthy := (((hides outerDeclared rfl 1 rfl).1 _).mp qualifies).1
    cases truthy
  · refine (ofClass outerDeclared rfl "c" ⟨"c"⟩ rfl 3).mpr ⟨2, rfl, rfl, ?_⟩
    intro j hj earlier he member
    obtain rfl | rfl : j = 0 ∨ j = 1 := by omega
    · cases he
      cases member
    · cases he
      cases member
  · refine Option.eq_none_iff_forall_ne_some.mpr fun object h => ?_
    cases ((hides outerDeclared rfl 1 rfl).2 _ object).mp h

end WidgetGraph
end WidgetLocator
