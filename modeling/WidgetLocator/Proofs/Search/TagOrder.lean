import WidgetLocator.Proofs.Search.Tags
import Mathlib.Logic.Relation

namespace WidgetLocator
namespace WidgetGraph

variable {ν : Type}

/-- A node has another one as an object in its child collection. -/
def HasChild (graph : WidgetGraph ν) (node child : ν) : Prop :=
  ∃ values, graph.children node = some values ∧ .object child ∈ values

/-- The nodes below a node in depth-first order along child collections: each child, and then what
is below it. A node that can be reached in several ways comes several times. -/
inductive InOrder (graph : WidgetGraph ν) : ν → List ν → Prop
  | childless {node : ν} : graph.children node = none → InOrder graph node []
  | children {node : ν} {values : List (Value ν)} {below : ν → List ν} :
      graph.children node = some values →
      (∀ child, .object child ∈ values → InOrder graph child (below child)) →
      InOrder graph node
        ((values.filterMap Value.object?).flatMap fun child => child :: below child)

/-- A node has user data that counts as true under a tag. -/
def hasTag (graph : WidgetGraph ν) (tag : String) (node : ν) : Bool :=
  (graph.userData node tag).isTruthy

variable {graph : WidgetGraph ν} {node child v : ν} {values : List (Value ν)} {order other : List ν}
  {tag : String} {fuel : Nat}

theorem mem_objects_iff : child ∈ values.filterMap Value.object? ↔ .object child ∈ values := by
  constructor
  · intro h
    obtain ⟨value, hv, ho⟩ := List.mem_filterMap.mp h
    rw [Value.eq_object_of_object? ho] at hv
    exact hv
  · intro h
    exact List.mem_filterMap.mpr ⟨_, h, rfl⟩

theorem InOrder.of_children (below : ν → List ν) (hv : graph.children node = some values)
    (hb : ∀ child, .object child ∈ values → graph.InOrder child (below child))
    (whole : order = (values.filterMap Value.object?).flatMap fun child => child :: below child) :
    graph.InOrder node order :=
  whole ▸ .children hv hb

theorem childNodes_of_childless (h : graph.children node = none) : graph.childNodes node = [] := by
  simp [childNodes, h]

theorem childNodes_of_children (h : graph.children node = some values) :
    graph.childNodes node = values.filterMap Value.object? := by
  simp [childNodes, h]

theorem HasChild.mem_childNodes (h : graph.HasChild node child) : child ∈ graph.childNodes node := by
  obtain ⟨values, hv, hc⟩ := h
  rw [childNodes_of_children hv]
  exact mem_objects_iff.mpr hc

section Rank

variable {nodes : Finset ν}

theorem mem_of_transGen_hasChild (finite : graph.ChildrenIn nodes)
    (h : Relation.TransGen graph.HasChild node v) : v ∈ nodes := by
  obtain ⟨last, _, hc⟩ := Relation.TransGen.tail'_iff.mp h
  exact finite last v hc.mem_childNodes

open Classical in
/-- How many nodes are below a node. -/
noncomputable def rank (graph : WidgetGraph ν) (nodes : Finset ν) (node : ν) : Nat :=
  (nodes.filter (Relation.TransGen graph.HasChild node)).card

theorem rank_le_card (graph : WidgetGraph ν) (nodes : Finset ν) (node : ν) :
    graph.rank nodes node ≤ nodes.card := by
  classical
  unfold rank
  exact Finset.card_filter_le _ _

/-- Fewer nodes are below a child than below the node, for the child is not below itself. -/
theorem HasChild.rank_lt (finite : graph.ChildrenIn nodes)
    (acyclic : ∀ v, ¬Relation.TransGen graph.HasChild v v) (h : graph.HasChild node child) :
    graph.rank nodes child < graph.rank nodes node := by
  classical
  refine Finset.card_lt_card ((Finset.ssubset_iff_of_subset ?_).mpr ⟨child, ?_, ?_⟩)
  · intro v hv
    obtain ⟨inside, below⟩ := Finset.mem_filter.mp hv
    exact Finset.mem_filter.mpr ⟨inside, below.head h⟩
  · have inside : child ∈ nodes := mem_of_transGen_hasChild finite (.single h)
    exact Finset.mem_filter.mpr ⟨inside, .single h⟩
  · intro hc
    exact acyclic child (Finset.mem_filter.mp hc).2

theorem exists_inOrder (finite : graph.ChildrenIn nodes)
    (acyclic : ∀ v, ¬Relation.TransGen graph.HasChild v v) (node : ν) :
    ∃ order, graph.InOrder node order := by
  -- by induction on how many nodes are below the node
  induction hr : graph.rank nodes node using Nat.strong_induction_on generalizing node with
  | _ rank ih =>
    cases hv : graph.children node with
    | none => exact ⟨[], .childless hv⟩
    | some values =>
      have each : ∀ child, ∃ order, .object child ∈ values → graph.InOrder child order := by
        intro child
        by_cases hc : .object child ∈ values
        · have less := HasChild.rank_lt finite acyclic ⟨values, hv, hc⟩
          obtain ⟨order, ho⟩ := ih _ (hr ▸ less) child rfl
          exact ⟨order, fun _ => ho⟩
        · exact ⟨[], fun hc' => absurd hc' hc⟩
      choose below hb using each
      exact ⟨_, .children hv hb⟩

end Rank

theorem InOrder.unique (h : graph.InOrder node order) (h' : graph.InOrder node other) :
    other = order := by
  induction h generalizing other with
  | childless hn =>
    cases h' with
    | childless => rfl
    | children hv => cases hn.symm.trans hv
  | @children node values below hv _ ih =>
    cases h' with
    | childless hn => cases hn.symm.trans hv
    | @children _ _ below' hv' hb' =>
      cases Option.some.inj (hv.symm.trans hv')
      refine List.flatMap_congr fun child hc => ?_
      have member := mem_objects_iff.mp hc
      rw [ih child member (hb' child member)]

/-- The order goes through the nodes that can be reached in at least one step. -/
theorem InOrder.mem_iff (h : graph.InOrder node order) :
    v ∈ order ↔ Relation.TransGen graph.HasChild node v := by
  induction h with
  | @childless node hn =>
    simp only [List.not_mem_nil, false_iff]
    intro ht
    obtain ⟨child, ⟨values, hv, _⟩, _⟩ := Relation.TransGen.head'_iff.mp ht
    cases hn.symm.trans hv
  | @children node values below hv _ ih =>
    rw [List.mem_flatMap, Relation.TransGen.head'_iff]
    constructor
    · rintro ⟨child, hc, hm⟩
      have member := mem_objects_iff.mp hc
      refine ⟨child, ⟨values, hv, member⟩, Relation.reflTransGen_iff_eq_or_transGen.mpr ?_⟩
      exact (List.mem_cons.mp hm).imp_right (ih child member).mp
    · rintro ⟨child, ⟨values', hv', member⟩, hr⟩
      cases Option.some.inj (hv.symm.trans hv')
      refine ⟨child, mem_objects_iff.mpr member, List.mem_cons.mpr ?_⟩
      exact (Relation.reflTransGen_iff_eq_or_transGen.mp hr).imp_right (ih child member).mpr

/-- If each branch finds the first node of a row, the search finds the first of all the rows. -/
theorem firstTagged_eq_find {search : ν → Except Error (Option ν)} {row : ν → List ν}
    {P : ν → Bool} {branches : List ν}
    (each : ∀ branch ∈ branches, search branch = .ok ((row branch).find? P)) :
    firstTagged search branches = .ok ((branches.flatMap row).find? P) := by
  induction branches with
  | nil => rfl
  | cons branch branches ih =>
    have first := each branch (by simp)
    have others := ih fun b hb => each b (by simp [hb])
    rw [List.flatMap_cons, List.find?_append]
    cases hf : (row branch).find? P with
    | none =>
      rw [hf] at first
      rw [firstTagged_cons_of_none first, others, Option.none_or]
    | some found =>
      rw [hf] at first
      rw [firstTagged_cons_of_ne_none (by simp [first]), first, Option.some_or]

/-- A search for a tag finds the first node with the tag in depth-first order. -/
theorem InOrder.searchTag_eq {nodes : Finset ν} (finite : graph.ChildrenIn nodes)
    (acyclic : ∀ v, ¬Relation.TransGen graph.HasChild v v) (h : graph.InOrder node order)
    (enough : graph.rank nodes node < fuel) :
    graph.searchTag fuel node tag = .ok (order.find? (graph.hasTag tag)) := by
  induction h generalizing fuel with
  | @childless node hn =>
    obtain ⟨fuel, rfl⟩ : ∃ n, fuel = n + 1 := ⟨fuel - 1, by omega⟩
    rw [searchTag_add_one, childNodes_of_childless hn]
    rfl
  | @children node values below hv hb ih =>
    obtain ⟨fuel, rfl⟩ : ∃ n, fuel = n + 1 := ⟨fuel - 1, by omega⟩
    rw [searchTag_add_one, childNodes_of_children hv]
    refine firstTagged_eq_find fun child hc => ?_
    have member := mem_objects_iff.mp hc
    have less := HasChild.rank_lt finite acyclic ⟨values, hv, member⟩
    have inner : graph.searchTag fuel child tag = .ok ((below child).find? (graph.hasTag tag)) :=
      ih child member (by omega)
    rw [tagAtOrBelow, inner, List.find?_cons]
    cases ht : graph.hasTag tag child with
    | true => exact if_pos ht
    | false => exact if_neg (by simpa [hasTag] using ht)

section Paths

theorem segments_append (before after : List Char) :
    segments (before ++ '/' :: after) = segments before ++ segments after := by
  rw [segments, List.splitOn_append_cons_self, List.filter_append]
  rfl

theorem tagsOf_append (path more : String) :
    tagsOf (path ++ "/" ++ more) = tagsOf path ++ tagsOf more := by
  have joined : (path ++ "/" ++ more).toList = path.toList ++ '/' :: more.toList := by
    simp [String.toList_append]
  rw [tagsOf, joined, segments_append, List.map_append]
  rfl

theorem findTags_append (graph : WidgetGraph ν) (n : Nat) (node : ν) (tags more : List String) :
    graph.findTags n node (tags ++ more) =
      match graph.findTags n node tags with
      | .ok (some next) => graph.findTags n next more
      | outcome => outcome := by
  induction tags generalizing node with
  | nil => rfl
  | cons tag tags ih =>
    simp only [List.cons_append, findTags]
    rcases graph.findTag n node tag with e | _ | next
    · rfl
    · rfl
    · exact ih next

theorem exists_findTags {n : Nat} (ends : ∀ node tag, ∃ found, graph.findTag n node tag = .ok found)
    (node : ν) (tags : List String) : ∃ found, graph.findTags n node tags = .ok found := by
  induction tags generalizing node with
  | nil => exact ⟨some node, rfl⟩
  | cons tag tags ih =>
    obtain ⟨found, hf⟩ := ends node tag
    rw [findTags, hf]
    cases found with
    | none => exact ⟨none, rfl⟩
    | some next => exact ih next

theorem searchTag_hasTag {graph : WidgetGraph ν} {fuel : Nat} {node found : ν} {tag : String}
    (h : graph.searchTag fuel node tag = .ok (some found)) : graph.hasTag tag found = true := by
  induction fuel generalizing node with
  | zero => cases h
  | succ fuel ih =>
    rw [searchTag_add_one] at h
    obtain ⟨child, _, hf⟩ := exists_of_firstTagged h nofun
    unfold tagAtOrBelow at hf
    split at hf
    next tagged =>
      cases hf
      exact tagged
    next => exact ih hf

/-- What at least one tag leads to is found by a search. -/
theorem exists_of_findTags {graph : WidgetGraph ν} {n : Nat} {node found : ν} {tags : List String}
    (h : graph.findTags n node tags = .ok (some found)) (hne : tags ≠ []) :
    ∃ above, ∃ tag ∈ tags, graph.findTag n above tag = .ok (some found) := by
  induction tags generalizing node with
  | nil => exact absurd rfl hne
  | cons tag tags ih =>
    unfold findTags at h
    split at h
    next next hf =>
      by_cases last : tags = []
      · subst last
        cases h
        exact ⟨node, tag, List.mem_cons_self, hf⟩
      · obtain ⟨above, later, hm, hl⟩ := ih h last
        exact ⟨above, later, List.mem_cons_of_mem _ hm, hl⟩
    next outcome other => exact absurd h (other found)

end Paths

/-- In a finite graph without cycles along child collections a search for a tag comes to the first
node with the tag among those below a node in depth-first order, which are the nodes that can be
reached from it, or to none if none of them has the tag. So a tag path has an outcome there. Tag paths
that are joined lead on from one another in any graph, whatever slashes they have. -/
theorem tagged_first_in_order :
    (∀ {ν : Type} (graph : WidgetGraph ν) (nodes : Finset ν), graph.ChildrenIn nodes →
      (∀ v, ¬Relation.TransGen graph.HasChild v v) → ∀ n, nodes.card ≤ n → ∀ node,
      ∃ order, graph.InOrder node order ∧ (∀ other, graph.InOrder node other → other = order) ∧
        (∀ v, v ∈ order ↔ Relation.TransGen graph.HasChild node v) ∧
        (∀ tag, graph.findTag n node tag = .ok (order.find? (graph.hasTag tag))) ∧
        ∀ path, ∃ found, graph.findTagPath n node path = .ok found) ∧
    ∀ {ν : Type} (graph : WidgetGraph ν) (n : Nat) (root : ν) (path more : String),
      graph.findTagPath n root (path ++ "/" ++ more) =
        match graph.findTagPath n root path with
        | .ok (some next) => graph.findTagPath n next more
        | outcome => outcome := by
  refine ⟨?_, ?_⟩
  · intro ν graph nodes finite acyclic n size node
    have first : ∀ node order, graph.InOrder node order → ∀ tag,
        graph.findTag n node tag = .ok (order.find? (graph.hasTag tag)) := by
      intro node order ho tag
      have room := graph.rank_le_card nodes node
      exact ho.searchTag_eq finite acyclic (by omega)
    have ends : ∀ node tag, ∃ found, graph.findTag n node tag = .ok found := by
      intro node tag
      obtain ⟨order, ho⟩ := exists_inOrder finite acyclic node
      exact ⟨_, first node order ho tag⟩
    obtain ⟨order, ho⟩ := exists_inOrder finite acyclic node
    exact ⟨order, ho, fun _ h => ho.unique h, fun _ => ho.mem_iff, first node order ho,
      fun path => exists_findTags ends node (tagsOf path)⟩
  · intro ν graph n root path more
    rw [findTagPath, tagsOf_append, findTags_append]
    rfl

/-- A graph with a node that is a child of two others. It has an item, but no children. -/
def sharedChild : WidgetGraph (Fin 5) where
  items node := if node = 3 then some [.object 4] else none
  children node :=
    [some [.object 1, .text "x", .object 2], some [.object 3],
      some [.object 3, .object 4]].getD node none
  members _ := []
  userData node tag :=
    if tag = "group" ∧ node = 2 then .bool true
    else if tag = "x" ∧ node = 4 then .text "yes"
    else if tag = "x" then .text ""
    else .undefined

theorem tagged_first_in_order_sharedChild :
    sharedChild.InOrder 0 [1, 3, 2, 3, 4] ∧ sharedChild.findTag 5 0 "x" = .ok (some 4) ∧
      sharedChild.findTagPath 5 0 ("/group/" ++ "/" ++ "/x") = .ok (some 4) := by
  have finite : sharedChild.ChildrenIn {1, 2, 3, 4} :=
    (by decide : ∀ node, ∀ child ∈ sharedChild.childNodes node, child ∈ _)
  have larger : ∀ node, ∀ child ∈ sharedChild.childNodes node, node < child := by decide
  have below_gt : ∀ {v w}, Relation.TransGen sharedChild.HasChild v w → v < w := by
    intro v w h
    induction h with
    | single hc => exact larger _ _ hc.mem_childNodes
    | tail _ hc ih => exact Fin.lt_trans ih (larger _ _ hc.mem_childNodes)
  have acyclic : ∀ v, ¬Relation.TransGen sharedChild.HasChild v v :=
    fun v hv => absurd (below_gt hv) (Nat.lt_irrefl v)
  obtain ⟨order, _, unique, _, found, _⟩ :=
    tagged_first_in_order.1 sharedChild _ finite acyclic 5 (by decide) 0
  have ordered : sharedChild.InOrder 0 [1, 3, 2, 3, 4] := by
    have three : sharedChild.InOrder 3 [] := .childless rfl
    have four : sharedChild.InOrder 4 [] := .childless rfl
    have one : sharedChild.InOrder 1 [3] :=
      .of_children (fun _ => []) rfl (by simpa using three) rfl
    have two : sharedChild.InOrder 2 [3, 4] :=
      .of_children (fun _ => []) rfl (by simpa using ⟨three, four⟩) rfl
    exact .of_children (fun v => if v = 1 then [3] else [3, 4]) rfl (by simpa using ⟨one, two⟩) rfl
  have first := found "x"
  rw [← unique _ ordered] at first
  refine ⟨ordered, first, ?_⟩
  rw [tagged_first_in_order.2]
  rfl

end WidgetGraph
end WidgetLocator
