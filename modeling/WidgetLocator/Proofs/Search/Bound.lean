import WidgetLocator.Proofs.Search.Calls
import Mathlib.Data.Finset.Card

namespace WidgetLocator

/-- A graph is finite if the descendants of all its nodes are among some nodes. -/
def WidgetGraph.DescendantsIn {ν : Type} [DecidableEq ν] (graph : WidgetGraph ν)
    (nodes : Finset ν) : Prop :=
  ∀ node, ∀ child ∈ graph.descendants node, child ∈ nodes

section Room

variable {ν : Type} {nodes : Finset ν}

/-- What holds of every call: there is a step left, and a descent enters no node again. All of its
nodes but the first one are descendants. -/
structure Call.InBounds (nodes : Finset ν) (call : Call ν) : Prop where
  steps_ne : call.steps ≠ []
  nodup : call.stack.Nodup
  inside : ∀ v ∈ call.stack.dropLast, v ∈ nodes

/-- How many calls can be nested from a call on, itself counted. -/
def Call.room (nodes : Finset ν) (call : Call ν) : Nat :=
  (call.steps.length - 1) * (nodes.card + 1) + (nodes.card + 1 - call.above.length)

/-- A descent through distinct nodes that starts anywhere and goes on among some nodes. -/
theorem descent_length_le {descent : List ν} (distinct : descent.Nodup)
    (inside : ∀ v ∈ descent.dropLast, v ∈ nodes) : descent.length ≤ nodes.card + 1 := by
  classical
  have distinct' : descent.dropLast.Nodup := distinct.sublist (List.dropLast_sublist _)
  have sub : descent.dropLast.toFinset ⊆ nodes := fun v hv => inside v (List.mem_toFinset.mp hv)
  have card := Finset.card_le_card sub
  rw [List.toFinset_card_of_nodup distinct', List.length_dropLast] at card
  omega

theorem Call.InBounds.above_length_le {call : Call ν} (h : call.InBounds nodes) :
    call.above.length ≤ nodes.card := by
  have length := descent_length_le h.nodup h.inside
  simpa [Call.stack] using length

theorem Call.InBounds.room_pos {call : Call ν} (h : call.InBounds nodes) : 0 < call.room nodes := by
  have := h.above_length_le
  unfold Call.room
  omega

theorem inBounds_of_no_above {depth : Nat} {node : ν} {steps : List PathStep} (h : steps ≠ []) :
    (⟨depth, node, steps, []⟩ : Call ν).InBounds nodes :=
  ⟨h, by simp [Call.stack], by simp [Call.stack]⟩

/-- A call for fewer steps has room for less, whatever descent it is made from. -/
theorem Call.InBounds.room_shorter {call : Call ν} (h : call.InBounds nodes) {depth : Nat} {node : ν}
    {rest : List PathStep} (hl : call.steps.length = rest.length + 1) (hne : rest ≠ []) :
    (⟨depth, node, rest, []⟩ : Call ν).room nodes + 1 ≤ call.room nodes := by
  have ha := h.above_length_le
  have hpos : 0 < rest.length := List.length_pos_iff.mpr hne
  obtain ⟨n, hn⟩ : ∃ n, rest.length = n + 1 := ⟨rest.length - 1, by omega⟩
  simp only [Call.room, hl, hn, Nat.add_sub_cancel, List.length_nil, Nat.add_mul, Nat.one_mul]
  omega

theorem room_of_no_above {depth : Nat} {node : ν} {steps : List PathStep} (h : steps ≠ []) :
    (⟨depth, node, steps, []⟩ : Call ν).room nodes = steps.length * (nodes.card + 1) := by
  have hpos : 0 < steps.length := List.length_pos_iff.mpr h
  obtain ⟨n, hn⟩ : ∃ n, steps.length = n + 1 := ⟨steps.length - 1, by omega⟩
  simp only [Call.room, hn, List.length_nil, Nat.add_sub_cancel, Nat.sub_zero, Nat.add_mul,
    Nat.one_mul]

end Room

namespace PathSearch

variable {ν : Type} [DecidableEq ν] {search : PathSearch ν} {nodes : Finset ν}

theorem mem_below (hg : search.cycleGuard = true) {node child : ν} {above : List ν} :
    child ∈ search.below node above ↔
      child ∈ search.graph.descendants node ∧ child ∉ node :: above := by
  rw [below_of_guard hg]
  simp

theorem Enters.inBounds (hg : search.cycleGuard = true) (finite : search.graph.DescendantsIn nodes)
    {call next : Call ν} (h : search.Enters call next) (bounds : call.InBounds nodes) :
    next.InBounds nodes ∧ next.depth = call.depth + 1 ∧
      next.room nodes + 1 ≤ call.room nodes := by
  cases h with
  | rest hne => exact ⟨inBounds_of_no_above hne, rfl, bounds.room_shorter rfl hne⟩
  | next hs hne ht => exact ⟨inBounds_of_no_above hne, rfl, bounds.room_shorter rfl hne⟩
  | @descendant depth node child rest above hne hc =>
    obtain ⟨hd, hn⟩ := (mem_below hg).mp hc
    have hi := finite node child hd
    have hp : search.pushed node above = node :: above := pushed_of_guard hg
    have entered : (⟨depth + 1, child, .wildcard :: rest, search.pushed node above⟩ :
        Call ν).InBounds nodes := by
      refine ⟨by simp, ?_, ?_⟩
      · simpa only [Call.stack, hp] using List.nodup_cons.mpr ⟨hn, bounds.nodup⟩
      · intro v hv
        simp only [Call.stack, hp, List.dropLast_cons_cons] at hv
        rcases List.mem_cons.mp hv with rfl | hv
        · exact hi
        · exact bounds.inside v hv
    refine ⟨entered, rfl, ?_⟩
    -- the descent grows, but stays no longer than there are nodes
    have ha := entered.above_length_le
    simp only [hp, List.length_cons] at ha
    simp only [Call.room, hp, List.length_cons]
    omega

theorem calls_inBounds (hg : search.cycleGuard = true) (finite : search.graph.DescendantsIn nodes)
    {fuel : Nat} {call other : Call ν} (bounds : call.InBounds nodes)
    (h : other ∈ (search.resolveLogged fuel call).calls) :
    other.InBounds nodes ∧ other.depth + other.room nodes ≤ call.depth + call.room nodes := by
  induction fuel generalizing call with
  | zero =>
    cases List.mem_singleton.mp h
    exact ⟨bounds, le_rfl⟩
  | succ fuel ih =>
    rcases entered_of_mem_calls h with rfl | ⟨next, he, h⟩
    · exact ⟨bounds, le_rfl⟩
    · obtain ⟨hn, hd, hr⟩ := he.inBounds hg finite bounds
      obtain ⟨hb, hle⟩ := ih hn h
      exact ⟨hb, by omega⟩

theorem resolveLogged_ne_endless (hg : search.cycleGuard = true)
    (finite : search.graph.DescendantsIn nodes) {fuel : Nat} {call : Call ν}
    (bounds : call.InBounds nodes) (enough : call.room nodes ≤ fuel) :
    (search.resolveLogged fuel call).outcome ≠ endless := by
  induction fuel generalizing call with
  | zero => exact absurd bounds.room_pos (by omega)
  | succ fuel ih =>
    intro h
    obtain ⟨next, he, h⟩ := entered_of_endless h
    obtain ⟨hn, _, hr⟩ := he.inBounds hg finite bounds
    exact ih hn (by omega) h

/-- A guarded search in a finite graph has an end within a depth of calls that is known before. -/
theorem resolveSteps_guarded_ne_endless (hg : search.cycleGuard = true)
    (finite : search.graph.DescendantsIn nodes) {fuel : Nat} {node : ν} {steps : List PathStep}
    (h : steps ≠ []) (enough : steps.length * (nodes.card + 1) ≤ fuel) :
    search.resolveSteps fuel node steps [] ≠ endless := by
  rw [← resolveLogged_outcome fuel ⟨1, node, steps, []⟩]
  exact resolveLogged_ne_endless hg finite (inBounds_of_no_above h)
    (by rw [room_of_no_above h]; exact enough)

/-- Every call of a guarded search in a finite graph is nested only so deep, in a descent through
distinct nodes. -/
theorem calls_of_guarded (hg : search.cycleGuard = true) (finite : search.graph.DescendantsIn nodes)
    {fuel : Nat} {root : ν} {path : Path} {call : Call ν}
    (h : call ∈ (search.resolveLogged fuel (firstCall root path)).calls) :
    call.stack.Nodup ∧ call.depth ≤ path.steps.length * (nodes.card + 1) := by
  have start : (firstCall root path).InBounds nodes := inBounds_of_no_above path.nonempty
  obtain ⟨bounds, hle⟩ := calls_inBounds hg finite start h
  have hpos := bounds.room_pos
  have room : (firstCall root path).room nodes = path.steps.length * (nodes.card + 1) :=
    room_of_no_above path.nonempty
  have first : (firstCall root path).depth = 1 := rfl
  exact ⟨bounds.nodup, by omega⟩

theorem returns_of_resolve {n : Nat} {root : ν} {path : Path}
    (h : search.resolve n root path ≠ endless) :
    search.Returns root path (search.resolve n root path) :=
  ⟨h, _, rfl⟩

theorem resolve_guarded_ne_endless (hg : search.cycleGuard = true)
    (finite : search.graph.DescendantsIn nodes) (root : ν) (path : Path) :
    search.resolve nodes.card root path ≠ endless :=
  resolveSteps_guarded_ne_endless hg finite path.nonempty (by simp [depthLimit])

end PathSearch

end WidgetLocator
