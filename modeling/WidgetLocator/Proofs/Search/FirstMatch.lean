import WidgetLocator.Proofs.Search.Wildcard
import Mathlib.Data.Fintype.Basic

namespace WidgetLocator
namespace PathSearch

section Matches

variable {ν : Type} {outcome : ν → Resolution ν} {match_ : ν → Option ν}

theorem firstFound_eq_some_iff {found : ν} {branches : List ν}
    (agree : ∀ v found, outcome v = .ok (some found) ↔ match_ v = some found)
    (known : ∀ v e, outcome v ≠ .error (.fatal e)) :
    firstFound outcome branches = .ok (some found) ↔ branches.findSome? match_ = some found := by
  induction branches with
  | nil => simp [firstFound]
  | cons v branches ih =>
    by_cases hm : IsMiss (outcome v)
    · have hn : match_ v = none := by
        rw [Option.eq_none_iff_forall_ne_some]
        intro n hn
        exact not_isMiss_some n ((agree v n).mpr hn ▸ hm)
      rw [firstFound_cons_of_isMiss hm, ih, List.findSome?_cons, hn]
    · obtain ⟨n, hn⟩ | ⟨e, he⟩ := found_or_fatal_of_not_isMiss hm
      · rw [firstFound_cons_of_not_isMiss hm, hn, List.findSome?_cons, (agree v n).mp hn]
        simp
      · exact absurd he (known v e)

end Matches

variable {ν : Type} [DecidableEq ν] {search : PathSearch ν}

/-- The first node that steps lead to from a node in a graph with a number of nodes. A wildcard
tries the nodes at and below its own in depth-first order. -/
def firstMatch (search : PathSearch ν) (nodes : Nat) (node : ν) : List PathStep → Option ν
  | [] => some node
  | .wildcard :: rest =>
    (search.graph.preorder nodes node).findSome? fun v => search.firstMatch nodes v rest
  | step :: rest =>
    match search.graph.takeStep search.registry node step with
    | .ok (some (.object next)) => search.firstMatch nodes next rest
    | _ => none

variable {nodes : Finset ν} {node : ν} {step : PathStep} {rest steps : List PathStep} {fuel : Nat}

theorem firstMatch_lone_wildcard :
    search.firstMatch nodes.card node [.wildcard] = some node := by
  obtain ⟨later, he⟩ := search.graph.preorder_eq_cons nodes.card node
  simp [firstMatch, he]

theorem firstMatch_of_object (hs : step ≠ .wildcard) {next : ν}
    (h : search.graph.takeStep search.registry node step = .ok (some (.object next))) :
    search.firstMatch nodes.card node (step :: rest) = search.firstMatch nodes.card next rest := by
  cases step <;> simp_all [firstMatch]

theorem firstMatch_of_no_object (hs : step ≠ .wildcard)
    (h : ∀ next, search.graph.takeStep search.registry node step ≠ .ok (some (.object next))) :
    search.firstMatch nodes.card node (step :: rest) = none := by
  cases step <;> simp_all [firstMatch]

/-- The class steps of some steps can be taken. -/
def ClassesKnown (search : PathSearch ν) (steps : List PathStep) : Prop :=
  search.registry.isSome = true ∨ ∀ step ∈ steps, step.isClassStep = false

theorem ClassesKnown.not_fatal {e : Error} (known : search.ClassesKnown steps) (hne : steps ≠ [])
    (ends : search.resolveSteps fuel node steps [] ≠ endless) :
    search.resolveSteps fuel node steps [] ≠ .error (.fatal e) := by
  intro h
  have he : e ≠ .endless := by
    rintro rfl
    exact ends h
  obtain ⟨hr, name, hm, hc, _⟩ := cause_of_fatal hne he h
  rcases known with known | known
  · simp [hr] at known
  · have := known _ hm
    simp [PathStep.isClassStep, hc] at this

theorem resolveSteps_eq_firstMatch (hg : search.cycleGuard = true)
    (finite : search.graph.DescendantsIn nodes) (hne : steps ≠ [])
    (known : search.ClassesKnown steps) {found : ν}
    (enough : steps.length * (nodes.card + 1) ≤ fuel) :
    search.resolveSteps fuel node steps [] = .ok (some found) ↔
      search.firstMatch nodes.card node steps = some found := by
  induction steps generalizing fuel node found with
  | nil => exact absurd rfl hne
  | cons step rest ih =>
    have known' : search.ClassesKnown rest :=
      known.imp_right fun hc s hs => hc s (List.mem_cons_of_mem _ hs)
    have ends : search.resolveSteps fuel node (step :: rest) [] ≠ endless :=
      resolveSteps_guarded_ne_endless hg finite hne enough
    obtain ⟨fuel, rfl⟩ : ∃ f, fuel = f + 1 := by
      refine ⟨fuel - 1, ?_⟩
      simp only [List.length_cons, Nat.add_mul] at enough
      omega
    have enough' : rest.length * (nodes.card + 1) ≤ fuel := by
      simp only [List.length_cons, Nat.add_mul] at enough
      omega
    cases search.turn node (step :: rest) with
    | loneWildcard => rw [resolveSteps_lone_wildcard, firstMatch_lone_wildcard]; simp
    | failure hs ht =>
      rw [resolveSteps_of_error hs ht, firstMatch_of_no_object hs (by simp [ht])]
      simp
    | nothing hs ht =>
      rw [resolveSteps_of_nothing hs ht, firstMatch_of_no_object hs (by simp [ht])]
      simp
    | @scalar _ _ value hs ht hv =>
      have no : ∀ next, value ≠ .object next := by
        rintro next rfl
        simp [Value.object?] at hv
      rw [resolveSteps_of_scalar hs ht hv, firstMatch_of_no_object hs (by simp [ht, no])]
      simp
    | last hs ht => rw [resolveSteps_of_last hs ht, firstMatch_of_object hs ht]; simp [firstMatch]
    | object hs hne' ht =>
      rw [resolveSteps_of_object hs hne' ht, firstMatch_of_object hs ht, afterStep_eq_some]
      exact ih hne' known' enough'
    | wildcard hne' =>
      have settled : ∀ v, search.resolveSteps fuel v rest [] ≠ endless := fun v =>
        resolveSteps_guarded_ne_endless hg finite hne' enough'
      have ho : search.OutcomesOf rest (fun v => search.resolveSteps fuel v rest []) :=
        fun _ v hv => resolveSteps_eq_of_ends hv (settled v)
      rw [resolveSteps_eq_preorder hg hne' finite ho ends, wildcardOutcome_eq_some]
      exact firstFound_eq_some_iff (fun v found => ih hne' known' enough')
        (fun v e => known'.not_fatal hne' (settled v))

/-- A guarded search in a finite graph finds the first match, and it finds one if there is one. The
order of the nodes that a match is looked for at has every reachable node once. -/
theorem resolve_eq_firstMatch (hg : search.cycleGuard = true)
    (finite : search.graph.DescendantsIn nodes) (root : ν) (path : Path)
    (known : search.registry.isSome = true ∨ ∀ step ∈ path.steps, step.isClassStep = false) :
    search.Returns root path (search.resolve nodes.card root path) ∧
    (∀ found, search.resolve nodes.card root path = .ok (some found) ↔
      search.firstMatch nodes.card root path.steps = some found) ∧
    ∀ node, (search.graph.preorder nodes.card node).Nodup ∧
      ∀ v, v ∈ search.graph.preorder nodes.card node ↔
        Relation.ReflTransGen search.graph.Descends node v := by
  refine ⟨?_, fun found => ?_, fun node => ?_⟩
  · exact returns_of_resolve (resolve_guarded_ne_endless hg finite root path)
  · exact resolveSteps_eq_firstMatch hg finite path.nonempty known (by simp [depthLimit])
  · exact ⟨WidgetGraph.nodup_preorder finite node, fun v => WidgetGraph.mem_preorder_iff finite⟩

theorem resolve_eq_firstMatch_entangled :
    (entangled true).resolve 4 0 ⟨[.wildcard, .index 2], by simp⟩ = .ok (some 3) ∧
      (entangled true).firstMatch 4 0 [.wildcard, .index 2] = some 3 := by
  have guarded : (entangled true).cycleGuard = true := rfl
  have finite : (entangled true).graph.DescendantsIn Finset.univ := fun _ _ _ => Finset.mem_univ _
  have unclassed : ∀ step ∈ [PathStep.wildcard, .index 2], step.isClassStep = false := by decide
  have agree := resolve_eq_firstMatch guarded finite 0 ⟨[.wildcard, .index 2], by simp⟩
    (Or.inr unclassed)
  exact ⟨(agree.2.1 3).mpr rfl, rfl⟩

end PathSearch
end WidgetLocator
