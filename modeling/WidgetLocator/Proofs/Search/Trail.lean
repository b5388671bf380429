import Mathlib.Data.Finset.Card
import Mathlib.Data.Finset.Dedup

namespace WidgetLocator

variable {α : Type}

/-- The element that a number of links leads to. -/
def linked (next : α → Option α) (start : α) : Nat → Option α
  | 0 => some start
  | n + 1 => (linked next start n).bind next

/-- A walk has passed some elements, the last of them first, and come to another one. -/
inductive Trail (next : α → Option α) (start : α) : List α → α → Prop
  | start : Trail next start [] start
  | step {passed : List α} {current after : α} : Trail next start passed current →
      next current = some after → after ∉ current :: passed →
      Trail next start (current :: passed) after

namespace Trail

variable {next : α → Option α} {start current x y : α} {passed : List α} {n : Nat}

theorem nodup (h : Trail next start passed current) : (current :: passed).Nodup := by
  induction h with
  | start => exact List.nodup_singleton start
  | step _ _ new ih => exact List.nodup_cons.mpr ⟨new, ih⟩

theorem start_mem (h : Trail next start passed current) : start ∈ current :: passed := by
  induction h with
  | start => exact List.mem_cons_self
  | step _ _ _ ih => exact List.mem_cons_of_mem _ ih

theorem length_le [DecidableEq α] {elements : Finset α} (h : Trail next start passed current)
    (inside : ∀ x ∈ current :: passed, x ∈ elements) : passed.length + 1 ≤ elements.card := by
  have subset : (current :: passed).toFinset ⊆ elements :=
    fun x hx => inside x (List.mem_toFinset.mp hx)
  have card := Finset.card_le_card subset
  rwa [List.toFinset_card_of_nodup h.nodup, List.length_cons] at card

/-- What holds of the start and of whatever a link leads to holds of all elements of a walk. -/
theorem forall_mem {P : α → Prop} (h : Trail next start passed current) (first : P start)
    (later : ∀ x y, next x = some y → P y) : ∀ x ∈ current :: passed, P x := by
  induction h with
  | start => exact List.forall_mem_singleton.mpr first
  | step _ link _ ih => exact List.forall_mem_cons.mpr ⟨later _ _ link, ih⟩

theorem linked_length (h : Trail next start passed current) :
    linked next start passed.length = some current := by
  induction h with
  | start => rfl
  | step _ link _ ih => rw [List.length_cons, linked, ih, Option.bind_some, link]

theorem mem_of_linked_lt (h : Trail next start passed current) (lt : n < passed.length)
    (hx : linked next start n = some x) : x ∈ passed := by
  induction h with
  | start => exact absurd lt (Nat.not_lt_zero n)
  | @step passed current after before _ _ ih =>
    rcases Nat.lt_or_eq_of_le (Nat.lt_succ_iff.mp lt) with lt | rfl
    · exact List.mem_cons_of_mem _ (ih lt)
    · rw [before.linked_length] at hx
      cases hx
      exact List.mem_cons_self

theorem next_mem (h : Trail next start passed current) (hx : x ∈ passed) (link : next x = some y) :
    y ∈ current :: passed := by
  induction h with
  | start => exact absurd hx List.not_mem_nil
  | step _ link' _ ih =>
    rcases List.mem_cons.mp hx with rfl | hx
    · cases link'.symm.trans link
      exact List.mem_cons_self
    · exact List.mem_cons_of_mem _ (ih hx)

/-- A walk that cannot go on without coming to an element again has come to all of them. -/
theorem mem_of_linked (h : Trail next start passed current)
    (stuck : ∀ y, next current = some y → y ∈ current :: passed) (hx : linked next start n = some x) :
    x ∈ current :: passed := by
  induction n generalizing x with
  | zero =>
    cases hx
    exact h.start_mem
  | succ n ih =>
    obtain ⟨w, hw, link⟩ := Option.bind_eq_some_iff.mp hx
    rcases List.mem_cons.mp (ih hw) with rfl | passed
    · exact stuck x link
    · exact h.next_mem passed link

end Trail

end WidgetLocator
