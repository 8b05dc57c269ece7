import Mathlib.Data.List.Nodup
import Mathlib.Data.List.Sort
/-!
# Lists put together from parts

The queues of all vehicles and the shards of an index are lists put together from parts, one part
for each key. A call changes one of the parts.
-/

namespace AgvDispatch

variable {β γ : Type}

/-- Where only the part of one key differs, the lists put together differ only there. -/
theorem exists_flatMap_eq_append {keys : List β} (hnodup : keys.Nodup) {key : β} (hmem : key ∈ keys)
    {f g : β → List γ} (hothers : ∀ other, other ≠ key → g other = f other) :
    ∃ before after, keys.flatMap f = before ++ f key ++ after
      ∧ keys.flatMap g = before ++ g key ++ after := by
  obtain ⟨first, last, rfl⟩ := List.append_of_mem hmem
  obtain ⟨-, hlast, hdisjoint⟩ := List.nodup_append.mp hnodup
  have hfirst : first.flatMap g = first.flatMap f :=
    List.flatMap_congr fun other h => hothers other (hdisjoint other h _ List.mem_cons_self)
  have hlast : last.flatMap g = last.flatMap f :=
    List.flatMap_congr fun other h => hothers other fun heq =>
      (List.nodup_cons.mp hlast).1 (heq ▸ h)
  refine ⟨first.flatMap f, last.flatMap f, ?_, ?_⟩
  · rw [List.flatMap_append, List.flatMap_cons, List.append_assoc]
  · rw [List.flatMap_append, List.flatMap_cons, hfirst, hlast, List.append_assoc]

/-- Parts under ascending numbers may be put together over other numbers, if these differ from
them in empty parts only. -/
theorem flatMap_eq_of_ascending {l l' : List ℕ} (h : l.Pairwise (· < ·))
    (h' : l'.Pairwise (· < ·)) {f : ℕ → List β} (hmem : ∀ n, f n ≠ [] → (n ∈ l ↔ n ∈ l')) :
    l.flatMap f = l'.flatMap f := by
  have hdrop : ∀ l : List ℕ, (l.filter fun n => !(f n).isEmpty).flatMap f = l.flatMap f := by
    intro l
    induction l with
    | nil => rfl
    | cons n l ih =>
      by_cases hn : f n = [] <;> simp [hn, ih]
  -- Ascending lists are equal once they have the same members.
  have hfilter : l.filter (fun n => !(f n).isEmpty) = l'.filter fun n => !(f n).isEmpty := by
    refine (h.filter _).eq_of_mem_iff (h'.filter _) fun n => ?_
    rw [List.mem_filter, List.mem_filter, Bool.not_eq_true', List.isEmpty_eq_false_iff]
    exact and_congr_left (hmem n)
  rw [← hdrop l, hfilter, hdrop]

/-- Taking out the first element with a property loses and doubles nothing. -/
theorem eraseP_append_find?_perm (p : β → Bool) (l : List β) :
    (l.eraseP p ++ (l.find? p).toList).Perm l := by
  induction l with
  | nil => exact List.Perm.refl _
  | cons head later ih =>
    by_cases h : p head = true
    · rw [List.eraseP_cons_of_pos h, List.find?_cons_of_pos h]
      exact List.perm_append_singleton head later
    · rw [List.eraseP_cons_of_neg h, List.find?_cons_of_neg h, List.cons_append]
      exact ih.cons head

/-- The neighbours in a list that is read backwards. -/
theorem zip_tail_reverse (l : List β) :
    l.reverse.zip l.reverse.tail = ((l.zip l.tail).map Prod.swap).reverse := by
  apply List.ext_getElem
  · simp
  · intro i hi hi'
    simp only [List.length_zip, List.length_reverse, List.length_tail] at hi
    simp only [List.getElem_zip, List.getElem_tail, List.getElem_reverse, List.getElem_map,
      List.length_map, List.length_zip, List.length_tail, Prod.swap_prod_mk, Prod.mk.injEq]
    constructor <;> congr 1 <;> omega

/-- Dropping the last element again and again leaves a first part. -/
theorem iterate_dropLast (l : List β) (k : ℕ) : List.dropLast^[k] l = l.take (l.length - k) := by
  induction k with
  | zero => rw [Function.iterate_zero_apply, Nat.sub_zero, List.take_length]
  | succ k ih =>
    rw [Function.iterate_succ_apply', ih, List.dropLast_eq_take, List.length_take, List.take_take]
    congr 1
    omega

end AgvDispatch
