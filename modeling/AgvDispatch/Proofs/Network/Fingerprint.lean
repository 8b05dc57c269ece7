import AgvDispatch.Network.Waypoint
import Mathlib.Data.List.Basic
import Std.Data.String.ToInt
/-!
# Fingerprints tell routes apart

Two routes with the same fingerprint are the same route (`Route.fingerprint_injective`). A route
that is found under its fingerprint is therefore the route that was looked for, whatever numbers its
maps and points have.

A fingerprint is split at its commas, which no waypoint has in its text; and the text of a waypoint
is split at the first hyphen that is not a sign.
-/

namespace AgvDispatch

/-! ### Written integers -/

theorem toList_toString_natCast (n : Nat) : (toString (n : Int)).toList = Nat.toDigits 10 n :=
  Nat.toList_repr

theorem toList_toString_negSucc (n : Nat) :
    (toString (Int.negSucc n)).toList = '-' :: Nat.toDigits 10 (n + 1) := by
  change ("-" ++ Nat.repr (n + 1)).toList = _
  rw [String.toList_append, Nat.toList_repr]
  rfl

/-- The characters of a written integer are digits and hyphens. -/
theorem isDigit_of_mem_toString {z : Int} {c : Char} (h : c ∈ (toString z).toList) :
    c.isDigit = true ∨ c = '-' := by
  cases z with
  | ofNat n =>
    rw [Int.ofNat_eq_natCast, toList_toString_natCast] at h
    exact Or.inl (Nat.isDigit_of_mem_toDigits (by decide) (by decide) h)
  | negSucc n =>
    rw [toList_toString_negSucc, List.mem_cons] at h
    rcases h with rfl | h
    · exact Or.inr rfl
    · exact Or.inl (Nat.isDigit_of_mem_toDigits (by decide) (by decide) h)

theorem hyphen_notMem_toDigits (n : Nat) : '-' ∉ Nat.toDigits 10 n := by
  intro h
  exact absurd (Nat.isDigit_of_mem_toDigits (by decide) (by decide) h) (by decide)

/-- Two lists that are split at the first place of the same separator have the same parts. -/
theorem append_separator_inj {α : Type} {sep : α} {xs ys rest rest' : List α} (hxs : sep ∉ xs)
    (hys : sep ∉ ys) (h : xs ++ sep :: rest = ys ++ sep :: rest') : xs = ys ∧ rest = rest' := by
  induction xs generalizing ys with
  | nil =>
    cases ys with
    | nil => exact ⟨rfl, List.tail_eq_of_cons_eq h⟩
    | cons y ys => exact absurd (List.head_eq_of_cons_eq h ▸ List.mem_cons_self) hys
  | cons x xs ih =>
    rw [List.mem_cons, not_or] at hxs
    cases ys with
    | nil => exact absurd (List.head_eq_of_cons_eq h).symm hxs.1
    | cons y ys =>
      rw [List.mem_cons, not_or] at hys
      obtain ⟨hxy, htail⟩ := List.cons.inj h
      obtain ⟨hparts, hrest⟩ := ih hxs.2 hys.2 htail
      exact ⟨by rw [hxy, hparts], hrest⟩

/-- Two integers that are each followed by a hyphen and a rest are the same, and so are the
rests. -/
theorem toString_hyphen_inj {y z : Int} {rest rest' : List Char}
    (h : (toString y).toList ++ '-' :: rest = (toString z).toList ++ '-' :: rest') :
    y = z ∧ rest = rest' := by
  -- A text without a sign begins with a digit, a text with a sign does not.
  have hmixed : ∀ (m n : Nat) (r s : List Char),
      Nat.toDigits 10 m ++ '-' :: r ≠ '-' :: (Nat.toDigits 10 n ++ '-' :: s) := by
    intro m n r s heq
    obtain ⟨c, cs, hdigits⟩ := List.exists_cons_of_ne_nil (Nat.toDigits_ne_nil (b := 10) (n := m))
    rw [hdigits, List.cons_append] at heq
    refine hyphen_notMem_toDigits m ?_
    rw [hdigits, List.head_eq_of_cons_eq heq]
    exact List.mem_cons_self
  -- With the same sign in front the digits end at the same hyphen.
  cases y with
  | ofNat m =>
    cases z with
    | ofNat n =>
      rw [Int.ofNat_eq_natCast, Int.ofNat_eq_natCast, toList_toString_natCast,
        toList_toString_natCast] at h
      obtain ⟨hdigits, hrest⟩ :=
        append_separator_inj (hyphen_notMem_toDigits m) (hyphen_notMem_toDigits n) h
      rw [← Nat.toList_repr, ← Nat.toList_repr, String.toList_inj] at hdigits
      rw [Nat.repr_injective hdigits]
      exact ⟨rfl, hrest⟩
    | negSucc n =>
      rw [Int.ofNat_eq_natCast, toList_toString_natCast, toList_toString_negSucc] at h
      exact absurd h (hmixed m (n + 1) rest rest')
  | negSucc m =>
    cases z with
    | ofNat n =>
      rw [Int.ofNat_eq_natCast, toList_toString_natCast, toList_toString_negSucc] at h
      exact absurd h.symm (hmixed n (m + 1) rest' rest)
    | negSucc n =>
      rw [toList_toString_negSucc, toList_toString_negSucc] at h
      obtain ⟨hdigits, hrest⟩ := append_separator_inj (hyphen_notMem_toDigits (m + 1))
        (hyphen_notMem_toDigits (n + 1)) (List.tail_eq_of_cons_eq h)
      rw [← Nat.toList_repr, ← Nat.toList_repr, String.toList_inj] at hdigits
      rw [Nat.succ.inj (Nat.repr_injective hdigits)]
      exact ⟨rfl, hrest⟩

/-! ### Waypoints and routes -/

theorem Waypoint.toList_text (w : Waypoint) :
    w.text.toList = (toString w.mapId).toList ++ '-' :: (toString w.id).toList := by
  unfold Waypoint.text
  rw [String.toList_append, String.toList_append, List.append_assoc]
  rfl

theorem Waypoint.text_injective : Function.Injective Waypoint.text := by
  intro a b h
  have hlist := congrArg String.toList h
  rw [toList_text, toList_text] at hlist
  obtain ⟨hmap, hid⟩ := toString_hyphen_inj hlist
  cases a
  cases b
  simp only at hmap hid
  rw [String.toList_inj] at hid
  rw [hmap, Int.repr_injective hid]

theorem Waypoint.comma_notMem_text (w : Waypoint) : ',' ∉ w.text.toList := by
  rw [toList_text, List.mem_append, List.mem_cons]
  rintro (h | h | h)
  · rcases isDigit_of_mem_toString h with h | h <;> exact absurd h (by decide)
  · exact absurd h (by decide)
  · rcases isDigit_of_mem_toString h with h | h <;> exact absurd h (by decide)

namespace Route

theorem toList_fingerprint (route : Route) :
    route.fingerprint.toList = [','].intercalate (route.map fun w => w.text.toList) := by
  unfold fingerprint
  rw [String.toList_intercalate, List.map_map]
  rfl

/-- The texts of the waypoints are recovered from a fingerprint at the commas. -/
theorem splitOn_fingerprint {route : Route} (h : route ≠ []) :
    route.fingerprint.toList.splitOn ',' = route.map fun w => w.text.toList := by
  rw [toList_fingerprint]
  apply List.splitOn_intercalate
  · intro text htext
    obtain ⟨w, -, rfl⟩ := List.mem_map.mp htext
    exact w.comma_notMem_text
  · simpa using h

theorem fingerprint_eq_empty_iff {route : Route} : route.fingerprint.toList = [] ↔ route = [] := by
  constructor
  · intro h
    by_contra hroute
    have hsplit := splitOn_fingerprint hroute
    rw [h] at hsplit
    obtain ⟨w, rest, rfl⟩ := List.exists_cons_of_ne_nil hroute
    -- The empty text has one part, which is empty; the text of a waypoint is not.
    have hhead : [] = w.text.toList := List.head_eq_of_cons_eq hsplit
    rw [Waypoint.toList_text] at hhead
    simp at hhead
  · rintro rfl
    rfl

/-- **Routes with the same fingerprint are the same route.** -/
theorem fingerprint_injective : Function.Injective fingerprint := by
  intro route route' h
  have hlist : route.fingerprint.toList = route'.fingerprint.toList := congrArg String.toList h
  by_cases hnil : route = []
  · have hnil' : route' = [] := by
      rw [← fingerprint_eq_empty_iff, ← hlist, fingerprint_eq_empty_iff]
      exact hnil
    rw [hnil, hnil']
  · have hnil' : route' ≠ [] := by
      rw [Ne, ← fingerprint_eq_empty_iff, ← hlist, fingerprint_eq_empty_iff]
      exact hnil
    have htexts : route.map (fun w => w.text.toList) = route'.map fun w => w.text.toList := by
      rw [← splitOn_fingerprint hnil, ← splitOn_fingerprint hnil', hlist]
    have hinj : Function.Injective fun w : Waypoint => w.text.toList := fun _ _ heq =>
      Waypoint.text_injective (String.toList_injective heq)
    exact List.map_injective_iff.mpr hinj htexts

end Route

end AgvDispatch
