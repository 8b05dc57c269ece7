import AgvDispatch.Text.Listing
import Mathlib.Data.List.TakeWhile
/-!
# The entries of a listing

What the removal of blanks, the search for a part and the cutting at separators make of a text.

* A text is what is left of it without the blanks at its ends, with blanks around it
  (`Text.surrounds_trim`); and nothing else that has no blanks at its own ends is left
  (`Text.trim_of_surrounds`, `Text.isTight_trim`).
* A text is cut in two at the first occurrence of a separator (`Text.cutAt?_eq_some_iff`).
* What occurs in a text and does not hold the separator occurs within one of the pieces
  (`Text.isInfix_iff_exists_splitAt`). If it neither begins nor ends with a blank, the blanks around
  the piece play no part in this; so an entry of one listing that occurs in another listing occurs
  within one of its entries (`Text.isInfix_iff_exists_entries`).
-/

namespace AgvDispatch.Text

/-! ### Blanks -/

/-- Whether a text consists of blanks. -/
def AllBlank (cs : List Char) : Prop := ∀ c ∈ cs, isBlank c = true

/-- Whether a text is another one, the core, with blanks around it. -/
def Surrounds (text core : List Char) : Prop :=
  ∃ before after, AllBlank before ∧ AllBlank after ∧ text = before ++ (core ++ after)

/-- **Whether a text neither begins nor ends with a blank.** -/
structure IsTight (cs : List Char) : Prop where
  head : ∀ c, cs.head? = some c → isBlank c = false
  last : ∀ c, cs.getLast? = some c → isBlank c = false

theorem AllBlank.reverse {cs : List Char} (h : AllBlank cs) : AllBlank cs.reverse :=
  fun c hc => h c (List.mem_reverse.mp hc)

/-- What comes before the first character that is not blank is dropped. -/
theorem dropWhile_isBlank {before cs : List Char} (hbefore : AllBlank before)
    (hhead : ∀ c, cs.head? = some c → isBlank c = false) :
    (before ++ cs).dropWhile isBlank = cs := by
  rw [List.dropWhile_append_of_pos hbefore]
  cases cs with
  | nil => rfl
  | cons c cs => rw [List.dropWhile_cons_of_neg (by simp [hhead c rfl])]

theorem trim_of_surrounds {text core : List Char} (htight : IsTight core)
    (h : Surrounds text core) : trim text = core := by
  obtain ⟨before, after, hbefore, hafter, rfl⟩ := h
  unfold trim trimStart trimEnd
  cases core with
  | nil =>
    -- Without a core all of the text is blank.
    rw [List.nil_append, List.dropWhile_append_of_pos hbefore]
    have hnil : after.dropWhile isBlank = [] := List.dropWhile_eq_nil_iff.mpr hafter
    rw [hnil]
    rfl
  | cons c cs =>
    have hstart : (before ++ (c :: cs ++ after)).dropWhile isBlank = c :: cs ++ after :=
      dropWhile_isBlank hbefore fun d hd => htight.head d hd
    rw [hstart, List.reverse_append, dropWhile_isBlank hafter.reverse, List.reverse_reverse]
    intro d hd
    rw [List.head?_reverse] at hd
    exact htight.last d hd

theorem surrounds_trim (text : List Char) : Surrounds text (trim text) := by
  refine ⟨text.takeWhile isBlank, ((trimStart text).reverse.takeWhile isBlank).reverse,
    fun c hc => List.mem_takeWhile_imp hc, fun c hc => ?_, ?_⟩
  · exact List.mem_takeWhile_imp (List.mem_reverse.mp hc)
  · unfold trim trimEnd
    rw [← List.reverse_append, List.takeWhile_append_dropWhile, List.reverse_reverse]
    exact List.takeWhile_append_dropWhile.symm

/-- The character at which the dropping of blanks stops is not blank. -/
theorem isBlank_of_head?_dropWhile {cs : List Char} {c : Char}
    (h : (cs.dropWhile isBlank).head? = some c) : isBlank c = false := by
  have hhead := List.head?_dropWhile_not isBlank cs
  rwa [h] at hhead

theorem isTight_trim (text : List Char) : IsTight (trim text) := by
  unfold trim trimEnd
  refine ⟨fun c hc => ?_, fun c hc => ?_⟩
  · -- The first character is the one at which the dropping at the beginning has stopped.
    have hprefix : ((trimStart text).reverse.dropWhile isBlank).reverse <+: trimStart text := by
      rw [← List.reverse_suffix, List.reverse_reverse]
      exact List.dropWhile_suffix isBlank
    obtain ⟨rest, hrest⟩ := hprefix
    have hstart : (trimStart text).head? = some c := by
      rw [← hrest, List.head?_append, hc]
      rfl
    exact isBlank_of_head?_dropWhile hstart
  · rw [List.getLast?_reverse] at hc
    exact isBlank_of_head?_dropWhile hc

/-- A part that does not begin with a blank is not touched where blanks at the beginning are
dropped. -/
theorem isInfix_dropWhile {part cs : List Char} (hne : part ≠ [])
    (hhead : ∀ c, part.head? = some c → isBlank c = false) (h : part <:+: cs) :
    part <:+: cs.dropWhile isBlank := by
  induction cs with
  | nil => exact h
  | cons c cs ih =>
    by_cases hblank : isBlank c = true
    · rw [List.dropWhile_cons_of_pos hblank]
      rcases List.infix_cons_iff.mp h with hprefix | hlater
      · obtain ⟨d, part, rfl⟩ := List.exists_cons_of_ne_nil hne
        have hcd : d = c := (List.cons_prefix_cons.mp hprefix).1
        exact absurd (hcd ▸ hblank) (by simp [hhead d rfl])
      · exact ih hlater
    · rw [List.dropWhile_cons_of_neg hblank]
      exact h

/-- **A part that neither begins nor ends with a blank** is not touched by the removal of blanks. -/
theorem isInfix_trim_iff {part cs : List Char} (hne : part ≠ []) (htight : IsTight part) :
    part <:+: trim cs ↔ part <:+: cs := by
  constructor
  · obtain ⟨before, after, -, -, hcs⟩ := surrounds_trim cs
    intro h
    refine h.trans ⟨before, after, ?_⟩
    rw [List.append_assoc]
    exact hcs.symm
  · intro h
    unfold trim trimEnd
    rw [← List.reverse_infix, List.reverse_reverse]
    refine isInfix_dropWhile (by simpa using hne) (fun c hc => ?_) ?_
    · rw [List.head?_reverse] at hc
      exact htight.last c hc
    · exact List.reverse_infix.mpr (isInfix_dropWhile hne htight.head h)

/-! ### Separators -/

variable {separator : Char}

/-- **A text is cut in two at the first separator.** -/
theorem cutAt?_eq_some_iff {cs left right : List Char} : cutAt? separator cs = some (left, right)
    ↔ separator ∉ left ∧ cs = left ++ separator :: right := by
  induction cs generalizing left with
  | nil => simp [cutAt?]
  | cons c cs ih =>
    unfold cutAt?
    by_cases hc : c = separator
    · rw [if_pos hc, Option.some.injEq, Prod.mk.injEq]
      constructor
      · rintro ⟨rfl, rfl⟩
        exact ⟨List.not_mem_nil, by rw [hc, List.nil_append]⟩
      · rintro ⟨hnot, heq⟩
        cases left with
        | nil => exact ⟨rfl, (List.cons.inj heq).2⟩
        | cons d left =>
          obtain rfl : c = d := (List.cons.inj heq).1
          exact absurd (hc ▸ List.mem_cons_self) hnot
    · rw [if_neg hc]
      simp only [Option.map_eq_some_iff, Prod.exists, Prod.mk.injEq]
      constructor
      · rintro ⟨before, after, hcut, rfl, rfl⟩
        obtain ⟨hnot, rfl⟩ := ih.mp hcut
        exact ⟨by simp [hnot, Ne.symm hc], rfl⟩
      · rintro ⟨hnot, heq⟩
        cases left with
        | nil => exact absurd (List.cons.inj heq).1 hc
        | cons d left =>
          obtain ⟨rfl, rfl⟩ := List.cons.inj heq
          exact ⟨left, right, ih.mpr ⟨fun h => hnot (List.mem_cons_of_mem _ h), rfl⟩, rfl, rfl⟩

/-- There is a first piece: what comes before the first separator. -/
theorem exists_splitAt_eq_cons (separator : Char) (cs : List Char) :
    ∃ pieces, splitAt separator cs = cs.takeWhile (· != separator) :: pieces := by
  induction cs with
  | nil => exact ⟨[], rfl⟩
  | cons c cs ih =>
    obtain ⟨pieces, hpieces⟩ := ih
    unfold splitAt
    by_cases hc : c = separator
    · rw [if_pos hc, List.takeWhile_cons_of_neg (by simp [hc])]
      exact ⟨splitAt separator cs, rfl⟩
    · rw [if_neg hc, hpieces, List.takeWhile_cons_of_pos (by simp [hc])]
      exact ⟨pieces, rfl⟩

theorem splitAt_cons_self (separator : Char) (cs : List Char) :
    splitAt separator (separator :: cs) = [] :: splitAt separator cs := by
  rw [splitAt, if_pos rfl]

/-- A character that is not the separator joins the first piece. -/
theorem exists_splitAt_cons {c : Char} (hc : c ≠ separator) (cs : List Char) :
    ∃ piece pieces, splitAt separator cs = piece :: pieces
      ∧ splitAt separator (c :: cs) = (c :: piece) :: pieces := by
  obtain ⟨pieces, hpieces⟩ := exists_splitAt_eq_cons separator cs
  refine ⟨_, pieces, hpieces, ?_⟩
  rw [splitAt, if_neg hc, hpieces]

/-- No piece holds the separator. -/
theorem separator_notMem_of_mem_splitAt {piece cs : List Char}
    (h : piece ∈ splitAt separator cs) : separator ∉ piece := by
  induction cs generalizing piece with
  | nil =>
    obtain rfl := List.mem_singleton.mp h
    exact List.not_mem_nil
  | cons c cs ih =>
    by_cases hc : c = separator
    · subst hc
      rw [splitAt_cons_self] at h
      rcases List.mem_cons.mp h with rfl | h
      · exact List.not_mem_nil
      · exact ih h
    · obtain ⟨first, pieces, hfirst, hsplit⟩ := exists_splitAt_cons hc cs
      rw [hfirst] at ih
      rw [hsplit] at h
      rcases List.mem_cons.mp h with rfl | h
      · rw [List.mem_cons, not_or]
        exact ⟨Ne.symm hc, ih List.mem_cons_self⟩
      · exact ih (List.mem_cons_of_mem _ h)

/-- What a text begins with ends before the first separator, if it does not hold any. -/
theorem isPrefix_takeWhile_iff {part cs : List Char} (hpart : separator ∉ part) :
    part <+: cs.takeWhile (· != separator) ↔ part <+: cs := by
  refine ⟨fun h => h.trans (List.takeWhile_prefix _), ?_⟩
  rintro ⟨rest, rfl⟩
  rw [List.takeWhile_append_of_pos]
  · exact List.prefix_append _ _
  · intro c hc
    rw [bne_iff_ne]
    rintro rfl
    exact hpart hc

/-- **What occurs in a text and does not hold the separator occurs within a piece.** -/
theorem isInfix_iff_exists_splitAt {part cs : List Char} (hpart : separator ∉ part) :
    part <:+: cs ↔ ∃ piece ∈ splitAt separator cs, part <:+: piece := by
  induction cs with
  | nil => simp [splitAt]
  | cons c cs ih =>
    rw [List.infix_cons_iff, ih, ← isPrefix_takeWhile_iff hpart]
    by_cases hc : c = separator
    · subst hc
      rw [splitAt_cons_self, List.takeWhile_cons_of_neg (by simp), List.prefix_nil]
      simp only [List.mem_cons, exists_eq_or_imp, List.infix_nil]
    · obtain ⟨pieces, hpieces⟩ := exists_splitAt_eq_cons separator cs
      obtain ⟨piece, pieces', hsplit, hsplit'⟩ := exists_splitAt_cons hc cs
      obtain ⟨rfl, rfl⟩ := List.cons.inj (hpieces.symm.trans hsplit)
      rw [hsplit, hsplit', List.takeWhile_cons_of_pos (by simp [hc])]
      simp only [List.mem_cons, exists_eq_or_imp, List.infix_cons_iff, or_assoc]

/-! ### Entries -/

theorem occursIn_iff {part cs : List Char} : occursIn part cs = true ↔ part <:+: cs := by
  induction cs with
  | nil => simp [occursIn]
  | cons c cs ih =>
    rw [occursIn, Bool.or_eq_true, ih, List.isPrefixOf_iff_prefix, List.infix_cons_iff]

theorem mem_entries_iff {text : String} {entry : List Char} : entry ∈ entries text
    ↔ entry ≠ [] ∧ ∃ piece ∈ splitAt ',' text.toList, trim piece = entry := by
  unfold entries
  simp only [List.mem_filter, List.mem_map, Bool.not_eq_true', List.isEmpty_eq_false_iff]
  exact and_comm

/-- **An entry is not empty, neither begins nor ends with a blank, and holds no comma.** -/
theorem isTight_of_mem_entries {text : String} {entry : List Char} (h : entry ∈ entries text) :
    entry ≠ [] ∧ IsTight entry ∧ ',' ∉ entry := by
  obtain ⟨hne, piece, hpiece, rfl⟩ := mem_entries_iff.mp h
  refine ⟨hne, isTight_trim piece, fun hcomma => ?_⟩
  obtain ⟨before, after, -, -, heq⟩ := surrounds_trim piece
  refine separator_notMem_of_mem_splitAt hpiece ?_
  rw [heq]
  exact List.mem_append_right _ (List.mem_append_left _ hcomma)

/-- **An entry of one listing that occurs in another one** occurs within an entry of it. -/
theorem isInfix_iff_exists_entries {text required : String} {entry : List Char}
    (h : entry ∈ entries required) :
    entry <:+: text.toList ↔ ∃ own ∈ entries text, entry <:+: own := by
  obtain ⟨hne, htight, hcomma⟩ := isTight_of_mem_entries h
  rw [isInfix_iff_exists_splitAt hcomma]
  constructor
  · rintro ⟨piece, hpiece, hin⟩
    have hin := (isInfix_trim_iff hne htight).mpr hin
    refine ⟨trim piece, mem_entries_iff.mpr ⟨?_, piece, hpiece, rfl⟩, hin⟩
    intro hnil
    rw [hnil, List.infix_nil] at hin
    exact hne hin
  · rintro ⟨own, hown, hin⟩
    obtain ⟨-, piece, hpiece, rfl⟩ := mem_entries_iff.mp hown
    exact ⟨piece, hpiece, (isInfix_trim_iff hne htight).mp hin⟩

end AgvDispatch.Text
