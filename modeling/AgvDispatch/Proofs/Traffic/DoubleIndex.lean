import AgvDispatch.Proofs.Scalar.Bounds
import AgvDispatch.Proofs.Scalar.Unsigned
import AgvDispatch.Proofs.Traffic.Region
/-!
# The index in double precision

What the index finds does not depend on exact arithmetic as long as the region that it is asked for
holds the middle of the box. A cell is the whole part of a quotient, held between the first and the
last cell, and this ascends with the coordinate (`BoxIndex.cell_mono`), whatever the origin is and
even where cells are flat or endless: it is enough that no minus sign stands before their extent,
which the construction of the index sees to (`BoxIndex.forward_empty`).

So a vehicle that stands in the box of a path is among those that the footprints do not rule out,
if the middle of its footprint can be computed (`Traffic.mem_within_double`).
-/

namespace AgvDispatch

open Double

/-! ### Cells -/

namespace BoxIndex

variable {ι : Type} {index : BoxIndex Float ι}

/-- **Whether there is no minus sign to the extents of the cells.** A cell may be flat or endless,
and its extent need not be a number. -/
structure Forward (index : BoxIndex Float ι) : Prop where
  cellWidth : IsUnsigned index.cellWidth
  cellHeight : IsUnsigned index.cellHeight

theorem SameLayout.forward {index' : BoxIndex Float ι} (h : SameLayout index index')
    (hforward : index.Forward) : index'.Forward :=
  ⟨h.cellWidth_eq ▸ hforward.cellWidth, h.cellHeight_eq ▸ hforward.cellHeight⟩

theorem forward_empty (origin : Point Float) (width height : Float) (grid : ℕ) :
    (empty origin width height grid : BoxIndex Float ι).Forward := by
  have hextent : ∀ extent : Float,
      IsUnsigned (if 0 < extent then extent else ((1000000 : ℕ) : Float)) := by
    intro extent
    split
    · rename_i hpos
      exact isUnsigned_of_pos hpos
    · exact isUnsigned_natCast _
  exact ⟨isUnsigned_div (hextent width) (isUnsigned_natCast _),
    isUnsigned_div (hextent height) (isUnsigned_natCast _)⟩

/-- **Cells ascend with the coordinates**, wherever they begin. -/
theorem cell_mono (index : BoxIndex Float ι) (origin : Float) {extent x y : Float}
    (hextent : IsUnsigned extent) (h : x ≤ y) :
    index.cell origin extent x ≤ index.cell origin extent y := by
  unfold cell
  by_cases hpos : 0 < (x - origin) / extent
  · have hx : IsNumber (x - origin) := (isNumber_of_div (lt_iff_value.mp hpos).2.1).1
    have horigin : value origin ≠ ⊤ := by
      intro htop
      have hbeyond : 0 < value (x - origin) := pos_of_div_pos hextent hpos
      rw [value_sub hx, htop, EReal.sub_top, round_bot] at hbeyond
      exact absurd hbeyond EReal.bot_lt_zero.not_gt
    have hmono := floor_mono hpos (div_le_div_of_pos hextent (sub_le_sub_right h horigin hx) hpos)
    apply Int.toNat_le_toNat
    apply max_le_max le_rfl
    exact min_le_min hmono le_rfl
  · -- What does not lie beyond the origin is in the first cell.
    have hfirst := floor_nonpos hpos
    have hzero : (max 0 (min (floor ((x - origin) / extent)) (index.grid - 1))).toNat = 0 := by
      omega
    exact hzero.le.trans (Nat.zero_le _)

theorem spans_of_between (hforward : index.Forward) {region box : Envelope Float}
    (hx : region.minX ≤ box.centre.x ∧ box.centre.x ≤ region.maxX)
    (hy : region.minY ≤ box.centre.y ∧ box.centre.y ≤ region.maxY) :
    index.spans region box = true :=
  spans_iff.mpr ⟨⟨cell_mono index _ hforward.cellHeight hy.1,
    cell_mono index _ hforward.cellHeight hy.2⟩,
    cell_mono index _ hforward.cellWidth hx.1, cell_mono index _ hforward.cellWidth hx.2⟩

end BoxIndex

/-! ### Boxes -/

namespace Envelope

variable {e f : Envelope Float} {p : Point Float}

theorem contains_iff_double : e.contains p = true ↔
    (e.minX ≤ p.x ∧ p.x ≤ e.maxX) ∧ e.minY ≤ p.y ∧ p.y ≤ e.maxY := by
  unfold contains
  rw [Bool.and_eq_true, Bool.and_eq_true, Bool.and_eq_true, decide_eq_true_iff, decide_eq_true_iff,
    decide_eq_true_iff, decide_eq_true_iff, and_assoc]

theorem intersects_of_le (hx : f.minX ≤ e.maxX ∧ e.minX ≤ f.maxX)
    (hy : f.minY ≤ e.maxY ∧ e.minY ≤ f.maxY) : e.intersects f = true := by
  unfold intersects
  rw [Bool.not_eq_true', Bool.or_eq_false_iff, Bool.or_eq_false_iff, Bool.or_eq_false_iff,
    decide_eq_false_iff_not, decide_eq_false_iff_not, decide_eq_false_iff_not,
    decide_eq_false_iff_not]
  exact ⟨⟨⟨not_lt_of_le hx.1, not_lt_of_le hx.2⟩, not_lt_of_le hy.1⟩, not_lt_of_le hy.2⟩

theorem minimum_self (x : Float) : minimum x x = x := by
  unfold minimum
  split_ifs <;> rfl

theorem maximum_self (x : Float) : maximum x x = x := by
  unfold maximum
  split_ifs <;> rfl

theorem ofPoint_eq_double (p : Point Float) : ofPoint p = ⟨p.x, p.x, p.y, p.y⟩ := by
  show (⟨minimum p.x p.x, maximum p.x p.x, minimum p.y p.y, maximum p.y p.y⟩ : Envelope Float) = _
  rw [minimum_self, maximum_self, minimum_self, maximum_self]

theorem around_eq_double (p : Point Float) (radius : Float) : around p radius
    = ⟨p.x - radius, p.x + radius, p.y - radius, p.y + radius⟩ := by
  unfold around
  rw [ofPoint_eq_double]
  rfl

theorem contains_cover_double (h : e.contains p = true) (q : Point Float) :
    (e.cover q).contains p = true := by
  rw [contains_iff_double] at h ⊢
  obtain ⟨⟨hx₀, hx₁⟩, hy₀, hy₁⟩ := h
  exact ⟨⟨le_trans ((minimum_le _ _).1 (le_iff_value.mp hx₀).1) hx₀,
    le_trans hx₁ ((le_maximum _ _).1 (le_iff_value.mp hx₁).2.1)⟩,
    le_trans ((minimum_le _ _).1 (le_iff_value.mp hy₀).1) hy₀,
    le_trans hy₁ ((le_maximum _ _).1 (le_iff_value.mp hy₁).2.1)⟩

/-- The box around points holds the first one if its coordinates are numbers. -/
theorem contains_ofPoints_first (hx : IsNumber p.x) (hy : IsNumber p.y) (ps : List (Point Float)) :
    (ofPoints p ps).contains p = true := by
  have hfold : ∀ e : Envelope Float, e.contains p = true →
      (ps.foldl cover e).contains p = true := by
    induction ps with
    | nil => exact fun _ h => h
    | cons q ps ih => exact fun e h => ih _ (contains_cover_double h q)
  refine hfold _ ?_
  rw [ofPoint_eq_double, contains_iff_double]
  exact ⟨⟨hx.le_self, hx.le_self⟩, hy.le_self, hy.le_self⟩

end Envelope

/-! ### What the index finds -/

namespace Traffic

variable {t : Traffic Float} {path : Skeleton Float} {vs : List (Vehicle Float)}
  {v : Vehicle Float} {buffer : Float}

theorem foldl_maximum_radius (vs : List (Vehicle Float)) {r : Float} (hr : IsNumber r) :
    r ≤ vs.foldl (fun r v => maximum r v.radius) r
      ∧ ∀ v ∈ vs, IsNumber v.radius → v.radius ≤ vs.foldl (fun r v => maximum r v.radius) r := by
  induction vs generalizing r with
  | nil => exact ⟨hr.le_self, fun v hv => absurd hv List.not_mem_nil⟩
  | cons v vs ih =>
    have hgrow := (le_maximum r v.radius).1 hr
    obtain ⟨hstart, hall⟩ := ih (le_iff_value.mp hgrow).2.1
    refine ⟨le_trans hgrow hstart, List.forall_mem_cons.mpr ⟨fun hv => ?_, hall⟩⟩
    exact le_trans ((le_maximum r v.radius).2 hv) hstart

/-- Whether a vehicle has a finite position and a finite extent, and the middle of its footprint
can be computed. -/
structure Measurable (v : Vehicle Float) : Prop where
  x_finite : v.position.x.isFinite = true
  y_finite : v.position.y.isFinite = true
  radius_finite : v.radius.isFinite = true
  radius_pos : 0 < v.radius
  middle_x : (v.position.x - v.radius + (v.position.x + v.radius)).isFinite = true
  middle_y : (v.position.y - v.radius + (v.position.y + v.radius)).isFinite = true

/-- **The footprints rule out no vehicle that stands in the box of a path.** -/
theorem mem_within_double (hcoupled : t.Coupled) (hforward : t.index.Forward) (hv : v ∈ vs)
    (hmeasurable : Measurable v) (hbuffer : 0 ≤ buffer)
    (hbox : path.box.contains v.position = true) : v ∈ t.within path buffer vs := by
  obtain ⟨hx, hy, hradius, hpos, hmiddleX, hmiddleY⟩ := hmeasurable
  unfold within
  refine List.mem_filter.mpr ⟨hv, ?_⟩
  rw [Bool.or_eq_true, Bool.not_eq_true', List.contains_iff_mem]
  cases htracked : t.isTracked v with
  | false => exact Or.inr rfl
  | true =>
    refine Or.inl ?_
    unfold isTracked at htracked
    cases hfound : t.footprints.get? v.id with
    | none =>
      rw [hfound] at htracked
      exact absurd htracked Bool.false_ne_true
    | some box =>
      rw [hfound, Envelope.around_eq_double] at htracked
      have hbounds : (box.minX == v.position.x - v.radius
          && (box.maxX == v.position.x + v.radius && (box.minY == v.position.y - v.radius
            && box.maxY == v.position.y + v.radius))) = true := htracked
      rw [Bool.and_eq_true, Bool.and_eq_true, Bool.and_eq_true] at hbounds
      obtain ⟨hminX, hmaxX, hminY, hmaxY⟩ := hbounds
      have hnonneg : 0 ≤ v.radius := le_iff_value.mpr
        ⟨isNumber_zero, (lt_iff_value.mp hpos).2.1, (lt_iff_value.mp hpos).2.2.le⟩
      have hwidened : v.radius ≤ buffer + reach vs := by
        obtain ⟨hstart, hall⟩ := foldl_maximum_radius vs isNumber_zero
        refine le_trans (hall v hv (isFinite_iff.mp hradius).1) ?_
        exact le_add_of_nonneg_left (le_iff_value.mp hstart).2.1 (value_ne_bot_of_nonneg hstart)
          hbuffer
      obtain ⟨⟨hx₀, hx₁⟩, hy₀, hy₁⟩ := Envelope.contains_iff_double.mp hbox
      obtain ⟨hcentreX, hmeetX⟩ :=
        between_of_around hx₀ hx₁ hx hradius hnonneg hwidened hminX hmaxX hmiddleX
      obtain ⟨hcentreY, hmeetY⟩ :=
        between_of_around hy₀ hy₁ hy hradius hnonneg hwidened hminY hmaxY hmiddleY
      rw [hcoupled.files.mem_query_iff hcoupled.grid_pos]
      refine ⟨box, hfound, ?_, ?_⟩
      · exact Envelope.intersects_of_le hmeetX hmeetY
      · exact BoxIndex.spans_of_between hforward hcentreX hcentreY

end Traffic

end AgvDispatch
