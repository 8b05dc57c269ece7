import AgvDispatch.Proofs.Traffic.DoubleIndex
/-!
# A vehicle at the beginning of a route

A skeleton begins at the first waypoint of its route, since the first sample of a curve is where the
curve begins (`Network.beginsAt_of_skeleton?`). A vehicle that stands there is at no distance of the
first segment: its foot is at parameter zero, and no operation on the way to it rounds anything
(`Segment.distanceToPoint_eq_zero`).

So a route on whose first waypoint another vehicle stands is not safe, if the buffer is not negative
and nothing overflows (`Traffic.isSafe_eq_false_of_standing`). With a buffer that is not a number
nothing is ever too close, and every route is safe (`Traffic.isSafe_of_not_isNumber`).
-/

namespace AgvDispatch

open Double

/-! ### Distances -/

theorem exists_foldl_closer_le {b d : Float} (h : b ≤ d) (ds : List Float) :
    ∃ r, ds.foldl Scalar.closer (some b) = some r ∧ r ≤ d := by
  induction ds generalizing b with
  | nil => exact ⟨b, rfl, h⟩
  | cons c ds ih =>
    rw [List.foldl_cons, Scalar.closer]
    split
    · exact ih (le_trans ((minimum_le b c).1 (le_iff_value.mp h).1) h)
    · exact ih h

/-- The least number of a list is not beyond the first one. -/
theorem Scalar.least_cons_le {d : Float} (h : IsNumber d) (ds : List Float) :
    Scalar.least (d :: ds) ≤ d := by
  obtain ⟨r, hr, hle⟩ := exists_foldl_closer_le h.le_self ds
  have hfirst : Scalar.closer none d = some d := if_pos h.le_self
  rw [Scalar.least, List.foldl_cons, hfirst, hr]
  exact hle

/-- Whether two points lie at the same place. -/
def Point.SamePlace (p q : Point Float) : Prop := (p.x == q.x) = true ∧ (p.y == q.y) = true

/-- Whether the coordinates of a point are finite. -/
def Point.IsFinite (p : Point Float) : Prop := p.x.isFinite = true ∧ p.y.isFinite = true

theorem Point.distance_eq_zero {p q : Point Float} (hp : p.IsFinite) (h : p.SamePlace q) :
    p.distance q = 0 := by
  obtain ⟨hx, hx'⟩ := value_sub_eq_zero hp.1 h.1
  obtain ⟨hy, hy'⟩ := value_sub_eq_zero hp.2 h.2
  exact hypot_eq_zero hx hx' hy hy'

theorem value_clampUnit_eq_zero {t : Float} (ht : IsNumber t) (h : value t = 0) :
    IsNumber (Scalar.clampUnit t) ∧ value (Scalar.clampUnit t) = 0 := by
  have hneg : ¬t < 0 := fun hlt => (lt_iff_value.mp hlt).2.2.ne h
  have hone : ¬(1 : Float) < t := by
    intro hlt
    have hvalue := (lt_iff_value.mp hlt).2.2
    rw [h, value_one] at hvalue
    exact absurd hvalue (zero_lt_one : (0 : EReal) < 1).not_gt
  have hclamp : Scalar.clampUnit t = t := (if_neg hneg).trans (if_neg hone)
  rw [hclamp]
  exact ⟨ht, h⟩

/-- **A point at the beginning of a segment** is at no distance of the segment. -/
theorem Segment.distanceToPoint_eq_zero {s : Segment Float} {p : Point Float} (hp : p.IsFinite)
    (h : p.SamePlace s.start) (hx : (s.stop.x - s.start.x).isFinite = true)
    (hy : (s.stop.y - s.start.y).isFinite = true) : s.distanceToPoint p = 0 := by
  unfold Segment.distanceToPoint
  dsimp only
  split
  · exact Point.distance_eq_zero hp h
  · rename_i hlength
    obtain ⟨hpx, hpx'⟩ := value_sub_eq_zero hp.1 h.1
    obtain ⟨hpy, hpy'⟩ := value_sub_eq_zero hp.2 h.2
    obtain ⟨hleft, hleft'⟩ := value_mul_eq_zero hpx hpx' hx
    obtain ⟨hright, hright'⟩ := value_mul_eq_zero hpy hpy' hy
    obtain ⟨hdot, hdot'⟩ := isNumber_add_of_value_eq_zero hleft hright hright'
    rw [hleft'] at hdot'
    obtain ⟨hsquareX, hsquareX'⟩ := value_mul_self_nonneg hx
    obtain ⟨hsquareY, hsquareY'⟩ := value_mul_self_nonneg hy
    have hsquares := isNumber_add_iff.mpr ⟨⟨hsquareX, hsquareY⟩,
      Or.inl (EReal.bot_lt_zero.trans_le hsquareX').ne',
      Or.inr (EReal.bot_lt_zero.trans_le hsquareY').ne'⟩
    have hlong := fun hzero => hlength (beq_iff_value.mpr ⟨hsquares, isNumber_zero, hzero⟩)
    -- The foot of the perpendicular is where the segment begins.
    obtain ⟨hfoot, hfoot'⟩ := value_div_of_value_eq_zero hdot hdot' hsquares hlong
    obtain ⟨hclamp, hclamp'⟩ := value_clampUnit_eq_zero hfoot hfoot'
    exact Point.distance_eq_zero hp ⟨beq_add_mul_of_value_eq_zero h.1 hclamp hclamp' hx,
      beq_add_mul_of_value_eq_zero h.2 hclamp hclamp' hy⟩

/-! ### Where a skeleton begins -/

/-- The first segment of a skeleton. -/
def Skeleton.firstSegment {α : Type} [Scalar α] (path : Skeleton α) : Segment α :=
  ⟨path.first, path.rest.headD path.first⟩

theorem Skeleton.exists_segments_eq {α : Type} [Scalar α] (path : Skeleton α) :
    ∃ rest, path.segments = path.firstSegment :: rest := by
  unfold segments parts firstSegment
  rw [List.flatMap_cons]
  cases path.rest with
  | nil => exact ⟨_, rfl⟩
  | cons q rest => exact ⟨_, rfl⟩

/-- Whether a point is where a line to another point begins, if it can be computed. -/
def Point.BeginsAt (a p : Point Float) : Prop :=
  (IsNumber a.x → value a.x = value p.x) ∧ (IsNumber a.y → value a.y = value p.y)

theorem Curve.exists_parameters_eq (start stop : Point Float) :
    ∃ rest, parameters (segmentCount start stop) = (0 : Float) :: rest := by
  have hcount : ∀ k : Fin 101, 10 ≤ k.val → ((0 : ℕ) : Float) / ((k.val : ℕ) : Float) = 0 := by
    decide +kernel
  have hbounds : 10 ≤ segmentCount start stop ∧ segmentCount start stop < 101 := by
    unfold segmentCount
    dsimp only
    omega
  unfold parameters
  rw [List.range_succ_eq_map, List.map_cons]
  refine ⟨_, congrArg (· :: _) ?_⟩
  exact hcount ⟨segmentCount start stop, hbounds.2⟩ hbounds.1

/-- The first sample of a curve is where the curve begins. -/
theorem Curve.value_quadraticAt_zero {p c q : Float} (hp : p.isFinite = true)
    (h : IsNumber (quadraticAt p c q 0)) : value (quadraticAt p c q 0) = value p := by
  have hsample : quadraticAt p c q 0 = 1 * p + 0 * c + 0 * q := rfl
  rw [hsample] at h ⊢
  obtain ⟨hfirst, hlast⟩ := value_add_zero_mul h
  rw [hlast, (value_add_zero_mul hfirst).2, value_one_mul hp]

theorem Curve.value_cubicAt_zero {p c d q : Float} (hp : p.isFinite = true)
    (h : IsNumber (cubicAt p c d q 0)) : value (cubicAt p c d q 0) = value p := by
  have hsample : cubicAt p c d q 0 = 1 * p + 0 * c + 0 * d + 0 * q := rfl
  rw [hsample] at h ⊢
  obtain ⟨hsecond, hlast⟩ := value_add_zero_mul h
  obtain ⟨hfirst, hlast'⟩ := value_add_zero_mul hsecond
  rw [hlast, hlast', (value_add_zero_mul hfirst).2, value_one_mul hp]

theorem Edge.exists_polyline_eq {p : Point Float} (hp : p.IsFinite) (e : Edge Float)
    (q : Point Float) : ∃ a rest, e.polyline p q = a :: rest ∧ a.BeginsAt p := by
  unfold polyline
  split
  · rename_i c hcontrol
    obtain ⟨rest, hrest⟩ := Curve.exists_parameters_eq p q
    unfold Curve.quadratic
    rw [hrest, List.map_cons]
    exact ⟨_, _, rfl, Curve.value_quadraticAt_zero hp.1, Curve.value_quadraticAt_zero hp.2⟩
  · rename_i c d hcontrol
    obtain ⟨rest, hrest⟩ := Curve.exists_parameters_eq p q
    unfold Curve.cubic
    rw [hrest, List.map_cons]
    exact ⟨_, _, rfl, Curve.value_cubicAt_zero hp.1, Curve.value_cubicAt_zero hp.2⟩
  · exact ⟨p, [q], rfl, fun _ => rfl, fun _ => rfl⟩

/-- The skeleton of a route begins at its first waypoint. -/
theorem Network.beginsAt_of_skeleton? {n : Network Float} {w : Waypoint} {rest : Route}
    {p : Point Float} {path : Skeleton Float} (hw : n.position w = some p) (hp : p.IsFinite)
    (hpath : n.skeleton? (w :: rest) = some path) : path.first.BeginsAt p := by
  cases rest with
  | nil =>
    have hpoint : (n.position w).map Skeleton.ofPoint = some path := hpath
    rw [hw, Option.map_some, Option.some.injEq] at hpoint
    rw [← hpoint]
    exact ⟨fun _ => rfl, fun _ => rfl⟩
  | cons w' rest =>
    rw [skeleton?_cons_cons] at hpath
    obtain ⟨points, hpoints, hparts⟩ := Option.bind_eq_some_iff.mp hpath
    obtain ⟨p', ps, hp', hps, rfl⟩ :=
      List.forall₂_cons_left_iff.mp (resolve_eq_some_iff.mp hpoints)
    obtain ⟨q, qs, -, -, rfl⟩ := List.forall₂_cons_left_iff.mp hps
    obtain rfl : p = p' := by
      rw [hw, Option.some.injEq] at hp'
      exact hp'
    obtain ⟨a, line, hline, hbegins⟩ : ∃ a line, n.stepLine w w' p q = a :: line
        ∧ a.BeginsAt p := by
      unfold stepLine
      cases n.edge? w w' with
      | none => exact ⟨p, [q], rfl, fun _ => rfl, fun _ => rfl⟩
      | some e => exact e.exists_polyline_eq hp q
    rw [List.zip_cons_cons, List.zip_cons_cons, stepLines_cons_cons, hline, Skeleton.ofParts?,
      Option.some.injEq] at hparts
    rw [← hparts]
    exact hbegins

/-! ### Contact -/

theorem Point.SamePlace.isNumber {p q : Point Float} (h : p.SamePlace q) :
    IsNumber q.x ∧ IsNumber q.y :=
  ⟨(beq_iff_value.mp h.1).2.1, (beq_iff_value.mp h.2).2.1⟩

theorem Envelope.contains_of_samePlace {e : Envelope Float} {p q : Point Float}
    (h : p.SamePlace q) (hq : e.contains q = true) : e.contains p = true := by
  obtain ⟨hx, hx', heq⟩ := beq_iff_value.mp h.1
  obtain ⟨hy, hy', heq'⟩ := beq_iff_value.mp h.2
  rw [contains_iff_double] at hq ⊢
  exact ⟨⟨le_trans hq.1.1 (le_iff_value.mpr ⟨hx', hx, heq.ge⟩),
    le_trans (le_iff_value.mpr ⟨hx, hx', heq.le⟩) hq.1.2⟩,
    le_trans hq.2.1 (le_iff_value.mpr ⟨hy', hy, heq'.ge⟩),
    le_trans (le_iff_value.mpr ⟨hy, hy', heq'.le⟩) hq.2.2⟩

theorem Skeleton.contains_box_of_samePlace {path : Skeleton Float} {p : Point Float}
    (h : p.SamePlace path.first) : path.box.contains p = true := by
  refine Envelope.contains_of_samePlace h ?_
  rw [path.box_eq]
  exact Envelope.contains_ofPoints_first h.isNumber.1 h.isNumber.2 _

/-- A box that holds a point meets it after it has been expanded. -/
theorem Envelope.intersects_expand_ofPoint {e : Envelope Float} {p : Point Float} {t : Float}
    (hp : p.IsFinite) (h : e.contains p = true) (ht : 0 ≤ t) :
    (e.expand t).intersects (ofPoint p) = true := by
  obtain ⟨-, hxbot, hxtop⟩ := isFinite_iff.mp hp.1
  obtain ⟨-, hybot, hytop⟩ := isFinite_iff.mp hp.2
  obtain ⟨⟨hx₀, hx₁⟩, hy₀, hy₁⟩ := contains_iff_double.mp h
  have hmeetX : p.x ≤ e.maxX + t ∧ e.minX - t ≤ p.x :=
    ⟨le_add_of_le hxbot hx₁ ht, sub_le_of_le hxtop hx₀ ht⟩
  have hmeetY : p.y ≤ e.maxY + t ∧ e.minY - t ≤ p.y :=
    ⟨le_add_of_le hybot hy₁ ht, sub_le_of_le hytop hy₀ ht⟩
  rw [ofPoint_eq_double]
  exact intersects_of_le hmeetX hmeetY

/-- **A path that begins at a point collides with it**, whatever the positive threshold. -/
theorem Skeleton.collides_point_of_samePlace {path : Skeleton Float} {p : Point Float}
    {threshold : Float} (hp : p.IsFinite) (hplace : p.SamePlace path.first)
    (hx : (path.firstSegment.stop.x - path.firstSegment.start.x).isFinite = true)
    (hy : (path.firstSegment.stop.y - path.firstSegment.start.y).isFinite = true)
    (hpos : 0 < threshold) : path.collides (.point p) threshold = true := by
  obtain ⟨hzero, hthreshold, hlt⟩ := lt_iff_value.mp hpos
  have hnonneg : 0 ≤ threshold := le_iff_value.mpr ⟨hzero, hthreshold, hlt.le⟩
  have hdistance : path.distanceToPoint p ≤ 0 := by
    obtain ⟨rest, hrest⟩ := path.exists_segments_eq
    have hfirst : path.firstSegment.distanceToPoint p = 0 :=
      Segment.distanceToPoint_eq_zero hp hplace hx hy
    unfold distanceToPoint
    rw [hrest, List.map_cons, hfirst]
    exact Scalar.least_cons_le isNumber_zero _
  unfold collides
  rw [Bool.and_eq_true, decide_eq_true_iff]
  exact ⟨Envelope.intersects_expand_ofPoint hp (contains_box_of_samePlace hplace) hnonneg,
    lt_of_le_of_lt hdistance hpos⟩

/-! ### Routes that are not safe -/

namespace Traffic

variable {t : Traffic Float} {registry : Registry Float} {n : Network Float} {mapId : Int}
  {id : String} {v : Vehicle Float} {buffer : Float}

/-- Whether the first stretch of a route can be measured: its extent on both axes is finite. -/
def HasStretch (n : Network Float) (route : Route) : Prop :=
  ∀ path, n.skeleton? route = some path →
    (path.firstSegment.stop.x - path.firstSegment.start.x).isFinite = true
      ∧ (path.firstSegment.stop.y - path.firstSegment.start.y).isFinite = true

theorem samePlace_first {w : Waypoint} {rest : Route} {p : Point Float} {path : Skeleton Float}
    (hw : n.position w = some p) (hfinite : v.position.IsFinite)
    (hplace : v.position.SamePlace p) (hpath : n.skeleton? (w :: rest) = some path)
    (hstretch : HasStretch n (w :: rest)) : v.position.SamePlace path.first := by
  obtain ⟨hx, hpx, heqx⟩ := beq_iff_value.mp hplace.1
  obtain ⟨hy, hpy, heqy⟩ := beq_iff_value.mp hplace.2
  have hp : p.IsFinite := by
    constructor
    · rw [isFinite_iff, ← heqx]
      exact ⟨hpx, (isFinite_iff.mp hfinite.1).2⟩
    · rw [isFinite_iff, ← heqy]
      exact ⟨hpy, (isFinite_iff.mp hfinite.2).2⟩
  obtain ⟨hbeginX, hbeginY⟩ := Network.beginsAt_of_skeleton? hw hp hpath
  obtain ⟨hdx, hdy⟩ := hstretch path hpath
  -- A finite extent has two ends that are numbers.
  have hstartX := (isNumber_sub_iff.mp (isFinite_iff.mp hdx).1).1.2
  have hstartY := (isNumber_sub_iff.mp (isFinite_iff.mp hdy).1).1.2
  exact ⟨beq_iff_value.mpr ⟨hx, hstartX, heqx.trans (hbeginX hstartX).symm⟩,
    beq_iff_value.mpr ⟨hy, hstartY, heqy.trans (hbeginY hstartY).symm⟩⟩

/-- **A route on whose first waypoint another vehicle stands is not safe.** -/
theorem isSafe_eq_false_of_standing (hcoupled : t.Coupled) (hforward : t.index.Forward)
    (hv : v ∈ others registry mapId id) (hmeasurable : Measurable v) (hbuffer : 0 ≤ buffer)
    {w : Waypoint} {rest : Route} {p : Point Float} (hw : n.position w = some p)
    (hplace : v.position.SamePlace p) (hstretch : HasStretch n (w :: rest)) :
    t.isSafe registry n mapId id (w :: rest) buffer = false := by
  rw [Bool.eq_false_iff]
  intro hsafe
  obtain ⟨path, hpath, -, hclear⟩ := exists_path_of_isSafe hsafe (List.cons_ne_nil w rest)
  have hfinite : v.position.IsFinite := ⟨hmeasurable.x_finite, hmeasurable.y_finite⟩
  have hfirst := samePlace_first hw hfinite hplace hpath hstretch
  obtain ⟨hdx, hdy⟩ := hstretch path hpath
  have hthreshold : 0 < buffer + v.radius := by
    obtain ⟨-, hradius, hpos⟩ := lt_iff_value.mp hmeasurable.radius_pos
    exact lt_of_lt_of_le hmeasurable.radius_pos
      (le_add_of_nonneg_left hradius (EReal.bot_lt_zero.trans hpos).ne' hbuffer)
  have hhit := hclear v (mem_within_double hcoupled hforward hv hmeasurable hbuffer
    (Skeleton.contains_box_of_samePlace hfirst))
  unfold hitsPosition at hhit
  rw [Skeleton.collides_point_of_samePlace hfinite hfirst hdx hdy hthreshold] at hhit
  cases hhit

/-- A threshold that is not a number is never reached. -/
theorem collides_eq_false {path : Skeleton Float} {threshold : Float} (h : ¬IsNumber threshold)
    (obstacle : Obstacle Float) : path.collides obstacle threshold = false := by
  unfold Skeleton.collides
  rw [Bool.and_eq_false_iff, decide_eq_false_iff_not]
  exact Or.inr fun hlt => h (lt_iff_value.mp hlt).2.1

/-- **With a buffer that is not a number every route is safe**, provided that all of its waypoints
have positions. -/
theorem isSafe_of_not_isNumber (t : Traffic Float) (registry : Registry Float) (n : Network Float)
    (mapId : Int) (id : String) (candidate : Route) (h : ¬IsNumber buffer) :
    t.isSafe registry n mapId id candidate buffer
      = (candidate.isEmpty || (n.skeleton? candidate).isSome) := by
  have hthreshold : ∀ v : Vehicle Float, ¬IsNumber (buffer + v.radius) := fun v hnumber =>
    h (isNumber_add_iff.mp hnumber).1.1
  unfold isSafe
  cases hpath : n.skeleton? candidate with
  | none => rfl
  | some path =>
    have hreservations : ∀ v : Vehicle Float, t.hitsReservation mapId path buffer v = false := by
      intro v
      unfold hitsReservation
      split
      · rfl
      · rw [collides_eq_false (hthreshold v), Bool.and_false]
    have hpositions : ∀ v : Vehicle Float, hitsPosition path buffer v = false := fun v =>
      collides_eq_false (hthreshold v) _
    simp [hreservations, hpositions]

end Traffic

end AgvDispatch
