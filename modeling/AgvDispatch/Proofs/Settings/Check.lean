import AgvDispatch.Proofs.Traffic.Contact
import AgvDispatch.Settings.Check
/-!
# What the check of settings is worth

Each rule that settings break is one problem with a message of its own
(`Settings.mem_problems_iff`, `Settings.nodup_messages`). But a rule demands that a length is
positive, or that it is not negative, and a problem is that it is not positive, or that it is
negative. For a length that is not a number neither is true, and the check lets it pass: settings
that pass follow the rules exactly if the lengths are numbers (`Settings.followsRules_iff`).

What depends on the rules is `Settings.KeepsCollisionChecks`. With a safety buffer that is a number,
a route on whose first waypoint another vehicle stands is not safe, in every run of traffic control.
With one that is not a number, every route is.
-/

namespace AgvDispatch

open Double

/-! ### Messages -/

namespace SettingsProblem

/-- What the message of a problem names first. -/
def subject : SettingsProblem Float → String
  | noCells => "spatial.grid_size"
  | flatFloor _ _ => "spatial extent"
  | negativeBuffer => "traffic.buffer_radius"
  | negativeSafety => "traffic.safety_buffer"
  | excessiveBattery => "distribution.lowest_work_battery"
  | malformedOrigin _ => "distribution.origin_specify key"

theorem exists_message_eq (problem : SettingsProblem Float) :
    ∃ complaint, problem.message = problem.subject ++ complaint := by
  cases problem with
  | noCells => exact ⟨" must be at least 1", by decide⟩
  | flatFloor width height =>
    have hliteral : "spatial extent must be positive, got "
        = "spatial extent" ++ " must be positive, got " := by decide
    refine ⟨" must be positive, got " ++ Decimal.plain width ++ "x" ++ Decimal.plain height, ?_⟩
    dsimp only [message, subject]
    simp only [hliteral, String.append_assoc]
  | negativeBuffer => exact ⟨" must not be negative", by decide⟩
  | negativeSafety => exact ⟨" must not be negative", by decide⟩
  | excessiveBattery => exact ⟨" must be within 0..=100", by decide⟩
  | malformedOrigin key =>
    have hliteral : "distribution.origin_specify key '"
        = "distribution.origin_specify key" ++ " '" := by decide
    refine ⟨" '" ++ key ++ "' is not '<map>-<point>'", ?_⟩
    dsimp only [message, subject]
    simp only [hliteral, String.append_assoc]

theorem subject_prefix_message (problem : SettingsProblem Float) :
    problem.subject.toList <+: problem.message.toList := by
  obtain ⟨complaint, hcomplaint⟩ := problem.exists_message_eq
  rw [hcomplaint, String.toList_append]
  exact List.prefix_append _ _

/-- Of two messages that are the same, one names first what the other does. -/
theorem subject_prefix_or_prefix {problem problem' : SettingsProblem Float}
    (h : problem.message = problem'.message) : problem.subject.toList <+: problem'.subject.toList
      ∨ problem'.subject.toList <+: problem.subject.toList :=
  List.prefix_or_prefix_of_prefix problem.subject_prefix_message
    (h ▸ problem'.subject_prefix_message)

theorem malformedOrigin_message_inj {key key' : String}
    (h : (malformedOrigin key : SettingsProblem Float).message
      = (malformedOrigin key' : SettingsProblem Float).message) : key = key' := by
  dsimp only [message] at h
  rw [String.append_left_inj, String.append_right_inj] at h
  exact h

end SettingsProblem

namespace Settings

/-! ### The problems -/

section

variable {α : Type} [Scalar α]

/-- When settings have a problem. -/
def Has (s : Settings α) : SettingsProblem α → Prop
  | .noCells => s.floor.gridSize = 0
  | .flatFloor width height => (s.floor.width ≤ 0 ∨ s.floor.height ≤ 0)
    ∧ width = s.floor.width ∧ height = s.floor.height
  | .negativeBuffer => s.traffic.bufferRadius < 0
  | .negativeSafety => s.traffic.safetyBuffer < 0
  | .excessiveBattery => 100 < s.allocation.lowestBattery
  | .malformedOrigin key => key ∈ s.allocation.originVehicles ∧ Waypoint.ofOriginKey? key = none

variable {s : Settings α}

omit [Scalar α] in
theorem mem_problemIf {broken : Bool} {problem problem' : SettingsProblem α} :
    problem ∈ problemIf broken problem' ↔ broken = true ∧ problem = problem' := by
  unfold problemIf
  split
  · rename_i h
    rw [List.mem_singleton, and_iff_right h]
  · rename_i h
    exact iff_of_false List.not_mem_nil fun h' => h h'.1

theorem mem_problems_iff {problem : SettingsProblem α} : problem ∈ s.problems ↔ s.Has problem := by
  unfold problems
  simp only [List.mem_append, mem_problemIf, List.mem_map, List.mem_filter]
  cases problem <;> simp [Has]

theorem problems_eq_nil_iff : s.problems = [] ↔ ∀ problem, ¬s.Has problem := by
  rw [List.eq_nil_iff_forall_not_mem]
  exact forall_congr' fun problem => not_congr mem_problems_iff

omit [Scalar α] in
theorem problemIf_sublist (broken : Bool) (problem : SettingsProblem α) :
    List.Sublist (problemIf broken problem) [problem] := by
  unfold problemIf
  split
  · exact List.Sublist.refl _
  · exact List.nil_sublist _

/-- No problem is listed twice. -/
theorem nodup_problems (s : Settings α) : s.problems.Nodup := by
  have hsublist : List.Sublist s.problems ([.noCells, .flatFloor s.floor.width s.floor.height,
      .negativeBuffer, .negativeSafety, .excessiveBattery]
        ++ s.allocation.originVehicles.keys.map .malformedOrigin) :=
    (((((problemIf_sublist _ _).append (problemIf_sublist _ _)).append
      (problemIf_sublist _ _)).append (problemIf_sublist _ _)).append
        (problemIf_sublist _ _)).append (List.filter_sublist.map _)
  refine hsublist.nodup (List.nodup_append'.mpr ⟨?_, ?_, ?_⟩)
  · simp
  · exact s.allocation.originVehicles.nodup_keys.map fun _ _ => SettingsProblem.malformedOrigin.inj
  · intro problem hrule hkey
    obtain ⟨key, -, rfl⟩ := List.mem_map.mp hkey
    simp at hrule

end

/-- Two problems of the same settings have different messages. -/
theorem Has.eq_of_message_eq {s : Settings Float} {problem problem' : SettingsProblem Float}
    (h : s.Has problem) (h' : s.Has problem') (heq : problem.message = problem'.message) :
    problem = problem' := by
  have hsubject := SettingsProblem.subject_prefix_or_prefix heq
  -- No subject begins another one.
  cases problem <;> cases problem' <;> dsimp only [SettingsProblem.subject] at hsubject <;>
    try exact absurd hsubject (by decide)
  case flatFloor.flatFloor =>
    obtain ⟨-, rfl, rfl⟩ := h
    obtain ⟨-, rfl, rfl⟩ := h'
    rfl
  case malformedOrigin.malformedOrigin =>
    exact congrArg _ (SettingsProblem.malformedOrigin_message_inj heq)
  all_goals rfl

theorem nodup_messages (s : Settings Float) :
    (s.problems.map SettingsProblem.message).Nodup :=
  List.Nodup.map_on (fun _ h _ h' heq =>
    (mem_problems_iff.mp h).eq_of_message_eq (mem_problems_iff.mp h') heq) s.nodup_problems

/-! ### The rules -/

/-- **Whether settings follow the rules.** -/
structure FollowsRules (s : Settings Float) : Prop where
  cells : 1 ≤ s.floor.gridSize
  width_pos : 0 < s.floor.width
  height_pos : 0 < s.floor.height
  buffer_nonneg : 0 ≤ s.traffic.bufferRadius
  safety_nonneg : 0 ≤ s.traffic.safetyBuffer
  battery_le : s.allocation.lowestBattery ≤ 100
  keys : ∀ key ∈ s.allocation.originVehicles, Waypoint.ofOriginKey? key ≠ none

/-- Whether the lengths that there are rules for are numbers. -/
structure HasNumbers (s : Settings Float) : Prop where
  width : IsNumber s.floor.width
  height : IsNumber s.floor.height
  buffer : IsNumber s.traffic.bufferRadius
  safety : IsNumber s.traffic.safetyBuffer

variable {s : Settings Float}

/-- **Settings without problems follow the rules if their lengths are numbers**, and not otherwise.
-/
theorem followsRules_iff : s.FollowsRules ↔ s.problems = [] ∧ s.HasNumbers := by
  rw [problems_eq_nil_iff]
  constructor
  · rintro ⟨hcells, hwidth, hheight, hbuffer, hsafety, hbattery, hkeys⟩
    refine ⟨fun problem => ?_, ⟨(lt_iff_value.mp hwidth).2.1, (lt_iff_value.mp hheight).2.1,
      (le_iff_value.mp hbuffer).2.1, (le_iff_value.mp hsafety).2.1⟩⟩
    cases problem with
    | noCells => exact fun hzero => absurd hcells (by rw [hzero]; decide)
    | flatFloor width height =>
      rintro ⟨hflat | hflat, -⟩
      · exact not_lt_of_le hflat hwidth
      · exact not_lt_of_le hflat hheight
    | negativeBuffer => exact not_lt_of_le hbuffer
    | negativeSafety => exact not_lt_of_le hsafety
    | excessiveBattery => exact hbattery.not_gt
    | malformedOrigin key => exact fun h => hkeys key h.1 h.2
  · rintro ⟨h, hwidth, hheight, hbuffer, hsafety⟩
    exact {
      cells := Nat.one_le_iff_ne_zero.mpr (h .noCells)
      width_pos := lt_of_not_le hwidth isNumber_zero fun hflat =>
        h (.flatFloor _ _) ⟨Or.inl hflat, rfl, rfl⟩
      height_pos := lt_of_not_le hheight isNumber_zero fun hflat =>
        h (.flatFloor _ _) ⟨Or.inr hflat, rfl, rfl⟩
      buffer_nonneg := le_of_not_lt hbuffer isNumber_zero (h .negativeBuffer)
      safety_nonneg := le_of_not_lt hsafety isNumber_zero (h .negativeSafety)
      battery_le := not_lt.mp (h .excessiveBattery)
      keys := fun key hkey hnone => h (.malformedOrigin key) ⟨hkey, hnone⟩ }

theorem checked_eq_ok_iff : s.checked = .ok s ↔ s.problems = [] := by
  unfold checked
  split
  · rename_i hproblems
    exact iff_of_true rfl hproblems
  · rename_i hproblems
    refine iff_of_false (fun h => ?_) hproblems
    cases h

/-! ### What valid settings are worth -/

/-- What it means that the check of settings **keeps the checks of collisions alive as long as the
lengths are numbers**. -/
structure KeepsCollisionChecks (s : Settings Float) : Prop where
  /-- The problems are the rules that are broken. -/
  mem_problems_iff : ∀ problem, problem ∈ s.problems ↔ s.Has problem
  /-- There is one message for each of them. -/
  nodup_messages : (s.problems.map SettingsProblem.message).Nodup
  /-- Settings that pass the check follow the rules if their lengths are numbers, and not
  otherwise. -/
  followsRules_iff : s.FollowsRules ↔ s.checked = .ok s ∧ s.HasNumbers
  /-- In a run over the floor of settings that pass, with a safety buffer that is a number, a route
  on whose first waypoint another vehicle stands is not safe. -/
  isSafe_eq_false : s.checked = .ok s → IsNumber s.traffic.safetyBuffer →
    ∀ (registry : Registry Float) (n : Network Float) (events : List (TrafficEvent Float))
      (c : TrafficControl Float), (TrafficControl.start s.floor registry n).run events = c →
      ∀ (mapId : Int) (id : String) (v : Vehicle Float), v ∈ Traffic.others c.registry mapId id →
        Traffic.Measurable v →
        ∀ (w : Waypoint) (rest : Route) (p : Point Float), c.network.position w = some p →
          v.position.SamePlace p → Traffic.HasStretch c.network (w :: rest) →
          c.traffic.isSafe c.registry c.network mapId id (w :: rest) s.traffic.safetyBuffer = false
  /-- With a safety buffer that is not a number, every route whose waypoints have positions is safe.
  -/
  isSafe_of_not_isNumber : ¬IsNumber s.traffic.safetyBuffer →
    ∀ (t : Traffic Float) (registry : Registry Float) (n : Network Float) (mapId : Int)
      (id : String) (candidate : Route),
      t.isSafe registry n mapId id candidate s.traffic.safetyBuffer
        = (candidate.isEmpty || (n.skeleton? candidate).isSome)

/-- **The check of settings keeps the checks of collisions alive as long as the lengths are
numbers.** -/
theorem keepsCollisionChecks (s : Settings Float) : s.KeepsCollisionChecks where
  mem_problems_iff _ := mem_problems_iff
  nodup_messages := s.nodup_messages
  followsRules_iff := by rw [checked_eq_ok_iff, followsRules_iff]
  isSafe_eq_false := by
    intro hvalid hnumber registry n events c hrun mapId id v hv hmeasurable w rest p hw hplace
      hstretch
    have hbuffer : 0 ≤ s.traffic.safetyBuffer := le_of_not_lt hnumber isNumber_zero
      (problems_eq_nil_iff.mp (checked_eq_ok_iff.mp hvalid) .negativeSafety)
    have hcoupled : c.traffic.Coupled := hrun ▸ TrafficControl.invariant_run
      (I := fun c => c.traffic.Coupled) TrafficControl.coupled_step
        (TrafficControl.coupled_start s.floor registry n) events
    have hforward : c.traffic.index.Forward :=
      hrun ▸ (TrafficControl.sameLayout_run _ events).forward (BoxIndex.forward_empty _ _ _ _)
    exact Traffic.isSafe_eq_false_of_standing hcoupled hforward hv hmeasurable hbuffer hw hplace
      hstretch
  isSafe_of_not_isNumber hnumber t registry n mapId id candidate :=
    Traffic.isSafe_of_not_isNumber t registry n mapId id candidate hnumber

/-- **A safety buffer that is not a number passes the check and switches the checks of collisions
off**: a route is safe on whose only waypoint another vehicle stands. With the standard buffer it is
not. -/
theorem isSafe_unbuffered :
    let s : Settings Float := { Settings.standard with traffic := ⟨300, 0.0 / 0.0⟩ }
    let c := (TrafficControl.start s.floor {} (Network.addPoint {} ⟨1, 1⟩ ⟨0, 0⟩)).run
      [.upsert (.ready "B" 1 ⟨0, 0⟩ 300), .track "B" ⟨0, 0⟩ 300]
    s.problems.isEmpty ∧ ¬0 ≤ s.traffic.safetyBuffer
      ∧ c.traffic.isSafe c.registry c.network 1 "A" [⟨1, 1⟩] s.traffic.safetyBuffer = true
      ∧ c.traffic.isSafe c.registry c.network 1 "A" [⟨1, 1⟩] 300 = false := by
  decide +kernel

/-- Extents that overflow hide a vehicle as well: that of the first stretch of a route, and that of
the sum of the bounds of a footprint. -/
theorem isSafe_overflowing :
    let control (extent : Float) (n : Network Float) (p : Point Float) : TrafficControl Float :=
      (TrafficControl.start ⟨0, 0, extent, extent, 4⟩ {} n).run
        [.upsert (.ready "B" 1 p 300), .track "B" p 300]
    let c := control 1e5 ((Network.addPoint {} ⟨1, 1⟩ ⟨-1e308, 0⟩).addPoint ⟨1, 2⟩ ⟨1e308, 0⟩)
      ⟨-1e308, 0⟩
    let c' := control 1.6e308 (Network.addPoint {} ⟨1, 1⟩ ⟨1e308, 1e308⟩) ⟨1e308, 1e308⟩
    c.traffic.isSafe c.registry c.network 1 "A" [⟨1, 1⟩, ⟨1, 2⟩] 300 = true
      ∧ c'.traffic.isSafe c'.registry c'.network 1 "A" [⟨1, 1⟩] 300 = true := by
  decide +kernel

end Settings

end AgvDispatch
