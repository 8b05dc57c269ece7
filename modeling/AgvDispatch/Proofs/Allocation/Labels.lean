import AgvDispatch.Proofs.Allocation.Available
import AgvDispatch.Proofs.Allocation.Optimum
import AgvDispatch.Proofs.Text.Listing
/-!
# Labels that a vehicle carries and labels that it is taken to carry

An order requires labels, and a vehicle **carries** them if each is one of its own, whatever the
order and the spacing on either side. What is compared with a required label, however, is the whole
text of the vehicle's labels. A label holds no comma and no blanks at its ends, so an occurrence of
it lies within a single label of the vehicle; but it need not be that label, only a part of it.

So a vehicle matches if it carries what is required, or if it is **mistaken** for one that does:
every required label lies within one of its labels, and at least one of them only there
(`Vehicle.matchesLabels_iff`). A strategy chooses a vehicle that lacks a label only by such a
mistake (`Strategy.matchesUpToMistakes`).
-/

namespace AgvDispatch

open Text

namespace Vehicle

variable {α : Type}

/-- Whether each required label is one of the vehicle's labels. -/
def Carries (v : Vehicle α) (required : String) : Prop :=
  ∀ label ∈ entries required, label ∈ entries v.labels

/-- **Whether a vehicle is mistaken for one that carries the required labels**: each of them lies
within one of its labels, but not each of them is one. -/
def IsMistaken (v : Vehicle α) (required : String) : Prop :=
  (∀ label ∈ entries required, ∃ own ∈ entries v.labels, label <:+: own) ∧ ¬v.Carries required

instance (v : Vehicle α) (required : String) : Decidable (v.Carries required) := by
  unfold Carries
  infer_instance

/-- A vehicle matches if each required label lies within one of its labels. -/
theorem matchesLabels_iff_forall_exists {v : Vehicle α} {required : String} :
    v.matchesLabels required = true
      ↔ ∀ label ∈ entries required, ∃ own ∈ entries v.labels, label <:+: own := by
  unfold matchesLabels
  rw [List.all_eq_true]
  exact forall₂_congr fun label hlabel => occursIn_iff.trans (isInfix_iff_exists_entries hlabel)

/-- **A vehicle matches** if it carries what is required or is mistaken for one that does. -/
theorem matchesLabels_iff {v : Vehicle α} {required : String} :
    v.matchesLabels required = true ↔ v.Carries required ∨ v.IsMistaken required := by
  rw [matchesLabels_iff_forall_exists]
  constructor
  · intro h
    by_cases hcarries : v.Carries required
    · exact Or.inl hcarries
    · exact Or.inr ⟨h, hcarries⟩
  · rintro (hcarries | ⟨h, -⟩)
    · exact fun label hlabel => ⟨label, hcarries label hlabel, List.infix_refl label⟩
    · exact h

/-- Neither the order nor the spacing of the labels counts, on either side. -/
theorem matchesLabels_congr {v v' : Vehicle α} {required required' : String}
    (hown : ∀ label, label ∈ entries v.labels ↔ label ∈ entries v'.labels)
    (hrequired : ∀ label, label ∈ entries required ↔ label ∈ entries required') :
    v.matchesLabels required = v'.matchesLabels required' := by
  rw [Bool.eq_iff_iff, matchesLabels_iff_forall_exists, matchesLabels_iff_forall_exists]
  simp only [hown, hrequired]

end Vehicle

namespace Strategy

variable {α : Type} [Scalar α]

theorem matchesLabels_of_select {strategy : Strategy α} (h : strategy.Unhooked)
    {order : TransportOrder} {s : Surroundings α} {v : Vehicle α}
    (hchosen : (strategy.select order s).1 = some v) : v.matchesLabels order.labels = true := by
  have hadmits := (h.available_of_select hchosen).2
  unfold TransportOrder.admits at hadmits
  rw [Bool.and_eq_true, Bool.and_eq_true] at hadmits
  exact hadmits.1.1

/-- What it means that labels are **matched up to mistakes**: a vehicle matches exactly if it
carries the required labels, unless it is mistaken for one that does; and every vehicle that a
strategy chooses carries the labels that the order requires, with the same exception. -/
structure MatchesUpToMistakes (α : Type) [Scalar α] : Prop where
  iff_carries_iff : ∀ (v : Vehicle α) (required : String),
    (v.matchesLabels required = true ↔ v.Carries required) ↔ ¬v.IsMistaken required
  carries_of_select : ∀ (strategy : Strategy α), strategy.Unhooked →
    ∀ (order : TransportOrder) (s : Surroundings α) (v : Vehicle α),
      (strategy.select order s).1 = some v →
        v.Carries order.labels ∨ v.IsMistaken order.labels

/-- **Labels are matched up to mistakes.** -/
theorem matchesUpToMistakes : MatchesUpToMistakes α where
  iff_carries_iff v required := by
    rw [Vehicle.matchesLabels_iff]
    constructor
    · intro h hmistaken
      exact hmistaken.2 (h.mp (Or.inr hmistaken))
    · intro h
      exact ⟨fun hmatch => hmatch.resolve_right h, Or.inl⟩
  carries_of_select _ hunhooked _ _ _ hchosen :=
    Vehicle.matchesLabels_iff.mp (matchesLabels_of_select hunhooked hchosen)

/-- **A label within a longer one is mistaken for it**: for an order of cold goods the vehicle with
the label `scold` is chosen, which does not carry `cold`. -/
theorem chosen_scold :
    ((Strategy.distancePriority.select { TransportOrder.ofRoute "T" ⟨1, 1⟩ ⟨1, 1⟩ with
        labels := "cold" }
      ⟨Registry.ofList [{ Vehicle.ready "A" 1 ⟨0, 0⟩ 300 with
        currentPoint := some 1, labels := "scold" }], Distributor.yard, 40⟩).1.map
          fun v => (v.id, v.labels)) = some ("A", "scold")
      ∧ ¬Vehicle.Carries { Vehicle.ready "A" 1 (⟨0, 0⟩ : Point Float) 300 with
        currentPoint := some 1, labels := "scold" } "cold" := by
  decide +kernel

end Strategy

end AgvDispatch
