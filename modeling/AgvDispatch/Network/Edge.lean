import AgvDispatch.Geometry.Curve
/-!
# Edges

A directed edge declares how a vehicle travels from one waypoint to the next: along a straight line
or along a Bézier curve, in its driving direction or sideways. An edge that lacks a control point
its curve needs is driven as a straight line.
-/

namespace AgvDispatch

/-- How an edge bends, and whether it is driven sideways. -/
inductive CurveKind where
  /-- A straight line. -/
  | straight
  /-- A curve with one control point. -/
  | quadratic
  /-- A curve with two control points. -/
  | cubic
  /-- A straight line driven sideways. -/
  | lateralStraight
  /-- A curve with one control point, driven sideways. -/
  | lateralQuadratic
  /-- A curve with two control points, driven sideways. -/
  | lateralCubic
  deriving DecidableEq, Repr, Inhabited

namespace CurveKind

/-- Every kind of curve, in the order of the codes. -/
def all : List CurveKind :=
  [straight, quadratic, cubic, lateralStraight, lateralQuadratic, lateralCubic]

/-- The number that stands for a kind of curve in map data. -/
def code : CurveKind → Int
  | straight => 1
  | quadratic => 2
  | cubic => 3
  | lateralStraight => 4
  | lateralQuadratic => 5
  | lateralCubic => 6

/-- The kind of curve with a code; an unknown code means a straight line. -/
def ofCode (code : Int) : CurveKind :=
  (all.find? fun kind => kind.code == code).getD straight

/-- The name of a kind of curve in records. -/
def name : CurveKind → String
  | straight => "straight"
  | quadratic => "quadratic_bezier"
  | cubic => "cubic_bezier"
  | lateralStraight => "lateral_straight"
  | lateralQuadratic => "lateral_quadratic"
  | lateralCubic => "lateral_cubic"

end CurveKind

/-- What is declared about the way from one waypoint to the next. -/
structure Edge (α : Type) where
  /-- How the edge bends. -/
  curve : CurveKind
  /-- The first control point. -/
  control₁ : Option (Point α)
  /-- The second control point. -/
  control₂ : Option (Point α)
  /-- The declared travel distance. Unless it is positive the shape is measured. -/
  distance : α
  deriving BEq, Repr, Inhabited

namespace Edge

variable {α : Type} [Scalar α]

/-- A straight edge of undeclared distance. -/
def straight : Edge α := ⟨.straight, none, none, 0⟩

/-- A quadratic edge of undeclared distance. -/
def quadratic (control : Point α) : Edge α := ⟨.quadratic, some control, none, 0⟩

/-- A cubic edge of undeclared distance. -/
def cubic (control₁ control₂ : Point α) : Edge α := ⟨.cubic, some control₁, some control₂, 0⟩

/-- The control points that shape an edge. -/
def controlPoints (e : Edge α) : List (Point α) :=
  match e.curve, e.control₁, e.control₂ with
  | .quadratic, some c, _ | .lateralQuadratic, some c, _ => [c]
  | .cubic, some c₁, some c₂ | .lateralCubic, some c₁, some c₂ => [c₁, c₂]
  | _, _, _ => []

/-- The line that a vehicle drives along an edge between two positions. -/
@[specialize]
def polyline (e : Edge α) (start stop : Point α) : List (Point α) :=
  match e.controlPoints with
  | [c] => Curve.quadratic start c stop
  | [c₁, c₂] => Curve.cubic start c₁ c₂ stop
  | _ => [start, stop]

/-- The same edge driven in the other direction: the control points change places. -/
def reversed (e : Edge α) : Edge α :=
  match e.control₂ with
  | none => e
  | some c => { e with control₁ := some c, control₂ := e.control₁ }

end Edge

end AgvDispatch
