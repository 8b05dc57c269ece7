import AgvDispatch.Geometry.Clearance
import AgvDispatch.Json.Decode
import AgvDispatch.Network.Edge
import AgvDispatch.Network.Waypoint
import AgvDispatch.Scalar.Double
/-!
# Records of shapes and networks

The record forms of points, boxes, corridors, waypoints and edges. The record of a corridor is read
as it stands; nothing makes sure that its box belongs to its points.
-/

namespace AgvDispatch

open Json (Decoder JsonForm choiceForm)

/-! ### Points and boxes -/

/-- A point as a record. -/
def Point.toJson (p : Point Float) : Json :=
  .record [("x", .ofFloat p.x), ("y", .ofFloat p.y)]

/-- A point from a record. -/
def Point.ofJson? : Json → Option (Point Float) := Decoder.run? do
  let x ← Decoder.required "x" Json.toFloat?
  let y ← Decoder.required "y" Json.toFloat?
  return ⟨x, y⟩

/-- A box as a record. -/
def Envelope.toJson (e : Envelope Float) : Json :=
  .record [("min_x", .ofFloat e.minX), ("max_x", .ofFloat e.maxX), ("min_y", .ofFloat e.minY),
    ("max_y", .ofFloat e.maxY)]

/-- A box from a record. -/
def Envelope.ofJson? : Json → Option (Envelope Float) := Decoder.run? do
  let minX ← Decoder.required "min_x" Json.toFloat?
  let maxX ← Decoder.required "max_x" Json.toFloat?
  let minY ← Decoder.required "min_y" Json.toFloat?
  let maxY ← Decoder.required "max_y" Json.toFloat?
  return ⟨minX, maxX, minY, maxY⟩

instance : JsonForm (Point Float) := ⟨Point.toJson, Point.ofJson?⟩

instance : JsonForm (Envelope Float) := ⟨Envelope.toJson, Envelope.ofJson?⟩

/-! ### Corridors -/

/-- What a record says of a skeleton. -/
structure SkeletonRecord where
  /-- The polylines. -/
  parts : List (List (Point Float))
  /-- The box. -/
  box : Envelope Float
  deriving BEq, Repr, Inhabited

/-- What a record says of a corridor. -/
structure CorridorRecord where
  /-- The line that is inflated. -/
  skeleton : SkeletonRecord
  /-- How far the corridor reaches. -/
  radius : Float
  deriving BEq, Repr, Inhabited

namespace SkeletonRecord

/-- The record of a skeleton. -/
def ofSkeleton (s : Skeleton Float) : SkeletonRecord := ⟨s.parts, s.box⟩

/-- A skeleton as a record. -/
def toJson (s : SkeletonRecord) : Json :=
  .record [("parts", .ofList (.ofList Point.toJson) s.parts), ("envelope", s.box.toJson)]

/-- A skeleton from a record. -/
def ofJson? : Json → Option SkeletonRecord := Decoder.run? do
  let parts ← Decoder.required "parts" (Json.toList? (Json.toList? Point.ofJson?))
  let box ← Decoder.required "envelope" Envelope.ofJson?
  return ⟨parts, box⟩

end SkeletonRecord

namespace CorridorRecord

/-- The record of a corridor. -/
def ofCorridor (c : Corridor Float) : CorridorRecord :=
  ⟨.ofSkeleton c.skeleton, c.radius⟩

/-- A corridor as a record. -/
def toJson (c : CorridorRecord) : Json :=
  .record [("skeleton", c.skeleton.toJson), ("radius", .ofFloat c.radius)]

/-- A corridor from a record. -/
def ofJson? : Json → Option CorridorRecord := Decoder.run? do
  let skeleton ← Decoder.required "skeleton" SkeletonRecord.ofJson?
  let radius ← Decoder.required "radius" Json.toFloat?
  return ⟨skeleton, radius⟩

end CorridorRecord

instance : JsonForm SkeletonRecord := ⟨SkeletonRecord.toJson, SkeletonRecord.ofJson?⟩

instance : JsonForm CorridorRecord := ⟨CorridorRecord.toJson, CorridorRecord.ofJson?⟩

/-! ### Waypoints and edges -/

/-- A waypoint as a record. -/
def Waypoint.toJson (w : Waypoint) : Json :=
  .record [("map_id", .integer w.mapId), ("id", .integer w.id)]

/-- A waypoint from a record. -/
def Waypoint.ofJson? : Json → Option Waypoint := Decoder.run? do
  let mapId ← Decoder.required "map_id" Json.toInt32?
  let id ← Decoder.required "id" Json.toInt32?
  return ⟨mapId, id⟩

/-- A route as a list of records. -/
def Route.toJson (route : Route) : Json := .ofList Waypoint.toJson route

/-- A route from a list of records. -/
def Route.ofJson? : Json → Option Route := Json.toList? Waypoint.ofJson?

instance : JsonForm Waypoint := ⟨Waypoint.toJson, Waypoint.ofJson?⟩

instance : JsonForm CurveKind := choiceForm CurveKind.name CurveKind.all

/-- An edge as a record. -/
def Edge.toJson (e : Edge Float) : Json :=
  .record [("curve", .text e.curve.name), ("ctl1", .ofOption Point.toJson e.control₁),
    ("ctl2", .ofOption Point.toJson e.control₂), ("distance", .ofFloat e.distance)]

/-- An edge from a record. -/
def Edge.ofJson? : Json → Option (Edge Float) := Decoder.run? do
  let curve ← Decoder.required "curve" JsonForm.ofJson?
  let control₁ ← Decoder.optional "ctl1" Point.ofJson?
  let control₂ ← Decoder.optional "ctl2" Point.ofJson?
  let distance ← Decoder.defaulted "distance" 0.0 Json.toFloat?
  return ⟨curve, control₁, control₂, distance⟩

instance : JsonForm (Edge Float) := ⟨Edge.toJson, Edge.ofJson?⟩

end AgvDispatch
