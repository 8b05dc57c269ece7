import AgvDispatch.Network.Waypoint
import AgvDispatch.Text.Integer
import AgvDispatch.Text.Listing
/-!
# The origin table

For some origins only certain vehicles may take a task. The table is configured by **origin keys**,
a map and a point joined by a hyphen, each with a listing of vehicle ids.
-/

namespace AgvDispatch

open Std (TreeMap)

/-- The waypoint that an origin key denotes. The key is cut at its first hyphen, and blanks around
the two numbers do not count; so a map with a negative number has no key. -/
def Waypoint.ofOriginKey? (key : String) : Option Waypoint := do
  let (mapPart, pointPart) ← Text.cutAt? '-' key.toList
  let mapId ← Text.readInt32? (Text.trim mapPart)
  let id ← Text.readInt32? (Text.trim pointPart)
  some ⟨mapId, id⟩

/-- The vehicles that may start at certain origins. -/
abbrev OriginTable := TreeMap Waypoint (List String)

namespace OriginTable

/-- Adds what is configured under a key. A malformed key adds nothing. -/
def addEntry (table : OriginTable) (key listing : String) : OriginTable :=
  match Waypoint.ofOriginKey? key with
  | none => table
  | some origin => table.insert origin ((Text.entries listing).map String.ofList)

/-- The table with the given keys and listings, of which a later one replaces an earlier one for the
same origin. -/
def ofEntries (entries : List (String × String)) : OriginTable :=
  entries.foldl (fun table (key, listing) => table.addEntry key listing) {}

end OriginTable

end AgvDispatch
