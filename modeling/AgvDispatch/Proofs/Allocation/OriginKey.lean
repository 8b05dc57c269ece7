import AgvDispatch.Allocation.OriginTable
import AgvDispatch.Proofs.Text.Integer
/-!
# What origin keys denote

The grammar of the origin keys, apart from the way in which they are read: a number without a minus
sign, the first hyphen, and an integer, where blanks may stand around either number but not within
it. The hyphen is the minus sign as well. It cannot be taken for one in front of the first number,
since the key is cut there; after the cut it can, so a point may have a negative number and a map
may not.

Reading a key is exactly finding the waypoint that the grammar gives it, and the text of a waypoint
is a key for it unless the map has a negative number (`Waypoint.decodesKeys_ofOriginKey?`).
-/

namespace AgvDispatch.Waypoint

open Text

/-- Whether a number is a signed integer of 32 bits. -/
def IsInt32 (z : ℤ) : Prop := -2147483648 ≤ z ∧ z ≤ 2147483647

/-- **Whether a key denotes a waypoint.** -/
structure IsDenotedBy (w : Waypoint) (key : String) : Prop where
  mapId_isInt32 : IsInt32 w.mapId
  id_isInt32 : IsInt32 w.id
  exists_parts : ∃ before after mapPart idPart, key.toList = before ++ '-' :: after
    ∧ '-' ∉ before ∧ Surrounds before mapPart ∧ Surrounds after idPart
    ∧ (∃ n : ℕ, DenotesNat mapPart n ∧ w.mapId = n) ∧ DenotesInt idPart w.id

/-- What it means to **decode origin keys**: the text of a waypoint, unless the map has a negative
number, is decoded to this waypoint; a key is decoded to what it denotes, if it denotes anything;
and that is never on a map with a negative number. -/
structure DecodesKeys (decode : String → Option Waypoint) : Prop where
  text : ∀ w : Waypoint, 0 ≤ w.mapId → IsInt32 w.mapId → IsInt32 w.id → decode w.text = some w
  eq_some_iff : ∀ key w, decode key = some w ↔ w.IsDenotedBy key
  mapId_nonneg : ∀ key w, decode key = some w → 0 ≤ w.mapId

/-- A part of a key is read as the integer that stands in it between blanks. -/
theorem readInt32?_trim_eq_some_iff {cs : List Char} {z : ℤ} : readInt32? (trim cs) = some z
    ↔ IsInt32 z ∧ ∃ core, Surrounds cs core ∧ DenotesInt core z := by
  unfold readInt32?
  rw [readIntWithin?_eq_some_iff]
  constructor
  · rintro ⟨hdenotes, hbounds⟩
    exact ⟨hbounds, trim cs, surrounds_trim cs, hdenotes⟩
  · rintro ⟨hbounds, core, hsurrounds, hdenotes⟩
    rw [trim_of_surrounds hdenotes.isTight hsurrounds]
    exact ⟨hdenotes, hbounds⟩

theorem ofOriginKey?_eq_some_iff {key : String} {w : Waypoint} : ofOriginKey? key = some w
    ↔ ∃ before after, cutAt? '-' key.toList = some (before, after)
      ∧ readInt32? (trim before) = some w.mapId ∧ readInt32? (trim after) = some w.id := by
  unfold ofOriginKey?
  simp only [Option.bind_eq_bind, Option.bind_eq_some_iff, Prod.exists, Option.some.injEq]
  constructor
  · rintro ⟨before, after, hcut, mapId, hmap, id, hid, rfl⟩
    exact ⟨before, after, hcut, hmap, hid⟩
  · rintro ⟨before, after, hcut, hmap, hid⟩
    exact ⟨before, after, hcut, w.mapId, hmap, w.id, hid, rfl⟩

/-- **A key is read as what it denotes.** -/
theorem ofOriginKey?_eq_some_iff_isDenotedBy {key : String} {w : Waypoint} :
    ofOriginKey? key = some w ↔ w.IsDenotedBy key := by
  rw [ofOriginKey?_eq_some_iff]
  constructor
  · rintro ⟨before, after, hcut, hmap, hid⟩
    obtain ⟨hnot, hkey⟩ := cutAt?_eq_some_iff.mp hcut
    obtain ⟨hmap, mapPart, hmapPart, hmapId⟩ := readInt32?_trim_eq_some_iff.mp hmap
    obtain ⟨hid, idPart, hidPart, hidId⟩ := readInt32?_trim_eq_some_iff.mp hid
    -- All of what comes before the cut is free of hyphens, so the number there has no minus sign.
    have hminus : '-' ∉ mapPart := by
      obtain ⟨blanks, blanks', -, -, rfl⟩ := hmapPart
      exact fun h => hnot (List.mem_append_right _ (List.mem_append_left _ h))
    exact ⟨hmap, hid, before, after, mapPart, idPart, hkey, hnot, hmapPart, hidPart,
      hmapId.exists_denotesNat hminus, hidId⟩
  · rintro ⟨hmap, hid, before, after, mapPart, idPart, hkey, hnot, hmapPart, hidPart,
      ⟨n, hn, hmapId⟩, hidId⟩
    refine ⟨before, after, cutAt?_eq_some_iff.mpr ⟨hnot, hkey⟩,
      readInt32?_trim_eq_some_iff.mpr ⟨hmap, mapPart, hmapPart, ?_⟩,
      readInt32?_trim_eq_some_iff.mpr ⟨hid, idPart, hidPart, hidId⟩⟩
    rw [hmapId]
    exact .nonneg hn

theorem surrounds_self (cs : List Char) : Surrounds cs cs :=
  ⟨[], [], List.forall_mem_nil _, List.forall_mem_nil _, by rw [List.nil_append, List.append_nil]⟩

/-- **The text of a waypoint** denotes it, unless the map has a negative number. -/
theorem isDenotedBy_text {w : Waypoint} (hnonneg : 0 ≤ w.mapId) (hmap : IsInt32 w.mapId)
    (hid : IsInt32 w.id) : w.IsDenotedBy w.text := by
  obtain ⟨n, hn⟩ := Int.eq_ofNat_of_zero_le hnonneg
  refine ⟨hmap, hid, (toString w.mapId).toList, (toString w.id).toList, _, _, w.toList_text, ?_,
    surrounds_self _, surrounds_self _, ⟨n, ?_, hn⟩, denotesInt_toString w.id⟩
  · rw [hn, toList_toString_natCast]
    exact hyphen_notMem_toDigits n
  · rw [hn, toList_toString_natCast]
    exact .plain (isNumeral_toDigits n)

/-- **Origin keys are decoded.** -/
theorem decodesKeys_ofOriginKey? : DecodesKeys ofOriginKey? where
  text _ hnonneg hmap hid :=
    ofOriginKey?_eq_some_iff_isDenotedBy.mpr (isDenotedBy_text hnonneg hmap hid)
  eq_some_iff _ _ := ofOriginKey?_eq_some_iff_isDenotedBy
  mapId_nonneg key w h := by
    obtain ⟨-, -, -, -, -, -, -, -, -, -, ⟨n, -, hn⟩, -⟩ :=
      ofOriginKey?_eq_some_iff_isDenotedBy.mp h
    rw [hn]
    exact Int.natCast_nonneg n

/-- Blanks, plus signs and leading zeros do not count, and the second hyphen is a minus sign. -/
example : ofOriginKey? " +07 - -5" = some ⟨7, -5⟩ := by decide

end AgvDispatch.Waypoint
