import OpenWater.Framework.Text

/-!
# Allowed origins

The setting `cors_origins` of `backend/owp_backend/config.py`: the validator that normalises it and
the list the CORS middleware is given.
-/

namespace OpenWater.Backend

open Framework

/-- What Python's `str.strip` takes for whitespace. -/
def isSpace (c : Char) : Bool :=
  let n := c.toNat
  (0x09 ≤ n && n ≤ 0x0d) || (0x1c ≤ n && n ≤ 0x20) || n == 0x85 || n == 0xa0 || n == 0x1680 ||
    (0x2000 ≤ n && n ≤ 0x200a) || n == 0x2028 || n == 0x2029 || n == 0x202f || n == 0x205f ||
    n == 0x3000

def strip (s : String) : String := String.ofList (Framework.strip isSpace s.toList)

def splitCommas (s : String) : List String := (s.toList.splitOn ',').map String.ofList

def stripCorsOriginEntries (value : String) : String :=
  ",".intercalate (((splitCommas value).filter fun part => strip part ≠ "").map strip)

def corsOriginList (corsOrigins : String) : List String :=
  if corsOrigins = "" then []
  else ((splitCommas corsOrigins).filter fun origin => strip origin ≠ "").map strip

/-- The stripped parts between the commas, without the empty ones. -/
def originEntries (s : String) : List String := ((splitCommas s).map strip).filter (· ≠ "")

private theorem strip_ofList (part : List Char) :
    strip (String.ofList part) = String.ofList (Framework.strip isSpace part) := by
  rw [strip, String.toList_ofList]

private theorem strip_parts (s : String) :
    ((splitCommas s).filter fun part => strip part ≠ "").map strip = originEntries s := by
  rw [originEntries, List.filter_map]
  rfl

private theorem originEntries_eq_fields (s : String) :
    originEntries s = (fields ',' isSpace s.toList).map String.ofList := by
  rw [← strip_parts, splitCommas, fields, List.filter_map, List.map_map, List.map_map]
  have hempty : ∀ part, String.ofList part = "" ↔ part = [] := fun part => String.ofList_inj
  simp only [Function.comp_def, strip_ofList, ne_eq, hempty]

private theorem originEntries_normalised (s : String) :
    originEntries (stripCorsOriginEntries s) = originEntries s := by
  rw [originEntries_eq_fields, stripCorsOriginEntries, strip_parts, String.toList_intercalate,
    originEntries_eq_fields s, List.map_map]
  have hself : (fields ',' isSpace s.toList).map (String.toList ∘ String.ofList) =
      fields ',' isSpace s.toList :=
    (List.map_congr_left fun part _ => String.toList_ofList).trans (List.map_id' _)
  rw [hself]
  exact congrArg (List.map String.ofList) (fields_intercalate fun part hpart => field_of_mem hpart)

private theorem corsOriginList_eq (s : String) : corsOriginList s = originEntries s := by
  unfold corsOriginList
  split
  · rename_i hs
    rw [hs]
    decide
  · exact strip_parts s

/-- The list is the same for a setting and for what the validator makes of it, and holds the
non-empty stripped parts in order. Normalising again changes nothing. No entry is empty, has a
comma or space at an end; and there is none exactly when the setting is only commas and space. -/
theorem cors_origins_normalised (s : String) :
    corsOriginList (stripCorsOriginEntries s) = originEntries s ∧
      corsOriginList s = originEntries s ∧
      stripCorsOriginEntries (stripCorsOriginEntries s) = stripCorsOriginEntries s ∧
      (∀ origin ∈ corsOriginList s, origin ≠ "" ∧ ',' ∉ origin.toList ∧ strip origin = origin) ∧
      (corsOriginList s = [] ↔ ∀ c ∈ s.toList, c = ',' ∨ isSpace c = true) := by
  refine ⟨?_, corsOriginList_eq s, ?_, ?_, ?_⟩
  · rw [corsOriginList_eq, originEntries_normalised]
  · rw [stripCorsOriginEntries, strip_parts, originEntries_normalised, ← strip_parts,
      ← stripCorsOriginEntries]
  · rw [corsOriginList_eq, originEntries_eq_fields]
    intro origin horigin
    obtain ⟨part, hpart, rfl⟩ := List.mem_map.mp horigin
    have hfield := field_of_mem hpart
    refine ⟨?_, ?_, ?_⟩
    · intro hempty
      exact hfield.nonempty (String.ofList_injective hempty)
    · rw [String.toList_ofList]
      exact hfield.no_sep
    · rw [strip_ofList, hfield.stripped.strip_eq]
  · rw [corsOriginList_eq, originEntries_eq_fields, List.map_eq_nil_iff, fields_eq_nil]

example : corsOriginList "http://localhost:5173" = ["http://localhost:5173"] := by decide

end OpenWater.Backend
