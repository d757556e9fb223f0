import Mathlib.Tactic.Common

/-!
# Backend settings

The page limits of `backend/owp_backend/config.py`, with the bound its validation enforces.
-/

namespace OpenWater.Backend

structure Settings where
  readingsDefaultLimit : Nat := 100
  readingsMaxLimit : Nat := 1000
  devicesDefaultLimit : Nat := 50
  devicesMaxLimit : Nat := 200
  readingsDefaultLimit_ge : 1 ≤ readingsDefaultLimit := by decide
  readingsMaxLimit_ge : 1 ≤ readingsMaxLimit := by decide
  devicesDefaultLimit_ge : 1 ≤ devicesDefaultLimit := by decide
  devicesMaxLimit_ge : 1 ≤ devicesMaxLimit := by decide

def Settings.default : Settings := {}

end OpenWater.Backend
