import Mathlib.Data.Rat.Cast.Order
import Mathlib.Tactic.Common

/-!
# Ingestion settings

The fields of `ingestion/owp_ingestion/config.py` the service's logic reads, with the bounds its
validation enforces. Delays are exact rationals.
-/

namespace OpenWater.Ingestion

structure Settings where
  mqttHost : String
  mqttPort : Nat := 1883
  mqttUsername : Option String := none
  mqttPassword : Option String := none
  mqttTopic : String := "owp/v1/devices/+/readings"
  mqttClientId : String := "owp-ingestion"
  mqttQos : Nat := 1
  reconnectInitialDelay : ℚ := 1
  reconnectMaxDelay : ℚ := 30
  dbWriteMaxAttempts : Nat := 10
  dbWriteInitialDelay : ℚ := 1
  dbWriteMaxDelay : ℚ := 30
  mqttPort_ge : 1 ≤ mqttPort := by decide
  mqttPort_le : mqttPort ≤ 65535 := by decide
  mqttQos_le : mqttQos ≤ 2 := by decide
  reconnectInitialDelay_pos : 0 < reconnectInitialDelay := by decide
  reconnectMaxDelay_pos : 0 < reconnectMaxDelay := by decide
  dbWriteMaxAttempts_ge : 1 ≤ dbWriteMaxAttempts := by decide
  dbWriteInitialDelay_pos : 0 < dbWriteInitialDelay := by decide
  dbWriteMaxDelay_pos : 0 < dbWriteMaxDelay := by decide

def Settings.default (mqttHost : String) : Settings where
  mqttHost := mqttHost

end OpenWater.Ingestion
