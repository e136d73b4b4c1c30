import ZoneGate.Py.Str

/-!
# Settings

The settings that the start-up and the endpoints read, with their defaults.
-/

namespace ZoneGate

open Py

structure Settings where
  appEnv : String := "development"
  llmProvider : String := "ollama"
  carrierMode : String := "live"
  nokiaApiKey : String := "mock-key"
  nokiaMcpEnabled : Bool := true
  nokiaMcpStaticAllowlist : String := ""
  tokenSecretKey : String := "zonegate-token-secret-key-initial-scaffold"
  sessionTtlHours : ℤ := 12
  sessionCookieSecure : Bool := false
  demoOperatorPassword : String := "zonegate-demo"
deriving DecidableEq, Repr

end ZoneGate
