import SymbolScript.LogLevel

/-! Settings, which are read from named texts. -/

namespace SymbolScript

structure Settings where
  encoding : Text := "cl100k_base".toList
  logLevel : Int := LogLevel.info
  host : Text := "0.0.0.0".toList
  port : Int := 8080
deriving DecidableEq, Repr

namespace Settings

/-- Reads settings; those that are not given keep their defaults. -/
def load (environment : Dictionary Text Text) : Except Failure Settings := do
  let given := fun name => Dictionary.get? environment (String.toList name)
  let defaults : Settings := {}
  let port ← match given "GAIA_PORT" with
    | some text => Decimal.readInt text
    | none => pure defaults.port
  return {
    encoding := (given "GAIA_ENCODING").getD defaults.encoding
    logLevel := ((given "GAIA_LOG_LEVEL").map LogLevel.ofSetting).getD defaults.logLevel
    host := (given "GAIA_HOST").getD defaults.host
    port }

end Settings

end SymbolScript
