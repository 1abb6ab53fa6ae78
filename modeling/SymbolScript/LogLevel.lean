import SymbolScript.Value

/-! Levels of importance that log messages have. -/

namespace SymbolScript.LogLevel

def named : List (String × Int) := [
  ("CRITICAL", 50), ("FATAL", 50), ("ERROR", 40), ("WARN", 30), ("WARNING", 30), ("INFO", 20),
  ("DEBUG", 10), ("NOTSET", 0)]

def info : Int := 20

def ofName? (name : Text) : Option Int :=
  (named.find? fun level => level.1.toList == name).map (·.2)

/-- Raises a letter to upper case. Besides the ASCII letters, the dotless i and the long s have
upper-case forms that names of levels are made of. -/
def raise (c : Char) : Char :=
  if c = 'ı' then 'I' else if c = 'ſ' then 'S' else c.toUpper

/-- The level of a name in any mix of upper and lower case; other names give the level of
information. -/
def ofSetting (name : Text) : Int :=
  (ofName? (name.map raise)).getD info

example : ofSetting "warnıng".toList = 30 ∧ ofSetting "LEVEL 5".toList = 20 := by decide +kernel

def ofValue : Value → Except Failure Int
  | .number (.whole level) => .ok level
  | .bool value => .ok (if value then 1 else 0)
  | .text name =>
    match ofName? name with
    | some level => .ok level
    | none => .error (.value (.unknownLogLevel (Text.quoted name)))
  | _ => .error (.type .unusable)

end SymbolScript.LogLevel
