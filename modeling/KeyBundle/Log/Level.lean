/-
  KeyBundle.Log.Level — the levels of log records and their names.
-/

namespace KeyBundle.Log

/-- The levels by name. The first name of a number is the one it is written with. -/
def levels : List (String × Int) := [
  ("CRITICAL", 50), ("FATAL", 50), ("ERROR", 40), ("WARNING", 30), ("WARN", 30), ("INFO", 20),
  ("DEBUG", 10), ("NOTSET", 0)]

/-- The name of a level; other numbers are written out. -/
def levelName (level : Int) : String :=
  match levels.find? (·.2 == level) with
  | some l => l.1
  | none => "Level " ++ toString level

end KeyBundle.Log
