/-!
# Log lines

What the program does is logged in lines, each with a level, the part of the program that speaks,
and a text.

## Main definitions

* `LogLine` — a line.
* `LogLine.render` — its written form.
-/

namespace ApiTools

/-- How much a line matters. -/
inductive LogLevel where
  /-- For those who look for a fault. -/
  | debug
  /-- For everyone. -/
  | info
  /-- A failure. -/
  | error
  deriving DecidableEq

/-- The word for a level. -/
def LogLevel.word : LogLevel → String
  | debug => "DEBUG"
  | info => "INFO"
  | error => "ERROR"

/-- A line of the log. -/
structure LogLine where
  /-- How much it matters. -/
  level : LogLevel
  /-- The part of the program that speaks. -/
  speaker : String
  /-- What it says. -/
  text : String
  deriving DecidableEq

/-- The written form of a line. -/
def LogLine.render (line : LogLine) : String :=
  line.level.word ++ " " ++ line.speaker ++ ": " ++ line.text

end ApiTools
