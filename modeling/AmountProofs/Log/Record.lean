import AmountProofs.Text

/-!
Log records.
-/

namespace AmountProofs.Log

/-- A record that the library emits under one of its logger names. -/
structure Record where
  level : Int
  logger : String
  message : Text
  deriving DecidableEq, Repr

def debug : Int := 10

def info : Int := 20

/-- The level below which nothing is kept unless asked for. -/
def warning : Int := 30

def error : Int := 40

def critical : Int := 50

def levelName (level : Int) : String :=
  if level = critical then "CRITICAL"
  else if level = error then "ERROR"
  else if level = warning then "WARNING"
  else if level = info then "INFO"
  else if level = debug then "DEBUG"
  else if level = 0 then "NOTSET"
  else s!"Level {level}"

end AmountProofs.Log
