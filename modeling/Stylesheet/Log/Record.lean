import Stylesheet.Value

namespace Stylesheet.Log

abbrev Level := Int

def debug : Level := 10
def info : Level := 20
def warning : Level := 30
def error : Level := 40
def critical : Level := 50

def levelName (l : Level) : String :=
  if l = debug then "DEBUG"
  else if l = info then "INFO"
  else if l = warning then "WARNING"
  else if l = error then "ERROR"
  else if l = critical then "CRITICAL"
  else if l = 0 then "NOTSET"
  else "Level " ++ Number.intText l

def mainLogger : String := "py2sass"

/-- `fields` are merged into a JSON line if they count as yes. -/
structure Record where
  logger : String := mainLogger
  level : Level
  template : Value
  args : List Value := []
  fields : Value := .none
  failure : Option Fault := none
deriving Inhabited

def Record.plain (logger : String) (level : Level) (message : String) : Record :=
  { logger, level, template := .text message }

end Stylesheet.Log
