/-
  Which lines of the log are written.

  A filter is a list of directives with commas between them.  A line is written if its level is at
  most as verbose as the most specific of the directives that cover it says, and of two that are as
  specific, the later one counts.  What no directive covers is not written.  Directives that are
  restricted to spans or to values of fields do not matter for the lines of a start.
-/
import Gatehouse.CommandLine.LogDirective
import Gatehouse.Event

namespace Gatehouse

/-- How verbose a level is. -/
def LogLevel.verbosity : LogLevel → Nat
  | .error => 1
  | .warn => 2
  | .info => 3
  | .debug => 4
  | .trace => 5

/-- A filter of the log. -/
abbrev LogFilter := List LogDirective

namespace LogFilter

/-- Reads a filter: right only if all its directives are. -/
def ofText? (s : String) : Option LogFilter :=
  ((Text.split ',' s).filter (· != "")).mapM LogDirective.ofText?

/-- The filter if none is given or the given one is wrong: the program's own targets, which share
the beginning of their names, may be more verbose than others. -/
def standard : LogFilter := [{ verbosity := 3 }, { target := some "egal_", verbosity := 4 }]

/-- The filter that a variable asks for. -/
def ofVariable (value : Option String) : LogFilter := (value.bind ofText?).getD standard

/-- How verbose a line may be that has a target and these fields. -/
def bound (f : LogFilter) (target : String) (fields : List String) : Nat :=
  match f.filter (·.covers target fields) with
  | [] => 0
  | d :: rest => (rest.foldl LogDirective.max d).verbosity

/-- Tells whether a line is written. -/
def allows (f : LogFilter) (target : String) (level : LogLevel) (fields : List String) : Bool :=
  level.verbosity ≤ f.bound target fields

example : bound [{ verbosity := 3 }, { target := some "ab", verbosity := 0 }] "abc" [] = 0 := by
  decide

end LogFilter

end Gatehouse
