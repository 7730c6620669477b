import MeteredChecker.Log
import MeteredChecker.Text.Blank
import MeteredChecker.Text.Utf8

/-!
# The developer console

The log of a page goes to the console of its browser, where each level has a
method of its own.  Events that matter less than the console is set to are left
out; unless it is set otherwise, that leaves out `debug`.

An event that is not left out is formatted as a line, which begins with the level,
set to the right in five columns, and ends with a line break.  What formats it knows
of octets only, so between it and the console there is a `Writer`, one for each
event.  A writer keeps what is written to it, in as many pieces as it comes, and
calls the console when it is closed: once, with all of it, read as UTF-8 and without
the blanks at its end.  So an event is one call, even if its text has line breaks in
it.  A writer that has nothing but blanks makes no call.
-/

namespace MeteredChecker
namespace Page

namespace Console

/-- A call of a method of the console. -/
structure Line where
  method : String
  text : String
  deriving DecidableEq, Repr

/-- The method for a level. -/
def method : Level → String
  | .error => "error"
  | .warn => "warn"
  | .info => "info"
  | .debug => "debug"

/-! ## Writers -/

/-- What is written of one event. -/
structure Writer where
  level : Level
  octets : List UInt8

namespace Writer

/-- A writer for an event of a level, with nothing written yet. -/
def new (level : Level) : Writer := ⟨level, []⟩

/-- Takes octets in, all of them. -/
def write (w : Writer) (octets : List UInt8) : Writer := { w with octets := w.octets ++ octets }

/-- The call that a writer makes when it is closed. -/
def close (w : Writer) : Option Line :=
  let text := Text.trimEndChars (Text.Utf8.decodeLossy w.octets)
  if text.isEmpty then none else some ⟨method w.level, String.ofList text⟩

end Writer

/-! ## Events -/

/-- An event as it is formatted for the console. -/
def format (e : LogEvent) : String :=
  let name := e.level.name
  let column := String.ofList (List.replicate (5 - name.length) ' ')
  column ++ name ++ " " ++ e.target ++ ": " ++ e.text ++ "\n"

/-- An event matters enough for a console that is set to a level. -/
def isShown (threshold : Level) (e : LogEvent) : Bool := e.level.rank ≤ threshold.rank

/-- The call that an event makes, if it matters enough. -/
def line? (threshold : Level) (e : LogEvent) : Option Line :=
  if isShown threshold e then ((Writer.new e.level).write (format e).toUTF8.toList).close
  else none

/-- The calls that a log makes, in order. -/
def lines (threshold : Level) (log : List LogEvent) : List Line := log.filterMap (line? threshold)

/-- The level of a console that is not set to any. -/
def defaultLevel : Level := .info

end Console
end Page
end MeteredChecker
