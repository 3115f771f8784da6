import Assay.Data.Key
import Assay.Text.Quoted

/-!
# Settings of a run

A `Config` names the handle that records coverage, the function whose calls are assertions, the
value that stands in for an empty string, and the time that one evaluation may take. `Settings` are
the same values before they are checked, when they may be any data, and `Settings.check` is the
only way to a `Config`, so a `Config` always has proper names, no empty string to stand in for an
empty string, and some time.
-/

set_option autoImplicit false

namespace Assay

/-- Whether a code point may start a name. -/
def CodePoint.startsName (c : CodePoint) : Bool := c.isAsciiLetter || c == '_' || c == '$'

/-- Whether a code point may stand in a name behind its start. -/
def CodePoint.continuesName (c : CodePoint) : Bool := c.startsName || c.isDigit

/-- Whether a text is a name of ASCII letters, digits, `_` and `$` that starts with no digit. -/
def Text.isName : Text → Bool
  | [] => false
  | c :: rest => c.startsName && rest.all CodePoint.continuesName

/-- Whether data is the empty text. -/
def Data.isEmptyText : Data → Bool
  | .text [] => true
  | _ => false

/-- The checked settings of a run. -/
structure Config where
  /-- The name of the handle that records coverage. -/
  handle : Text
  /-- The name of the function whose calls are assertions. -/
  assertion : Text
  /-- The value that stands in for an empty string, a text unless someone chose otherwise. -/
  sentinel : Data
  /-- The time for one evaluation in milliseconds. -/
  timeout : Data
  /-- Whether each mutant is logged and each target listed. -/
  detail : Bool
  /-- The handle is a name. -/
  handle_isName : handle.isName = true
  /-- The assertion function is a name. -/
  assertion_isName : assertion.isName = true
  /-- The value that stands in is not an empty string itself. -/
  sentinel_not_empty : sentinel.isEmptyText = false
  /-- There is some time. -/
  timeout_pos : timeout.isPositive? = some true

/-- Settings before they are checked, with what holds if nothing is said. -/
structure Settings where
  /-- The name of the handle that records coverage. -/
  handle : Data := .text "__cov__"
  /-- The name of the function whose calls are assertions. -/
  assertion : Data := .text "__assert__"
  /-- The value that stands in for an empty string. -/
  sentinel : Data := .text "__mutated__"
  /-- The time for one evaluation in milliseconds. -/
  timeout : Data := .int 1000
  /-- Whether each mutant is logged and each target listed. -/
  detail : Data := .bool false

namespace Settings

/-- The settings with one of them set by its name, if there is one of that name. -/
def set? (s : Settings) (name : Text) (value : Data) : Option Settings :=
  if name == ("handle_name" : Text) then some { s with handle := value }
  else if name == ("assert_name" : Text) then some { s with assertion := value }
  else if name == ("string_sentinel" : Text) then some { s with sentinel := value }
  else if name == ("timeout_ms" : Text) then some { s with timeout := value }
  else if name == ("detail" : Text) then some { s with detail := value }
  else none

/-- The settings by their names. -/
def entries (s : Settings) : List (String × Data) :=
  [("handle_name", s.handle), ("assert_name", s.assertion), ("string_sentinel", s.sentinel),
   ("timeout_ms", s.timeout), ("detail", s.detail)]

/-- Why settings are refused. -/
inductive Fault where
  /-- The handle is no name. -/
  | badHandle (name : Text)
  /-- The assertion function is no name. -/
  | badAssertion (name : Text)
  /-- An empty string would stand in for an empty string. -/
  | emptySentinel
  /-- There is no time. -/
  | badTimeout (value : Data)
  /-- A name is no text, or the time is no number. -/
  | wrongType

/-- The words for refused settings. -/
def Fault.message : Fault → Text
  | .badHandle name => "Tracking handle name is not an identifier: " ++ name.quoted
  | .badAssertion name => "Assertion name is not an identifier: " ++ name.quoted
  | .emptySentinel => "String sentinel must not be empty"
  | .badTimeout value => "Timeout must be positive: " ++ value.plain
  | .wrongType => "wrong type"

/-- Checks the settings one after the other. -/
def check (s : Settings) : Except Fault Config :=
  match s.handle with
  | .text handle =>
    if hHandle : handle.isName = true then
      match s.assertion with
      | .text assertion =>
        if hAssertion : assertion.isName = true then
          if hSentinel : s.sentinel.isEmptyText = false then
            match hTimeout : s.timeout.isPositive? with
            | some true =>
              .ok ⟨handle, assertion, s.sentinel, s.timeout, s.detail.isTruthy,
                hHandle, hAssertion, hSentinel, hTimeout⟩
            | some false => .error (.badTimeout s.timeout)
            | none => .error .wrongType
          else .error .emptySentinel
        else .error (.badAssertion assertion)
      | _ => .error .wrongType
    else .error (.badHandle handle)
  | _ => .error .wrongType

end Settings

/-- The settings that hold if nothing is said. -/
def Config.default : Config :=
  ⟨"__cov__", "__assert__", .text "__mutated__", .int 1000, false, by decide, by decide, rfl, rfl⟩

end Assay
