import Assay.Data.Basic

/-!
# Issues

What is told to the user when a program cannot be worked on: a message and, for some issues, a
suggestion of what to do about it. Both may be any data, and an issue whose message is no text has
no text either. An issue is raised from arguments, whose number and meaning depend on its topic.
-/

set_option autoImplicit false

namespace Assay

/-- A message with an optional suggestion. -/
structure Issue where
  /-- What is wrong. -/
  message : Data
  /-- What to do about it. -/
  suggestion : Data := .null

namespace Issue

/-- The message, followed by the suggestion if there is one that says something. -/
def text? (issue : Issue) : Option Text :=
  match issue.message with
  | .text message =>
    if issue.suggestion.isTruthy then
      some (message ++ "\n\nSuggestion: " ++ issue.suggestion.plain)
    else some message
  | _ => none

/-- An issue with a place in a program: the message ends with line and column. -/
def located (message line column suggestion : Data) : Issue :=
  ⟨.text (message.plain ++ " (" ++ line.plain ++ ":" ++ column.plain ++ ")"), suggestion⟩

/-- The message on kinds of nodes that can be altered but that nothing handles. -/
def missingHandlersMessage (kinds : List Text) : Text :=
  "Mutation handlers not implemented: " ++ Text.join ", " kinds

/-- The suggestion for kinds of nodes that nothing handles. -/
def missingHandlersSuggestion : Text := "Add a visit_<Kind> method for each listed node kind."

/-- The issue of kinds of nodes that can be altered but that nothing handles. -/
def missingHandlers (kinds : List Text) : Issue :=
  ⟨.text (missingHandlersMessage kinds), .text missingHandlersSuggestion⟩

/-- What an issue is about. -/
inductive Topic where
  /-- Any issue. -/
  | general
  /-- A program that cannot be read. -/
  | parse
  /-- A tree that cannot be printed. -/
  | print
  /-- Kinds of nodes that nothing handles. -/
  | missingHandlers
  deriving DecidableEq

/-- The name of a topic. -/
def Topic.name : Topic → String
  | .general => "JsProbeError"
  | .parse => "ParseError"
  | .print => "CodegenError"
  | .missingHandlers => "MissingHandlerError"

/-- The topic of a name. -/
def Topic.ofName? (name : Text) : Option Topic :=
  [Topic.general, .parse, .print, .missingHandlers].find? fun topic =>
    Text.ofString topic.name == name

/-- The texts that data runs through, if it runs through texts only. -/
def texts? (data : Data) : Option (List Text) := do
  (← data.elements?).mapM fun element =>
    match element with
    | .text value => some value
    | _ => none

/-- The issue on a topic that the arguments make, if they make one. -/
def ofArguments? (topic : Topic) (arguments : List Data) : Option Issue :=
  match topic, arguments with
  | .parse, [message, line, column, _] => some (located message line column .null)
  | .parse, [message, line, column, _, suggestion] =>
    some (located message line column suggestion)
  | .missingHandlers, [kinds] => (texts? kinds).map missingHandlers
  | .general, [message] | .print, [message] => some ⟨message, .null⟩
  | .general, [message, suggestion] | .print, [message, suggestion] => some ⟨message, suggestion⟩
  | _, _ => none

end Issue

end Assay
