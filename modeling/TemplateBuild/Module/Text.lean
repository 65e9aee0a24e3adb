/-!
# The text of a module

A module registers compiled templates, one assignment a line, between a fixed opening and
a fixed closing.  Loading it next to the engine puts every fragment under its name.

The name is a string literal in single quotes.  Quotes, backslashes and the four line terminators
are escaped; every other character stands for itself.
-/

set_option autoImplicit false

namespace TemplateBuild

/-- A template as the engine compiled it. -/
structure CompiledTemplate where
  logicalName : String
  fragment : String
deriving DecidableEq, Repr

namespace Literal

def escape (character : Char) : List Char :=
  if character = '\\' then ['\\', '\\']
  else if character = '\x27' then ['\\', '\x27']
  else if character = '\n' then ['\\', 'n']
  else if character = '\r' then ['\\', 'r']
  else if character = '\u2028' then ['\\', 'u', '2', '0', '2', '8']
  else if character = '\u2029' then ['\\', 'u', '2', '0', '2', '9']
  else [character]

def quote (text : List Char) : List Char :=
  '\x27' :: text.flatMap escape ++ ['\x27']

end Literal

namespace ModuleText

def opening : String :=
  "(function() \x7b\n  var template = Handlebars.template, templates = " ++
    "Handlebars.templates = Handlebars.templates || \x7b\x7d;\n"

def closing : String := "\x7d)();\n"

/-- The assignment that registers one template. -/
def registration (template : CompiledTemplate) : List Char :=
  "templates[".toList ++ Literal.quote template.logicalName.toList ++
    "]=template(".toList ++ template.fragment.toList ++ ");\n".toList

def render (templates : List CompiledTemplate) : String :=
  String.ofList (opening.toList ++ templates.flatMap registration ++ closing.toList)

end ModuleText

end TemplateBuild
