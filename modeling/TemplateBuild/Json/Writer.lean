/-!
# Writing JSON

Values as indented text, two blanks a level.  Only what has to be is escaped.
-/

set_option autoImplicit false

namespace TemplateBuild.Json

inductive Value where
  | boolean (value : Bool)
  | number (value : Nat)
  | text (value : String)
  | list (items : List Value)
  | object (members : List (String × Value))

def hexDigit (value : Nat) : Char :=
  Nat.digitChar value

def escapeChar (character : Char) : List Char :=
  if character = '"' then ['\\', '"']
  else if character = '\\' then ['\\', '\\']
  else if character = '\n' then ['\\', 'n']
  else if character = '\r' then ['\\', 'r']
  else if character = '\t' then ['\\', 't']
  else if character = '\x08' then ['\\', 'b']
  else if character = '\x0C' then ['\\', 'f']
  else if character.toNat < 0x20 then
    ['\\', 'u', '0', '0', hexDigit (character.toNat / 16), hexDigit (character.toNat % 16)]
  else [character]

def quoted (text : String) : String :=
  String.ofList ('"' :: text.toList.flatMap escapeChar ++ ['"'])

def indent (level : Nat) : String :=
  String.ofList (List.replicate (2 * level) ' ')

mutual

def Value.pretty (level : Nat) : Value → String
  | .boolean value => if value then "true" else "false"
  | .number value => toString value
  | .text value => quoted value
  | .list items =>
    if items.isEmpty then "[]"
    else "[\n" ++ prettyItems (level + 1) items ++ "\n" ++ indent level ++ "]"
  | .object members =>
    if members.isEmpty then "\x7b\x7d"
    else "\x7b\n" ++ prettyMembers (level + 1) members ++ "\n" ++ indent level ++ "\x7d"

def prettyItems (level : Nat) : List Value → String
  | [] => ""
  | [item] => indent level ++ item.pretty level
  | item :: rest => indent level ++ item.pretty level ++ ",\n" ++ prettyItems level rest

def prettyMembers (level : Nat) : List (String × Value) → String
  | [] => ""
  | [(name, value)] => indent level ++ quoted name ++ ": " ++ value.pretty level
  | (name, value) :: rest =>
    indent level ++ quoted name ++ ": " ++ value.pretty level ++ ",\n" ++
      prettyMembers level rest

end

end TemplateBuild.Json
