import TemplateBuild.JavaScript.Objects

/-!
# Values as they are shown

Texts are shown in quotes, objects with their properties.  Showing a value runs no script.
-/

set_option autoImplicit false

namespace TemplateBuild.JavaScript.Display

def property? (objects : Array Object) (address : Nat) (name : String) : Option Property :=
  (Property.find? objects (Units.ofString name) Access.longestChain address).map (·.2)

/-- The text of a data property, or a default. -/
def textProperty (objects : Array Object) (address : Nat) (name default : String) : String :=
  match property? objects address name with
  | some ⟨.value (.text units) _, _, _⟩ => units.toString
  | _ => default

/-- Name and message with a colon between them, if neither is empty. -/
def failure (objects : Array Object) (address : Nat) : String :=
  let name := textProperty objects address "name" "<error>"
  let message := textProperty objects address "message" ""
  if name.isEmpty then message
  else if message.isEmpty then name
  else name ++ ": " ++ message

def quoted (units : Units) : String :=
  "\"" ++ Units.toString units ++ "\""

def signedNumber (value : Float) : String :=
  if value == 0.0 && value.toBits != 0 then "-0" else Numeral.text value

def accessorName (getter setter : Value) : String :=
  match getter.isUndefined, setter.isUndefined with
  | false, false => "Getter & Setter"
  | false, true => "Getter"
  | true, false => "Setter"
  | true, true => "No Getter/Setter"

def lines (indent : Nat) (entries : List (String × String)) : String :=
  let space := String.ofList (List.replicate indent ' ')
  "\x7b\n" ++
    ",\n".intercalate (entries.map fun (key, shown) =>
      space ++ String.ofList (List.replicate 4 ' ') ++ key ++ ": " ++ shown) ++
    "\n" ++ space ++ "\x7d"

def brackets (name : String) (items : List String) : String :=
  name ++ " \x7b " ++ ", ".intercalate items ++ " \x7d"

/-- Objects are shown inside objects as deep as this. -/
def deepest : Nat := 64

/-- A value, shown inside objects that are indented so far; `outer` are their addresses. -/
def value (objects : Array Object) : Nat → Nat → List Nat → Value → String
  | _, _, _, .undefined => "undefined"
  | _, _, _, .null => "null"
  | _, _, _, .boolean held => if held then "true" else "false"
  | _, _, _, .number held => signedNumber held
  | _, _, _, .text held => quoted held
  | 0, _, _, .object _ => "[Cycle]"
  | depth + 1, indent, outer, .object address =>
    if outer.contains address then "[Cycle]"
    else
      let inner := value objects depth (indent + 4) (address :: outer)
      let object := objects[address]?.getD default
      match object.kind with
      | .failure => failure objects address
      | .closure _ _ _ _ | .builtin _ _ =>
        "[Function: " ++ textProperty objects address "name" "" ++ "]"
      | .array elements =>
        if elements.isEmpty then "[]"
        else "[ " ++ ", ".intercalate (elements.toList.map fun
          | some element => inner element
          | none => "<empty>") ++ " ]"
      | .boxed (.text held) => "String \x7b " ++ quoted held ++ " \x7d"
      | .boxed (.number held) => "Number \x7b " ++ signedNumber held ++ " \x7d"
      | .boxed (.boolean held) => "Boolean \x7b " ++ (if held then "true" else "false") ++ " \x7d"
      | .map entries =>
        let entries := entries.toList.filterMap id
        if entries.isEmpty then "Map(0)"
        else brackets "Map" (entries.map fun (key, held) => inner key ++ " \u2192 " ++ inner held)
      | .set entries =>
        let entries := entries.toList.filterMap id
        if entries.isEmpty then "Set(0)" else brackets "Set" (entries.map inner)
      | _ =>
        lines indent ((Property.ownKeys object).map fun (key, _) =>
          (key.toString, match Property.own? object key with
            | some ⟨.value held _, _, _⟩ => inner held
            | some ⟨.accessor getter setter, _, _⟩ => accessorName getter setter
            | none => ""))

end TemplateBuild.JavaScript.Display
