import Mathlib.Data.List.Basic
import Mathlib.Data.List.Induction
import TemplateBuild.JavaScript.Token
import TemplateBuild.Module.Text
import TemplateBuild.Proofs.Text.Units

/-!
# What a module registers

The scanner that reads scripts reads a quoted name as one text with exactly the units of the name,
and stops right behind the closing quote, whatever follows there.  A quoted name stays on its line.

A module is read line by line.  A line that assigns to an entry of `templates` tells a name, by the
literal between the brackets, and a fragment, by what stands between `]=template(` and the end of
the statement.  What is read is what was written, unless a fragment spans lines.
-/

set_option autoImplicit false

namespace TemplateBuild.Literal

open JavaScript

/-! ## Escapes -/

theorem isLineEnd_eq_false_iff (character : Char) : Scan.isLineEnd character = false ↔
    character ≠ '\n' ∧ character ≠ '\r' ∧ character ≠ '\u2028' ∧ character ≠ '\u2029' := by
  simp only [Scan.isLineEnd, Bool.or_eq_false_iff, beq_eq_false_iff_ne, and_assoc]

theorem escape_plain {character : Char} (noBackslash : character ≠ '\\')
    (noQuote : character ≠ '\x27') (noLineEnd : Scan.isLineEnd character = false) :
    escape character = [character] := by
  obtain ⟨noFeed, noReturn, noSeparator, noParagraph⟩ :=
    (isLineEnd_eq_false_iff character).mp noLineEnd
  rw [escape, if_neg noBackslash, if_neg noQuote, if_neg noFeed, if_neg noReturn,
    if_neg noSeparator, if_neg noParagraph]

theorem escape_ne_nil (character : Char) : escape character ≠ [] := by
  rw [escape]
  repeat' split
  all_goals exact List.cons_ne_nil _ _

/-- Behind its backslash, an escape is read as the units of its character. -/
theorem escape_read (character : Char) (rest : List Char) :
    (∃ behind, escape character = '\\' :: behind ∧ behind.all (fun mark => !Scan.isLineEnd mark) ∧
      Scan.escape (behind ++ rest) = .ok (Units.ofCode character.toNat, false, rest)) ∨
    (escape character = [character] ∧ character ≠ '\\' ∧ character ≠ '\x27' ∧
      Scan.isLineEnd character = false) := by
  by_cases backslash : character = '\\'
  · subst backslash
    exact .inl ⟨['\\'], rfl, rfl, rfl⟩
  by_cases quote : character = '\x27'
  · subst quote
    exact .inl ⟨['\x27'], rfl, rfl, rfl⟩
  by_cases lineEnd : Scan.isLineEnd character = true
  · simp only [Scan.isLineEnd, Bool.or_eq_true, beq_iff_eq] at lineEnd
    rcases lineEnd with ((rfl | rfl) | rfl) | rfl
    · exact .inl ⟨['n'], rfl, rfl, rfl⟩
    · exact .inl ⟨['r'], rfl, rfl, rfl⟩
    · exact .inl ⟨['u', '2', '0', '2', '8'], rfl, rfl, rfl⟩
    · exact .inl ⟨['u', '2', '0', '2', '9'], rfl, rfl, rfl⟩
  · rw [Bool.not_eq_true] at lineEnd
    exact .inr ⟨escape_plain backslash quote lineEnd, backslash, quote, lineEnd⟩

/-! ## Reading -/

theorem quoted_escape (fuel : Nat) (character : Char) (rest : List Char) (seen : List UInt16) :
    Scan.quoted '\x27' (fuel + 1) (escape character ++ rest) seen false =
      Scan.quoted '\x27' fuel rest ((Units.ofCode character.toNat).reverse ++ seen) false := by
  rcases escape_read character rest with ⟨behind, shape, _, read⟩ |
    ⟨shape, noBackslash, noQuote, same⟩
  · rw [shape, List.cons_append, Scan.quoted]
    simp only [read]
    rfl
  · have noBreak : ¬ (character = '\n' ∨ character = '\r') := by
      rintro (rfl | rfl) <;> cases same
    rw [shape, List.singleton_append, Scan.quoted, if_neg noQuote, if_neg noBreak]
    exact noBackslash

/-- By induction on the text; the units read before stand in front in reverse. -/
theorem quoted_body (rest : List Char) : ∀ (text : List Char) (fuel : Nat) (seen : List UInt16),
    text.length < fuel →
      Scan.quoted '\x27' fuel (text.flatMap escape ++ '\x27' :: rest) seen false =
        .ok (.text (seen.reverse ++ text.flatMap fun character =>
          Units.ofCode character.toNat).toArray false, rest) := by
  intro text
  induction text with
  | nil =>
      intro fuel seen enough
      cases fuel with
      | zero => cases enough
      | succ fuel =>
          rw [List.flatMap_nil, List.nil_append, List.flatMap_nil, List.append_nil]
          rfl
  | cons character text ih =>
      intro fuel seen enough
      cases fuel with
      | zero => cases enough
      | succ fuel =>
          have left : text.length < fuel := Nat.lt_of_succ_lt_succ enough
          rw [List.flatMap_cons, List.append_assoc, quoted_escape, ih fuel _ left,
            List.reverse_append, List.reverse_reverse, List.append_assoc, List.flatMap_cons]

theorem length_le_length_flatMap_escape (text : List Char) :
    text.length ≤ (text.flatMap escape).length := by
  induction text with
  | nil => exact Nat.le_refl _
  | cons character text ih =>
      have some := List.length_pos_iff.mpr (escape_ne_nil character)
      rw [List.flatMap_cons, List.length_append, List.length_cons]
      omega

theorem quote_append (text rest : List Char) :
    quote text ++ rest = '\x27' :: (text.flatMap escape ++ '\x27' :: rest) := by
  rw [quote, List.append_assoc]
  rfl

theorem next_quote (text rest : List Char) :
    Scan.next (quote text ++ rest) = .ok (.text (Units.ofChars text) false, rest) := by
  have enough : text.length < (text.flatMap escape ++ '\x27' :: rest).length + 1 := by
    have short := length_le_length_flatMap_escape text
    rw [List.length_append]
    omega
  rw [quote_append]
  exact quoted_body rest text _ [] enough

/-! ## Lines -/

theorem isLineEnd_of_mem_escape {character mark : Char} (member : mark ∈ escape character) :
    Scan.isLineEnd mark = false := by
  rcases escape_read character [] with ⟨behind, shape, plain, _⟩ | ⟨shape, _, _, plain⟩
  · rw [shape, List.mem_cons] at member
    rcases member with rfl | member
    · rfl
    · rw [List.all_eq_true] at plain
      have known := plain mark member
      rwa [Bool.not_eq_true'] at known
  · rw [shape, List.mem_singleton] at member
    exact member ▸ plain

/-- No line ends within a quoted name. -/
theorem isLineEnd_of_mem_quote {text : List Char} {mark : Char} (member : mark ∈ quote text) :
    Scan.isLineEnd mark = false := by
  rw [quote, List.mem_append, List.mem_cons, List.mem_flatMap, List.mem_singleton] at member
  rcases member with (rfl | ⟨character, _, member⟩) | rfl
  · rfl
  · exact isLineEnd_of_mem_escape member
  · rfl

/-- Whatever follows a quoted text, the scanner reads exactly the quoted text there.  Its value is
the text, without an octal escape, and it stays on its line. -/
theorem scan_quote (value : String) (rest : List Char) :
    Scan.next (quote value.toList ++ rest) = .ok (.text (Units.ofString value) false, rest) ∧
      (Units.ofString value).toString = value ∧
      ∀ mark ∈ quote value.toList,
        mark ≠ '\n' ∧ mark ≠ '\r' ∧ mark ≠ '\u2028' ∧ mark ≠ '\u2029' := by
  refine ⟨next_quote value.toList rest, ?_, fun mark member => ?_⟩
  · rw [Units.toString, Units.ofString, Units.toChars_ofChars, String.ofList_toList]
  · exact (isLineEnd_eq_false_iff mark).mp (isLineEnd_of_mem_quote member)

end TemplateBuild.Literal

namespace TemplateBuild.ModuleText

open JavaScript

/-! ## Reading a module -/

/-- The text of a string literal in single quotes, and what follows it. -/
def literal? (input : List Char) : Option (String × List Char) :=
  match input with
  | '\x27' :: _ =>
    match Scan.next input with
    | .ok (.text value _, rest) => some (value.toString, rest)
    | _ => none
  | _ => none

def registration? (line : List Char) : Option CompiledTemplate := do
  let (name, behind) ← literal? (← line.dropPrefix? "templates[".toList)
  let statement ← behind.dropPrefix? "]=template(".toList
  let fragment ← statement.dropSuffix? ");".toList
  return ⟨name, String.ofList fragment⟩

def registrations (text : String) : List CompiledTemplate :=
  (text.toList.splitOn '\n').filterMap registration?

/-! ## Loading a module -/

/-- The fragments, each under its name. -/
abbrev Registry := String → Option String

def register (registry : Registry) (template : CompiledTemplate) : Registry :=
  Function.update registry template.logicalName (some template.fragment)

/-- The assignments are carried out in order. -/
def load (registry : Registry) (templates : List CompiledTemplate) : Registry :=
  templates.foldl register registry

theorem load_apply (registry : Registry) (templates : List CompiledTemplate) (name : String) :
    load registry templates name =
      ((templates.reverse.find? fun template => template.logicalName = name).map
        CompiledTemplate.fragment).or (registry name) := by
  induction templates using List.reverseRecOn with
  | nil => rfl
  | append_singleton templates last ih =>
      rw [load, List.foldl_append, List.foldl_cons, List.foldl_nil, List.reverse_append,
        List.reverse_singleton, List.singleton_append, List.find?_cons, register,
        Function.update_apply]
      by_cases same : last.logicalName = name
      · rw [if_pos same.symm, decide_eq_true same]
        rfl
      · rw [if_neg (Ne.symm same), decide_eq_false same]
        exact ih

/-! ## One line -/

/-- The assignment without the end of its line. -/
def statement (template : CompiledTemplate) : List Char :=
  "templates[".toList ++ (Literal.quote template.logicalName.toList ++
    ("]=template(".toList ++ (template.fragment.toList ++ ");".toList)))

theorem registration_eq (template : CompiledTemplate) :
    registration template = statement template ++ ['\n'] := by
  have ends : ");\n".toList = ");".toList ++ ['\n'] := rfl
  unfold registration statement
  simp only [ends, List.append_assoc]

theorem literal_quote (text rest : List Char) :
    literal? (Literal.quote text ++ rest) = some (String.ofList text, rest) := by
  have read := Literal.next_quote text rest
  rw [Literal.quote_append] at read ⊢
  simp only [literal?, read, Units.toString, Units.toChars_ofChars]

theorem dropPrefix_append (mark rest : List Char) : (mark ++ rest).dropPrefix? mark = some rest :=
  List.dropPrefix?_append_of_beq rest (beq_self_eq_true mark)

theorem dropSuffix_append (text mark : List Char) : (text ++ mark).dropSuffix? mark = some text :=
  List.dropSuffix?_eq_some_iff.mpr ⟨mark, rfl, beq_self_eq_true mark⟩

theorem registration_statement (template : CompiledTemplate) :
    registration? (statement template) = some template := by
  unfold registration? statement
  simp only [dropPrefix_append, literal_quote, dropSuffix_append, String.ofList_toList,
    Option.bind_eq_bind, Option.bind_some]
  rfl

theorem newline_notMem_statement {template : CompiledTemplate}
    (onOneLine : '\n' ∉ template.fragment.toList) : '\n' ∉ statement template := by
  have named : '\n' ∉ Literal.quote template.logicalName.toList := by
    intro member
    exact absurd (Literal.isLineEnd_of_mem_quote member) (by decide)
  unfold statement
  simp only [List.mem_append, not_or]
  exact ⟨by decide, named, by decide, onOneLine, by decide⟩

/-! ## The whole text -/

theorem registrations_lines {templates : List CompiledTemplate} (behind : List Char)
    (onOneLine : ∀ template ∈ templates, '\n' ∉ template.fragment.toList) :
    ((templates.flatMap registration ++ behind).splitOn '\n').filterMap registration? =
      templates ++ (behind.splitOn '\n').filterMap registration? := by
  induction templates with
  | nil => rfl
  | cons template templates ih =>
      rw [List.forall_mem_cons] at onOneLine
      rw [List.flatMap_cons, registration_eq, List.append_assoc, List.append_assoc,
        List.singleton_append,
        List.splitOn_append_cons_self_of_not_mem (newline_notMem_statement onOneLine.1),
        List.filterMap_cons_some (registration_statement template), ih onOneLine.2]
      rfl

/-- The opening begins an expression and ends a line, and none of its lines registers anything. -/
theorem opening_shape : opening.toList.head? = some '(' ∧ opening.toList.getLast? = some '\n' ∧
    (opening.toList.dropLast.splitOn '\n').filterMap registration? = [] := by
  decide +kernel

theorem registrations_opening (behind : List Char) :
    ((opening.toList ++ behind).splitOn '\n').filterMap registration? =
      (behind.splitOn '\n').filterMap registration? := by
  obtain ⟨_, isLast, none⟩ := opening_shape
  obtain ⟨before, ended⟩ := List.getLast?_eq_some_iff.mp isLast
  rw [ended, List.dropLast_concat] at none
  rw [ended, List.append_assoc, List.singleton_append, List.splitOn_append_cons_self,
    List.filterMap_append, none, List.nil_append]

theorem registrations_closing : (closing.toList.splitOn '\n').filterMap registration? = [] := by
  decide

theorem registrations_render {templates : List CompiledTemplate}
    (onOneLine : ∀ template ∈ templates, '\n' ∉ template.fragment.toList) :
    registrations (render templates) = templates := by
  rw [registrations, render, String.toList_ofList, List.append_assoc, registrations_opening,
    registrations_lines _ onOneLine, registrations_closing, List.append_nil]

theorem render_injective {first second : List CompiledTemplate}
    (firstOnOneLine : ∀ template ∈ first, '\n' ∉ template.fragment.toList)
    (secondOnOneLine : ∀ template ∈ second, '\n' ∉ template.fragment.toList)
    (same : render first = render second) : first = second := by
  rw [← registrations_render firstOnOneLine, same, registrations_render secondOnOneLine]

/-- A module is read as the templates it was rendered from, and no other templates have its text.
Loading it puts the fragment of the last template of a name under that name. -/
theorem registrations_determined {templates : List CompiledTemplate}
    (onOneLine : ∀ template ∈ templates, '\n' ∉ template.fragment.toList) :
    registrations (render templates) = templates ∧
      (∀ others : List CompiledTemplate,
        (∀ template ∈ others, '\n' ∉ template.fragment.toList) →
          render others = render templates → others = templates) ∧
      ∀ (registry : Registry) (name : String),
        load registry (registrations (render templates)) name =
          ((templates.reverse.find? fun template => template.logicalName = name).map
            CompiledTemplate.fragment).or (registry name) := by
  refine ⟨registrations_render onOneLine, fun others othersOnOneLine same => ?_, ?_⟩
  · exact render_injective othersOnOneLine onOneLine same
  · intro registry name
    rw [registrations_render onOneLine, load_apply]

/-- Names and fragments that look like module code, and two templates of one name. -/
def hostile : List CompiledTemplate :=
  [⟨"a\x27]=template(\n", "\x7b\x7d"⟩, ⟨"b", ");\r templates[\x27c\x27]=template("⟩,
    ⟨"\\\x27\u2028", ");"⟩, ⟨"b", "]=template(1);"⟩]

theorem registrations_of_hostile :
    (∀ template ∈ hostile, '\n' ∉ template.fragment.toList) ∧
      registrations (render hostile) = hostile ∧
      load (fun _ => none) (registrations (render hostile)) "b" = some "]=template(1);" ∧
      load (fun _ => none) (registrations (render hostile)) "c" = none := by
  have onOneLine : ∀ template ∈ hostile, '\n' ∉ template.fragment.toList := by decide
  obtain ⟨read, _, loaded⟩ := registrations_determined onOneLine
  refine ⟨onOneLine, read, ?_, ?_⟩
  · rw [loaded]
    decide
  · rw [loaded]
    decide

end TemplateBuild.ModuleText
