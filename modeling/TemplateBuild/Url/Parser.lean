import TemplateBuild.Url.Basic

/-!
# Reading URLs

`Url.parse` reads a URL that stands by itself, and `Url.join` one that may be relative to
another.  White space around the text does not count, nor do line breaks in it.
-/

set_option autoImplicit false

namespace TemplateBuild.Url

/-- The text without what surrounds it, and without tabs and line breaks. -/
def clean (text : List Char) : List Char :=
  let outside := fun (character : Char) => character.toNat ≤ 0x20
  let trimmed := ((text.dropWhile outside).reverse.dropWhile outside).reverse
  trimmed.filter fun character => !Escape.isAmong "\t\n\r" character

def isLetter (character : Char) : Bool :=
  ('a' ≤ character && character ≤ 'z') || ('A' ≤ character && character ≤ 'Z')

def isSchemeCharacter (character : Char) : Bool :=
  isLetter character || Host.isDecimal character || Escape.isAmong "+-." character

/-- The scheme in front of a colon, and the rest. -/
def splitScheme? (text : List Char) : Option (String × List Char) :=
  match text.span isSchemeCharacter with
  | (first :: others, ':' :: rest) =>
    if isLetter first then some (String.ofList ((first :: others).map Host.lower), rest) else none
  | _ => none

/-- Where paths of a scheme are divided. -/
def isSlash (special : Bool) (character : Char) : Bool :=
  character == '/' || (special && character == '\\')

def endsPath (character : Char) : Bool :=
  character == '?' || character == '#'

/-! ## Paths, queries and fragments -/

def isSingleDot (piece : List Char) : Bool :=
  [".", "%2e", "%2E"].contains (String.ofList piece)

def isDoubleDot (piece : List Char) : Bool :=
  ["..", ".%2e", "%2e.", "%2e%2e"].contains (String.ofList (piece.map Host.lower))

/-- Adds pieces to a path, following the dots. -/
def addPieces : List String → List (List Char) → List String
  | kept, [] => kept
  | kept, [last] =>
    if isDoubleDot last then kept.dropLast ++ [""]
    else if isSingleDot last then kept ++ [""]
    else kept ++ [String.ofList (Escape.encode Escape.inPath last)]
  | kept, piece :: rest =>
    if isDoubleDot piece then addPieces kept.dropLast rest
    else if isSingleDot piece then addPieces kept rest
    else addPieces (kept ++ [String.ofList (Escape.encode Escape.inPath piece)]) rest

def splitPieces (special : Bool) : List Char → List (List Char)
  | [] => [[]]
  | first :: rest =>
    if isSlash special first then [] :: splitPieces special rest
    else
      match splitPieces special rest with
      | [] => [[first]]
      | piece :: pieces => (first :: piece) :: pieces

/-- The query and the fragment, which follow the path. -/
def tailOf (special : Bool) (text : List Char) : Option String × Option String :=
  let escapes := if special then Escape.inSpecialQuery else Escape.inQuery
  let fragmentOf := fun (text : List Char) =>
    match text with
    | '#' :: fragment => some (String.ofList (Escape.encode Escape.inFragment fragment))
    | _ => none
  match text with
  | '?' :: rest =>
    let (query, after) := rest.span (· ≠ '#')
    (some (String.ofList (Escape.encode escapes query)), fragmentOf after)
  | text => (none, fragmentOf text)

/-- A URL with a path that begins after pieces that are there already. -/
def withPath (scheme : String) (authority : Option Authority) (kept : List String)
    (text : List Char) : Url :=
  let special := isSpecial scheme
  let (path, after) := text.span fun character => !endsPath character
  let (query, fragment) := tailOf special after
  ⟨scheme, authority, .segments (addPieces kept (splitPieces special path)), query, fragment⟩

/-- A path behind an authority: well-known schemes have one always. -/
def withPathAfter (scheme : String) (authority : Authority) (text : List Char) : Url :=
  let special := isSpecial scheme
  match text with
  | first :: rest =>
    if isSlash special first then withPath scheme (some authority) [] rest
    else if special then withPath scheme (some authority) [] text
    else
      let (query, fragment) := tailOf special text
      ⟨scheme, some authority, .segments [], query, fragment⟩
  | [] => ⟨scheme, some authority, .segments (if special then [""] else []), none, none⟩

/-! ## Authorities -/

/-- The text in front of the last at sign, if there is one. -/
def splitUserinfo (text : List Char) : Option (List Char) × List Char :=
  match text.reverse.span (· ≠ '@') with
  | (_, []) => (none, text)
  | (host, _ :: user) => (some user.reverse, host.reverse)

/-- The host and what follows its colon. -/
def splitPort (text : List Char) : List Char × Option (List Char) :=
  let rec scan : Bool → List Char → List Char × Option (List Char)
    | _, [] => ([], none)
    | inside, first :: rest =>
      if first = ':' ∧ inside = false then ([], some rest)
      else
        let inside := if first = '[' then true else if first = ']' then false else inside
        let (host, port) := scan inside rest
        (first :: host, port)
  scan false text

def greatestPort : Nat := 65535

def parsePort (scheme : String) (text : List Char) : Except UrlFault (Option Nat) :=
  if text.isEmpty then .ok none
  else if !text.all Host.isDecimal then .error .invalidPort
  else
    match Host.numberIn? 10 text with
    | some port =>
      if port > greatestPort then .error .invalidPort
      else .ok (if usualPort? scheme = some port then none else some port)
    | none => .error .invalidPort

def parseHost (scheme : String) (text : List Char) (hasPort : Bool) :
    Except UrlFault (Option Host) :=
  if isSpecial scheme then
    if text.isEmpty then .error .emptyHost else (Host.parse text).map some
  else if text.isEmpty then
    if hasPort then .error .emptyHost else .ok none
  else (Host.parseOpaque text).map some

/-- The user's name, and the password behind the first colon. -/
def parseUserinfo (text : List Char) : String × Option String :=
  let encoded := fun (part : List Char) => String.ofList (Escape.encode Escape.inUserinfo part)
  match text.span (· ≠ ':') with
  | (name, []) => (encoded name, none)
  | (name, [_]) => (encoded name, none)
  | (name, _ :: password) => (encoded name, some (encoded password))

def parseAuthority (scheme : String) (text : List Char) : Except UrlFault Authority := do
  let (userinfo, rest) := splitUserinfo text
  if userinfo.isSome && rest.isEmpty then throw .emptyHost
  let (hostText, portText) := splitPort rest
  let host ← parseHost scheme hostText portText.isSome
  let port ← match portText with
    | some text => parsePort scheme text
    | none => pure none
  let (username, password) := match userinfo with
    | some userinfo => parseUserinfo userinfo
    | none => ("", none)
  return ⟨username, password, host, port⟩

/-- A URL from what follows the slashes in front of its authority. -/
def afterSlashes (scheme : String) (text : List Char) : Except UrlFault Url := do
  let special := isSpecial scheme
  let (authority, rest) := text.span fun character =>
    !(isSlash special character || endsPath character)
  return withPathAfter scheme (← parseAuthority scheme authority) rest

/-! ## Whole URLs -/

def fileAuthority : Authority := ⟨"", none, none, none⟩

/-- A file's URL; its host may be missing, and the local one counts as missing. -/
def parseFile (base : Option Url) (text : List Char) : Except UrlFault Url :=
  let sameBase := base.filter fun base => base.scheme == "file"
  match text with
  | [] =>
    match sameBase with
    | some base => .ok { base with fragment := none }
    | none => .ok (withPath "file" (some fileAuthority) [] [])
  | first :: rest =>
    if isSlash true first then
      match rest with
      | second :: rest =>
        if isSlash true second then do
          let (hostText, after) := rest.span fun character =>
            !(isSlash true character || endsPath character)
          let host ←
            if hostText.isEmpty then pure none
            else do
              let host ← Host.parse hostText
              pure (if host = .name "localhost" then none else some host)
          return withPathAfter "file" ⟨"", none, host, none⟩ after
        else .ok (withPath "file" ((sameBase.bind (·.authority)).or (some fileAuthority)) []
          (second :: rest))
      | [] => .ok (withPath "file" ((sameBase.bind (·.authority)).or (some fileAuthority)) [] [])
    else
      match sameBase with
      | some base => .ok (relativeTo base text)
      | none => .ok (withPath "file" (some fileAuthority) [] text)
where
  relativeTo (base : Url) (text : List Char) : Url :=
    let kept := match base.path with
      | .segments pieces => pieces
      | .whole _ => []
    match text with
    | first :: _ =>
      if endsPath first then
        let (query, fragment) := tailOf true text
        { base with query := if first = '?' then query else base.query, fragment := fragment }
      else withPath base.scheme base.authority kept.dropLast text
    | [] => base

/-- A URL relative to a base with a path of pieces. -/
def parseRelative (base : Url) (kept : List String) (text : List Char) : Except UrlFault Url :=
  let special := isSpecial base.scheme
  match text with
  | [] => .ok { base with fragment := none }
  | first :: rest =>
    if endsPath first then
      let (query, fragment) := tailOf special text
      .ok { base with query := if first = '?' then query else base.query, fragment := fragment }
    else if isSlash special first then
      match rest with
      | second :: others =>
        if isSlash special second then
          afterSlashes base.scheme
            (if special then others.dropWhile (isSlash special) else others)
        else .ok (withPath base.scheme base.authority [] rest)
      | [] => .ok (withPath base.scheme base.authority [] [])
    else .ok (withPath base.scheme base.authority kept.dropLast text)

/-- A URL whose scheme has no authorities or has none here. -/
def parseWhole (scheme : String) (text : List Char) : Url :=
  match text with
  | '/' :: rest => withPath scheme none [] rest
  | text =>
    let (path, after) := text.span fun character => !endsPath character
    let (query, fragment) := tailOf false after
    ⟨scheme, none, .whole (String.ofList (Escape.encode Escape.isControl path)), query, fragment⟩

def parseAbsolute (base : Option Url) (scheme : String) (rest : List Char) :
    Except UrlFault Url :=
  if scheme = "file" then parseFile base rest
  else if isSpecial scheme then
    let slashes := rest.takeWhile (isSlash true)
    match base with
    | some base =>
      match base.path with
      | .segments kept =>
        if base.scheme = scheme ∧ slashes.length < 2 then parseRelative base kept rest
        else afterSlashes scheme (rest.dropWhile (isSlash true))
      | .whole _ => afterSlashes scheme (rest.dropWhile (isSlash true))
    | none => afterSlashes scheme (rest.dropWhile (isSlash true))
  else
    match rest with
    | '/' :: '/' :: rest => afterSlashes scheme rest
    | rest => .ok (parseWhole scheme rest)

def parseWith (base : Option Url) (text : List Char) : Except UrlFault Url :=
  match splitScheme? text, base with
  | some (scheme, rest), base => parseAbsolute base scheme rest
  | none, none => .error .relativeWithoutBase
  | none, some base =>
    match base.path with
    | .whole _ =>
      match text with
      | '#' :: _ => .ok { base with fragment := (tailOf false text).2 }
      | _ => .error .relativeWithOpaqueBase
    | .segments kept =>
      if base.scheme = "file" then parseFile (some base) text
      else parseRelative base kept text

def parse (text : String) : Except UrlFault Url :=
  parseWith none (clean text.toList)

/-- Reads a URL that may be relative to this one. -/
def join (base : Url) (text : String) : Except UrlFault Url :=
  parseWith (some base) (clean text.toList)

end TemplateBuild.Url
