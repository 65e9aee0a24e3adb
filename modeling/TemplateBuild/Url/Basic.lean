import TemplateBuild.Url.Host

/-!
# URLs

A URL is a scheme, an authority with a host, a path, a query and a fragment.  `Url.text` writes
it in its one normal form.
-/

set_option autoImplicit false

namespace TemplateBuild

structure Authority where
  username : String
  password : Option String
  host : Option Host
  /-- Absent where it is the usual one of the scheme. -/
  port : Option Nat
deriving DecidableEq, Repr

inductive UrlPath where
  /-- Pieces, each with a slash before it. -/
  | segments (pieces : List String)
  /-- A text that has no pieces, of a scheme without authorities. -/
  | whole (text : String)
deriving DecidableEq, Repr

structure Url where
  scheme : String
  authority : Option Authority
  path : UrlPath
  query : Option String
  fragment : Option String
deriving DecidableEq, Repr

namespace Url

/-- The well-known schemes, with their usual ports. -/
def usualPorts : List (String × Option Nat) :=
  [("http", some 80), ("https", some 443), ("ws", some 80), ("wss", some 443),
   ("ftp", some 21), ("file", none)]

def isSpecial (scheme : String) : Bool :=
  (usualPorts.lookup scheme).isSome

def usualPort? (scheme : String) : Option Nat :=
  (usualPorts.lookup scheme).join

def host? (url : Url) : Option Host :=
  url.authority.bind (·.host)

def userinfoText (authority : Authority) : String :=
  let password := match authority.password with
    | some password => ":" ++ password
    | none => ""
  if authority.username.isEmpty && authority.password.isNone then ""
  else authority.username ++ password ++ "@"

def authorityText (authority : Authority) : String :=
  let port := match authority.port with
    | some port => ":" ++ toString port
    | none => ""
  userinfoText authority ++ (authority.host.map Host.text).getD "" ++ port

def pathText (url : Url) : String :=
  match url.path with
  | .whole text => text
  | .segments pieces =>
    let text := String.join (pieces.map fun piece => "/" ++ piece)
    if url.authority.isNone && pieces.length > 1 && pieces.head? == some "" then "/." ++ text
    else text

def queryText (url : Url) : String :=
  match url.query with
  | some query => "?" ++ query
  | none => ""

/-- What a request asks the server for. -/
def target (url : Url) : String :=
  url.pathText ++ url.queryText

def text (url : Url) : String :=
  let authority := match url.authority with
    | some authority => "//" ++ authorityText authority
    | none => ""
  let fragment := match url.fragment with
    | some fragment => "#" ++ fragment
    | none => ""
  url.scheme ++ ":" ++ authority ++ url.target ++ fragment

/-- The URL without the user's name and password. -/
def withoutUserinfo (url : Url) : Url :=
  { url with
    authority := url.authority.map fun authority =>
      { authority with username := "", password := none } }

end Url

end TemplateBuild
