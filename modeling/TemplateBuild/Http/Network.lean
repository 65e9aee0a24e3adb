import TemplateBuild.Url.Basic

/-!
# The network

Requests are answered one after the other.  What comes back may depend on everything that went
before, so a network is given by its answers and by what has passed over it.
-/

set_option autoImplicit false

namespace TemplateBuild

/-- A request for what lies at a URL. -/
structure Request where
  url : Url
  agent : String
deriving DecidableEq, Repr

structure Reply where
  status : Nat
  headers : List (String × Bytes)
  /-- As much of the body as arrives. -/
  body : Bytes
  /-- Whether all of the body arrives that was announced. -/
  complete : Bool
deriving DecidableEq, Repr

inductive Exchange where
  /-- No connection; the causes go from the outer to the inner. -/
  | unreachable (causes : List String)
  | replied (reply : Reply)
deriving DecidableEq, Repr

structure Network where
  answer : List (Request × Exchange) → Request → Exchange
  /-- What has passed so far, in order. -/
  past : List (Request × Exchange)

namespace Network

def exchange (network : Network) (request : Request) : Exchange × Network :=
  let answer := network.answer network.past request
  (answer, { network with past := network.past ++ [(request, answer)] })

/-- A network over which nothing can be reached. -/
def unreachable : Network :=
  ⟨fun _ _ => .unreachable
    ["client error (Connect)", "tcp connect error", "Network is unreachable (os error 101)"], []⟩

end Network

namespace Reply

def succeeded (reply : Reply) : Bool :=
  200 ≤ reply.status && reply.status < 300

/-- The statuses whose reply names another place to ask. -/
def redirects (reply : Reply) : Bool :=
  [301, 302, 303, 307, 308].contains reply.status

/-- The first header of a name, whose case does not count. -/
def header? (reply : Reply) (name : String) : Option Bytes :=
  (reply.headers.find? fun header => header.1.toLower == name.toLower).map (·.2)

/-- A header's value as text, if it has only visible characters, blanks and tabs. -/
def visibleText? (value : Bytes) : Option String :=
  if value.all fun byte => (0x20 ≤ byte && byte < 0x7F) || byte = 0x09 then value.toString?
  else none

end Reply

end TemplateBuild
