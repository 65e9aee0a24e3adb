import TemplateBuild.Engine.Error
import TemplateBuild.Engine.Listing
import TemplateBuild.Environment
import TemplateBuild.Url.Parser
import TemplateBuild.World

/-!
# Fetching engines

A request may be redirected once.  An engine is looked up in a listing by its name, and its
script is downloaded to a temporary file that takes its place when it is complete.
-/

set_option autoImplicit false

namespace TemplateBuild.Fetch

/-- How the program presents itself to servers. -/
def agent : String :=
  Environment.applicationName ++ "/" ++ Environment.applicationVersion

/-! ## Requests -/

/-- User name and password are not part of the URL of a request, if they can be read. -/
def withoutUserinfo (url : Url) : Url :=
  match url.authority with
  | some authority =>
    match Utf8.decode (Url.Escape.decode authority.username.toList) with
    | .ok _ => url.withoutUserinfo
    | .error _ => url
  | none => url

/-- Characters that the host of a request may have. -/
def isHostCharacter (character : Char) : Bool :=
  Url.isSchemeCharacter character || Url.Escape.isAmong "!#$&'()*,/:;=?@[]_~" character

/-- The URL to send a request to. -/
def requestUrl (text : String) : Except RequestFault Url :=
  match Url.parse text with
  | .error fault => .error (.malformedUrl fault)
  | .ok url =>
    match url.host? with
    | none => .error (.refusedUrl url.text "URL scheme is not allowed")
    | some host =>
      let url := withoutUserinfo url
      if url.scheme ≠ "http" ∧ url.scheme ≠ "https" then
        .error (.refusedUrl url.text "URL scheme is not allowed")
      else if !host.text.toList.all isHostCharacter then
        .error (.refusedUrl url.text "Parsed Url is not a valid Uri")
      else .ok url

def send (text : String) : Effect ProvisionError (Url × Reply) := do
  match requestUrl text with
  | .error fault => throw (.request text fault)
  | .ok url =>
    match ← Effect.exchange ⟨url, agent⟩ with
    | .unreachable causes => throw (.request text (.unsent url.text causes))
    | .replied reply => return (url, reply)

/-- The place that a redirect names, which may be relative to the first. -/
def redirectTarget (text : String) (reply : Reply) : Except RedirectFault Url :=
  match reply.header? "location" with
  | none => .error .missingLocation
  | some value =>
    match Reply.visibleText? value with
    | none => .error .unreadableLocation
    | some location => ((Url.parse text).bind fun base => base.join location).mapError .malformed

def checkStatus (text : String) (answer : Url × Reply) : Effect ProvisionError (Url × Reply) :=
  if answer.2.succeeded then return answer else throw (.status text answer.2.status)

/-- Asks for a URL, and once for the place to which a redirect leads. -/
def get (text : String) : Effect ProvisionError (Url × Reply) := do
  let first ← send text
  if !first.2.redirects then checkStatus text first
  else
    match redirectTarget text first.2 with
    | .error fault => throw (.invalidRedirect text fault)
    | .ok target =>
      let second ← send target.text
      if second.2.redirects then throw (.tooManyRedirects target.text)
      checkStatus target.text second

/-! ## Listings -/

def listingOf (reply : Reply) : Except RequestFault DownloadListing :=
  if !reply.complete then .error .brokenBody
  else (DownloadListing.decode reply.body).mapError fun _ => .unexpectedBody

/-- The link to an engine's script in a listing. -/
def lookup (listingUrl engine : String) : Effect ProvisionError String := do
  let (_, reply) ← get listingUrl
  match listingOf reply with
  | .error fault => throw (.listing listingUrl fault)
  | .ok listing =>
    match listing.find engine with
    | some link => return link
    | none => throw (.notListed engine listingUrl)

/-! ## Downloads -/

/-- Why a body is not kept. -/
def bodyFault? (text : String) (reply : Reply) : Option ProvisionError :=
  if !reply.complete then some (.request text .brokenBody)
  else if reply.body.isEmpty then some (.emptyDownload text)
  else none

/-- Downloads to a path, and gives the size. -/
def download (text : String) (destination : Path) : Effect ProvisionError Nat := do
  let (_, reply) ← get text
  let directory := destination.parent.getD (Path.ofString ".")
  match (← Effect.files).temporaryPlace directory with
  | .error failure => throw (.cache directory failure)
  | .ok temporary =>
    let fill := WriteStep.filling temporary [reply.body]
    match bodyFault? text reply with
    | some fault =>
      Effect.change (.cache directory) fun files => files.withTemporary temporary fill
      Effect.setFiles ((← Effect.files).erase temporary)
      throw fault
    | none =>
      Effect.change (.cache destination) fun files =>
        files.withTemporary temporary (fill ++ [.settle temporary destination])
      return reply.body.length

end TemplateBuild.Fetch
