import TemplateBuild.FileTree.Failure
import TemplateBuild.Path
import TemplateBuild.Url.Host

/-!
# Why an engine is not available
-/

set_option autoImplicit false

namespace TemplateBuild

/-- What went wrong with a request. -/
inductive RequestFault where
  | malformedUrl (fault : UrlFault)
  /-- A scheme that is not for requests, or no host. -/
  | refusedUrl (url cause : String)
  | unsent (url : String) (causes : List String)
  /-- The body broke off. -/
  | brokenBody
  /-- The body is not what was asked for. -/
  | unexpectedBody
deriving DecidableEq, Repr

namespace RequestFault

def message : RequestFault → String
  | .malformedUrl _ => "builder error"
  | .refusedUrl url _ => "builder error for url (" ++ url ++ ")"
  | .unsent url _ => "error sending request for url (" ++ url ++ ")"
  | .brokenBody => "request or response body error"
  | .unexpectedBody => "error decoding response body"

/-- What is known of the causes, from the outer to the inner. -/
def causes : RequestFault → List String
  | .malformedUrl fault => [fault.message]
  | .refusedUrl _ cause => [cause]
  | .unsent _ causes => causes
  | .brokenBody => []
  | .unexpectedBody => []

end RequestFault

inductive RedirectFault where
  | missingLocation
  | unreadableLocation
  | malformed (fault : UrlFault)
deriving DecidableEq, Repr

def RedirectFault.message : RedirectFault → String
  | .missingLocation => "missing Location header"
  | .unreadableLocation => "failed to convert header to a str"
  | .malformed fault => fault.message

inductive ProvisionError where
  | invalidName (name : String)
  /-- Neither bundled nor cached, and nothing may be fetched. -/
  | offline (engine : String) (cacheDirectory : Path)
  | request (url : String) (fault : RequestFault)
  | status (url : String) (status : Nat)
  | invalidRedirect (url : String) (fault : RedirectFault)
  /-- The place that a redirect named redirects too. -/
  | tooManyRedirects (url : String)
  | listing (url : String) (fault : RequestFault)
  | notListed (engine url : String)
  | emptyDownload (url : String)
  | cache (path : Path) (failure : FileFailure)
deriving DecidableEq, Repr

namespace ProvisionError

def message : ProvisionError → String
  | .invalidName name => "invalid engine identifier '" ++ name ++ "': must be a plain file name"
  | .offline engine directory =>
    "engine '" ++ engine ++ "' is not cached in " ++ directory.display ++
      " and offline mode is enabled"
  | .request url fault => "request to " ++ url ++ " failed: " ++ fault.message
  | .status url code => "request to " ++ url ++ " failed: HTTP " ++ toString code
  | .invalidRedirect url fault => "invalid redirect from " ++ url ++ ": " ++ fault.message
  | .tooManyRedirects url =>
    "too many redirects: " ++ url ++ " redirected again after one hop"
  | .listing url fault => "invalid engine metadata from " ++ url ++ ": " ++ fault.message
  | .notListed engine url => "engine '" ++ engine ++ "' is not listed at " ++ url
  | .emptyDownload url => "download from " ++ url ++ " was empty"
  | .cache path failure => "cache error at " ++ path.display ++ ": " ++ failure.message

/-- What lies behind the error, from the outer to the inner. -/
def causes : ProvisionError → List String
  | .request _ fault => fault.message :: fault.causes
  | .listing _ fault => fault.message :: fault.causes
  | .cache _ failure => [failure.message]
  | _ => []

end ProvisionError

end TemplateBuild
