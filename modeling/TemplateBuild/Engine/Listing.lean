import TemplateBuild.Json.Reader

/-!
# Download listings

A listing is a JSON array of entries with a name and up to three links.  Links may be absent
or null, members may come in any order, and members with other names are passed over; a
member that is given twice is a fault.  `DownloadListing.find` takes the first entry of the
wanted name that has a link at all, and its most direct link.
-/

set_option autoImplicit false

namespace TemplateBuild

structure DownloadEntry where
  name : Option String
  downloadUrl : Option String
  browserDownloadUrl : Option String
  htmlUrl : Option String
deriving DecidableEq, Repr

namespace DownloadEntry

open Json

/-- The link to prefer. -/
def url (entry : DownloadEntry) : Option String :=
  (entry.downloadUrl.or entry.browserDownloadUrl).or entry.htmlUrl

inductive Field where
  | name
  | downloadUrl
  | browserDownloadUrl
  | htmlUrl
deriving DecidableEq, Repr

def Field.key : Field → String
  | .name => "name"
  | .downloadUrl => "download_url"
  | .browserDownloadUrl => "browser_download_url"
  | .htmlUrl => "html_url"

/-- In the order in which an entry written as a list gives them. -/
def Field.all : List Field :=
  [.name, .downloadUrl, .browserDownloadUrl, .htmlUrl]

def Field.ofKey? (key : String) : Option Field :=
  Field.all.find? fun field => field.key = key

/-- The fields read so far; a field given as null counts as read. -/
abbrev Fields := List (Field × Option String)

def ofFields (fields : Fields) : DownloadEntry :=
  let value := fun field => (fields.lookup field).join
  ⟨value .name, value .downloadUrl, value .browserDownloadUrl, value .htmlUrl⟩

/-- Reads one member behind its opening quote. -/
def readMember (fields : Fields) (input : Bytes) : Except Fault (Fields × Bytes) := do
  let (key, afterKey) ← readText input
  let field := Field.ofKey? key
  let repeated := match field with
    | some field => (fields.lookup field).isSome
    | none => false
  if repeated then .error .mismatched
  else
    match skipBlank afterKey with
    | [] => .error .truncated
    | byte :: rest =>
      if byte = colon then
        match field with
        | some field => do
          let (value, left) ← readOptionalText rest
          .ok ((field, value) :: fields, left)
        | none => do
          let left ← skipValue (rest.length + 1) rest
          .ok (fields, left)
      else .error .malformed

/-- Reads members and the closing brace; behind a comma there must be a member. -/
def readMembers (fields : Fields) (first : Bool) : Nat → Bytes → Except Fault (Fields × Bytes)
  | 0, _ => .error .truncated
  | fuel + 1, input =>
    match skipBlank input with
    | [] => .error .truncated
    | byte :: rest =>
      if byte = closeObject then .ok (fields, rest)
      else if first then
        if byte = quoteMark then do
          let (fields, left) ← readMember fields rest
          readMembers fields false fuel left
        else .error .malformed
      else if byte = comma then
        match skipBlank rest with
        | [] => .error .truncated
        | mark :: inner =>
          if mark = quoteMark then do
            let (fields, left) ← readMember fields inner
            readMembers fields false fuel left
          else .error .malformed
      else .error .malformed

/-- Reads an entry that gives its fields in order, without names. -/
def readItems (fields : Fields) (first : Bool) : List Field → Bytes → Except Fault (Fields × Bytes)
  | [], input =>
    match skipBlank input with
    | [] => .error .truncated
    | byte :: rest => if byte = closeList then .ok (fields, rest) else .error .malformed
  | field :: others, input =>
    match skipBlank input with
    | [] => .error .truncated
    | byte :: rest =>
      if byte = closeList then .ok (fields, rest)
      else if first then do
        let (value, left) ← readOptionalText (byte :: rest)
        readItems ((field, value) :: fields) false others left
      else if byte = comma then
        match skipBlank rest with
        | [] => .error .truncated
        | next :: inner =>
          if next = closeList then .error .malformed
          else do
            let (value, left) ← readOptionalText (next :: inner)
            readItems ((field, value) :: fields) false others left
      else .error .malformed

def read (input : Bytes) : Except Fault (DownloadEntry × Bytes) :=
  match skipBlank input with
  | [] => .error .truncated
  | byte :: rest =>
    if byte = openObject then
      (readMembers [] true (rest.length + 1) rest).map fun (fields, left) =>
        (ofFields fields, left)
    else if byte = openList then
      (readItems [] true Field.all rest).map fun (fields, left) => (ofFields fields, left)
    else .error (mismatch byte rest)

def decode (text : Bytes) : Except Fault DownloadEntry :=
  readWhole read text

end DownloadEntry

abbrev DownloadListing := List DownloadEntry

namespace DownloadListing

open Json

def readEntries (first : Bool) : Nat → Bytes → Except Fault (DownloadListing × Bytes)
  | 0, _ => .error .truncated
  | fuel + 1, input =>
    match skipBlank input with
    | [] => .error .truncated
    | byte :: rest =>
      if byte = closeList then .ok ([], rest)
      else if first then do
        let (entry, left) ← DownloadEntry.read (byte :: rest)
        let (others, left) ← readEntries false fuel left
        .ok (entry :: others, left)
      else if byte = comma then
        match skipBlank rest with
        | [] => .error .truncated
        | next :: inner =>
          if next = closeList then .error .malformed
          else do
            let (entry, left) ← DownloadEntry.read (next :: inner)
            let (others, left) ← readEntries false fuel left
            .ok (entry :: others, left)
      else .error .malformed

def read (input : Bytes) : Except Fault (DownloadListing × Bytes) :=
  match skipBlank input with
  | [] => .error .truncated
  | byte :: rest =>
    if byte = openList then readEntries true (rest.length + 1) rest
    else .error (mismatch byte rest)

def decode (text : Bytes) : Except Fault DownloadListing :=
  readWhole read text

/-- The link of the first entry with this name that has one. -/
def find (listing : DownloadListing) (engine : String) : Option String :=
  listing.findSome? fun entry => if entry.name = some engine then entry.url else none

end DownloadListing

end TemplateBuild
