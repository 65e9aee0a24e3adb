import Mathlib
import TemplateBuild.Proofs.Engine.Resolving

/-!
# The link that a listing gives

Of the entries with the name of an engine the first one that has a link is taken, and of its links
the most direct one.  The entries that cannot give a link to this engine may stand anywhere in a
listing, or be missing.
-/

set_option autoImplicit false

namespace TemplateBuild

namespace DownloadEntry

variable {entry : DownloadEntry} {engine link : String}

/-- The link of an entry that is preferred to its others. -/
inductive Prefers (entry : DownloadEntry) : String → Prop
  | download {link : String} : entry.downloadUrl = some link → Prefers entry link
  | browser {link : String} : entry.downloadUrl = none →
      entry.browserDownloadUrl = some link → Prefers entry link
  | page {link : String} : entry.downloadUrl = none → entry.browserDownloadUrl = none →
      entry.htmlUrl = some link → Prefers entry link

theorem url_eq_some_iff : entry.url = some link ↔ entry.Prefers link := by
  constructor
  · intro preferred
    rw [url, Option.or_eq_some_iff, Option.or_eq_some_iff, Option.or_eq_none_iff] at preferred
    rcases preferred with (download | ⟨absent, browser⟩) | ⟨⟨absent, missing⟩, page⟩
    · exact .download download
    · exact .browser absent browser
    · exact .page absent missing page
  · intro prefers
    cases prefers with
    | download given => rw [url, given]; rfl
    | browser absent given => rw [url, absent, given]; rfl
    | page absent missing given => rw [url, absent, missing, given]; rfl

def HasLink (entry : DownloadEntry) : Prop :=
  entry.downloadUrl ≠ none ∨ entry.browserDownloadUrl ≠ none ∨ entry.htmlUrl ≠ none

theorem url_eq_none_iff : entry.url = none ↔ ¬ entry.HasLink := by
  rw [url, Option.or_eq_none_iff, Option.or_eq_none_iff, HasLink, not_or, not_or, not_ne_iff,
    not_ne_iff, not_ne_iff, and_assoc]

/-- An entry has exactly the name of the engine, and some link. -/
def Serves (entry : DownloadEntry) (engine : String) : Prop :=
  entry.name = some engine ∧ entry.HasLink

/-- An entry has another name than the engine, or no name, or no link. -/
def Idles (entry : DownloadEntry) (engine : String) : Prop :=
  (∃ other, entry.name = some other ∧ other ≠ engine) ∨ entry.name = none ∨ ¬ entry.HasLink

theorem idles_iff : entry.Idles engine ↔ ¬ entry.Serves engine := by
  rw [Idles, Serves]
  cases entry.name with
  | none => simp
  | some name =>
      simp only [Option.some.injEq, exists_eq_left', reduceCtorEq, false_or, ne_eq, not_and]
      tauto

/-- What an entry offers to a search for an engine. -/
def offered (engine : String) (entry : DownloadEntry) : Option String :=
  if entry.name = some engine then entry.url else none

theorem offered_eq_some_iff :
    offered engine entry = some link ↔ entry.Serves engine ∧ entry.Prefers link := by
  rw [← url_eq_some_iff, offered, Option.ite_none_right_eq_some, Serves]
  constructor
  · rintro ⟨named, preferred⟩
    refine ⟨⟨named, ?_⟩, preferred⟩
    by_contra linkless
    rw [url_eq_none_iff.mpr linkless] at preferred
    cases preferred
  · rintro ⟨⟨named, _⟩, preferred⟩
    exact ⟨named, preferred⟩

theorem offered_eq_none_iff : offered engine entry = none ↔ ¬ entry.Serves engine := by
  rw [offered, Serves]
  split
  · next named => rw [url_eq_none_iff, not_and, forall_prop_of_true named]
  · next other => exact ⟨fun _ serves => other serves.1, fun _ => rfl⟩

end DownloadEntry

namespace DownloadListing

variable {listing edited : DownloadListing} {engine link : String}

theorem find_eq_findSome? :
    listing.find engine = listing.findSome? (DownloadEntry.offered engine) :=
  rfl

/-- The first entry of the listing that serves the engine, with the link that it prefers. -/
def Gives (listing : DownloadListing) (engine link : String) : Prop :=
  ∃ before entry after, listing = before ++ entry :: after ∧
    (∀ earlier ∈ before, ¬ earlier.Serves engine) ∧ entry.Serves engine ∧ entry.Prefers link

theorem find_eq_some_iff : listing.find engine = some link ↔ listing.Gives engine link := by
  simp only [find_eq_findSome?, List.findSome?_eq_some_iff, DownloadEntry.offered_eq_some_iff,
    DownloadEntry.offered_eq_none_iff, Gives]
  constructor
  · rintro ⟨before, entry, after, split, ⟨serves, prefers⟩, none⟩
    exact ⟨before, entry, after, split, none, serves, prefers⟩
  · rintro ⟨before, entry, after, split, none, serves, prefers⟩
    exact ⟨before, entry, after, split, ⟨serves, prefers⟩, none⟩

theorem find_eq_none_iff :
    listing.find engine = none ↔ ∀ entry ∈ listing, ¬ entry.Serves engine := by
  simp only [find_eq_findSome?, List.findSome?_eq_none_iff, DownloadEntry.offered_eq_none_iff]

/-- One change to a listing, of an entry that idles. -/
inductive Edit (engine : String) : DownloadListing → DownloadListing → Prop
  | insert {before after : DownloadListing} {entry : DownloadEntry} : entry.Idles engine →
      Edit engine (before ++ after) (before ++ entry :: after)
  | delete {before after : DownloadListing} {entry : DownloadEntry} : entry.Idles engine →
      Edit engine (before ++ entry :: after) (before ++ after)
  | move {before after left right : DownloadListing} {entry : DownloadEntry} :
      entry.Idles engine → before ++ after = left ++ right →
      Edit engine (before ++ entry :: after) (left ++ entry :: right)

theorem find_insert {entry : DownloadEntry} (idles : entry.Idles engine)
    (before after : DownloadListing) :
    DownloadListing.find (before ++ entry :: after) engine =
      DownloadListing.find (before ++ after) engine := by
  have passed : entry.offered engine = none :=
    DownloadEntry.offered_eq_none_iff.mpr (DownloadEntry.idles_iff.mp idles)
  simp only [find_eq_findSome?, List.findSome?_append, List.findSome?_cons, passed]

theorem Edit.find (edit : Edit engine listing edited) :
    edited.find engine = listing.find engine := by
  cases edit with
  | insert idles => exact find_insert idles _ _
  | delete idles => exact (find_insert idles _ _).symm
  | move idles same => rw [find_insert idles, find_insert idles, same]

/-- Any number of such changes, one after the other. -/
theorem find_of_edits (edits : Relation.ReflTransGen (Edit engine) listing edited) :
    edited.find engine = listing.find engine := by
  induction edits with
  | refl => rfl
  | tail _ last unchanged => rw [last.find, unchanged]

end DownloadListing

namespace Fetch

open Effect

variable {listingUrl engine : String} {world later : World} {answer : Url × Reply}
  {listing : DownloadListing}

/-- A lookup sends what is sent for the listing, and then searches it. -/
theorem run_lookup (fetched : run (get listingUrl) world = (.ok answer, later))
    (decoded : listingOf answer.2 = .ok listing) (engine : String) :
    run (lookup listingUrl engine) world =
      ((listing.find engine).elim (.error (.notListed engine listingUrl)) .ok, later) := by
  rw [lookup, run_bind_of_ok _ fetched]
  simp only [decoded]
  cases listing.find engine <;> rfl

/-- Where the listing can be read, a lookup gives the preferred link of the first entry that
serves the engine, and says that the engine is not listed exactly if no entry does.  Whatever is
done to the entries that idle, the answer is the same. -/
theorem lookup_gives_first (fetched : run (get listingUrl) world = (.ok answer, later))
    (decoded : listingOf answer.2 = .ok listing) (engine : String) :
    (∀ link, run (lookup listingUrl engine) world = (.ok link, later) ↔
      listing.Gives engine link) ∧
    ((∃ link, (run (lookup listingUrl engine) world).1 = .ok link) ↔
      ∃ entry ∈ listing, entry.Serves engine) ∧
    (run (lookup listingUrl engine) world = (.error (.notListed engine listingUrl), later) ↔
      ¬ ∃ entry ∈ listing, entry.Serves engine) ∧
    ∀ (edited : DownloadListing) (world' later' : World) (answer' : Url × Reply),
      Relation.ReflTransGen (DownloadListing.Edit engine) listing edited →
      run (get listingUrl) world' = (.ok answer', later') → listingOf answer'.2 = .ok edited →
      run (lookup listingUrl engine) world' =
        ((run (lookup listingUrl engine) world).1, later') := by
  have ran := run_lookup fetched decoded engine
  have nobody : listing.find engine = none ↔ ¬ ∃ entry ∈ listing, entry.Serves engine := by
    rw [DownloadListing.find_eq_none_iff]
    push Not
    rfl
  refine ⟨?_, ?_, ?_, ?_⟩
  · intro link
    rw [ran, ← DownloadListing.find_eq_some_iff]
    cases listing.find engine <;> simp
  · rw [← not_iff_not, ← nobody, ran]
    cases listing.find engine <;> simp
  · rw [← nobody, ran]
    cases listing.find engine <;> simp
  · intro edited world' later' answer' edits fetched' decoded'
    rw [ran, run_lookup fetched' decoded' engine, DownloadListing.find_of_edits edits]

/-! ## A listing with an entry that has no link -/

/-- `[{"name":"e"},{"name":"e","html_url":"l"}]`, with a first entry that is passed over. -/
def sampleListing : Bytes :=
  Bytes.ofString "[\x7b\"name\":\"e\"\x7d,\x7b\"name\":\"e\",\"html_url\":\"l\"\x7d]"

def sampleListingReply : Reply :=
  ⟨200, [], sampleListing, true⟩

/-- All requests are answered with the listing. -/
def sampleListingWorld : World :=
  .initial ⟨[], []⟩ ⟨fun _ _ => .replied sampleListingReply, []⟩

theorem lookup_gives_first_of_sample :
    ∃ later, run (lookup "http://h/e" "e") sampleListingWorld = (.ok "l", later) := by
  have decoded : listingOf sampleListingReply = .ok
      [⟨some "e", none, none, none⟩, ⟨some "e", none, none, some "l"⟩] := by
    decide +kernel
  have answered : sampleListingWorld.network.answer sampleListingWorld.network.past
      ⟨Provisioning.sampleUrl, agent⟩ = .replied sampleListingReply := rfl
  have given := (lookup_gives_first (get_of_success Provisioning.requestUrl_filled answered rfl rfl) decoded "e").1 "l"
  refine ⟨_, given.mpr ⟨[⟨some "e", none, none, none⟩], ⟨some "e", none, none, some "l"⟩, [],
    rfl, ?_, ?_, .page rfl rfl rfl⟩⟩
  · simp [DownloadEntry.Serves, DownloadEntry.HasLink]
  · simp [DownloadEntry.Serves, DownloadEntry.HasLink]

end Fetch

end TemplateBuild
