import TemplateBuild.Engine.Provision
import TemplateBuild.Proofs.World

/-!
# What provisioning leaves behind

Servers are only asked.  An engine that is bundled or cached changes nothing; one that is
fetched is put into the cache as a whole, and a fetch that fails leaves at most directories.
-/

set_option autoImplicit false

namespace TemplateBuild

open Effect FileTree

namespace Fetch

theorem send_keepsFiles (text : String) : KeepsFiles (send text) := by
  rw [send]
  split
  · exact keepsFiles_throw _
  · apply (keepsFiles_exchange _).bind
    intro answer
    cases answer with
    | unreachable causes => exact keepsFiles_throw _
    | replied reply => exact keepsFiles_pure _

theorem checkStatus_keepsFiles (text : String) (answer : Url × Reply) :
    KeepsFiles (checkStatus text answer) := by
  rw [checkStatus]
  split
  · exact keepsFiles_pure _
  · exact keepsFiles_throw _

theorem get_keepsFiles (text : String) : KeepsFiles (get text) := by
  rw [get]
  apply (send_keepsFiles text).bind
  intro first
  split
  · exact checkStatus_keepsFiles text first
  · split
    · exact keepsFiles_throw _
    · next target _ =>
      apply (send_keepsFiles target.text).bind
      intro second
      split
      · exact (keepsFiles_throw _).bind fun _ => checkStatus_keepsFiles _ _
      · exact checkStatus_keepsFiles _ _

theorem lookup_keepsFiles (listingUrl engine : String) : KeepsFiles (lookup listingUrl engine) := by
  rw [lookup]
  apply (get_keepsFiles listingUrl).bind
  rintro ⟨_, reply⟩
  simp only
  split
  · exact keepsFiles_throw _
  · split
    · exact keepsFiles_pure _
    · exact keepsFiles_throw _

end Fetch

/-- A download either puts the whole body at its path, or leaves all as it was. -/
theorem Fetch.download_leaves (text : String) (path : Path) {world : World}
    (wellFormed : world.files.WellFormed) : (download text path).Leaves world world.files
      fun after => ∃ content, world.files.Stores path content after := by
  rw [download]
  apply ((get_keepsFiles text).leaves wellFormed).bind
  rintro ⟨_, reply⟩ later _ _ kept
  rw [← kept] at wellFormed ⊢
  simp only
  apply leaves_files
  split
  · exact leaves_throw _ wellFormed (.refl _)
  · next temporary success =>
    obtain ⟨place, name, rfl, fresh⟩ := temporaryPlace_fresh wellFormed success
    split
    · next fault _ =>
      obtain ⟨filled, performed, agrees, erased⟩ := agrees_of_filling wellFormed fresh [reply.body]
      rw [Effect.Leaves, run_bind, run_change, performed]
      exact ⟨erased, agrees.addsDirectories⟩
    · have written := withTemporary_written wellFormed fresh [reply.body] path
      apply (leaves_change _ (written.leaves (.refl _))).bind
      intro _ final _ finallyWellFormed stored
      exact leaves_pure _ finallyWellFormed ⟨_, stored⟩

namespace Provisioning

variable (provisioning : Provisioning) (engine : String)

theorem downloadUrl_keepsFiles : KeepsFiles (provisioning.downloadUrl engine) := by
  rw [downloadUrl]
  split
  · exact Fetch.lookup_keepsFiles _ _
  · exact keepsFiles_pure _

/-- A script of some content is new in the cache. -/
def Caches (before after : FileTree) : Prop :=
  ∃ content, before.Stores (provisioning.cacheEntry engine).path content after

theorem fetch_leaves {world : World} (wellFormed : world.files.WellFormed) :
    (provisioning.fetch engine).Leaves world world.files
      (provisioning.Caches engine world.files) := by
  rw [fetch]
  apply ((provisioning.downloadUrl_keepsFiles engine).leaves wellFormed).bind
  intro url asked _ _ kept
  rw [← kept] at wellFormed ⊢
  have made := makeDirectories_leaves wellFormed (provisioning.cacheEntry engine).directory
  apply (leaves_change _ made).bind
  intro _ prepared _ stillWellFormed adds
  have downloaded := Fetch.download_leaves url (provisioning.cacheEntry engine).path stillWellFormed
  have reached : (Fetch.download url (provisioning.cacheEntry engine).path).Leaves prepared
      asked.files (provisioning.Caches engine asked.files) := by
    apply downloaded.after adds
    rintro last ⟨content, stored⟩
    exact ⟨content, stored.after adds⟩
  apply reached.bind
  intro _ last _ finallyWellFormed caches
  exact leaves_pure _ finallyWellFormed caches

/-- Where the script of an engine lies without being fetched. -/
def present? (files : FileTree) : Option EngineLocation :=
  match provisioning.findBundled files engine with
  | some path => some ⟨.bundled, path⟩
  | none =>
    if (provisioning.cacheEntry engine).isHit files then
      some ⟨.cached, (provisioning.cacheEntry engine).path⟩
    else none

/-- What is present stays so when directories are created. -/
theorem present_of_adds {before after : FileTree} (adds : before.AddsDirectories after)
    (present : (provisioning.present? engine before).isSome = true) :
    (provisioning.present? engine after).isSome = true := by
  rw [present?] at present ⊢
  cases bundled : provisioning.findBundled after engine with
  | some path => rfl
  | none =>
      simp only
      have noneBefore : provisioning.findBundled before engine = none := by
        rw [findBundled, List.find?_eq_none] at bundled ⊢
        intro path member isFile
        exact bundled path member (adds.isFile isFile)
      rw [noneBefore] at present
      simp only at present
      split at present
      · next hit =>
        have stillHit : (provisioning.cacheEntry engine).isHit after = true := adds.isFile hit
        rw [if_pos stillHit]
        rfl
      · cases present

theorem resolve_of_present {world : World} {location : EngineLocation}
    (plain : Engine.isPlainName engine = true)
    (found : provisioning.present? engine world.files = some location) :
    run (provisioning.resolve engine) world = (.ok ⟨engine, location⟩, world) := by
  rw [present?] at found
  rw [resolve, plain]
  simp only [Bool.not_true, Bool.false_eq_true, if_false]
  rw [run_bind_of_ok _ (run_files world)]
  cases bundled : provisioning.findBundled world.files engine with
  | some path =>
      simp only [bundled] at found ⊢
      cases found
      rfl
  | none =>
      cases hit : (provisioning.cacheEntry engine).isHit world.files with
      | true =>
          simp only [bundled, hit, if_true] at found ⊢
          cases found
          rfl
      | false =>
          simp only [bundled, hit, Bool.false_eq_true, if_false] at found
          cases found

/-- An engine that is nowhere is fetched, if its name is plain and something may be asked. -/
theorem resolve_of_absent (plain : Engine.isPlainName engine = true) {world : World}
    (absent : provisioning.present? engine world.files = none) :
    run (provisioning.resolve engine) world =
      if provisioning.offline = true then
        (.error (.offline engine provisioning.cacheDirectory), world)
      else run (provisioning.fetch engine >>= fun path =>
        pure ⟨engine, ⟨.fetched, path⟩⟩) world := by
  rw [present?] at absent
  rw [resolve, plain]
  simp only [Bool.not_true, Bool.false_eq_true, if_false]
  rw [run_bind_of_ok _ (run_files world)]
  cases bundled : provisioning.findBundled world.files engine with
  | some path => simp only [bundled, reduceCtorEq] at absent
  | none =>
      cases hit : (provisioning.cacheEntry engine).isHit world.files with
      | true => simp only [bundled, hit, if_true, reduceCtorEq] at absent
      | false =>
          simp only [Bool.false_eq_true, if_false]
          split <;> rfl

theorem present?_of_missing {files : FileTree}
    (unbundled : provisioning.findBundled files engine = none)
    (missed : (provisioning.cacheEntry engine).isHit files = false) :
    provisioning.present? engine files = none := by
  rw [present?, unbundled, missed]
  rfl

/-- What could be fetched is resolved, if it was nowhere before. -/
theorem resolve_of_fetch (plain : Engine.isPlainName engine = true) {world later : World}
    {path : Path} (unbundled : provisioning.findBundled world.files engine = none)
    (missed : (provisioning.cacheEntry engine).isHit world.files = false)
    (online : provisioning.offline = false)
    (fetched : run (provisioning.fetch engine) world = (.ok path, later)) :
    run (provisioning.resolve engine) world = (.ok ⟨engine, ⟨.fetched, path⟩⟩, later) := by
  have absent := provisioning.present?_of_missing engine unbundled missed
  rw [provisioning.resolve_of_absent engine plain absent, online,
    if_neg Bool.false_ne_true, run_bind_of_ok _ fetched]
  rfl

/-- The engine is nowhere, and a server may be asked for it. -/
structure MustFetch (files : FileTree) : Prop where
  plain : Engine.isPlainName engine = true
  absent : provisioning.present? engine files = none
  online : provisioning.offline = false

theorem MustFetch.before {provisioning : Provisioning} {engine : String} {before after : FileTree}
    (adds : before.AddsDirectories after) (fetches : provisioning.MustFetch engine after) :
    provisioning.MustFetch engine before := by
  refine ⟨fetches.plain, ?_, fetches.online⟩
  rw [← Option.not_isSome_iff_eq_none]
  intro present
  have still := provisioning.present_of_adds engine adds present
  rw [fetches.absent] at still
  cases still

theorem resolve_unfetched {world : World} (unfetched : ¬ provisioning.MustFetch engine world.files) :
    (run (provisioning.resolve engine) world).2 = world := by
  cases plain : Engine.isPlainName engine with
  | false =>
      rw [resolve, plain]
      rfl
  | true =>
      cases found : provisioning.present? engine world.files with
      | some location => rw [provisioning.resolve_of_present engine plain found]
      | none =>
          cases online : provisioning.offline with
          | false => exact absurd ⟨plain, found, online⟩ unfetched
          | true => rw [provisioning.resolve_of_absent engine plain found, if_pos online]

theorem isPlainName_of_resolve {world later : World} {found : Engine}
    (resolved : run (provisioning.resolve engine) world = (.ok found, later)) :
    Engine.isPlainName engine = true := by
  cases plain : Engine.isPlainName engine with
  | true => rfl
  | false =>
      rw [resolve, plain] at resolved
      cases resolved

/-- A resolved engine was there before, or its script is new in the cache. -/
theorem resolve_leaves {world : World} (wellFormed : world.files.WellFormed) :
    (provisioning.resolve engine).Leaves world world.files fun after =>
      after = world.files ∨ provisioning.Caches engine world.files after := by
  cases plain : Engine.isPlainName engine with
  | false =>
      rw [resolve, plain]
      exact leaves_throw _ wellFormed (.refl _)
  | true =>
      cases found : provisioning.present? engine world.files with
      | some location =>
          rw [Effect.Leaves, provisioning.resolve_of_present engine plain found]
          exact ⟨wellFormed, Or.inl rfl⟩
      | none =>
          have ran := provisioning.resolve_of_absent engine plain found
          split at ran
          · rw [Effect.Leaves, ran]
            exact ⟨wellFormed, .refl _⟩
          · apply leaves_of_run_eq ran
            apply (provisioning.fetch_leaves engine wellFormed).bind
            intro _ last _ finallyWellFormed caches
            exact leaves_pure _ finallyWellFormed (Or.inr caches)

end Provisioning

end TemplateBuild
