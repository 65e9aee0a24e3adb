import TemplateBuild.Proofs.Engine.Resolving

/-!
# Resolving again

An engine that was resolved is found from then on, whatever may be asked and whoever answers: where
it is looked for depends on the script directories and the cache directory alone.
-/

set_option autoImplicit false

namespace TemplateBuild.Provisioning

open Effect FileTree

/-! ## One place for all -/

/-- Settings under which an engine is looked for in the same places. -/
structure SamePlaces (provisioning other : Provisioning) : Prop where
  scriptDirectories : other.scriptDirectories = provisioning.scriptDirectories
  cacheDirectory : other.cacheDirectory = provisioning.cacheDirectory

theorem SamePlaces.present? {provisioning other : Provisioning}
    (same : provisioning.SamePlaces other) (engine : String) (files : FileTree) :
    other.present? engine files = provisioning.present? engine files := by
  rw [present?_eq_find?, present?_eq_find?, candidates, candidates, cacheEntry, cacheEntry,
    same.scriptDirectories, same.cacheDirectory]

/-- Resolves an engine again and again in the files that the time before left, each time with
settings and a network of its own. -/
def resolveEach (engine : String) :
    List (Provisioning × Network) → FileTree → List (Except ProvisionError Engine × World)
  | [], _ => []
  | (provisioning, network) :: rest, files =>
    let (result, later) := run (provisioning.resolve engine) (.initial files network)
    (result, later) :: resolveEach engine rest later.files

/-- What is present is found each time, and each time nothing else happens. -/
theorem resolveEach_of_present {provisioning : Provisioning} {engine : String}
    {files : FileTree} {location : EngineLocation} (plain : Engine.isPlainName engine = true)
    (found : provisioning.present? engine files = some location) :
    ∀ attempts : List (Provisioning × Network),
      (∀ attempt ∈ attempts, provisioning.SamePlaces attempt.1) →
      resolveEach engine attempts files =
        attempts.map fun attempt => (.ok ⟨engine, location⟩, .initial files attempt.2) := by
  intro attempts
  induction attempts with
  | nil => intro _; rfl
  | cons attempt rest ih =>
      obtain ⟨other, network⟩ := attempt
      intro same
      have here := (same (other, network) (List.mem_cons_self ..)).present? engine files
      have resolved : run (other.resolve engine) (.initial files network) =
          (.ok ⟨engine, location⟩, .initial files network) :=
        other.resolve_of_present engine plain (here.trans found)
      rw [resolveEach, resolved, List.map_cons]
      simp only [List.cons.injEq, true_and]
      exact ih fun attempt member => same attempt (List.mem_cons_of_mem _ member)

/-! ## What a fetch leaves -/

/-- After a fetch the engine is present, as long as the cache directory can still be reached.
Whether a script directory or the cache has it, it is what was fetched. -/
theorem Installs.present {provisioning : Provisioning} {engine : String}
    {before middle after : FileTree} {directory other : Place} {content : Bytes}
    (installs : provisioning.Installs engine before middle directory content after)
    (unaided : provisioning.findBundled middle engine = none)
    (reached : after.directoryFor provisioning.cacheDirectory = .ok other) :
    ∃ location, provisioning.present? engine after = some location ∧
      after.contentOf location.path = .ok content := by
  have cached := installs.readable other reached
  rw [present?]
  cases bundled : provisioning.findBundled after engine with
  | some path =>
      refine ⟨⟨.bundled, path⟩, rfl, ?_⟩
      rw [findBundled] at bundled unaided
      have member := List.mem_of_find?_eq_some bundled
      have isFile := List.find?_some bundled
      have notBefore := List.find?_eq_none.mp unaided path member
      exact (installs.puts.isFile isFile).resolve_left notBefore
  | none =>
      have hit : (provisioning.cacheEntry engine).isHit after = true := by
        obtain ⟨place, found⟩ := contentOf_eq_ok_iff.mp cached
        exact isFile_iff.mpr ⟨place, content, found⟩
      simp only [hit, if_true]
      exact ⟨_, rfl, cached⟩

/-- Once resolved, an engine is present, and its script reads the same. -/
theorem present_of_resolve {provisioning : Provisioning} {engine : String} {world later : World}
    {found : Engine} (wellFormed : world.files.WellFormed)
    (resolved : run (provisioning.resolve engine) world = (.ok found, later))
    (unaided : provisioning.findBundled world.files engine = none →
      provisioning.findBundled
        (world.files.makeDirectories provisioning.cacheDirectory).2 engine = none)
    (reachable : found.location.availability = .fetched →
      ∃ directory, later.files.directoryFor provisioning.cacheDirectory = .ok directory) :
    ∃ location content, provisioning.present? engine later.files = some location ∧
      later.files.contentOf found.location.path = .ok content ∧
      later.files.contentOf location.path = .ok content := by
  obtain ⟨sent, _, resolves⟩ := provisioning.resolve_resolves engine wellFormed
  rw [resolved] at resolves
  generalize ended : later.files = after at resolves reachable ⊢
  cases resolves with
  | @present location present =>
      obtain ⟨_, isFile⟩ := provisioning.not_fetched_of_present engine present
      obtain ⟨place, content, reached⟩ := isFile_iff.mp isFile
      have reads := contentOf_eq_ok_iff.mpr ⟨place, reached⟩
      exact ⟨location, content, present, reads, reads⟩
  | fetched _ _ absent _ _ installs =>
      obtain ⟨other, reached⟩ := reachable rfl
      have stillNone := unaided (provisioning.findBundled_of_absent engine absent)
      rw [installs.made] at stillNone
      obtain ⟨location, present, reads⟩ := installs.present stillNone reached
      exact ⟨location, _, present, installs.readable other reached, reads⟩

/-- Once resolved, an engine is found by every resolution that looks in the same places, however
many follow: none asks, none changes a file, and the script reads the same.  The cache directory
must not, when it is created, open a way to another copy in a script directory; and if the engine
was fetched, the path of the cache directory must still lead to a directory. -/
theorem resolveEach_of_resolve {provisioning : Provisioning} {engine : String} {world later : World}
    {found : Engine} (wellFormed : world.files.WellFormed)
    (resolved : run (provisioning.resolve engine) world = (.ok found, later))
    (unaided : provisioning.findBundled world.files engine = none →
      provisioning.findBundled
        (world.files.makeDirectories provisioning.cacheDirectory).2 engine = none)
    (reachable : found.location.availability = .fetched →
      ∃ directory, later.files.directoryFor provisioning.cacheDirectory = .ok directory) :
    ∃ location content, location.availability ≠ .fetched ∧
      later.files.contentOf found.location.path = .ok content ∧
      later.files.contentOf location.path = .ok content ∧
      ∀ attempts : List (Provisioning × Network),
        (∀ attempt ∈ attempts, provisioning.SamePlaces attempt.1) →
        resolveEach engine attempts later.files =
          attempts.map fun attempt =>
            (.ok ⟨engine, location⟩, .initial later.files attempt.2) := by
  have plain := provisioning.isPlainName_of_resolve engine resolved
  obtain ⟨location, content, present, reads, readsAgain⟩ :=
    present_of_resolve wellFormed resolved unaided reachable
  exact ⟨location, content, (provisioning.not_fetched_of_present engine present).1, reads,
    readsAgain, resolveEach_of_present plain present⟩

theorem resolveEach_of_sample : ∃ location content, location.availability ≠ .fetched ∧
    fetchedWorld.files.contentOf (.ofString "c/e") = .ok content ∧
    fetchedWorld.files.contentOf location.path = .ok content ∧
    resolveEach "e" [({ sample with offline := true }, .unreachable), (sample, .unreachable)]
        fetchedWorld.files =
      [(.ok ⟨"e", location⟩, .initial fetchedWorld.files .unreachable),
        (.ok ⟨"e", location⟩, .initial fetchedWorld.files .unreachable)] := by
  obtain ⟨location, content, other, reads, readsAgain, each⟩ := resolveEach_of_resolve
    (show sampleWorld.files.WellFormed by decide) resolve_sample (fun _ => by cbv)
    (fun _ => ⟨[.ofString "c"], by cbv⟩)
  refine ⟨location, content, other, reads, readsAgain, each _ ?_⟩
  intro attempt member
  simp only [List.mem_cons, List.not_mem_nil, or_false] at member
  rcases member with rfl | rfl <;> exact ⟨rfl, rfl⟩

/-! ## A link that gives way -/

/-- The cache directory is reached by a link that has the name of the engine. -/
def linkedProvisioning : Provisioning :=
  { sample with cacheDirectory := .ofString "c/e" }

def linkedWorld : World :=
  { sampleWorld with
    files := ⟨[([.ofString "c"], .directory),
      ([.ofString "c", .ofString "e"], .link (.ofString "."))], []⟩ }

/-- The script takes the place of this link, and is not found where it was put. -/
theorem resolve_linked : linkedWorld.files.WellFormed ∧
    linkedProvisioning.findBundled
      (linkedWorld.files.makeDirectories linkedProvisioning.cacheDirectory).2 "e" = none ∧
    run (linkedProvisioning.resolve "e") linkedWorld =
      (.ok ⟨"e", ⟨.fetched, .ofString "c/e/e"⟩⟩, fetchedWorld) ∧
    run ({ linkedProvisioning with offline := true }.resolve "e")
        (.initial fetchedWorld.files .unreachable) =
      (.error (.offline "e" (.ofString "c/e")), .initial fetchedWorld.files .unreachable) := by
  refine ⟨by decide, by cbv, ?_, ?_⟩
  · have made : linkedWorld.files.makeDirectories linkedProvisioning.cacheDirectory =
        (.ok (), linkedWorld.files) := by
      cbv
    have fetched : run (linkedProvisioning.fetch "e") linkedWorld =
        (.ok (.ofString "c/e/e"), fetchedWorld) :=
      linkedProvisioning.fetch_of_reply "e" rfl requestUrl_sample rfl rfl rfl rfl
        (by simp [sampleReply]) made (by cbv) (by cbv)
    exact linkedProvisioning.resolve_of_fetch "e" (by decide) (by cbv) (by cbv) rfl fetched
  · rw [resolve_of_absent _ "e" (by decide) (present?_of_missing _ "e" (by cbv) (by cbv))]
    rfl

end TemplateBuild.Provisioning
