import Mathlib
import TemplateBuild.Proofs.Engine.Provision
import TemplateBuild.Proofs.Engine.Requests
import TemplateBuild.Proofs.FileTree.Directories

/-!
# What a resolution does

An engine is taken from the first place that has it, and then nothing is asked or changed.  Only
where none has it a server is asked, and what arrives as a whole becomes the one new file.
-/

set_option autoImplicit false

namespace TemplateBuild

open Effect FileTree

theorem Engine.plain_of_isPlainName {name : String} (plain : isPlainName name = true) :
    Name.Plain (Bytes.ofString name) := by
  simp only [isPlainName, Bool.not_eq_true', Bool.or_eq_false_iff, List.any_eq_false,
    beq_eq_false_iff_ne, beq_iff_eq, Bool.or_eq_true, not_or] at plain
  obtain ⟨⟨⟨nonempty, notCurrent⟩, notParent⟩, others⟩ := plain
  have other : ∀ text, name ≠ text → Bytes.ofString name ≠ Bytes.ofString text :=
    fun text different same => different (Bytes.ofString_injective same)
  refine ⟨other "" ?_, other "." notCurrent, other ".." notParent, ?_, ?_⟩
  · rintro rfl
    cases nonempty
  · rw [Bytes.mem_ofString_iff (by decide)]
    rintro ⟨character, member, same⟩
    exact (others character member).1.1 (Char.toNat_inj.mp same)
  · rw [Bytes.mem_ofString_iff (by decide)]
    rintro ⟨character, member, same⟩
    exact (others character member).2 (Char.toNat_inj.mp same)

namespace Fetch

/-- Bytes that came as the whole body of a reply that was a success. -/
def Arrived (sent : List (Request × Exchange)) (content : Bytes) : Prop :=
  ∃ request reply, (request, Exchange.replied reply) ∈ sent ∧ reply.succeeded = true ∧
    reply.complete = true ∧ reply.body = content ∧ content ≠ []

theorem Arrived.append {sent more : List (Request × Exchange)} {content : Bytes}
    (arrived : Arrived sent content) : Arrived (more ++ sent) content := by
  obtain ⟨request, reply, member, rest⟩ := arrived
  exact ⟨request, reply, List.mem_append_right _ member, rest⟩

theorem bodyFault?_eq_none_iff {text : String} {reply : Reply} :
    bodyFault? text reply = none ↔ reply.complete = true ∧ reply.body ≠ [] := by
  rw [bodyFault?]
  cases reply.complete <;> cases reply.body <;> simp

/-- What has become of files to which something was to be downloaded. -/
inductive Downloads (before : FileTree) (path : Path) :
    Except ProvisionError Nat → List (Request × Exchange) → FileTree → Prop
  | done {size : Nat} {sent : List (Request × Exchange)} {content : Bytes} {place : Place}
      {after : FileTree} : sent.length ≤ 2 → Arrived sent content →
      before.destination path = .ok place → before.PutsFile place content after →
      Downloads before path (.ok size) sent after
  | failed {error : ProvisionError} {sent : List (Request × Exchange)} {after : FileTree} :
      sent.length ≤ 2 → before.Agrees after → Downloads before path (.error error) sent after

theorem download_downloads (text : String) (path : Path) {world : World}
    (wellFormed : world.files.WellFormed) :
    (download text path).Does world (Downloads world.files path) := by
  rw [download]
  apply (get_gets text world).bind
  · intro error sent files gets
    rw [gets.files]
    exact .failed gets.few (.refl _)
  · rintro ⟨url, reply⟩ sent later gets
    have few : (sent ++ []).length ≤ 2 := by simpa using gets.few
    rw [← gets.files] at wellFormed ⊢
    simp only
    apply does_files
    split
    · exact does_throw (.failed few (.refl _))
    · next temporary success =>
      obtain ⟨place, name, rfl, fresh⟩ := temporaryPlace_fresh wellFormed success
      split
      · next fault _ =>
        obtain ⟨filled, performed, agrees, _⟩ := agrees_of_filling wellFormed fresh [reply.body]
        refine ⟨[], ?_, ?_⟩
        · rw [run_bind, run_change, performed, Network.after_nil]
          rfl
        · rw [run_bind, run_change, performed]
          exact .failed few agrees
      · next whole =>
        obtain ⟨complete, nonempty⟩ := bodyFault?_eq_none_iff.mp whole
        obtain ⟨request, member⟩ := gets.replied (url, reply) rfl
        have arrived : Arrived (sent ++ []) reply.body :=
          ⟨request, reply, List.mem_append_left _ member, gets.succeeded (url, reply) rfl, complete,
            rfl, nonempty⟩
        have written := withTemporary_written wellFormed fresh [reply.body] path
        rw [List.flatten_singleton] at written
        cases ended : later.files.withTemporary (place ++ [name])
            (WriteStep.writing (place ++ [name]) [reply.body] path) with
        | mk result after =>
            rw [ended] at written
            refine ⟨[], ?_, ?_⟩
            · rw [run_bind, run_change, ← WriteStep.writing, ended, Network.after_nil]
              cases result <;> rfl
            · rw [run_bind, run_change, ← WriteStep.writing, ended]
              cases written with
              | done destination _ _ _ puts _ => exact .done few arrived destination puts
              | failed agrees _ => exact .failed few agrees

/-! ## Where all goes well -/

theorem get_of_success {text : String} {url : Url} {reply : Reply} {world : World}
    (asked : requestUrl text = .ok url)
    (answered : world.network.answer world.network.past ⟨url, agent⟩ = .replied reply)
    (success : reply.succeeded = true) (final : reply.redirects = false) :
    run (get text) world = (.ok (url, reply),
      { world with network := world.network.after [(⟨url, agent⟩, .replied reply)] }) := by
  have sent : run (send text) world = (.ok (url, reply),
      { world with network := world.network.after [(⟨url, agent⟩, .replied reply)] }) := by
    rw [send, asked]
    simp only
    rw [run_bind, run_exchange]
    simp only [Network.exchange, answered]
    rfl
  rw [get, run_bind_of_ok _ sent]
  simp only [final, Bool.not_false, if_true, checkStatus, success]
  rfl

theorem download_of_reply {text : String} {url : Url} {reply : Reply} {path : Path}
    {world : World} {temporary : Place} {after : FileTree}
    (asked : requestUrl text = .ok url)
    (answered : world.network.answer world.network.past ⟨url, agent⟩ = .replied reply)
    (success : reply.succeeded = true) (final : reply.redirects = false)
    (whole : bodyFault? text reply = none)
    (placed : world.files.temporaryPlace (path.parent.getD (.ofString ".")) = .ok temporary)
    (written : world.files.withTemporary temporary
      (WriteStep.writing temporary [reply.body] path) = (.ok (), after)) :
    run (download text path) world = (.ok reply.body.length,
      { world with
        files := after
        network := world.network.after [(⟨url, agent⟩, .replied reply)] }) := by
  rw [download, run_bind_of_ok _ (get_of_success asked answered success final)]
  simp only
  rw [run_bind_of_ok _ (run_files _)]
  simp only [placed, whole]
  rw [run_bind, run_change, ← WriteStep.writing, written]
  rfl

end Fetch

namespace Provisioning

variable (provisioning : Provisioning) (engine : String)

/-! ## Fetching -/

/-- The script of an engine has been put into the cache directory: `middle` is the tree in which
this directory had been created, and `directory` the place to which its path led there. -/
structure Installs (before middle : FileTree) (directory : Place) (content : Bytes)
    (after : FileTree) : Prop where
  made : before.makeDirectories provisioning.cacheDirectory = (.ok (), middle)
  adds : before.AddsDirectories middle
  opens : before.Opens provisioning.cacheDirectory middle
  reached : middle.directoryFor provisioning.cacheDirectory = .ok directory
  puts : middle.PutsFile (directory ++ [Bytes.ofString engine]) content after
  readable : ∀ other, after.directoryFor provisioning.cacheDirectory = .ok other →
    after.contentOf (provisioning.cacheEntry engine).path = .ok content

/-- What has become of files when an engine was to be fetched. -/
inductive Fetches (before : FileTree) :
    Except ProvisionError Path → List (Request × Exchange) → FileTree → Prop
  | done {sent : List (Request × Exchange)} {middle after : FileTree} {directory : Place}
      {content : Bytes} : sent.length ≤ provisioning.remote.mostRequests →
      Fetch.Arrived sent content →
      provisioning.Installs engine before middle directory content after →
      Fetches before (.ok (provisioning.cacheEntry engine).path) sent after
  | failed {error : ProvisionError} {sent : List (Request × Exchange)} {after : FileTree} :
      sent.length ≤ provisioning.remote.mostRequests → before.AddsDirectories after →
      before.Opens provisioning.cacheDirectory after → Fetches before (.error error) sent after

theorem installs_of_destination {before middle after : FileTree} {place : Place} {content : Bytes}
    (plain : Engine.isPlainName engine = true) (wellFormed : before.WellFormed)
    (made : before.makeDirectories provisioning.cacheDirectory = (.ok (), middle))
    (destination : middle.destination (provisioning.cacheEntry engine).path = .ok place)
    (puts : middle.PutsFile place content after) :
    ∃ directory, provisioning.Installs engine before middle directory content after := by
  have enters :=
    Path.enters_joinName provisioning.cacheDirectory (Engine.plain_of_isPlainName plain)
  obtain ⟨adds, _⟩ := makeDirectories_adds wellFormed provisioning.cacheDirectory
  have opens := makeDirectories_opens wellFormed provisioning.cacheDirectory
  rw [made] at adds opens
  obtain ⟨directory, reached⟩ := directoryFor_of_makeDirectories wellFormed made
  obtain ⟨rfl, checked, short⟩ := destination_of_enters enters reached destination
  refine ⟨directory, made, adds, opens, reached, puts, ?_⟩
  intro other reachedLater
  have same := puts.directoryFor reachedLater
  rw [reached, Except.ok.injEq] at same
  apply contentOf_of_enters enters checked short reachedLater
  rw [← same, puts.entries, if_pos rfl]

theorem fetch_fetches (plain : Engine.isPlainName engine = true) {world : World}
    (wellFormed : world.files.WellFormed) :
    (provisioning.fetch engine).Does world (provisioning.Fetches engine world.files) := by
  rw [fetch]
  apply (provisioning.downloadUrl_does engine world).bind
  · rintro error sent files ⟨rfl, few⟩
    exact .failed (by omega) (.refl _) (.refl _ _)
  · rintro url sent asked ⟨kept, few⟩
    rw [← kept] at wellFormed ⊢
    obtain ⟨adds, stillWellFormed⟩ := makeDirectories_adds wellFormed provisioning.cacheDirectory
    have opens := makeDirectories_opens wellFormed provisioning.cacheDirectory
    have prepared : ((provisioning.cacheEntry engine).ensureDirectory).Does asked
        fun result more files => more = [] ∧
          files = (asked.files.makeDirectories provisioning.cacheDirectory).2 ∧
          (result = .ok () →
            (asked.files.makeDirectories provisioning.cacheDirectory).1 = .ok ()) := by
      refine does_change ⟨rfl, rfl, ?_⟩
      rw [cacheEntry]
      cases (asked.files.makeDirectories provisioning.cacheDirectory).1 with
      | error failure => intro same; cases same
      | ok value => exact fun _ => rfl
    apply prepared.bind
    · rintro error more files ⟨rfl, rfl, _⟩
      exact .failed (by simp; omega) adds opens
    · rintro _ none middle ⟨rfl, created, succeeded⟩
      rw [← created] at adds opens stillWellFormed
      have made : asked.files.makeDirectories provisioning.cacheDirectory =
          (.ok (), middle.files) := Prod.ext (succeeded rfl) created.symm
      have downloaded := Fetch.download_downloads url (provisioning.cacheEntry engine).path
        stillWellFormed
      apply downloaded.bind
      · intro error more files downloads
        cases downloads with
        | failed fewMore agrees =>
            exact .failed (by simp; omega) (adds.trans agrees.addsDirectories)
              (opens.agrees agrees)
      · intro size more later downloads
        cases downloads with
        | done fewMore arrived destination puts =>
            obtain ⟨directory, installs⟩ := provisioning.installs_of_destination engine plain
              wellFormed made destination puts
            refine does_pure (.done (by simp; omega) ?_ installs)
            simpa using arrived.append

/-- A fetch succeeds where the template leads to a whole body and the cache can be written. -/
theorem fetch_of_reply {template : String} {url : Url} {reply : Reply} {world : World}
    {middle after : FileTree} {temporary : Place}
    (remote : provisioning.remote = .template template)
    (asked : Fetch.requestUrl (fill template engine) = .ok url)
    (answered : world.network.answer world.network.past ⟨url, Fetch.agent⟩ = .replied reply)
    (success : reply.succeeded = true) (final : reply.redirects = false)
    (complete : reply.complete = true) (nonempty : reply.body ≠ [])
    (made : world.files.makeDirectories provisioning.cacheDirectory = (.ok (), middle))
    (placed : middle.temporaryPlace
      ((provisioning.cacheEntry engine).path.parent.getD (.ofString ".")) = .ok temporary)
    (written : middle.withTemporary temporary (WriteStep.writing temporary [reply.body]
      (provisioning.cacheEntry engine).path) = (.ok (), after)) :
    run (provisioning.fetch engine) world = (.ok (provisioning.cacheEntry engine).path,
      { world with
        files := after
        network := world.network.after [(⟨url, Fetch.agent⟩, .replied reply)] }) := by
  have chosen : run (provisioning.downloadUrl engine) world =
      (.ok (fill template engine), world) := by
    rw [downloadUrl, remote]
    rfl
  have prepared : run (provisioning.cacheEntry engine).ensureDirectory world =
      (.ok (), { world with files := middle }) := by
    rw [CacheEntry.ensureDirectory, run_change, cacheEntry, made]
    rfl
  have whole : Fetch.bodyFault? (fill template engine) reply = none :=
    Fetch.bodyFault?_eq_none_iff.mpr ⟨complete, nonempty⟩
  have downloaded : run (Fetch.download (fill template engine)
      (provisioning.cacheEntry engine).path) { world with files := middle } = _ :=
    Fetch.download_of_reply asked answered success final whole placed written
  rw [fetch, run_bind_of_ok _ chosen, run_bind_of_ok _ prepared, run_bind_of_ok _ downloaded]
  rfl

/-! ## Resolving -/

/-- Where the script of an engine is looked for, in this order. -/
def candidates : List EngineLocation :=
  (provisioning.scriptDirectories.map fun directory =>
    ⟨.bundled, directory.join (Path.ofString engine)⟩) ++
    [⟨.cached, (provisioning.cacheEntry engine).path⟩]

theorem present?_eq_find? (files : FileTree) : provisioning.present? engine files =
    (provisioning.candidates engine).find? fun location => files.isFile location.path := by
  rw [present?, candidates, findBundled, List.find?_append, List.find?_map, List.find?_map]
  simp only [Function.comp_def]
  cases provisioning.scriptDirectories.find? fun directory =>
      files.isFile (directory.join (Path.ofString engine)) with
  | some directory => rfl
  | none =>
      simp only [Option.map_none, Option.none_or, List.find?_singleton]
      rfl

theorem not_fetched_of_mem_candidates {location : EngineLocation}
    (member : location ∈ provisioning.candidates engine) : location.availability ≠ .fetched := by
  rw [candidates, List.mem_append, List.mem_map, List.mem_singleton] at member
  rcases member with ⟨directory, _, rfl⟩ | rfl <;> simp

theorem not_fetched_of_present {files : FileTree} {location : EngineLocation}
    (found : provisioning.present? engine files = some location) :
    location.availability ≠ .fetched ∧ files.isFile location.path = true := by
  rw [present?_eq_find?] at found
  have isFile := List.find?_some found
  exact ⟨provisioning.not_fetched_of_mem_candidates engine (List.mem_of_find?_eq_some found),
    isFile⟩

theorem present?_eq_none_iff {files : FileTree} : provisioning.present? engine files = none ↔
    ∀ location ∈ provisioning.candidates engine, files.isFile location.path = false := by
  simp only [present?_eq_find?, List.find?_eq_none, Bool.not_eq_true]

theorem findBundled_of_absent {files : FileTree}
    (absent : provisioning.present? engine files = none) :
    provisioning.findBundled files engine = none := by
  rw [present?] at absent
  cases bundled : provisioning.findBundled files engine with
  | none => rfl
  | some path =>
      rw [bundled] at absent
      cases absent

/-- What has become of files when an engine was to be resolved: it was present, or it was
fetched, or there was an error. -/
inductive Resolves (before : FileTree) :
    Except ProvisionError Engine → List (Request × Exchange) → FileTree → Prop
  | present {location : EngineLocation} : provisioning.present? engine before = some location →
      Resolves before (.ok ⟨engine, location⟩) [] before
  | fetched {sent : List (Request × Exchange)} {middle after : FileTree} {directory : Place}
      {content : Bytes} : Engine.isPlainName engine = true → provisioning.offline = false →
      provisioning.present? engine before = none →
      sent.length ≤ provisioning.remote.mostRequests → Fetch.Arrived sent content →
      provisioning.Installs engine before middle directory content after →
      Resolves before (.ok ⟨engine, ⟨.fetched, (provisioning.cacheEntry engine).path⟩⟩) sent after
  | failed {error : ProvisionError} {sent : List (Request × Exchange)} {after : FileTree} :
      sent.length ≤ provisioning.remote.mostRequests →
      (sent ≠ [] → Engine.isPlainName engine = true ∧ provisioning.offline = false ∧
        provisioning.present? engine before = none) →
      before.AddsDirectories after → before.Opens provisioning.cacheDirectory after →
      Resolves before (.error error) sent after

theorem resolve_resolves {world : World} (wellFormed : world.files.WellFormed) :
    (provisioning.resolve engine).Does world (provisioning.Resolves engine world.files) := by
  have refused : ∀ error : ProvisionError,
      provisioning.Resolves engine world.files (.error error) [] world.files :=
    fun _ => .failed (Nat.zero_le _) (fun sent => absurd rfl sent) (.refl _) (.refl _ _)
  cases plain : Engine.isPlainName engine with
  | false =>
      rw [resolve, plain]
      exact does_throw (refused _)
  | true =>
      cases found : provisioning.present? engine world.files with
      | some location =>
          refine ⟨[], ?_, ?_⟩
          · rw [provisioning.resolve_of_present engine plain found, Network.after_nil]
          · rw [provisioning.resolve_of_present engine plain found]
            exact .present found
      | none =>
          have absent := provisioning.resolve_of_absent engine plain found
          cases offline : provisioning.offline with
          | true =>
              rw [offline, if_pos rfl] at absent
              refine ⟨[], ?_, ?_⟩
              · rw [absent, Network.after_nil]
              · rw [absent]
                exact refused _
          | false =>
              rw [offline, if_neg (by simp)] at absent
              apply does_of_run absent
              apply (provisioning.fetch_fetches engine plain wellFormed).bind
              · intro error sent after fetches
                cases fetches with
                | failed few adds opens =>
                    exact .failed few (fun _ => ⟨plain, offline, found⟩) adds opens
              · intro path sent later fetches
                cases fetches with
                | done few arrived installs =>
                    rw [← List.append_nil sent] at few arrived
                    exact does_pure (.fetched plain offline found few arrived installs)

/-- What a resolution does.  Few requests are sent, and none at all unless the name is plain, no
candidate is there, and something may be asked.  An engine that is not fetched is the first
candidate that is there, and nothing changes.  One that is fetched is the only new file, and what
arrived.  An error leaves at most new directories for the cache. -/
theorem resolve_does {world : World} (wellFormed : world.files.WellFormed) :
    (provisioning.resolve engine).Does world fun result sent after =>
      sent.length ≤ provisioning.remote.mostRequests ∧
      (sent ≠ [] → Engine.isPlainName engine = true ∧ provisioning.offline = false ∧
        ∀ location ∈ provisioning.candidates engine, world.files.isFile location.path = false) ∧
      match result with
      | .ok found => found.name = engine ∧
        (found.location.availability ≠ .fetched → after = world.files ∧
          (provisioning.candidates engine).find?
            (fun location => world.files.isFile location.path) = some found.location) ∧
        (found.location.availability = .fetched →
          found.location.path = (provisioning.cacheEntry engine).path ∧
          ∃ middle directory content, Fetch.Arrived sent content ∧
            provisioning.Installs engine world.files middle directory content after)
      | .error _ => world.files.AddsDirectories after ∧
        world.files.Opens provisioning.cacheDirectory after := by
  apply (provisioning.resolve_resolves engine wellFormed).mono
  intro result sent after resolves
  cases resolves with
  | present found =>
      have other := (provisioning.not_fetched_of_present engine found).1
      rw [present?_eq_find?] at found
      exact ⟨Nat.zero_le _, fun sent => absurd rfl sent, rfl, fun _ => ⟨rfl, found⟩,
        fun fetched => absurd fetched other⟩
  | fetched plain online absent few arrived installs =>
      have nowhere := (provisioning.present?_eq_none_iff engine).mp absent
      exact ⟨few, fun _ => ⟨plain, online, nowhere⟩, rfl, fun other => absurd rfl other,
        fun _ => ⟨rfl, _, _, _, arrived, installs⟩⟩
  | failed few asked adds opens =>
      refine ⟨few, ?_, adds, opens⟩
      intro any
      obtain ⟨plain, online, absent⟩ := asked any
      exact ⟨plain, online, (provisioning.present?_eq_none_iff engine).mp absent⟩

/-! ## A fetch into an empty cache -/

def sample : Provisioning :=
  ⟨[.ofString "b"], .ofString "c", .template "http://h/\x7bname\x7d", false, .ofSeconds 1⟩

def urlOf (name : String) : Url :=
  ⟨"http", some ⟨"", none, some (.name "h"), none⟩, .segments [name], none, none⟩

def sampleUrl : Url :=
  urlOf "e"

def sampleReply : Reply :=
  ⟨200, [], [0x78], true⟩

/-- Nothing is there, and all requests are answered alike. -/
def sampleWorld : World :=
  .initial ⟨[], []⟩ ⟨fun _ _ => .replied sampleReply, []⟩

theorem requestUrl_of_name : ∀ text ∈ [("http://h/e", "e"), ("http://h/e.h", "e.h")],
    Fetch.requestUrl text.1 = .ok (urlOf text.2) := by
  decide +kernel

theorem requestUrl_filled : Fetch.requestUrl "http://h/e" = .ok sampleUrl :=
  requestUrl_of_name ("http://h/e", "e") (by simp)

theorem requestUrl_sample :
    Fetch.requestUrl (fill "http://h/\x7bname\x7d" "e") = .ok sampleUrl := by
  have filled : fill "http://h/\x7bname\x7d" "e" = "http://h/e" := by cbv
  rw [filled, requestUrl_filled]

/-- An engine may have a name with an extension. -/
theorem requestUrl_dotted :
    Fetch.requestUrl (fill "http://h/\x7bname\x7d" "e.h") = .ok (urlOf "e.h") := by
  have filled : fill "http://h/\x7bname\x7d" "e.h" = "http://h/e.h" := by cbv
  rw [filled]
  exact requestUrl_of_name ("http://h/e.h", "e.h") (by simp)

def fetchedWorld : World :=
  { sampleWorld with
    files := ⟨[([.ofString "c"], .directory), ([.ofString "c", .ofString "e"], .file [0x78])], []⟩
    network := sampleWorld.network.after [(⟨sampleUrl, Fetch.agent⟩, .replied sampleReply)] }

theorem resolve_sample : run (sample.resolve "e") sampleWorld =
    (.ok ⟨"e", ⟨.fetched, .ofString "c/e"⟩⟩, fetchedWorld) := by
  have made : sampleWorld.files.makeDirectories sample.cacheDirectory =
      (.ok (), ⟨[([.ofString "c"], .directory)], []⟩) := by
    cbv
  have path : (sample.cacheEntry "e").path = .ofString "c/e" := by cbv
  have fetched : run (sample.fetch "e") sampleWorld =
      (.ok (sample.cacheEntry "e").path, fetchedWorld) :=
    sample.fetch_of_reply "e" rfl requestUrl_sample rfl rfl rfl rfl (by simp [sampleReply]) made
      (by cbv) (by cbv)
  rw [sample.resolve_of_fetch "e" (by decide) (by cbv) (by cbv) rfl fetched, path]

theorem resolve_does_of_sample : ∃ sent middle directory content,
    fetchedWorld.network = sampleWorld.network.after sent ∧ sent.length ≤ 2 ∧
      Fetch.Arrived sent content ∧
      sample.Installs "e" sampleWorld.files middle directory content fetchedWorld.files := by
  have wellFormed : sampleWorld.files.WellFormed := by decide
  obtain ⟨sent, network, few, _, outcome⟩ := sample.resolve_does "e" wellFormed
  rw [resolve_sample] at network outcome
  obtain ⟨_, _, fetched⟩ := outcome
  obtain ⟨_, middle, directory, content, arrived, installs⟩ := fetched rfl
  exact ⟨sent, middle, directory, content, network, few, arrived, installs⟩

end Provisioning

end TemplateBuild
