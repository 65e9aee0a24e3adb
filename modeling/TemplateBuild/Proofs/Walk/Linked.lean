import TemplateBuild.Proofs.Walk.Discovery

/-!
# A root that is a link

Whether an entry is a directory is asked of the entry itself, also where it is the root of the
walk.  So a link to a directory is entered, and all directories below are visited as by the path of
the directory, but the templates that lie directly in it are passed over.  Apart from that only
the limits of the system tell the two paths from each other: one may be longer than the other, or
lead through more links.
-/

set_option autoImplicit false

namespace TemplateBuild

open FileTree (Precedes Increasing Fits)

/-! ## What a bundle shows whatever the root -/

/-- What a bundle says without the path of the root: where its directory lies below, where its
module goes, and its templates by file name and logical name. -/
structure Bundle.Outline where
  relativeDirectory : Path
  outputFile : Path
  templates : List (Option Name × String)
deriving DecidableEq, Repr

namespace Bundle

def outline (bundle : Bundle) : Outline where
  relativeDirectory := bundle.relativeDirectory
  outputFile := bundle.outputFile
  templates := bundle.templates.map fun template =>
    (template.path.fileName, template.logicalName)

/-- The bundle with those of its templates that are files by the path of another root as well, if
there are any. -/
def seenFrom (files : FileTree) (other : Path) (bundle : Bundle) : Option Bundle :=
  let seen := bundle.templates.filter fun template =>
    template.path.fileName.any fun name =>
      files.isFile (other.descend (bundle.relativeDirectory.normalNames ++ [name]))
  if seen = [] then none else some { bundle with templates := seen }

end Bundle

namespace Walk

variable {files : FileTree} {place : Place}

/-! ## The way through a link -/

theorem begin_of_link {walk : Walk} {spot : Place} {target : Path}
    (link : files.findItself walk.root = .ok (spot, .link target))
    (led : files.find walk.root = .ok (place, .directory)) :
    walk.begin files = [.enter false walk.root []] := by
  rw [begin, link]
  simp only
  rw [led]

/-- The errands that are done behind a link to a directory: those below the directory. -/
theorem sweep_of_link (wellFormed : files.WellFormed) (walk : Walk)
    (reached : files.directoryOf walk.root = .ok place)
    (start : walk.begin files = [.enter false walk.root []]) :
    ∃ done, (walk.items files).1 = walk.given done ∧
      ([] :: entered done).Pairwise (List.Lex Precedes) ∧
      (∀ step ∈ done, step.2 = files ∧ step.1.Real walk.root files place) ∧
      ∀ relative ≠ [], Reachable files place relative → Fits walk.root relative →
        relative ∈ entered done := by
  have found := FileTree.entry?_of_directoryOf wellFormed reached
  obtain ⟨done, sweep, same, items⟩ := items_sweep walk wellFormed
  have apart := (begin_sound walk files).2
  have allWellFormed : ∀ step ∈ done, step.2.WellFormed := fun step member =>
    (same step member) ▸ wellFormed
  obtain ⟨ordered, _⟩ := sweep.ordered allWellFormed apart
  obtain ⟨started, closed⟩ := sweep.closed rfl
  obtain ⟨first, isDone⟩ := started (.enter false walk.root []) (by rw [start]; simp)
  have still : first = files := same _ isDone
  rw [still] at isDone
  have visited := entered_of_reachable wellFormed reached same isDone closed
  rw [start] at sweep
  cases sweep with
  | @next _ _ _ rest begun others =>
      obtain ⟨stillBegun, sameRest⟩ := List.forall_mem_cons.mp same
      simp only at stillBegun
      subst stillBegun
      refine ⟨rest, ?_, ordered, ?_, ?_⟩
      · rw [items, given_cons_of_none rest rfl]
      · intro step member
        refine ⟨sameRest step member, others.real wellFormed reached sameRest ?_ step member⟩
        intro errand isBelow
        rw [List.append_nil, ← Path.descend_nil walk.root] at isBelow
        rw [below_descend wellFormed reached (by rwa [List.append_nil])] at isBelow
        split at isBelow
        · obtain ⟨name, isIn, rfl⟩ := List.mem_map.mp isBelow
          rw [mem_directoriesAt_iff] at isIn
          exact ⟨rfl, rfl, by rwa [← List.append_assoc]⟩
        · next long =>
          rw [List.mem_singleton.mp isBelow]
          exact ⟨rfl, [], rfl, by rwa [List.append_nil], long⟩
      · intro relative inner reachable fits
        rcases List.mem_cons.mp (visited relative reachable fits) with empty | later
        · exact absurd empty inner
        · exact later

/-! ## Templates by two paths -/

/-- The names of the templates of a directory below one root that are files by the path of another
root as well. -/
def sharedNames (walk : Walk) (files : FileTree) (place : Place) (other : Path)
    (relative : List Name) : List Name :=
  (walk.templatesAt files place relative).filter fun name =>
    files.isFile (other.descend (relative ++ [name]))

section Shared

variable (root other : Path) (extensions : List String) (layout : Layout) (relative : List Name)

/-- It does not matter which of two roots is the other one. -/
theorem sharedNames_comm (wellFormed : files.WellFormed) :
    (Walk.of root extensions layout).sharedNames files place other relative =
      (Walk.of other extensions layout).sharedNames files place root relative := by
  have increasing : ∀ first second : Path, Increasing
      ((Walk.of first extensions layout).sharedNames files place second relative) :=
    fun first second =>
      (templateNames_increasing _ files _ _ (wellFormed.nodup_namesIn _)).filter _
  refine (increasing root other).eq_of_mem_iff (increasing other root) fun name => ?_
  rw [sharedNames, sharedNames, List.mem_filter, List.mem_filter,
    mem_templatesAt_iff wellFormed, mem_templatesAt_iff wellFormed, Path.descend_concat,
    Path.descend_concat]
  constructor
  · rintro ⟨⟨listed, isFile, endsIn⟩, alsoFile⟩
    exact ⟨⟨listed, alsoFile, endsIn⟩, isFile⟩
  · rintro ⟨⟨listed, isFile, endsIn⟩, alsoFile⟩
    exact ⟨⟨listed, alsoFile, endsIn⟩, isFile⟩

/-- The outline of the bundle of these templates, which does not depend on the root. -/
def outlineAt (layout : Layout) (relative names : List Name) : Bundle.Outline where
  relativeDirectory := ⟨Path.joinSegments relative⟩
  outputFile := layout.outputFile ⟨Path.joinSegments relative⟩
    ((relative.getLast?.map Bytes.toStringLossy).getD "")
  templates := names.map fun name => (some name, (Path.splitName name).1.toStringLossy)

theorem outline_bundleOf {relative names : List Name} (inner : relative ≠ [])
    (plainWay : ∀ name ∈ relative, Name.Plain name) (plain : ∀ name ∈ names, Name.Plain name) :
    ((Walk.of root extensions layout).bundleOf (root.descend relative) relative
      (names.map fun name => TemplateSource.ofPath ((root.descend relative).joinName name))).outline =
        outlineAt layout relative names := by
  have named : (root.descend relative).fileName = relative.getLast? := by
    obtain ⟨before, last, rfl⟩ := (List.eq_nil_or_concat' relative).resolve_left inner
    rw [Path.descend_concat, Path.fileName_joinName _ (plainWay last (by simp)),
      List.getLast?_concat]
  rw [bundleOf, Bundle.outline, outlineAt, named, List.map_map]
  refine congrArg (Bundle.Outline.mk _ _) (List.map_inj_left.mpr fun name member => ?_)
  have known := Path.fileName_joinName (root.descend relative) (plain name member)
  simp only [Function.comp_apply, TemplateSource.ofPath, Path.fileStem, known, Option.map_some]

theorem seenFrom_bundleOn (wellFormed : files.WellFormed)
    (found : files.entry? (place ++ relative) = some .directory) :
    ((Walk.of root extensions layout).bundleOn files place relative).seenFrom files other =
      let names := (Walk.of root extensions layout).sharedNames files place other relative
      if names = [] then none
      else some ((Walk.of root extensions layout).bundleOf (root.descend relative) relative
        (names.map fun name => TemplateSource.ofPath ((root.descend relative).joinName name))) := by
  have plainWay : ∀ name ∈ relative, Name.Plain name := fun name member =>
    wellFormed.plain found name (List.mem_append_right _ member)
  have seen : ((Walk.of root extensions layout).bundleOn files place relative).templates.filter
      (fun template => template.path.fileName.any fun name =>
        files.isFile (other.descend
          (((Walk.of root extensions layout).bundleOn files place
            relative).relativeDirectory.normalNames ++ [name]))) =
      ((Walk.of root extensions layout).sharedNames files place other relative).map fun name =>
        TemplateSource.ofPath ((root.descend relative).joinName name) := by
    have below : ((Walk.of root extensions layout).bundleOn files place
        relative).relativeDirectory.normalNames = relative :=
      Path.normalNames_joinSegments relative plainWay
    rw [below, bundleOn, bundleOf, sharedNames, List.filter_map]
    refine congrArg (List.map _) (List.filter_congr fun name member => ?_)
    have plain := wellFormed.plain_of_mem_namesIn
      ((mem_templateNames_iff _ files _ _ name).mp member).1
    simp only [Function.comp_apply, TemplateSource.ofPath, Path.fileName_joinName _ plain,
      Option.any_some]
  simp only [Bundle.seenFrom, seen, List.map_eq_nil_iff]
  rfl

variable {root other extensions layout}

/-- A directory with templates that are files by both paths yields a bundle. -/
theorem yields_of_shared (wellFormed : files.WellFormed)
    (reached : files.directoryOf root = .ok place) {relative : List Name}
    (found : files.entry? (place ++ relative) = some .directory)
    (shared : (Walk.of root extensions layout).sharedNames files place other relative ≠ []) :
    Yields (Walk.of root extensions layout) files place relative := by
  obtain ⟨name, member⟩ := List.exists_mem_of_ne_nil _ shared
  have isTemplate := (List.mem_filter.mp member).1
  refine ⟨?_, List.ne_nil_of_mem isTemplate⟩
  rw [templatesAt, mem_templateNames_iff, ← Path.descend_concat] at isTemplate
  obtain ⟨listed, isFile, _⟩ := isTemplate
  have plain := wellFormed.plain_of_mem_namesIn listed
  exact (FileTree.fits_of_isFile wellFormed reached found plain isFile).of_concat plain

/-- The outlines of the bundles of directories below the root, read off the names. -/
theorem outlines_of_ways (wellFormed : files.WellFormed)
    (reached : files.directoryOf root = .ok place) : ∀ ways : List (List Name),
      (∀ way ∈ ways, way ≠ [] ∧ files.entry? (place ++ way) = some .directory) →
      ((((ways.filter fun way => Yields (Walk.of root extensions layout) files place way).map
        ((Walk.of root extensions layout).bundleOn files place)).filterMap
          (Bundle.seenFrom files other)).map Bundle.outline) =
        (ways.filter fun way =>
          (Walk.of root extensions layout).sharedNames files place other way ≠ []).map fun way =>
            outlineAt layout way
              ((Walk.of root extensions layout).sharedNames files place other way) := by
  intro ways
  induction ways with
  | nil => intro _; rfl
  | cons way rest ih =>
      intro all
      obtain ⟨⟨inner, found⟩, others⟩ := List.forall_mem_cons.mp all
      have seen := seenFrom_bundleOn root other extensions layout way wellFormed found
      by_cases shared :
          (Walk.of root extensions layout).sharedNames files place other way = []
      · have passed : (way :: rest).filter (fun way =>
            (Walk.of root extensions layout).sharedNames files place other way ≠ []) =
            rest.filter fun way =>
              (Walk.of root extensions layout).sharedNames files place other way ≠ [] :=
          List.filter_cons_of_neg (by simpa using shared)
        rw [passed, ← ih others]
        simp only [if_pos shared] at seen
        by_cases yields : Yields (Walk.of root extensions layout) files place way
        · rw [List.filter_cons_of_pos (by simpa using yields), List.map_cons,
            List.filterMap_cons_none seen]
        · rw [List.filter_cons_of_neg (by simpa using yields)]
      · have yields := yields_of_shared wellFormed reached found shared
        simp only [if_neg shared] at seen
        rw [List.filter_cons_of_pos (by simpa using yields), List.map_cons,
          List.filterMap_cons_some seen, List.map_cons, ih others,
          List.filter_cons_of_pos (by simpa using shared), List.map_cons,
          outline_bundleOf root extensions layout inner]
        · exact fun name member =>
            wellFormed.plain found name (List.mem_append_right _ member)
        · intro name member
          exact wellFormed.plain_of_mem_namesIn
            ((mem_templateNames_iff _ files _ _ name).mp (List.mem_filter.mp member).1).1

end Shared

/-! ## Two walks -/

theorem bundleOn_isInner (walk : Walk) (wellFormed : files.WellFormed) {relative : List Name}
    (found : files.entry? (place ++ relative) = some .directory) :
    (walk.bundleOn files place relative).relativeDirectory ≠ ⟨[]⟩ ↔ relative ≠ [] := by
  have plainWay : ∀ name ∈ relative, Name.Plain name := fun name member =>
    wellFormed.plain found name (List.mem_append_right _ member)
  refine not_congr ⟨fun empty => ?_, fun empty => by rw [empty]; rfl⟩
  have names := Path.normalNames_joinSegments relative plainWay
  have same : (⟨Path.joinSegments relative⟩ : Path) = ⟨[]⟩ := empty
  rw [same] at names
  rw [← names]
  rfl

/-- The bundles below the root are those of the directories below. -/
theorem filter_bundleOn (walk : Walk) (wellFormed : files.WellFormed) {ways : List (List Name)}
    (found : ∀ way ∈ ways, files.entry? (place ++ way) = some .directory) :
    ((ways.filter fun way => Yields walk files place way).map
        (walk.bundleOn files place)).filter (fun bundle => bundle.relativeDirectory ≠ ⟨[]⟩) =
      (((ways.filter (· ≠ [])).filter fun way => Yields walk files place way).map
        (walk.bundleOn files place)) := by
  rw [List.filter_map, List.filter_comm]
  refine congrArg (List.map _ <| List.filter _ ·) (List.filter_congr fun way member => ?_)
  rw [Function.comp_apply, decide_eq_decide]
  exact bundleOn_isInner walk wellFormed (found way member)

/-- Walks by two paths that each visit every directory below whose path fits come to the same
directories with shared templates, in the same order. -/
theorem filter_shared (wellFormed : files.WellFormed) {root other : Path}
    {extensions : List String} {layout : Layout} (reached : files.directoryOf root = .ok place)
    (alsoReached : files.directoryOf other = .ok place) {ways others : List (List Name)}
    (ordered : ways.Pairwise (List.Lex Precedes)) (alsoOrdered : others.Pairwise (List.Lex Precedes))
    (inner : ∀ way ∈ ways, way ≠ [] ∧ files.entry? (place ++ way) = some .directory)
    (alsoInner : ∀ way ∈ others, way ≠ [] ∧ files.entry? (place ++ way) = some .directory)
    (visited : ∀ way ≠ [], Reachable files place way → Fits root way → way ∈ ways)
    (alsoVisited : ∀ way ≠ [], Reachable files place way → Fits other way → way ∈ others) :
    (ways.filter fun way =>
        (Walk.of root extensions layout).sharedNames files place other way ≠ []) =
      others.filter fun way =>
        (Walk.of other extensions layout).sharedNames files place root way ≠ [] := by
  have found := FileTree.entry?_of_directoryOf wellFormed reached
  have shared : ∀ way, (Walk.of root extensions layout).sharedNames files place other way =
      (Walk.of other extensions layout).sharedNames files place root way := fun way =>
    sharedNames_comm root other extensions layout way wellFormed
  refine List.Pairwise.eq_of_mem_iff (ordered.filter _) (alsoOrdered.filter _) fun way => ?_
  simp only [List.mem_filter, decide_eq_true_eq]
  constructor
  · rintro ⟨member, some⟩
    obtain ⟨isInner, isDirectory⟩ := inner way member
    have reachable := (reachable_iff wellFormed found way).mpr isDirectory
    rw [shared] at some
    have fits := (yields_of_shared wellFormed alsoReached isDirectory some).1
    exact ⟨alsoVisited way isInner reachable fits, some⟩
  · rintro ⟨member, some⟩
    obtain ⟨isInner, isDirectory⟩ := alsoInner way member
    have reachable := (reachable_iff wellFormed found way).mpr isDirectory
    rw [← shared] at some
    have fits := (yields_of_shared wellFormed reached isDirectory some).1
    exact ⟨visited way isInner reachable fits, some⟩

/-- A walk through a link to a directory yields what the walk by the path of the directory yields,
but not the bundle of the directory itself.  Where only one of the two paths shows a template, the
other one is too long for the system or leads through too many links. -/
theorem items_of_linked_root (wellFormed : files.WellFormed) {direct linked : Path} {spot : Place}
    {target : Path} (real : files.findItself direct = .ok (place, .directory))
    (link : files.findItself linked = .ok (spot, .link target))
    (led : files.find linked = .ok (place, .directory)) (extensions : List String)
    (layout : Layout) :
    (∀ bundle ∈ bundlesAmong ((Walk.of linked extensions layout).items files).1,
      bundle.relativeDirectory ≠ ⟨[]⟩) ∧
    ((bundlesAmong ((Walk.of linked extensions layout).items files).1).filterMap
        (Bundle.seenFrom files direct)).map Bundle.outline =
      (((bundlesAmong ((Walk.of direct extensions layout).items files).1).filter fun bundle =>
        bundle.relativeDirectory ≠ ⟨[]⟩).filterMap
          (Bundle.seenFrom files linked)).map Bundle.outline ∧
    ∀ relative name, Reachable files place relative → Name.Plain name →
      files.find (linked.descend (relative ++ [name])) =
          files.find (direct.descend (relative ++ [name])) ∨
        files.Limited (linked.descend (relative ++ [name])) ∨
        files.Limited (direct.descend (relative ++ [name])) := by
  have reached := FileTree.directoryOf_of_findItself real
  have alsoReached := FileTree.directoryOf_eq_ok_iff.mpr led
  have found := FileTree.entry?_of_directoryOf wellFormed reached
  have start := begin_of_link (show files.findItself (Walk.of linked extensions layout).root = _
    from link) led
  obtain ⟨done, items, ordered, all, visited⟩ :=
    sweep_of_link wellFormed (Walk.of linked extensions layout) alsoReached start
  obtain ⟨directDone, directItems, directOrdered, _, directAll, directVisited⟩ :=
    sweep_of_real wellFormed (Walk.of direct extensions layout) real
  obtain ⟨inner, ordered⟩ := List.pairwise_cons.mp ordered
  have isThere := entry?_of_entered fun step isDone => (all step isDone).2
  have isThereToo := entry?_of_entered fun step isDone => (directAll step isDone).2
  have ways : ∀ way ∈ entered done, way ≠ [] ∧ files.entry? (place ++ way) = some .directory := by
    intro way member
    refine ⟨?_, isThere way member⟩
    rintro rfl
    exact List.lex_irrefl FileTree.precedes_irrefl _ (inner [] member)
  rw [items, directItems, bundlesAmong_given wellFormed _ alsoReached done all,
    bundlesAmong_given wellFormed _ reached directDone directAll]
  refine ⟨?_, ?_, fun relative name reachable plain =>
    FileTree.find_descend_of_same wellFormed alsoReached reached
      ((reachable_iff wellFormed found relative).mp reachable) plain⟩
  · intro bundle member
    obtain ⟨way, isWay, rfl⟩ := List.mem_map.mp member
    obtain ⟨isInner, isDirectory⟩ := ways way (List.mem_of_mem_filter isWay)
    exact (bundleOn_isInner _ wellFormed isDirectory).mpr isInner
  · have directWays : ∀ way ∈ (entered directDone).filter (· ≠ []),
        way ≠ [] ∧ files.entry? (place ++ way) = some .directory := by
      intro way member
      rw [List.mem_filter, decide_eq_true_eq] at member
      exact ⟨member.2, isThereToo way member.1⟩
    have directInner : ∀ way ≠ [], Reachable files place way → Fits direct way →
        way ∈ (entered directDone).filter (· ≠ []) := fun way isInner reachable fits =>
      List.mem_filter.mpr ⟨directVisited way reachable fits, decide_eq_true isInner⟩
    rw [filter_bundleOn _ wellFormed isThereToo, outlines_of_ways wellFormed alsoReached _ ways,
      outlines_of_ways wellFormed reached _ directWays,
      filter_shared wellFormed alsoReached reached ordered (directOrdered.filter _) ways
        directWays visited directInner]
    exact List.map_congr_left fun way _ => by
      rw [sharedNames_comm linked direct extensions layout way wellFormed]

/-- A directory with a template, one below it with another, and a link to the directory. -/
def linkedFiles : FileTree where
  entries := [
    ([Bytes.ofString "d"], .directory),
    ([Bytes.ofString "d", Bytes.ofString "a.h"], .file (Bytes.ofString "x")),
    ([Bytes.ofString "d", Bytes.ofString "b"], .directory),
    ([Bytes.ofString "d", Bytes.ofString "b", Bytes.ofString "c.h"], .file (Bytes.ofString "y")),
    ([Bytes.ofString "p"], .link (.ofString "d"))]
  working := []

def linkedLayout : Layout :=
  ⟨.ofString "/o", .preserve, "js"⟩

/-- The bundle below is the same by both paths; the one of the directory itself is missing. -/
theorem items_of_linkedFiles :
    let linked := bundlesAmong ((Walk.of (.ofString "/p") ["h"] linkedLayout).items linkedFiles).1
    let direct := bundlesAmong ((Walk.of (.ofString "/d") ["h"] linkedLayout).items linkedFiles).1
    (linked.filterMap (Bundle.seenFrom linkedFiles (.ofString "/d"))).map Bundle.outline =
        ((direct.filter fun bundle => bundle.relativeDirectory ≠ ⟨[]⟩).filterMap
          (Bundle.seenFrom linkedFiles (.ofString "/p"))).map Bundle.outline ∧
      linked.map Bundle.outline = [outlineAt linkedLayout [Bytes.ofString "b"]
        [Bytes.ofString "c.h"]] ∧
      direct.map Bundle.outline = [
        ⟨⟨[]⟩, .ofString "/o/d.js", [(some (Bytes.ofString "a.h"), "a")]⟩,
        outlineAt linkedLayout [Bytes.ofString "b"] [Bytes.ofString "c.h"]] := by
  have wellFormed : linkedFiles.WellFormed := by decide
  have real : linkedFiles.findItself (.ofString "/d") =
      .ok ([Bytes.ofString "d"], .directory) := by cbv
  have link : linkedFiles.findItself (.ofString "/p") =
      .ok ([Bytes.ofString "p"], .link (.ofString "d")) := by cbv
  have led : linkedFiles.find (.ofString "/p") = .ok ([Bytes.ofString "d"], .directory) := by cbv
  exact ⟨(items_of_linked_root wellFormed real link led ["h"] linkedLayout).2.1, by cbv, by cbv⟩

end Walk
end TemplateBuild
