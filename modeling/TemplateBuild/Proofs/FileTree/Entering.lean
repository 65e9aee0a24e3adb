import TemplateBuild.Proofs.FileTree.Growing

/-!
# Names below a path

What a path with a name at its end stands for lies in the directory to which the path before the
name leads.  As long as a tree grows, this is one directory: a file that takes the place of a link
may close the way, but no other directory is reached by it.
-/

set_option autoImplicit false

namespace TemplateBuild.FileTree

/-! ## What becomes of links -/

namespace Grown

variable {wanted : Name → Prop} {before middle after : FileTree}

/-- No link is new. -/
theorem link_found (grown : Grown wanted before after) {place : Place} {target : Path}
    (found : after.entry? place = some (.link target)) :
    before.entry? place = some (.link target) := by
  rcases grown.entries place with same | ⟨_, created⟩ | ⟨_, ⟨content, written⟩, _⟩
  · rw [← same, found]
  · rw [created] at found
    cases found
  · rw [written] at found
    cases found

/-- A directory is no link before or afterwards. -/
theorem not_link_of_directory {one other : FileTree} (grown : Grown wanted before one)
    (grownToo : Grown wanted before other) {place : Place} {target : Path}
    (found : one.entry? place = some .directory) :
    other.entry? place ≠ some (.link target) := by
  intro isLink
  have earlier := grownToo.link_found isLink
  rcases grown.entries place with same | ⟨absent, _⟩ | ⟨_, ⟨content, written⟩, _⟩
  · rw [same, earlier] at found
    cases found
  · rw [absent] at earlier
    cases earlier
  · rw [written] at found
    cases found

theorem trans (grown : Grown wanted before middle) (further : Grown wanted middle after) :
    Grown wanted before after := by
  refine ⟨further.working.trans grown.working, fun place => ?_⟩
  rcases further.entries place with same | ⟨absent, created⟩ | ⟨leaf, written, unwanted⟩
  · rw [same]
    exact grown.entries place
  · rcases grown.entries place with same | ⟨_, found⟩ | ⟨_, ⟨content, found⟩, _⟩
    · exact .inr (.inl ⟨same.symm.trans absent, created⟩)
    · rw [absent] at found
      cases found
    · rw [absent] at found
      cases found
  · exact .inr (.inr ⟨fun found => leaf (grown.directory found), written, unwanted⟩)

end Grown

/-! ## Ways to directories -/

/-- Two trees that one tree has grown to lead to the same directory, if both lead to one. -/
theorem Leads.same_directory {wanted : Name → Prop} {before one other : FileTree}
    (grown : Grown wanted before one) (grownToo : Grown wanted before other) {links : Nat}
    {start : Place} {moves : List Path.Move} {arrival : Arrival}
    (leads : one.Leads true links start moves arrival) : ∀ directory another,
      arrival = .present directory .directory →
      other.Leads true links start moves (.present another .directory) → another = directory := by
  induction leads with
  | finished links place =>
      intro directory another same leadsToo
      cases same
      cases leadsToo
      rfl
  | stay _ ih =>
      intro directory another same leadsToo
      cases leadsToo with
      | stay further => exact ih directory another same further
  | up _ ih =>
      intro directory another same leadsToo
      cases leadsToo with
      | up further => exact ih directory another same further
  | missing =>
      intro _ _ same _
      cases same
  | directory _ found _ ih =>
      intro directory another same leadsToo
      cases leadsToo with
      | directory _ _ further => exact ih directory another same further
      | link _ _ isLink => exact absurd isLink (grown.not_link_of_directory grownToo found)
  | file =>
      intro _ _ same _
      cases same
  | itself notThrough => cases notThrough
  | link _ _ isLink _ _ ih =>
      intro directory another same leadsToo
      cases leadsToo with
      | directory _ found => exact absurd isLink (grownToo.not_link_of_directory grown found)
      | link _ _ isLinkToo _ further =>
          have target := (grown.link_found isLink).symm.trans (grownToo.link_found isLinkToo)
          cases target
          exact ih directory another same further

/-- Before more moves are made, a directory is reached. -/
theorem Leads.before_more {tree : FileTree} {through : Bool} {links : Nat} {start : Place}
    {whole more : List Path.Move} {arrival : Arrival} (further : more ≠ [])
    (leads : tree.Leads through links start whole arrival) : ∀ moves,
      whole = moves ++ more → ∃ left directory,
        tree.Leads true links start moves (.present directory .directory) ∧
          tree.Leads through left directory more arrival := by
  have single : ∀ (move first : Path.Move) (others : List Path.Move),
      [move] ≠ first :: others ++ more := by
    intro move first others same
    rw [List.cons_append, List.cons.injEq] at same
    exact further (List.append_eq_nil_iff.mp same.2.symm).2
  have atOnce : ∀ {links place moves arrival}, tree.Leads through links place moves arrival →
      moves = more → ∃ left directory,
        tree.Leads true links place [] (.present directory .directory) ∧
          tree.Leads through left directory more arrival := by
    rintro links place moves arrival leads rfl
    exact ⟨links, place, .finished links place, leads⟩
  induction leads with
  | finished links place =>
      intro moves shape
      exact absurd (List.append_eq_nil_iff.mp shape.symm).2 further
  | @stay links place rest arrival leads ih =>
      rintro (_ | ⟨first, others⟩) shape
      · exact atOnce (.stay leads) shape
      · cases shape
        obtain ⟨left, directory, reached, goesOn⟩ := ih others rfl
        exact ⟨left, directory, .stay reached, goesOn⟩
  | @up links place rest arrival leads ih =>
      rintro (_ | ⟨first, others⟩) shape
      · exact atOnce (.up leads) shape
      · cases shape
        obtain ⟨left, directory, reached, goesOn⟩ := ih others rfl
        exact ⟨left, directory, .up reached, goesOn⟩
  | @missing links place name short absent =>
      rintro (_ | ⟨first, others⟩) shape
      · exact atOnce (.missing short absent) shape
      · exact absurd shape (single _ _ _)
  | @directory links place name rest arrival short found leads ih =>
      rintro (_ | ⟨first, others⟩) shape
      · exact atOnce (.directory short found leads) shape
      · cases shape
        obtain ⟨left, directory, reached, goesOn⟩ := ih others rfl
        exact ⟨left, directory, .directory short found reached, goesOn⟩
  | @file links place name content short found =>
      rintro (_ | ⟨first, others⟩) shape
      · exact atOnce (.file short found) shape
      · exact absurd shape (single _ _ _)
  | @itself links place name target notThrough short found =>
      rintro (_ | ⟨first, others⟩) shape
      · exact atOnce (.itself notThrough short found) shape
      · exact absurd shape (single _ _ _)
  | @link links place name rest target arrival ended short found filled leads ih =>
      rintro (_ | ⟨first, others⟩) shape
      · exact atOnce (.link ended short found filled leads) shape
      · cases shape
        obtain ⟨left, directory, reached, goesOn⟩ :=
          ih (target.moves ++ others) (List.append_assoc ..).symm
        exact ⟨left, directory, .link (fun last => absurd last.2 (by simp)) short found filled
          reached, goesOn⟩

/-! ## Directories of paths -/

/-- The names below a path lie in the directory at this place. -/
def Hosts (tree : FileTree) (base : Path) (directory : Place) : Prop :=
  tree.Leads true mostLinks (tree.startPlace base) base.way (.present directory .directory)

section

variable {tree : FileTree} {base : Path} {name : Name}

theorem Hosts.unique {wanted : Name → Prop} {before one other : FileTree}
    (grown : Grown wanted before one) (grownToo : Grown wanted before other)
    {directory another : Place} (hosts : one.Hosts base directory)
    (hostsToo : other.Hosts base another) : another = directory := by
  have starts : other.startPlace base = one.startPlace base := by
    rw [startPlace, startPlace, grown.working, grownToo.working]
  rw [Hosts, starts] at hostsToo
  exact hosts.same_directory grown grownToo directory another rfl hostsToo

/-- Whatever a tree grows to, the names below a path do not lie in another directory. -/
def HostsOnly (tree : FileTree) (base : Path) (directory : Place) : Prop :=
  ∀ grown other, Grown (fun _ => False) tree grown → grown.Hosts base other → other = directory

theorem HostsOnly.later {after : FileTree} {directory : Place}
    (only : tree.HostsOnly base directory) (grown : Grown (fun _ => False) tree after) :
    after.HostsOnly base directory :=
  fun last other further => only last other (grown.trans further)

theorem leads_joinName {through : Bool} {arrival : Arrival} (plain : Name.Plain name)
    (leads : tree.Leads through mostLinks (tree.startPlace (base.joinName name))
      (base.joinName name).moves arrival) :
    ∃ left directory, tree.Hosts base directory ∧
      tree.Leads through left directory [.enter name] arrival := by
  have starts : tree.startPlace (base.joinName name) = tree.startPlace base := by
    rw [startPlace, startPlace, Path.joinName,
      Path.isAbsolute_join (Path.isAbsolute_of_slashless plain.slashless)]
  have shape : (base.joinName name).moves = base.way ++ [.enter name] := by
    rw [Path.joinName, Path.moves_join_slashless base plain.slashless plain.nonempty,
      Path.way_join (Path.isAbsolute_of_slashless plain.slashless), Path.way_name plain]
  rw [starts, shape] at leads
  exact leads.before_more (List.cons_ne_nil _ _) base.way rfl

/-- The end of a path is the name in the directory of the rest. -/
theorem hosts_of_destination (plain : Name.Plain name) {place : Place}
    (reached : tree.destination (base.joinName name) = .ok place) :
    ∃ directory, tree.Hosts base directory ∧ place = directory ++ [name] := by
  obtain ⟨arrival, located, rfl⟩ := destination_eq_ok_iff.mp reached
  obtain ⟨_, _, leads⟩ := locateItself_eq_ok_iff.mp located
  rw [Path.dropSlashes_eq (Path.bare_joinName base plain)] at leads
  obtain ⟨left, directory, hosts, enters⟩ := leads_joinName plain leads
  refine ⟨directory, hosts, ?_⟩
  cases enters with
  | missing => rfl
  | directory _ _ further =>
      cases further
      rfl
  | file => rfl
  | itself => rfl
  | link goesOn => exact absurd ⟨rfl, rfl⟩ goesOn

/-- What is read by a path is the file of this name in the directory of the rest. -/
theorem contentOf_of_hosts (plain : Name.Plain name) {directory : Place} {content : Bytes}
    (only : tree.HostsOnly base directory)
    (found : tree.entry? (directory ++ [name]) = some (.file content)) {present : Bytes}
    (reads : tree.contentOf (base.joinName name) = .ok present) : present = content := by
  obtain ⟨place, reached⟩ := contentOf_eq_ok_iff.mp reads
  rw [find_eq_ok_iff, locateThrough_eq_ok_iff] at reached
  obtain ⟨left, other, hosts, enters⟩ := leads_joinName plain reached.2
  obtain rfl := only tree other (.refl tree) hosts
  cases enters with
  | directory _ isDirectory =>
      rw [found] at isDirectory
      cases isDirectory
  | file _ isFile =>
      rw [found] at isFile
      cases isFile
      rfl
  | link _ _ isLink =>
      rw [found] at isLink
      cases isLink

end

/-! ## Files stored below a path -/

section

variable {before after : FileTree} {base : Path} {name : Name} {content : Bytes}

theorem Stores.grown {path : Path} (stores : before.Stores path content after) :
    Grown (fun _ => False) before after := by
  obtain ⟨middle, place, adds, _, leaf, _, _, puts⟩ := stores
  exact ((Grown.refl before).adds adds).puts puts leaf fun _ _ => id

/-- Where a file is stored below a path, there is one directory for the names below it. -/
theorem Stores.hostsOnly (plain : Name.Plain name)
    (stores : before.Stores (base.joinName name) content after) :
    ∃ directory, before.HostsOnly base directory := by
  obtain ⟨middle, place, adds, reached, _⟩ := stores
  obtain ⟨directory, hosts, _⟩ := hosts_of_destination plain reached
  exact ⟨directory, fun grown other grows hostsToo =>
    hosts.unique ((Grown.refl before).adds adds) grows hostsToo⟩

/-- A file that is stored below a path is put in the directory that the path has. -/
theorem Stores.puts_below (plain : Name.Plain name)
    (stores : before.Stores (base.joinName name) content after) {directory : Place}
    (only : before.HostsOnly base directory) : ∃ middle, before.AddsDirectories middle ∧
      (base.joinName name).hasSlashAtEnd = false ∧
      middle.destination (base.joinName name) = .ok (directory ++ [name]) ∧
      middle.PutsFile (directory ++ [name]) content after := by
  obtain ⟨middle, place, adds, reached, _, _, bare, puts⟩ := stores
  obtain ⟨other, hosts, rfl⟩ := hosts_of_destination plain reached
  obtain rfl := only middle other ((Grown.refl before).adds adds) hosts
  exact ⟨middle, adds, bare, reached, puts⟩

/-- A file that is stored below a path lies there, and nothing else that was there is different. -/
theorem Stores.below (plain : Name.Plain name)
    (stores : before.Stores (base.joinName name) content after) {directory : Place}
    (only : before.HostsOnly base directory) :
    after.entry? (directory ++ [name]) = some (.file content) ∧
      ∀ place entry, place ≠ directory ++ [name] → before.entry? place = some entry →
        after.entry? place = some entry := by
  obtain ⟨middle, adds, _, _, puts⟩ := stores.puts_below plain only
  constructor
  · rw [puts.entries, if_pos rfl]
  · intro place entry elsewhere found
    rw [puts.entries, if_neg elsewhere]
    exact adds.keeps found

/-- In a tree without links, the file is read by its path as long as it lies there. -/
theorem Stores.contentOf_below (plain : Name.Plain name) (free : before.LinkFree)
    (stores : before.Stores (base.joinName name) content after) {directory : Place}
    (only : before.HostsOnly base directory) {last : FileTree}
    (grown : Grown (fun _ => False) after last)
    (found : last.entry? (directory ++ [name]) = some (.file content)) :
    last.contentOf (base.joinName name) = .ok content := by
  obtain ⟨middle, adds, bare, reached, _⟩ := stores.puts_below plain only
  have landing := landingOf_of_destination (adds.linkFree free) bare reached
  rw [landingOf_congr adds.working] at landing
  rw [landing] at found
  exact stores.contentOf free grown.working (fun _ => grown.directory) found

end

end TemplateBuild.FileTree
