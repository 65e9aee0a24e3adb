import TemplateBuild.Proofs.FileTree.Entries

/-!
# Following paths

What is known of the place at which moves arrive: something lies there or nothing does, the
way goes on from a directory as it would from the place of that directory, and what a change of
the tree leaves in place is reached as before.  Without links the place can be read off the
moves alone.
-/

set_option autoImplicit false

namespace TemplateBuild.FileTree

open Path (Move)

section Equations

variable (tree : FileTree) (through : Bool) (links : Nat) (place : Place)

@[simp]
theorem follow_nil : tree.follow through links place [] = .ok (.present place .directory) := by
  rw [follow]

@[simp]
theorem follow_stay (rest : List Move) :
    tree.follow through links place (.stay :: rest) = tree.follow through links place rest := by
  rw [follow]

@[simp]
theorem follow_up (rest : List Move) : tree.follow through links place (.up :: rest) =
    tree.follow through links place.dropLast rest := by
  rw [follow]

variable {tree through links place} {name : Name} {rest : List Move}

theorem follow_long (long : longestName < name.length) :
    tree.follow through links place (.enter name :: rest) = .error .nameTooLong := by
  rw [follow, if_pos long]

theorem follow_missing (short : name.length ≤ longestName)
    (found : tree.entry? (place ++ [name]) = none) :
    tree.follow through links place (.enter name :: rest) =
      if rest = [] then .ok (.absent place name) else .error .notFound := by
  rw [follow, if_neg (Nat.not_lt.mpr short), found]

theorem follow_directory (short : name.length ≤ longestName)
    (found : tree.entry? (place ++ [name]) = some .directory) :
    tree.follow through links place (.enter name :: rest) =
      tree.follow through links (place ++ [name]) rest := by
  rw [follow, if_neg (Nat.not_lt.mpr short), found]

theorem follow_file {content : Bytes} (short : name.length ≤ longestName)
    (found : tree.entry? (place ++ [name]) = some (.file content)) :
    tree.follow through links place (.enter name :: rest) =
      if rest = [] then .ok (.present (place ++ [name]) (.file content))
      else .error .notDirectory := by
  rw [follow, if_neg (Nat.not_lt.mpr short), found]

theorem follow_link {target : Path} (short : name.length ≤ longestName)
    (found : tree.entry? (place ++ [name]) = some (.link target)) :
    tree.follow through links place (.enter name :: rest) =
      if rest = [] ∧ through = false then .ok (.present (place ++ [name]) (.link target))
      else match links with
        | 0 => .error .tooManyLinks
        | links + 1 =>
          if target.isEmpty then .error .notFound
          else tree.follow through links (if target.isAbsolute then [] else place)
            (target.moves ++ rest) := by
  cases links with
  | zero =>
      rw [follow, if_neg (Nat.not_lt.mpr short), found]
  | succ links =>
      rw [follow, if_neg (Nat.not_lt.mpr short), found]

end Equations

/-! ## Where moves lead -/

/-- Moves lead from a place to an arrival, while so many links may be followed. -/
inductive Leads (tree : FileTree) (through : Bool) : Nat → Place → List Move → Arrival → Prop
  | finished (links : Nat) (place : Place) :
      Leads tree through links place [] (.present place .directory)
  | stay {links : Nat} {place : Place} {rest : List Move} {arrival : Arrival} :
      Leads tree through links place rest arrival →
      Leads tree through links place (.stay :: rest) arrival
  | up {links : Nat} {place : Place} {rest : List Move} {arrival : Arrival} :
      Leads tree through links place.dropLast rest arrival →
      Leads tree through links place (.up :: rest) arrival
  | missing {links : Nat} {place : Place} {name : Name} :
      name.length ≤ longestName → tree.entry? (place ++ [name]) = none →
      Leads tree through links place [.enter name] (.absent place name)
  | directory {links : Nat} {place : Place} {name : Name} {rest : List Move}
      {arrival : Arrival} :
      name.length ≤ longestName → tree.entry? (place ++ [name]) = some .directory →
      Leads tree through links (place ++ [name]) rest arrival →
      Leads tree through links place (.enter name :: rest) arrival
  | file {links : Nat} {place : Place} {name : Name} {content : Bytes} :
      name.length ≤ longestName → tree.entry? (place ++ [name]) = some (.file content) →
      Leads tree through links place [.enter name] (.present (place ++ [name]) (.file content))
  | itself {links : Nat} {place : Place} {name : Name} {target : Path} :
      through = false → name.length ≤ longestName →
      tree.entry? (place ++ [name]) = some (.link target) →
      Leads tree through links place [.enter name] (.present (place ++ [name]) (.link target))
  | link {links : Nat} {place : Place} {name : Name} {rest : List Move} {target : Path}
      {arrival : Arrival} :
      ¬ (rest = [] ∧ through = false) → name.length ≤ longestName →
      tree.entry? (place ++ [name]) = some (.link target) → target.isEmpty = false →
      Leads tree through links (if target.isAbsolute then [] else place) (target.moves ++ rest)
        arrival →
      Leads tree through (links + 1) place (.enter name :: rest) arrival

theorem leads_of_follow {tree : FileTree} {through : Bool} {links : Nat} {place : Place}
    {moves : List Move} {arrival : Arrival}
    (success : tree.follow through links place moves = .ok arrival) :
    tree.Leads through links place moves arrival := by
  fun_induction tree.follow through links place moves with
  | case1 links place => cases success; exact .finished links place
  | case2 links place rest ih => exact .stay (ih success)
  | case3 links place rest ih => exact .up (ih success)
  | case5 links place name short found =>
      cases success
      exact .missing (Nat.not_lt.mp short) found
  | case7 links place name rest short found ih =>
      exact .directory (Nat.not_lt.mp short) found (ih success)
  | case8 links place name short content found =>
      cases success
      exact .file (Nat.not_lt.mp short) found
  | case10 links place name rest short target found last =>
      cases success
      obtain ⟨rfl, notThrough⟩ := last
      exact .itself notThrough (Nat.not_lt.mp short) found
  | case13 place name rest short target found last links filled ih =>
      exact .link last (Nat.not_lt.mp short) found (Bool.eq_false_iff.mpr filled) (ih success)
  | case4 | case6 | case9 | case11 | case12 => cases success

theorem follow_of_leads {tree : FileTree} {through : Bool} {links : Nat} {place : Place}
    {moves : List Move} {arrival : Arrival}
    (leads : tree.Leads through links place moves arrival) :
    tree.follow through links place moves = .ok arrival := by
  induction leads with
  | finished links place => exact follow_nil tree through links place
  | stay _ ih => rw [follow_stay, ih]
  | up _ ih => rw [follow_up, ih]
  | missing short found => rw [follow_missing short found, if_pos rfl]
  | directory short found _ ih => rw [follow_directory short found, ih]
  | file short found => rw [follow_file short found, if_pos rfl]
  | itself notThrough short found => rw [follow_link short found, if_pos ⟨rfl, notThrough⟩]
  | link last short found filled _ ih =>
      rw [follow_link short found, if_neg last]
      simp only [filled, Bool.false_eq_true, if_false]
      exact ih

theorem follow_eq_ok_iff {tree : FileTree} {through : Bool} {links : Nat} {place : Place}
    {moves : List Move} {arrival : Arrival} :
    tree.follow through links place moves = .ok arrival ↔
      tree.Leads through links place moves arrival :=
  ⟨leads_of_follow, follow_of_leads⟩

/-! ## What is known of an arrival -/

/-- What an arrival says of the tree. -/
def Arrival.Holds (tree : FileTree) : Arrival → Prop
  | .present place entry => tree.entry? place = some entry
  | .absent directory name =>
    tree.entry? directory = some .directory ∧ tree.entry? (directory ++ [name]) = none

section Arrivals

variable {tree : FileTree} {through : Bool} {links : Nat} {place : Place} {moves : List Move}

/-- The directory from which moves start, or at which they are after a link. -/
theorem entry?_start {target : Path}
    (start : tree.entry? place = some .directory) :
    tree.entry? (if target.isAbsolute then [] else place) = some .directory := by
  split
  · rfl
  · exact start

/-- What is said to be present is there, and what is said to be absent is not. -/
theorem Leads.holds (wellFormed : tree.WellFormed) {arrival : Arrival}
    (leads : tree.Leads through links place moves arrival) :
    tree.entry? place = some .directory → arrival.Holds tree := by
  induction leads with
  | finished links place => exact id
  | stay _ ih => exact ih
  | up _ ih => exact fun start => ih (wellFormed.dropLast_directory start)
  | missing _ found => exact fun start => ⟨start, found⟩
  | directory _ found _ ih => exact fun _ => ih found
  | file _ found => exact fun _ => found
  | itself _ _ found => exact fun _ => found
  | link _ _ _ _ _ ih => exact fun start => ih (entry?_start start)

/-- A missing name is the last one of the moves, unless a link at the end led to it. -/
theorem Leads.last_of_absent {directory : Place} {name : Name} {arrival : Arrival}
    (leads : tree.Leads false links place moves arrival) :
    arrival = .absent directory name → moves.getLast? = some (.enter name) := by
  induction leads with
  | finished links place => intro same; cases same
  | stay _ ih =>
      intro same
      have last := ih same
      rw [List.getLast?_cons, last]
      rfl
  | up _ ih =>
      intro same
      have last := ih same
      rw [List.getLast?_cons, last]
      rfl
  | missing _ _ => intro same; cases same; rfl
  | directory _ _ _ ih =>
      intro same
      have last := ih same
      rw [List.getLast?_cons, last]
      rfl
  | file _ _ => intro same; cases same
  | itself _ _ _ => intro same; cases same
  | @link _ _ _ rest _ _ last _ _ _ _ ih =>
      intro same
      have later := ih same
      have inner : rest ≠ [] := fun empty => last ⟨empty, rfl⟩
      rw [List.getLast?_append] at later
      rw [List.getLast?_cons]
      cases found : rest.getLast? with
      | none => exact absurd (List.getLast?_eq_none_iff.mp found) inner
      | some move =>
          rw [found] at later
          simpa using later

/-- What stays where it was is reached as before. -/
theorem Leads.keeps {other : FileTree}
    (kept : ∀ place entry, tree.entry? place = some entry → other.entry? place = some entry)
    {arrival : Arrival} (leads : tree.Leads through links place moves arrival) :
    ∀ found entry, arrival = .present found entry →
      other.Leads through links place moves arrival := by
  induction leads with
  | finished links place => intro _ _ _; exact .finished links place
  | stay _ ih => intro found entry same; exact .stay (ih found entry same)
  | up _ ih => intro found entry same; exact .up (ih found entry same)
  | missing _ _ => intro _ _ same; cases same
  | directory short found _ ih =>
      intro place entry same
      exact .directory short (kept _ _ found) (ih place entry same)
  | file short found => intro _ _ _; exact .file short (kept _ _ found)
  | itself notThrough short found => intro _ _ _; exact .itself notThrough short (kept _ _ found)
  | link last short found filled _ ih =>
      intro place entry same
      exact .link last short (kept _ _ found) filled (ih place entry same)

/-- Whether a link at the end is followed makes no difference where a directory is reached
without one. -/
theorem Leads.through_of_directory {directory : Place} {arrival : Arrival}
    (leads : tree.Leads false links place moves arrival) :
    arrival = .present directory .directory → tree.Leads true links place moves arrival := by
  induction leads with
  | finished links place => intro _; exact .finished links place
  | stay _ ih => intro same; exact .stay (ih same)
  | up _ ih => intro same; exact .up (ih same)
  | missing _ _ => intro same; cases same
  | directory short found _ ih => intro same; exact .directory short found (ih same)
  | file _ _ => intro same; cases same
  | itself _ _ _ => intro same; cases same
  | link _ short found filled _ ih =>
      intro same
      exact .link (fun last => absurd last.2 (by simp)) short found filled (ih same)

/-- Moves that arrive at a directory can be followed by more, which go on from there. -/
theorem follow_append {directory : Place} {arrival : Arrival}
    (leads : tree.Leads through links place moves arrival) :
    arrival = .present directory .directory →
      ∃ left, left ≤ links ∧ ∀ more, tree.follow through links place (moves ++ more) =
        tree.follow through left directory more := by
  induction leads with
  | finished links place => intro same; cases same; exact ⟨links, Nat.le_refl _, fun _ => rfl⟩
  | stay _ ih =>
      intro same
      obtain ⟨left, fewer, goesOn⟩ := ih same
      exact ⟨left, fewer, fun more => by rw [List.cons_append, follow_stay, goesOn]⟩
  | up _ ih =>
      intro same
      obtain ⟨left, fewer, goesOn⟩ := ih same
      exact ⟨left, fewer, fun more => by rw [List.cons_append, follow_up, goesOn]⟩
  | missing _ _ => intro same; cases same
  | directory short found _ ih =>
      intro same
      obtain ⟨left, fewer, goesOn⟩ := ih same
      refine ⟨left, fewer, ?_⟩
      intro more
      rw [List.cons_append, follow_directory short found, goesOn]
  | file _ _ => intro same; cases same
  | itself _ _ _ => intro same; cases same
  | @link _ _ _ rest _ _ last short found filled _ ih =>
      intro same
      obtain ⟨left, fewer, goesOn⟩ := ih same
      refine ⟨left, Nat.le_succ_of_le fewer, ?_⟩
      intro more
      have notLast : ¬ (rest ++ more = [] ∧ through = false) := by
        rintro ⟨empty, notThrough⟩
        exact last ⟨(List.append_eq_nil_iff.mp empty).1, notThrough⟩
      rw [List.cons_append, follow_link short found, if_neg notLast]
      simp only [filled, Bool.false_eq_true, if_false]
      rw [← List.append_assoc, goesOn]

/-- A way that would arrive at a directory after one more stay goes on from there. -/
theorem follow_append_of_stay {directory : Place} {whole : List Move} {arrival : Arrival}
    (leads : tree.Leads through links place whole arrival) :
    ∀ moves, whole = moves ++ [.stay] → arrival = .present directory .directory →
      ∃ left, left ≤ links ∧ ∀ more, more ≠ [] →
        tree.follow through links place (moves ++ more) =
          tree.follow through left directory more := by
  induction leads with
  | finished links place => intro moves shape _; simp at shape
  | @stay links place rest arrival leads ih =>
      intro moves shape same
      cases moves with
      | nil =>
          rw [List.nil_append, List.cons.injEq] at shape
          rw [shape.2, same] at leads
          cases leads
          exact ⟨links, Nat.le_refl _, fun _ _ => rfl⟩
      | cons first others =>
          rw [List.cons_append, List.cons.injEq] at shape
          obtain ⟨left, fewer, goesOn⟩ := ih others shape.2 same
          refine ⟨left, fewer, fun more inner => ?_⟩
          rw [← shape.1, List.cons_append, follow_stay, goesOn more inner]
  | up _ ih =>
      intro moves shape same
      cases moves with
      | nil => simp at shape
      | cons first others =>
          rw [List.cons_append, List.cons.injEq] at shape
          obtain ⟨left, fewer, goesOn⟩ := ih others shape.2 same
          refine ⟨left, fewer, fun more inner => ?_⟩
          rw [← shape.1, List.cons_append, follow_up, goesOn more inner]
  | missing _ _ => intro _ _ same; cases same
  | directory short found _ ih =>
      intro moves shape same
      cases moves with
      | nil => simp at shape
      | cons first others =>
          rw [List.cons_append, List.cons.injEq] at shape
          obtain ⟨left, fewer, goesOn⟩ := ih others shape.2 same
          refine ⟨left, fewer, fun more inner => ?_⟩
          rw [← shape.1, List.cons_append, follow_directory short found, goesOn more inner]
  | file _ _ => intro _ _ same; cases same
  | itself _ _ _ => intro _ _ same; cases same
  | @link _ _ _ rest target _ _ short found filled _ ih =>
      intro moves shape same
      cases moves with
      | nil => simp at shape
      | cons first others =>
          rw [List.cons_append, List.cons.injEq] at shape
          obtain ⟨left, fewer, goesOn⟩ :=
            ih (target.moves ++ others) (by rw [shape.2, List.append_assoc]) same
          refine ⟨left, Nat.le_succ_of_le fewer, fun more inner => ?_⟩
          -- The link was followed since a stay came after it, and now it is since more does.
          have notLast : ¬ (others ++ more = [] ∧ through = false) := by
            rintro ⟨empty, _⟩
            exact inner (List.append_eq_nil_iff.mp empty).2
          rw [← shape.1, List.cons_append, follow_link short found, if_neg notLast]
          simp only [filled, Bool.false_eq_true, if_false]
          rw [← List.append_assoc, goesOn more inner]

/-- A link is followed in any case where a stay comes at the end. -/
theorem Leads.either_of_stay {arrival : Arrival} (through : Bool)
    (leads : tree.Leads true links place moves arrival) :
    moves.getLast? = some .stay → tree.Leads through links place moves arrival := by
  induction leads with
  | finished links place => exact fun _ => .finished links place
  | @stay links place rest arrival leads ih =>
      intro last
      cases rest with
      | nil =>
          cases leads
          exact .stay (.finished links place)
      | cons next others => exact .stay (ih (by rwa [List.getLast?_cons_cons] at last))
  | @up links place rest arrival leads ih =>
      intro last
      cases rest with
      | nil => cases last
      | cons next others => exact .up (ih (by rwa [List.getLast?_cons_cons] at last))
  | missing => intro last; cases last
  | @directory links place name rest arrival short found leads ih =>
      intro last
      cases rest with
      | nil => cases last
      | cons next others =>
          exact .directory short found (ih (by rwa [List.getLast?_cons_cons] at last))
  | file => intro last; cases last
  | itself => intro last; cases last
  | @link links place name rest target arrival _ short found filled leads ih =>
      intro last
      cases rest with
      | nil => cases last
      | cons next others =>
          rw [List.getLast?_cons_cons] at last
          refine .link (fun ended => by cases ended.1) short found filled (ih ?_)
          rw [List.getLast?_append, last]
          rfl

/-- Moves that arrive at a directory do so with a stay at the end. -/
theorem Leads.staying {directory : Place}
    (leads : tree.Leads true links place moves (.present directory .directory)) (through : Bool) :
    tree.Leads through links place (moves ++ [.stay]) (.present directory .directory) := by
  obtain ⟨left, _, goesOn⟩ := follow_append leads rfl
  refine Leads.either_of_stay through (follow_eq_ok_iff.mp ?_) List.getLast?_concat
  rw [goesOn, follow_stay, follow_nil]

/-- With fewer links to follow, moves come as far as before, or they come upon too many. -/
theorem follow_of_fewer (tree : FileTree) (through : Bool) (links : Nat) (place : Place)
    (moves : List Move) : ∀ fewer, fewer ≤ links →
      tree.follow through fewer place moves = tree.follow through links place moves ∨
        tree.follow through fewer place moves = .error .tooManyLinks := by
  fun_induction tree.follow through links place moves with
  | case1 links place => exact fun fewer _ => Or.inl (follow_nil tree through fewer place)
  | case2 links place rest ih =>
      intro fewer less
      rw [follow_stay]
      exact ih fewer less
  | case3 links place rest ih =>
      intro fewer less
      rw [follow_up]
      exact ih fewer less
  | case4 links place name rest long => exact fun fewer _ => Or.inl (follow_long long)
  | case5 links place name short found =>
      intro fewer _
      exact Or.inl (by rw [follow_missing (Nat.not_lt.mp short) found, if_pos rfl])
  | case6 links place name rest short found more =>
      intro fewer _
      exact Or.inl (by rw [follow_missing (Nat.not_lt.mp short) found, if_neg more])
  | case7 links place name rest short found ih =>
      intro fewer less
      rw [follow_directory (Nat.not_lt.mp short) found]
      exact ih fewer less
  | case8 links place name short content found =>
      intro fewer _
      exact Or.inl (by rw [follow_file (Nat.not_lt.mp short) found, if_pos rfl])
  | case9 links place name rest short content found more =>
      intro fewer _
      exact Or.inl (by rw [follow_file (Nat.not_lt.mp short) found, if_neg more])
  | case10 links place name rest short target found last =>
      intro fewer _
      exact Or.inl (by rw [follow_link (Nat.not_lt.mp short) found, if_pos last])
  | case11 place name rest short target found notLast =>
      intro fewer none
      rw [Nat.le_zero.mp none]
      exact Or.inr (by rw [follow_link (Nat.not_lt.mp short) found, if_neg notLast])
  | case12 place name rest short target found notLast links empty =>
      intro fewer _
      rw [follow_link (Nat.not_lt.mp short) found, if_neg notLast]
      cases fewer with
      | zero => exact Or.inr rfl
      | succ fewer => exact Or.inl (if_pos empty)
  | case13 place name rest short target found notLast links filled ih =>
      intro fewer less
      rw [follow_link (Nat.not_lt.mp short) found, if_neg notLast]
      cases fewer with
      | zero => exact Or.inr rfl
      | succ fewer =>
          simp only [if_neg filled]
          exact ih fewer (Nat.le_of_succ_le_succ less)

end Arrivals

/-! ## Without links -/

/-- The place at which moves arrive when there are no links. -/
def landing : Place → List Move → Place
  | place, [] => place
  | place, .stay :: rest => landing place rest
  | place, .up :: rest => landing place.dropLast rest
  | place, .enter name :: rest => landing (place ++ [name]) rest

theorem landing_append (more : List Move) : ∀ (moves : List Move) (place : Place),
    landing place (moves ++ more) = landing (landing place moves) more := by
  intro moves
  induction moves with
  | nil => intro place; rfl
  | cons move rest ih =>
      intro place
      cases move <;> exact ih _

theorem landing_enters : ∀ (names : List Name) (place : Place),
    landing place (names.map .enter) = place ++ names := by
  intro names
  induction names with
  | nil => intro place; simp [landing]
  | cons name rest ih =>
      intro place
      rw [List.map_cons, landing, ih, List.append_assoc, List.singleton_append]

/-- The place that an arrival is about. -/
def Arrival.place : Arrival → Place
  | .present place _ => place
  | .absent directory name => directory ++ [name]

theorem Leads.place_eq_landing {tree : FileTree} {through : Bool} (free : tree.LinkFree)
    {links : Nat} {place : Place} {moves : List Move} {arrival : Arrival}
    (leads : tree.Leads through links place moves arrival) :
    arrival.place = landing place moves := by
  induction leads with
  | finished _ _ => rfl
  | stay _ ih => exact ih
  | up _ ih => exact ih
  | missing _ _ => rfl
  | directory _ _ _ ih => exact ih
  | file _ _ => rfl
  | itself _ _ _ => rfl
  | link _ _ found _ _ _ => exact absurd found (free _ _)

end TemplateBuild.FileTree
