import TemplateBuild.Proofs.Run.Success
import TemplateBuild.Proofs.Text.Ordering

/-!
# Options that are sets

The names of helpers and the template extensions are given as lists, but only their members
count.  The gate keeps the names in increasing order, so an engine that lists them sees nothing of
the list they came from; the walk asks only whether an extension is among those wanted.
-/

set_option autoImplicit false

namespace TemplateBuild

open FileTree (Precedes)

/-! ## The gate -/

theorem mem_insertName_iff (name other : String) : ∀ names : List String,
    other ∈ insertName name names ↔ other = name ∨ other ∈ names := by
  intro names
  induction names with
  | nil => simp [insertName]
  | cons first rest ih =>
      rw [insertName]
      split
      · next same => simp [same]
      · split
        · simp
        · rw [List.mem_cons, ih, List.mem_cons]
          exact or_left_comm

theorem insertName_increasing (name : String) : ∀ names : List String,
    names.Pairwise (· < ·) → (insertName name names).Pairwise (· < ·) := by
  intro names
  induction names with
  | nil =>
      intro _
      exact List.pairwise_singleton _ _
  | cons first rest ih =>
      intro increasing
      obtain ⟨before, rest'⟩ := List.pairwise_cons.mp increasing
      rw [insertName]
      split
      · exact increasing
      · next different =>
          split
          · next less =>
              refine List.pairwise_cons.mpr ⟨?_, increasing⟩
              rw [List.forall_mem_cons]
              exact ⟨less, fun other member => String.lt_trans less (before other member)⟩
          · next notLess =>
              refine List.pairwise_cons.mpr ⟨?_, ih rest'⟩
              intro other member
              rcases (mem_insertName_iff name other rest).mp member with rfl | later
              · exact Classical.byContradiction fun notGreater =>
                  different (String.le_antisymm notGreater notLess)
              · exact before other later

namespace HelperGate

theorem mem_names_ofNames (names : List String) (strict : Bool) (name : String) :
    name ∈ (ofNames names strict).names ↔ name ∈ names := by
  show name ∈ names.foldr insertName [] ↔ name ∈ names
  induction names with
  | nil => rfl
  | cons first rest ih => rw [List.foldr_cons, mem_insertName_iff, ih, List.mem_cons]

theorem names_ofNames_increasing (names : List String) (strict : Bool) :
    (ofNames names strict).names.Pairwise (· < ·) := by
  show (names.foldr insertName []).Pairwise (· < ·)
  induction names with
  | nil => exact List.Pairwise.nil
  | cons first rest ih => exact insertName_increasing first _ ih

/-- Gates of the same names are equal. -/
theorem ofNames_congr {names others : List String} (same : ∀ name, name ∈ names ↔ name ∈ others)
    (strict : Bool) : ofNames names strict = ofNames others strict := by
  have lists : (ofNames names strict).names = (ofNames others strict).names :=
    List.Pairwise.eq_of_mem_iff (names_ofNames_increasing names strict)
      (names_ofNames_increasing others strict) fun name => by
        rw [mem_names_ofNames, mem_names_ofNames, same]
  rw [ofNames, ofNames, HelperGate.mk.injEq]
  exact ⟨lists, rfl⟩

theorem isKnown_ofNames (names : List String) (strict : Bool) (name : String) :
    (ofNames names strict).isKnown name = true ↔ name ∈ names := by
  rw [isKnown, List.contains_iff_mem, mem_names_ofNames]

end HelperGate

/-! ## The walk -/

namespace Walk

variable {first second : Walk}

/-- Two walks from one root that take the same files for templates. -/
structure Alike (first second : Walk) : Prop where
  root : first.root = second.root
  layout : first.layout = second.layout
  extensions : ∀ extension, extension ∈ first.extensions ↔ extension ∈ second.extensions

theorem of_alike (root : Path) (layout : Layout) {extensions others : List String}
    (same : ∀ extension ≠ "", extension ∈ extensions.map ConfigLayer.dropDots ↔
      extension ∈ others.map ConfigLayer.dropDots) :
    Alike (Walk.of root extensions layout) (Walk.of root others layout) where
  root := rfl
  layout := rfl
  extensions extension := by
    show extension ∈ (extensions.map ConfigLayer.dropDots).filter _ ↔
      extension ∈ (others.map ConfigLayer.dropDots).filter _
    rw [List.mem_filter, List.mem_filter]
    refine and_congr_left fun filled => same extension ?_
    rintro rfl
    exact Bool.noConfusion filled

namespace Alike

theorem isTemplateName (alike : Alike first second) (path : Path) :
    first.isTemplateName path = second.isTemplateName path := by
  rw [Walk.isTemplateName, Walk.isTemplateName]
  split
  · rw [Bool.eq_iff_iff, List.any_eq_true, List.any_eq_true]
    simp only [alike.extensions]
  · rfl

theorem bundleAt (alike : Alike first second) (files : FileTree) (directory : Path)
    (relative : List Name) :
    first.bundleAt files directory relative = second.bundleAt files directory relative := by
  have templates : ∀ names, first.templatesIn files directory names =
      second.templatesIn files directory names := by
    intro names
    simp only [templatesIn, alike.isTemplateName]
  simp only [Walk.bundleAt, templates, alike.layout]

variable {m : Type → Type} [Monad m]

theorem visitWithin (alike : Alike first second) (visitor : Visitor m) : ∀ depth own directory
    relative, first.visitWithin visitor depth own directory relative =
      second.visitWithin visitor depth own directory relative := by
  intro depth
  induction depth with
  | zero =>
      intro own directory relative
      rfl
  | succ depth ih =>
      intro own directory relative
      simp only [Walk.visitWithin, Walk.visitBundle, alike.bundleAt, ih]

/-- The two walks take whoever visits them through the same. -/
theorem visitAll (alike : Alike first second) (visitor : Visitor m) :
    first.visitAll visitor = second.visitAll visitor := by
  simp only [Walk.visitAll, alike.root, alike.visitWithin]

end Alike
end Walk

/-! ## The run -/

/-- The settings name the same helpers and the same template extensions, whose leading dots do
not count and of which empty ones are left out.  In everything else they are equal. -/
structure Settings.SameSets (first second : Settings) : Prop where
  helpers : ∀ name, name ∈ first.knownHelpers ↔ name ∈ second.knownHelpers
  extensions : ∀ extension ≠ "",
    extension ∈ first.templateExtensions.map ConfigLayer.dropDots ↔
      extension ∈ second.templateExtensions.map ConfigLayer.dropDots
  others : { first with knownHelpers := [], templateExtensions := [] } =
    { second with knownHelpers := [], templateExtensions := [] }

namespace Run

variable {σ : Type}

/-- What a run does with a bundle does not depend on the extensions that led to it, and on the
helpers only through the gate. -/
theorem processBundle_congr (compiler : Compiler σ) (settings : Settings)
    {names : List String} (extensions : List String)
    (same : HelperGate.ofNames names settings.strictHelpers = settings.gate)
    (cancelled : Cancellation) (engine : Engine) (bundle : Bundle) :
    processBundle compiler
        { settings with knownHelpers := names, templateExtensions := extensions }
        cancelled engine bundle =
      processBundle compiler settings cancelled engine bundle := by
  have template : ∀ template, compileTemplate compiler
      { settings with knownHelpers := names, templateExtensions := extensions }
        engine bundle template = compileTemplate compiler settings engine bundle template := by
    intro template
    simp only [compileTemplate, Settings.gate, same, reject]
  have templates : ∀ templates, compileAll compiler
      { settings with knownHelpers := names, templateExtensions := extensions }
        cancelled engine bundle templates =
      compileAll compiler settings cancelled engine bundle templates := by
    intro templates
    induction templates with
    | nil => rfl
    | cons _ _ ih => simp only [compileAll, template, ih]
  simp only [processBundle, templates, assemble]

theorem precompile_congr (compiler : Compiler σ) (settings : Settings) (cancelled : Cancellation)
    {names extensions : List String}
    (helpers : ∀ name, name ∈ names ↔ name ∈ settings.knownHelpers)
    (sameExtensions : ∀ extension ≠ "", extension ∈ extensions.map ConfigLayer.dropDots ↔
      extension ∈ settings.templateExtensions.map ConfigLayer.dropDots) :
    precompile compiler { settings with knownHelpers := names, templateExtensions := extensions }
        cancelled =
      precompile compiler settings cancelled := by
  have same : HelperGate.ofNames names settings.strictHelpers = settings.gate :=
    HelperGate.ofNames_congr helpers settings.strictHelpers
  have visits : ∀ engine, visitor compiler
      { settings with knownHelpers := names, templateExtensions := extensions } cancelled engine =
      visitor compiler settings cancelled engine := by
    intro engine
    simp only [visitor, processBundle_congr compiler settings extensions same]
  have walks := fun root => Walk.of_alike root settings.layout sameExtensions
  simp only [precompile, sourceRoot, createOutput, provision, Settings.layout, visits] at walks ⊢
  simp only [(walks _).visitAll]

/-- Order and repetition of helpers and of template extensions change nothing in what a run gives,
asks for, warns of and leaves behind.  The gate is the same for all lists of the same names: they
are in increasing order of their bytes, and just these are known. -/
theorem precompile_unordered (compiler : Compiler σ) {first second : Settings}
    (same : first.SameSets second) (cancelled : Cancellation) (world : World) :
    Effect.run (precompile compiler first cancelled) world =
        Effect.run (precompile compiler second cancelled) world ∧
      ∀ names strict,
        (HelperGate.ofNames names strict).names.Pairwise (fun name later =>
          Precedes (Bytes.ofString name) (Bytes.ofString later)) ∧
        ∀ name, (HelperGate.ofNames names strict).isKnown name = true ↔ name ∈ names := by
  constructor
  · have shape : first = { second with
        knownHelpers := first.knownHelpers, templateExtensions := first.templateExtensions } := by
      have others := same.others
      cases first
      cases second
      simp only [Settings.mk.injEq] at others ⊢
      tauto
    rw [shape, precompile_congr compiler second cancelled same.helpers same.extensions]
  · intro names strict
    refine ⟨?_, HelperGate.isKnown_ofNames names strict⟩
    exact (HelperGate.names_ofNames_increasing names strict).imp fun less =>
      (Bytes.ofString_precedes_iff _ _).mpr less

def gatheredSettings : Settings :=
  { sampleSettings with knownHelpers := ["a", "b"] }

def scatteredSettings : Settings :=
  { sampleSettings with
    knownHelpers := ["b", "a", "b"]
    templateExtensions := [".h", "", "h", "..h"] }

theorem scatteredSettings_sameSets : scatteredSettings.SameSets gatheredSettings where
  helpers name := by
    show name ∈ ["b", "a", "b"] ↔ name ∈ ["a", "b"]
    simp only [List.mem_cons, List.not_mem_nil, or_false]
    tauto
  extensions extension filled := by
    have scattered : scatteredSettings.templateExtensions.map ConfigLayer.dropDots =
        ["h", "", "h", "h"] := by decide
    have gathered : gatheredSettings.templateExtensions.map ConfigLayer.dropDots = ["h"] := by
      decide
    rw [scattered, gathered]
    simp [filled]
  others := rfl

theorem precompile_of_scattered : scatteredSettings.SameSets gatheredSettings ∧
    Effect.run (precompile echoing scatteredSettings Cancellation.never) sampleWorld =
      Effect.run (precompile echoing gatheredSettings Cancellation.never) sampleWorld ∧
    scatteredSettings.gate.names = ["a", "b"] :=
  ⟨scatteredSettings_sameSets,
    (precompile_unordered echoing scatteredSettings_sameSets Cancellation.never sampleWorld).1,
    by decide⟩

end Run
end TemplateBuild
