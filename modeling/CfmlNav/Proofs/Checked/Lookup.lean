import CfmlNav.Definition.Request
import CfmlNav.Proofs.Automaton.Capture
import CfmlNav.Proofs.Checked.Variable
import CfmlNav.Proofs.Reference.Segment

/-!
# Lookups with every access checked

The searches of a lookup read the document in four ways: they ask what stands before and behind the
word, they cut the last segment out of a path and look up the ends of the segment, and they collect
the variables of a function body. All of that is done here with checks.

What a lookup reads are parts of its document, cut at boundaries and with their ends in order
(`Lookup.ReadsParts`). So for a document of less than 2³² bytes no check fails (`checks_pass`): not
in building the context of a position, not in a search of the document from there and not in
collecting its variables. The position may lie outside the document, and nothing is asked of the
component, of the spans in it or of the forms of reference.
-/

namespace CfmlNav

open Text

/-! ### References -/

namespace ReferencePattern

/-- The reference of a captured path. The name starts behind the last dot, and is cut out from
there. -/
def referenceChecked (form : ReferencePattern) (text : Text) (captured : ByteRange) :
    Option (Option Reference) := do
  let path : Text := (← text.slice? captured).rdropWhile (· == '.')
  let nameStart := byteSize (path.rdropWhile (· != '.'))
  let name ← path.drop? nameStart
  return if name.isEmpty then none else some ⟨form.name, path, name, captured.start + nameStart⟩

/-- The reference of an occurrence of a form, if it captures a path. -/
def ofMatchChecked (form : ReferencePattern) (text : Text) (found : Match) :
    Option (Option Reference) :=
  match found.capture? pathGroup with
  | none => some none
  | some captured => form.referenceChecked text captured

/-- The references of one form in a text. -/
def findChecked (form : ReferencePattern) (text : Text) : Option (List Reference) :=
  filterMapChecked (form.ofMatchChecked text) (form.form.findAll text)

/-- The references of all forms in a text, form by form. -/
def findAllChecked (forms : List ReferencePattern) (text : Text) : Option (List Reference) := do
  return (← forms.mapM (·.findChecked text)).flatten

variable {text : Text}

theorem referenceChecked_eq {captured : ByteRange} (h : captured.IsPartOf text)
    (form : ReferencePattern) :
    form.referenceChecked text captured = some (form.reference? text captured) := by
  let path : Text := (text.slice captured).rdropWhile (· == '.')
  have hname : path.drop? (byteSize (path.rdropWhile (· != '.'))) =
      some (path.rtakeWhile (· != '.')) :=
    drop?_eq_some_iff.mpr ⟨_, List.rdropWhile_append_rtakeWhile.symm, rfl⟩
  rw [reference?_eq, referenceChecked, h.slice?_eq]
  simp only [Option.bind_eq_bind, Option.bind_some]
  rw [hname]
  rfl

theorem findChecked_eq (form : ReferencePattern) (text : Text) :
    form.findChecked text = some (form.find text) := by
  refine filterMapChecked_eq fun found hfound => ?_
  rw [ofMatchChecked]
  cases hcaptured : found.capture? pathGroup with
  | none => rfl
  | some captured =>
    have hpart := ((form.form.staysIn_of_mem_findAll hfound).of_capture? hcaptured).1
    exact referenceChecked_eq hpart form

theorem findAllChecked_eq (forms : List ReferencePattern) (text : Text) :
    findAllChecked forms text = some (findAll forms text) := by
  rw [findAllChecked, mapM_eq_some_map fun form _ => findChecked_eq form text, findAll,
    List.flatMap_def]
  rfl

end ReferencePattern

/-! ### Lookups -/

namespace Lookup

/-- Whether the word is called, with the text behind it cut out. -/
def isCallChecked (lookup : Lookup) : Option Bool := do
  let behind ← lookup.context.behindChecked
  return (behind.dropWhile Character.isSpace).head? == some '('

/-- Whether one of some scopes qualifies the word, with the text before it cut out. -/
def requiresChecked (lookup : Lookup) (scopes : List Scope) : Option Bool := do
  return (Qualifier.required scopes).accepts (← lookup.context.beforeChecked)

/-- Whether one of some scopes qualifies the word, or it stands alone, with the text before it cut
out. -/
def allowsChecked (lookup : Lookup) (scopes : List Scope) : Option Bool := do
  return (Qualifier.optional scopes).accepts (← lookup.context.beforeChecked)

/-- The component of a reference whose last segment contains the cursor. -/
def referenceTargetChecked (lookup : Lookup) (reference : Reference) : Option (Option Target) := do
  let span ← spanAtChecked lookup.context.text.lineStarts lookup.context.text
    ⟨reference.nameStart, reference.nameStop⟩
  return if span.contains lookup.context.position then
      (lookup.componentOf? reference).map Target.ofComponent
    else none

/-- The components of the dotted paths whose last segment contains the cursor. -/
def referencedChecked (lookup : Lookup) : Option (List Target) := do
  let references ← ReferencePattern.findAllChecked lookup.options.references lookup.context.text
  filterMapChecked lookup.referenceTargetChecked references

/-- The function that a call leads to. The text before the word is cut out once, for the whole walk
along the chain. -/
def calledFunctionChecked (lookup : Lookup) (component : Component) : Option (List Target) := do
  if lookup.hasWord && (← lookup.isCallChecked) then
    let before ← lookup.context.beforeChecked
    let (start, reachable) : Option Component × (Function → Bool) :=
      if component.base.isSome && (Qualifier.required [.super]).accepts before then
        (lookup.registry.base? component, fun _ => true)
      else (some component, fun f => (Qualifier.optional f.access.callableScopes).accepts before)
    let found := start.bind fun start =>
      lookup.inheritedFunction? reachable lookup.options.inheritanceDepth [] start
    return (found.map fun (owner, f) => Target.ofFunction owner.file f).toList
  else return []

/-- The parameters and local variables of the function that contains the cursor. -/
def functionVariablesChecked (lookup : Lookup) (component : Component) : Option (List Target) := do
  let position := lookup.context.position
  if lookup.hasWord then
    match component.functionAt? position with
    | none => return []
    | some f =>
      let parameters :=
        if ← lookup.requiresChecked [.arguments] then
          (f.parameters.filter fun p => Name.same p.name lookup.word).map
            (Target.ofParameter component.file)
        else []
      let locals ←
        if ← lookup.allowsChecked [.locals] then
          (Variable.localsInChecked lookup.context f.body).map fun locals =>
            (locals.filter fun v =>
              decide (v.declaration.range.start ≤ position) && v.isNamed lookup.word).map
                Target.ofVariable
        else some []
      return parameters ++ locals
  else return []

/-- The properties whose generated accessor is called. -/
def generatedAccessorsChecked (lookup : Lookup) (component : Component) : Option (List Target) := do
  if lookup.hasWord && component.accessors && (← lookup.requiresChecked [.this]) &&
      (← lookup.isCallChecked) then
    return component.properties.flatMap fun (_, p) =>
      ((accessorNames p).filter (isGenerated component lookup.word)).map fun _ =>
        Target.ofProperty component.file p
  else return []

/-- The assignments of a variable in the component. -/
def componentVariablesChecked (lookup : Lookup) (component : Component) : Option (List Target) := do
  if lookup.hasWord && (← lookup.allowsChecked [.vars]) then
    return (component.assigned.filter (·.isNamed lookup.word)).map Target.ofVariable
  else return []

/-- The targets in the document itself and in the components it can see. -/
def documentTargetsChecked (lookup : Lookup) : Option (List Target) := do
  let references ← lookup.referencedChecked
  match lookup.context.component with
  | none => return references
  | some component =>
    let called ← lookup.calledFunctionChecked component
    let declared ← lookup.functionVariablesChecked component
    let accessors ← lookup.generatedAccessorsChecked component
    let assigned ← lookup.componentVariablesChecked component
    return references ++ (called ++ lookup.declaredTypes component ++ declared ++ accessors ++
      assigned)

/-- A lookup that reads parts of its document only: the word at the cursor, the last segments of the
references and the bodies of functions are parts of it, and positions are moved to its boundaries. -/
structure ReadsParts (lookup : Lookup) : Prop where
  word : lookup.context.wordBytes.IsPartOf lookup.context.text
  offset : ∀ position, lookup.context.text.IsBoundary (lookup.context.text.offsetAt position)
  reference : ∀ reference ∈
    ReferencePattern.findAll lookup.options.references lookup.context.text,
    ByteRange.IsPartOf ⟨reference.nameStart, reference.nameStop⟩ lookup.context.text
  body : ∀ body, (Variable.bodyBytes lookup.context.text body).IsPartOf lookup.context.text

/-- The lookups of a document read parts of it, from every position. -/
theorem readsParts_build (file : FileId) (dialect : Dialect) (component : Option Component)
    (raw : Text) (position : Position) (registry : Registry) (options : Options) :
    ReadsParts ⟨Context.build file dialect component raw position, registry, options⟩ where
  word := Context.wordBytes_isPartOf file dialect component raw position
  offset := isBoundary_offsetAt _
  reference reference hreference := by
    obtain ⟨form, -, hfind⟩ := List.mem_flatMap.mp hreference
    exact (form.endsPathIn_of_mem_find hfind).isPartOf
  body := Variable.bodyBytes_isPartOf _

section

variable {lookup : Lookup} (htext : lookup.context.text.byteSize < UInt32.size)
  (hparts : lookup.ReadsParts)

include hparts in
theorem isCallChecked_eq : lookup.isCallChecked = some lookup.context.isCall := by
  rw [isCallChecked, Context.behindChecked_eq hparts.word]
  rfl

include hparts in
theorem requiresChecked_eq (scopes : List Scope) :
    lookup.requiresChecked scopes = some (lookup.requires scopes) := by
  rw [requiresChecked, Context.beforeChecked_eq hparts.word]
  rfl

include hparts in
theorem allowsChecked_eq (scopes : List Scope) :
    lookup.allowsChecked scopes = some (lookup.allows scopes) := by
  rw [allowsChecked, Context.beforeChecked_eq hparts.word]
  rfl

include htext hparts in
theorem referencedChecked_eq : lookup.referencedChecked = some lookup.referenced := by
  let target (reference : Reference) : Option Target :=
    if lookup.isOn reference then (lookup.componentOf? reference).map Target.ofComponent else none
  have htarget : ∀ reference ∈ ReferencePattern.findAll lookup.options.references
      lookup.context.text, lookup.referenceTargetChecked reference = some (target reference) := by
    intro reference hreference
    rw [referenceTargetChecked, spanAtChecked_eq htext (hparts.reference reference hreference)]
    rfl
  rw [referencedChecked, ReferencePattern.findAllChecked_eq, Option.bind_eq_bind, Option.bind_some,
    filterMapChecked_eq htarget, referenced, List.filterMap_filter]

include hparts in
theorem calledFunctionChecked_eq (component : Component) :
    lookup.calledFunctionChecked component = some (lookup.calledFunction component) := by
  rw [calledFunctionChecked, isCallChecked_eq hparts, Context.beforeChecked_eq hparts.word, calledFunction]
  simp only [Option.bind_eq_bind, Option.bind_some]
  split
  next => rfl
  next => rfl

include htext hparts in
theorem functionVariablesChecked_eq (component : Component) :
    lookup.functionVariablesChecked component = some (lookup.functionVariables component) := by
  rw [functionVariablesChecked, functionVariables]
  dsimp only
  split
  next =>
    cases component.functionAt? lookup.context.position with
    | none => rfl
    | some f =>
      simp only [requiresChecked_eq hparts, allowsChecked_eq hparts,
        Variable.localsInChecked_eq htext, Option.bind_eq_bind, Option.bind_some, Option.map_some]
      by_cases hlocals : lookup.allows [.locals] = true
      · rw [if_pos hlocals, if_pos hlocals]
        rfl
      · rw [if_neg hlocals, if_neg hlocals]
        rfl
  next => rfl

include hparts in
theorem generatedAccessorsChecked_eq (component : Component) :
    lookup.generatedAccessorsChecked component = some (lookup.generatedAccessors component) := by
  rw [generatedAccessorsChecked, requiresChecked_eq hparts, isCallChecked_eq hparts,
    generatedAccessors]
  simp only [Option.bind_eq_bind, Option.bind_some]
  exact (apply_ite some _ _ _).symm

include hparts in
theorem componentVariablesChecked_eq (component : Component) :
    lookup.componentVariablesChecked component = some (lookup.componentVariables component) := by
  rw [componentVariablesChecked, allowsChecked_eq hparts, componentVariables]
  simp only [Option.bind_eq_bind, Option.bind_some]
  exact (apply_ite some _ _ _).symm

include htext hparts in
theorem documentTargetsChecked_eq :
    lookup.documentTargetsChecked = some lookup.documentTargets := by
  rw [documentTargetsChecked, referencedChecked_eq htext hparts, documentTargets]
  cases lookup.context.component with
  | none => exact congrArg some (List.append_nil _).symm
  | some component =>
    simp only [calledFunctionChecked_eq hparts, functionVariablesChecked_eq htext hparts,
      generatedAccessorsChecked_eq hparts, componentVariablesChecked_eq hparts, Option.bind_eq_bind,
      Option.bind_some]
    rfl

end

/-- **No request hits an invalid slice.** A lookup of a document reads parts of it only. For a
document of less than 2³² bytes the context of every position is built with every access checked,
the text before and behind its word can be cut out, every search of the document from there succeeds,
and so does collecting the variables of the document or of a body with an arbitrary span: they give
what they give without checks. The position may lie outside the document, the component and its spans
are arbitrary, and so are the forms of reference. -/
theorem checks_pass (file : FileId) (dialect : Dialect) (component : Option Component) {raw : Text}
    (position : Position) (registry : Registry) (options : Options)
    (h : raw.byteSize < UInt32.size) :
    let context := Context.build file dialect component raw position
    let lookup : Lookup := ⟨context, registry, options⟩
    lookup.ReadsParts ∧
      Context.buildChecked file dialect component raw position = some context ∧
      context.beforeChecked = some context.before ∧
      context.behindChecked = some context.behind ∧
      (∀ body, Variable.localsInChecked context body = some (Variable.localsIn context body)) ∧
      lookup.documentTargetsChecked = some lookup.documentTargets ∧
      Variable.assignedInChecked file dialect raw =
        some (Variable.assignedIn file dialect raw) := by
  intro context lookup
  have htext : context.text.byteSize < UInt32.size := Comment.byteSize_strip_lt h dialect
  have hparts : lookup.ReadsParts :=
    readsParts_build file dialect component raw position registry options
  have htargets : lookup.documentTargetsChecked = some lookup.documentTargets :=
    documentTargetsChecked_eq htext hparts
  exact ⟨hparts, Context.buildChecked_eq h, Context.beforeChecked_eq hparts.word,
    Context.behindChecked_eq hparts.word, Variable.localsInChecked_eq htext, htargets,
    Variable.assignedInChecked_eq h file dialect⟩

/-- One function whose body ends before it starts, and one whose body ends behind the document. -/
theorem checks_pass_total :
    let total : Variable := ⟨"total".toList, .locals, ⟨⟨1⟩, ⟨⟨0, 10⟩, ⟨0, 15⟩⟩⟩⟩
    let upsideDown : Function :=
      { name := "f".toList, nameRange := ⟨⟨0, 0⟩, ⟨0, 1⟩⟩, access := .publicAccess
        signatures := [], body := some ⟨⟨8, 0⟩, ⟨0, 3⟩⟩, returns := none }
    let endless : Function := { upsideDown with name := "g".toList, body := some ⟨⟨0, 2⟩, ⟨8, 0⟩⟩ }
    let component : Component :=
      { file := ⟨1⟩, name := "Shop".toList, range := ⟨⟨0, 0⟩, ⟨0, 1⟩⟩
        functions := [("f".toList, upsideDown), ("g".toList, endless)] }
    let raw : Text := "/*é*/ var total = 1; total".toList
    let context := Context.build ⟨1⟩ .script (some component) raw ⟨0, 26⟩
    raw.byteSize < UInt32.size ∧
      Lookup.documentTargetsChecked ⟨context, ⟨fun _ => none, fun _ _ => none⟩, {}⟩ =
        some [Target.ofVariable total] := by
  intro total upsideDown endless component raw context
  have hsize : raw.byteSize < UInt32.size := by decide
  obtain ⟨-, -, -, -, -, htargets, -⟩ := checks_pass ⟨1⟩ .script (some component) ⟨0, 26⟩
    ⟨fun _ => none, fun _ _ => none⟩ {} hsize
  refine ⟨hsize, htargets.trans (congrArg some ?_)⟩
  decide +kernel

end Lookup

end CfmlNav
