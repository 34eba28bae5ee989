import CfmlNav.Component
import CfmlNav.Proofs.Name
import Mathlib.Data.List.Nodup

/-!
# The declarations of a component

A component is made by declarations, one after the other. The functions and the properties are each
kept under the keys of their names, and a declaration whose key is taken is dropped. As names are
the same exactly if they have one key, what is kept are the first declarations of their names, in
order (`Component.functions_ofDeclarations`), and a name leads to the first declaration with the
same name (`Component.function?_ofDeclarations`), for every sequence of declarations
(`Component.first_declaration_counts`).
-/

namespace CfmlNav

/-- A declaration in a component. -/
inductive Declaration where
  | function (f : Function)
  | property (p : Property)
  | assignment (v : Variable)
  | base (ref : ComponentRef)
  | accessors (areGenerated : Bool)
  | dialect (dialect : Dialect)
  deriving DecidableEq, Repr

namespace Declaration

/-- The function that is declared, if it is one. -/
def function? : Declaration → Option Function
  | function f => some f
  | _ => none

/-- The property that is declared, if it is one. -/
def property? : Declaration → Option Property
  | property p => some p
  | _ => none

end Declaration

namespace Component

/-- The component with one more declaration. -/
def declare (component : Component) : Declaration → Component
  | .function f => component.addFunction f
  | .property p => component.addProperty p
  | .assignment v => component.addVariable v
  | .base ref => { component with base := some ref }
  | .accessors areGenerated => { component with accessors := areGenerated }
  | .dialect dialect => { component with dialect }

/-- The component of a file that is made by some declarations, one after the other. -/
def ofDeclarations (file : FileId) (name : Text) (range : Span) (declarations : List Declaration) :
    Component :=
  declarations.foldl declare { file, name, range }

/-! ### Entries under the keys of their names -/

section Entries

variable {α : Type} {name : α → Text} {entries : List (Text × α)}

/-- A value with the key of its name. -/
def entry (name : α → Text) (value : α) : Text × α :=
  (Name.key (name value), value)

/-- The values that have the name of no earlier one, in order. -/
def firsts (name : α → Text) (values : List α) : List α :=
  values.eraseDupsBy fun later earlier => Name.same (name later) (name earlier)

/-- The entries with some values added one after the other, unless the key of the name is taken. -/
def addAllFirst (name : α → Text) (entries : List (Text × α)) (values : List α) : List (Text × α) :=
  values.foldl (fun entries value => addFirst (Name.key (name value)) value entries) entries

/-- A value is kept unless there is an entry of its key. -/
theorem addFirst_cases (key : Text) (value : α) (entries : List (Text × α)) :
    (∃ earlier, entries.lookup key = some earlier ∧ addFirst key value entries = entries) ∨
      entries.lookup key = none ∧ addFirst key value entries = entries ++ [(key, value)] := by
  rw [addFirst]
  cases hlookup : entries.lookup key with
  | none => exact .inr ⟨rfl, rfl⟩
  | some earlier => exact .inl ⟨earlier, rfl, rfl⟩

/-- What is added changes nothing for the keys that are taken. -/
theorem lookup_addFirst (key other : Text) (value : α) (entries : List (Text × α)) :
    (addFirst key value entries).lookup other =
      (entries.lookup other).or (if key = other then some value else none) := by
  rcases addFirst_cases key value entries with ⟨earlier, htaken, hsame⟩ | ⟨-, hadded⟩
  · rw [hsame]
    split
    next hkey => rw [← hkey, htaken, Option.some_or]
    next => rw [Option.or_none]
  · rw [hadded, List.lookup_append, List.lookup_cons]
    by_cases hkey : key = other
    · simp [hkey]
    · rw [beq_false_of_ne (Ne.symm hkey), if_neg hkey, List.lookup_nil]

/-- **The first value of a key is found**, behind those that have been there before. -/
theorem lookup_addAllFirst (entries : List (Text × α)) (values : List α) (other : Text) :
    (addAllFirst name entries values).lookup other =
      (entries.lookup other).or (values.find? fun value => Name.key (name value) == other) := by
  induction values generalizing entries with
  | nil => rw [List.find?_nil, Option.or_none, addAllFirst, List.foldl_nil]
  | cons value values ih =>
    have hstep : addAllFirst name entries (value :: values) =
        addAllFirst name (addFirst (Name.key (name value)) value entries) values := rfl
    rw [hstep, ih, lookup_addFirst, Option.or_assoc, List.find?_cons]
    by_cases hkey : Name.key (name value) = other
    · simp [hkey]
    · rw [if_neg hkey, Option.none_or, beq_false_of_ne hkey]

/-- **The first values of their names are kept**, in order, unless the key has been taken before. -/
theorem addAllFirst_eq (entries : List (Text × α)) (values : List α) :
    addAllFirst name entries values = entries ++ (firsts name (values.filter fun value =>
      (entries.lookup (Name.key (name value))).isNone)).map (entry name) := by
  induction values generalizing entries with
  | nil => simp [addAllFirst, firsts, List.eraseDupsBy_nil]
  | cons value values ih =>
    have hstep : addAllFirst name entries (value :: values) =
        addAllFirst name (addFirst (Name.key (name value)) value entries) values := rfl
    rw [hstep]
    rcases addFirst_cases (Name.key (name value)) value entries with
      ⟨earlier, htaken, hsame⟩ | ⟨hfree, hadded⟩
    · rw [hsame, ih, List.filter_cons_of_neg (by simp [htaken])]
    · -- a value that is kept takes its key from the later ones of its name
      have hrest (later : α) :
          ((entries ++ [(Name.key (name value), value)]).lookup (Name.key (name later))).isNone =
            (!Name.same (name later) (name value) &&
              (entries.lookup (Name.key (name later))).isNone) := by
        rw [List.lookup_append, Name.same_eq_beq_key, List.lookup_cons]
        cases Name.key (name later) == Name.key (name value) <;> simp
      rw [hadded, ih, List.filter_cons_of_pos (by simp [hfree]), firsts, firsts,
        List.eraseDupsBy_cons, List.filter_filter, List.append_assoc]
      simp only [hrest, List.map_cons, entry]
      simp

/-- Whether every value has the key of its name, and no two have one key. -/
structure IsKeyed (name : α → Text) (entries : List (Text × α)) : Prop where
  key_eq : ∀ value key, (key, value) ∈ entries → key = Name.key (name value)
  nodup_keys : (entries.map Prod.fst).Nodup

theorem isKeyed_nil : IsKeyed name [] :=
  ⟨fun _ _ h => absurd h List.not_mem_nil, List.nodup_nil⟩

theorem IsKeyed.addFirst (h : IsKeyed name entries) (value : α) :
    IsKeyed name (addFirst (Name.key (name value)) value entries) := by
  rcases addFirst_cases (Name.key (name value)) value entries with ⟨-, -, hsame⟩ | ⟨hfree, hadded⟩
  · rwa [hsame]
  · have hnew : Name.key (name value) ∉ entries.map Prod.fst := by
      rw [List.lookup_eq_none_iff] at hfree
      intro hmem
      obtain ⟨earlier, hearlier, hkey⟩ := List.mem_map.mp hmem
      exact bne_iff_ne.mp (hfree earlier hearlier) hkey.symm
    rw [hadded]
    constructor
    · intro other key hother
      rcases List.mem_append.mp hother with hold | hlast
      · exact h.key_eq other key hold
      · obtain ⟨rfl, rfl⟩ := Prod.mk.inj (List.mem_singleton.mp hlast)
        rfl
    · rw [List.map_append, List.map_singleton]
      exact h.nodup_keys.append (List.nodup_singleton _) (List.disjoint_singleton.mpr hnew)

theorem IsKeyed.addAllFirst (h : IsKeyed name entries) (values : List α) :
    IsKeyed name (addAllFirst name entries values) := by
  induction values generalizing entries with
  | nil => exact h
  | cons value values ih => exact ih (h.addFirst value)

theorem IsKeyed.pairwise (h : IsKeyed name entries) :
    (entries.map Prod.snd).Pairwise fun a b => Name.key (name a) ≠ Name.key (name b) := by
  refine List.pairwise_map.mpr ?_
  refine (List.pairwise_map.mp h.nodup_keys).imp_of_mem fun {a b} ha hb hne => ?_
  rwa [← h.key_eq a.2 a.1 ha, ← h.key_eq b.2 b.1 hb]

/-- The values that are kept are those that their names lead to. -/
theorem IsKeyed.mem_iff (h : IsKeyed name entries) {value : α} :
    value ∈ entries.map Prod.snd ↔ entries.lookup (Name.key (name value)) = some value := by
  rw [List.lookup_eq_some_iff]
  constructor
  · intro hmem
    obtain ⟨⟨key, other⟩, hentry, heq⟩ := List.mem_map.mp hmem
    obtain rfl : other = value := heq
    obtain rfl := h.key_eq other key hentry
    -- the entry is the first of its key, as it is the only one
    obtain ⟨before, behind, rfl⟩ := List.append_of_mem hentry
    have hnodup := h.nodup_keys
    rw [List.map_append, List.map_cons, List.nodup_middle, List.nodup_cons] at hnodup
    refine ⟨before, behind, rfl, fun earlier hearlier => bne_iff_ne.mpr fun hkey => ?_⟩
    refine hnodup.1 (List.mem_append_left _ ?_)
    exact List.mem_map.mpr ⟨earlier, hearlier, hkey.symm⟩
  · rintro ⟨before, behind, rfl, -⟩
    simp

end Entries

/-! ### Components made by declarations -/

section Declarations

variable (file : FileId) (name : Text) (range : Span) (declarations : List Declaration)

/-- A declaration adds a function or a property, or neither. -/
theorem declare_entries (component : Component) (declaration : Declaration) :
    (component.declare declaration).functions =
        addAllFirst Function.name component.functions declaration.function?.toList ∧
      (component.declare declaration).properties =
        addAllFirst Property.name component.properties declaration.property?.toList := by
  cases declaration <;> exact ⟨rfl, rfl⟩

/-- The functions and properties of a run of declarations are added in order. -/
theorem foldl_declare_entries (component : Component) (declarations : List Declaration) :
    (declarations.foldl declare component).functions =
        addAllFirst Function.name component.functions
          (declarations.filterMap Declaration.function?) ∧
      (declarations.foldl declare component).properties =
        addAllFirst Property.name component.properties
          (declarations.filterMap Declaration.property?) := by
  induction declarations generalizing component with
  | nil => exact ⟨rfl, rfl⟩
  | cons declaration declarations ih =>
    obtain ⟨hfunctions, hproperties⟩ := ih (component.declare declaration)
    obtain ⟨hfunction, hproperty⟩ := declare_entries component declaration
    rw [List.foldl_cons, hfunctions, hproperties, hfunction, hproperty]
    cases declaration <;> exact ⟨rfl, rfl⟩

theorem functions_eq_addAllFirst : (ofDeclarations file name range declarations).functions =
    addAllFirst Function.name [] (declarations.filterMap Declaration.function?) :=
  (foldl_declare_entries _ declarations).1

theorem properties_eq_addAllFirst : (ofDeclarations file name range declarations).properties =
    addAllFirst Property.name [] (declarations.filterMap Declaration.property?) :=
  (foldl_declare_entries _ declarations).2

theorem isKeyed_properties :
    IsKeyed Property.name (ofDeclarations file name range declarations).properties := by
  rw [properties_eq_addAllFirst]
  exact IsKeyed.addAllFirst isKeyed_nil _

/-- **What is kept of the functions**: the first declarations of their names, in order. -/
theorem functions_ofDeclarations :
    (ofDeclarations file name range declarations).functions =
      (firsts Function.name (declarations.filterMap Declaration.function?)).map
        (entry Function.name) := by
  rw [functions_eq_addAllFirst, addAllFirst_eq]
  simp

/-- **What is kept of the properties**: the first declarations of their names, in order. -/
theorem properties_ofDeclarations :
    (ofDeclarations file name range declarations).properties =
      (firsts Property.name (declarations.filterMap Declaration.property?)).map
        (entry Property.name) := by
  rw [properties_eq_addAllFirst, addAllFirst_eq]
  simp

/-- A name leads to the first function that is declared with it. -/
theorem function?_ofDeclarations (called : Text) :
    (ofDeclarations file name range declarations).function? called =
      (declarations.filterMap Declaration.function?).find? fun f => Name.same f.name called := by
  simp only [function?, functions_eq_addAllFirst, lookup_addAllFirst, List.lookup_nil,
    Option.none_or, Name.same_eq_beq_key]

/-- A name leads to the first property that is declared with it. -/
theorem property?_ofDeclarations (called : Text) :
    (ofDeclarations file name range declarations).property? called =
      (declarations.filterMap Declaration.property?).find? fun p => Name.same p.name called := by
  simp only [property?, properties_eq_addAllFirst, lookup_addAllFirst, List.lookup_nil,
    Option.none_or, Name.same_eq_beq_key]

/-- **The first declaration of a name counts.** Names are compared by their keys, which is an
equivalence, and of all the functions and of all the properties that are declared one after the
other those are kept, and found by any name, that come first among those of the same name. -/
theorem first_declaration_counts :
    (∀ a b, Name.same a b = true ↔ Name.key a = Name.key b) ∧
    (Equivalence fun a b => Name.same a b = true) ∧
    ((ofDeclarations file name range declarations).functions =
        (firsts Function.name (declarations.filterMap Declaration.function?)).map
          (entry Function.name) ∧
      ∀ called, (ofDeclarations file name range declarations).function? called =
        (declarations.filterMap Declaration.function?).find? fun f => Name.same f.name called) ∧
    ((ofDeclarations file name range declarations).properties =
        (firsts Property.name (declarations.filterMap Declaration.property?)).map
          (entry Property.name) ∧
      ∀ called, (ofDeclarations file name range declarations).property? called =
        (declarations.filterMap Declaration.property?).find? fun p => Name.same p.name called) := by
  refine ⟨fun a b => Name.same_iff_key_eq, Name.equivalence_same, ⟨?_, ?_⟩, ?_, ?_⟩
  · exact functions_ofDeclarations file name range declarations
  · exact function?_ofDeclarations file name range declarations
  · exact properties_ofDeclarations file name range declarations
  · exact property?_ofDeclarations file name range declarations

end Declarations

end Component

end CfmlNav
