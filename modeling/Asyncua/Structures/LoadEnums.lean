import Asyncua.Structures.Generate

/-!
# Enumerations read from the server: `load_enums`

`load_enums` builds a model of enumerations from the subtypes of `Enumeration` on the server.
A data type already known as an attribute of `ua` is skipped unless `force` is set. Otherwise its
properties decide: `EnumStrings` gives one member per text, valued by its index
(`_get_enum_strings`); `EnumValues` gives one member per `EnumValueType`, with its display text
and value (`_get_enum_values`). The last of these properties wins; a data type with neither is
left out. The model is generated with `_generate_python_class`, into the caller's namespace or,
for `env=None`, into the namespace of `ua` itself.

The server is given by what its reads return.
-/

namespace Asyncua

/-- A property of an enumeration data type as `load_enums` reads it: the texts of an
`EnumStrings` array, the value and display text of each `EnumValueType` of an `EnumValues`
array, or any other property, by its browse name. -/
inductive EnumProperty
  | enumStrings (texts : List String)
  | enumValues (values : List (Int × String))
  | other (browseName : String)
  deriving DecidableEq, Repr

/-- A subtype of `Enumeration` on the server: its browse name and its properties. -/
structure EnumDataType where
  browseName : String
  properties : List EnumProperty
  deriving DecidableEq, Repr

section LoadEnums

variable (h : Structures104) (rt : Runtime)

/-- `_get_enum_strings(name, node)`: member `idx` is named by text `idx` and valued `idx`. -/
def getEnumStrings (name : String) (texts : List String) : EnumType :=
  { EnumType.init h name with
    fields := texts.enum.map fun p => EnumeratedValue.init p.2 (.int p.1) }

/-- `_get_enum_values(name, node)`. -/
def getEnumValues (name : String) (values : List (Int × String)) : EnumType :=
  { EnumType.init h name with
    fields := values.map fun v => EnumeratedValue.init v.2 (.int v.1) }

/-- The enumeration one property gives, if it is `EnumStrings` or `EnumValues`. -/
def enumOfProperty (name : String) : EnumProperty → Option EnumType
  | .enumStrings texts => some (getEnumStrings h name texts)
  | .enumValues values => some (getEnumValues h name values)
  | .other _ => none

/-- The loop of `load_enums` over the properties of a data type, from the value `c` on. -/
def enumOfProperties (name : String) : List EnumProperty → Option EnumType → Option EnumType
  | [], c => c
  | p :: ps, c => enumOfProperties name ps ((enumOfProperty h name p).or c)

/-- The loop of `load_enums` over the data types: the model it builds. `hasattr(ua, name)` reads
the namespace of `ua` before any class is generated. -/
def loadEnumsModel (ua : Dict PyObj) (force : Bool) : List EnumDataType → List ModelElem
  | [] => []
  | d :: ds =>
    if !force && ua.contains d.browseName then loadEnumsModel ua force ds
    else match enumOfProperties h d.browseName d.properties none with
      | some c => .enum c :: loadEnumsModel ua force ds
      | none => loadEnumsModel ua force ds

/-- `load_enums(server, env, force)`: the namespace of `ua` it leaves, and what
`_generate_python_class` returns. -/
def loadEnums (types : List EnumDataType) (ua : Dict PyObj) (env : Option (Dict PyObj))
    (force : Bool) : Dict PyObj × GenResult :=
  let model := loadEnumsModel h ua force types
  match env with
  | none =>
    let r := generatePythonClass rt h model ua
    (r.env, r)
  | some env => (ua, generatePythonClass rt h model env)

/-! ### Which data types give an enumeration -/

/-- The last `EnumStrings` or `EnumValues` property decides. -/
lemma enumOfProperties_eq (name : String) (ps : List EnumProperty) (c : Option EnumType) :
    enumOfProperties h name ps c = (ps.filterMap (enumOfProperty h name)).getLast?.or c := by
  induction ps generalizing c with
  | nil => rfl
  | cons p ps ih =>
    rw [enumOfProperties, ih]
    cases hp : enumOfProperty h name p with
    | none => simp [hp]
    | some e =>
      rw [List.filterMap_cons_some hp]
      cases hl : (ps.filterMap (enumOfProperty h name)).getLast? with
      | none =>
        rw [List.getLast?_eq_none_iff] at hl
        simp [hl]
      | some e' => simp [List.getLast?_cons, hl]

/-- The model holds, in order, one enumeration for every data type not skipped as already known
that has an `EnumStrings` or `EnumValues` property, named by its cleaned browse name. -/
lemma loadEnumsModel_eq (ua : Dict PyObj) (force : Bool) (types : List EnumDataType) :
    loadEnumsModel h ua force types = types.filterMap fun d =>
      if !force && ua.contains d.browseName then none
      else ((d.properties.filterMap (enumOfProperty h d.browseName)).getLast?).map .enum := by
  induction types with
  | nil => rfl
  | cons d ds ih =>
    rw [loadEnumsModel, List.filterMap_cons, enumOfProperties_eq, Option.or_none]
    split
    · simp [*]
    · cases (d.properties.filterMap (enumOfProperty h d.browseName)).getLast? <;> simp [ih]

lemma name_enumOfProperty {name : String} {p : EnumProperty} {e : EnumType}
    (he : enumOfProperty h name p = some e) : e.name = h.cleanName name := by
  cases p <;> simp only [enumOfProperty, Option.some.injEq, reduceCtorEq] at he <;> subst he <;> rfl

/-! ### Where the classes go -/

/-- With `env=None`, a run without error binds every enumeration of the model in the namespace
of `ua`, under its cleaned name, to the class generated from the last one of that name. -/
theorem loadEnums_binds {types : List EnumDataType} {ua : Dict PyObj} {force : Bool}
    (hok : (loadEnums h rt types ua none force).2.error = none)
    {pre post : List ModelElem} {m : ModelElem}
    (hmodel : loadEnumsModel h ua force types = pre ++ m :: post)
    (hpost : ∀ x ∈ post, x.name ≠ m.name) :
    (loadEnums h rt types ua none force).1.get? m.name = some (.cls (m.getCode h).2) := by
  have henv := (generateLoop_ok rt h hok).1
  simp only [loadEnums, generatePythonClass] at henv ⊢
  rw [henv, hmodel, get?_execAll_last h pre post m _ hpost]

/-! ### Running `load_enums` twice -/

/-- After a run without error with `env=None`, every enumeration of its model is bound in the
namespace of `ua` under its name. -/
lemma contains_loadEnums {types : List EnumDataType} {ua : Dict PyObj} {force : Bool}
    (hok : (loadEnums h rt types ua none force).2.error = none) {m : ModelElem}
    (hm : m ∈ loadEnumsModel h ua force types) :
    (loadEnums h rt types ua none force).1.contains m.name := by
  have henv := (generateLoop_ok rt h hok).1
  simp only [loadEnums, generatePythonClass] at henv ⊢
  rw [henv]
  exact contains_execAll_of_mem h _ hm

/-- A run without error with `env=None` keeps every attribute `ua` had. -/
lemma contains_loadEnums_of_contains {types : List EnumDataType} {ua : Dict PyObj} {force : Bool}
    (hok : (loadEnums h rt types ua none force).2.error = none) {n : String}
    (hn : ua.contains n) : (loadEnums h rt types ua none force).1.contains n := by
  have henv := (generateLoop_ok rt h hok).1
  simp only [loadEnums, generatePythonClass] at henv ⊢
  rw [henv]
  exact contains_execAll h (contains_addHelpers hn)

/-- When `clean_name` keeps the browse name of every data type, a second run with `env=None` and
no `force`, after a first run without error, generates nothing: every data type that gives an
enumeration is now an attribute of `ua`. -/
theorem loadEnums_second_run_empty {types : List EnumDataType} {ua : Dict PyObj}
    (hok : (loadEnums h rt types ua none false).2.error = none)
    (hclean : ∀ d ∈ types, h.cleanName d.browseName = d.browseName) :
    loadEnumsModel h (loadEnums h rt types ua none false).1 false types = [] := by
  rw [loadEnumsModel_eq, List.filterMap_eq_nil_iff]
  intro d hd
  by_cases hin : (loadEnums h rt types ua none false).1.contains d.browseName
  · simp [hin]
  · -- `d` was not an attribute of `ua` before the first run either, so the first run generated
    -- its enumeration, if it has one, and bound it under its name
    have hua : ua.contains d.browseName = false :=
      Bool.eq_false_iff.mpr fun hc => hin (contains_loadEnums_of_contains h rt hok hc)
    cases hl : (d.properties.filterMap (enumOfProperty h d.browseName)).getLast? with
    | none => simp [hin, hl]
    | some e =>
      have hm : ModelElem.enum e ∈ loadEnumsModel h ua false types := by
        rw [loadEnumsModel_eq, List.mem_filterMap]
        exact ⟨d, hd, by simp [hua, hl]⟩
      obtain ⟨p, -, hp⟩ := List.mem_filterMap.mp (List.mem_of_getLast?_eq_some hl)
      have hbound := contains_loadEnums h rt hok hm
      rw [ModelElem.name_enum, name_enumOfProperty h hp, hclean d hd] at hbound
      exact absurd hbound hin

end LoadEnums

/-- A data type whose browse name holds a space: the first run defines its class as `My_Enum` in
`ua`, and the second run, asking `hasattr(ua, "My Enum")`, generates the enumeration again. -/
theorem loadEnums_second_run_spaced_name :
    (loadEnums Structures104.spec ⟨fun _ _ => none⟩ [⟨"My Enum", [.enumStrings ["A"]]⟩]
        Dict.empty none false).1.get? "My_Enum" =
      some (.cls (.enum ⟨"My_Enum", [⟨"A", .int 0⟩], none⟩)) ∧
    loadEnumsModel Structures104.spec
        (loadEnums Structures104.spec ⟨fun _ _ => none⟩ [⟨"My Enum", [.enumStrings ["A"]]⟩]
          Dict.empty none false).1 false [⟨"My Enum", [.enumStrings ["A"]]⟩] =
      [.enum ⟨"My_Enum", [⟨"A", .int 0⟩], none⟩] :=
  ⟨rfl, rfl⟩

/-- A first run that defines `Color` binds its class in `ua`. -/
theorem loadEnums_binds_color :
    (loadEnums Structures104.spec ⟨fun _ _ => none⟩ [⟨"Color", [.enumStrings ["Red"]]⟩]
        Dict.empty none false).2.error = none ∧
      loadEnumsModel Structures104.spec Dict.empty false [⟨"Color", [.enumStrings ["Red"]]⟩] =
        [] ++ [.enum ⟨"Color", [⟨"Red", .int 0⟩], none⟩] ∧
      (∀ x ∈ ([] : List ModelElem),
        x.name ≠ (ModelElem.enum ⟨"Color", [⟨"Red", .int 0⟩], none⟩).name) ∧
      (loadEnums Structures104.spec ⟨fun _ _ => none⟩ [⟨"Color", [.enumStrings ["Red"]]⟩]
          Dict.empty none false).1.get? (ModelElem.enum ⟨"Color", [⟨"Red", .int 0⟩], none⟩).name =
        some (.cls ((ModelElem.enum ⟨"Color", [⟨"Red", .int 0⟩], none⟩).getCode
          Structures104.spec).2) :=
  ⟨rfl, rfl, fun _ hx => absurd hx (List.not_mem_nil _),
    @loadEnums_binds Structures104.spec ⟨fun _ _ => none⟩ [⟨"Color", [.enumStrings ["Red"]]⟩]
      Dict.empty false rfl [] [] _ rfl fun _ hx => absurd hx (List.not_mem_nil _)⟩

/-- After that run, a second one generates nothing. -/
theorem loadEnums_second_run_empty_color :
    (loadEnums Structures104.spec ⟨fun _ _ => none⟩ [⟨"Color", [.enumStrings ["Red"]]⟩]
        Dict.empty none false).2.error = none ∧
      (∀ d ∈ ([⟨"Color", [.enumStrings ["Red"]]⟩] : List EnumDataType),
        Structures104.spec.cleanName d.browseName = d.browseName) ∧
      loadEnumsModel Structures104.spec
          (loadEnums Structures104.spec ⟨fun _ _ => none⟩ [⟨"Color", [.enumStrings ["Red"]]⟩]
            Dict.empty none false).1 false [⟨"Color", [.enumStrings ["Red"]]⟩] = [] :=
  ⟨rfl, by decide, @loadEnums_second_run_empty Structures104.spec ⟨fun _ _ => none⟩
    [⟨"Color", [.enumStrings ["Red"]]⟩] Dict.empty rfl (by decide)⟩

end Asyncua
