import Asyncua.Structures.Types

/-!
# Building the model from a schema document

`StructGenerator._make_model` reads a schema document in two passes over its top-level elements.
The first turns every `EnumeratedType` into an `EnumType` and records, in the dictionary `enums`,
a value under the enumeration's raw `Name` for each of its members. The second turns every
`StructuredType` into a `Struct`, classifying its `Field` children one at a time: an array-length
marker sets the `array` flag for the next field that is kept, a field of local type `Bit` is
dropped, and every other field is kept.

`_make_model` reads attributes without checking that they are there; calling a string method on
the `None` that `get` returns for an absent one raises, and the model returns that error.
-/

namespace Asyncua

/-- `StructGenerator._is_array_field`. -/
def isArrayField (name : String) : Bool :=
  Py.startswith name "NoOf" || (Py.startswith name "__" && Py.endswith name "Length") ||
    Py.startswith name "#"

/-- The local part of a `TypeName`: `_type.split(":")[1]` when `":" in _type`. -/
def localType (t : String) : String := if ':' ∈ t.data then Py.splitColon1 t else t

/-- Why `_make_model` raises: the element with this tag lacks the attribute, and a string method
is called on the `None` read in its place. -/
inductive MakeModelError
  | noneAttribute (tag attr : String)
  deriving DecidableEq, Repr

section MakeModel

variable (h : Structures104)

/-- The inner loop of the first pass, over the children of the `EnumeratedType` whose raw name
is `key`: each `EnumeratedValue` becomes a member of `intenum`, and `enums[key]` is set to its
value. -/
def makeEnumFields (key : String) :
    List XmlField → EnumType → Dict PyValue → Except MakeModelError (EnumType × Dict PyValue)
  | [], intenum, enums => .ok (intenum, enums)
  | x :: xs, intenum, enums =>
    if Py.endswith x.tag "EnumeratedValue" then
      match x.get "Name" with
      | none => .error (.noneAttribute x.tag "Name")
      | some name =>
        let value := PyValue.ofOption (x.get "Value")
        makeEnumFields key xs
          { intenum with fields := intenum.fields ++ [EnumeratedValue.init name value] }
          (enums.set key value)
    else makeEnumFields key xs intenum enums

/-- The first pass of `_make_model`: one `EnumType` appended to the model per `EnumeratedType`,
and the dictionary `enums`. -/
def makeEnums :
    List Element → List ModelElem → Dict PyValue →
      Except MakeModelError (List ModelElem × Dict PyValue)
  | [], model, enums => .ok (model, enums)
  | c :: cs, model, enums =>
    if Py.endswith c.tag "EnumeratedType" then
      match c.get "Name" with
      | none => .error (.noneAttribute c.tag "Name")
      | some name =>
        match makeEnumFields name c.children (EnumType.init h name) enums with
        | .error e => .error e
        | .ok (intenum, enums) => makeEnums cs (model ++ [.enum intenum]) enums
    else makeEnums cs model enums

/-- The field built from a kept `Field` element with raw name `name` and local type `t`. -/
def makeField (enums : Dict PyValue) (name t : String) (optional array : Bool) : Field :=
  { name := h.cleanName name
    uatype := h.cleanName t
    value := if array then .str "field(default_factory=list)"
      else h.getDefaultValue (h.cleanName t) enums
    array := array
    isOptional := optional }

/-- The inner loop of the second pass, over the children of one `StructuredType`; `array` is the
flag an array-length marker sets for the next field that is kept. -/
def makeStructFields (enums : Dict PyValue) :
    List XmlField → Struct → Bool → Except MakeModelError Struct
  | [], struct, _ => .ok struct
  | x :: xs, struct, array =>
    if Py.endswith x.tag "Field" then
      match x.get "Name" with
      | none => .error (.noneAttribute x.tag "Name")
      | some name =>
        if isArrayField name then makeStructFields enums xs struct true
        else
          match x.get "TypeName" with
          | none => .error (.noneAttribute x.tag "TypeName")
          | some t =>
            if localType t = "Bit" then makeStructFields enums xs struct array
            else
              let optional := (x.get "SwitchField").getD "" != ""
              makeStructFields enums xs
                { struct with
                  fields := struct.fields ++ [makeField h enums name (localType t) optional array]
                  optionCounter := struct.optionCounter + if optional then 1 else 0 }
                false
    else makeStructFields enums xs struct array

/-- The second pass of `_make_model`: one `Struct` appended to the model per `StructuredType`. -/
def makeStructs (enums : Dict PyValue) :
    List Element → List ModelElem → Except MakeModelError (List ModelElem)
  | [], model => .ok model
  | c :: cs, model =>
    if Py.endswith c.tag "StructuredType" then
      match c.get "Name" with
      | none => .error (.noneAttribute c.tag "Name")
      | some name =>
        match makeStructFields h enums c.children (Struct.init h name) false with
        | .error e => .error e
        | .ok struct => makeStructs enums cs (model ++ [.struct struct])
    else makeStructs enums cs model

/-- `StructGenerator._make_model(root)`, with `root` the list of top-level elements: the
generator's model after the call. -/
def makeModel (model : List ModelElem) (root : List Element) :
    Except MakeModelError (List ModelElem) :=
  match makeEnums h root model Dict.empty with
  | .error e => .error e
  | .ok (model, enums) => makeStructs h enums root model

end MakeModel

/-! ### What `_make_model` builds -/

/-- The children the first pass reads as members of an `EnumeratedType`. -/
def Element.enumeratedValues (c : Element) : List XmlField :=
  c.children.filter (Py.endswith ·.tag "EnumeratedValue")

/-- The children the second pass reads as fields of a `StructuredType`. -/
def Element.fieldChildren (c : Element) : List XmlField :=
  c.children.filter (Py.endswith ·.tag "Field")

/-- A top-level element carries the attributes `_make_model` reads: a `Name` on every
enumeration and structure, on every member of an enumeration and on every field of a structure,
and a `TypeName` on every field of a structure. -/
def Element.HasNames (c : Element) : Prop :=
  (Py.endswith c.tag "EnumeratedType" →
    (c.get "Name").isSome ∧ ∀ x ∈ c.enumeratedValues, (x.get "Name").isSome) ∧
  (Py.endswith c.tag "StructuredType" →
    (c.get "Name").isSome ∧
      ∀ x ∈ c.fieldChildren, (x.get "Name").isSome ∧ (x.get "TypeName").isSome)

instance (c : Element) : Decidable c.HasNames := inferInstanceAs (Decidable (_ ∧ _))

/-- `v` is the member `_make_model` builds from the `EnumeratedValue` element `x`. -/
def MemberOf (x : XmlField) (v : EnumeratedValue) : Prop :=
  ∃ n, x.get "Name" = some n ∧ v = EnumeratedValue.init n (PyValue.ofOption (x.get "Value"))

/-- An array-length marker: `_is_array_field` holds of its raw name. -/
def XmlField.isMarker (x : XmlField) : Bool :=
  match x.get "Name" with
  | some n => isArrayField n
  | none => false

/-- A top-level element carries every attribute `_make_model` reads of it: as `HasNames` says,
except that an array-length marker, dropped before its type is read, needs no `TypeName`. -/
def Element.Readable (c : Element) : Prop :=
  (Py.endswith c.tag "EnumeratedType" →
    (c.get "Name").isSome ∧ ∀ x ∈ c.enumeratedValues, (x.get "Name").isSome) ∧
  (Py.endswith c.tag "StructuredType" →
    (c.get "Name").isSome ∧ ∀ x ∈ c.fieldChildren,
      (x.get "Name").isSome ∧ (x.isMarker = false → (x.get "TypeName").isSome))

instance (c : Element) : Decidable c.Readable := inferInstanceAs (Decidable (_ ∧ _))

lemma Element.HasNames.readable {c : Element} (hc : c.HasNames) : c.Readable :=
  ⟨hc.1, fun hs =>
    ⟨(hc.2 hs).1, fun x hx => ⟨((hc.2 hs).2 x hx).1, fun _ => ((hc.2 hs).2 x hx).2⟩⟩⟩

/-- A `Field` child the second pass drops: an array-length marker, or a field of local type
`Bit`. -/
def XmlField.Skipped (x : XmlField) : Prop :=
  x.isMarker ∨ ∃ t, x.get "TypeName" = some t ∧ localType t = "Bit"

lemma XmlField.skipped_append {run : List XmlField} {x : XmlField}
    (hrun : ∀ y ∈ run, y.Skipped) (hx : x.Skipped) : ∀ y ∈ run ++ [x], y.Skipped := by
  intro y hy
  rcases List.mem_append.mp hy with hy | hy
  · exact hrun y hy
  · rw [List.mem_singleton.mp hy]; exact hx

section Spec

variable (h : Structures104)

/-- `e` is the `EnumType` `_make_model` builds from the `EnumeratedType` element `c`: its
members are the `EnumeratedValue` children in order, each with its `Value` unchanged. -/
def EnumOf (c : Element) (e : EnumType) : Prop :=
  ∃ n, c.get "Name" = some n ∧ e.name = h.cleanName n ∧ e.typeid = none ∧
    List.Forall₂ MemberOf c.enumeratedValues e.fields

/-- `f` is the field `_make_model` builds from the kept `Field` element `x`. -/
def FieldOf (x : XmlField) (f : Field) : Prop :=
  ∃ n t, x.get "Name" = some n ∧ isArrayField n = false ∧ x.get "TypeName" = some t ∧
    localType t ≠ "Bit" ∧ f.name = h.cleanName n ∧ f.uatype = h.cleanName (localType t) ∧
    (f.isOptional ↔ (x.get "SwitchField").getD "" ≠ "")

/-- The fields of a struct against the `Field` children of its element: the children split into
runs of dropped children each closed by a kept child, and a last run of dropped children; the
`i`-th field is built from the `i`-th kept child, and is an array, defaulting to an empty list,
exactly when the run before that child holds an array-length marker. -/
def FieldsOf (xs : List XmlField) (fs : List Field) : Prop :=
  ∃ (gs : List (List XmlField × XmlField)) (rest : List XmlField),
    xs = (gs.map fun g => g.1 ++ [g.2]).flatten ++ rest ∧ (∀ x ∈ rest, x.Skipped) ∧
    List.Forall₂ (fun g f => (∀ x ∈ g.1, x.Skipped) ∧ FieldOf h g.2 f ∧
      f.array = g.1.any XmlField.isMarker ∧
      (f.array → f.value = .str "field(default_factory=list)")) gs fs

/-- `s` is the `Struct` `_make_model` builds from the `StructuredType` element `c`; its
`optionCounter` counts its optional fields. -/
def StructOf (c : Element) (s : Struct) : Prop :=
  ∃ n, c.get "Name" = some n ∧ s.name = h.cleanName n ∧ s.typeid = none ∧
    FieldsOf h c.fieldChildren s.fields ∧
    s.optionCounter = (s.fields.filter (·.isOptional)).length


lemma FieldsOf.nil {run : List XmlField} (hrun : ∀ x ∈ run, x.Skipped) : FieldsOf h run [] :=
  ⟨[], run, by simp, hrun, .nil⟩

lemma FieldsOf.cons {run xs : List XmlField} {x : XmlField} {f : Field} {fs : List Field}
    (hrun : ∀ y ∈ run, y.Skipped) (hx : FieldOf h x f)
    (harr : f.array = run.any XmlField.isMarker)
    (hval : f.array → f.value = .str "field(default_factory=list)") (hfs : FieldsOf h xs fs) :
    FieldsOf h (run ++ x :: xs) (f :: fs) := by
  obtain ⟨gs, rest, rfl, hrest, hgs⟩ := hfs
  exact ⟨(run, x) :: gs, rest, by simp, hrest, .cons ⟨hrun, hx, harr, hval⟩ hgs⟩

/-- The invariant of the second pass's loop: `run` holds the children dropped since the last kept
one, and the `array` flag is set exactly when `run` holds a marker. -/
lemma makeStructFields_spec (enums : Dict PyValue) (xs run : List XmlField) (s : Struct)
    (hrun : ∀ x ∈ run, x.Skipped)
    (hxs : ∀ x ∈ xs.filter (Py.endswith ·.tag "Field"),
      (x.get "Name").isSome ∧ (x.isMarker = false → (x.get "TypeName").isSome)) :
    ∃ fs, makeStructFields h enums xs s (run.any XmlField.isMarker) =
        .ok { s with fields := s.fields ++ fs
                     optionCounter := s.optionCounter + (fs.filter (·.isOptional)).length } ∧
      FieldsOf h (run ++ xs.filter (Py.endswith ·.tag "Field")) fs := by
  induction xs generalizing run s with
  | nil => exact ⟨[], by simp [makeStructFields], by simpa using FieldsOf.nil h hrun⟩
  | cons x xs ih =>
    have hxs' : ∀ y ∈ xs.filter (Py.endswith ·.tag "Field"),
        (y.get "Name").isSome ∧ (y.isMarker = false → (y.get "TypeName").isSome) :=
      fun y hy => hxs y (((List.sublist_cons_self x xs).filter _).subset hy)
    by_cases hf : Py.endswith x.tag "Field"
    · obtain ⟨hn, ht⟩ := hxs x (by simp [hf])
      obtain ⟨n, hn⟩ := Option.isSome_iff_exists.mp hn
      have hfilter : (x :: xs).filter (Py.endswith ·.tag "Field") =
          x :: xs.filter (Py.endswith ·.tag "Field") := by simp [hf]
      rw [hfilter]
      by_cases hm : isArrayField n
      · -- an array-length marker: dropped, and the flag is set
        have hx : x.isMarker = true := by simp [XmlField.isMarker, hn, hm]
        obtain ⟨fs, hfs, hspec⟩ :=
          ih (run ++ [x]) s (XmlField.skipped_append hrun (.inl hx)) hxs'
        refine ⟨fs, ?_, by simpa using hspec⟩
        simpa [makeStructFields, hf, hn, hm, hx] using hfs
      · have hx : x.isMarker = false := by simp [XmlField.isMarker, hn, hm]
        obtain ⟨t, ht⟩ := Option.isSome_iff_exists.mp (ht hx)
        by_cases hb : localType t = "Bit"
        · -- a field of type `Bit`: dropped, and the flag is kept
          obtain ⟨fs, hfs, hspec⟩ :=
            ih (run ++ [x]) s (XmlField.skipped_append hrun (.inr ⟨t, ht, hb⟩)) hxs'
          refine ⟨fs, ?_, by simpa using hspec⟩
          simpa [makeStructFields, hf, hn, hm, ht, hb, hx] using hfs
        · -- a kept field: built with the current flag, which is then reset
          set optional := (x.get "SwitchField").getD "" != ""
          set f := makeField h enums n (localType t) optional (run.any XmlField.isMarker)
          obtain ⟨fs, hfs, hspec⟩ := ih [] { s with
            fields := s.fields ++ [f]
            optionCounter := s.optionCounter + if optional then 1 else 0 } (by simp) hxs'
          refine ⟨f :: fs, ?_, FieldsOf.cons h hrun ?_ rfl ?_ (by simpa using hspec)⟩
          · simp only [makeStructFields, hf, hn, hm, ht, hb, if_true, if_false, Bool.false_eq_true]
            rw [show false = ([] : List XmlField).any XmlField.isMarker from rfl, hfs]
            cases hopt : optional <;>
              simp [f, makeField, hopt, List.filter_cons, Nat.add_assoc, Nat.add_comm 1]
          · exact ⟨n, t, hn, by simpa using hm, ht, hb, rfl, rfl,
              by simp [f, makeField, optional]⟩
          · intro ha
            simp only [f, makeField] at ha ⊢
            simp [ha]
    · obtain ⟨fs, hfs, hspec⟩ := ih run s hrun hxs'
      exact ⟨fs, by simpa [makeStructFields, hf] using hfs, by simpa [hf] using hspec⟩

lemma makeEnumFields_spec (key : String) (xs : List XmlField) (intenum : EnumType)
    (enums : Dict PyValue)
    (hxs : ∀ x ∈ xs.filter (Py.endswith ·.tag "EnumeratedValue"), (x.get "Name").isSome) :
    ∃ vs enums', makeEnumFields key xs intenum enums =
        .ok ({ intenum with fields := intenum.fields ++ vs }, enums') ∧
      List.Forall₂ MemberOf (xs.filter (Py.endswith ·.tag "EnumeratedValue")) vs := by
  induction xs generalizing intenum enums with
  | nil => exact ⟨[], enums, by simp [makeEnumFields], .nil⟩
  | cons x xs ih =>
    have hxs' := fun y hy => hxs y (((List.sublist_cons_self x xs).filter _).subset hy)
    by_cases hv : Py.endswith x.tag "EnumeratedValue"
    · obtain ⟨n, hn⟩ := Option.isSome_iff_exists.mp (hxs x (by simp [hv]))
      set v := EnumeratedValue.init n (PyValue.ofOption (x.get "Value"))
      obtain ⟨vs, enums', hvs, hspec⟩ :=
        ih { intenum with fields := intenum.fields ++ [v] }
          (enums.set key (PyValue.ofOption (x.get "Value"))) hxs'
      refine ⟨v :: vs, enums', ?_, ?_⟩
      · simp [makeEnumFields, hv, hn, hvs]
      · simpa [hv] using List.Forall₂.cons ⟨n, hn, rfl⟩ hspec
    · obtain ⟨vs, enums', hvs, hspec⟩ := ih intenum enums hxs'
      exact ⟨vs, enums', by simpa [makeEnumFields, hv] using hvs, by simpa [hv] using hspec⟩

lemma makeEnums_spec (root : List Element) (model : List ModelElem) (enums : Dict PyValue)
    (hwf : ∀ c ∈ root, c.Readable) :
    ∃ es enums', makeEnums h root model enums = .ok (model ++ es.map .enum, enums') ∧
      List.Forall₂ (EnumOf h) (root.filter (Py.endswith ·.tag "EnumeratedType")) es := by
  induction root generalizing model enums with
  | nil => exact ⟨[], enums, by simp [makeEnums], .nil⟩
  | cons c cs ih =>
    have hwf' := fun d hd => hwf d (List.mem_cons_of_mem c hd)
    by_cases he : Py.endswith c.tag "EnumeratedType"
    · obtain ⟨hn, hvs⟩ := (hwf c (List.mem_cons_self c cs)).1 he
      obtain ⟨n, hn⟩ := Option.isSome_iff_exists.mp hn
      obtain ⟨vs, enums₁, hmk, hmem⟩ :=
        makeEnumFields_spec n c.children (EnumType.init h n) enums hvs
      obtain ⟨es, enums', hes, hspec⟩ :=
        ih (model ++ [.enum ⟨h.cleanName n, vs, none⟩]) enums₁ hwf'
      refine ⟨⟨h.cleanName n, vs, none⟩ :: es, enums', ?_, ?_⟩
      · simp only [makeEnums, he, hn, if_true, hmk]
        simpa [EnumType.init] using hes
      · simpa [he] using
          List.Forall₂.cons ⟨n, hn, rfl, rfl, by simpa [EnumType.init] using hmem⟩ hspec
    · obtain ⟨es, enums', hes, hspec⟩ := ih model enums hwf'
      exact ⟨es, enums', by simpa [makeEnums, he] using hes, by simpa [he] using hspec⟩

lemma makeStructs_spec (enums : Dict PyValue) (root : List Element) (model : List ModelElem)
    (hwf : ∀ c ∈ root, c.Readable) :
    ∃ ss, makeStructs h enums root model = .ok (model ++ ss.map .struct) ∧
      List.Forall₂ (StructOf h) (root.filter (Py.endswith ·.tag "StructuredType")) ss := by
  induction root generalizing model with
  | nil => exact ⟨[], by simp [makeStructs], .nil⟩
  | cons c cs ih =>
    have hwf' := fun d hd => hwf d (List.mem_cons_of_mem c hd)
    by_cases hs : Py.endswith c.tag "StructuredType"
    · obtain ⟨hn, hfs⟩ := (hwf c (List.mem_cons_self c cs)).2 hs
      obtain ⟨n, hn⟩ := Option.isSome_iff_exists.mp hn
      obtain ⟨fs, hmk, hspec⟩ :=
        makeStructFields_spec h enums c.children [] (Struct.init h n) (by simp) hfs
      let st : Struct := ⟨h.cleanName n, fs, none, (fs.filter (·.isOptional)).length⟩
      obtain ⟨ss, hss, hspec'⟩ := ih (model ++ [.struct st]) hwf'
      refine ⟨st :: ss, ?_, ?_⟩
      · simp only [makeStructs, hs, hn, if_true]
        rw [show false = ([] : List XmlField).any XmlField.isMarker from rfl, hmk]
        simpa [Struct.init] using hss
      · simpa [hs] using List.Forall₂.cons
          ⟨n, hn, rfl, rfl, by simpa [Struct.init] using hspec, by simp [Struct.init]⟩ hspec'
    · obtain ⟨ss, hss, hspec⟩ := ih model hwf'
      exact ⟨ss, by simpa [makeStructs, hs] using hss, by simpa [hs] using hspec⟩

/-- `_make_model` appends one `EnumType` per `EnumeratedType` element, then one `Struct` per
`StructuredType` element, each group in document order, built as `EnumOf` and `StructOf`
describe, for every document whose elements carry the attributes the code reads. -/
theorem makeModel_spec (model : List ModelElem) (root : List Element)
    (hwf : ∀ c ∈ root, c.HasNames) :
    ∃ enums structs,
      makeModel h model root = .ok (model ++ enums.map .enum ++ structs.map .struct) ∧
      List.Forall₂ (EnumOf h) (root.filter (Py.endswith ·.tag "EnumeratedType")) enums ∧
      List.Forall₂ (StructOf h) (root.filter (Py.endswith ·.tag "StructuredType")) structs := by
  have hrd := fun c hc => (hwf c hc).readable
  obtain ⟨es, enums, hes, hE⟩ := makeEnums_spec h root model Dict.empty hrd
  obtain ⟨ss, hss, hS⟩ := makeStructs_spec h enums root (model ++ es.map .enum) hrd
  exact ⟨es, ss, by simp [makeModel, hes, hss], hE, hS⟩

theorem makeModel_spec_line :
    (∀ c ∈ [(⟨"opc:EnumeratedType", [("Name", "Color")],
        [⟨"opc:EnumeratedValue", [("Name", "Red"), ("Value", "0")]⟩]⟩ : Element),
      ⟨"opc:StructuredType", [("Name", "Line")],
        [⟨"opc:Field", [("Name", "NoOfPoints"), ("TypeName", "opc:Int32")]⟩,
         ⟨"opc:Field", [("Name", "Points"), ("TypeName", "opc:Double")]⟩]⟩], c.HasNames) ∧
    ∃ enums structs, makeModel Structures104.spec []
        [⟨"opc:EnumeratedType", [("Name", "Color")],
          [⟨"opc:EnumeratedValue", [("Name", "Red"), ("Value", "0")]⟩]⟩,
        ⟨"opc:StructuredType", [("Name", "Line")],
          [⟨"opc:Field", [("Name", "NoOfPoints"), ("TypeName", "opc:Int32")]⟩,
           ⟨"opc:Field", [("Name", "Points"), ("TypeName", "opc:Double")]⟩]⟩] =
        .ok ([] ++ enums.map .enum ++ structs.map .struct) ∧
      List.Forall₂ (EnumOf Structures104.spec) [⟨"opc:EnumeratedType", [("Name", "Color")],
          [⟨"opc:EnumeratedValue", [("Name", "Red"), ("Value", "0")]⟩]⟩] enums ∧
      List.Forall₂ (StructOf Structures104.spec) [⟨"opc:StructuredType", [("Name", "Line")],
          [⟨"opc:Field", [("Name", "NoOfPoints"), ("TypeName", "opc:Int32")]⟩,
           ⟨"opc:Field", [("Name", "Points"), ("TypeName", "opc:Double")]⟩]⟩] structs :=
  ⟨by decide, makeModel_spec Structures104.spec [] _ (by decide)⟩

/-- A member of an enumeration without a `Name` makes `_make_model` raise, although the document
has no `Field` element at all: no `EnumType` is appended for it. -/
theorem makeModel_member_without_name :
    makeModel Structures104.spec []
        [⟨"EnumeratedType", [("Name", "E")], [⟨"EnumeratedValue", [("Value", "0")]⟩]⟩] =
      .error (.noneAttribute "EnumeratedValue" "Name") := rfl

/-! ### The documents `_make_model` accepts -/

lemma readable_of_makeEnumFields_ok {key : String} {xs : List XmlField} {intenum : EnumType}
    {enums : Dict PyValue} {r : EnumType × Dict PyValue}
    (hok : makeEnumFields key xs intenum enums = .ok r) :
    ∀ x ∈ xs.filter (Py.endswith ·.tag "EnumeratedValue"), (x.get "Name").isSome := by
  induction xs generalizing intenum enums with
  | nil => simp
  | cons x xs ih =>
    simp only [makeEnumFields] at hok
    split_ifs at hok with hv
    · cases hn : x.get "Name" with
      | none => simp [hn] at hok
      | some n =>
        simp only [hn] at hok
        rw [List.filter_cons, if_pos hv, List.forall_mem_cons]
        exact ⟨by simp [hn], ih hok⟩
    · rw [List.filter_cons, if_neg hv]
      exact ih hok

lemma readable_of_makeStructFields_ok {enums : Dict PyValue} {xs : List XmlField} {s r : Struct}
    {array : Bool} (hok : makeStructFields h enums xs s array = .ok r) :
    ∀ x ∈ xs.filter (Py.endswith ·.tag "Field"),
      (x.get "Name").isSome ∧ (x.isMarker = false → (x.get "TypeName").isSome) := by
  induction xs generalizing s array with
  | nil => simp
  | cons x xs ih =>
    by_cases hf : Py.endswith x.tag "Field"
    · rw [List.filter_cons, if_pos hf, List.forall_mem_cons]
      simp only [makeStructFields, if_pos hf] at hok
      cases hn : x.get "Name" with
      | none => simp [hn] at hok
      | some n =>
        simp only [hn] at hok
        by_cases hm : isArrayField n
        · -- a marker: its type is never read
          rw [if_pos hm] at hok
          exact ⟨⟨by simp [hn], fun hx => by simp [XmlField.isMarker, hn, hm] at hx⟩,
            ih hok⟩
        · rw [if_neg hm] at hok
          cases ht : x.get "TypeName" with
          | none => simp [ht] at hok
          | some t =>
            simp only [ht] at hok
            split_ifs at hok <;> exact ⟨⟨by simp [hn], fun _ => by simp [ht]⟩, ih hok⟩
    · simp only [makeStructFields, if_neg hf] at hok
      rw [List.filter_cons, if_neg hf]
      exact ih hok

lemma readable_of_makeEnums_ok {root : List Element} {model : List ModelElem}
    {enums : Dict PyValue} {r : List ModelElem × Dict PyValue}
    (hok : makeEnums h root model enums = .ok r) :
    ∀ c ∈ root, Py.endswith c.tag "EnumeratedType" →
      (c.get "Name").isSome ∧ ∀ x ∈ c.enumeratedValues, (x.get "Name").isSome := by
  induction root generalizing model enums with
  | nil => simp
  | cons c cs ih =>
    simp only [makeEnums] at hok
    rw [List.forall_mem_cons]
    split_ifs at hok with he
    · cases hn : c.get "Name" with
      | none => simp [hn] at hok
      | some n =>
        simp only [hn] at hok
        cases hf : makeEnumFields n c.children (EnumType.init h n) enums with
        | error e => simp [hf] at hok
        | ok p =>
          simp only [hf] at hok
          exact ⟨fun _ => ⟨by simp [hn], readable_of_makeEnumFields_ok hf⟩, ih hok⟩
    · exact ⟨fun he' => absurd he' he, ih hok⟩

lemma readable_of_makeStructs_ok {enums : Dict PyValue} {root : List Element}
    {model r : List ModelElem} (hok : makeStructs h enums root model = .ok r) :
    ∀ c ∈ root, Py.endswith c.tag "StructuredType" →
      (c.get "Name").isSome ∧ ∀ x ∈ c.fieldChildren,
        (x.get "Name").isSome ∧ (x.isMarker = false → (x.get "TypeName").isSome) := by
  induction root generalizing model with
  | nil => simp
  | cons c cs ih =>
    simp only [makeStructs] at hok
    rw [List.forall_mem_cons]
    split_ifs at hok with hs
    · cases hn : c.get "Name" with
      | none => simp [hn] at hok
      | some n =>
        simp only [hn] at hok
        cases hf : makeStructFields h enums c.children (Struct.init h n) false with
        | error e => simp [hf] at hok
        | ok st =>
          simp only [hf] at hok
          exact ⟨fun _ => ⟨by simp [hn], readable_of_makeStructFields_ok h hf⟩, ih hok⟩
    · exact ⟨fun hs' => absurd hs' hs, ih hok⟩

lemma readable_of_makeModel_ok {model model' : List ModelElem} {root : List Element}
    (hok : makeModel h model root = .ok model') : ∀ c ∈ root, c.Readable := by
  intro c hc
  simp only [makeModel] at hok
  cases he : makeEnums h root model Dict.empty with
  | error e => simp [he] at hok
  | ok p =>
    simp only [he] at hok
    exact ⟨readable_of_makeEnums_ok h he c hc, readable_of_makeStructs_ok h hok c hc⟩

/-- `_make_model` returns exactly on the documents whose elements carry every attribute it reads;
on any other document it raises. -/
theorem makeModel_ok_iff (model : List ModelElem) (root : List Element) :
    (∃ model', makeModel h model root = .ok model') ↔ ∀ c ∈ root, c.Readable := by
  refine ⟨fun ⟨_, hok⟩ => readable_of_makeModel_ok h hok, fun hrd => ?_⟩
  obtain ⟨es, enums, hes, -⟩ := makeEnums_spec h root model Dict.empty hrd
  obtain ⟨ss, hss, -⟩ := makeStructs_spec h enums root (model ++ es.map .enum) hrd
  exact ⟨_, by simp only [makeModel, hes]; exact hss⟩

/- A document with an array-length marker that has no `TypeName` is accepted. -/
example : ∀ c ∈ [(⟨"StructuredType", [("Name", "S")], [⟨"Field", [("Name", "NoOfX")]⟩,
    ⟨"Field", [("Name", "X"), ("TypeName", "opc:Int32")]⟩]⟩ : Element)],
    c.Readable ∧ ¬c.HasNames := by
  decide

/-- Whatever `_make_model` returns is built from the document as `EnumOf` and `StructOf`
describe. -/
theorem makeModel_eq_of_ok {model model' : List ModelElem} {root : List Element}
    (hok : makeModel h model root = .ok model') :
    ∃ enums structs, model' = model ++ enums.map .enum ++ structs.map .struct ∧
      List.Forall₂ (EnumOf h) (root.filter (Py.endswith ·.tag "EnumeratedType")) enums ∧
      List.Forall₂ (StructOf h) (root.filter (Py.endswith ·.tag "StructuredType")) structs := by
  have hrd := readable_of_makeModel_ok h hok
  obtain ⟨es, enums, hes, hE⟩ := makeEnums_spec h root model Dict.empty hrd
  obtain ⟨ss, hss, hS⟩ := makeStructs_spec h enums root (model ++ es.map .enum) hrd
  simp only [makeModel, hes, hss, Except.ok.injEq] at hok
  exact ⟨es, ss, hok.symm, hE, hS⟩

/-- A document whose array-length marker has no `TypeName` is read into one array field. -/
theorem makeModel_eq_of_ok_marker :
    makeModel Structures104.spec []
        [⟨"StructuredType", [("Name", "S")], [⟨"Field", [("Name", "NoOfX")]⟩,
          ⟨"Field", [("Name", "X"), ("TypeName", "opc:Int32")]⟩]⟩] =
      .ok [.struct ⟨"S", [⟨"X", "Int32", .str "field(default_factory=list)", true, false⟩],
        none, 0⟩] ∧
    ∃ enums structs,
      [ModelElem.struct ⟨"S", [⟨"X", "Int32", .str "field(default_factory=list)", true, false⟩],
          none, 0⟩] = [] ++ enums.map .enum ++ structs.map .struct ∧
        List.Forall₂ (EnumOf Structures104.spec) [] enums ∧
        List.Forall₂ (StructOf Structures104.spec)
          [⟨"StructuredType", [("Name", "S")], [⟨"Field", [("Name", "NoOfX")]⟩,
            ⟨"Field", [("Name", "X"), ("TypeName", "opc:Int32")]⟩]⟩] structs :=
  (fun hok => ⟨hok, makeModel_eq_of_ok Structures104.spec hok⟩) rfl

end Spec

/-! ### The enum map -/

/-- The enum map is keyed by the raw `Name` of an enumeration, while the type tag of a field is
the cleaned local type name: when `clean_name` changes the name, the tag that
`get_default_value` receives for a field of that enumeration is not a key of the map it receives
with it. -/
theorem makeModel_enum_tag_not_key (h : Structures104)
    (hc : ' ' ∉ (h.cleanName "My Enum").data) :
    makeModel h []
        [⟨"EnumeratedType", [("Name", "My Enum")],
          [⟨"EnumeratedValue", [("Name", "A"), ("Value", "0")]⟩]⟩,
         ⟨"StructuredType", [("Name", "S")],
          [⟨"Field", [("Name", "f"), ("TypeName", "tns:My Enum")]⟩]⟩] =
      .ok [.enum ⟨h.cleanName "My Enum", [⟨"A", .str "0"⟩], none⟩,
        .struct ⟨h.cleanName "S",
          [makeField h (Dict.empty.set "My Enum" (PyValue.str "0")) "f" "My Enum" false false],
          none, 0⟩] ∧
    (Dict.empty.set "My Enum" (PyValue.str "0")).contains (h.cleanName "My Enum") = false := by
  refine ⟨rfl, ?_⟩
  have hne : h.cleanName "My Enum" ≠ "My Enum" := fun he => hc (by rw [he]; decide)
  simp [hne]

theorem makeModel_enum_tag_not_key_spec :
    ' ' ∉ (Structures104.spec.cleanName "My Enum").data ∧
    makeModel Structures104.spec []
        [⟨"EnumeratedType", [("Name", "My Enum")],
          [⟨"EnumeratedValue", [("Name", "A"), ("Value", "0")]⟩]⟩,
         ⟨"StructuredType", [("Name", "S")],
          [⟨"Field", [("Name", "f"), ("TypeName", "tns:My Enum")]⟩]⟩] =
      .ok [.enum ⟨Structures104.spec.cleanName "My Enum", [⟨"A", .str "0"⟩], none⟩,
        .struct ⟨Structures104.spec.cleanName "S",
          [makeField Structures104.spec (Dict.empty.set "My Enum" (PyValue.str "0")) "f" "My Enum"
            false false],
          none, 0⟩] ∧
    (Dict.empty.set "My Enum" (PyValue.str "0")).contains (Structures104.spec.cleanName "My Enum") =
      false :=
  ⟨by decide, makeModel_enum_tag_not_key Structures104.spec (by decide)⟩

/-- Every member of an enumeration overwrites its entry in the enum map, so the value recorded
for the enumeration, from which the default of a field of that type is built, is its last
member's. -/
theorem makeModel_enum_default_last_member (h : Structures104) :
    ∃ enums, makeModel h []
        [⟨"EnumeratedType", [("Name", "Color")],
          [⟨"EnumeratedValue", [("Name", "Red"), ("Value", "0")]⟩,
           ⟨"EnumeratedValue", [("Name", "Green"), ("Value", "1")]⟩,
           ⟨"EnumeratedValue", [("Name", "Blue"), ("Value", "2")]⟩]⟩,
         ⟨"StructuredType", [("Name", "Shape")],
          [⟨"Field", [("Name", "ColorField"), ("TypeName", "tns:Color")]⟩]⟩] =
      .ok [.enum ⟨h.cleanName "Color",
          [⟨"Red", .str "0"⟩, ⟨"Green", .str "1"⟩, ⟨"Blue", .str "2"⟩], none⟩,
        .struct ⟨h.cleanName "Shape", [makeField h enums "ColorField" "Color" false false],
          none, 0⟩] ∧
      enums.get? "Color" = some (.str "2") :=
  ⟨_, rfl, rfl⟩

end Asyncua
