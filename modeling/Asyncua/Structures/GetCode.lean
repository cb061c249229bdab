import Asyncua.Structures.Types

/-!
# Code emission

`EnumType.get_code` and `Struct.get_code` render one element of the model as the text of a
Python class. `Struct.get_code` is not a pure function of the struct: when the struct has
optional fields it first prepends the synthetic `Encoding` field to `self.fields`, so each call
adds one more. The model returns the struct as the call leaves it, and the lemmas below say what
a sequence of calls emits.
-/

namespace Asyncua

/-! ### Structures -/

/-- The class header `Struct.get_code` starts from. -/
def Struct.header (name : String) : String :=
  "\n\n@dataclass\nclass " ++ name ++ ":\n\n    '''\n    " ++ name ++
    " structure autogenerated from xml\n    '''\n\n"

/-- `Field("Encoding")` with `uatype = "UInt32"`, the field `get_code` prepends. -/
def encodingField : Field :=
  { name := "Encoding", uatype := "UInt32", value := .none, array := false, isOptional := false }

/-- The type annotation `get_code` writes for a field. The comparison with `List[ua.Char]` is
the source's special case for arrays of characters. -/
def Field.uaAnnot (f : Field) : String :=
  let uatype := "'ua." ++ f.uatype ++ "'"
  let uatype := if f.array then "List[" ++ uatype ++ "]" else uatype
  if uatype = "List[ua.Char]" then "String" else uatype

/-- The default `get_code` writes for a field that is not optional. -/
def PyValue.uaDefault : PyValue → String
  | .str s => if Py.startswith s "ua." then "field(default_factory=lambda: " ++ s ++ ")" else s
  | v => v.render

/-- The line `get_code` emits for one field. -/
def Field.declaration (f : Field) : String :=
  if f.isOptional then "    " ++ f.name ++ ": Optional[" ++ f.uaAnnot ++ "] = None\n"
  else "    " ++ f.name ++ ":" ++ f.uaAnnot ++ " = " ++ f.value.uaDefault ++ "\n"

/-- The lines emitted for a field list: every field but those named `SwitchField`. -/
def Field.declarations (fields : List Field) : List String :=
  (fields.filter (·.name != "SwitchField")).map Field.declaration

/-- `self.fields = [field] + self.fields`, done when the struct has optional fields. -/
def Struct.addEncoding (s : Struct) : Struct :=
  if 0 < s.optionCounter then { s with fields := encodingField :: s.fields } else s

/-- The text emitted for a struct with its current fields. -/
def Struct.render (s : Struct) : String :=
  Struct.header s.name ++ String.join (Field.declarations s.fields)

/-- `Struct.get_code`: the text, and the struct as the call leaves it. -/
def Struct.getCode (s : Struct) : String × Struct := (s.addEncoding.render, s.addEncoding)

/-! ### Enumerations -/

/-- `EnumType.get_code`. -/
def EnumType.getCode (h : Structures104) (e : EnumType) : String :=
  "\n\nclass " ++ e.name ++ "(IntEnum):\n\n    '''\n    " ++ e.name ++
    " EnumInt autogenerated from xml\n    '''\n\n" ++
    String.join
      (e.fields.map fun v => "    " ++ h.cleanName v.name ++ " = " ++ v.value.render ++ "\n")

/-- `element.get_code()` for an element of the model. -/
def ModelElem.getCode (h : Structures104) : ModelElem → String × ModelElem
  | .enum e => (e.getCode h, .enum e)
  | .struct s => (s.getCode.1, .struct s.getCode.2)

@[simp] lemma Struct.addEncoding_name (s : Struct) : s.addEncoding.name = s.name := by
  unfold Struct.addEncoding; split <;> rfl

@[simp] lemma ModelElem.name_getCode (h : Structures104) (m : ModelElem) :
    (m.getCode h).2.name = m.name := by
  cases m <;> simp [ModelElem.getCode, Struct.getCode]

/-! ### What `get_code` emits -/

@[simp] lemma Field.declarations_cons_encoding (fields : List Field) :
    Field.declarations (encodingField :: fields) =
      encodingField.declaration :: Field.declarations fields := by
  simp [Field.declarations, encodingField]

lemma Field.declarations_replicate_encoding (n : Nat) (fields : List Field) :
    Field.declarations (List.replicate n encodingField ++ fields) =
      List.replicate n encodingField.declaration ++ Field.declarations fields := by
  induction n with
  | zero => rfl
  | succ n ih => simp [List.replicate_succ, ih]

/-- After `n` calls of `get_code`, a struct with optional fields carries `n` copies of the
`Encoding` field in front of its own. -/
lemma Struct.iterate_getCode {s : Struct} (hs : 0 < s.optionCounter) (n : Nat) :
    (fun t : Struct => t.getCode.2)^[n] s =
      { s with fields := List.replicate n encodingField ++ s.fields } := by
  induction n with
  | zero => rfl
  | succ n ih =>
    rw [Function.iterate_succ_apply', ih]
    simp [Struct.getCode, Struct.addEncoding, hs, List.replicate_succ]

/-- The text of the `n + 1`-th call of `get_code` on a struct with optional fields declares
`Encoding` `n + 1` times before the struct's own fields. -/
theorem Struct.getCode_iterate_fst {s : Struct} (hs : 0 < s.optionCounter) (n : Nat) :
    (((fun t : Struct => t.getCode.2)^[n] s).getCode).1 =
      Struct.header s.name ++ String.join
        (List.replicate (n + 1) encodingField.declaration ++ Field.declarations s.fields) := by
  rw [Struct.iterate_getCode hs, ← Field.declarations_replicate_encoding]
  simp [Struct.getCode, Struct.addEncoding, hs, Struct.render, List.replicate_succ]

/-- A second call of `get_code` on a struct with optional fields returns a different text from
the first, and the first call already changed the struct's fields. -/
theorem Struct.getCode_second_call_ne {s : Struct} (hs : 0 < s.optionCounter) :
    s.getCode.2.getCode.1 ≠ s.getCode.1 ∧ s.getCode.2.fields ≠ s.fields := by
  have h1 := Struct.getCode_iterate_fst hs 1
  have h0 := Struct.getCode_iterate_fst hs 0
  simp only [Function.iterate_one, Function.iterate_zero, id] at h1 h0
  have hd : 0 < encodingField.declaration.length := by decide
  refine ⟨fun h => ?_, ?_⟩
  · have := congrArg (fun t : String => t.data.length) (h1.symm.trans (h.trans h0))
    simp [List.replicate_succ] at this
    omega
  · simp [Struct.getCode, Struct.addEncoding, hs]

theorem Struct.getCode_second_call_ne_optional :
    0 < (⟨"S", [⟨"x", "Int32", .int 0, false, true⟩], none, 1⟩ : Struct).optionCounter ∧
    ((⟨"S", [⟨"x", "Int32", .int 0, false, true⟩], none, 1⟩ : Struct).getCode.2.getCode.1 ≠
        (⟨"S", [⟨"x", "Int32", .int 0, false, true⟩], none, 1⟩ : Struct).getCode.1 ∧
      (⟨"S", [⟨"x", "Int32", .int 0, false, true⟩], none, 1⟩ : Struct).getCode.2.fields ≠
        (⟨"S", [⟨"x", "Int32", .int 0, false, true⟩], none, 1⟩ : Struct).fields) :=
  ⟨by decide, Struct.getCode_second_call_ne (by decide)⟩

/-! ### The special case for arrays of characters -/

lemma Field.quoted_ne_listChar (t : String) : "'ua." ++ t ++ "'" ≠ "List[ua.Char]" := by
  intro h
  have := congrArg (fun s : String => s.data.take 1) h
  simp at this

lemma Field.listQuoted_ne_listChar (t : String) :
    "List[" ++ ("'ua." ++ t ++ "'") ++ "]" ≠ "List[ua.Char]" := by
  intro h
  have := congrArg (fun s : String => s.data.take 6) h
  simp at this

/-- The annotation `get_code` writes is the quoted `ua` type, wrapped in `List[...]` for an
array: the comparison with the unquoted `List[ua.Char]` never holds. -/
lemma Field.uaAnnot_eq (f : Field) :
    f.uaAnnot =
      if f.array then "List[" ++ ("'ua." ++ f.uatype ++ "'") ++ "]"
      else "'ua." ++ f.uatype ++ "'" := by
  cases ha : f.array <;>
    simp [Field.uaAnnot, ha, Field.quoted_ne_listChar, Field.listQuoted_ne_listChar]

/-- `get_code` never declares a field with the native `String` type. -/
theorem Field.uaAnnot_ne_String (f : Field) : f.uaAnnot ≠ "String" := by
  rw [Field.uaAnnot_eq]
  intro h
  have := congrArg (fun t : String => t.data.take 1) h
  split at this <;> simp at this

end Asyncua
