import Asyncua.Python

/-!
# The type model of the structure generator

`asyncua/common/structures.py` reads a binary schema document (an XML tree) and builds a list
of `EnumType` and `Struct` objects, the *model*, from which it generates Python classes. This
file declares the XML input as the generator reads it, the model's records, and the two helpers
the generator imports from `structures104`, a module absent from the sources.

The generator only looks two levels deep into the document: the top-level elements and their
children. Deeper elements, the text of elements and every attribute other than `Name`, `Value`,
`TypeName` and `SwitchField` are never read and are left out.
-/

namespace Asyncua

/-- A child of a top-level schema element (`EnumeratedValue`, `Field`, or anything else). -/
structure XmlField where
  tag : String
  attrib : List (String × String)
  deriving DecidableEq, Repr

/-- A top-level element of a schema document, with its children. -/
structure Element where
  tag : String
  attrib : List (String × String)
  children : List XmlField
  deriving DecidableEq, Repr

/-- `xmlfield.get(key)`. -/
def XmlField.get (x : XmlField) (key : String) : Option String := Dict.lookupEntries key x.attrib

/-- `child.get(key)`. -/
def Element.get (c : Element) (key : String) : Option String := Dict.lookupEntries key c.attrib

/-- The helpers `clean_name` and `get_default_value` of `structures104`, whose code is not among
the sources: the model is parametric in them. `getDefaultValue uatype enums` stands for
`get_default_value(uatype, enums, hack=True)`, the only way `_make_model` calls it. -/
structure Structures104 where
  cleanName : String → String
  getDefaultValue : String → Dict PyValue → PyValue

/-- The reserved words of Python 3. -/
def pythonKeywords : List String :=
  ["False", "None", "True", "and", "as", "assert", "async", "await", "break", "class", "continue",
   "def", "del", "elif", "else", "except", "finally", "for", "from", "global", "if", "import", "in",
   "is", "lambda", "nonlocal", "not", "or", "pass", "raise", "return", "try", "while", "with",
   "yield"]

/-- Whether `c` is matched by `\w` on an ASCII name: a letter, a digit or `_`. -/
def isWordChar (c : Char) : Bool := c.isAlphanum || c == '_'

/-- `re.sub(r"\W+", "_", name)` on the characters of a name: every run of characters that are not
word characters becomes one `_`; `inRun` says whether the character before was one of them. -/
def subNonWord (inRun : Bool) : List Char → List Char
  | [] => []
  | c :: cs =>
    if isWordChar c then c :: subNonWord false cs
    else if inRun then subNonWord true cs
    else '_' :: subNonWord true cs

/-- `clean_name` of `structures104`, absent from the sources, on ASCII names: a reserved word gets
a trailing `_`; otherwise every run of characters that cannot stand in an identifier becomes
`_`, and a leading digit gets a `_` in front, so that the name is an identifier, as the spec asks
(no spaces, no reserved words). -/
def specCleanName (name : String) : String :=
  if name ∈ pythonKeywords then name ++ "_"
  else
    let n := subNonWord false name.data
    ⟨if (n.head?.map Char.isDigit).getD false then '_' :: n else n⟩

/-- The numeric types of the binary schema, whose zero is `0`. -/
def integerTypes : List String :=
  ["SByte", "Byte", "Int16", "UInt16", "Int32", "UInt32", "Int64", "UInt64"]

/-- Modelled from the spec: `get_default_value` of `structures104`, absent from the sources. A
type that is a key of the enum map is constructed from the recorded member value (a deferred
`ua.` default); a primitive type gets its zero-equivalent as Python text; any other type gets a
constructed `ua.T()`. -/
def specDefaultValue (uatype : String) (enums : Dict PyValue) : PyValue :=
  match enums.get? uatype with
  | some v => .str ("ua." ++ uatype ++ "(" ++ v.render ++ ")")
  | none =>
    if uatype ∈ integerTypes then .int 0
    else if uatype = "Float" ∨ uatype = "Double" then .str "0.0"
    else if uatype = "Boolean" then .str "False"
    else if uatype = "String" ∨ uatype = "CharArray" then .str "''"
    else if uatype = "ByteString" then .str "b''"
    else if uatype = "DateTime" then .str "datetime.fromtimestamp(0, timezone.utc)"
    else if uatype = "Guid" then .str "uuid.UUID('00000000-0000-0000-0000-000000000000')"
    else .str ("ua." ++ uatype ++ "()")

/-- The helpers of `structures104` as the spec and the library describe them. -/
def Structures104.spec : Structures104 := ⟨specCleanName, specDefaultValue⟩

example : specCleanName "My Enum" = "My_Enum" ∧ specCleanName "class" = "class_" ∧
    specCleanName "3D" = "_3D" := by decide

/-! ### The records of the model -/

/-- `EnumeratedValue`: one member of an enumeration. -/
structure EnumeratedValue where
  name : String
  value : PyValue
  deriving DecidableEq, Repr

/-- `EnumeratedValue(name, value)`: the name `"None"` becomes `"None_"`, then every space is
removed. -/
def EnumeratedValue.init (name : String) (value : PyValue) : EnumeratedValue :=
  ⟨Py.removeSpaces (if name = "None" then "None_" else name), value⟩

namespace EnumeratedValue

/-! ### Member names -/

/-- `EnumeratedValue("No ne", v)` is named `None`, and building a member from that name renames
it to `None_`. -/
theorem init_spaced_None (value : PyValue) :
    (init "No ne" value).name = "None" ∧ (init (init "No ne" value).name value).name = "None_" :=
  ⟨rfl, rfl⟩

end EnumeratedValue

/-- `EnumType`: an enumeration of the model. -/
structure EnumType where
  name : String
  fields : List EnumeratedValue
  typeid : Option String
  deriving DecidableEq, Repr

/-- `Field`: a member of a structure. `uatype` is set by every code path that builds a field
before the field is read, so the model keeps it as a string. -/
structure Field where
  name : String
  uatype : String
  value : PyValue
  array : Bool
  isOptional : Bool
  deriving DecidableEq, Repr

/-- `Struct`: a structure of the model. -/
structure Struct where
  name : String
  fields : List Field
  typeid : Option String
  optionCounter : Nat
  deriving DecidableEq, Repr

/-- An element of `StructGenerator.model`. -/
inductive ModelElem
  | enum (e : EnumType)
  | struct (s : Struct)
  deriving DecidableEq, Repr

/-- `element.name`. -/
def ModelElem.name : ModelElem → String
  | .enum e => e.name
  | .struct s => s.name

@[simp] lemma ModelElem.name_enum (e : EnumType) : (ModelElem.enum e).name = e.name := rfl

@[simp] lemma ModelElem.name_struct (s : Struct) : (ModelElem.struct s).name = s.name := rfl

section Init

variable (h : Structures104)

/-- `EnumType(name)`. -/
def EnumType.init (name : String) : EnumType := ⟨h.cleanName name, [], none⟩

/-- `Struct(name)`. -/
def Struct.init (name : String) : Struct := ⟨h.cleanName name, [], none, 0⟩

end Init

end Asyncua
