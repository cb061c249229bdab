import Asyncua.Python

/-!
# Values written by `uawrite`: `_val_to_variant`

The command `uawrite` turns its `VALUE` argument into a `ua.Variant` with `_val_to_variant`, after
the options `--datatype` and `--array` (both `guess` by default). With `--array true`, or `guess`
and a comma in the text, the text is split at its commas and each item is converted alone
(`_args_to_array`, `_arg_to_variant`). A typed mode converts with one Python conversion and gives
its variant type. The mode `guess` first asks whether the whole text is a boolean word, then tries
`int`, `float` and `str` in turn, catching `ValueError`, and lets `ua.Variant` guess the type. The
mode `bool` gives a scalar Boolean, whatever the array option.

So a list of boolean words is not read as Booleans: in the mode `guess` the test for a boolean
word looks at the whole text, commas included, and the mode `bool` never splits.

The conversions that are not among the sources (`int`, `float`, and the parsers of `ua`) are a
parameter.
-/

namespace Asyncua

/-- An item of a value `_val_to_variant` passes to `ua.Variant`. -/
inductive PyScalar
  | bool (b : Bool)
  | int (i : Int)
  | float (x : Float)
  | str (s : String)
  /-- An object of a class of `ua` (`NodeId`, `ExpandedNodeId`, `QualifiedName`,
  `LocalizedText`), by the class and the text it was built from. -/
  | obj (cls text : String)
  deriving Repr

/-- The members of `ua.VariantType` that `_val_to_variant` names. -/
inductive VariantType
  | boolean | sByte | byte | uInt16 | uInt32 | uInt64 | int16 | int32 | int64 | float | double
  | string | guid | byteString | xmlElement | nodeId | expandedNodeId | statusCode
  | qualifiedName | localizedText
  deriving DecidableEq, Repr

/-- A value as `_args_to_array` returns it: one item, or the list the text was split into. -/
inductive ScalarOrList (α : Type)
  | scalar (x : α)
  | list (xs : List α)
  deriving DecidableEq, Repr

/-- `ua.Variant(val)` or `ua.Variant(val, varianttype)`: the value and the variant type given, if
any. -/
structure Variant where
  value : ScalarOrList PyScalar
  variantType : Option VariantType
  deriving Repr

/-- The conversions `_val_to_variant` calls that are not among the sources. -/
structure Conversions where
  /-- `int(s)`, or `none` when it raises `ValueError`. -/
  int : String → Option Int
  /-- `float(s)`, or `none` when it raises `ValueError`. -/
  float : String → Option Float
  /-- `ua.C.from_string(s)` for the class `C` (`NodeId`, `ExpandedNodeId`, `QualifiedName`): the
  object built, or the name of the exception raised. -/
  fromString : String → String → Except String PyScalar

/-- `_args_to_array(val, array)`. -/
def argsToArray (val array : String) : ScalarOrList String :=
  let array := if array = "guess" ∧ ',' ∈ val.data then "true" else array
  if array = "true" then .list (Py.split val ',') else .scalar val

/-- `_arg_to_bool(val)`. -/
def argToBool (val : String) : Except String PyScalar := .ok (.bool (val ∈ ["true", "True"]))

/-- `_arg_to_variant(val, array, ptype, varianttype)`: the items are converted in order, and the
first exception is raised. -/
def argToVariant (val array : String) (ptype : String → Except String PyScalar)
    (varianttype : Option VariantType) : Except String Variant := do
  let val ← match argsToArray val array with
    | .list items => ScalarOrList.list <$> items.mapM ptype
    | .scalar item => ScalarOrList.scalar <$> ptype item
  pure ⟨val, varianttype⟩

lemma mapM_eq_ok_of_forall₂ {α β ε : Type} {f : α → Except ε β} {l : List α} {r : List β}
    (h : List.Forall₂ (fun a b => f a = .ok b) l r) : l.mapM f = .ok r := by
  induction h with
  | nil => rfl
  | cons hab _ ih => rw [List.mapM_cons, hab, ih]; rfl

lemma forall₂_of_mapM_eq_ok {α β ε : Type} {f : α → Except ε β} :
    ∀ {l : List α} {r : List β}, l.mapM f = .ok r → List.Forall₂ (fun a b => f a = .ok b) l r
  | [], r, h => by cases h; exact .nil
  | x :: xs, r, h => by
    rw [List.mapM_cons] at h
    cases hx : f x <;> cases hxs : xs.mapM f <;> rw [hx, hxs] at h <;> cases h
    exact .cons hx (forall₂_of_mapM_eq_ok hxs)

/-- Two comma-free items or more joined by commas are split back into the items, with
`--array true` or `guess`. -/
lemma argsToArray_join {items : List String} (hlen : 2 ≤ items.length)
    (hcomma : ∀ s ∈ items, ',' ∉ s.data) {array : String}
    (harray : array = "true" ∨ array = "guess") :
    argsToArray (Py.join ',' items) array = .list items := by
  have hne : items ≠ [] := List.ne_nil_of_length_pos (by omega)
  rcases harray with rfl | rfl <;> simp [argsToArray, Py.mem_join hlen, Py.split_join hcomma hne]

@[simp] lemma argsToArray_false (val : String) : argsToArray val "false" = .scalar val := by
  simp [argsToArray]

/-- The items of a value: one for a scalar. -/
def ScalarOrList.items {α : Type} : ScalarOrList α → List α
  | .scalar x => [x]
  | .list xs => xs

/-- A conversion applied to every item. -/
def ScalarOrList.map {α γ : Type} (f : α → γ) : ScalarOrList α → ScalarOrList γ
  | .scalar x => .scalar (f x)
  | .list xs => .list (xs.map f)

/-! ### Conversions item by item -/

lemma mapM_eq_ok_map {α β ε : Type} {f : α → Except ε β} {g : α → β} {l : List α}
    (h : ∀ x ∈ l, f x = .ok (g x)) : l.mapM f = .ok (l.map g) :=
  mapM_eq_ok_of_forall₂ (List.forall₂_map_right_iff.mpr (List.forall₂_same.mpr h))

lemma mapM_eq_error {α β ε : Type} {f : α → Except ε β} {err : ε}
    (herr : ∀ x e, f x = .error e → e = err) :
    ∀ {l : List α}, (∃ x ∈ l, ∀ y, f x ≠ .ok y) → l.mapM f = .error err
  | [], ⟨_, hx, _⟩ => absurd hx (List.not_mem_nil _)
  | x :: xs, ⟨z, hz, hfz⟩ => by
    rw [List.mapM_cons]
    cases hx : f x with
    | error e => rw [herr x e hx]; rfl
    | ok y =>
      have hzx : z ≠ x := by rintro rfl; exact hfz y hx
      rw [mapM_eq_error herr ⟨z, (List.mem_cons.mp hz).resolve_left hzx, hfz⟩]
      rfl

lemma argToVariant_eq_ok {val array : String} (ptype : String → Except String PyScalar)
    (f : String → PyScalar) (t : Option VariantType)
    (h : ∀ s ∈ (argsToArray val array).items, ptype s = .ok (f s)) :
    argToVariant val array ptype t = .ok ⟨(argsToArray val array).map f, t⟩ := by
  unfold argToVariant
  cases hA : argsToArray val array with
  | scalar s =>
    rw [hA] at h
    simp only [ScalarOrList.items, List.mem_singleton, forall_eq] at h
    simp only [h]
    rfl
  | list items =>
    rw [hA, ScalarOrList.items] at h
    dsimp only
    rw [mapM_eq_ok_map h]
    rfl

lemma argToVariant_eq_error {val array : String} (ptype : String → Except String PyScalar)
    (err : String) (t : Option VariantType) (herr : ∀ s e, ptype s = .error e → e = err)
    (h : ∃ s ∈ (argsToArray val array).items, ∀ x, ptype s ≠ .ok x) :
    argToVariant val array ptype t = .error err := by
  unfold argToVariant
  cases hA : argsToArray val array with
  | scalar s =>
    rw [hA] at h
    obtain ⟨s', hs', hfail⟩ := h
    simp only [ScalarOrList.items, List.mem_singleton] at hs'
    subst hs'
    cases hp : ptype s' with
    | error e =>
      simp only [hp]
      rw [herr _ e hp]
      rfl
    | ok x => exact absurd hp (hfail x)
  | list items =>
    rw [hA, ScalarOrList.items] at h
    dsimp only
    rw [mapM_eq_error herr h]
    rfl

/-- A conversion that parses an item or raises `ValueError`, as `int` and `float` do: on the
items of a text it gives their values when it reads them all, and raises `ValueError`
otherwise. -/
lemma argToVariant_parse {α : Type} (ptype : String → Except String PyScalar)
    (parse : String → Option α) (mk : α → PyScalar) (d : α)
    (hsome : ∀ s x, parse s = some x → ptype s = .ok (mk x))
    (hnone : ∀ s, parse s = none → ptype s = .error "ValueError") (val array : String) :
    argToVariant val array ptype none =
      if (argsToArray val array).items.all fun s => (parse s).isSome then
        .ok ⟨(argsToArray val array).map fun s => mk ((parse s).getD d), none⟩
      else .error "ValueError" := by
  split_ifs with hall
  · refine argToVariant_eq_ok ptype _ none fun s hs => ?_
    obtain ⟨x, hx⟩ := Option.isSome_iff_exists.mp (List.all_eq_true.mp hall s hs)
    rw [hsome s x hx, hx]
    rfl
  · obtain ⟨s, hs, hs'⟩ : ∃ s ∈ (argsToArray val array).items, parse s = none := by
      simpa using hall
    refine argToVariant_eq_error ptype "ValueError" none (fun s e h => ?_)
      ⟨s, hs, fun x => by rw [hnone s hs']; exact Except.noConfusion⟩
    cases hp : parse s with
    | none => rw [hnone s hp] at h; cases h; rfl
    | some x => rw [hsome s x hp] at h; cases h

lemma argsToArray_of_not_mem {val : String} (h : ',' ∉ val.data) (array : String) :
    argsToArray val array = if array = "true" then .list [val] else .scalar val := by
  simp [argsToArray, h, Py.split_of_not_mem h]

lemma eq_ok_of_map_some {ε α : Type} {x : Except ε α} {a : α} (h : some <$> x = .ok (some a)) :
    x = .ok a := by
  cases x with
  | error e => cases h
  | ok v => cases h; rfl

lemma eq_map_of_mapM_eq_ok {α β ε : Type} {f : α → Except ε β} (d : β) :
    ∀ {l : List α} {r : List β}, l.mapM f = .ok r →
      r = l.map fun x => match f x with
        | .ok y => y
        | .error _ => d
  | [], r, h => by cases h; rfl
  | x :: xs, r, h => by
    rw [List.mapM_cons] at h
    cases hx : f x with
    | error e => rw [hx] at h; cases h
    | ok y =>
      cases hxs : xs.mapM f with
      | error e => rw [hx, hxs] at h; cases h
      | ok ys =>
        rw [hx, hxs] at h
        cases h
        simp [hx, eq_map_of_mapM_eq_ok d hxs]

/-- A value of `_arg_to_variant` is one conversion applied to each item. -/
lemma value_of_argToVariant_eq_ok {val array : String} {ptype : String → Except String PyScalar}
    {t : Option VariantType} {var : Variant} (h : argToVariant val array ptype t = .ok var) :
    ∃ f, var.value = (argsToArray val array).map f := by
  unfold argToVariant at h
  cases hA : argsToArray val array with
  | scalar s =>
    rw [hA] at h
    cases hp : ptype s with
    | error e => simp only [hp] at h; cases h
    | ok x => simp only [hp] at h; cases h; exact ⟨fun _ => x, rfl⟩
  | list items =>
    rw [hA] at h
    cases hm : items.mapM ptype with
    | error e => simp only [hm] at h; cases h
    | ok xs =>
      simp only [hm] at h
      cases h
      exact ⟨_, congrArg ScalarOrList.list (eq_map_of_mapM_eq_ok (.str "") hm)⟩

section ValToVariant

variable (c : Conversions)

/-- `int` as a conversion of `_arg_to_variant`. -/
def pyInt (s : String) : Except String PyScalar :=
  match c.int s with
  | some i => .ok (.int i)
  | none => .error "ValueError"

/-- `float` as a conversion of `_arg_to_variant`. -/
def pyFloat (s : String) : Except String PyScalar :=
  match c.float s with
  | some x => .ok (.float x)
  | none => .error "ValueError"

/-- `str` as a conversion of `_arg_to_variant`. -/
def pyStr (s : String) : Except String PyScalar := .ok (.str s)

/-- `bytes` as a conversion of `_arg_to_variant`: `bytes(s)` of a string raises `TypeError`, for
want of an encoding. -/
def pyBytes (_ : String) : Except String PyScalar := .error "TypeError"

/-- `ua.LocalizedText` as a conversion of `_arg_to_variant`. -/
def pyLocalizedText (s : String) : Except String PyScalar := .ok (.obj "LocalizedText" s)

/-- The conversion and the variant type of each mode of `_val_to_variant` that calls
`_arg_to_variant` with a variant type, in the order of its branches. -/
def typedMode : String → Option ((String → Except String PyScalar) × VariantType)
  | "sbyte" => some (pyInt c, .sByte)
  | "byte" => some (pyInt c, .byte)
  | "uint16" => some (pyInt c, .uInt16)
  | "uint32" => some (pyInt c, .uInt32)
  | "uint64" => some (pyInt c, .uInt64)
  | "int16" => some (pyInt c, .int16)
  | "int32" => some (pyInt c, .int32)
  | "int64" => some (pyInt c, .int64)
  | "float" => some (pyFloat c, .float)
  | "double" => some (pyFloat c, .double)
  | "string" => some (pyStr, .string)
  | "Guid" => some (pyBytes, .guid)
  | "ByteString" => some (pyBytes, .byteString)
  | "xml" => some (pyStr, .xmlElement)
  | "nodeid" => some (c.fromString "NodeId", .nodeId)
  | "expandednodeid" => some (c.fromString "ExpandedNodeId", .expandedNodeId)
  | "statuscode" => some (pyInt c, .statusCode)
  | "qualifiedname" | "browsename" => some (c.fromString "QualifiedName", .qualifiedName)
  | "LocalizedText" => some (pyLocalizedText, .localizedText)
  | _ => none

/-- `_val_to_variant(val, args)` for `args.datatype` and `args.array`: the variant, `None` for a
data type no branch handles, or the name of the exception raised. The branch of `datetime`,
which raises `NotImplementedError`, stands between those of `string` and `Guid` in the source;
the data types are distinct, so its place does not matter. -/
def valToVariant (val datatype array : String) : Except String (Option Variant) :=
  if datatype = "guess" then
    some <$> if val ∈ ["true", "True", "false", "False"] then argToVariant val array argToBool none
      else match argToVariant val array (pyInt c) none with
        | .error "ValueError" => match argToVariant val array (pyFloat c) none with
          | .error "ValueError" => argToVariant val array pyStr none
          | r => r
        | r => r
  else if datatype = "bool" then
    .ok (some ⟨.scalar (.bool (val ∈ ["1", "True", "true"])), some .boolean⟩)
  else if datatype = "datetime" then .error "NotImplementedError"
  else match typedMode c datatype with
    | some (ptype, varianttype) => some <$> argToVariant val array ptype (some varianttype)
    | none => .ok none

/-! ### Arrays against items -/

lemma valToVariant_of_typedMode {datatype : String} {ptype : String → Except String PyScalar}
    {t : VariantType} (hmode : typedMode c datatype = some (ptype, t)) (val array : String) :
    valToVariant c val datatype array = some <$> argToVariant val array ptype (some t) := by
  obtain ⟨hg, hb, hd⟩ : datatype ≠ "guess" ∧ datatype ≠ "bool" ∧ datatype ≠ "datetime" := by
    refine ⟨?_, ?_, ?_⟩ <;> rintro rfl <;> cases hmode
  simp only [valToVariant, if_neg hg, if_neg hb, if_neg hd, hmode]

/-- In a typed mode, comma-separated items are converted one by one: the array holds, in order,
the values the items give alone, under the mode's variant type. -/
theorem valToVariant_typed_array {datatype array : String}
    {ptype : String → Except String PyScalar} {t : VariantType}
    (hmode : typedMode c datatype = some (ptype, t)) (harray : array = "true" ∨ array = "guess")
    {items : List String} (hlen : 2 ≤ items.length) (hcomma : ∀ s ∈ items, ',' ∉ s.data)
    {xs : List PyScalar}
    (hsingle : List.Forall₂
      (fun s x => valToVariant c s datatype "false" = .ok (some ⟨.scalar x, some t⟩)) items xs) :
    valToVariant c (Py.join ',' items) datatype array = .ok (some ⟨.list xs, some t⟩) := by
  have hitems : items.mapM ptype = .ok xs := mapM_eq_ok_of_forall₂ <| hsingle.imp fun s x h => by
    rw [valToVariant_of_typedMode c hmode] at h
    cases hp : ptype s <;> simp_all [argToVariant]
  rw [valToVariant_of_typedMode c hmode, argToVariant, argsToArray_join hlen hcomma harray]
  simp only [hitems]
  rfl

/-- `1,2` with `--datatype int32 --array true` is one `Int32` array of the two integers. -/
theorem valToVariant_typed_array_int32 :
    valToVariant ⟨fun s => if s = "1" then some 1 else if s = "2" then some 2 else none,
        fun _ => none, fun _ _ => .error "ValueError"⟩ (Py.join ',' ["1", "2"]) "int32" "true" =
      .ok (some ⟨.list [.int 1, .int 2], some .int32⟩) :=
  valToVariant_typed_array _ (by rfl) (.inl rfl) (by decide) (by decide)
    (.cons rfl (.cons rfl .nil))

/-- The boolean words `true` and `false` are Booleans alone, but `true,false` is written as an
array of strings in the mode `guess`, since neither `int` nor `float` reads `true`; in the mode
`bool`, `true,true` is the one Boolean `False`. -/
theorem valToVariant_boolean_words (hint : c.int "true" = none) (hfloat : c.float "true" = none) :
    valToVariant c "true" "guess" "false" = .ok (some ⟨.scalar (.bool true), none⟩) ∧
    valToVariant c "false" "guess" "false" = .ok (some ⟨.scalar (.bool false), none⟩) ∧
    valToVariant c "true,false" "guess" "guess" =
      .ok (some ⟨.list [.str "true", .str "false"], none⟩) ∧
    valToVariant c "true" "bool" "false" = .ok (some ⟨.scalar (.bool true), some .boolean⟩) ∧
    valToVariant c "true,true" "bool" "guess" =
      .ok (some ⟨.scalar (.bool false), some .boolean⟩) := by
  refine ⟨rfl, rfl, ?_, rfl, rfl⟩
  have harr : argsToArray "true,false" "guess" = .list ["true", "false"] := by decide
  have hw : "true,false" ∉ ["true", "True", "false", "False"] := by decide
  simp only [valToVariant, if_pos, if_neg hw, argToVariant, harr, List.mapM_cons, pyInt, pyFloat,
    hint, hfloat]
  rfl

end ValToVariant

/-- With conversions under which `int` and `float` read no text, `true,false` in the mode `guess`
is an array of strings. -/
theorem valToVariant_boolean_words_guess :
    valToVariant ⟨fun _ => none, fun _ => none, fun _ _ => .error "ValueError"⟩ "true,false"
        "guess" "guess" = .ok (some ⟨.list [.str "true", .str "false"], none⟩) :=
  (valToVariant_boolean_words _ rfl rfl).2.2.1

/-! ### The mode `guess` and `uacall` -/

section Guess

variable (c : Conversions)

/-- The conversion the mode `guess` settles on for the items of a text, read off the source: a
boolean word gives Booleans; otherwise `int` if it reads every item, `float` if it reads every
item, and `str` for the rest. -/
def guessConversion (boolWord : Bool) (items : List String) : String → PyScalar :=
  if boolWord then fun s => .bool (s ∈ ["true", "True"])
  else if items.all fun s => (c.int s).isSome then fun s => .int ((c.int s).getD 0)
  else if items.all fun s => (c.float s).isSome then fun s => .float ((c.float s).getD 0)
  else .str

/-- The mode `guess` converts every item of the text with one conversion, which depends only on
the items: Booleans for a boolean word, otherwise integers if `int` reads every item, floats if
`float` reads every item, and strings for the rest. It never raises. -/
theorem valToVariant_guess (val array : String) :
    valToVariant c val "guess" array =
      .ok (some ⟨(argsToArray val array).map (guessConversion c
        (val ∈ ["true", "True", "false", "False"]) (argsToArray val array).items), none⟩) := by
  simp only [valToVariant, if_true, guessConversion]
  by_cases hb : val ∈ ["true", "True", "false", "False"]
  · rw [if_pos hb, argToVariant_eq_ok argToBool _ none fun s _ => rfl]
    simp [hb]
  · simp only [hb, if_false, decide_False, Bool.false_eq_true,
      argToVariant_parse (pyInt c) c.int .int 0 (fun s x h => by simp [pyInt, h])
        (fun s h => by simp [pyInt, h]),
      argToVariant_parse (pyFloat c) c.float .float 0 (fun s x h => by simp [pyFloat, h])
        (fun s h => by simp [pyFloat, h])]
    -- whether `int`, then `float`, reads every item; `str` reads anything
    split_ifs
    · rfl
    · rfl
    · rfl
    · rw [argToVariant_eq_ok pyStr PyScalar.str none fun s _ => rfl]
      rfl

/-- What `_val_to_variant` can return: the scalar Boolean of the mode `bool`, or one conversion
applied to each item of the text as `_args_to_array` leaves it. -/
lemma valToVariant_eq_ok {val datatype array : String} {var : Variant}
    (h : valToVariant c val datatype array = .ok (some var)) :
    (∃ b, var.value = .scalar (.bool b)) ∨ ∃ f, var.value = (argsToArray val array).map f := by
  unfold valToVariant at h
  split_ifs at h
  · -- a boolean word in the mode `guess`
    exact .inr (value_of_argToVariant_eq_ok (eq_ok_of_map_some h))
  · -- the mode `guess`: the value is the one of the conversion that did not raise
    have h' := eq_ok_of_map_some h
    split at h'
    · split at h' <;> exact .inr (value_of_argToVariant_eq_ok h')
    · exact .inr (value_of_argToVariant_eq_ok h')
  · -- the mode `bool`
    cases h
    exact .inl ⟨_, rfl⟩
  · split at h
    · exact .inr (value_of_argToVariant_eq_ok (eq_ok_of_map_some h))
    · cases h

/-- `_uacall` once connected: its arguments, `VALUE` split at its commas and each item converted
alone by `_val_to_variant`; without `VALUE`, no argument. -/
def uacallArgs (value : Option String) (datatype array : String) :
    Except String (List (Option Variant)) :=
  match value with
  | none => .ok []
  | some value => (Py.split value ',').mapM fun v => valToVariant c v datatype array

/-- `uacall` converts each comma-separated item of its value alone: one argument per item, and
none an array of several items. Each is a scalar, or, with `--array true`, an array of its one
item. -/
lemma uacallArgs_items {value datatype array : String} {args : List (Option Variant)}
    (h : uacallArgs c (some value) datatype array = .ok args) :
    List.Forall₂ (fun item a => valToVariant c item datatype array = .ok a)
        (Py.split value ',') args ∧
      ∀ a ∈ args, ∀ var, a = some var →
        ∃ x, var.value = .scalar x ∨ (array = "true" ∧ var.value = .list [x]) := by
  have hargs := eq_map_of_mapM_eq_ok none h
  refine ⟨forall₂_of_mapM_eq_ok h, fun a ha var hvar => ?_⟩
  rw [hargs] at ha
  obtain ⟨item, hitem, rfl⟩ := List.mem_map.mp ha
  have hok : valToVariant c item datatype array = .ok (some var) := by
    revert hvar
    cases valToVariant c item datatype array <;> simp
  rcases valToVariant_eq_ok c hok with ⟨b, hb⟩ | ⟨f, hf⟩
  · exact ⟨_, .inl hb⟩
  · rw [argsToArray_of_not_mem (Py.sep_not_mem_of_mem_split hitem)] at hf
    split_ifs at hf with harr
    · exact ⟨f item, .inr ⟨harr, hf⟩⟩
    · exact ⟨f item, .inl hf⟩

/-- The exceptions `_uacall` raises before calling the method: one raised by `_val_to_variant`,
by the name of its class, or the `ValueError` it raises itself, by its text. -/
inductive UacallError
  | conversion (exc : String)
  | valueError (msg : String)
  deriving DecidableEq, Repr

/-- The method `_uacall` calls: the browse name given by `--method`, or a method node of the
node. -/
inductive MethodRef
  | browseName (name : String)
  | node (id : String)
  deriving DecidableEq, Repr

/-- `_uacall` once connected and the node found: the method and the arguments of
`node.call_method`, given `--method` and the ids of the node's methods. The arguments are
converted before the method is looked for. -/
def uacall (value : Option String) (datatype array : String) (method : Option String)
    (methods : List String) : Except UacallError (MethodRef × List (Option Variant)) := do
  let val ← (uacallArgs c value datatype array).mapError .conversion
  let methodId ← match method with
    | some name => pure (.browseName name)
    | none => match methods with
      | [] => throw (.valueError "No methods in selected node and no method given")
      | m :: _ => pure (.node m)
  pure (methodId, val)

/-- A call `_uacall` makes: the arguments are `uacallArgs`, and the method is the one `--method`
names, or else the first method of the node. -/
lemma uacall_eq_ok {value : Option String} {datatype array : String} {method : Option String}
    {methods : List String} {m : MethodRef} {args : List (Option Variant)}
    (h : uacall c value datatype array method methods = .ok (m, args)) :
    uacallArgs c value datatype array = .ok args ∧
      ((∃ name, method = some name ∧ m = .browseName name) ∨
        (method = none ∧ ∃ id, methods.head? = some id ∧ m = .node id)) := by
  unfold uacall at h
  cases hargs : uacallArgs c value datatype array with
  | error e => simp only [hargs] at h; cases h
  | ok val =>
    simp only [hargs] at h
    rcases method with _ | name
    · rcases methods with _ | ⟨id, ms⟩
      · cases h
      · cases h
        exact ⟨rfl, .inr ⟨rfl, id, rfl, rfl⟩⟩
    · cases h
      exact ⟨rfl, .inl ⟨name, rfl, rfl⟩⟩

/-- A call of `uacall` with a value: the method is the one `--method` names, or else the node's
first method; the arguments are, item by item, what `_val_to_variant` makes of each
comma-separated item of the value alone, so none is an array of several items: each is a scalar,
or, with `--array true`, an array of its one item. -/
theorem uacall_call {value datatype array : String} {method : Option String}
    {methods : List String} {m : MethodRef} {args : List (Option Variant)}
    (h : uacall c (some value) datatype array method methods = .ok (m, args)) :
    ((∃ name, method = some name ∧ m = .browseName name) ∨
        (method = none ∧ ∃ id, methods.head? = some id ∧ m = .node id)) ∧
      List.Forall₂ (fun item a => valToVariant c item datatype array = .ok a)
        (Py.split value ',') args ∧
      ∀ a ∈ args, ∀ var, a = some var →
        ∃ x, var.value = .scalar x ∨ (array = "true" ∧ var.value = .list [x]) := by
  obtain ⟨hargs, hmethod⟩ := uacall_eq_ok c h
  exact ⟨hmethod, uacallArgs_items c hargs⟩

end Guess

/-- With `--datatype int32 --array true`, `uacall` calls the node's first method with two
arguments for `1,2`, each an array of one integer. -/
theorem uacall_call_int32 :
    uacall ⟨fun _ => some 1, fun _ => none, fun _ _ => .error "ValueError"⟩ (some "1,2")
        "int32" "true" none ["i=7"] =
      .ok (.node "i=7", [some ⟨.list [.int 1], some .int32⟩, some ⟨.list [.int 1], some .int32⟩]) ∧
    (((∃ name, (none : Option String) = some name ∧ MethodRef.node "i=7" = .browseName name) ∨
        ((none : Option String) = none ∧
          ∃ id, ["i=7"].head? = some id ∧ MethodRef.node "i=7" = .node id)) ∧
      List.Forall₂ (fun item a => valToVariant
          ⟨fun _ => some 1, fun _ => none, fun _ _ => .error "ValueError"⟩ item "int32" "true" =
            .ok a)
        (Py.split "1,2" ',')
        [some (⟨.list [.int 1], some .int32⟩ : Variant), some ⟨.list [.int 1], some .int32⟩] ∧
      ∀ a ∈ [some (⟨.list [.int 1], some .int32⟩ : Variant), some ⟨.list [.int 1], some .int32⟩],
        ∀ var, a = some var →
          ∃ x, var.value = .scalar x ∨ ("true" = "true" ∧ var.value = .list [x])) :=
  ⟨rfl, @uacall_call ⟨fun _ => some 1, fun _ => none, fun _ _ => .error "ValueError"⟩
    "1,2" "int32" "true" none ["i=7"] _ _ rfl⟩

end Asyncua
