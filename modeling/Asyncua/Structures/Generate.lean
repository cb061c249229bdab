import Asyncua.Structures.GetCode

/-!
# Executing the generated code

`_generate_python_class(model, env)` binds a few helper names in the namespace `env`, then, for
each element of the model in order, calls `get_code` and executes the code in `env`. Executing
the code of an element either defines its class, bound under the element's name, or raises; the
exception is logged and raised again. The namespace is a `dict` updated in place, so a failure
at some element leaves the classes of the elements before it in the namespace.

What executing a piece of code does beyond that is a parameter, `Runtime`.
-/

namespace Asyncua

/-- A value the generator binds in a namespace. -/
inductive PyObj
  /-- An object bound under this name by the caller or by `_generate_python_class` itself
  (`ua`, `datetime`, `timezone`, `uuid`, `IntEnum`, `dataclass`, `field`, `List`, `Optional`). -/
  | helper (name : String)
  /-- The module `builtins`, which `exec` binds as `__builtins__`. -/
  | builtins
  /-- The class defined by executing the code of this element of the model. -/
  | cls (m : ModelElem)
  deriving DecidableEq, Repr

/-- `if key not in d: d[key] = v`. -/
def Dict.setDefault {α : Type} (d : Dict α) (key : String) (v : α) : Dict α :=
  if d.contains key then d else d.set key v

@[simp] lemma Dict.get?_setDefault {α : Type} (d : Dict α) (key k : String) (v : α) :
    (d.setDefault key v).get? k = if k = key then (d.get? k).or (some v) else d.get? k := by
  unfold Dict.setDefault
  by_cases hk : k = key
  · subst hk
    cases hg : d.get? k <;> simp [Dict.contains, hg]
  · split <;> simp [hk]

@[simp] lemma Dict.contains_setDefault {α : Type} (d : Dict α) (key k : String) (v : α) :
    (d.setDefault key v).contains k = (k == key || d.contains k) := by
  unfold Dict.setDefault
  by_cases hk : k = key
  · subst hk
    split <;> simp_all
  · split <;> simp [hk]

lemma Dict.get?_setDefault_of_contains {α : Type} {d : Dict α} {k : String} (key : String)
    (v : α) (hk : d.contains k) : (d.setDefault key v).get? k = d.get? k := by
  unfold Dict.setDefault
  split
  · rfl
  · rename_i hkey
    have hne : k ≠ key := fun h => hkey (h ▸ hk)
    rw [Dict.get?_set, if_neg hne]

/-- What executing generated code does: `execError env code` is the exception that
`exec(code, env)` raises, if any. -/
structure Runtime where
  execError : Dict PyObj → String → Option String

/-- The helper names `_generate_python_class` binds before generating. The test before
`IntEnum` is on the name `enum`, while the name it binds is `IntEnum`. -/
def addHelpers (env : Dict PyObj) : Dict PyObj :=
  let env := env.setDefault "ua" (.helper "ua")
  let env := if env.contains "datetime" then env
    else (env.set "datetime" (.helper "datetime")).set "timezone" (.helper "timezone")
  let env := env.setDefault "uuid" (.helper "uuid")
  let env := if env.contains "enum" then env else env.set "IntEnum" (.helper "IntEnum")
  let env := env.setDefault "dataclass" (.helper "dataclass")
  let env := env.setDefault "field" (.helper "field")
  let env := env.setDefault "List" (.helper "List")
  env.setDefault "Optional" (.helper "Optional")

lemma contains_addHelpers {env : Dict PyObj} {n : String} (hn : env.contains n) :
    (addHelpers env).contains n := by
  unfold addHelpers
  dsimp only
  split_ifs <;> simp [hn]

lemma contains_datetime_addHelpers (env : Dict PyObj) : (addHelpers env).contains "datetime" := by
  unfold addHelpers
  dsimp only
  split_ifs <;> simp_all

/-- Once `datetime` is bound, `addHelpers` keeps every binding but that of `IntEnum`. -/
lemma get?_addHelpers {env : Dict PyObj} {n : String} (hdt : env.contains "datetime")
    (hn : n ≠ "IntEnum") (hc : env.contains n) : (addHelpers env).get? n = env.get? n := by
  unfold addHelpers
  dsimp only
  have hdt' : (env.setDefault "ua" (.helper "ua")).contains "datetime" := by simp [hdt]
  rw [if_pos hdt']
  split_ifs <;>
    simp (disch := simp [hc]) only [Dict.get?_setDefault_of_contains, Dict.get?_set, if_neg hn]

/-- `exec(code, env)` for the code of the element `m`: `__builtins__` is bound first, then the
class of `m` is bound under its name, unless the code raises. -/
def execCode (rt : Runtime) (env : Dict PyObj) (code : String) (m : ModelElem) :
    Dict PyObj × Option String :=
  let env := env.setDefault "__builtins__" .builtins
  match rt.execError env code with
  | some e => (env, some e)
  | none => (env.set m.name (.cls m), none)

/-- What `_generate_python_class` leaves behind: the namespace, the model (whose structures
`get_code` updates), and the exception it raised, if any. -/
structure GenResult where
  env : Dict PyObj
  model : List ModelElem
  error : Option String

section Generate

variable (rt : Runtime) (h : Structures104)

/-- The loop of `_generate_python_class`, from the element `m` on. -/
def generateLoop : List ModelElem → Dict PyObj → GenResult
  | [], env => ⟨env, [], none⟩
  | m :: ms, env =>
    let (code, m) := m.getCode h
    match execCode rt env code m with
    | (env, some e) => ⟨env, m :: ms, some e⟩
    | (env, none) =>
      let r := generateLoop ms env
      { r with model := m :: r.model }

/-- `_generate_python_class(model, env)`; the caller passes `ua.__dict__` for `env=None`. -/
def generatePythonClass (model : List ModelElem) (env : Dict PyObj) : GenResult :=
  generateLoop rt h model (addHelpers env)

/-- The namespace after the elements `ms` have been executed in order without error. -/
def execAll : List ModelElem → Dict PyObj → Dict PyObj
  | [], env => env
  | m :: ms, env =>
    execAll ms ((env.setDefault "__builtins__" .builtins).set m.name (.cls (m.getCode h).2))

lemma execAll_append (pre post : List ModelElem) (env : Dict PyObj) :
    execAll h (pre ++ post) env = execAll h post (execAll h pre env) := by
  induction pre generalizing env with
  | nil => rfl
  | cons m ms ih => exact ih _

/-- Executing elements of other names leaves a name's binding alone, once `__builtins__` is
bound. -/
lemma get?_execAll_of_forall_ne {ms : List ModelElem} {env : Dict PyObj} {n : String}
    (hn : ∀ m ∈ ms, m.name ≠ n) (hb : env.contains "__builtins__") :
    (execAll h ms env).get? n = env.get? n := by
  induction ms generalizing env with
  | nil => rfl
  | cons m ms ih =>
    have hdef : env.setDefault "__builtins__" .builtins = env := by simp [Dict.setDefault, hb]
    rw [execAll, hdef, ih (fun x hx => hn x (List.mem_cons_of_mem m hx)) (by simp [hb]),
      Dict.get?_set, if_neg (Ne.symm (hn m (List.mem_cons_self m ms)))]

/-- A name is bound to the class of the last element of that name. -/
lemma get?_execAll_last (pre post : List ModelElem) (m : ModelElem) (env : Dict PyObj)
    (hpost : ∀ x ∈ post, x.name ≠ m.name) :
    (execAll h (pre ++ m :: post) env).get? m.name = some (.cls (m.getCode h).2) := by
  rw [execAll_append, execAll, get?_execAll_of_forall_ne h hpost (by simp)]
  simp

lemma contains_execAll {ms : List ModelElem} {env : Dict PyObj} {n : String}
    (hn : env.contains n) : (execAll h ms env).contains n := by
  induction ms generalizing env with
  | nil => exact hn
  | cons m ms ih => exact ih (by simp [hn])

/-- Every element executed has its name bound. -/
lemma contains_execAll_of_mem {ms : List ModelElem} {m : ModelElem} (env : Dict PyObj)
    (hm : m ∈ ms) : (execAll h ms env).contains m.name := by
  obtain ⟨pre, post, rfl⟩ := List.append_of_mem hm
  rw [execAll_append, execAll]
  exact contains_execAll h (by simp)

lemma contains_builtins_execAll {ms : List ModelElem} (env : Dict PyObj) (hms : ms ≠ []) :
    (execAll h ms env).contains "__builtins__" := by
  obtain ⟨m, ms, rfl⟩ := List.exists_cons_of_ne_nil hms
  rw [execAll]
  exact contains_execAll h (by simp)

/-- A run that raises stops at one element: the elements before it have been executed into the
namespace, and the code of that element raised. -/
lemma generateLoop_error {ms : List ModelElem} {env : Dict PyObj} {err : String}
    (herr : (generateLoop rt h ms env).error = some err) :
    ∃ pre m post, ms = pre ++ m :: post ∧
      (generateLoop rt h ms env).env = (execAll h pre env).setDefault "__builtins__" .builtins ∧
      rt.execError (generateLoop rt h ms env).env (m.getCode h).1 = some err := by
  induction ms generalizing env with
  | nil => simp [generateLoop] at herr
  | cons m ms ih =>
    simp only [generateLoop, execCode] at herr ⊢
    cases hx : rt.execError (env.setDefault "__builtins__" .builtins) (m.getCode h).1 with
    | some e =>
      simp only [hx, Option.some.injEq] at herr ⊢
      exact ⟨[], m, ms, rfl, rfl, by rw [hx, herr]⟩
    | none =>
      simp only [hx] at herr ⊢
      obtain ⟨pre, m', post, rfl, henv, hfail⟩ := ih herr
      exact ⟨m :: pre, m', post, rfl, by simpa [execAll] using henv, hfail⟩

/-- A run without error executes every element. -/
lemma generateLoop_ok {ms : List ModelElem} {env : Dict PyObj}
    (hok : (generateLoop rt h ms env).error = none) :
    (generateLoop rt h ms env).env = execAll h ms env ∧
      (generateLoop rt h ms env).model = ms.map fun m => (m.getCode h).2 := by
  induction ms generalizing env with
  | nil => exact ⟨rfl, rfl⟩
  | cons m ms ih =>
    simp only [generateLoop, execCode] at hok ⊢
    cases hx : rt.execError (env.setDefault "__builtins__" .builtins) (m.getCode h).1 with
    | some e => simp [hx] at hok
    | none =>
      simp only [hx] at hok ⊢
      obtain ⟨henv, hmodel⟩ := ih hok
      exact ⟨by simpa [execAll] using henv, by simpa using hmodel⟩

/-- The last element of the model named `n`, whose class ends up bound to `n`. -/
def lastNamed (ms : List ModelElem) (n : String) : Option ModelElem :=
  (ms.filter (·.name = n)).getLast?

lemma lastNamed_cons (m : ModelElem) (ms : List ModelElem) (n : String) :
    lastNamed (m :: ms) n = (lastNamed ms n).or (if m.name = n then some m else none) := by
  unfold lastNamed
  by_cases hm : m.name = n
  · cases hl : (ms.filter (·.name = n)).getLast? <;>
      simp [List.filter_cons, hm, hl, List.getLast?_cons]
  · simp [List.filter_cons, hm]

/-- The namespace after the elements `ms` have been executed: a name is bound to the class of the
last element of that name, and otherwise keeps its binding, `__builtins__` being bound once an
element has been executed. -/
lemma get?_execAll (ms : List ModelElem) (env : Dict PyObj) (n : String) :
    (execAll h ms env).get? n =
      ((lastNamed ms n).map fun m => PyObj.cls (m.getCode h).2).or
        (if n = "__builtins__" ∧ ms ≠ [] then (env.get? n).or (some .builtins)
          else env.get? n) := by
  induction ms generalizing env with
  | nil => simp [execAll, lastNamed]
  | cons m ms ih =>
    rw [execAll, ih, lastNamed_cons]
    by_cases hm : m.name = n
    · subst hm
      cases lastNamed ms m.name <;> simp
    · rw [Dict.get?_set, if_neg (Ne.symm hm), if_neg hm, Option.or_none, Dict.get?_setDefault]
      cases ms <;> by_cases hb : n = "__builtins__" <;> simp [hb, Option.or_assoc]

/-- A run of `_generate_python_class` without error accounts for every name of the namespace: a
name is bound to the class of the last element of the model of that name; otherwise
`__builtins__` is bound once an element has been executed, and every other name holds what
`addHelpers` left there. The model returned is the model after `get_code`
has been called once on each element. -/
theorem generatePythonClass_get? {model : List ModelElem} {env : Dict PyObj}
    (hok : (generatePythonClass rt h model env).error = none) (n : String) :
    (generatePythonClass rt h model env).env.get? n =
        ((lastNamed model n).map fun m => PyObj.cls (m.getCode h).2).or
          (if n = "__builtins__" ∧ model ≠ [] then ((addHelpers env).get? n).or (some .builtins)
            else (addHelpers env).get? n) ∧
      (generatePythonClass rt h model env).model = model.map fun m => (m.getCode h).2 := by
  obtain ⟨henv, hmodel⟩ := generateLoop_ok rt h hok
  exact ⟨by rw [generatePythonClass, henv, get?_execAll], hmodel⟩

/-- When `_generate_python_class` raises, the namespace holds what it held, the helper names, and
the classes of every element before the one whose code raised: the model is committed up to
that element. -/
theorem generatePythonClass_error {model : List ModelElem} {env : Dict PyObj} {err : String}
    (herr : (generatePythonClass rt h model env).error = some err) :
    ∃ pre m post, model = pre ++ m :: post ∧
      (generatePythonClass rt h model env).env =
        (execAll h pre (addHelpers env)).setDefault "__builtins__" .builtins ∧
      rt.execError (generatePythonClass rt h model env).env (m.getCode h).1 = some err :=
  generateLoop_error rt h herr

theorem generatePythonClass_error_struct :
    (generatePythonClass
        ⟨fun _ code => if Py.startswith code "\n\n@dataclass" then some "TypeError" else none⟩
        Structures104.spec [.enum ⟨"A", [], none⟩, .struct ⟨"B", [], none, 0⟩]
        Dict.empty).error =
      some "TypeError" ∧
    ∃ pre m post,
      ([.enum ⟨"A", [], none⟩, .struct ⟨"B", [], none, 0⟩] : List ModelElem) =
        pre ++ m :: post ∧
      (generatePythonClass
        ⟨fun _ code => if Py.startswith code "\n\n@dataclass" then some "TypeError" else none⟩
        Structures104.spec [.enum ⟨"A", [], none⟩, .struct ⟨"B", [], none, 0⟩]
        Dict.empty).env =
        (execAll Structures104.spec pre (addHelpers Dict.empty)).setDefault
          "__builtins__" .builtins ∧
      Runtime.execError
        ⟨fun _ code => if Py.startswith code "\n\n@dataclass" then some "TypeError" else none⟩
        (generatePythonClass
          ⟨fun _ code => if Py.startswith code "\n\n@dataclass" then some "TypeError" else none⟩
        Structures104.spec [.enum ⟨"A", [], none⟩, .struct ⟨"B", [], none, 0⟩]
        Dict.empty).env
        (m.getCode Structures104.spec).1 = some "TypeError" :=
  ⟨rfl, generatePythonClass_error _ _ rfl⟩

/-- When the code of a structure raises, the enumeration generated before it stays bound in the
namespace. -/
theorem generatePythonClass_partial_commit :
    (generatePythonClass
        ⟨fun _ code => if Py.startswith code "\n\n@dataclass" then some "TypeError" else none⟩
        Structures104.spec [.enum ⟨"A", [], none⟩, .struct ⟨"B", [], none, 0⟩]
        Dict.empty).error =
      some "TypeError" ∧
    (generatePythonClass
        ⟨fun _ code => if Py.startswith code "\n\n@dataclass" then some "TypeError" else none⟩
        Structures104.spec [.enum ⟨"A", [], none⟩, .struct ⟨"B", [], none, 0⟩]
        Dict.empty).env.get? "A" =
      some (.cls (.enum ⟨"A", [], none⟩)) :=
  ⟨rfl, rfl⟩

end Generate

theorem generatePythonClass_get?_enum :
    (generatePythonClass ⟨fun _ _ => none⟩ Structures104.spec [.enum ⟨"A", [], none⟩]
        Dict.empty).error = none ∧
      ((generatePythonClass ⟨fun _ _ => none⟩ Structures104.spec [.enum ⟨"A", [], none⟩]
          Dict.empty).env.get? "A" =
        ((lastNamed [.enum ⟨"A", [], none⟩] "A").map fun m =>
            PyObj.cls (m.getCode Structures104.spec).2).or
          (if "A" = "__builtins__" ∧ ([.enum ⟨"A", [], none⟩] : List ModelElem) ≠ [] then
            ((addHelpers Dict.empty).get? "A").or (some .builtins)
          else (addHelpers Dict.empty).get? "A") ∧
      (generatePythonClass ⟨fun _ _ => none⟩ Structures104.spec [.enum ⟨"A", [], none⟩]
          Dict.empty).model =
        ([.enum ⟨"A", [], none⟩] : List ModelElem).map fun m => (m.getCode Structures104.spec).2) :=
  ⟨rfl, @generatePythonClass_get? ⟨fun _ _ => none⟩ Structures104.spec [.enum ⟨"A", [], none⟩]
    Dict.empty rfl "A"⟩

end Asyncua
