import Asyncua.Structures.Generate
import Asyncua.Structures.Registration

/-!
# Loading the type definitions of a server

`load_type_definitions` processes the schema nodes one after the other: it builds the model of a
node's schema document, generates its classes into `structs_dict`, a namespace shared by all the
nodes, registers each child with an inverse `HasDescription` reference whose cleaned browse name
is bound there, and sets the enumerations of `structs_dict` as attributes of `ua`. The server is
given by what its reads return, XML parsing is a parameter, and the registrations are recorded
in order.

The test before a registration is made against the shared namespace, not against the node's own
model: a child named after a helper (`List`, `Optional`, ...) or after a class of an earlier node
is registered with that object.
-/

namespace Asyncua

/-- `ua.QualifiedName`. -/
structure QualifiedName where
  name : String
  namespaceIndex : Nat
  deriving DecidableEq, Repr

/-- A child of a schema node as `load_type_definitions` reads it: its browse name, and the ids
(as `NodeId.to_string()` writes them) of its inverse `HasDescription` references. -/
structure ChildDescription where
  browseName : QualifiedName
  references : List String
  deriving DecidableEq, Repr

/-- A schema node: its browse name, its value (a schema document) and its children. -/
structure SchemaNode where
  browseName : QualifiedName
  value : String
  children : List ChildDescription
  deriving DecidableEq, Repr

/-- A call `ua.register_extension_object(name, nodeid, cls)`. -/
structure RegisterCall where
  name : String
  nodeId : String
  cls : PyObj
  deriving DecidableEq, Repr

/-- What `load_type_definitions` changes outside its locals: the registry of extension objects
and the attributes of the module `ua`. -/
structure World where
  registry : List RegisterCall
  ua : Dict PyObj

/-- Why `load_type_definitions` raises. -/
inductive LoadError
  /-- `ET.fromstring` rejected the node's value. -/
  | parse (msg : String)
  /-- `_make_model` raised. -/
  | model (e : MakeModelError)
  /-- The generated code of an element raised. -/
  | exec (msg : String)
  deriving DecidableEq, Repr

/-- The locals of `load_type_definitions` between two nodes (the models of `generators`), with
the registry and the attributes of `ua`. -/
structure LoadState where
  structsDict : Dict PyObj
  generators : List (List ModelElem)
  registry : List RegisterCall
  ua : Dict PyObj

/-- `isinstance(val, EnumMeta)`: the generated enumerations and `IntEnum` itself. -/
def PyObj.isEnumMeta : PyObj → Bool
  | .cls (.enum _) => true
  | .helper n => n == "IntEnum"
  | _ => false

/-- `setattr(ua, key, val)` for every enumeration of `structs_dict` but `IntEnum`. -/
def exposeEnums (structsDict ua : Dict PyObj) : Dict PyObj :=
  structsDict.entries.foldl
    (fun ua e => if e.2.isEnumMeta && e.1 != "IntEnum" then ua.set e.1 e.2 else ua) ua

/-- After `exposeEnums`, `ua` holds every enumeration of `structs_dict` but `IntEnum` under its
name, and its other attributes as they were. -/
lemma get?_exposeEnums (structsDict ua : Dict PyObj) (k : String) :
    (exposeEnums structsDict ua).get? k =
      ((structsDict.get? k).filter fun v => v.isEnumMeta && k != "IntEnum").or (ua.get? k) := by
  obtain ⟨es, hnd⟩ := structsDict
  rw [show (⟨es, hnd⟩ : Dict PyObj).get? k = Dict.lookupEntries k es from rfl, exposeEnums]
  dsimp only
  induction es generalizing ua with
  | nil => rfl
  | cons e es ih =>
    rw [List.map_cons, List.nodup_cons] at hnd
    rw [List.foldl_cons, ih _ hnd.2]
    by_cases he : e.1 = k
    · subst he
      rw [Dict.lookupEntries_eq_none hnd.1]
      split <;> rename_i hc <;> simp [Dict.lookupEntries, Option.filter, hc]
    · split <;> simp [Dict.lookupEntries, he, Ne.symm he]

/-- The nodes `load_type_definitions` processes: those given, or for `nodes=None` the children
of the `OPC Binary` folder but the one named `Opc.Ua`. -/
def selectNodes (opcBinary : List SchemaNode) : Option (List SchemaNode) → List SchemaNode
  | some nodes => nodes
  | none => opcBinary.filter (·.browseName != ⟨"Opc.Ua", 0⟩)

section Load

variable (fromstring : String → Except String (List Element)) (h : Structures104) (rt : Runtime)

/-- One pass of the loop over the children of a node: the generator's model and the registry. -/
def registerChild (structsDict : Dict PyObj) (acc : List ModelElem × List RegisterCall)
    (ndesc : ChildDescription) : List ModelElem × List RegisterCall :=
  match ndesc.references with
  | [] => acc
  | nodeid :: _ =>
    let name := h.cleanName ndesc.browseName.name
    match structsDict.get? name with
    | none => acc
    | some cls => (setTypeid name nodeid acc.1, acc.2 ++ [⟨name, nodeid, cls⟩])

/-- The body of the loop over the nodes: the generator's model is the one `get_code` left, on
which the children's ids are set, and the enumerations of `structs_dict` are set on `ua` after
the node's registrations. -/
def loadNode (st : LoadState) (node : SchemaNode) : Except LoadError LoadState :=
  match fromstring node.value with
  | .error msg => .error (.parse msg)
  | .ok root =>
    match makeModel h [] root with
    | .error e => .error (.model e)
    | .ok model =>
      let r := generatePythonClass rt h model st.structsDict
      match r.error with
      | some e => .error (.exec e)
      | none =>
        let (model, registry) := node.children.foldl (registerChild h r.env) (r.model, st.registry)
        .ok ⟨r.env, st.generators ++ [model], registry, exposeEnums r.env st.ua⟩

/-- The loop over the nodes; it stops at the first node that raises. -/
def loadNodes (st : LoadState) : List SchemaNode → LoadState × Option LoadError
  | [] => (st, none)
  | node :: nodes =>
    match loadNode fromstring h rt st node with
    | .error e => (st, some e)
    | .ok st => loadNodes st nodes

lemma loadNodes_cons_of_error {st : LoadState} {node : SchemaNode} {e : LoadError}
    (hl : loadNode fromstring h rt st node = .error e) (nodes : List SchemaNode) :
    loadNodes fromstring h rt st (node :: nodes) = (st, some e) := by
  rw [loadNodes, hl]

lemma loadNodes_cons_of_ok {st st' : LoadState} {node : SchemaNode}
    (hl : loadNode fromstring h rt st node = .ok st') (nodes : List SchemaNode) :
    loadNodes fromstring h rt st (node :: nodes) = loadNodes fromstring h rt st' nodes := by
  rw [loadNodes, hl]

/-- `load_type_definitions(server, nodes)`: the world it leaves, and the generators and
`structs_dict` it returns or the exception it raises. -/
def loadTypeDefinitions (opcBinary : List SchemaNode) (nodes : Option (List SchemaNode))
    (world : World) : World × Except LoadError (List (List ModelElem) × Dict PyObj) :=
  match loadNodes fromstring h rt ⟨Dict.empty, [], world.registry, world.ua⟩
      (selectNodes opcBinary nodes) with
  | (st, some e) => (⟨st.registry, st.ua⟩, .error e)
  | (st, none) => (⟨st.registry, st.ua⟩, .ok (st.generators, st.structsDict))

/-! ### The calls of one node -/

/-- The calls the children of a node make when the shared namespace is `env`: one for each child
with a reference whose cleaned name is bound in `env`. -/
def childCalls (env : Dict PyObj) (children : List ChildDescription) : List RegisterCall :=
  children.filterMap fun ndesc => match ndesc.references with
    | [] => none
    | nodeid :: _ => (env.get? (h.cleanName ndesc.browseName.name)).map
        fun cls => ⟨h.cleanName ndesc.browseName.name, nodeid, cls⟩

/-- The loop over the children makes the calls `childCalls`, each followed by its
`set_typeid`. -/
lemma foldl_registerChild (env : Dict PyObj) (children : List ChildDescription)
    (model : List ModelElem) (registry : List RegisterCall) :
    children.foldl (registerChild h env) (model, registry) =
      (setTypeids ((childCalls h env children).map fun c => (c.name, c.nodeId)) model,
        registry ++ childCalls h env children) := by
  induction children generalizing model registry with
  | nil => simp [childCalls, setTypeids]
  | cons d ds ih =>
    rw [List.foldl_cons, registerChild]
    cases hr : d.references with
    | nil => simp [childCalls, hr, ih]
    | cons nodeid _ =>
      cases hg : env.get? (h.cleanName d.browseName.name) with
      | none => simp [childCalls, hr, hg, ih]
      | some cls => simp [childCalls, hr, hg, ih, setTypeids]

/-! ### A run over the nodes -/

/-- A node that loads generates its model into the shared namespace, adds its generator and the
calls of its children, and sets the enumerations of the namespace on `ua`. -/
lemma loadNode_ok {st st' : LoadState} {node : SchemaNode}
    (hok : loadNode fromstring h rt st node = .ok st') :
    ∃ root model, fromstring node.value = .ok root ∧ makeModel h [] root = .ok model ∧
      st' = ⟨execAll h model (addHelpers st.structsDict),
        st.generators ++ [setTypeids
          ((childCalls h (execAll h model (addHelpers st.structsDict)) node.children).map
            fun c => (c.name, c.nodeId)) (model.map fun m => (m.getCode h).2)],
        st.registry ++
          childCalls h (execAll h model (addHelpers st.structsDict)) node.children,
        exposeEnums (execAll h model (addHelpers st.structsDict)) st.ua⟩ := by
  unfold loadNode at hok
  cases hroot : fromstring node.value with
  | error msg => simp [hroot] at hok
  | ok root =>
    cases hmodel : makeModel h [] root with
    | error e => simp [hroot, hmodel] at hok
    | ok model =>
      simp only [hroot, hmodel, generatePythonClass] at hok
      cases herr : (generateLoop rt h model (addHelpers st.structsDict)).error with
      | some e => simp [herr] at hok
      | none =>
        obtain ⟨henv, hgen⟩ := generateLoop_ok rt h herr
        simp only [herr, henv, hgen, foldl_registerChild, Except.ok.injEq] at hok
        exact ⟨root, model, rfl, hmodel, hok.symm⟩

/-- A node whose document parses into a model raises only where generating that model raises. -/
lemma loadNode_error {st : LoadState} {node : SchemaNode} {e : LoadError}
    (he : loadNode fromstring h rt st node = .error e) {root : List Element}
    (hroot : fromstring node.value = .ok root) {model : List ModelElem}
    (hmodel : makeModel h [] root = .ok model) :
    (generatePythonClass rt h model st.structsDict).error ≠ none := by
  intro hnone
  simp [loadNode, hroot, hmodel, hnone] at he

/-- The namespace after the models `models` have been generated in order, each after the
helpers. -/
def generateModels (env : Dict PyObj) (models : List (List ModelElem)) : Dict PyObj :=
  models.foldl (fun env model => execAll h model (addHelpers env)) env

/-- The calls of a run, node by node: once the model of a node has been generated into the
namespace the nodes before it left, each child with a reference whose cleaned name is bound
there is registered with what the name is bound to, whichever defined it: the node's own model,
an earlier node or the helpers. -/
def nodeCalls (env : Dict PyObj) : List (SchemaNode × List ModelElem) → List (List RegisterCall)
  | [] => []
  | (node, model) :: rest =>
    childCalls h (execAll h model (addHelpers env)) node.children ::
      nodeCalls (execAll h model (addHelpers env)) rest

/-- The generator of a node: its model after `get_code`, with the ids of its calls set. -/
def generatorOf (calls : List RegisterCall) (model : List ModelElem) : List ModelElem :=
  setTypeids (calls.map fun c => (c.name, c.nodeId)) (model.map fun m => (m.getCode h).2)

/-- A run over the nodes loads the nodes of a prefix, whose models are `models`, and stops at the
node after them, whose generation raises; it registers the calls of `nodeCalls` and adds the
generators of those nodes. -/
lemma loadNodes_spec (st : LoadState) (nodes : List SchemaNode) :
    ∃ models : List (List ModelElem),
      List.Forall₂ (fun node model => ∃ root, fromstring node.value = .ok root ∧
        makeModel h [] root = .ok model) (nodes.take models.length) models ∧
      (∀ node, nodes[models.length]? = some node → ∀ root, fromstring node.value = .ok root →
        ∀ model, makeModel h [] root = .ok model →
          (generatePythonClass rt h model (generateModels h st.structsDict models)).error ≠
            none) ∧
      (loadNodes fromstring h rt st nodes).1.registry =
        st.registry ++ (nodeCalls h st.structsDict (nodes.zip models)).flatten ∧
      (loadNodes fromstring h rt st nodes).1.generators = st.generators ++
        List.zipWith (generatorOf h) (nodeCalls h st.structsDict (nodes.zip models)) models ∧
      (loadNodes fromstring h rt st nodes).1.structsDict = generateModels h st.structsDict models ∧
      ((loadNodes fromstring h rt st nodes).2 = none ↔ models.length = nodes.length) := by
  induction nodes generalizing st with
  | nil => exact ⟨[], .nil, by simp, by simp [loadNodes, nodeCalls], by simp [loadNodes],
      rfl, by simp [loadNodes]⟩
  | cons node nodes ih =>
    cases hl : loadNode fromstring h rt st node with
    | error e =>
      -- the run stops at its first node
      rw [loadNodes_cons_of_error fromstring h rt hl]
      refine ⟨[], .nil, fun node' hnode' root hroot model hmodel => ?_, by simp [nodeCalls],
        by simp [nodeCalls], rfl, by simp⟩
      obtain rfl : node' = node := by simpa using hnode'.symm
      exact loadNode_error fromstring h rt hl hroot hmodel
    | ok st' =>
      -- the node loads, and the rest of the run starts from the namespace it left
      rw [loadNodes_cons_of_ok fromstring h rt hl]
      obtain ⟨root, model, hroot, hmodel, hst'⟩ := loadNode_ok fromstring h rt hl
      obtain ⟨models, hmodels, hnext, hreg, hgen, hsd, hnone⟩ := ih st'
      subst hst'
      refine ⟨model :: models, .cons ⟨root, hroot, hmodel⟩ hmodels,
        fun node' hnode' => hnext node' (by simpa using hnode'), ?_, ?_, hsd,
        by simpa using hnone⟩
      · rw [hreg, List.zip_cons_cons, nodeCalls, List.flatten_cons, List.append_assoc]
      · rw [hgen, List.zip_cons_cons, nodeCalls, List.zipWith_cons_cons, List.append_assoc]
        rfl

/-- The registry a run leaves is the one its loop over the nodes leaves. -/
lemma registry_loadTypeDefinitions (opcBinary : List SchemaNode)
    (nodes : Option (List SchemaNode)) (world : World) :
    (loadTypeDefinitions fromstring h rt opcBinary nodes world).1 =
      ⟨(loadNodes fromstring h rt ⟨Dict.empty, [], world.registry, world.ua⟩
          (selectNodes opcBinary nodes)).1.registry,
        (loadNodes fromstring h rt ⟨Dict.empty, [], world.registry, world.ua⟩
          (selectNodes opcBinary nodes)).1.ua⟩ := by
  unfold loadTypeDefinitions
  split <;> rename_i heq <;> rw [heq]

/-- A run that returns went through every node and hands back the generators and the namespace
of its loop. -/
lemma loadNodes_of_loadTypeDefinitions_ok {opcBinary : List SchemaNode}
    {nodes : Option (List SchemaNode)} {world : World} {gens : List (List ModelElem)}
    {structsDict : Dict PyObj}
    (hok : (loadTypeDefinitions fromstring h rt opcBinary nodes world).2 =
      .ok (gens, structsDict)) :
    (loadNodes fromstring h rt ⟨Dict.empty, [], world.registry, world.ua⟩
      (selectNodes opcBinary nodes)).2 = none ∧
    gens = (loadNodes fromstring h rt ⟨Dict.empty, [], world.registry, world.ua⟩
      (selectNodes opcBinary nodes)).1.generators ∧
    structsDict = (loadNodes fromstring h rt ⟨Dict.empty, [], world.registry, world.ua⟩
      (selectNodes opcBinary nodes)).1.structsDict := by
  unfold loadTypeDefinitions at hok
  split at hok
  · cases hok
  · rename_i st hnone
    cases hok
    rw [hnone]
    exact ⟨rfl, rfl, rfl⟩

/-- A run of `load_type_definitions` loads the selected nodes of a prefix, whose models are
`models`, and raises at the node after them, if any, because generating its model raises. Its
registrations are, node by node, the calls of `nodeCalls`: every child with a reference whose
cleaned name is bound in the shared namespace once the node's model is generated, registered with
what that name is bound to. A run that returns went through every node, and each generator is
its node's model with the ids of its calls set. -/
theorem loadTypeDefinitions_registrations (opcBinary : List SchemaNode)
    (nodes : Option (List SchemaNode)) (world : World) :
    ∃ models : List (List ModelElem),
      List.Forall₂ (fun node model => ∃ root, fromstring node.value = .ok root ∧
        makeModel h [] root = .ok model) ((selectNodes opcBinary nodes).take models.length)
        models ∧
      (∀ node, (selectNodes opcBinary nodes)[models.length]? = some node →
        ∀ root, fromstring node.value = .ok root → ∀ model, makeModel h [] root = .ok model →
          (generatePythonClass rt h model (generateModels h Dict.empty models)).error ≠ none) ∧
      (loadTypeDefinitions fromstring h rt opcBinary nodes world).1.registry = world.registry ++
        (nodeCalls h Dict.empty ((selectNodes opcBinary nodes).zip models)).flatten ∧
      ((∃ r, (loadTypeDefinitions fromstring h rt opcBinary nodes world).2 = .ok r) ↔
        models.length = (selectNodes opcBinary nodes).length) ∧
      ∀ gens structsDict,
        (loadTypeDefinitions fromstring h rt opcBinary nodes world).2 = .ok (gens, structsDict) →
        gens = List.zipWith (generatorOf h)
          (nodeCalls h Dict.empty ((selectNodes opcBinary nodes).zip models)) models ∧
        structsDict = generateModels h Dict.empty models := by
  obtain ⟨models, hmodels, hnext, hreg, hgen, hsd, hnone⟩ :=
    loadNodes_spec fromstring h rt ⟨Dict.empty, [], world.registry, world.ua⟩
      (selectNodes opcBinary nodes)
  refine ⟨models, hmodels, hnext, by rw [registry_loadTypeDefinitions, hreg], ?_,
    fun gens sd hok => ?_⟩
  · rw [← hnone]
    unfold loadTypeDefinitions
    split <;> rename_i heq <;> simp [heq]
  · obtain ⟨-, rfl, rfl⟩ := loadNodes_of_loadTypeDefinitions_ok fromstring h rt hok
    exact ⟨by simpa using hgen, hsd⟩

/-- A node whose document defines only the structure `S` and which has a child named `List`:
the run registers the helper `List` under the child's id. -/
theorem loadTypeDefinitions_registers_helper :
    makeModel Structures104.spec [] [⟨"StructuredType", [("Name", "S")], []⟩] =
      .ok [.struct ⟨"S", [], none, 0⟩] ∧
    (loadTypeDefinitions (fun _ => .ok [⟨"StructuredType", [("Name", "S")], []⟩])
        Structures104.spec ⟨fun _ _ => none⟩ []
        (some [⟨⟨"TypeDictionary", 1⟩, "", [⟨⟨"List", 0⟩, ["ns=1;i=9"]⟩]⟩])
        ⟨[], Dict.empty⟩).1.registry = [⟨"List", "ns=1;i=9", .helper "List"⟩] ∧
    ∃ models, (loadTypeDefinitions (fun _ => .ok [⟨"StructuredType", [("Name", "S")], []⟩])
        Structures104.spec ⟨fun _ _ => none⟩ []
        (some [⟨⟨"TypeDictionary", 1⟩, "", [⟨⟨"List", 0⟩, ["ns=1;i=9"]⟩]⟩])
        ⟨[], Dict.empty⟩).1.registry = [] ++ (nodeCalls Structures104.spec Dict.empty
          ([⟨⟨"TypeDictionary", 1⟩, "", [⟨⟨"List", 0⟩, ["ns=1;i=9"]⟩]⟩].zip models)).flatten :=
  ⟨rfl, rfl,
    let ⟨models, _, _, hreg, _⟩ := loadTypeDefinitions_registrations
      (fun _ => .ok [⟨"StructuredType", [("Name", "S")], []⟩]) Structures104.spec
      ⟨fun _ _ => none⟩ [] (some [⟨⟨"TypeDictionary", 1⟩, "", [⟨⟨"List", 0⟩, ["ns=1;i=9"]⟩]⟩])
      ⟨[], Dict.empty⟩
    ⟨models, hreg⟩⟩

/-! ### The shared namespace -/

/-- What `structs_dict` holds once the elements `done` have been generated, node after node:
`__builtins__` and `datetime` are bound as soon as anything was generated, and every element
that no later element of the same name replaced is bound to its class, unless it is named
`IntEnum`. -/
def NamespaceInv (done : List ModelElem) (structsDict : Dict PyObj) : Prop :=
  (done ≠ [] → structsDict.contains "__builtins__" ∧ structsDict.contains "datetime") ∧
  ∀ pre m post, done = pre ++ m :: post → (∀ x ∈ post, x.name ≠ m.name) →
    m.name ≠ "IntEnum" → structsDict.get? m.name = some (.cls (m.getCode h).2)

lemma namespaceInv_nil : NamespaceInv h [] Dict.empty :=
  ⟨fun hne => absurd rfl hne, fun pre m post heq => absurd heq.symm (by simp)⟩

/-- Every enumeration of `structs_dict` but `IntEnum` is an attribute of `ua`. -/
def UaExposes (structsDict ua : Dict PyObj) : Prop :=
  ∀ k v, structsDict.get? k = some v → v.isEnumMeta = true → k ≠ "IntEnum" → ua.get? k = some v

lemma uaExposes_exposeEnums (structsDict ua : Dict PyObj) :
    UaExposes structsDict (exposeEnums structsDict ua) := by
  intro k v hk hv hn
  simp [get?_exposeEnums, hk, Option.filter, hv, hn]

/-- Generating one more node's model keeps the invariant. -/
lemma namespaceInv_step {done model : List ModelElem} {structsDict : Dict PyObj}
    (hinv : NamespaceInv h done structsDict) :
    NamespaceInv h (done ++ model) (execAll h model (addHelpers structsDict)) := by
  obtain ⟨hbound, hbind⟩ := hinv
  refine ⟨fun hne => ⟨?_, contains_execAll h (contains_datetime_addHelpers _)⟩, ?_⟩
  · by_cases hm : model = []
    · subst hm
      exact contains_addHelpers (hbound (by simpa using hne)).1
    · exact contains_builtins_execAll h _ hm
  · intro pre m post heq hpost hn
    rcases List.append_eq_append_iff.mp heq with ⟨a, -, hmodel⟩ | ⟨c, hdone, hc⟩
    · -- `m` comes from this node's model
      rw [hmodel, get?_execAll_last h a post m _ hpost]
    · cases c with
      | nil =>
        -- `m` is the first element of this node's model
        rw [List.nil_append] at hc
        rw [← hc, ← List.nil_append (m :: post), get?_execAll_last h [] post m _ hpost]
      | cons x c =>
        -- `m` comes from an earlier node, and nothing after it carries its name
        obtain ⟨rfl, rfl⟩ := List.cons_eq_cons.mp hc
        have hold := hbind pre m c hdone (fun y hy => hpost y (List.mem_append_left _ hy)) hn
        have hne : done ≠ [] := by simp [hdone]
        rw [get?_execAll_of_forall_ne h (fun y hy => hpost y (List.mem_append_right _ hy))
          (contains_addHelpers (hbound hne).1),
          get?_addHelpers (hbound hne).2 hn (by simp [Dict.contains, hold]), hold]

/-- Generating the models node after node keeps the invariant. -/
lemma namespaceInv_generateModels {done : List ModelElem} {structsDict : Dict PyObj}
    (hinv : NamespaceInv h done structsDict) (models : List (List ModelElem)) :
    NamespaceInv h (done ++ models.flatten) (generateModels h structsDict models) := by
  induction models generalizing done structsDict with
  | nil => simpa using hinv
  | cons model models ih =>
    rw [List.flatten_cons, ← List.append_assoc]
    exact ih (namespaceInv_step h hinv)

/-- Each node that loads sets the enumerations of the namespace on `ua`, so whether a run over
the nodes raises or not, `ua` holds those of the namespace the last node that loaded left. -/
lemma uaExposes_loadNodes (st : LoadState) (hua : UaExposes st.structsDict st.ua)
    (nodes : List SchemaNode) :
    UaExposes (loadNodes fromstring h rt st nodes).1.structsDict
      (loadNodes fromstring h rt st nodes).1.ua := by
  induction nodes generalizing st with
  | nil => exact hua
  | cons node nodes ih =>
    cases hl : loadNode fromstring h rt st node with
    | error e => rwa [loadNodes_cons_of_error fromstring h rt hl]
    | ok st' =>
      obtain ⟨_, _, _, _, rfl⟩ := loadNode_ok fromstring h rt hl
      rw [loadNodes_cons_of_ok fromstring h rt hl]
      exact ih _ (uaExposes_exposeEnums _ _)

/-- The namespace and `ua` a run starts from: nothing is bound yet. -/
lemma uaExposes_empty (ua : Dict PyObj) : UaExposes Dict.empty ua :=
  fun k v hk => by simp at hk

/-- After a run that returns, `structs_dict` binds every class generated from the nodes' models
under its name, unless a later element of the same name, in the same node or a later one,
replaced it; `IntEnum` is the exception, as that helper is bound again before each node. Such
an enumeration is also an attribute of `ua`. -/
theorem loadTypeDefinitions_structsDict {opcBinary : List SchemaNode}
    {nodes : Option (List SchemaNode)} {world w : World} {gens : List (List ModelElem)}
    {structsDict : Dict PyObj}
    (hok : loadTypeDefinitions fromstring h rt opcBinary nodes world =
      (w, .ok (gens, structsDict))) :
    ∃ models, List.Forall₂ (fun node model => ∃ root, fromstring node.value = .ok root ∧
        makeModel h [] root = .ok model) (selectNodes opcBinary nodes) models ∧
      ∀ pre m post, models.flatten = pre ++ m :: post → (∀ x ∈ post, x.name ≠ m.name) →
        m.name ≠ "IntEnum" →
        structsDict.get? m.name = some (.cls (m.getCode h).2) ∧
        ∀ e, m = .enum e → w.ua.get? e.name = some (.cls (.enum e)) := by
  unfold loadTypeDefinitions at hok
  split at hok
  · cases hok
  · rename_i st hnone
    simp only [Prod.mk.injEq, Except.ok.injEq] at hok
    obtain ⟨rfl, -, rfl⟩ := hok
    obtain ⟨models, hmodels, -, -, -, hsd, hlen⟩ := loadNodes_spec fromstring h rt
      ⟨Dict.empty, [], world.registry, world.ua⟩ (selectNodes opcBinary nodes)
    have hua := uaExposes_loadNodes fromstring h rt ⟨Dict.empty, [], world.registry, world.ua⟩
      (uaExposes_empty world.ua) (selectNodes opcBinary nodes)
    rw [hnone] at hsd hlen hua
    obtain ⟨-, hbind⟩ := namespaceInv_generateModels h (namespaceInv_nil h) models
    rw [List.take_of_length_le (hlen.mp rfl).ge] at hmodels
    -- the namespace of the run is the one its models generate
    have hget : ∀ pre m post, models.flatten = pre ++ m :: post → (∀ x ∈ post, x.name ≠ m.name) →
        m.name ≠ "IntEnum" → st.structsDict.get? m.name = some (.cls (m.getCode h).2) :=
      fun pre m post heq => hsd ▸ hbind pre m post (by simpa using heq)
    refine ⟨models, hmodels, fun pre m post heq hpost hn =>
      ⟨hget pre m post heq hpost hn, ?_⟩⟩
    rintro e rfl
    exact hua _ _ (hget pre _ post heq hpost hn) rfl hn

/-- A node whose document defines the enumeration `E`: `structs_dict` binds its class, and so
does `ua`. -/
theorem loadTypeDefinitions_structsDict_enum :
    ∃ models, List.Forall₂ (fun _ model => ∃ root,
          (Except.ok [⟨"EnumeratedType", [("Name", "E")], []⟩] : Except String (List Element)) =
            .ok root ∧ makeModel Structures104.spec [] root = .ok model)
        (selectNodes [] (some [⟨⟨"TypeDictionary", 1⟩, "", []⟩])) models ∧
      ∀ pre (m : ModelElem) post, models.flatten = pre ++ m :: post →
        (∀ x ∈ post, x.name ≠ m.name) → m.name ≠ "IntEnum" →
        (((addHelpers Dict.empty).setDefault "__builtins__" .builtins).set "E"
            (.cls (.enum ⟨"E", [], none⟩))).get? m.name =
          some (.cls (m.getCode Structures104.spec).2) ∧
        ∀ e, m = .enum e →
          (Dict.empty.set "E" (PyObj.cls (.enum ⟨"E", [], none⟩))).get? e.name =
            some (.cls (.enum e)) :=
  @loadTypeDefinitions_structsDict (fun _ => .ok [⟨"EnumeratedType", [("Name", "E")], []⟩])
    Structures104.spec ⟨fun _ _ => none⟩ [] (some [⟨⟨"TypeDictionary", 1⟩, "", []⟩])
    ⟨[], Dict.empty⟩ ⟨[], Dict.empty.set "E" (.cls (.enum ⟨"E", [], none⟩))⟩
    [[.enum ⟨"E", [], none⟩]]
    (((addHelpers Dict.empty).setDefault "__builtins__" .builtins).set "E"
      (.cls (.enum ⟨"E", [], none⟩))) (by rfl)

/- The second node's document does not parse: the run raises, and `ua` keeps the enumeration the
first node set. -/
example :
    (loadTypeDefinitions
        (fun v => if v = "a" then .ok [⟨"EnumeratedType", [("Name", "E")], []⟩] else .error "bad")
        Structures104.spec ⟨fun _ _ => none⟩ []
        (some [⟨⟨"A", 1⟩, "a", []⟩, ⟨⟨"B", 1⟩, "b", []⟩])
        ⟨[], Dict.empty⟩) =
      (⟨[], Dict.empty.set "E" (.cls (.enum ⟨"E", [], none⟩))⟩, .error (.parse "bad")) := by
  rfl

/- An enumeration named `IntEnum` does not survive a second node: the helper takes the name back. -/
example :
    ((loadTypeDefinitions
        (fun v => if v = "a" then .ok [⟨"EnumeratedType", [("Name", "IntEnum")], []⟩]
          else .ok [])
        Structures104.spec ⟨fun _ _ => none⟩ []
        (some [⟨⟨"A", 1⟩, "a", []⟩, ⟨⟨"B", 1⟩, "b", []⟩])
        ⟨[], Dict.empty⟩).2.map
      fun r => r.2.get? "IntEnum") = .ok (some (.helper "IntEnum")) := by
  rfl

end Load

end Asyncua
