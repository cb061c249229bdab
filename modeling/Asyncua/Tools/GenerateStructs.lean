import Asyncua.Structures.LoadTypeDefinitions

/-!
# Writing the generated module: `uageneratestructs`

The command `uageneratestructs` loads the type definitions of one schema node with
`load_type_definitions`, then writes the module of its generator with
`StructGenerator.save_to_file(path, True)`: the header of `_make_header`, the code of every
element of the model, and the registration code of `_make_registration`.

`load_type_definitions` has already called `get_code` on every element when it generated the
classes, so the text written for an element is the text of its second `get_code` call. For a
structure with optional fields that text declares the synthetic `Encoding` field twice.
-/

namespace Asyncua

/-- The text `StructGenerator._make_header` writes. -/
def makeHeader : String :=
  "\n'''\nTHIS FILE IS AUTOGENERATED, DO NOT EDIT!!!\n'''\n\nfrom datetime import datetime, " ++
    "timezone\nimport uuid\nfrom dataclasses import dataclass, field\nfrom typing import List, " ++
    "Union, Optional\nfrom enum import IntEnum\n\nfrom asyncua import ua\n"

/-- Why `_uageneratestructs` fails once connected. -/
inductive GenerateStructsError
  /-- `load_type_definitions` raised. -/
  | load (e : LoadError)
  /-- `generators[0]` with no generator. -/
  | indexError
  deriving DecidableEq, Repr

section GenerateStructs

variable (fromstring : String → Except String (List Element)) (h : Structures104) (rt : Runtime)

/-- `StructGenerator.save_to_file(path, register)`: the text written, and the model as the
`get_code` calls leave it. -/
def saveToFile (model : List ModelElem) (register : Bool) : String × List ModelElem :=
  let model' := model.map fun m => (m.getCode h).2
  (makeHeader ++ String.join (model.map fun m => (m.getCode h).1) ++
    (if register then makeRegistration model' else ""), model')

/-- `_uageneratestructs` once connected to the server: the world it leaves and the text it writes
to the output path. -/
def uageneratestructs (node : SchemaNode) (world : World) :
    World × Except GenerateStructsError String :=
  match loadTypeDefinitions fromstring h rt [] (some [node]) world with
  | (world, .error e) => (world, .error (.load e))
  | (world, .ok (generators, _)) =>
    match generators with
    | [] => (world, .error .indexError)
    | generator :: _ => (world, .ok (saveToFile h generator true).1)

/-! ### The text of an element does not depend on its type id -/

@[simp] lemma ModelElem.getCode_withTypeid_fst (typeid : String) (m : ModelElem) :
    ((m.withTypeid typeid).getCode h).1 = (m.getCode h).1 := by
  cases m with
  | enum e => rfl
  | struct s =>
    simp only [ModelElem.withTypeid, ModelElem.getCode, Struct.getCode, Struct.addEncoding]
    split <;> rfl

@[simp] lemma ModelElem.registration?_getCode (m : ModelElem) :
    (m.getCode h).2.registration? = m.registration? := by
  cases m with
  | enum e => rfl
  | struct s =>
    simp only [ModelElem.getCode, ModelElem.registration?, Struct.getCode, Struct.addEncoding]
    split <;> rfl

lemma map_getCode_fst_setTypeid (name typeid : String) (model : List ModelElem) :
    (setTypeid name typeid model).map (fun m => (m.getCode h).1) =
      model.map fun m => (m.getCode h).1 := by
  induction model with
  | nil => rfl
  | cons m ms ih =>
    simp only [setTypeid]
    split <;> simp [ih]

lemma map_getCode_fst_setTypeids (calls : List (String × String)) (model : List ModelElem) :
    (setTypeids calls model).map (fun m => (m.getCode h).1) =
      model.map fun m => (m.getCode h).1 := by
  induction calls generalizing model with
  | nil => rfl
  | cons c cs ih =>
    rw [setTypeids, List.foldl_cons, ← setTypeids, ih, map_getCode_fst_setTypeid]

lemma makeRegistration_map_getCode (model : List ModelElem) :
    makeRegistration (model.map fun m => (m.getCode h).2) = makeRegistration model := by
  simp [makeRegistration, List.filterMap_map, Function.comp_def]

/-! ### The file `uageneratestructs` writes -/

/-- The tool writes the header, then for every element of the node's model the text of its
second `get_code` call, then the registration of the model with the ids `set_typeid` stored. -/
theorem uageneratestructs_text {node : SchemaNode} {world w : World} {text : String}
    (hok : uageneratestructs fromstring h rt node world = (w, .ok text)) :
    ∃ root model, fromstring node.value = .ok root ∧ makeModel h [] root = .ok model ∧
      text = makeHeader ++ String.join (model.map fun m => ((m.getCode h).2.getCode h).1) ++
        makeRegistration (setTypeids
          ((childCalls h (execAll h model (addHelpers Dict.empty)) node.children).map
            fun c => (c.name, c.nodeId))
          (model.map fun m => (m.getCode h).2)) := by
  unfold uageneratestructs at hok
  split at hok
  · cases hok
  · rename_i gens sd hload
    obtain ⟨hnone, hgens, -⟩ := loadNodes_of_loadTypeDefinitions_ok fromstring h rt
      (congrArg Prod.snd hload)
    cases hl : loadNode fromstring h rt ⟨Dict.empty, [], world.registry, world.ua⟩ node with
    | error e => simp [selectNodes, loadNodes, hl] at hnone
    | ok st =>
      obtain ⟨root, model, hroot, hmodel, rfl⟩ := loadNode_ok fromstring h rt hl
      simp only [selectNodes, loadNodes, hl, List.nil_append] at hgens
      subst hgens
      simp only [Prod.mk.injEq, Except.ok.injEq] at hok
      refine ⟨root, model, hroot, hmodel, ?_⟩
      rw [← hok.2, saveToFile, if_pos rfl, map_getCode_fst_setTypeids, List.map_map,
        makeRegistration_map_getCode]
      rfl

/-- In the file `uageneratestructs` writes, every structure of the model that has optional fields
declares `Encoding` twice. -/
theorem uageneratestructs_encoding_twice {node : SchemaNode} {world w : World} {text : String}
    (hok : uageneratestructs fromstring h rt node world = (w, .ok text)) :
    ∃ root model, fromstring node.value = .ok root ∧ makeModel h [] root = .ok model ∧
      ∀ s, .struct s ∈ model → 0 < s.optionCounter →
        (Struct.header s.name ++ String.join
          (List.replicate 2 encodingField.declaration ++ Field.declarations s.fields)).data <:+:
          text.data := by
  obtain ⟨root, model, hroot, hmodel, htext⟩ := uageneratestructs_text fromstring h rt hok
  refine ⟨root, model, hroot, hmodel, fun s hs hopt => ?_⟩
  have hcode : (((ModelElem.struct s).getCode h).2.getCode h).1 = Struct.header s.name ++
      String.join (List.replicate 2 encodingField.declaration ++ Field.declarations s.fields) :=
    Struct.getCode_iterate_fst hopt 1
  rw [htext, ← hcode, String.data_append, String.data_append, String.data_join]
  have hmem := List.mem_map_of_mem String.data
    (List.mem_map_of_mem (fun m => ((m.getCode h).2.getCode h).1) hs)
  exact (List.infix_of_mem_flatten hmem).trans (List.infix_append _ _ _)

/-- A node whose document defines a structure with one optional field: the file declares its
`Encoding` twice. -/
theorem uageneratestructs_encoding_twice_optional :
    ∃ root model, (Except.ok [⟨"StructuredType", [("Name", "S")],
        [⟨"Field", [("Name", "A"), ("TypeName", "opc:Int32"), ("SwitchField", "B")]⟩]⟩] :
          Except String (List Element)) = .ok root ∧
      makeModel Structures104.spec [] root = .ok model ∧
      ∀ s, .struct s ∈ model → 0 < s.optionCounter →
        (Struct.header s.name ++ String.join
          (List.replicate 2 encodingField.declaration ++ Field.declarations s.fields)).data <:+:
          (saveToFile Structures104.spec
            [(ModelElem.struct ⟨"S", [⟨"A", "Int32", .int 0, false, true⟩], none,
              1⟩).getCode Structures104.spec |>.2] true).1.data :=
  @uageneratestructs_encoding_twice
    (fun _ => .ok [⟨"StructuredType", [("Name", "S")],
      [⟨"Field", [("Name", "A"), ("TypeName", "opc:Int32"), ("SwitchField", "B")]⟩]⟩])
    Structures104.spec ⟨fun _ _ => none⟩ ⟨⟨"TypeDictionary", 1⟩, "", []⟩ ⟨[], Dict.empty⟩
    ⟨[], Dict.empty⟩ _ (by rfl)

end GenerateStructs

end Asyncua
