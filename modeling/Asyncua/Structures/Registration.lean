import Asyncua.Structures.MakeModel

/-!
# Type ids and the registration code

After the classes of a model have been generated, `load_type_definitions` binds each structure to
the id of its encoding node with `StructGenerator.set_typeid`, and `save_to_file` can append the
registration code of `_make_registration`, one line per structure of the model.

`set_typeid` gives the id to the first element of the model with the given name, whatever its
kind, and returns; `_make_registration` writes a line for every structure, whatever its `typeid`.
A structure that no call names, or that follows an element of its own name, keeps its initial
`typeid`, and a model built by `_make_model` registers it under `None`.
-/

namespace Asyncua

/-- `element.typeid`. -/
def ModelElem.typeid : ModelElem → Option String
  | .enum e => e.typeid
  | .struct s => s.typeid

/-- `element.typeid = typeid`. -/
def ModelElem.withTypeid (typeid : String) : ModelElem → ModelElem
  | .enum e => .enum { e with typeid := some typeid }
  | .struct s => .struct { s with typeid := some typeid }

@[simp] lemma ModelElem.name_withTypeid (typeid : String) (m : ModelElem) :
    (m.withTypeid typeid).name = m.name := by
  cases m <;> rfl

@[simp] lemma ModelElem.withTypeid_withTypeid (a b : String) (m : ModelElem) :
    (m.withTypeid a).withTypeid b = m.withTypeid b := by
  cases m <;> rfl

/-- `StructGenerator.set_typeid(name, typeid)`: the first element of the model named `name`
takes the id, and the loop returns. -/
def setTypeid (name typeid : String) : List ModelElem → List ModelElem
  | [] => []
  | m :: ms => if m.name = name then m.withTypeid typeid :: ms else m :: setTypeid name typeid ms

/-- The model after a sequence of `set_typeid(name, typeid)` calls. -/
def setTypeids (calls : List (String × String)) (model : List ModelElem) : List ModelElem :=
  calls.foldl (fun model c => setTypeid c.1 c.2 model) model

/-- The line `_make_registration` emits for a structure: its `typeid` is printed as Python
prints it, `None` when it was never set. -/
def Struct.registration (s : Struct) : String :=
  "ua.register_extension_object('" ++ s.name ++ "', ua.NodeId.from_string('" ++
    (PyValue.ofOption s.typeid).render ++ "'), " ++ s.name ++ ")\n"

/-- The registration line of an element of the model; enumerations have none. -/
def ModelElem.registration? : ModelElem → Option String
  | .enum _ => none
  | .struct s => some s.registration

/-- `StructGenerator._make_registration`. -/
def makeRegistration (model : List ModelElem) : String :=
  "\n\n" ++ String.join (model.filterMap ModelElem.registration?)

/-! ### A sequence of `set_typeid` calls -/

/-- The id of the last call in `calls` that names `name`. -/
def lastTypeid (name : String) : List (String × String) → Option String
  | [] => none
  | c :: cs => (lastTypeid name cs).or (if c.1 = name then some c.2 else none)

/-- An element after the calls `calls`, when no earlier element carries its name. -/
def ModelElem.bindLast (calls : List (String × String)) (m : ModelElem) : ModelElem :=
  match lastTypeid m.name calls with
  | some typeid => m.withTypeid typeid
  | none => m

/-- The calls that do not name `name`. -/
def callsNotNaming (name : String) (calls : List (String × String)) : List (String × String) :=
  calls.filter fun c => c.1 != name

/-- The registration lines of a model after the calls `calls`, element by element: a structure
carries the id of the last call naming it, or its own `typeid` when none does; the calls naming
an element are used up by it, since `set_typeid` stops at the first element of the name, so a
later element of that name, a structure after an enumeration of its name included, keeps its own
`typeid`. -/
def registrationLines (calls : List (String × String)) : List ModelElem → List String
  | [] => []
  | .enum e :: ms => registrationLines (callsNotNaming e.name calls) ms
  | .struct s :: ms => { s with typeid := (lastTypeid s.name calls).or s.typeid }.registration ::
      registrationLines (callsNotNaming s.name calls) ms

/-- The calls of a sequence that name the head of the model all land on it; the others go on to
the rest of the model. -/
lemma setTypeids_cons (calls : List (String × String)) (m : ModelElem) (ms : List ModelElem) :
    setTypeids calls (m :: ms) =
      m.bindLast calls :: setTypeids (callsNotNaming m.name calls) ms := by
  induction calls generalizing m ms with
  | nil => rfl
  | cons c cs ih =>
    rw [setTypeids, List.foldl_cons, ← setTypeids, setTypeid, callsNotNaming, List.filter_cons]
    by_cases hm : m.name = c.1
    · -- the call lands on `m`: a later call naming `m` overrides it
      rw [if_pos hm, ih, ModelElem.name_withTypeid, hm, bne_self_eq_false,
        if_neg Bool.false_ne_true]
      simp only [ModelElem.bindLast, lastTypeid, ModelElem.name_withTypeid, if_pos hm.symm]
      cases lastTypeid m.name cs <;> simp [callsNotNaming]
    · -- the call goes on to the rest of the model
      rw [if_neg hm, ih, if_pos (bne_iff_ne.mpr (Ne.symm hm))]
      simp only [ModelElem.bindLast, lastTypeid, if_neg (Ne.symm hm), Option.or_none]
      rfl

/-- For every model and every sequence of `set_typeid` calls, `_make_registration` emits one line
per structure of the model, in model order: the line of a structure carries the id of the last
call naming it, unless an earlier element of its name took those calls, and otherwise its
initial `typeid`, printed `None` for a model built by `_make_model`. -/
theorem makeRegistration_setTypeids (calls : List (String × String)) (model : List ModelElem) :
    makeRegistration (setTypeids calls model) =
      "\n\n" ++ String.join (registrationLines calls model) := by
  rw [makeRegistration]
  congr 2
  induction model generalizing calls with
  | nil =>
    induction calls with
    | nil => rfl
    | cons c cs ih => exact ih
  | cons m ms ih =>
    rw [setTypeids_cons, List.filterMap_cons, ih]
    cases m with
    | enum e =>
      simp only [ModelElem.bindLast]
      cases lastTypeid (ModelElem.enum e).name calls <;> rfl
    | struct s =>
      simp only [ModelElem.bindLast, ModelElem.name, registrationLines]
      cases lastTypeid s.name calls <;> rfl

/-- An enumeration and a structure named `S`, as `_make_model` builds them from one document:
`set_typeid("S", ...)` gives the id to the enumeration, and the structure is registered under
the id `None`. -/
theorem makeRegistration_enum_takes_id :
    makeModel Structures104.spec []
        [⟨"EnumeratedType", [("Name", "S")], []⟩, ⟨"StructuredType", [("Name", "S")], []⟩] =
      .ok [.enum ⟨"S", [], none⟩, .struct ⟨"S", [], none, 0⟩] ∧
    makeRegistration
        (setTypeids [("S", "ns=2;i=7")] [.enum ⟨"S", [], none⟩, .struct ⟨"S", [], none, 0⟩]) =
      "\n\nua.register_extension_object('S', ua.NodeId.from_string('None'), S)\n" :=
  ⟨rfl, (makeRegistration_setTypeids _ _).trans rfl⟩

end Asyncua
