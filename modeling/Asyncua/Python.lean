import Mathlib.Data.List.Infix
import Mathlib.Data.List.Nodup
import Mathlib.Data.String.Basic

/-!
# Python values, dictionaries and string methods

The structure generator of `asyncua/common/structures.py` works on untyped Python data: attribute
values read from XML (a string or `None`), dictionaries used as namespaces and enum maps, and a
handful of string methods. This file fixes their meaning once; later files reason about them
through the lemmas proved here.

String methods are computed on the character list of a string, so that they evaluate by `decide`
on concrete inputs.
-/

namespace Asyncua

/-- A Python value as the generator reads, stores and prints it. -/
inductive PyValue
  | none
  | str (s : String)
  | int (i : Int)
  /-- Any other object, given by the text `str()` renders for it. -/
  | obj (text : String)
  deriving DecidableEq, Repr

/-- `str(v)`, which is what an f-string inserts for `{v}`. -/
def PyValue.render : PyValue → String
  | .none => "None"
  | .str s => s
  | .int i => toString i
  | .obj t => t

/-- The value of `element.get(key)`: the attribute text, or `None` when it is absent. -/
def PyValue.ofOption : Option String → PyValue
  | .none => PyValue.none
  | .some s => .str s

namespace Py

/-- `s.startswith(p)`. -/
def startswith (s p : String) : Bool := p.data.isPrefixOf s.data

/-- `s.endswith(p)`. -/
def endswith (s p : String) : Bool := p.data.isSuffixOf s.data

/-- `sub in s`. -/
def contains (s sub : String) : Bool := decide (sub.data <:+: s.data)

/-- `s.replace(" ", "")`. -/
def removeSpaces (s : String) : String := ⟨s.data.filter (· != ' ')⟩

/-- `s.split(":")[1]`, read only when `":" in s`, so that the list has a second item. -/
def splitColon1 (s : String) : String := ⟨(s.data.splitOn ':').getD 1 []⟩

/-- `s.split(sep)` for a one-character separator. -/
def split (s : String) (sep : Char) : List String := (s.data.splitOn sep).map String.mk

/-- `sep.join(items)` for a one-character separator. -/
def join (sep : Char) (items : List String) : String :=
  ⟨[sep].intercalate (items.map String.data)⟩

/-- `"{:w}".format(s)` for a string `s`, which is `s.ljust(w)`. -/
def ljust (s : String) (w : Nat) : String := ⟨s.data ++ List.replicate (w - s.length) ' '⟩

/-- Splitting at a separator that no item holds gives the items back. -/
lemma split_join {sep : Char} {items : List String} (hsep : ∀ s ∈ items, sep ∉ s.data)
    (hne : items ≠ []) : split (join sep items) sep = items := by
  rw [split, join, List.splitOn_intercalate _ sep (by simpa using hsep) (by simpa using hne),
    List.map_map]
  exact List.map_id' items

/-- Two items or more are joined by a separator. -/
lemma mem_join {sep : Char} {items : List String} (hlen : 2 ≤ items.length) :
    sep ∈ (join sep items).data := by
  match items, hlen with
  | a :: b :: rest, _ => simp [join, List.intercalate]

lemma not_mem_of_mem_splitOn {sep : Char} :
    ∀ {xs l : List Char}, l ∈ xs.splitOn sep → sep ∉ l
  | [], l, h => by simp_all
  | x :: xs, l, h => by
    rw [List.splitOn, List.splitOnP_cons] at h
    split_ifs at h with hx
    · rcases List.mem_cons.mp h with rfl | h
      · simp
      · exact not_mem_of_mem_splitOn h
    · obtain ⟨r, rs, hr⟩ := List.exists_cons_of_ne_nil (List.splitOnP_ne_nil (· == sep) xs)
      rw [hr] at h
      have hrs : ∀ l ∈ r :: rs, sep ∉ l := fun l hl => not_mem_of_mem_splitOn (by
        rw [List.splitOn, hr]; exact hl)
      rcases List.mem_cons.mp h with rfl | h
      · simp only [List.mem_cons, not_or]
        exact ⟨fun h => hx (by simp [h]), hrs r (List.mem_cons_self r rs)⟩
      · exact hrs l (List.mem_cons_of_mem r h)

/-- No item of `s.split(sep)` holds the separator. -/
lemma sep_not_mem_of_mem_split {s item : String} {sep : Char} (h : item ∈ split s sep) :
    sep ∉ item.data := by
  obtain ⟨l, hl, rfl⟩ := List.mem_map.mp h
  exact not_mem_of_mem_splitOn hl

/-- A text without the separator splits into itself. -/
lemma split_of_not_mem {s : String} {sep : Char} (h : sep ∉ s.data) : split s sep = [s] := by
  rw [split, List.splitOn, List.splitOnP_eq_single _ _ fun x hx hsep => h (by
    simpa using (beq_iff_eq.mp hsep) ▸ hx)]
  rfl

end Py

/-! ### Dictionaries -/

namespace Dict

variable {α : Type}

/-- The entry list after `d[key] = v`: an existing key keeps its place, a new one goes last. -/
def setEntries (key : String) (v : α) : List (String × α) → List (String × α)
  | [] => [(key, v)]
  | e :: es => if e.1 = key then (key, v) :: es else e :: setEntries key v es

/-- The value stored under `key` in an entry list. -/
def lookupEntries (key : String) : List (String × α) → Option α
  | [] => none
  | e :: es => if e.1 = key then some e.2 else lookupEntries key es

lemma lookupEntries_setEntries (key k : String) (v : α) (es : List (String × α)) :
    lookupEntries k (setEntries key v es) = if k = key then some v else lookupEntries k es := by
  induction es with
  | nil =>
    by_cases hk : k = key
    · simp [setEntries, lookupEntries, hk]
    · simp [setEntries, lookupEntries, hk, Ne.symm hk]
  | cons e es ih =>
    by_cases he : e.1 = key <;> by_cases hk : k = key <;>
      simp_all [setEntries, lookupEntries, eq_comm]

lemma lookupEntries_eq_none {k : String} {es : List (String × α)} (hk : k ∉ es.map Prod.fst) :
    lookupEntries k es = none := by
  induction es with
  | nil => rfl
  | cons e es ih =>
    simp only [List.map_cons, List.mem_cons, not_or] at hk
    simp [lookupEntries, Ne.symm hk.1, ih hk.2]

lemma keys_setEntries (key : String) (v : α) (es : List (String × α)) :
    (setEntries key v es).map Prod.fst =
      if key ∈ es.map Prod.fst then es.map Prod.fst else es.map Prod.fst ++ [key] := by
  induction es with
  | nil => simp [setEntries]
  | cons e es ih =>
    by_cases he : e.1 = key
    · simp [setEntries, he]
    · by_cases hk : key ∈ es.map Prod.fst <;> simp_all [setEntries, Ne.symm he]

lemma nodup_keys_setEntries (key : String) (v : α) {es : List (String × α)}
    (h : (es.map Prod.fst).Nodup) : ((setEntries key v es).map Prod.fst).Nodup := by
  rw [keys_setEntries]
  split_ifs with hk
  · exact h
  · exact List.nodup_append.mpr
      ⟨h, List.nodup_singleton _, by simpa [List.disjoint_singleton] using hk⟩

end Dict

/-- A Python `dict` with string keys: its entries in insertion order, each key once. -/
structure Dict (α : Type) where
  entries : List (String × α)
  keys_nodup : (entries.map Prod.fst).Nodup

namespace Dict

variable {α : Type}

/-- `{}`. -/
def empty : Dict α := ⟨[], List.nodup_nil⟩

/-- `d.get(key)`. -/
def get? (d : Dict α) (key : String) : Option α := lookupEntries key d.entries

/-- `key in d`. -/
def contains (d : Dict α) (key : String) : Bool := (d.get? key).isSome

/-- `d[key] = v`. -/
def set (d : Dict α) (key : String) (v : α) : Dict α :=
  ⟨setEntries key v d.entries, nodup_keys_setEntries key v d.keys_nodup⟩

@[simp] lemma get?_empty (key : String) : (empty : Dict α).get? key = none := rfl

@[simp] lemma contains_empty (key : String) : (empty : Dict α).contains key = false := rfl

@[simp] lemma get?_set (d : Dict α) (key k : String) (v : α) :
    (d.set key v).get? k = if k = key then some v else d.get? k :=
  lookupEntries_setEntries key k v d.entries

@[simp] lemma contains_set (d : Dict α) (key k : String) (v : α) :
    (d.set key v).contains k = (k == key || d.contains k) := by
  by_cases hk : k = key <;> simp [contains, hk]

end Dict

end Asyncua
