import Asyncua.Python

/-!
# Browsing the address space: `uals`

`uals` lists the children of a node and, down to `--depth`, their children in turn, through
`_lsprint_0`, `_lsprint_1` or `_lsprint_long` called with `depth - 1`. The three share one
recursion, which this module models once: a header when the indent is empty, then for each child
its line and, while `depth` is not zero, its listing with `depth - 1`; the server is given by
what its reads return.

The recursion stops only where `depth` is exactly zero, so from `--depth 0` or below it follows
the references as deep as they go and does not end on a cycle. The model bounds the nested calls
by a fuel argument; running out of fuel is `none`.
-/

namespace Asyncua

/-- A reference description as `get_children_descriptions` returns it: the target node, its
display and browse names as `to_string` renders them, and whether its node class is
`Variable`. -/
structure ReferenceDescription where
  nodeId : String
  displayName : String
  browseName : String
  isVariable : Bool
  deriving DecidableEq, Repr

/-- The attributes `_lsprint_long` reads of a node, rendered as it prints them: `DisplayName`,
`BrowseName`, whether `NodeClass` is `Variable`, `DataType`, and the `Value` with its server
timestamp. `WriteMask` and `UserWriteMask` are read and never printed. -/
structure NodeAttributes where
  displayName : String
  browseName : String
  isVariable : Bool
  dataType : String
  serverTimestamp : String
  value : String
  deriving DecidableEq, Repr

/-- The address space as the listings read it, a node given by its node id. -/
structure AddressSpace where
  /-- `node.get_children_descriptions()`: the forward hierarchical references of a node. -/
  childrenDescriptions : String → List ReferenceDescription
  /-- `Node(session, nodeid).read_value()` as `str` renders it, or the code of the
  `UaStatusCodeError` it raises. -/
  readValue : String → Except Nat String
  /-- `node.read_attributes([...])`. -/
  readAttributes : String → NodeAttributes

/-- `node.get_children()`: the targets of the same references. -/
def AddressSpace.children (space : AddressSpace) (node : String) : List String :=
  (space.childrenDescriptions node).map ReferenceDescription.nodeId

/-! ### Lists of optional results -/

lemma isSome_mapM {α γ : Type} (f : α → Option γ) (l : List α) :
    (l.mapM f).isSome ↔ ∀ x ∈ l, (f x).isSome := by
  induction l with
  | nil => rw [List.mapM_nil]; simp
  | cons x xs ih =>
    rw [List.mapM_cons, List.forall_mem_cons, ← ih]
    cases f x <;> cases xs.mapM f <;> simp

lemma mapM_eq_some_map {α γ : Type} {f : α → Option γ} {g : α → γ} {l : List α}
    (h : ∀ x ∈ l, f x = some (g x)) : l.mapM f = some (l.map g) := by
  induction l with
  | nil => rfl
  | cons x xs ih =>
    rw [List.mapM_cons, h x (List.mem_cons_self x xs),
      ih fun y hy => h y (List.mem_cons_of_mem x hy)]
    rfl

/-! ### Indents -/

/-- The indent of a line `levels` levels below the first: two spaces per level. -/
def spaces (levels : Nat) : String := ⟨List.replicate (2 * levels) ' '⟩

@[simp] lemma spaces_zero : spaces 0 = "" := rfl

lemma append_spaces_succ (indent : String) (k : Nat) :
    indent ++ spaces (k + 1) = indent ++ "  " ++ spaces k := by
  apply String.ext
  simp only [spaces, String.data_append, List.append_assoc]
  rw [show 2 * (k + 1) = 2 + 2 * k by omega, List.replicate_add]
  rfl

lemma append_spaces_ne_empty (indent : String) : indent ++ "  " ≠ "" := by
  intro h
  have := congrArg String.length h
  simp only [String.length_append, String.length_empty, Nat.add_eq_zero] at this
  exact absurd this.2 (by decide)

/-! ### The recursion of the listings -/

section Lsprint

variable {β : Type} (header : List String) (children : String → List β) (next : β → String)
  (line : String → β → String)

/-- The recursion of `_lsprint_0`, `_lsprint_1` and `_lsprint_long` over children of type `β`:
`children` lists the children of a node, `next` is the node a child is browsed from, and `line`
prints a child at an indent. At most `fuel` calls are nested. -/
def lsprint : Nat → String → Int → String → Option (List String)
  | 0, _, _, _ => none
  | fuel + 1, node, depth, indent => do
    let lines ← (children node).mapM fun c => do
      let below ← if depth ≠ 0 then
          lsprint fuel (next c) (depth - 1) (indent ++ "  ")
        else pure []
      pure (line indent c :: below)
    pure ((if indent = "" then header else []) ++ lines.flatten)

lemma lsprint_succ (fuel : Nat) (node : String) (depth : Int) (indent : String) :
    lsprint header children next line (fuel + 1) node depth indent =
      ((children node).mapM fun c =>
          if depth ≠ 0 then (lsprint header children next line fuel (next c) (depth - 1)
            (indent ++ "  ")).map (line indent c :: ·)
          else some [line indent c]).map
        fun lines => (if indent = "" then header else []) ++ lines.flatten := by
  simp only [lsprint, bind_pure_comp, Option.map_eq_map]
  rfl

/-- One call ends exactly when, while `depth` is not zero, the listing of every child ends. -/
lemma isSome_lsprint_succ (fuel : Nat) (node : String) (depth : Int) (indent : String) :
    (lsprint header children next line (fuel + 1) node depth indent).isSome ↔
      ∀ c ∈ children node, depth ≠ 0 →
        (lsprint header children next line fuel (next c) (depth - 1) (indent ++ "  ")).isSome := by
  simp only [lsprint, bind_pure_comp, Option.map_eq_map, Option.isSome_map', isSome_mapM]
  refine forall₂_congr fun c _ => ?_
  split <;> simp [*]

/-- From a negative depth, a node of a set in which every node has a child is listed without end:
every fuel runs out. -/
lemma lsprint_eq_none {P : String → Prop} (hP : ∀ n, P n → ∃ c ∈ children n, P (next c))
    {depth : Int} (hdepth : depth < 0) (fuel : Nat) {node : String} (hnode : P node)
    (indent : String) : lsprint header children next line fuel node depth indent = none := by
  induction fuel generalizing node depth indent with
  | zero => rfl
  | succ fuel ih =>
    rw [← Option.not_isSome_iff_eq_none, isSome_lsprint_succ]
    obtain ⟨c, hc, hcP⟩ := hP node hnode
    intro h
    simpa [ih (show depth - 1 < 0 by omega) hcP] using h c hc (by omega)

/-! ### The listing as a traversal -/

/-- The children reached within `levels` levels below a node, in depth-first pre-order, each with
the number of levels between it and the first level. -/
def preorder : Nat → String → List (Nat × β)
  | 0, _ => []
  | k + 1, node => (children node).flatMap fun c =>
      (0, c) :: (preorder k (next c)).map fun p => (p.1 + 1, p.2)

/-- One level of the pre-order: each child's line, then its own children one level deeper. -/
lemma map_preorder_succ (k : Nat) (node indent : String) :
    (preorder children next (k + 1) node).map (fun p => line (indent ++ spaces p.1) p.2) =
      ((children node).map fun c => line indent c ::
        (preorder children next k (next c)).map
          fun p => line (indent ++ "  " ++ spaces p.1) p.2).flatten := by
  simp [preorder, List.flatMap, List.map_flatten, Function.comp_def, append_spaces_succ]

/-- From a depth `k ≥ 0`, with more fuel than `k`, the listing prints the header at the top, then
the line of every child reached within `k + 1` levels, in depth-first pre-order, two more spaces
of indent per level. -/
lemma lsprint_eq_preorder (k : Nat) {fuel : Nat} (hfuel : k < fuel) (node indent : String) :
    lsprint header children next line fuel node k indent =
      some ((if indent = "" then header else []) ++
        (preorder children next (k + 1) node).map fun p => line (indent ++ spaces p.1) p.2) := by
  induction k generalizing fuel node indent with
  | zero =>
    cases fuel with
    | zero => omega
    | succ f =>
      have h0 : ((0 : Nat) : Int) = 0 := rfl
      simp only [lsprint_succ, h0, ne_eq, not_true_eq_false, if_false]
      rw [mapM_eq_some_map fun c _ => rfl, map_preorder_succ]
      simp [preorder]
  | succ k ih =>
    cases fuel with
    | zero => omega
    | succ f =>
      have hk : ((k + 1 : Nat) : Int) ≠ 0 := by omega
      simp only [lsprint_succ, hk, ne_eq, not_false_eq_true, if_true,
        show ((k + 1 : Nat) : Int) - 1 = k by omega, ih (show k < f by omega),
        if_neg (append_spaces_ne_empty _), List.nil_append, Option.map_some']
      rw [mapM_eq_some_map fun c _ => rfl, map_preorder_succ]
      rfl

end Lsprint

/-! ### The three listings -/

/-- The header of `_lsprint_0`. -/
def header0 : List String := [Py.ljust "DisplayName" 30 ++ " " ++ Py.ljust "NodeId" 25, ""]

/-- The line `_lsprint_0` prints for a child. -/
def line0 (indent : String) (desc : ReferenceDescription) : String :=
  indent ++ Py.ljust desc.displayName 30 ++ " " ++ Py.ljust desc.nodeId 25

/-- The header of `_lsprint_1`. -/
def header1 : List String :=
  [Py.ljust "DisplayName" 30 ++ " " ++ Py.ljust "NodeId" 25 ++ " " ++ Py.ljust "BrowseName" 25 ++
    " " ++ Py.ljust "Value" 25, ""]

/-- The header of `_lsprint_long`. -/
def headerLong : List String :=
  [Py.ljust "DisplayName" 30 ++ " " ++ Py.ljust "NodeId" 25 ++ " " ++ Py.ljust "BrowseName" 25 ++
    " " ++ Py.ljust "DataType" 10 ++ " " ++ Py.ljust "Timestamp" 30 ++ " " ++
    Py.ljust "Value" 25, ""]

section Listings

variable (space : AddressSpace)

/-- The line `_lsprint_1` prints for a child: the line of a variable ends with its value, or with
`Bad (0x..)` when reading it raises `UaStatusCodeError`. -/
def line1 (indent : String) (desc : ReferenceDescription) : String :=
  let names := indent ++ Py.ljust desc.displayName 30 ++ " " ++ Py.ljust desc.nodeId 25 ++ " " ++
    Py.ljust desc.browseName 25
  if desc.isVariable then
    let val := match space.readValue desc.nodeId with
      | .ok v => v
      | .error code => "Bad (0x" ++ String.mk (Nat.toDigits 16 code) ++ ")"
    names ++ ", " ++ Py.ljust val 3
  else names

/-- The line `_lsprint_long` prints for a child node. The line of a node that is not a variable
gives its browse name before its node id. -/
def lineLong (indent : String) (node : String) : String :=
  let attrs := space.readAttributes node
  if attrs.isVariable then
    indent ++ Py.ljust attrs.displayName 30 ++ " " ++ Py.ljust node 25 ++ " " ++
      Py.ljust attrs.browseName 25 ++ " " ++ Py.ljust attrs.dataType 10 ++ " " ++
      Py.ljust attrs.serverTimestamp 30 ++ " " ++ Py.ljust attrs.value 25
  else
    indent ++ Py.ljust attrs.displayName 30 ++ " " ++ Py.ljust attrs.browseName 25 ++ " " ++
      Py.ljust node 25

/-- `_lsprint_0(node, depth, indent)`. -/
def lsprint0 : Nat → String → Int → String → Option (List String) :=
  lsprint header0 space.childrenDescriptions ReferenceDescription.nodeId line0

/-- `_lsprint_1(node, depth, indent)`. -/
def lsprint1 : Nat → String → Int → String → Option (List String) :=
  lsprint header1 space.childrenDescriptions ReferenceDescription.nodeId (line1 space)

/-- `_lsprint_long(pnode, depth, indent)`. -/
def lsprintLong : Nat → String → Int → String → Option (List String) :=
  lsprint headerLong space.children id (lineLong space)

/-- `_uals` once connected, from the node `get_node` found: the lines of the listing. `-l` alone
gives the long format 3, and no `-l` gives 1; `--depth` defaults to 1. -/
def uals (longFormat : Option Int) (depth : Int) (fuel : Nat) (node : String) :
    Option (List String) :=
  let longFormat := longFormat.getD 1
  if longFormat = 0 then lsprint0 space fuel node (depth - 1) ""
  else if longFormat = 1 then lsprint1 space fuel node (depth - 1) ""
  else lsprintLong space fuel node (depth - 1) ""

/-- What `uals` prints, read as a traversal of the references: the header of the listing of the
long format, then one line per child reached within `levels` levels below the node, in
depth-first pre-order, indented by two spaces per level below the first. -/
def ualsListing (longFormat : Option Int) (levels : Nat) (node : String) : List String :=
  let longFormat := longFormat.getD 1
  if longFormat = 0 then header0 ++
    (preorder space.childrenDescriptions ReferenceDescription.nodeId levels node).map
      fun p => line0 (spaces p.1) p.2
  else if longFormat = 1 then header1 ++
    (preorder space.childrenDescriptions ReferenceDescription.nodeId levels node).map
      fun p => line1 space (spaces p.1) p.2
  else headerLong ++
    (preorder space.children id levels node).map fun p => lineLong space (spaces p.1) p.2

/-- With `--depth d` for `d ≥ 1` and fuel for `d` nested calls, `uals` prints exactly the listing
of the references cut at `d` levels, in depth-first pre-order, whatever cycles they hold. -/
theorem uals_eq_ualsListing (longFormat : Option Int) {depth : Int} (hdepth : 1 ≤ depth)
    {fuel : Nat} (hfuel : depth ≤ fuel) (node : String) :
    uals space longFormat depth fuel node =
      some (ualsListing space longFormat depth.toNat node) := by
  have hd : depth - 1 = ((depth.toNat - 1 : Nat) : Int) := by omega
  have hk : depth.toNat - 1 + 1 = depth.toNat := by omega
  simp only [uals, ualsListing, lsprint0, lsprint1, lsprintLong, hd]
  split_ifs <;> rw [lsprint_eq_preorder _ _ _ _ _ (by omega), hk] <;> simp

/-- A chain of two references browsed with `--depth 2` and two nested calls is listed two levels
deep. -/
theorem uals_chain_listing :
    (1 : Int) ≤ 2 ∧ (2 : Int) ≤ (2 : Nat) ∧
      uals ⟨fun n => if n = "a" then [⟨"b", "B", "1:B", false⟩]
          else if n = "b" then [⟨"c", "C", "1:C", false⟩] else [], fun _ => .ok "",
          fun _ => ⟨"", "", false, "", "", ""⟩⟩ none 2 2 "a" =
        some (ualsListing ⟨fun n => if n = "a" then [⟨"b", "B", "1:B", false⟩]
          else if n = "b" then [⟨"c", "C", "1:C", false⟩] else [], fun _ => .ok "",
          fun _ => ⟨"", "", false, "", "", ""⟩⟩ none (2 : Int).toNat "a") :=
  ⟨by decide, by decide, uals_eq_ualsListing _ none (by decide) (by decide) "a"⟩

/-- With `--depth 0` or below, the depth passed down never reaches zero: from a node on a cycle of
references the listing never ends, for every long format. -/
theorem uals_eq_none_of_cycle {P : String → Prop}
    (hP : ∀ n, P n → ∃ c ∈ space.childrenDescriptions n, P c.nodeId) (longFormat : Option Int)
    {depth : Int} (hdepth : depth ≤ 0) (fuel : Nat) {node : String} (hnode : P node) :
    uals space longFormat depth fuel node = none := by
  have hP' : ∀ n, P n → ∃ c ∈ space.children n, P (id c) := fun n hn => by
    obtain ⟨c, hc, hcP⟩ := hP n hn
    exact ⟨c.nodeId, List.mem_map_of_mem _ hc, hcP⟩
  simp only [uals, lsprint0, lsprint1, lsprintLong]
  split_ifs
  · exact lsprint_eq_none _ _ _ _ hP (by omega) fuel hnode ""
  · exact lsprint_eq_none _ _ _ _ hP (by omega) fuel hnode ""
  · exact lsprint_eq_none _ _ _ _ hP' (by omega) fuel hnode ""

end Listings

/-- A node that is its own child, browsed with `--depth 0`: a thousand nested calls do not end
the listing. -/
theorem uals_self_loop :
    uals ⟨fun n => [⟨n, "Loop", "1:Loop", false⟩], fun _ => .ok "",
      fun _ => ⟨"", "", false, "", "", ""⟩⟩ none 0 1000 "ns=1;s=Loop" = none :=
  @uals_eq_none_of_cycle _ (fun _ => True) (fun _ _ => ⟨_, List.mem_singleton_self _, trivial⟩)
    none 0 le_rfl 1000 _ trivial

end Asyncua
