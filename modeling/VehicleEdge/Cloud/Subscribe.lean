import VehicleEdge.Library.KeyedMap
import VehicleEdge.Library.LastWrite

/-
This file models the walk over the vehicle model that subscribes the configured signals.
The model is a graph of objects, since every node has a link to its parent.
-/

namespace VehicleEdge.Cloud

variable {Reference : Type}

/-- The walk tells the direct subclasses of these two classes of the kit from all other classes. -/
inductive Base where
  | dataPoint
  | model
  | other
  deriving DecidableEq

/-- An attribute holds nothing, a text, or an object. -/
inductive Attribute (Reference : Type) where
  | none
  | text (value : String)
  | object (reference : Reference)

/-- An object has the base of its class and its attributes in the order of their assignment. -/
structure PyObject (Reference : Type) where
  base : Base
  attributes : List (String × Attribute Reference)

abbrev Heap (Reference : Type) := Reference → PyObject Reference

/-- The name of a node is a text. -/
def Heap.name (heap : Heap Reference) (node : Reference) : Option String :=
  match (heap node).attributes.lookup "name" with
  | some (.text value) => some value
  | _ => none

/-- The parent of a node is another node, or nothing at the root. -/
def Heap.parent (heap : Heap Reference) (node : Reference) : Option (Option Reference) :=
  match (heap node).attributes.lookup "parent" with
  | some (.object reference) => some (some reference)
  | some .none => some none
  | _ => none

/-- The loop inserts the names of the parents in front. -/
def pathFrom (heap : Heap Reference) : Nat → Option Reference → List String → Option (List String)
  | 0, _, _ => none
  | _ + 1, none, path => some path
  | fuel + 1, some node, path => do
      let name ← heap.name node
      let parent ← heap.parent node
      pathFrom heap fuel parent (name :: path)

def getPath (heap : Heap Reference) (fuel : Nat) (node : Reference) : Option String := do
  let name ← heap.name node
  let parent ← heap.parent node
  let path ← pathFrom heap fuel parent [name]
  return ".".intercalate path

def startswith (text start : String) : Bool := start.toList.isPrefixOf text.toList

/-- A leaf is a data point with its path. -/
abbrev SignalLeaf (Reference : Type) := String × Reference

/-- The subscriptions are a history, and the signals are kept by their path. -/
structure Subscribed (Reference : Type) where
  subscriptions : List (SignalLeaf Reference) := []
  signals : KeyedMap String Reference := ∅

def Subscribed.add (subscribed : Subscribed Reference) (leaf : SignalLeaf Reference) : Subscribed Reference :=
  ⟨subscribed.subscriptions ++ [leaf], subscribed.signals.insert leaf.1 leaf.2⟩

/-- A data point is compared with every filter, and a model is walked in turn. -/
def visitChild (heap : Heap Reference) (filters : List String) (fuel : Nat)
    (recurse : Reference → Subscribed Reference → Option (Subscribed Reference))
    (subscribed : Subscribed Reference) (child : String × Attribute Reference) :
    Option (Subscribed Reference) :=
  if child.1 = "parent" then some subscribed
  else
    match child.2 with
    | .object attr =>
        match (heap attr).base with
        | .dataPoint =>
            (getPath heap fuel attr).map fun path =>
              if filters.any (startswith path) then subscribed.add (path, attr) else subscribed
        | .model => recurse attr subscribed
        | .other => some subscribed
    | _ => some subscribed

/-- The fuel bounds the depth of the calls, and another one the loop over the parents. -/
def recursiveSubscribe (heap : Heap Reference) (filters : List String) (pathFuel : Nat) :
    Nat → Reference → Subscribed Reference → Option (Subscribed Reference)
  | 0, _, _ => none
  | fuel + 1, root, subscribed =>
      (heap root).attributes.foldlM
        (visitChild heap filters pathFuel (recursiveSubscribe heap filters pathFuel fuel)) subscribed

/-- The setting is a list of prefixes or one text. -/
inductive VssSignals where
  | list (prefixes : List String)
  | text (value : String)

/-- The iteration over a text gives its characters. -/
def VssSignals.filters : VssSignals → List String
  | .list prefixes => prefixes
  | .text value => value.toList.map String.singleton

def defaultVssSignals : String := "No VSS signal filters set "

/-- The command line comes before the file, and the file before the default text. -/
def loadVssSignals (content : Option VssSignals) (argument : Option String) : VssSignals :=
  match argument with
  | some value => .text value
  | none => content.getD (.text defaultVssSignals)

/-- The walk starts at the vehicle. -/
def onStart (heap : Heap Reference) (content : Option VssSignals) (argument : Option String) (fuel : Nat)
    (root : Reference) : Option (Subscribed Reference) :=
  recursiveSubscribe heap (loadVssSignals content argument).filters fuel fuel root {}

/-- The names from the root lead to the node. -/
inductive Upward (heap : Heap Reference) : Reference → List String → Prop where
  | root {node : Reference} {name : String} (named : heap.name node = some name)
      (top : heap.parent node = some none) : Upward heap node [name]
  | child {node parent : Reference} {name : String} {path : List String} (named : heap.name node = some name)
      (linked : heap.parent node = some (some parent)) (above : Upward heap parent path) :
      Upward heap node (path ++ [name])

/-- The attributes of a model span a finite tree with these leaves in order.
Each node below the model has a link back to its parent. -/
inductive Spans (heap : Heap Reference) :
    List String → Reference → List (String × Attribute Reference) → List (SignalLeaf Reference) → Prop where
  | nil {path : List String} {self : Reference} : Spans heap path self [] []
  | parent {path : List String} {self : Reference} {attr : Attribute Reference}
      {attributes : List (String × Attribute Reference)} {leaves : List (SignalLeaf Reference)}
      (rest : Spans heap path self attributes leaves) :
      Spans heap path self (("parent", attr) :: attributes) leaves
  | plain {path : List String} {self : Reference} {key : String} {attr : Attribute Reference}
      {attributes : List (String × Attribute Reference)} {leaves : List (SignalLeaf Reference)}
      (own : key ≠ "parent") (noNode : ∀ reference, attr = .object reference → (heap reference).base = .other)
      (rest : Spans heap path self attributes leaves) :
      Spans heap path self ((key, attr) :: attributes) leaves
  | leaf {path : List String} {self reference : Reference} {key name : String}
      {attributes : List (String × Attribute Reference)} {leaves : List (SignalLeaf Reference)}
      (own : key ≠ "parent") (point : (heap reference).base = .dataPoint)
      (named : heap.name reference = some name) (linked : heap.parent reference = some (some self))
      (rest : Spans heap path self attributes leaves) :
      Spans heap path self ((key, .object reference) :: attributes)
        ((".".intercalate (path ++ [name]), reference) :: leaves)
  | model {path : List String} {self reference : Reference} {key name : String}
      {attributes : List (String × Attribute Reference)} {inner leaves : List (SignalLeaf Reference)}
      (own : key ≠ "parent") (branch : (heap reference).base = .model)
      (named : heap.name reference = some name) (linked : heap.parent reference = some (some self))
      (below : Spans heap (path ++ [name]) reference (heap reference).attributes inner)
      (rest : Spans heap path self attributes leaves) :
      Spans heap path self ((key, .object reference) :: attributes) (inner ++ leaves)

/-- The vehicle is the root of a tree whose leaves have distinct paths. -/
structure VehicleTree (heap : Heap Reference) (root : Reference) (leaves : List (SignalLeaf Reference)) :
    Prop where
  tree : ∃ name, heap.name root = some name ∧ heap.parent root = some none ∧
    Spans heap [name] root (heap root).attributes leaves
  distinct : (leaves.map Prod.fst).Nodup

/-- A leaf is subscribed when a filter is a prefix of its path. -/
def subscribeLeaf (filters : List String) (subscribed : Subscribed Reference) (leaf : SignalLeaf Reference) :
    Subscribed Reference :=
  if filters.any (startswith leaf.1) then subscribed.add leaf else subscribed

section Walk

variable {heap : Heap Reference} (filters : List String)

theorem pathFrom_upward {node : Reference} {path : List String} (upward : Upward heap node path) {fuel : Nat}
    (enough : path.length < fuel) (below : List String) :
    pathFrom heap fuel (some node) below = some (path ++ below) := by
  induction upward generalizing fuel below with
  | root named top =>
      obtain ⟨rest, rfl⟩ := Nat.exists_eq_add_of_le enough
      rw [List.length_singleton, Nat.add_comm]
      simp [pathFrom, named, top]
  | child named linked above ih =>
      cases fuel with
      | zero => cases enough
      | succ fuel =>
          rw [List.length_append, List.length_singleton] at enough
          simp only [pathFrom, named, linked, Option.bind_eq_bind, Option.bind_some]
          rw [ih (by omega), List.append_assoc]
          rfl

theorem getPath_child {self reference : Reference} {path : List String} {name : String}
    (upward : Upward heap self path) (named : heap.name reference = some name)
    (linked : heap.parent reference = some (some self)) {fuel : Nat} (enough : path.length < fuel) :
    getPath heap fuel reference = some (".".intercalate (path ++ [name])) := by
  simp only [getPath, named, linked, Option.bind_eq_bind, Option.bind_some,
    pathFrom_upward upward enough]
  rfl

/-- With enough fuel the walk ends, and it subscribes the leaves in order. -/
theorem walk_spans {path : List String} {self : Reference}
    {attributes : List (String × Attribute Reference)} {leaves : List (SignalLeaf Reference)}
    (spans : Spans heap path self attributes leaves) (upward : Upward heap self path) :
    ∃ bound, ∀ pathFuel, bound ≤ pathFuel → ∀ fuel, bound ≤ fuel → ∀ subscribed,
      attributes.foldlM (visitChild heap filters pathFuel (recursiveSubscribe heap filters pathFuel fuel))
        subscribed = some (leaves.foldl (subscribeLeaf filters) subscribed) := by
  induction spans with
  | nil => exact ⟨0, fun _ _ _ _ _ => rfl⟩
  | parent rest ih =>
      obtain ⟨bound, walked⟩ := ih upward
      refine ⟨bound, fun pathFuel deep fuel enough subscribed => ?_⟩
      rw [List.foldlM_cons, visitChild, if_pos rfl]
      exact walked pathFuel deep fuel enough subscribed
  | @plain path self key attr attributes leaves own noNode rest ih =>
      obtain ⟨bound, walked⟩ := ih upward
      refine ⟨bound, fun pathFuel deep fuel enough subscribed => ?_⟩
      have skipped : visitChild heap filters pathFuel (recursiveSubscribe heap filters pathFuel fuel)
          subscribed (key, attr) = some subscribed := by
        rw [visitChild, if_neg own]
        cases attr with
        | none => rfl
        | text value => rfl
        | object reference => simp only [noNode reference rfl]
      rw [List.foldlM_cons, skipped]
      exact walked pathFuel deep fuel enough subscribed
  | @leaf path self reference key name attributes leaves own point named linked rest ih =>
      obtain ⟨bound, walked⟩ := ih upward
      refine ⟨max bound (path.length + 1), fun pathFuel deep fuel enough subscribed => ?_⟩
      have found := getPath_child upward named linked (Nat.lt_of_succ_le ((Nat.le_max_right _ _).trans deep))
      have visited : visitChild heap filters pathFuel (recursiveSubscribe heap filters pathFuel fuel)
          subscribed (key, .object reference) =
          some (subscribeLeaf filters subscribed (".".intercalate (path ++ [name]), reference)) := by
        rw [visitChild, if_neg own]
        simp only [point, found, Option.map_some]
        rfl
      rw [List.foldlM_cons, visited, List.foldl_cons]
      exact walked pathFuel ((Nat.le_max_left _ _).trans deep) fuel ((Nat.le_max_left _ _).trans enough) _
  | @model path self reference key name attributes inner leaves own branch named linked below rest ihBelow
      ihRest =>
      obtain ⟨depth, descended⟩ := ihBelow (.child named linked upward)
      obtain ⟨bound, walked⟩ := ihRest upward
      refine ⟨max bound (depth + 1), fun pathFuel deep fuel enough subscribed => ?_⟩
      have recursed : recursiveSubscribe heap filters pathFuel fuel reference subscribed =
          some (inner.foldl (subscribeLeaf filters) subscribed) := by
        cases fuel with
        | zero => omega
        | succ fuel =>
            rw [recursiveSubscribe]
            exact descended pathFuel (by omega) fuel (by omega) subscribed
      have visited : visitChild heap filters pathFuel (recursiveSubscribe heap filters pathFuel fuel)
          subscribed (key, .object reference) = some (inner.foldl (subscribeLeaf filters) subscribed) := by
        rw [visitChild, if_neg own]
        simp only [branch, recursed]
      rw [List.foldlM_cons, visited, List.foldl_append]
      exact walked pathFuel (by omega) fuel (by omega) _

end Walk

/-- The walk over a vehicle ends and subscribes its leaves in order. -/
theorem onStart_leaves {heap : Heap Reference} {root : Reference} {leaves : List (SignalLeaf Reference)}
    (vehicle : VehicleTree heap root leaves) (content : Option VssSignals) (argument : Option String) :
    ∃ bound, ∀ fuel, bound ≤ fuel → onStart heap content argument fuel root =
      some (leaves.foldl (subscribeLeaf (loadVssSignals content argument).filters) {}) := by
  obtain ⟨name, named, top, spans⟩ := vehicle.tree
  obtain ⟨bound, walked⟩ := walk_spans (loadVssSignals content argument).filters spans (.root named top)
  refine ⟨bound + 1, fun fuel enough => ?_⟩
  cases fuel with
  | zero => omega
  | succ fuel =>
      rw [onStart, recursiveSubscribe]
      exact walked (fuel + 1) (by omega) fuel (by omega) {}

/-- A leaf is configured when one of the prefixes starts its path. -/
def Configured (prefixes : List String) (path : String) : Prop :=
  ∃ start ∈ prefixes, start.toList <+: path.toList

/-- A text is meant as one prefix, and a missing key as none. -/
def configuredPrefixes (content : Option VssSignals) (argument : Option String) : List String :=
  match argument, content with
  | some value, _ => [value]
  | none, some (.list prefixes) => prefixes
  | none, some (.text value) => [value]
  | none, none => []

/-- Each configured leaf is subscribed once and recorded under its path, and nothing else is subscribed. -/
def SubscribesConfigured [DecidableEq Reference] (prefixes : List String)
    (leaves : List (SignalLeaf Reference)) (subscribed : Subscribed Reference) : Prop :=
  (∀ leaf ∈ leaves, Configured prefixes leaf.1 →
      subscribed.subscriptions.count leaf = 1 ∧ subscribed.signals.lookup leaf.1 = some leaf.2) ∧
    ∀ leaf ∈ subscribed.subscriptions, leaf ∈ leaves ∧ Configured prefixes leaf.1

/-- The path starts with one of the characters of the text. -/
def StartsInside (text path : String) : Prop := ∃ letter ∈ text.toList, path.toList.head? = some letter

/-- A list is always right, and a text is right when its characters select the same leaves as the whole text.
The default text must select none. -/
def FiltersAgree (leaves : List (SignalLeaf Reference)) (content : Option VssSignals)
    (argument : Option String) : Prop :=
  match argument, content with
  | some value, _ => ∀ leaf ∈ leaves, StartsInside value leaf.1 ↔ value.toList <+: leaf.1.toList
  | none, some (.list _) => True
  | none, some (.text value) => ∀ leaf ∈ leaves, StartsInside value leaf.1 ↔ value.toList <+: leaf.1.toList
  | none, none => ∀ leaf ∈ leaves, ¬ StartsInside defaultVssSignals leaf.1

section Result

variable (filters : List String) (leaves : List (SignalLeaf Reference))

theorem foldl_add_subscriptions (subscribed : Subscribed Reference) :
    (leaves.foldl Subscribed.add subscribed).subscriptions = subscribed.subscriptions ++ leaves := by
  induction leaves generalizing subscribed with
  | nil => simp
  | cons leaf leaves ih =>
      rw [List.foldl_cons, ih]
      simp [Subscribed.add]

theorem foldl_add_signals (path : String) :
    (leaves.foldl Subscribed.add {}).signals.lookup path =
      (lastWrite Prod.fst leaves path).elim none fun leaf => some leaf.2 := by
  apply observe_writes fun subscribed : Subscribed Reference => subscribed.signals.lookup path
  · rintro leaf _ rfl subscribed
    exact AList.lookup_insert _
  · intro leaf _ other subscribed
    exact AList.lookup_insert_ne (Ne.symm other)

/-- The leaves that match a filter are subscribed in their order. -/
theorem foldl_subscribeLeaf :
    leaves.foldl (subscribeLeaf filters) {} =
      (leaves.filter fun leaf => filters.any (startswith leaf.1)).foldl Subscribed.add {} := by
  rw [List.foldl_filter]
  rfl

variable {leaves} [DecidableEq Reference] (distinct : (leaves.map Prod.fst).Nodup)

include distinct

/-- The walk subscribes the configured leaves exactly when the filters match the configured leaves. -/
theorem subscribesConfigured_iff (prefixes : List String) :
    SubscribesConfigured prefixes leaves (leaves.foldl (subscribeLeaf filters) {}) ↔
      ∀ leaf ∈ leaves, filters.any (startswith leaf.1) = true ↔ Configured prefixes leaf.1 := by
  have subscriptions : (leaves.foldl (subscribeLeaf filters) {}).subscriptions =
      leaves.filter fun leaf => filters.any (startswith leaf.1) := by
    rw [foldl_subscribeLeaf, foldl_add_subscriptions]
    rfl
  unfold SubscribesConfigured
  rw [subscriptions]
  constructor
  · rintro ⟨once, only⟩ leaf member
    constructor
    · intro hit
      exact (only leaf (List.mem_filter.mpr ⟨member, hit⟩)).2
    · intro configured
      have counted := (once leaf member configured).1
      have subscribed := List.count_pos_iff.mp (by rw [counted]; exact Nat.one_pos)
      exact (List.mem_filter.mp subscribed).2
  · intro same
    constructor
    · intro leaf member configured
      have hit := (same leaf member).mpr configured
      have subscribed : leaf ∈ leaves.filter fun leaf => filters.any (startswith leaf.1) :=
        List.mem_filter.mpr ⟨member, hit⟩
      have unique := (List.Nodup.of_map Prod.fst distinct).filter fun leaf => filters.any (startswith leaf.1)
      refine ⟨List.count_eq_one_of_mem unique subscribed, ?_⟩
      rw [foldl_subscribeLeaf, foldl_add_signals]
      cases last : lastWrite Prod.fst (leaves.filter fun leaf => filters.any (startswith leaf.1)) leaf.1 with
      | none => exact absurd rfl (lastWrite_eq_none.mp last leaf subscribed)
      | some other =>
          obtain ⟨recorded, samePath⟩ := mem_of_lastWrite last
          have equal : other = leaf :=
            List.inj_on_of_nodup_map distinct (List.mem_filter.mp recorded).1 member samePath
          rw [equal]
          rfl
    · intro leaf subscribed
      obtain ⟨member, hit⟩ := List.mem_filter.mp subscribed
      exact ⟨member, (same leaf member).mp hit⟩

end Result

theorem any_list (prefixes : List String) (path : String) :
    (VssSignals.list prefixes).filters.any (startswith path) = true ↔ Configured prefixes path := by
  simp [VssSignals.filters, startswith, Configured]

theorem any_text (value path : String) :
    (VssSignals.text value).filters.any (startswith path) = true ↔ StartsInside value path := by
  have single : ∀ letter : Char, startswith path (String.singleton letter) = true ↔
      path.toList.head? = some letter := by
    intro letter
    unfold startswith
    rw [String.toList_singleton]
    cases path.toList with
    | nil => simp
    | cons first rest =>
        simp only [List.isPrefixOf, Bool.and_true, beq_iff_eq, List.head?_cons, Option.some.injEq]
        exact eq_comm
  simp only [VssSignals.filters, List.any_map, List.any_eq_true, Function.comp, single]
  rfl

/-- The walk ends, and it subscribes exactly the configured leaves when the filters agree with them. -/
theorem configured_signals_are_subscribed [DecidableEq Reference] {heap : Heap Reference} {root : Reference}
    {leaves : List (SignalLeaf Reference)} (vehicle : VehicleTree heap root leaves)
    (content : Option VssSignals) (argument : Option String) :
    ∃ bound subscribed, (∀ fuel, bound ≤ fuel → onStart heap content argument fuel root = some subscribed) ∧
      (SubscribesConfigured (configuredPrefixes content argument) leaves subscribed ↔
        FiltersAgree leaves content argument) := by
  obtain ⟨bound, walked⟩ := onStart_leaves vehicle content argument
  refine ⟨bound, _, walked, ?_⟩
  rw [subscribesConfigured_iff _ vehicle.distinct]
  have texts : ∀ value : String,
      (∀ leaf ∈ leaves, (VssSignals.text value).filters.any (startswith leaf.1) = true ↔
        Configured [value] leaf.1) ↔
      ∀ leaf ∈ leaves, StartsInside value leaf.1 ↔ value.toList <+: leaf.1.toList := by
    intro value
    simp only [any_text, Configured, List.mem_singleton, exists_eq_left]
  cases argument with
  | some value => exact texts value
  | none =>
      cases content with
      | none =>
          have selects : ∀ path, (VssSignals.text defaultVssSignals).filters.any (startswith path) = true ↔
              StartsInside defaultVssSignals path := any_text defaultVssSignals
          simp only [loadVssSignals, Option.getD_none, configuredPrefixes, FiltersAgree, selects, Configured,
            List.not_mem_nil, false_and, exists_false, iff_false]
      | some setting =>
          cases setting with
          | list prefixes => exact iff_of_true (fun leaf _ => any_list prefixes leaf.1) trivial
          | text value => exact texts value

/-- This is a vehicle with one signal of its own and one of its body. -/
def smallVehicle : Heap Nat
  | 0 => ⟨.model, [("name", .text "Vehicle"), ("parent", .none), ("Speed", .object 1), ("Body", .object 2)]⟩
  | 1 => ⟨.dataPoint, [("name", .text "Speed"), ("parent", .object 0)]⟩
  | 2 => ⟨.model, [("name", .text "Body"), ("parent", .object 0), ("IsLocked", .object 3)]⟩
  | 3 => ⟨.dataPoint, [("name", .text "IsLocked"), ("parent", .object 2)]⟩
  | _ => ⟨.other, []⟩

def smallLeaves : List (SignalLeaf Nat) :=
  [(".".intercalate ["Vehicle", "Speed"], 1), (".".intercalate ["Vehicle", "Body", "IsLocked"], 3)]

theorem vehicleTree_small : VehicleTree smallVehicle 0 smallLeaves where
  tree := by
    have text : ∀ (value : String) (reference : Nat), Attribute.text value = .object reference →
        (smallVehicle reference).base = .other := fun _ _ object => by cases object
    have body : Spans smallVehicle ["Vehicle", "Body"] 2 (smallVehicle 2).attributes
        [(".".intercalate ["Vehicle", "Body", "IsLocked"], 3)] :=
      .plain (by decide) (text "Body") (.parent (.leaf (by decide) rfl rfl rfl .nil))
    have branch : Spans smallVehicle ["Vehicle"] 0 [("Body", .object 2)]
        ([(".".intercalate ["Vehicle", "Body", "IsLocked"], 3)] ++ []) :=
      .model (by decide) rfl rfl rfl body .nil
    have signals : Spans smallVehicle ["Vehicle"] 0 [("Speed", .object 1), ("Body", .object 2)] smallLeaves :=
      .leaf (by decide) rfl rfl rfl branch
    have root : Spans smallVehicle ["Vehicle"] 0 (smallVehicle 0).attributes smallLeaves :=
      .plain (by decide) (text "Vehicle") (.parent signals)
    exact ⟨"Vehicle", rfl, rfl, root⟩
  distinct := by decide

/-- A list with the prefix of the body subscribes the signal of the body. -/
theorem configured_signals_are_subscribed_body :
    ∃ bound subscribed, (∀ fuel, bound ≤ fuel →
        onStart smallVehicle (some (.list ["Vehicle.Body"])) none fuel 0 = some subscribed) ∧
      SubscribesConfigured ["Vehicle.Body"] smallLeaves subscribed := by
  obtain ⟨bound, subscribed, walked, agreement⟩ :=
    configured_signals_are_subscribed vehicleTree_small (some (.list ["Vehicle.Body"])) none
  exact ⟨bound, subscribed, walked, agreement.mpr trivial⟩

/-- The same prefix as a text subscribes the other signal as well. -/
theorem single_prefix_subscribes_all :
    ¬ ∃ bound subscribed, (∀ fuel, bound ≤ fuel →
        onStart smallVehicle (some (.text "Vehicle.Body")) none fuel 0 = some subscribed) ∧
      SubscribesConfigured ["Vehicle.Body"] smallLeaves subscribed := by
  rintro ⟨bound, subscribed, walked, configured⟩
  obtain ⟨other, leaves⟩ := onStart_leaves vehicleTree_small (some (.text "Vehicle.Body")) none
  have result := (walked (max bound other) (Nat.le_max_left _ _)).symm.trans
    (leaves (max bound other) (Nat.le_max_right _ _))
  rw [Option.some.inj result, subscribesConfigured_iff _ vehicleTree_small.distinct] at configured
  have speed := (configured _ List.mem_cons_self).mp (by decide)
  unfold Configured at speed
  revert speed
  decide

end VehicleEdge.Cloud
