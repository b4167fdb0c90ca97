import Pybrid.Proxy.MessageHandlers

/-! How the proxy takes a configuration apart for its backends. -/

namespace Pybrid.ConfigRouting

/-- An item of a module, with the path of the entity it is for. -/
structure Item (β : Type) where
  path : String
  content : β
  deriving DecidableEq, Repr

/-- A backend, as far as its part of a configuration is concerned. -/
structure Backend where
  host : String
  /-- The control channel exists and its transport is connected. -/
  connected : Bool
  /-- The paths of its carriers, without a leading slash. -/
  carrierPaths : List (List Char)
  deriving DecidableEq, Repr

/-- The command that a backend gets. -/
structure ConfigCommand (β : Type) where
  module : List (Item β)
  resetBefore : Bool
  shKludge : Bool
  deriving DecidableEq, Repr

/-- The modules for the backends, by their indices, and the paths that are for none. -/
structure Routing (β : Type) where
  perBackend : AList fun _ : Nat => List (Item β)
  unroutablePaths : List String

/-- What is sent to the backends, by their indices, and answered to the client. -/
structure Outcome (β : Type) where
  sent : List (Nat × ConfigCommand β)
  reply : ReplyPayload
  deriving DecidableEq, Repr

variable {β : Type}

/-- The backend of each carrier path; a path that is assigned again is found with its last one. -/
def pathToBackend (backends : List Backend) : List (List Char × Nat) :=
  (backends.zipIdx.flatMap fun entry => entry.1.carrierPaths.map fun path => (path, entry.2)).reverse

/-- The part of a path before any slash, not counting one in front. -/
def firstSegment (path : String) : List Char :=
  let chars := path.toList
  let stripped := if chars.head? = some '/' then chars.tail else chars
  stripped.takeWhile (· ≠ '/')

/-- The backend that a path is for. -/
def findBackendForPath (backends : List Backend) (path : String) : Option Nat :=
  if path = "" then none else (pathToBackend backends).lookup (firstSegment path)

/-- Add an item to the module of a backend, which starts out empty. -/
def addItem (item : Item β) (perBackend : AList fun _ : Nat => List (Item β)) (backend : Nat) :
    AList fun _ : Nat => List (Item β) :=
  perBackend.insert backend ((perBackend.lookup backend).getD [] ++ [item])

/-- Route one item. -/
def routeItem (backends : List Backend) (routing : Routing β) (item : Item β) : Routing β :=
  -- Items without a path are settings for everybody.
  if item.path = "" then
    { routing with
      perBackend := (List.range backends.length).foldl (addItem item) routing.perBackend }
  else
    match findBackendForPath backends item.path with
    | none => { routing with unroutablePaths := routing.unroutablePaths ++ [item.path] }
    | some backend => { routing with perBackend := addItem item routing.perBackend backend }

/-- Route all items of a module. -/
def route (backends : List Backend) (module : List (Item β)) : Routing β :=
  module.foldl (routeItem backends) ⟨∅, []⟩

/-- The error of the last backend that is not connected. -/
def dispatchError (backends : List Backend) (targets : List Nat) : Option String :=
  targets.foldl (fun error target =>
    match backends[target]? with
    | some backend =>
      if backend.connected then error else some ("Backend " ++ backend.host ++ " not connected!")
    | none => error) none

/-- The command for each target that is connected. -/
def dispatch (backends : List Backend) (request : Nat → ConfigCommand β) (targets : List Nat) :
    List (Nat × ConfigCommand β) :=
  targets.filterMap fun target =>
    match backends[target]? with
    | some backend => if backend.connected then some (target, request target) else none
    | none => none

/-- The first error there is, that of the dispatch before those of the answers. -/
def collectError (answers : Nat → Except String (Option String)) (error : Option String)
    (sent : List (Nat × ConfigCommand β)) : Option String :=
  sent.foldl (fun error task =>
    match error, answers task.1 with
    | some error, _ => some error
    | none, .ok error => error
    | none, .error text => some text) error

/--
Handle a configuration.

The modules are iterated in an order of their own, and every backend answers with an error, with
none, or not at all.
-/
def handleConfig (backends : List Backend) (module : List (Item β)) (resetBefore shKludge : Bool)
    (order : List Nat → List Nat) (answers : Nat → Except String (Option String)) : Outcome β :=
  let routing := route backends module
  -- A configuration is rejected as a whole.
  if routing.unroutablePaths ≠ [] then
    ⟨[], .errorMessage ("Config rejected — no backend found for entity path(s): " ++
      String.intercalate ", " routing.unroutablePaths)⟩
  else
    let targets := order routing.perBackend.keys
    let request (backend : Nat) : ConfigCommand β :=
      ⟨(routing.perBackend.lookup backend).getD [], resetBefore, shKludge⟩
    let sent := dispatch backends request targets
    match collectError answers (dispatchError backends targets) sent with
    | some error => ⟨sent, .errorMessage error⟩
    | none => ⟨sent, .configResponse⟩

/-- A backend has a carrier with this path. -/
def Owns (backends : List Backend) (index : Nat) (path : List Char) : Prop :=
  ∃ backend, backends[index]? = some backend ∧ path ∈ backend.carrierPaths

/-- No two backends have a carrier path in common. -/
def DisjointPaths (backends : List Backend) : Prop :=
  ∀ first second path, Owns backends first path → Owns backends second path → first = second

/-- The table has the paths of all backends. -/
theorem mem_pathToBackend {backends : List Backend} {path : List Char} {index : Nat} :
    (path, index) ∈ pathToBackend backends ↔ Owns backends index path := by
  simp only [pathToBackend, List.mem_reverse, List.mem_flatMap, List.mem_map, Prod.mk.injEq, Owns]
  -- The number of a backend is its position in the list.
  constructor
  · rintro ⟨entry, listed, _, member, rfl, rfl⟩
    exact ⟨entry.1, List.mem_zipIdx_iff_getElem?.mp listed, member⟩
  · rintro ⟨backend, found, member⟩
    exact ⟨(backend, index), List.mem_zipIdx_iff_getElem?.mpr found, path, member, rfl, rfl⟩

/-- A path without an owner has no backend. -/
theorem findBackendForPath_eq_none {backends : List Backend} {path : String} (filled : path ≠ "") :
    findBackendForPath backends path = none ↔
      ∀ index, ¬ Owns backends index (firstSegment path) := by
  rw [findBackendForPath, if_neg filled, List.lookup_eq_none_iff]
  -- The table has one entry for every path of every backend.
  constructor
  · intro absent index owns
    simpa using absent _ (mem_pathToBackend.mpr owns)
  · intro unowned entry member
    rw [bne_iff_ne]
    intro same
    exact unowned entry.2 (mem_pathToBackend.mp (same ▸ member))

/-- A path is for the backend that owns it. -/
theorem findBackendForPath_eq_some {backends : List Backend} (disjoint : DisjointPaths backends)
    {path : String} (filled : path ≠ "") {index : Nat} :
    findBackendForPath backends path = some index ↔ Owns backends index (firstSegment path) := by
  have owned : ∀ other, findBackendForPath backends path = some other →
      Owns backends other (firstSegment path) := by
    intro other found
    rw [findBackendForPath, if_neg filled, List.lookup_eq_some_iff] at found
    obtain ⟨before, after, split, _⟩ := found
    rw [← mem_pathToBackend, split]
    simp
  constructor
  · exact owned index
  · -- Some backend is found, and it can be no other than the owner.
    intro owns
    cases found : findBackendForPath backends path with
    | none => exact absurd owns ((findBackendForPath_eq_none filled).mp found index)
    | some other => rw [disjoint other index _ (owned other found) owns]

/-- The item is for the backend: by its path, or because it is for all of them. -/
def isFor (backends : List Backend) (index : Nat) (item : Item β) : Bool :=
  if item.path = "" then decide (index < backends.length)
  else findBackendForPath backends item.path == some index

/-- The item is for no backend. -/
def isUnroutable (backends : List Backend) (item : Item β) : Bool :=
  item.path ≠ "" && (findBackendForPath backends item.path).isNone

/-- Adding an item concerns the module of one backend. -/
theorem lookup_addItem (item : Item β) (perBackend : AList fun _ : Nat => List (Item β))
    (backend other : Nat) :
    (addItem item perBackend backend).lookup other =
      if other = backend then some ((perBackend.lookup other).getD [] ++ [item])
      else perBackend.lookup other := by
  -- An item is appended for one backend, the others keep their lists.
  by_cases here : other = backend
  · subst here
    rw [addItem, AList.lookup_insert, if_pos rfl]
  · rw [addItem, AList.lookup_insert_ne here, if_neg here]

/-- Adding an item for everybody concerns the modules of all backends. -/
theorem lookup_addItem_all (item : Item β) (perBackend : AList fun _ : Nat => List (Item β))
    (count other : Nat) :
    ((List.range count).foldl (addItem item) perBackend).lookup other =
      if other < count then some ((perBackend.lookup other).getD [] ++ [item])
      else perBackend.lookup other := by
  -- The induction is on the number of backends.
  induction count with
  | zero => simp
  | succ count ih =>
    rw [List.range_succ, List.foldl_append, List.foldl_cons, List.foldl_nil, lookup_addItem, ih]
    by_cases here : other = count
    · subst here
      simp
    · have still : other < count + 1 ↔ other < count := by omega
      simp [here, still]

/-- The modules hold the items that are for their backends, and the other paths are unroutable. -/
structure Routed (backends : List Backend) (module : List (Item β)) (routing : Routing β) : Prop where
  modules : ∀ index, routing.perBackend.lookup index =
    if module.filter (isFor backends index) = [] then none
    else some (module.filter (isFor backends index))
  unroutable : routing.unroutablePaths =
    (module.filter (isUnroutable backends)).map Item.path

/-- The module of a backend that has none yet is empty. -/
theorem Routed.module_getD {backends : List Backend} {done : List (Item β)} {routing : Routing β}
    (routed : Routed backends done routing) (index : Nat) :
    (routing.perBackend.lookup index).getD [] = done.filter (isFor backends index) := by
  rw [routed.modules]
  split
  -- A backend without items has no module of its own.
  case isTrue empty => exact empty.symm
  case isFalse => rfl

/-- The modules after one more item, if the item was added where it is for. -/
theorem Routed.added {backends : List Backend} {done : List (Item β)} {routing : Routing β}
    (routed : Routed backends done routing) {item : Item β}
    {perBackend : AList fun _ : Nat => List (Item β)}
    (added : ∀ index, perBackend.lookup index = if isFor backends index item = true then
      some ((routing.perBackend.lookup index).getD [] ++ [item])
      else routing.perBackend.lookup index)
    (routable : isUnroutable backends item = false) :
    Routed backends (done ++ [item]) { routing with perBackend := perBackend } where
  modules index := by
    rw [added, routed.module_getD, List.filter_append]
    -- The item comes last in the modules of its backends.
    cases here : isFor backends index item with
    | true => simp [here]
    | false => simpa [here] using routed.modules index
  unroutable := by
    rw [List.filter_append]
    simpa [routable] using routed.unroutable

/-- Routing one more item. -/
theorem Routed.item {backends : List Backend} {done : List (Item β)} {routing : Routing β}
    (routed : Routed backends done routing) (item : Item β) :
    Routed backends (done ++ [item]) (routeItem backends routing item) := by
  rw [routeItem]
  by_cases global : item.path = ""
  · rw [if_pos global]
    apply routed.added
    · intro index
      rw [lookup_addItem_all]
      simp [isFor, global]
    · simp [isUnroutable, global]
  · rw [if_neg global]
    cases found : findBackendForPath backends item.path with
    | none =>
      -- No module changes, and the path is reported.
      constructor
      · intro index
        have other : isFor backends index item = false := by simp [isFor, global, found]
        rw [List.filter_append]
        simpa [other] using routed.modules index
      · have reported : isUnroutable backends item = true := by
          simp [isUnroutable, global, found]
        rw [List.filter_append]
        simp [reported, routed.unroutable]
    | some backend =>
      apply routed.added
      · intro index
        have here : isFor backends index item = true ↔ index = backend := by
          simp only [isFor, if_neg global, found, beq_iff_eq, Option.some.injEq]
          exact eq_comm
        rw [lookup_addItem]
        simp only [here]
      · simp [isUnroutable, global, found]

/-- All items of a module are routed. -/
theorem route_routed (backends : List Backend) (module : List (Item β)) :
    Routed backends module (route backends module) := by
  -- The induction is on the items from the back, as the last one is routed last.
  induction module using List.reverseRecOn with
  | nil => exact ⟨fun _ => rfl, rfl⟩
  | append_singleton done item ih =>
    rw [route, List.foldl_append]
    exact ih.item item

/-- A backend that is dispatched to gets its request once. -/
theorem dispatch_filter {backends : List Backend} {index : Nat} {backend : Backend}
    (found : backends[index]? = some backend) (request : Nat → ConfigCommand β) :
    ∀ {targets : List Nat}, targets.Nodup →
      ((dispatch backends request targets).filter fun task => task.1 = index) =
        if index ∈ targets ∧ backend.connected = true then [(index, request index)] else [] := by
  intro targets
  -- The induction is on the targets still to be dispatched to.
  induction targets with
  | nil => intro _; rfl
  | cons target later ih =>
    intro nodup
    obtain ⟨fresh, nodup⟩ := List.nodup_cons.mp nodup
    have rest := ih nodup
    by_cases here : target = index
    · subst here
      cases up : backend.connected with
      | true => simpa [dispatch, found, up, fresh] using rest
      | false => simpa [dispatch, found, up, fresh] using rest
    · -- What another backend gets is not looked at.
      have apart : index ∈ target :: later ↔ index ∈ later := by simp [Ne.symm here]
      rw [if_congr (and_congr_left' apart) rfl rfl, ← rest, dispatch, List.filterMap_cons, ← dispatch]
      cases there : backends[target]? with
      | none => rfl
      | some other => cases up : other.connected <;> simp [here, up]

/-- Only backends that there are get anything. -/
theorem dispatch_inside {backends : List Backend} {request : Nat → ConfigCommand β}
    {targets : List Nat} {task : Nat × ConfigCommand β}
    (sent : task ∈ dispatch backends request targets) : task.1 < backends.length := by
  obtain ⟨target, _, dispatched⟩ := List.mem_filterMap.mp sent
  -- A target without a backend, or an unhealthy one, gets nothing.
  split at dispatched
  case h_1 backend found =>
    split at dispatched
    case isTrue =>
      cases dispatched
      exact (List.getElem?_eq_some_iff.mp found).1
    case isFalse => cases dispatched
  case h_2 => cases dispatched

/-- The items that are for a backend are its own and those for everybody. -/
theorem isFor_eq {backends : List Backend} (disjoint : DisjointPaths backends) {index : Nat}
    {backend : Backend} (found : backends[index]? = some backend) (item : Item β) :
    isFor backends index item =
      decide (item.path = "" ∨ firstSegment item.path ∈ backend.carrierPaths) := by
  rw [isFor]
  -- An item without a path is for every backend.
  by_cases global : item.path = ""
  · simp [global, (List.getElem?_eq_some_iff.mp found).1]
  · rw [if_neg global, Bool.eq_iff_iff, beq_iff_eq, decide_eq_true_eq,
      findBackendForPath_eq_some disjoint global, or_iff_right global]
    constructor
    · rintro ⟨other, same, member⟩
      rw [found, Option.some.injEq] at same
      exact same ▸ member
    · exact fun member => ⟨backend, found, member⟩

/-- There are unroutable paths exactly if an item has a path that no backend owns. -/
theorem unroutable_iff (backends : List Backend) (module : List (Item β)) :
    (route backends module).unroutablePaths ≠ [] ↔
      ∃ item ∈ module, item.path ≠ "" ∧ ∀ index, ¬ Owns backends index (firstSegment item.path) := by
  rw [(route_routed backends module).unroutable, ne_eq, List.map_eq_nil_iff, List.filter_eq_nil_iff]
  simp only [isUnroutable, not_forall, not_not, Bool.and_eq_true, decide_eq_true_eq,
    Option.isNone_iff_eq_none, exists_prop]
  -- A path is unroutable exactly if nobody owns its first segment.
  refine exists_congr fun item => and_congr_right fun _ => ?_
  constructor
  · rintro ⟨filled, unowned⟩
    exact ⟨filled, (findBackendForPath_eq_none filled).mp unowned⟩
  · rintro ⟨filled, unowned⟩
    exact ⟨filled, (findBackendForPath_eq_none filled).mpr unowned⟩

/-- A configuration that is routed is sent in the parts it was taken apart to. -/
theorem handleConfig_sent {backends : List Backend} {module : List (Item β)}
    (routable : (route backends module).unroutablePaths = []) (resetBefore shKludge : Bool)
    (order : List Nat → List Nat) (answers : Nat → Except String (Option String)) :
    (handleConfig backends module resetBefore shKludge order answers).sent =
      dispatch backends (fun backend => ⟨((route backends module).perBackend.lookup backend).getD [],
        resetBefore, shKludge⟩) (order (route backends module).perBackend.keys) := by
  simp only [handleConfig, routable, ne_eq, not_true_eq_false, if_false]
  split <;> rfl

/-- The items that go to a backend: its own, and those without a path. -/
def part (backend : Backend) (module : List (Item β)) : List (Item β) :=
  module.filter fun item => item.path = "" ∨ firstSegment item.path ∈ backend.carrierPaths

/--
A configuration is rejected as a whole, or taken apart by the owners of its paths.

A backend that is not connected has its part made up, and is not sent anything.
-/
theorem config_routed (backends : List Backend) (disjoint : DisjointPaths backends)
    (module : List (Item β)) (resetBefore shKludge : Bool) (order : List Nat → List Nat)
    (permutes : ∀ keys, (order keys).Perm keys) (answers : Nat → Except String (Option String)) :
    let outcome := handleConfig backends module resetBefore shKludge order answers
    ((∃ item ∈ module, item.path ≠ "" ∧
        ∀ index, ¬ Owns backends index (firstSegment item.path)) →
      outcome.sent = [] ∧ ∃ text, outcome.reply = .errorMessage text) ∧
    ((∀ item ∈ module, item.path ≠ "" → ∃ index, Owns backends index (firstSegment item.path)) →
      (∀ index backend, backends[index]? = some backend →
        (route backends module).perBackend.lookup index =
            (if part backend module = [] then none else some (part backend module)) ∧
          (outcome.sent.filter fun task => task.1 = index) =
            if part backend module ≠ [] ∧ backend.connected = true then
              [(index, ⟨part backend module, resetBefore, shKludge⟩)]
            else []) ∧
      ∀ task ∈ outcome.sent, task.1 < backends.length) := by
  intro outcome
  have routed := route_routed backends module
  constructor
  · -- Rejecting comes before anything is sent.
    intro unowned
    have unroutable := (unroutable_iff backends module).mpr unowned
    have rejected : outcome = ⟨[], _⟩ := if_pos unroutable
    rw [rejected]
    exact ⟨rfl, _, rfl⟩
  · intro owned
    have routable : (route backends module).unroutablePaths = [] := by
      by_contra unroutable
      obtain ⟨item, member, filled, unowned⟩ := (unroutable_iff backends module).mp unroutable
      obtain ⟨index, owns⟩ := owned item member filled
      exact unowned index owns
    have sent := handleConfig_sent routable resetBefore shKludge order answers
    refine ⟨fun index backend found => ?_, fun task member => ?_⟩
    · have own : module.filter (isFor backends index) = part backend module :=
        List.filter_congr fun item _ => isFor_eq disjoint found item
      have modules := routed.modules index
      rw [own] at modules
      refine ⟨modules, ?_⟩
      have nodup : (order (route backends module).perBackend.keys).Nodup :=
        (permutes _).nodup_iff.mpr (AList.keys_nodup _)
      -- A backend is a target exactly if there is something for it.
      have target : index ∈ order (route backends module).perBackend.keys ↔
          part backend module ≠ [] := by
        rw [(permutes _).mem_iff, ← AList.mem_keys, ← AList.lookup_isSome, modules]
        by_cases empty : part backend module = [] <;> simp [empty]
      rw [show outcome.sent = _ from sent, dispatch_filter found _ nodup, routed.module_getD, own]
      exact if_congr (and_congr_left' target) rfl rfl
    · rw [show outcome.sent = _ from sent] at member
      exact dispatch_inside member

/-- Two backends, each with one carrier. -/
def pair : List Backend := [⟨"first", true, [['A']]⟩, ⟨"second", true, [['B']]⟩]

/-- The two backends have different carriers. -/
theorem pair_disjoint : DisjointPaths pair := by
  -- No path is one of the carriers of both.
  have apart : ∀ path, path ∈ [['A']] → path ∉ [['B']] := by
    intro path first second
    rw [List.mem_singleton] at first second
    exact absurd (first.symm.trans second) (by decide)
  rintro (_ | _ | first) (_ | _ | second) path ⟨b, found, member⟩ ⟨b', found', member'⟩
  all_goals simp only [pair, List.getElem?_cons_zero, List.getElem?_cons_succ, List.getElem?_nil,
    Option.some.injEq, reduceCtorEq] at found found'
  · rfl
  · subst found found'
    exact absurd member' (apart path member)
  · subst found found'
    exact absurd member (apart path member')
  · rfl

/-- An item for the first backend and one for everybody are sent to it in their order. -/
theorem config_routed_pair :
    ((handleConfig pair [⟨"/A/0", 1⟩, ⟨"B/0", 2⟩, ⟨"", 3⟩] true false id fun _ => .ok none).sent.filter
      fun task => task.1 = 0) = [(0, ⟨[⟨"/A/0", 1⟩, ⟨"", 3⟩], true, false⟩)] := by
  have routed := (config_routed pair pair_disjoint
    [(⟨"/A/0", 1⟩ : Item Nat), ⟨"B/0", 2⟩, ⟨"", 3⟩] true false id (fun _ => .refl _)
    fun _ => .ok none).2
  refine ((routed ?_).1 0 _ rfl).2
  intro item member filled
  simp only [List.mem_cons, List.not_mem_nil, or_false] at member
  -- The two paths have owners, the third item has no path.
  rcases member with rfl | rfl | rfl
  · exact ⟨0, _, rfl, by decide⟩
  · exact ⟨1, _, rfl, by decide⟩
  · exact absurd rfl filled

section Handling

variable {config : ProxyConfig} {backends : List Backend}

/-- The request handler finds the same backend for a path. -/
theorem handling_findBackend (table : config.pathToBackend = pathToBackend backends)
    (path : String) : Handling.findBackendForPath config path = findBackendForPath backends path := by
  rw [Handling.findBackendForPath, findBackendForPath, table]
  -- The empty path has no first segment.
  by_cases empty : path = ""
  · simp [empty]
  · have filled : path.toList ≠ [] := by simpa using empty
    simp only [if_neg empty, if_neg filled, firstSegment]

/-- The request handler sees the paths of what is routed here. -/
theorem handling_routes (table : config.pathToBackend = pathToBackend backends)
    (count : config.backends = backends.length) (module : List (Item β)) :
    Handling.unroutablePaths config (module.map Item.path) = (route backends module).unroutablePaths ∧
      Handling.perBackend config (module.map Item.path) =
        (List.range backends.length).filterMap fun index =>
          ((route backends module).perBackend.lookup index).map fun items =>
            (index, items.map Item.path) := by
  have routed := route_routed backends module
  constructor
  · rw [routed.unroutable, Handling.unroutablePaths, List.filter_map]
    congr 1
    refine List.filter_congr fun item _ => ?_
    simp [isUnroutable, handling_findBackend table]
  · rw [Handling.perBackend, count, ← List.filterMap_eq_filter, List.filterMap_map]
    refine List.filterMap_congr fun index member => ?_
    -- The paths of the items for a backend are the paths for it.
    have paths : ((module.map Item.path).filter fun path =>
        path = "" || Handling.findBackendForPath config path = some index) =
        (module.filter (isFor backends index)).map Item.path := by
      rw [List.filter_map]
      congr 1
      refine List.filter_congr fun item _ => ?_
      by_cases global : item.path = ""
      · simp [isFor, global, List.mem_range.mp member]
      · rw [Bool.eq_iff_iff]
        simp [isFor, global, handling_findBackend table]
    simp only [Function.comp_apply, paths, routed.modules index]
    by_cases empty : module.filter (isFor backends index) = []
    · simp [empty, Option.guard]
    · simp [empty, Option.guard]

end Handling

end Pybrid.ConfigRouting
