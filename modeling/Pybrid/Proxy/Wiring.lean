import Mathlib

/-! The entity trees the proxy caches: locations and wires put into them, and what an extract answers. -/

namespace Pybrid.Wiring

/-- The position of a carrier in the rack. -/
structure CarrierLocationV0 where
  stack : UInt32
  carrier : UInt32
  deriving DecidableEq, Repr

/-- The end of a wire at a carrier: a named pin or a zero-based index. -/
inductive PinVariant where
  | named (name : String)
  | indexed (index : UInt32)
  deriving DecidableEq, Repr

/-- One end of a wire as clients see it. -/
structure WiringPin where
  path : String
  pin : PinVariant
  deriving DecidableEq, Repr

/-- What an item of a module is about. -/
inductive ItemKind where
  /-- The entity's identifier and its location, if it has one. -/
  | entitySpecification (id : String) (location : Option CarrierLocationV0)
  | wiringSpecification (source target : WiringPin)
  /-- Any other kind, by its field number. -/
  | other (field : Nat)
  deriving DecidableEq, Repr

/-- An item of a module. -/
structure Item where
  path : String
  kind : ItemKind
  deriving DecidableEq, Repr

/-- A module as the devices report it and clients receive it. -/
abbrev Module := List Item

/-- The item specifies an entity. -/
def Item.hasEntitySpecification (item : Item) : Bool :=
  item.kind matches .entitySpecification _ _

/-- The item specifies a wire. -/
def Item.hasWiringSpecification (item : Item) : Bool :=
  item.kind matches .wiringSpecification _ _

/-- The location an entity specification carries. -/
def Item.location (item : Item) : Option CarrierLocationV0 :=
  match item.kind with
  | .entitySpecification _ location => location
  | _ => none

/-- The same item with a location, where it specifies an entity. -/
def Item.setLocation (location : CarrierLocationV0) (item : Item) : Item :=
  match item.kind with
  | .entitySpecification id _ => { item with kind := .entitySpecification id (some location) }
  | _ => item

/-- The wiring items of a module. -/
def wirings (module : Module) : List Item :=
  module.filter Item.hasWiringSpecification

/-- What is known of a backend's place in the rack. -/
structure Site where
  /-- Paths of the carriers, without a leading slash. -/
  carrierPaths : List String
  locationStack : Option UInt32
  locationCarrier : Option UInt32
  deriving DecidableEq, Repr

/-- A connected backend with the module cached for it. -/
structure BackendDevice extends Site where
  cachedModule : Module
  deriving DecidableEq, Repr

/-- A wire between two carriers, by their locations. -/
structure WireEntry where
  sourceStack : Option UInt32
  sourceCarrier : UInt32
  sourcePin : PinVariant
  targetStack : Option UInt32
  targetCarrier : UInt32
  targetPin : PinVariant
  deriving DecidableEq, Repr

/-- The backends, the registered wires, and whether more may be added. -/
structure Handler where
  backends : List BackendDevice
  wires : List WireEntry
  isAcceptingBackends : Bool
  deriving DecidableEq, Repr

/-- A handler to which nothing has been added. -/
def Handler.new : Handler := ⟨[], [], true⟩

/-- Put the location into every entity specification, if both its parts are known. -/
def stampLocation (stack carrier : Option UInt32) (module : Module) : Module :=
  match stack, carrier with
  | some stack, some carrier => module.map (Item.setLocation ⟨stack, carrier⟩)
  | _, _ => module

/-- The identifier of an entity without its leading slash. -/
def withoutSlash (id : String) : String :=
  match id.toList with
  | '/' :: rest => String.ofList rest
  | _ => id

/-- The carriers of a module: the identifiers of its entity specifications that have one. -/
def carrierPaths (module : Module) : List String :=
  module.filterMap fun item =>
    match item.kind with
    | .entitySpecification id _ => if id = "" then none else some (withoutSlash id)
    | _ => none

/-- Connect to a device, given the module it reports or the failure of the handshake. -/
def Handler.addBackend (handler : Handler) (stack carrier : Option UInt32)
    (handshake : Except String Module) : Except String Handler := do
  if !handler.isAcceptingBackends then
    throw "Backends have been finalized, no more changes are permitted."
  let module ← handshake
  let site := ⟨carrierPaths module, stack, carrier⟩
  let backend := ⟨site, stampLocation stack carrier module⟩
  return { handler with backends := handler.backends ++ [backend] }

/-- Register a wire. -/
def Handler.addWire (handler : Handler) (wire : WireEntry) : Except String Handler := do
  if !handler.isAcceptingBackends then
    throw "Backends have been finalized, no more changes are permitted."
  return { handler with wires := handler.wires ++ [wire] }

/-- The index of the first backend at a location. -/
def findBackendForLocation (backends : List BackendDevice) (stack : Option UInt32)
    (carrier : UInt32) : Option Nat :=
  backends.findIdx? fun backend =>
    backend.locationStack = stack && backend.locationCarrier = some carrier

/-- The backend at a location and its first carrier, where there are both. -/
def findCarrier (backends : List BackendDevice) (stack : Option UInt32) (carrier : UInt32) :
    Option (Nat × String) := do
  let index ← findBackendForLocation backends stack carrier
  let backend ← backends[index]?
  let mac ← backend.carrierPaths.head?
  return (index, mac)

/-- The item that tells clients of a wire between two carriers. -/
def wireItem (wire : WireEntry) (sourceMac targetMac : String) : Item :=
  ⟨"", .wiringSpecification ⟨"/" ++ sourceMac, wire.sourcePin⟩ ⟨"/" ++ targetMac, wire.targetPin⟩⟩

/-- The backend a wire starts at and the wire's item, if both its ends are found. -/
def resolve (backends : List BackendDevice) (wire : WireEntry) : Option (Nat × Item) := do
  let (source, sourceMac) ← findCarrier backends wire.sourceStack wire.sourceCarrier
  let (_, targetMac) ← findCarrier backends wire.targetStack wire.targetCarrier
  return (source, wireItem wire sourceMac targetMac)

/-- Add an item to the cached module. -/
def BackendDevice.addItem (item : Item) (backend : BackendDevice) : BackendDevice :=
  { backend with cachedModule := backend.cachedModule ++ [item] }

/-- Put a wire into the cached module of its source; a wire that is not resolved is skipped. -/
def injectWire (backends : List BackendDevice) (wire : WireEntry) :
    Except String (List BackendDevice) :=
  match resolve backends wire with
  | none => .ok backends
  | some (source, item) =>
    -- The log line reads the stack of the target whenever the source has one.
    if wire.sourceStack.isSome && wire.targetStack.isNone then .error "bad optional access"
    else .ok (backends.modify source (BackendDevice.addItem item))

/-- Finalise the backends and put the wires into their cached modules. -/
def Handler.start (handler : Handler) : Except String Handler := do
  let backends ← handler.wires.foldlM injectWire handler.backends
  return { handler with backends := backends, isAcceptingBackends := false }

/-- How the steps of a reconnect turn out. -/
structure Attempt where
  /-- `ControlChannel::reconnect`. -/
  control : Except String Bool
  /-- `DataChannel::reconnect`. -/
  dataChannel : Except String Unit
  /-- `ControlChannel::extract`. -/
  extract : Except String Module
  deriving DecidableEq

/-- Reconnect to a backend, and say whether that succeeded. -/
def reconnectBackend (backend : BackendDevice) (attempt : Attempt) : BackendDevice × Bool :=
  -- Whatever is thrown on the way is caught, and leaves the cached module alone.
  match attempt.control, attempt.dataChannel, attempt.extract with
  | .ok true, .ok (), .ok module =>
    let located := stampLocation backend.locationStack backend.locationCarrier module
    ({ backend with cachedModule := located }, true)
  | _, _, _ => (backend, false)

/-- Reconnect to the backend with this index. -/
def Handler.reconnect (handler : Handler) (call : Nat × Attempt) : Handler :=
  let backends := handler.backends.modify call.1 fun backend => (reconnectBackend backend call.2).1
  { handler with backends := backends }

/-- The order of entity specifications: by stack and then by carrier, without location last. -/
def locationKey (item : Item) : UInt32 × UInt32 :=
  match item.location with
  | some location => (location.stack, location.carrier)
  | none => (4294967295, 4294967295)

/-- The key of the first item is not behind that of the second. -/
def notBehind (first second : Item) : Bool :=
  let a := locationKey first
  let b := locationKey second
  a.1 < b.1 || (a.1 = b.1 && a.2 ≤ b.2)

/-- Write the specifications into the slots of entity specifications, in order. -/
def refill : Module → List Item → Module
  | [], _ => []
  | item :: items, specifications =>
    if item.hasEntitySpecification then
      match specifications with
      | specification :: rest => specification :: refill items rest
      | [] => item :: refill items []
    else item :: refill items specifications

/-- Sort the entity specifications of a module, leaving the other items in their places. -/
def sortModuleByLocation (module : Module) : Module :=
  let specifications := module.filter Item.hasEntitySpecification
  if specifications.length ≤ 1 then module
  else refill module (specifications.mergeSort notBehind)

/-- The module answered to an extract of the whole system. -/
def Handler.handleExtract (handler : Handler) : Module :=
  sortModuleByLocation (handler.backends.flatMap BackendDevice.cachedModule)

/-- Refilling keeps the other items and puts the given ones in the place of the specifications. -/
theorem refill_perm : ∀ (module : Module) (specifications : List Item),
    specifications.length = (module.filter Item.hasEntitySpecification).length →
    (refill module specifications).Perm
      (specifications ++ module.filter fun item => !item.hasEntitySpecification) := by
  -- The induction is on the slots, with the specifications still to be written.
  intro module
  induction module with
  | nil =>
    intro specifications fits
    simp [List.eq_nil_of_length_eq_zero fits, refill]
  | cons item items ih =>
    intro specifications fits
    cases specified : item.hasEntitySpecification with
    | true =>
      cases specifications with
      | nil => simp [specified] at fits
      | cons specification rest =>
        simp only [refill, specified, if_true]
        simp only [specified, List.filter_cons_of_pos, List.length_cons, Nat.add_right_cancel_iff]
          at fits
        simpa [specified] using ih rest fits
    | false =>
      simp only [refill, specified, Bool.false_eq_true, if_false]
      simp only [specified, Bool.false_eq_true, not_false_eq_true, List.filter_cons_of_neg] at fits
      -- The item stays in front here, and in the middle of the list it is compared with.
      simpa [specified] using ((ih specifications fits).cons item).trans List.perm_middle.symm

/-- Sorting only changes the order of the items. -/
theorem sortModuleByLocation_perm (module : Module) :
    (sortModuleByLocation module).Perm module := by
  simp only [sortModuleByLocation]
  -- With at most one specification there is nothing to sort.
  split
  · exact List.Perm.refl module
  · have sorted := List.mergeSort_perm (module.filter Item.hasEntitySpecification) notBehind
    refine (refill_perm module _ sorted.length_eq).trans ?_
    exact (sorted.append_right _).trans (List.filter_append_perm _ module)

/-- The answer consists of the items cached for the backends. -/
theorem handleExtract_perm (handler : Handler) :
    handler.handleExtract.Perm (handler.backends.flatMap BackendDevice.cachedModule) :=
  sortModuleByLocation_perm _

/-- Every entity specification in the cached module carries the backend's location. -/
def BackendDevice.Located (backend : BackendDevice) : Prop :=
  ∀ stack carrier, backend.locationStack = some stack → backend.locationCarrier = some carrier →
    ∀ item ∈ backend.cachedModule, item.hasEntitySpecification →
      item.location = some ⟨stack, carrier⟩

theorem Item.setLocation_location {item : Item} {location : CarrierLocationV0}
    (specified : (item.setLocation location).hasEntitySpecification) :
    (item.setLocation location).location = some location := by
  obtain ⟨path, kind⟩ := item
  -- Only an entity has a place for it.
  cases kind with
  | entitySpecification => rfl
  | wiringSpecification => cases specified
  | other => cases specified

@[simp] theorem Item.setLocation_wiring (location : CarrierLocationV0) (item : Item) :
    (item.setLocation location).hasWiringSpecification = item.hasWiringSpecification := by
  obtain ⟨path, kind⟩ := item
  cases kind <;> rfl

/-- Stamping a location leaves no entity specification of the module without it. -/
theorem stampLocation_located (site : Site) (module : Module) :
    BackendDevice.Located ⟨site, stampLocation site.locationStack site.locationCarrier module⟩ := by
  intro stack carrier atStack atCarrier item member specified
  -- The module is the stamped one.
  change item ∈ stampLocation site.locationStack site.locationCarrier module at member
  rw [show site.locationStack = some stack from atStack,
    show site.locationCarrier = some carrier from atCarrier] at member
  obtain ⟨reported, _, rfl⟩ := List.mem_map.mp member
  exact Item.setLocation_location specified

/-- Stamping a location adds no wires and takes none away. -/
theorem wirings_stampLocation (stack carrier : Option UInt32) {module : Module}
    (quiet : wirings module = []) : wirings (stampLocation stack carrier module) = [] := by
  unfold stampLocation
  -- A stamp keeps the kind of an item.
  split
  · simpa [wirings, List.filter_eq_nil_iff] using quiet
  · exact quiet

/-- Where the backends are and which carriers they have decides which wires are resolved. -/
theorem resolve_congr {backends others : List BackendDevice}
    (same : backends.map BackendDevice.toSite = others.map BackendDevice.toSite)
    (wire : WireEntry) : resolve backends wire = resolve others wire := by
  have found : ∀ stack carrier,
      findCarrier backends stack carrier = findCarrier others stack carrier := by
    -- A carrier is looked for by location and read from the site that is found.
    have spelled : ∀ (devices : List BackendDevice) stack carrier,
        findCarrier devices stack carrier = (do
          let sites := devices.map BackendDevice.toSite
          let index ← sites.findIdx? fun site =>
            site.locationStack = stack && site.locationCarrier = some carrier
          let site ← sites[index]?
          let mac ← site.carrierPaths.head?
          return (index, mac)) := by
      intro devices stack carrier
      simp only [findCarrier, findBackendForLocation, List.findIdx?_map, List.getElem?_map,
        Function.comp_def]
      refine bind_congr fun index => ?_
      cases devices[index]? <;> rfl
    intro stack carrier
    rw [spelled, spelled, same]
  simp only [resolve, found]

/-- A wire starts at one of the backends. -/
theorem resolve_source {backends : List BackendDevice} {wire : WireEntry} {source : Nat}
    {item : Item} (resolved : resolve backends wire = some (source, item)) :
    source < backends.length := by
  obtain ⟨⟨index, mac⟩, found, resolved⟩ := Option.bind_eq_some_iff.mp resolved
  obtain ⟨_, _, resolved⟩ := Option.bind_eq_some_iff.mp resolved
  obtain ⟨place, first, found⟩ := Option.bind_eq_some_iff.mp found
  obtain ⟨_, backend, found⟩ := Option.bind_eq_some_iff.mp found
  simp only [Option.pure_def, Option.some.injEq, Prod.mk.injEq] at resolved
  obtain ⟨_, _, found⟩ := Option.bind_eq_some_iff.mp found
  simp only [Option.pure_def, Option.some.injEq, Prod.mk.injEq] at found
  -- The source is the index of the first backend that has the device.
  rw [← resolved.1, ← found.1]
  exact (List.findIdx?_eq_some_iff_getElem.mp first).1

/-- What a resolved wire adds is a wiring item. -/
theorem resolve_wiring {backends : List BackendDevice} {wire : WireEntry} {source : Nat}
    {item : Item} (resolved : resolve backends wire = some (source, item)) :
    item.hasWiringSpecification = true := by
  obtain ⟨_, _, resolved⟩ := Option.bind_eq_some_iff.mp resolved
  obtain ⟨_, _, resolved⟩ := Option.bind_eq_some_iff.mp resolved
  -- Both ends have been found, and a wiring is made of them.
  simp only [Option.pure_def, Option.some.injEq, Prod.mk.injEq] at resolved
  rw [← resolved.2]
  rfl

/-- The items of the wires that start at a backend. -/
def itemsFrom (backends : List BackendDevice) (wires : List WireEntry) (index : Nat) : List Item :=
  wires.filterMap fun wire =>
    (resolve backends wire).bind fun found => if found.1 = index then some found.2 else none

/-- The items of all wires that are resolved. -/
def resolvedItems (backends : List BackendDevice) (wires : List WireEntry) : List Item :=
  wires.filterMap fun wire => (resolve backends wire).map Prod.snd

/-- The wiring items cached for each backend. -/
def tally (backends : List BackendDevice) : List (List Item) :=
  backends.map fun backend => wirings backend.cachedModule

/-- Wiring items in a list that one position each is responsible for. -/
theorem flatMap_single {n source : Nat} (bound : source < n) (item : Item) :
    (List.range n).flatMap (fun index => if source = index then [item] else []) = [item] := by
  induction n with
  | zero => omega
  | succ n ih =>
    rw [List.range_succ, List.flatMap_append, List.flatMap_singleton]
    by_cases last : source = n
    · -- The positions before the last one are not responsible.
      have before : (List.range n).flatMap
          (fun index => if source = index then [item] else []) = [] := by
        rw [List.flatMap_eq_nil_iff]
        intro index member
        rw [if_neg]
        have := List.mem_range.mp member
        omega
      rw [before, if_pos last, List.nil_append]
    · rw [ih (by omega), if_neg last, List.append_nil]

/-- Each resolved wire is cached at one backend, so together they hold every one once. -/
theorem itemsFrom_all (backends : List BackendDevice) (wires : List WireEntry) :
    ((List.range backends.length).flatMap (itemsFrom backends wires)).Perm
      (resolvedItems backends wires) := by
  induction wires with
  | nil =>
    have empty : (List.range backends.length).flatMap (itemsFrom backends []) = [] :=
      List.flatMap_eq_nil_iff.mpr fun _ _ => rfl
    rw [empty]
    exact List.Perm.refl _
  | cons wire wires ih =>
    -- A wire that cannot be resolved gives no item, every other one exactly one.
    cases resolved : resolve backends wire with
    | none =>
      have skipped : itemsFrom backends (wire :: wires) = itemsFrom backends wires := by
        funext index
        simp [itemsFrom, resolved]
      rw [skipped]
      simpa [resolvedItems, resolved] using ih
    | some found =>
      obtain ⟨source, item⟩ := found
      have split : itemsFrom backends (wire :: wires) = fun index =>
          (if source = index then [item] else []) ++ itemsFrom backends wires index := by
        funext index
        by_cases here : source = index <;> simp [itemsFrom, resolved, here]
      have parted := (List.flatMap_append_perm (List.range backends.length)
        (fun index => if source = index then [item] else []) (itemsFrom backends wires)).symm
      rw [flatMap_single (resolve_source resolved) item] at parted
      rw [split]
      refine parted.trans ?_
      simpa [resolvedItems, resolved] using ih

/-- Add several items to the cached module. -/
def BackendDevice.addItems (items : List Item) (backend : BackendDevice) : BackendDevice :=
  { backend with cachedModule := backend.cachedModule ++ items }

/-- The sites stay the same when items are added to the cached modules. -/
theorem modify_addItem_sites (backends : List BackendDevice) (source : Nat) (item : Item) :
    (backends.modify source (BackendDevice.addItem item)).map BackendDevice.toSite =
      backends.map BackendDevice.toSite := by
  apply List.ext_getElem?
  intro index
  simp only [List.getElem?_map, List.getElem?_modify]
  -- Adding an item leaves the location as it is.
  cases backends[index]? with
  | none => rfl
  | some backend =>
    simp only [Option.map_some]
    split <;> rfl

/-- Injecting wires caches each of them at its source and changes nothing else. -/
theorem injectWires_eq : ∀ (wires : List WireEntry) (backends result : List BackendDevice),
    wires.foldlM injectWire backends = .ok result →
    result = backends.mapIdx fun index => BackendDevice.addItems (itemsFrom backends wires index) := by
  -- The induction is on the wires; the sites they are resolved by stay the same throughout.
  intro wires
  induction wires with
  | nil =>
    intro backends result injected
    cases injected
    apply List.ext_getElem?
    intro index
    rw [List.getElem?_mapIdx]
    cases backends[index]? <;> simp [itemsFrom, BackendDevice.addItems]
  | cons wire wires ih =>
    intro backends result injected
    rw [List.foldlM_cons] at injected
    cases resolved : resolve backends wire with
    | none =>
      simp only [injectWire, resolved] at injected
      rw [ih backends result injected]
      simp [itemsFrom, resolved]
    | some found =>
      obtain ⟨source, item⟩ := found
      simp only [injectWire, resolved] at injected
      split at injected
      · cases injected
      · have sites := modify_addItem_sites backends source item
        have items : itemsFrom (backends.modify source (BackendDevice.addItem item)) wires =
            itemsFrom backends wires := by
          funext index
          simp only [itemsFrom, resolve_congr sites]
        rw [ih _ result injected, items]
        apply List.ext_getElem?
        intro index
        simp only [List.getElem?_mapIdx, List.getElem?_modify]
        -- Only the source gets the item, before those of the wires behind it.
        cases backends[index]? with
        | none => rfl
        | some backend =>
          by_cases here : source = index <;>
            simp [here, itemsFrom, resolved, BackendDevice.addItem, BackendDevice.addItems]

/-- All the items of wires are wiring items. -/
theorem wirings_itemsFrom (backends : List BackendDevice) (wires : List WireEntry) (index : Nat) :
    wirings (itemsFrom backends wires index) = itemsFrom backends wires index := by
  apply List.filter_eq_self.mpr
  intro item member
  obtain ⟨wire, _, found⟩ := List.mem_filterMap.mp member
  obtain ⟨⟨source, added⟩, resolved, chosen⟩ := Option.bind_eq_some_iff.mp found
  -- Every item that is injected is a wiring.
  split at chosen
  · cases chosen
    exact resolve_wiring resolved
  · cases chosen

/-- A call that sets the proxy up before it is started. -/
inductive Setup where
  | addBackend (stack carrier : Option UInt32) (handshake : Except String Module)
  | addWire (wire : WireEntry)

/-- One call of the set-up; a call that throws leaves the handler as it is. -/
def Setup.perform (handler : Handler) (call : Setup) : Handler :=
  let outcome :=
    match call with
    | .addBackend stack carrier handshake => handler.addBackend stack carrier handshake
    | .addWire wire => handler.addWire wire
  match outcome with
  | .ok next => next
  | .error _ => handler

/-- The handler after some calls. -/
def configure (calls : List Setup) : Handler :=
  calls.foldl Setup.perform Handler.new

/-- The device behind the call reports no wires of its own. -/
def Setup.Quiet : Setup → Prop
  | .addBackend _ _ (.ok module) => wirings module = []
  | .addBackend _ _ (.error _) => True
  | .addWire _ => True

instance : DecidablePred Setup.Quiet
  | .addBackend _ _ (.ok module) => inferInstanceAs (Decidable (wirings module = []))
  | .addBackend _ _ (.error _) => isTrue trivial
  | .addWire _ => isTrue trivial

/-- The device reports no wires of its own when it is reconnected. -/
def Attempt.Quiet : Attempt → Prop
  | ⟨_, _, .ok module⟩ => wirings module = []
  | ⟨_, _, .error _⟩ => True

instance : DecidablePred Attempt.Quiet
  | ⟨_, _, .ok module⟩ => inferInstanceAs (Decidable (wirings module = []))
  | ⟨_, _, .error _⟩ => isTrue trivial

/-- The reconnect succeeds. -/
def Attempt.succeeds (attempt : Attempt) : Bool :=
  match attempt.control, attempt.dataChannel, attempt.extract with
  | .ok true, .ok (), .ok _ => true
  | _, _, _ => false

/-- A call of the set-up adds at most one backend, with the location it was given. -/
theorem perform_backends (handler : Handler) (call : Setup) :
    (call.perform handler).backends = handler.backends ∨
      ∃ stack carrier module, call = .addBackend stack carrier (.ok module) ∧
        (call.perform handler).backends = handler.backends ++
          [⟨⟨carrierPaths module, stack, carrier⟩, stampLocation stack carrier module⟩] := by
  obtain ⟨backends, wires, accepting⟩ := handler
  -- A handler that has been started refuses every call.
  cases accepting with
  | false => cases call <;> exact .inl rfl
  | true =>
    cases call with
    | addWire wire => exact .inl rfl
    | addBackend stack carrier handshake =>
      cases handshake with
      | error what => exact .inl rfl
      | ok module => exact .inr ⟨stack, carrier, module, rfl, rfl⟩

/-- The entity specifications are located, and there are no wires in the cached module. -/
def BackendDevice.Fresh (backend : BackendDevice) : Prop :=
  backend.Located ∧ wirings backend.cachedModule = []

/-- Every backend of the set-up is located, and without wires as long as the devices have none. -/
theorem configure_fresh (calls : List Setup) (quiet : ∀ call ∈ calls, call.Quiet) :
    ∀ backend ∈ (configure calls).backends, backend.Fresh := by
  -- The induction is on the calls, with what has been added so far.
  suffices all : ∀ (calls : List Setup) (handler : Handler), (∀ call ∈ calls, call.Quiet) →
      (∀ backend ∈ handler.backends, backend.Fresh) →
      ∀ backend ∈ (calls.foldl Setup.perform handler).backends, backend.Fresh from
    all calls Handler.new quiet (fun _ member => nomatch member)
  intro calls
  induction calls with
  | nil => exact fun _ _ held => held
  | cons call calls ih =>
    intro handler quiet held
    refine ih _ (fun later member => quiet later (List.mem_cons_of_mem _ member)) ?_
    obtain same | ⟨stack, carrier, module, rfl, added⟩ := perform_backends handler call
    · rw [same]
      exact held
    · rw [added]
      intro backend member
      rcases List.mem_append.mp member with old | new
      · exact held backend old
      · -- The module of a new backend has just been stamped.
        rw [List.mem_singleton.mp new]
        have silent : wirings module = [] := quiet _ List.mem_cons_self
        exact ⟨stampLocation_located ⟨carrierPaths module, stack, carrier⟩ module,
          wirings_stampLocation stack carrier silent⟩

/-- Starting caches every resolved wire at its source, and keeps the locations. -/
theorem start_tally {handler started : Handler} (start : handler.start = .ok started)
    (fresh : ∀ backend ∈ handler.backends, backend.Fresh) :
    started.backends.map BackendDevice.toSite = handler.backends.map BackendDevice.toSite ∧
      (∀ backend ∈ started.backends, backend.Located) ∧
      tally started.backends =
        (List.range handler.backends.length).map (itemsFrom handler.backends handler.wires) := by
  -- A start that returns has injected all the wires.
  obtain ⟨backends, injected, done⟩ : ∃ backends,
      handler.wires.foldlM injectWire handler.backends = .ok backends ∧
        started.backends = backends := by
    unfold Handler.start at start
    cases injected : handler.wires.foldlM injectWire handler.backends with
    | error what =>
      rw [injected] at start
      cases start
    | ok backends =>
      rw [injected] at start
      cases start
      exact ⟨backends, rfl, rfl⟩
  rw [done, injectWires_eq _ _ _ injected]
  refine ⟨?_, ?_, ?_⟩
  · apply List.ext_getElem?
    intro index
    simp only [List.getElem?_map, List.getElem?_mapIdx, Option.map_map]
    rfl
  · intro backend member stack carrier atStack atCarrier item cached specified
    obtain ⟨index, bound, rfl⟩ := List.mem_mapIdx.mp member
    rcases List.mem_append.mp cached with old | new
    · exact (fresh _ (List.getElem_mem bound)).1 stack carrier atStack atCarrier item old specified
    · -- What has been added are wiring items, which specify no entity.
      rw [← wirings_itemsFrom] at new
      obtain ⟨path, kind⟩ := item
      cases kind with
      | entitySpecification => exact absurd (List.mem_filter.mp new).2 (by simp [Item.hasWiringSpecification])
      | wiringSpecification => cases specified
      | other => cases specified
  · apply List.ext_getElem?
    intro index
    simp only [tally, List.getElem?_map, List.getElem?_mapIdx, Option.map_map]
    cases found : handler.backends[index]? with
    | none => simp [List.getElem?_eq_none_iff.mp found]
    | some backend =>
      -- A fresh backend has cached no wires of its own.
      have bound := (List.getElem?_eq_some_iff.mp found).1
      have silent := (fresh backend (List.mem_of_getElem? found)).2
      simp only [Option.map_some, Function.comp, List.getElem?_range bound, Option.some.injEq]
      rw [BackendDevice.addItems, wirings, List.filter_append]
      change wirings backend.cachedModule ++ wirings (itemsFrom _ _ index) = _
      rw [silent, wirings_itemsFrom, List.nil_append]

/-- What a reconnect does to the cached wires of a backend, which keeps its location. -/
theorem reconnectBackend_wirings (backend : BackendDevice) (attempt : Attempt)
    (located : backend.Located) (quiet : attempt.Quiet) :
    (reconnectBackend backend attempt).1.Located ∧
      wirings (reconnectBackend backend attempt).1.cachedModule =
        if attempt.succeeds then [] else wirings backend.cachedModule := by
  obtain ⟨control, dataChannel, extract⟩ := attempt
  simp only [reconnectBackend, Attempt.succeeds]
  split
  · -- The module is a new one, with the location stamped and no wires.
    rename_i module
    exact ⟨stampLocation_located backend.toSite module, wirings_stampLocation _ _ quiet⟩
  · exact ⟨located, rfl⟩

/-- Some of the calls reconnects the backend with this index. -/
def renewed (calls : List (Nat × Attempt)) (index : Nat) : Bool :=
  calls.any fun call => call.1 == index && call.2.succeeds

@[simp] theorem renewed_cons (call : Nat × Attempt) (calls : List (Nat × Attempt)) (index : Nat) :
    renewed (call :: calls) index =
      (call.1 == index && call.2.succeeds || renewed calls index) := rfl

/-- A backend is renewed exactly when one of the calls concerns it and succeeds. -/
theorem renewed_iff (calls : List (Nat × Attempt)) (index : Nat) :
    renewed calls index = true ↔ ∃ call ∈ calls, call.1 = index ∧ call.2.succeeds := by
  simp [renewed, List.any_eq_true]

/-- After reconnects the renewed backends have lost their wires, and the others have kept theirs. -/
theorem reconnects_tally : ∀ (calls : List (Nat × Attempt)) (handler : Handler),
    (∀ call ∈ calls, call.2.Quiet) → (∀ backend ∈ handler.backends, backend.Located) →
    (∀ backend ∈ (calls.foldl Handler.reconnect handler).backends, backend.Located) ∧
      tally (calls.foldl Handler.reconnect handler).backends =
        (tally handler.backends).mapIdx fun index items =>
          if renewed calls index then [] else items := by
  -- The induction is on the calls, each of which concerns one backend.
  intro calls
  induction calls with
  | nil =>
    intro handler _ located
    refine ⟨located, ?_⟩
    apply List.ext_getElem?
    intro index
    simp [renewed]
  | cons call calls ih =>
    intro handler quiet located
    have renewal := fun backend held =>
      reconnectBackend_wirings backend call.2 held (quiet call List.mem_cons_self)
    have kept : ∀ backend ∈ (handler.reconnect call).backends, backend.Located := by
      intro backend member
      obtain ⟨index, found⟩ := List.mem_iff_getElem?.mp member
      simp only [Handler.reconnect, List.getElem?_modify] at found
      obtain ⟨before, there, changed⟩ := Option.map_eq_some_iff.mp found
      have held := located before (List.mem_of_getElem? there)
      split at changed
      · exact changed ▸ (renewal before held).1
      · exact changed ▸ held
    obtain ⟨final, lists⟩ :=
      ih (handler.reconnect call) (fun later member => quiet later (List.mem_cons_of_mem _ member)) kept
    refine ⟨final, lists.trans ?_⟩
    apply List.ext_getElem?
    intro index
    simp only [tally, Handler.reconnect, List.getElem?_mapIdx, List.getElem?_map,
      List.getElem?_modify]
    cases there : handler.backends[index]? with
    | none => rfl
    | some backend =>
      have changed := (renewal backend (located backend (List.mem_of_getElem? there))).2
      by_cases here : call.1 = index
      · cases succeeded : call.2.succeeds <;> simp [here, succeeded, changed]
      · simp [here]

/-- Lists that are dropped or kept as a whole are all there only if none that matters is dropped. -/
theorem flatMap_perm_iff {kept all : Nat → List Item} (indices : List Nat)
    (parts : ∀ index ∈ indices, kept index = [] ∨ kept index = all index) :
    (indices.flatMap kept).Perm (indices.flatMap all) ↔
      ∀ index ∈ indices, kept index = all index := by
  constructor
  · intro same
    have shorter : ∀ index ∈ indices, (kept index).length ≤ (all index).length := by
      intro index member
      rcases parts index member with empty | whole
      · simp [empty]
      · rw [whole]
    -- The lengths add up to the same sum, so none of them can be smaller.
    have sums : (indices.map fun index => (kept index).length).sum =
        (indices.map fun index => (all index).length).sum := by
      simpa [List.length_flatMap] using same.length_eq
    intro index member
    rcases parts index member with empty | whole
    · by_contra different
      have strict : (kept index).length < (all index).length := by
        rw [empty] at different ⊢
        exact List.length_pos_iff.mpr (Ne.symm different)
      exact absurd sums (List.sum_lt_sum _ _ shorter ⟨index, member, strict⟩).ne
    · exact whole
  · intro same
    rw [List.flatMap_congr same]

/-- A module answered to an extract tells of exactly the resolved wires, and of the locations. -/
structure Complete (handler current : Handler) : Prop where
  /-- There is one item for each resolved wire, with its ends and pins. -/
  -- What was set up is still there after any reconnect.
  wired : (wirings current.handleExtract).Perm (resolvedItems handler.backends handler.wires)
  /-- The answer is made of what is cached for the backends. -/
  merged : current.handleExtract.Perm (current.backends.flatMap BackendDevice.cachedModule)
  /-- Every entity specification of a backend with a location carries it. -/
  located : ∀ backend ∈ current.backends, backend.Located
  /-- The backends are those of the set-up, at the same locations. -/
  sites : current.backends.map BackendDevice.toSite = handler.backends.map BackendDevice.toSite

/-- The backend with this index is the source of a resolved wire. -/
def Handler.IsSource (handler : Handler) (index : Nat) : Prop :=
  ∃ wire ∈ handler.wires, (resolve handler.backends wire).map Prod.fst = some index

instance (handler : Handler) (index : Nat) : Decidable (handler.IsSource index) :=
  inferInstanceAs (Decidable (∃ wire ∈ handler.wires, _))

/-- A backend has items of wires exactly when it is the source of one. -/
theorem itemsFrom_eq_nil_iff (handler : Handler) (index : Nat) :
    itemsFrom handler.backends handler.wires index = [] ↔ ¬ handler.IsSource index := by
  unfold itemsFrom Handler.IsSource
  rw [List.filterMap_eq_nil_iff]
  -- A backend without items is the source of no wire.
  constructor
  · rintro none ⟨wire, member, resolved⟩
    obtain ⟨⟨_, item⟩, found, rfl⟩ := Option.map_eq_some_iff.mp resolved
    have := none wire member
    simp [found] at this
  · intro free wire member
    cases resolved : resolve handler.backends wire with
    | none => rfl
    | some found =>
      have elsewhere : found.1 ≠ index := by
        rintro rfl
        exact free ⟨wire, member, by rw [resolved]; rfl⟩
      simp [elsewhere]

/-- Reconnects do not change where the backends are. -/
theorem reconnects_sites : ∀ (calls : List (Nat × Attempt)) (handler : Handler),
    (calls.foldl Handler.reconnect handler).backends.map BackendDevice.toSite =
      handler.backends.map BackendDevice.toSite := by
  -- The induction is on the calls, each of which replaces one backend's module.
  intro calls
  induction calls with
  | nil => exact fun _ => rfl
  | cons call calls ih =>
    intro handler
    refine (ih (handler.reconnect call)).trans ?_
    apply List.ext_getElem?
    intro index
    simp only [Handler.reconnect, List.getElem?_map, List.getElem?_modify]
    cases handler.backends[index]? with
    | none => rfl
    | some backend =>
      simp only [Option.map_eq_map, Option.map_some, Option.some.injEq]
      split
      · unfold reconnectBackend
        split <;> rfl
      · rfl

/-- The answer to an extract after reconnects is complete if and only if no successful reconnect
was one of the source of a wire. -/
theorem extract_complete_iff (setup : List Setup) (started : Handler)
    (reconnects : List (Nat × Attempt)) (reported : ∀ call ∈ setup, call.Quiet)
    (reportedAgain : ∀ call ∈ reconnects, call.2.Quiet)
    (start : (configure setup).start = .ok started) :
    Complete (configure setup) (reconnects.foldl Handler.reconnect started) ↔
      ∀ call ∈ reconnects, call.2.succeeds → ¬ (configure setup).IsSource call.1 := by
  obtain ⟨sites, located, lists⟩ := start_tally start (configure_fresh setup reported)
  obtain ⟨keeps, final⟩ := reconnects_tally reconnects started reportedAgain located
  generalize configure setup = handler at *
  -- The wires in the answer are those still cached, backend by backend.
  have cached : (wirings (reconnects.foldl Handler.reconnect started).handleExtract).Perm
      ((List.range handler.backends.length).flatMap fun index =>
        if renewed reconnects index then [] else itemsFrom handler.backends handler.wires index) := by
    refine ((handleExtract_perm _).filter _).trans (List.Perm.of_eq ?_)
    rw [List.filter_flatMap, List.flatMap_def, List.flatMap_def]
    change (tally _).flatten = _
    rw [final, lists]
    congr 1
    apply List.ext_getElem?
    intro index
    simp only [List.getElem?_mapIdx, List.getElem?_map, Option.map_map]
    cases within : (List.range handler.backends.length)[index]? with
    | none => rfl
    | some place =>
      obtain ⟨_, rfl⟩ := List.getElem?_eq_some_iff.mp within
      simp
  have counted : (wirings (reconnects.foldl Handler.reconnect started).handleExtract).Perm
      (resolvedItems handler.backends handler.wires) ↔
      ∀ index ∈ List.range handler.backends.length,
        (if renewed reconnects index then []
          else itemsFrom handler.backends handler.wires index) =
          itemsFrom handler.backends handler.wires index := by
    rw [← flatMap_perm_iff]
    · constructor
      · exact fun wired => cached.symm.trans (wired.trans (itemsFrom_all _ _).symm)
      · exact fun wired => cached.trans (wired.trans (itemsFrom_all _ _))
    · intro index _
      split
      · exact .inl rfl
      · exact .inr rfl
  constructor
  · intro complete call member succeeded source
    obtain ⟨wire, _, starts⟩ := id source
    obtain ⟨⟨_, item⟩, resolved, rfl⟩ := Option.map_eq_some_iff.mp starts
    have whole := counted.mp complete.wired call.1 (List.mem_range.mpr (resolve_source resolved))
    rw [if_pos ((renewed_iff _ _).mpr ⟨call, member, rfl, succeeded⟩)] at whole
    exact (itemsFrom_eq_nil_iff handler call.1).mp whole.symm source
  · intro spared
    refine ⟨counted.mpr ?_, handleExtract_perm _, keeps, (reconnects_sites _ _).trans sites⟩
    intro index _
    split
    · -- A backend that was renewed is the source of no wire, so it had none to lose.
      rename_i again
      obtain ⟨call, member, rfl, succeeded⟩ := (renewed_iff _ _).mp again
      have free := spared call member succeeded
      exact ((itemsFrom_eq_nil_iff handler call.1).mpr free).symm
    · rfl

/-- Two carriers of one stack with a wire from the first to the second. -/
def oneWire : List Setup :=
  [.addBackend (some 0) (some 0) (.ok [⟨"", .entitySpecification "/a" none⟩]),
    .addBackend (some 0) (some 1) (.ok [⟨"", .entitySpecification "/b" none⟩]),
    .addWire ⟨some 0, 0, .indexed 3, some 0, 1, .named "ext"⟩]

/-- The proxy started with these two carriers. -/
def oneWireStarted : Handler :=
  { configure oneWire with
    backends := (configure oneWire).backends.modify 0 (BackendDevice.addItem
      ⟨"", .wiringSpecification ⟨"/a", .indexed 3⟩ ⟨"/b", .named "ext"⟩⟩)
    isAcceptingBackends := false }

/-- A device comes back after a reboot and reports its one carrier. -/
def comesBack (id : String) : Attempt :=
  ⟨.ok true, .ok (), .ok [⟨"", .entitySpecification id none⟩]⟩

/-- A reboot of the wire's target loses nothing. -/
theorem extract_complete_iff_target :
    (configure oneWire).start = .ok oneWireStarted ∧
      Complete (configure oneWire) ([(1, comesBack "/b")].foldl Handler.reconnect oneWireStarted) := by
  have start : (configure oneWire).start = .ok oneWireStarted := by decide
  refine ⟨start, (extract_complete_iff oneWire oneWireStarted [(1, comesBack "/b")] ?_ ?_ start).mpr ?_⟩
  · decide
  · decide
  · decide

/-- After a reboot of its source the wire is no longer in the answer. -/
theorem extract_loses_wire :
    (configure oneWire).start = .ok oneWireStarted ∧
      (∀ call ∈ oneWire, call.Quiet) ∧ (comesBack "/a").Quiet ∧
      ¬ Complete (configure oneWire)
        ([(0, comesBack "/a")].foldl Handler.reconnect oneWireStarted) := by
  refine ⟨by decide, by decide, by decide, fun complete => ?_⟩
  -- The reconnected backend was the only one with a wiring item in its cached module.
  have lost : wirings ([(0, comesBack "/a")].foldl Handler.reconnect oneWireStarted).handleExtract =
      [] := by
    have cached := (handleExtract_perm
      ([(0, comesBack "/a")].foldl Handler.reconnect oneWireStarted)).filter
        Item.hasWiringSpecification
    exact List.perm_nil.mp (cached.trans (List.Perm.of_eq (by decide)))
  have wired := complete.wired
  rw [lost] at wired
  exact absurd (List.nil_perm.mp wired) (by decide)

end Pybrid.Wiring
