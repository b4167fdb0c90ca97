import Pybrid.Redac.Specification

/-! Which carriers come back as they were when their specification is sent and read again. -/

namespace Pybrid

/-- A number that fits an unsigned field of 32 bits. -/
def Uint32 (value : Int) : Prop := 0 ≤ value ∧ value < 2 ^ 32

/-- Every field of the type says something. -/
def EntityType.Explicit (type : EntityType) : Prop :=
  type.type_.isSome ∧ type.version.isSome ∧ type.variant.isSome

/-- The numbers of the type fit the fields they are sent in. -/
def EntityType.Fits (type : EntityType) : Prop :=
  Uint32 (type.type_.getD 0) ∧ Uint32 (type.variant.getD 0) ∧
    ∀ version ∈ type.version, Uint32 version.major ∧ Uint32 version.minor ∧ Uint32 version.micro

/-- The type of an entity, which is an explicit one, fits the fields. -/
def TypeFits (type : Option EntityType) : Prop := ∀ explicit ∈ type, explicit.Fits

section Trees

variable {C : Type} (registry : List (EntityType × C))

/-- A block stands in this slot, and its type is registered for its class. -/
structure BlockTree.Sound (parent : Path) (slot : String) (block : BlockTree C) : Prop where
  path : block.path = parent ++ [slot]
  typed : ∃ type, block.entityType = some type ∧ type.Explicit ∧
    EntityType.lookup registry type = .ok block.cls

/-- A cluster under a carrier, with a numeric name and its blocks in their slots. -/
structure ClusterTree.Sound (parent : Path) (cluster : ClusterTree C) : Prop where
  path : ∃ id : String, id ≠ "" ∧ (∀ char ∈ id.toList, char.isDigit) ∧ cluster.path = parent ++ [id]
  typed : ∃ type, cluster.entityType = some type ∧ type.Explicit ∧ type.class_ = .cluster
  m0 : ∀ block ∈ cluster.m0block, block.Sound registry cluster.path "M0"
  m1 : ∀ block ∈ cluster.m1block, block.Sound registry cluster.path "M1"
  u : cluster.ublock.Sound registry cluster.path "U"
  c : cluster.cblock.Sound registry cluster.path "C"
  i : cluster.iblock.Sound registry cluster.path "I"
  sh : ∀ block ∈ cluster.shblock, block.Sound registry cluster.path "SH"

/-- A carrier with such clusters, its own blocks in their slots, and a location or none. -/
structure CarrierTree.Sound (carrier : CarrierTree (ClusterTree C) C) : Prop where
  path : carrier.path ≠ []
  typed : ∃ type, carrier.entityType = some type ∧ type.Explicit ∧ type.class_ = .carrier
  location : ∀ location ∈ carrier.location, ∃ stack board, location = [stack, board]
  clusters : ∀ cluster ∈ carrier.clusters, cluster.Sound registry carrier.path
  t : ∀ block ∈ carrier.tblock, block.Sound registry carrier.path "T"
  st0 : ∀ block ∈ carrier.st0block, block.Sound registry carrier.path "ST0"
  st1 : ∀ block ∈ carrier.st1block, block.Sound registry carrier.path "ST1"
  st2 : ∀ block ∈ carrier.st2block, block.Sound registry carrier.path "ST2"

/-- The numbers of a cluster that are sent fit their fields. -/
def ClusterTree.Fits (cluster : ClusterTree C) : Prop :=
  TypeFits cluster.entityType ∧
    ∀ block ∈ RedacSerializer.clusterChildren cluster, TypeFits block.entityType

/-- The blocks of a carrier itself. -/
def CarrierTree.ownBlocks {K : Type} (carrier : CarrierTree K C) : List (BlockTree C) :=
  carrier.tblock.toList ++ carrier.st0block.toList ++ carrier.st1block.toList ++
    carrier.st2block.toList

/-- The numbers of a carrier that are sent fit their fields. -/
def CarrierTree.Fits (carrier : CarrierTree (ClusterTree C) C) : Prop :=
  TypeFits carrier.entityType ∧ (∀ location ∈ carrier.location, ∀ part ∈ location, Uint32 part) ∧
    (∀ cluster ∈ carrier.clusters, cluster.Fits) ∧
    ∀ block ∈ carrier.ownBlocks, TypeFits block.entityType

/-- A block without its location, which follows from that of the carrier. -/
def BlockTree.unlocated (block : BlockTree C) : BlockTree C := { block with location := none }

/-- A cluster without locations. -/
def ClusterTree.unlocated (cluster : ClusterTree C) : ClusterTree C :=
  { cluster with
    location := none
    m0block := cluster.m0block.map BlockTree.unlocated
    m1block := cluster.m1block.map BlockTree.unlocated
    ublock := cluster.ublock.unlocated
    cblock := cluster.cblock.unlocated
    iblock := cluster.iblock.unlocated
    shblock := cluster.shblock.map BlockTree.unlocated }

/-- What was built is this cluster. -/
def Built.IsCluster (built : Built C) (cluster : ClusterTree C) : Prop :=
  ∃ rebuilt, built = .cluster rebuilt ∧ rebuilt.unlocated = cluster.unlocated

/-- What was built is this carrier, with its clusters and blocks in order. -/
structure CarrierTree.Is (built : CarrierTree (Built C) C)
    (carrier : CarrierTree (ClusterTree C) C) : Prop where
  path : built.path = carrier.path
  location : built.location = carrier.location
  entityType : built.entityType = carrier.entityType
  clusters : List.Forall₂ Built.IsCluster built.clusters carrier.clusters
  tblock : built.tblock.map BlockTree.unlocated = carrier.tblock.map BlockTree.unlocated
  st0block : built.st0block.map BlockTree.unlocated = carrier.st0block.map BlockTree.unlocated
  st1block : built.st1block.map BlockTree.unlocated = carrier.st1block.map BlockTree.unlocated
  st2block : built.st2block.map BlockTree.unlocated = carrier.st2block.map BlockTree.unlocated

/-- A carrier is sent and read back as it was. -/
def CarrierTree.RoundTrips [DecidableEq C] (depth : Nat) (carrier : CarrierTree (ClusterTree C) C) :
    Prop :=
  ∃ entity built, RedacSerializer.serializeCarrier registry carrier = .ok entity ∧
    RedacDeserializer.deserializeSpecification registry depth entity carrier.path none =
      .ok (.carrier built) ∧
    built.Is carrier

end Trees

namespace SpecificationRoundTrip

/-- A path of one plain part is parsed as that part. -/
theorem parse_single {id : String} (filled : id ≠ "") (plain : '/' ∉ id.toList) :
    Path.parse ("/" ++ id) = .ok [id] := by
  have text : ("/" ++ id).toList = '/' :: id.toList := by simp
  have chars : id.toList ≠ [] := by simpa using filled
  -- The name does not begin with a slash, so that only the first one is stripped.
  have front : ('/' :: id.toList).dropWhile (· = '/') = id.toList := by
    obtain ⟨first, later, split⟩ := List.exists_cons_of_ne_nil chars
    have other : first ≠ '/' := by
      rintro rfl
      exact plain (by simp [split])
    simp [split, other]
  -- Nor does it end with one.
  have back : id.toList.reverse.dropWhile (· = '/') = id.toList.reverse := by
    obtain ⟨last, before, split⟩ := List.exists_cons_of_ne_nil (List.reverse_ne_nil_iff.mpr chars)
    have other : last ≠ '/' := by
      rintro rfl
      exact plain (by rw [← List.mem_reverse, split]; simp)
    simp [split, other]
  have stripped : Path.strip ("/" ++ id).toList = id.toList := by
    unfold Path.strip
    rw [text, front, back, List.reverse_reverse]
  -- And there is none inside at which it would be split.
  have whole : id.toList.splitOn '/' = [id.toList] := by
    refine List.splitOn_eq_singleton_of_beq_eq_false fun char member => ?_
    rw [beq_eq_false_iff_ne]
    rintro rfl
    exact plain member
  unfold Path.parse
  rw [stripped, if_neg chars, whole]
  simp

/-- A path ends in the part that was appended. -/
theorem id_append (parent : Path) (id : String) : Path.id (parent ++ [id]) = .ok id := by
  simp [Path.id]

/-- A number is sent exactly if it fits. -/
theorem toUint32_eq_ok {value : Int} {sent : Nat} :
    toUint32 value = .ok sent ↔ Uint32 value ∧ sent = value.toNat := by
  unfold toUint32 Uint32
  -- What does not fit the field raises.
  by_cases fits : 0 ≤ value ∧ value < 2 ^ 32
  · rw [if_pos fits, Except.ok.injEq]
    exact ⟨fun same => ⟨fits, same.symm⟩, fun both => both.2.symm⟩
  · rw [if_neg fits]
    exact ⟨fun same => (by cases same), fun both => absurd both.1 fits⟩

/-- A version is sent exactly if its parts fit. -/
theorem makeVersion_eq_ok {version sent : Version} :
    RedacSerializer.makeVersion (some version) = .ok sent ↔
      (Uint32 version.major ∧ Uint32 version.minor ∧ Uint32 version.micro) ∧ sent = version := by
  simp only [RedacSerializer.makeVersion, Raising.except_bind_eq_ok, Raising.except_pure_eq_ok,
    toUint32_eq_ok, Int.toNat_natCast]
  -- The three parts are checked one after the other.
  constructor
  · rintro ⟨_, ⟨major, rfl⟩, _, ⟨minor, rfl⟩, _, ⟨micro, rfl⟩, rfl⟩
    exact ⟨⟨major, minor, micro⟩, rfl⟩
  · rintro ⟨⟨major, minor, micro⟩, rfl⟩
    exact ⟨_, ⟨major, rfl⟩, _, ⟨minor, rfl⟩, _, ⟨micro, rfl⟩, rfl⟩

/-- What is sent of an entity with this name and type, without what is below it. -/
def sentEntity (id : String) (type : EntityType) : PbEntity :=
  ⟨"/" ++ id, type.class_.value, (type.type_.getD 0).toNat, (type.variant.getD 0).toNat,
    type.version.getD ⟨0, 0, 0⟩, none, []⟩

/-- An entity with an explicit type is sent exactly if its numbers fit. -/
theorem makeEntity_eq_ok {parent : Path} {id : String} {type : EntityType}
    (explicit : type.Explicit) {entity : PbEntity} :
    RedacSerializer.makeEntity (parent ++ [id]) type = .ok entity ↔
      type.Fits ∧ entity = sentEntity id type := by
  obtain ⟨class_, number, version, variant⟩ := type
  obtain ⟨numbered, versioned, varied⟩ := explicit
  -- An explicit type has all its fields, so that no default comes in.
  obtain ⟨number, rfl⟩ := Option.isSome_iff_exists.mp numbered
  obtain ⟨version, rfl⟩ := Option.isSome_iff_exists.mp versioned
  obtain ⟨variant, rfl⟩ := Option.isSome_iff_exists.mp varied
  simp only [RedacSerializer.makeEntity, RedacSerializer.entityId, id_append,
    Raising.except_bind_eq_ok, Raising.except_pure_eq_ok, toUint32_eq_ok, makeVersion_eq_ok,
    EntityType.Fits, sentEntity, Option.getD_some, Option.mem_some_iff, Except.ok.injEq]
  constructor
  · rintro ⟨_, ⟨_, rfl, rfl⟩, _, ⟨parts, rfl⟩, _, ⟨first, rfl⟩, _, ⟨second, rfl⟩, rfl⟩
    exact ⟨⟨first, second, fun _ same => same ▸ parts⟩, rfl⟩
  · rintro ⟨⟨first, second, parts⟩, rfl⟩
    exact ⟨_, ⟨_, rfl, rfl⟩, _, ⟨parts _ rfl, rfl⟩, _, ⟨first, rfl⟩, _, ⟨second, rfl⟩, rfl⟩

/-- The type that is sent is the type that is read. -/
theorem popFromDict_sentEntity {id : String} {type : EntityType} (explicit : type.Explicit)
    (fits : type.Fits) (location : Option (Nat × Nat)) (children : List PbEntity) :
    EntityType.popFromDict { sentEntity id type with locationV0 := location, children } =
      .ok type := by
  obtain ⟨class_, number, version, variant⟩ := type
  obtain ⟨numbered, versioned, varied⟩ := explicit
  obtain ⟨number, rfl⟩ := Option.isSome_iff_exists.mp numbered
  obtain ⟨version, rfl⟩ := Option.isSome_iff_exists.mp versioned
  obtain ⟨variant, rfl⟩ := Option.isSome_iff_exists.mp varied
  -- The numbers fit an unsigned field, and so come back as they were.
  have first : ((number.toNat : Nat) : Int) = number := Int.toNat_of_nonneg fits.1.1
  have second : ((variant.toNat : Nat) : Int) = variant := Int.toNat_of_nonneg fits.2.1.1
  simp only [EntityType.popFromDict, sentEntity, EntityClass.ofValue_value, Option.getD_some, first,
    second]
  rfl

/-- What is sent of a block. -/
def sentBlock {C : Type} (block : BlockTree C) : PbEntity :=
  sentEntity (block.path.getLast?.getD "") (block.entityType.getD ⟨.unknown, none, none, none⟩)

section Blocks

variable {C : Type} {registry : List (EntityType × C)} {parent : Path} {slot : String}
  {block : BlockTree C}

/-- A sound block is sent exactly if its numbers fit. -/
theorem serializeBlock_eq_ok [DecidableEq C] (sound : block.Sound registry parent slot)
    (entity : PbEntity) :
    RedacSerializer.serializeBlock registry block = .ok entity ↔
      TypeFits block.entityType ∧ entity = sentBlock block := by
  -- A sound block has a type and a path that ends with its slot.
  obtain ⟨type, typed, explicit, -⟩ := sound.typed
  simp only [RedacSerializer.serializeBlock, typed, sound.path, Raising.except_bind_eq_ok,
    Raising.except_pure_eq_ok, exists_eq_left', makeEntity_eq_ok explicit, TypeFits, sentBlock,
    List.getLast?_concat, Option.getD_some, Option.mem_some_iff, forall_eq']

/-- A sound block that was sent is built again, with the location that is handed down. -/
theorem specFunctionBlock_sent (sound : block.Sound registry parent slot)
    (fits : TypeFits block.entityType) (location : Option EntityLoc) :
    RedacDeserializer.specFunctionBlock registry (sentBlock block) (parent ++ [slot]) location =
      .ok { block with location } := by
  obtain ⟨type, typed, explicit, registered⟩ := sound.typed
  -- The type is read back, and its class is the one that is registered.
  have popped : EntityType.popFromDict (sentEntity slot type) = .ok type :=
    popFromDict_sentEntity explicit (fits type typed) none []
  simp only [RedacDeserializer.specFunctionBlock, sentBlock, sound.path, List.getLast?_concat,
    Option.getD_some, typed, popped, registered, bind, Except.bind, pure, Except.pure]

/-- The name of a slot is parsed as it is. -/
theorem parse_sentBlock (sound : block.Sound registry parent slot) (filled : slot ≠ "")
    (plain : '/' ∉ slot.toList) : Path.parse (sentBlock block).id = .ok [slot] := by
  -- What is sent is the slot alone, behind a slash.
  have name : (sentBlock block).id = "/" ++ slot := by
    simp [sentBlock, sentEntity, sound.path]
  rw [name, parse_single filled plain]

/-- A sound block is collected under the keyword of its slot. -/
theorem addBlock_sent (sound : block.Sound registry parent slot) (fits : TypeFits block.entityType)
    (filled : slot ≠ "") (plain : '/' ∉ slot.toList) (location : Option EntityLoc)
    (blocks : List (String × BlockTree C)) :
    RedacDeserializer.addBlock registry parent location blocks (sentBlock block) =
      .ok (RedacDeserializer.setKey blocks (RedacDeserializer.blockKey slot)
        { block with location }) := by
  -- The path is put together again from the slot and the parent.
  simp only [RedacDeserializer.addBlock, parse_sentBlock sound filled plain,
    specFunctionBlock_sent sound fits, id_append, bind, Except.bind, pure, Except.pure]

end Blocks

/-- What is sent of a cluster. -/
def sentCluster {C : Type} (cluster : ClusterTree C) : PbEntity :=
  { sentEntity (cluster.path.getLast?.getD "")
      (cluster.entityType.getD ⟨.cluster, none, none, none⟩) with
    children := (RedacSerializer.clusterChildren cluster).map sentBlock }

/-- What is built again of a cluster: all of it but the block that was not sent. -/
def rebuiltCluster {C : Type} (cluster : ClusterTree C) (location : Option EntityLoc) :
    ClusterTree C :=
  { cluster with
    location
    m0block := cluster.m0block.map fun block => { block with location }
    m1block := cluster.m1block.map fun block => { block with location }
    ublock := { cluster.ublock with location }
    cblock := { cluster.cblock with location }
    iblock := { cluster.iblock with location }
    shblock := none }

section Clusters

variable {C : Type} {registry : List (EntityType × C)} {parent : Path} {cluster : ClusterTree C}

/-- The children of a sound cluster are sound blocks in named slots. -/
theorem sound_clusterChildren (sound : cluster.Sound registry parent) :
    ∀ block ∈ RedacSerializer.clusterChildren cluster,
      ∃ slot, block.Sound registry cluster.path slot := by
  intro block member
  simp only [RedacSerializer.clusterChildren, List.mem_append, Option.mem_toList, List.mem_cons,
    List.not_mem_nil, or_false] at member
  -- Each of the children is in its slot.
  rcases member with (m0 | m1) | rfl | rfl | rfl
  · exact ⟨_, sound.m0 block m0⟩
  · exact ⟨_, sound.m1 block m1⟩
  · exact ⟨_, sound.u⟩
  · exact ⟨_, sound.c⟩
  · exact ⟨_, sound.i⟩

/-- A sound cluster is sent exactly if its numbers fit. -/
theorem serializeCluster_eq_ok [DecidableEq C] (sound : cluster.Sound registry parent)
    (entity : PbEntity) :
    RedacSerializer.serializeCluster registry cluster = .ok entity ↔
      cluster.Fits ∧ entity = sentCluster cluster := by
  obtain ⟨type, typed, explicit, -⟩ := sound.typed
  obtain ⟨id, -, -, path⟩ := sound.path
  -- The blocks below it are serialized one by one, and the first that does not fit raises.
  have children : ∀ entities,
      (RedacSerializer.clusterChildren cluster).mapM (RedacSerializer.serializeBlock registry) =
          .ok entities ↔
        (∀ block ∈ RedacSerializer.clusterChildren cluster, TypeFits block.entityType) ∧
          entities = (RedacSerializer.clusterChildren cluster).map sentBlock := by
    intro entities
    refine Raising.mapM_eq_ok_iff fun block member entity => ?_
    obtain ⟨slot, placed⟩ := sound_clusterChildren sound block member
    exact serializeBlock_eq_ok placed entity
  simp only [RedacSerializer.serializeCluster, typed, path, Option.getD_some,
    Raising.except_bind_eq_ok, Raising.except_pure_eq_ok, makeEntity_eq_ok explicit, children,
    ClusterTree.Fits, TypeFits, Option.mem_some_iff, forall_eq', sentCluster, List.getLast?_concat]
  constructor
  · rintro ⟨_, ⟨fits, rfl⟩, _, ⟨below, rfl⟩, rfl⟩
    exact ⟨⟨fits, below⟩, rfl⟩
  · rintro ⟨⟨fits, below⟩, rfl⟩
    exact ⟨_, ⟨fits, rfl⟩, _, ⟨below, rfl⟩, rfl⟩

/-- The children of a cluster with the slots they stand in. -/
def slots (cluster : ClusterTree C) : List (String × BlockTree C) :=
  cluster.m0block.toList.map ("M0", ·) ++ cluster.m1block.toList.map ("M1", ·) ++
    [("U", cluster.ublock), ("C", cluster.cblock), ("I", cluster.iblock)]

/-- The slots list the children in order. -/
theorem map_slots : (slots cluster).map Prod.snd = RedacSerializer.clusterChildren cluster := by
  simp [slots, RedacSerializer.clusterChildren, Function.comp_def]

/-- A block stands in its slot, which is one of five. -/
theorem mem_slots (sound : cluster.Sound registry parent) :
    ∀ entry ∈ slots cluster, entry.2.Sound registry cluster.path entry.1 ∧
      entry.1 ∈ ["M0", "M1", "U", "C", "I"] := by
  intro entry member
  simp only [slots, List.mem_append, List.mem_map, Option.mem_toList, List.mem_cons,
    List.not_mem_nil, or_false] at member
  -- The slots are those of the children, in the same order.
  rcases member with (⟨block, m0, rfl⟩ | ⟨block, m1, rfl⟩) | rfl | rfl | rfl
  · exact ⟨sound.m0 block m0, by simp⟩
  · exact ⟨sound.m1 block m1, by simp⟩
  · exact ⟨sound.u, by simp⟩
  · exact ⟨sound.c, by simp⟩
  · exact ⟨sound.i, by simp⟩

/-- A keyword that is new is put behind the others. -/
theorem setKey_of_new {β : Type} {entries : List (String × β)} {key : String} (value : β)
    (new : key ∉ entries.map Prod.fst) :
    RedacDeserializer.setKey entries key value = entries ++ [(key, value)] :=
  if_neg new

/-- Blocks in different slots are collected one after the other. -/
theorem foldlM_addBlock (location : Option EntityLoc) :
    ∀ (entries : List (String × BlockTree C)) (blocks : List (String × BlockTree C)),
      (∀ entry ∈ entries, entry.2.Sound registry parent entry.1 ∧
        entry.1 ∈ ["M0", "M1", "U", "C", "I"]) →
      (∀ entry ∈ entries, TypeFits entry.2.entityType) →
      (blocks.map Prod.fst ++ entries.map fun entry =>
        RedacDeserializer.blockKey entry.1).Nodup →
      (entries.map fun entry => sentBlock entry.2).foldlM
          (RedacDeserializer.addBlock registry parent location) blocks =
        .ok (blocks ++ entries.map fun entry =>
          (RedacDeserializer.blockKey entry.1, { entry.2 with location })) := by
  intro entries
  -- The induction is on the children still to be collected.
  induction entries with
  | nil =>
    intro blocks _ _ _
    simp [pure, Except.pure]
  | cons entry later ih =>
    intro blocks placed fits distinct
    obtain ⟨sound, slot⟩ := placed entry List.mem_cons_self
    have named : entry.1 ≠ "" ∧ '/' ∉ entry.1.toList := by
      revert slot
      generalize entry.1 = slot
      simp only [List.mem_cons, List.not_mem_nil, or_false]
      rintro (rfl | rfl | rfl | rfl | rfl) <;> decide
    have new : RedacDeserializer.blockKey entry.1 ∉ blocks.map Prod.fst := by
      intro known
      exact List.disjoint_of_nodup_append distinct known (by simp)
    have added := addBlock_sent sound (fits entry List.mem_cons_self) named.1 named.2 location blocks
    rw [setKey_of_new _ new] at added
    rw [List.map_cons, List.foldlM_cons, added]
    have rest := ih (blocks ++ [(RedacDeserializer.blockKey entry.1, { entry.2 with location })])
      (fun other member => placed other (List.mem_cons_of_mem _ member))
      (fun other member => fits other (List.mem_cons_of_mem _ member)) (by simpa using distinct)
    simp only [bind, Except.bind]
    simpa using rest

/-- The keywords of the children are different. -/
theorem nodup_slotKeys (cluster : ClusterTree C) :
    ((slots cluster).map fun entry => RedacDeserializer.blockKey entry.1).Nodup := by
  -- The optional blocks are there or not.
  cases m0 : cluster.m0block <;> cases m1 : cluster.m1block <;>
    · simp only [slots, m0, m1, Option.toList_none, Option.toList_some, List.map_nil, List.map_cons,
        List.nil_append, List.cons_append]
      decide

/-- A sound cluster that was sent is built again, without its SH-block. -/
theorem specCluster_sent (sound : cluster.Sound registry parent) (fits : cluster.Fits)
    (location : Option EntityLoc) :
    RedacDeserializer.specCluster registry (sentCluster cluster) cluster.path location =
      .ok (rebuiltCluster cluster location) := by
  obtain ⟨type, typed, explicit, kind⟩ := sound.typed
  have popped : EntityType.popFromDict (sentCluster cluster) = .ok type := by
    rw [sentCluster, typed]
    exact popFromDict_sentEntity explicit (fits.1 type typed) none _
  have children : (sentCluster cluster).children =
      (slots cluster).map fun entry => sentBlock entry.2 := by
    simp only [sentCluster, ← map_slots, List.map_map]
    rfl
  have collected := foldlM_addBlock location (slots cluster) [] (mem_slots sound)
    (fun entry member => fits.2 _ (by rw [← map_slots]; exact List.mem_map_of_mem member))
    (by simpa using nodup_slotKeys cluster)
  have keys : RedacDeserializer.blockKey "M0" = "m0block" ∧
      RedacDeserializer.blockKey "M1" = "m1block" ∧ RedacDeserializer.blockKey "U" = "ublock" ∧
      RedacDeserializer.blockKey "C" = "cblock" ∧ RedacDeserializer.blockKey "I" = "iblock" := by
    decide
  obtain ⟨m0Key, m1Key, uKey, cKey, iKey⟩ := keys
  rw [← children] at collected
  simp only [RedacDeserializer.specCluster, popped, kind, collected, bind, Except.bind, ne_eq,
    not_true_eq_false, if_false]
  -- The optional blocks are there or not; in each case the collected keywords are known.
  cases m0 : cluster.m0block <;> cases m1 : cluster.m1block <;>
    simp [slots, m0, m1, m0Key, m1Key, uKey, cKey, iKey, RedacDeserializer.clusterKeys,
      RedacDeserializer.requireBlock, List.lookup, rebuiltCluster, typed, pure, Except.pure]

/-- Only a missing SH-block tells the cluster from the one that was sent. -/
theorem unlocated_rebuiltCluster {location : Option EntityLoc} :
    (rebuiltCluster cluster location).unlocated = cluster.unlocated ↔ cluster.shblock = none := by
  constructor
  -- The rebuilt cluster has no SH-block, so that there was none.
  · intro same
    have missing := congrArg ClusterTree.shblock same
    simpa [rebuiltCluster, ClusterTree.unlocated, eq_comm] using missing
  · intro missing
    simp only [rebuiltCluster, ClusterTree.unlocated, BlockTree.unlocated, missing, Option.map_map,
      Option.map_none]
    rfl

end Clusters

/-- The name of a cluster. -/
def clusterId {C : Type} (cluster : ClusterTree C) : String := cluster.path.getLast?.getD ""

/-- What is sent of a carrier. -/
def sentCarrier {C : Type} (carrier : CarrierTree (ClusterTree C) C) : PbEntity :=
  { sentEntity (carrier.path.getLast?.getD "")
      (carrier.entityType.getD ⟨.carrier, none, none, none⟩) with
    locationV0 := carrier.location.map fun location =>
      ((location.getD 0 0).toNat, (location.getD 1 0).toNat)
    children := carrier.clusters.map sentCluster ++ carrier.ownBlocks.map sentBlock }

section Carriers

variable {C : Type} {registry : List (EntityType × C)} {carrier : CarrierTree (ClusterTree C) C}

/-- The blocks of a sound carrier are sound. -/
theorem sound_ownBlocks (sound : carrier.Sound registry) :
    ∀ block ∈ carrier.ownBlocks, ∃ slot, block.Sound registry carrier.path slot := by
  intro block member
  simp only [CarrierTree.ownBlocks, List.mem_append, Option.mem_toList] at member
  -- The carrier's own blocks come in four slots.
  rcases member with ((t | st0) | st1) | st2
  · exact ⟨_, sound.t block t⟩
  · exact ⟨_, sound.st0 block st0⟩
  · exact ⟨_, sound.st1 block st1⟩
  · exact ⟨_, sound.st2 block st2⟩

/-- The location of a sound carrier is sent exactly if its parts fit. -/
theorem serializeLocation_eq_ok (sound : carrier.Sound registry) {sent : Option (Nat × Nat)} :
    carrier.location.mapM RedacSerializer.serializeLocation = .ok sent ↔
      (∀ location ∈ carrier.location, ∀ part ∈ location, Uint32 part) ∧
        sent = carrier.location.map fun location =>
          ((location.getD 0 0).toNat, (location.getD 1 0).toNat) := by
  -- Only a location that is present is checked and sent.
  cases held : carrier.location with
  | none => simp [pure, Except.pure, eq_comm]
  | some location =>
    obtain ⟨stack, board, rfl⟩ := sound.location location held
    simp only [Option.mapM_some, RedacSerializer.serializeLocation, Raising.except_map_eq_ok,
      Raising.except_bind_eq_ok, Raising.except_pure_eq_ok, toUint32_eq_ok, Option.map_some,
      Option.mem_some_iff, forall_eq', List.forall_mem_cons, List.not_mem_nil, false_imp_iff,
      implies_true, and_true, List.getD_cons_zero, List.getD_cons_succ]
    constructor
    · rintro ⟨_, ⟨_, ⟨first, rfl⟩, _, ⟨second, rfl⟩, rfl⟩, rfl⟩
      exact ⟨⟨first, second⟩, rfl⟩
    · rintro ⟨⟨first, second⟩, rfl⟩
      exact ⟨_, ⟨_, ⟨first, rfl⟩, _, ⟨second, rfl⟩, rfl⟩, rfl⟩

/-- A sound carrier is sent exactly if its numbers fit. -/
theorem serializeCarrier_eq_ok [DecidableEq C] (sound : carrier.Sound registry) (entity : PbEntity) :
    RedacSerializer.serializeCarrier registry carrier = .ok entity ↔
      carrier.Fits ∧ entity = sentCarrier carrier := by
  obtain ⟨type, typed, explicit, -⟩ := sound.typed
  obtain ⟨parent, id, path⟩ : ∃ parent id, carrier.path = parent ++ [id] :=
    ⟨_, _, (List.dropLast_append_getLast sound.path).symm⟩
  -- First the clusters are serialized, then the carrier's own blocks.
  have clusters : ∀ entities,
      carrier.clusters.mapM (RedacSerializer.serializeCluster registry) = .ok entities ↔
        (∀ cluster ∈ carrier.clusters, cluster.Fits) ∧
          entities = carrier.clusters.map sentCluster := by
    intro entities
    exact Raising.mapM_eq_ok_iff fun cluster member entity =>
      serializeCluster_eq_ok (sound.clusters cluster member) entity
  have blocks : ∀ entities,
      carrier.ownBlocks.mapM (RedacSerializer.serializeBlock registry) = .ok entities ↔
        (∀ block ∈ carrier.ownBlocks, TypeFits block.entityType) ∧
          entities = carrier.ownBlocks.map sentBlock := by
    intro entities
    refine Raising.mapM_eq_ok_iff fun block member entity => ?_
    obtain ⟨slot, placed⟩ := sound_ownBlocks sound block member
    exact serializeBlock_eq_ok placed entity
  unfold RedacSerializer.serializeCarrier
  rw [← CarrierTree.ownBlocks]
  simp only [typed, path, Option.getD_some, Raising.except_bind_eq_ok, Raising.except_pure_eq_ok,
    makeEntity_eq_ok explicit, serializeLocation_eq_ok sound, clusters, blocks, CarrierTree.Fits,
    TypeFits, Option.mem_some_iff, forall_eq', sentCarrier, List.getLast?_concat]
  constructor
  · rintro ⟨_, ⟨fits, rfl⟩, _, ⟨located, rfl⟩, _, ⟨inside, rfl⟩, _, ⟨own, rfl⟩, rfl⟩
    exact ⟨⟨fits, located, inside, own⟩, rfl⟩
  · rintro ⟨⟨fits, located, inside, own⟩, rfl⟩
    exact ⟨_, ⟨fits, rfl⟩, _, ⟨located, rfl⟩, _, ⟨inside, rfl⟩, _, ⟨own, rfl⟩, rfl⟩

/-- The location that is sent is the location that is read. -/
theorem location_sentCarrier (sound : carrier.Sound registry) (fits : carrier.Fits) :
    (match (sentCarrier carrier).locationV0 with
      | some (stack, board) => some [(stack : Int), (board : Int)]
      | none => none) = carrier.location := by
  cases held : carrier.location with
  | none => simp [sentCarrier, held]
  | some location =>
    obtain ⟨stack, board, rfl⟩ := sound.location location held
    have parts := fits.2.1 _ held
    -- Both numbers fit an unsigned field, and so come back as they were.
    have first : ((stack.toNat : Nat) : Int) = stack := Int.toNat_of_nonneg (parts stack (by simp)).1
    have second : ((board.toNat : Nat) : Int) = board := Int.toNat_of_nonneg (parts board (by simp)).1
    simp [sentCarrier, held, first, second]

/-- A name of digits is none of the other names that a carrier looks for. -/
theorem numeric_ne {id name : String} (numeric : ∀ char ∈ id.toList, char.isDigit)
    (char : Char) (named : char ∈ name.toList) (letter : char.isDigit = false) : id ≠ name := by
  rintro rfl
  simp [numeric char named] at letter

/-- A numeric name can be parsed. -/
theorem numeric_plain {id : String} (numeric : ∀ char ∈ id.toList, char.isDigit) :
    '/' ∉ id.toList := by
  intro member
  exact absurd (numeric _ member) (by decide)

variable {dispatch : PbEntity → Path → Option EntityLoc → Except PyError (Built C)}

/-- A cluster is collected if its name is a part of the text of all digits, and else passed over. -/
theorem addChild_sentCluster {cluster : ClusterTree C} {built : CarrierTree (Built C) C}
    (sound : cluster.Sound registry built.path)
    (dispatched : ∀ location, dispatch (sentCluster cluster) cluster.path location =
      .ok (.cluster (rebuiltCluster cluster location))) :
    RedacDeserializer.addChild registry dispatch built (sentCluster cluster) =
      .ok { built with
        clusters := built.clusters ++
          if RedacDeserializer.isClusterId (clusterId cluster) then
            [.cluster (rebuiltCluster cluster (built.location.map fun location =>
              location ++ [((clusterId cluster).toNat?.getD 0 : Int)]))]
          else [] } := by
  obtain ⟨id, filled, numeric, path⟩ := sound.path
  have named : clusterId cluster = id := by simp [clusterId, path]
  have name : (sentCluster cluster).id = "/" ++ id := by
    simp [sentCluster, sentEntity, path]
  -- A name of digits is none of the names of the carrier's own blocks.
  have others : id ≠ "T" ∧ id ≠ "ST0" ∧ id ≠ "ST1" ∧ id ≠ "ST2" ∧ id ≠ "FP" := by
    refine ⟨?_, ?_, ?_, ?_, ?_⟩
    · exact numeric_ne numeric 'T' (by decide) (by decide)
    · exact numeric_ne numeric 'S' (by decide) (by decide)
    · exact numeric_ne numeric 'S' (by decide) (by decide)
    · exact numeric_ne numeric 'S' (by decide) (by decide)
    · exact numeric_ne numeric 'F' (by decide) (by decide)
  obtain ⟨t, st0, st1, st2, fp⟩ := others
  unfold RedacDeserializer.addChild
  rw [name, parse_single filled (numeric_plain numeric), named]
  simp only [bind, Except.bind, id_append, filled, t, st0, st1, st2, fp, if_false]
  -- Whether the cluster is collected depends on its name alone.
  by_cases kept : RedacDeserializer.isClusterId id = true
  · simp only [kept, if_true, ← path, dispatched, pure, Except.pure]
  · simp only [kept, if_false, List.append_nil, Bool.false_eq_true, pure, Except.pure]

/-- The clusters whose names are found again, as they are built. -/
def rebuiltClusters (location : Option EntityLoc) (clusters : List (ClusterTree C)) :
    List (Built C) :=
  clusters.flatMap fun cluster =>
    if RedacDeserializer.isClusterId (clusterId cluster) then
      [.cluster (rebuiltCluster cluster (location.map fun location =>
        location ++ [((clusterId cluster).toNat?.getD 0 : Int)]))]
    else []

/-- The clusters of a carrier are collected in order. -/
theorem foldlM_sentClusters : ∀ {clusters : List (ClusterTree C)} (built : CarrierTree (Built C) C),
    (∀ cluster ∈ clusters, cluster.Sound registry built.path) →
    (∀ cluster ∈ clusters, ∀ location, dispatch (sentCluster cluster) cluster.path location =
      .ok (.cluster (rebuiltCluster cluster location))) →
    (clusters.map sentCluster).foldlM (RedacDeserializer.addChild registry dispatch) built =
      .ok { built with clusters := built.clusters ++ rebuiltClusters built.location clusters } := by
  intro clusters
  -- The induction is on the clusters still to be collected.
  induction clusters with
  | nil =>
    intro built _ _
    simp [rebuiltClusters, pure, Except.pure]
  | cons cluster later ih =>
    intro built sound dispatched
    have added := addChild_sentCluster (sound cluster List.mem_cons_self)
      (dispatched cluster List.mem_cons_self)
    rw [List.map_cons, List.foldlM_cons, added]
    simp only [bind, Except.bind]
    refine (ih _ (fun other member => ?_) fun other member => ?_).trans ?_
    · exact sound other (List.mem_cons_of_mem _ member)
    · exact dispatched other (List.mem_cons_of_mem _ member)
    · simp [rebuiltClusters]

/-- The carrier with a block put into one of its slots. -/
def fillSlot (slot : String) (block : BlockTree C) (built : CarrierTree (Built C) C) :
    CarrierTree (Built C) C :=
  let stack := built.location.map (·.take 1)
  if slot = "T" then { built with tblock := some { block with location := built.location } }
  else if slot = "ST0" then { built with st0block := some { block with location := stack } }
  else if slot = "ST1" then { built with st1block := some { block with location := stack } }
  else { built with st2block := some { block with location := stack } }

/-- A block of a carrier is put into its slot, if there is one. -/
theorem foldlM_sentBlock {slot : String} (known : slot ∈ ["T", "ST0", "ST1", "ST2"])
    {block : Option (BlockTree C)} {built : CarrierTree (Built C) C}
    (sound : ∀ present ∈ block, present.Sound registry built.path slot)
    (fits : ∀ present ∈ block, TypeFits present.entityType) :
    (block.toList.map sentBlock).foldlM (RedacDeserializer.addChild registry dispatch) built =
      .ok (block.elim built fun present => fillSlot slot present built) := by
  cases block with
  | none => rfl
  | some present =>
    have placed := sound present rfl
    have named : slot ≠ "" ∧ '/' ∉ slot.toList := by
      revert known
      simp only [List.mem_cons, List.not_mem_nil, or_false]
      rintro (rfl | rfl | rfl | rfl) <;> decide
    have rebuilt := specFunctionBlock_sent placed (fits present rfl)
    -- Each of the four names leads to the branch that fills its slot.
    have step : RedacDeserializer.addChild registry dispatch built (sentBlock present) =
        .ok (fillSlot slot present built) := by
      unfold RedacDeserializer.addChild fillSlot
      rw [parse_sentBlock placed named.1 named.2]
      simp only [bind, Except.bind, id_append, rebuilt, pure, Except.pure]
      simp only [List.mem_cons, List.not_mem_nil, or_false] at known
      rcases known with rfl | rfl | rfl | rfl <;> rfl
    simp only [Option.toList_some, List.map_cons, List.map_nil, List.foldlM_cons, List.foldlM_nil,
      step, Option.elim_some, bind, Except.bind, pure, Except.pure]

/-- The path and the location of a carrier stay when a slot is filled. -/
theorem fillSlot_frame (slot : String) (block : Option (BlockTree C)) (built : CarrierTree (Built C) C) :
    (block.elim built fun present => fillSlot slot present built).path = built.path ∧
      (block.elim built fun present => fillSlot slot present built).location = built.location := by
  cases block with
  | none => exact ⟨rfl, rfl⟩
  | some present =>
    -- Filling a slot leaves path and location alone.
    simp only [Option.elim_some, fillSlot]
    split
    · exact ⟨rfl, rfl⟩
    · split
      · exact ⟨rfl, rfl⟩
      · split <;> exact ⟨rfl, rfl⟩

/-- The blocks of a carrier are put into their slots. -/
theorem foldlM_sentBlocks (sound : carrier.Sound registry)
    (fits : ∀ block ∈ carrier.ownBlocks, TypeFits block.entityType)
    (built : CarrierTree (Built C) C) (path : built.path = carrier.path)
    (empty : built.tblock = none ∧ built.st0block = none ∧ built.st1block = none ∧
      built.st2block = none) :
    (carrier.ownBlocks.map sentBlock).foldlM (RedacDeserializer.addChild registry dispatch) built =
      .ok { built with
        tblock := carrier.tblock.map fun block => { block with location := built.location }
        st0block := carrier.st0block.map fun block =>
          { block with location := built.location.map (·.take 1) }
        st1block := carrier.st1block.map fun block =>
          { block with location := built.location.map (·.take 1) }
        st2block := carrier.st2block.map fun block =>
          { block with location := built.location.map (·.take 1) } } := by
  have own : ∀ {block}, block ∈ carrier.tblock ∨ block ∈ carrier.st0block ∨
      block ∈ carrier.st1block ∨ block ∈ carrier.st2block → TypeFits block.entityType := by
    intro block member
    refine fits block ?_
    simp only [CarrierTree.ownBlocks, List.mem_append, Option.mem_toList]
    tauto
  -- Each slot is filled on its own; the path and the location it is filled with do not change.
  have first : (carrier.tblock.toList.map sentBlock).foldlM
      (RedacDeserializer.addChild registry dispatch) built = .ok _ :=
    foldlM_sentBlock (by decide : "T" ∈ _) (path ▸ sound.t) fun _ member => own (.inl member)
  obtain ⟨path1, location1⟩ := fillSlot_frame "T" carrier.tblock built
  generalize held1 : (carrier.tblock.elim built fun present => fillSlot "T" present built) = built1
    at first path1 location1
  have second : (carrier.st0block.toList.map sentBlock).foldlM
      (RedacDeserializer.addChild registry dispatch) built1 = .ok _ :=
    foldlM_sentBlock (by decide : "ST0" ∈ _) ((path1.trans path) ▸ sound.st0)
      fun _ member => own (.inr (.inl member))
  obtain ⟨path2, location2⟩ := fillSlot_frame "ST0" carrier.st0block built1
  generalize held2 : (carrier.st0block.elim built1 fun present => fillSlot "ST0" present built1) =
    built2 at second path2 location2
  have third : (carrier.st1block.toList.map sentBlock).foldlM
      (RedacDeserializer.addChild registry dispatch) built2 = .ok _ :=
    foldlM_sentBlock (by decide : "ST1" ∈ _) ((path2.trans (path1.trans path)) ▸ sound.st1)
      fun _ member => own (.inr (.inr (.inl member)))
  obtain ⟨path3, location3⟩ := fillSlot_frame "ST1" carrier.st1block built2
  generalize held3 : (carrier.st1block.elim built2 fun present => fillSlot "ST1" present built2) =
    built3 at third path3 location3
  have fourth : (carrier.st2block.toList.map sentBlock).foldlM
      (RedacDeserializer.addChild registry dispatch) built3 = .ok _ :=
    foldlM_sentBlock (by decide : "ST2" ∈ _)
      ((path3.trans (path2.trans (path1.trans path))) ▸ sound.st2)
      fun _ member => own (.inr (.inr (.inr member)))
  rw [CarrierTree.ownBlocks, List.map_append, List.map_append, List.map_append, List.foldlM_append,
    List.foldlM_append, List.foldlM_append, first]
  simp only [bind, Except.bind, second, third, fourth]
  subst held3 held2 held1
  obtain ⟨path', location, entityType, clusters, t, st0, st1, st2⟩ := built
  obtain ⟨rfl, rfl, rfl, rfl⟩ := empty
  congr 1
  cases carrier.tblock <;> cases carrier.st0block <;> cases carrier.st1block <;>
    cases carrier.st2block <;> simp [fillSlot]

/-- What is built again of a carrier. -/
def rebuiltCarrier (carrier : CarrierTree (ClusterTree C) C) : CarrierTree (Built C) C where
  path := carrier.path
  location := carrier.location
  entityType := carrier.entityType
  clusters := rebuiltClusters carrier.location carrier.clusters
  tblock := carrier.tblock.map fun block => { block with location := carrier.location }
  st0block := carrier.st0block.map fun block =>
    { block with location := carrier.location.map (·.take 1) }
  st1block := carrier.st1block.map fun block =>
    { block with location := carrier.location.map (·.take 1) }
  st2block := carrier.st2block.map fun block =>
    { block with location := carrier.location.map (·.take 1) }

/-- A carrier is built by its handler, which hands its numbered children one call deeper. -/
theorem deserializeSpecification_carrier {entity : PbEntity}
    (class_ : entity.class_ = EntityClass.carrier.value) (depth : Nat) (path : Path)
    (location : Option EntityLoc) :
    RedacDeserializer.deserializeSpecification registry (depth + 1) entity path location =
      (RedacDeserializer.specCarrier registry
        (RedacDeserializer.deserializeSpecification registry depth) entity path location).map
          .carrier := by
  rw [RedacDeserializer.deserializeSpecification, class_, EntityClass.ofValue_value]
  rfl

/-- A sound carrier that was sent is built again, with the clusters whose names are found. -/
theorem deserializeSpecification_sent (sound : carrier.Sound registry) (fits : carrier.Fits)
    (depth : Nat) :
    RedacDeserializer.deserializeSpecification registry (depth + 2) (sentCarrier carrier)
        carrier.path none = .ok (.carrier (rebuiltCarrier carrier)) := by
  obtain ⟨type, typed, explicit, kind⟩ := sound.typed
  have popped : EntityType.popFromDict (sentCarrier carrier) = .ok type := by
    rw [sentCarrier, typed]
    exact popFromDict_sentEntity explicit (fits.1 type typed) _ _
  have class_ : (sentCarrier carrier).class_ = EntityClass.carrier.value := by
    simp [sentCarrier, sentEntity, typed, kind]
  -- A cluster among the children is built by the handler of its own class, one call deeper.
  have dispatched : ∀ cluster ∈ carrier.clusters, ∀ location,
      RedacDeserializer.deserializeSpecification registry (depth + 1) (sentCluster cluster)
        cluster.path location = .ok (.cluster (rebuiltCluster cluster location)) := by
    intro cluster member location
    obtain ⟨type', typed', -, kind'⟩ := (sound.clusters cluster member).typed
    have class' : (sentCluster cluster).class_ = EntityClass.cluster.value := by
      simp [sentCluster, sentEntity, typed', kind']
    simp only [RedacDeserializer.deserializeSpecification, class', EntityClass.ofValue_value, bind,
      Except.bind, specCluster_sent (sound.clusters cluster member) (fits.2.2.1 cluster member),
      Except.map]
  have children : (sentCarrier carrier).children =
      carrier.clusters.map sentCluster ++ carrier.ownBlocks.map sentBlock := rfl
  have location := location_sentCarrier sound fits
  rw [deserializeSpecification_carrier class_]
  generalize RedacDeserializer.deserializeSpecification registry (depth + 1) = dispatch at dispatched ⊢
  have collected : RedacDeserializer.specCarrier registry dispatch (sentCarrier carrier) carrier.path
      none = (carrier.clusters.map sentCluster ++ carrier.ownBlocks.map sentBlock).foldlM
        (RedacDeserializer.addChild registry dispatch)
        ⟨carrier.path, carrier.location, some type, [], none, none, none, none⟩ := by
    simp only [RedacDeserializer.specCarrier, bind, Except.bind, popped, kind, ne_eq,
      not_true_eq_false, if_false, children]
    exact congrArg (fun location =>
      (carrier.clusters.map sentCluster ++ carrier.ownBlocks.map sentBlock).foldlM
        (RedacDeserializer.addChild registry dispatch)
        ⟨carrier.path, location, some type, [], none, none, none, none⟩) location
  rw [collected, List.foldlM_append, foldlM_sentClusters _ sound.clusters dispatched]
  simp only [bind, Except.bind, List.nil_append]
  rw [foldlM_sentBlocks sound fits.2.2.2 _ rfl ⟨rfl, rfl, rfl, rfl⟩]
  simp only [Except.map, rebuiltCarrier, typed]

/-- No more clusters are built again than there are. -/
theorem length_rebuiltClusters_le (location : Option EntityLoc) (clusters : List (ClusterTree C)) :
    (rebuiltClusters location clusters).length ≤ clusters.length := by
  induction clusters with
  | nil => simp [rebuiltClusters]
  | cons cluster later ih =>
    simp only [rebuiltClusters, List.flatMap_cons, List.length_append, List.length_cons] at ih ⊢
    -- Each cluster is rebuilt once, or not at all.
    split
    · simp only [List.length_singleton]
      omega
    · simp only [List.length_nil]
      omega

/-- A cluster is lost if its name is not found, and changed if it has an SH-block. -/
theorem rebuiltClusters_are {location : Option EntityLoc} {clusters : List (ClusterTree C)} :
    List.Forall₂ Built.IsCluster (rebuiltClusters location clusters) clusters ↔
      ∀ cluster ∈ clusters, RedacDeserializer.isClusterId (clusterId cluster) = true ∧
        cluster.shblock = none := by
  induction clusters with
  | nil => simp [rebuiltClusters]
  | cons cluster later ih =>
    have split : rebuiltClusters location (cluster :: later) =
        rebuiltClusters location [cluster] ++ rebuiltClusters location later := by
      simp [rebuiltClusters]
    rw [split, List.forall_mem_cons, ← ih]
    by_cases found : RedacDeserializer.isClusterId (clusterId cluster) = true
    · simp only [rebuiltClusters, List.flatMap_cons, found, if_true, List.flatMap_nil,
        List.append_nil, List.cons_append, List.nil_append, List.forall₂_cons, true_and]
      refine and_congr ?_ Iff.rfl
      constructor
      · rintro ⟨rebuilt, same, unlocated⟩
        cases same
        exact unlocated_rebuiltCluster.mp unlocated
      · intro missing
        exact ⟨_, rfl, unlocated_rebuiltCluster.mpr missing⟩
    · simp only [rebuiltClusters, List.flatMap_cons, found, if_false, List.flatMap_nil,
        List.append_nil, List.nil_append, Bool.false_eq_true, false_and, iff_false]
      intro all
      have lengths := all.length_eq
      -- One cluster is missing, and no other one is built in its place.
      have bound := length_rebuiltClusters_le location later
      rw [rebuiltClusters] at bound
      rw [List.length_cons] at lengths
      omega

/-- A carrier that comes back fits the fields, and none of its clusters is lost or changed. -/
theorem kept_of_roundTrips [DecidableEq C] (sound : carrier.Sound registry) {depth : Nat}
    (restored : carrier.RoundTrips registry (depth + 2)) :
    (∀ cluster ∈ carrier.clusters, cluster.shblock = none ∧
      RedacDeserializer.isClusterId (clusterId cluster) = true) ∧ carrier.Fits := by
  obtain ⟨entity, built, sent, read, is⟩ := restored
  obtain ⟨fits, rfl⟩ := (serializeCarrier_eq_ok sound entity).mp sent
  -- What is read is the rebuilt carrier, so that it has to be the one that was sent.
  rw [deserializeSpecification_sent sound fits] at read
  cases read
  exact ⟨fun cluster member => (rebuiltClusters_are.mp is.clusters cluster member).symm, fits⟩

/-- A sound carrier is sent and read back as it was exactly if no cluster has an SH-block, the name of
every cluster is a run of neighbouring digits, and the numbers fit the fields they are sent in. -/
theorem specification_restored_iff [DecidableEq C] (sound : carrier.Sound registry) (depth : Nat) :
    carrier.RoundTrips registry (depth + 2) ↔
      (∀ cluster ∈ carrier.clusters, cluster.shblock = none ∧
        RedacDeserializer.isClusterId (clusterId cluster) = true) ∧ carrier.Fits := by
  refine ⟨kept_of_roundTrips sound, ?_⟩
  rintro ⟨kept, fits⟩
  -- Blocks are compared without locations, since a cluster's blocks get theirs when they are read.
  have unlocate : ∀ {block : Option (BlockTree C)} {location : Option EntityLoc},
      (block.map fun present => { present with location }).map BlockTree.unlocated =
        block.map BlockTree.unlocated := by
    intro block location
    rw [Option.map_map]
    rfl
  refine ⟨_, _, (serializeCarrier_eq_ok sound _).mpr ⟨fits, rfl⟩,
    deserializeSpecification_sent sound fits depth, ?_⟩
  exact ⟨rfl, rfl, rfl, rebuiltClusters_are.mpr fun cluster member => (kept cluster member).symm,
    unlocate, unlocate, unlocate, unlocate⟩

end Carriers

/-- A type with every field set. -/
def sampleType (class_ : EntityClass) : EntityType := ⟨class_, some 1, some ⟨1, 0, 0⟩, some 0⟩

/-- Each kind of entity is registered for a class of its own name. -/
def sampleRegistry : List (EntityType × EntityClass) :=
  [(⟨.ublock, none, none, none⟩, .ublock), (⟨.cblock, none, none, none⟩, .cblock),
    (⟨.iblock, none, none, none⟩, .iblock), (⟨.shblock, none, none, none⟩, .shblock)]

/-- A block of the first cluster of a carrier. -/
def sampleBlock (slot : String) (class_ : EntityClass) : BlockTree EntityClass :=
  ⟨["00-00", "0", slot], class_, some (sampleType class_), none⟩

/-- The first cluster of a carrier, which may have an SH-block. -/
def sampleCluster (shblock : Option (BlockTree EntityClass)) : ClusterTree EntityClass :=
  ⟨["00-00", "0"], none, some (sampleType .cluster), none, none, sampleBlock "U" .ublock,
    sampleBlock "C" .cblock, sampleBlock "I" .iblock, shblock⟩

/-- A carrier with this cluster. -/
def sampleCarrier (shblock : Option (BlockTree EntityClass)) :
    CarrierTree (ClusterTree EntityClass) EntityClass where
  path := ["00-00"]
  location := some [0, 1]
  entityType := some (sampleType .carrier)
  clusters := [sampleCluster shblock]
  tblock := none
  st0block := none
  st1block := none
  st2block := none

/-- Such a block is sound in the cluster. -/
theorem sampleBlock_sound {slot : String} {class_ : EntityClass}
    (registered : EntityType.lookup sampleRegistry (sampleType class_) = .ok class_) :
    (sampleBlock slot class_).Sound sampleRegistry ["00-00", "0"] slot :=
  ⟨rfl, sampleType class_, rfl, ⟨rfl, rfl, rfl⟩, registered⟩

/-- The cluster is sound with the SH-block and without it. -/
theorem sampleCluster_sound {shblock : Option (BlockTree EntityClass)}
    (sh : ∀ block ∈ shblock, block.Sound sampleRegistry ["00-00", "0"] "SH") :
    (sampleCluster shblock).Sound sampleRegistry ["00-00"] where
  path := ⟨"0", by decide, by simp, rfl⟩
  typed := ⟨sampleType .cluster, rfl, ⟨rfl, rfl, rfl⟩, rfl⟩
  m0 := by simp [sampleCluster]
  m1 := by simp [sampleCluster]
  u := sampleBlock_sound rfl
  c := sampleBlock_sound rfl
  i := sampleBlock_sound rfl
  sh := sh

/-- The carrier is sound with the SH-block and without it. -/
theorem sampleCarrier_sound {shblock : Option (BlockTree EntityClass)}
    (sh : ∀ block ∈ shblock, block.Sound sampleRegistry ["00-00", "0"] "SH") :
    (sampleCarrier shblock).Sound sampleRegistry where
  path := List.cons_ne_nil _ _
  typed := ⟨sampleType .carrier, rfl, ⟨rfl, rfl, rfl⟩, rfl⟩
  location := by
    rintro location ⟨⟩
    exact ⟨0, 1, rfl⟩
  clusters := by
    intro cluster member
    obtain rfl := List.mem_singleton.mp member
    exact sampleCluster_sound sh
  t := by simp [sampleCarrier]
  st0 := by simp [sampleCarrier]
  st1 := by simp [sampleCarrier]
  st2 := by simp [sampleCarrier]

/-- Without an SH-block the carrier comes back. -/
theorem specification_restored_plain :
    (sampleCarrier none).Sound sampleRegistry ∧ (sampleCarrier none).RoundTrips sampleRegistry 2 := by
  have sound : (sampleCarrier none).Sound sampleRegistry := sampleCarrier_sound (by simp)
  -- There is no SH-block, the name is a digit, and all numbers are small.
  refine ⟨sound, (specification_restored_iff sound 0).mpr ⟨?_, ?_⟩⟩
  · intro cluster member
    obtain rfl := List.mem_singleton.mp member
    exact ⟨rfl, by decide⟩
  · simp [CarrierTree.Fits, ClusterTree.Fits, TypeFits, EntityType.Fits, Uint32, sampleCarrier,
      sampleCluster, sampleBlock, sampleType, RedacSerializer.clusterChildren,
      CarrierTree.ownBlocks]

/-- A carrier whose cluster has an SH-block comes back without it. -/
theorem shblock_not_restored :
    (sampleCarrier (some (sampleBlock "SH" .shblock))).Sound sampleRegistry ∧
      ∀ depth, ¬(sampleCarrier (some (sampleBlock "SH" .shblock))).RoundTrips sampleRegistry
        (depth + 2) := by
  have sound : (sampleCarrier (some (sampleBlock "SH" .shblock))).Sound sampleRegistry := by
    refine sampleCarrier_sound fun block member => ?_
    cases member
    exact sampleBlock_sound rfl
  refine ⟨sound, fun depth restored => ?_⟩
  -- If it came back, its cluster would have no SH-block.
  have kept := (kept_of_roundTrips sound restored).1 _ (List.mem_singleton.mpr rfl)
  cases kept.1

end SpecificationRoundTrip

end Pybrid
