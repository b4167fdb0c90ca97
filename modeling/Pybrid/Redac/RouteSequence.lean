import Pybrid.Redac.RouterLaws

/-! Sequences of routes: the multiplexers a route takes, and when a later one redirects them. -/

namespace Pybrid

/-- A multiplexer of a T-block or of a backplane T-block, by what listens to it. -/
inductive Mux where
  | carrier (loc : CarrierLoc) (sector lane : Int)
  | backplane (stack index sector lane : Int)
  deriving DecidableEq, Repr

/-- The multiplexer is one of the table, so that no negative subscript is involved. -/
def Mux.Real : Mux → Prop
  | .carrier _ _ _ => True
  | .backplane _ _ sector lane => (0 ≤ sector ∧ sector < 9) ∧ (0 ≤ lane ∧ lane < 8)

/-- The block of the multiplexer is registered. -/
def Routing.Has (r : Routing) : Mux → Prop
  | .carrier loc _ _ => (r.carrierTBlocks loc).isSome
  | .backplane stack index _ _ => (r.bplTBlocks stack index).isSome

/-- The sector a multiplexer selects. -/
def Routing.select (r : Routing) : Mux → Except PyError (Option Int)
  | .carrier loc sector lane => r.carrierSource loc sector lane
  | .backplane stack index sector lane => r.bplSource stack index sector lane

namespace Router

open Routing

/-- Let a multiplexer select a sector. -/
def connectMux : Mux × Int → RouteM Unit
  | (.carrier loc sector lane, source) => connectCarrier loc source sector lane
  | (.backplane stack index sector lane, source) => connectBpl stack index source sector lane

/-- Let multiplexers select sectors, one after the other. -/
def connectAll : List (Mux × Int) → RouteM Unit
  | [] => pure ()
  | setting :: settings => do
    connectMux setting
    connectAll settings

/-- The block of the multiplexer accepts the sector. -/
def Accepts : Mux × Int → Prop
  | (.carrier _ sector lane, source) =>
    (0 ≤ source ∧ source < 4) ∧ (0 ≤ sector ∧ sector < 4) ∧ (0 ≤ lane ∧ lane < 24)
  | (.backplane _ _ sector lane, source) =>
    (0 ≤ source ∧ source < 9) ∧ (0 ≤ sector ∧ sector < 9) ∧ (0 ≤ lane ∧ lane < 8)

instance : DecidablePred Accepts
  | (.carrier _ _ _, _) => inferInstanceAs (Decidable (_ ∧ _))
  | (.backplane _ _ _ _, _) => inferInstanceAs (Decidable (_ ∧ _))

/-- Why a route is refused before a multiplexer is touched. -/
def refusal (src dst : LaneLoc) : Option PyError :=
  -- The asserts come first, then the checks of the level that the two ends share.
  if ¬ (src.carrierId < 7 ∧ dst.carrierId < 7) then some Python.assertionError
  else if ¬ (src.clusterId < 3 ∧ dst.clusterId < 3) then some Python.assertionError
  else if ¬ (dst.laneId < 32 ∧ src.laneId < 32) then some Python.assertionError
  else if src.cluster = dst.cluster then
    -- The first eight lanes do not leave the cluster.
    if src.laneId < 8 then
      if src ≠ dst then some ⟨.routing, "First 8 lanes only to same indices routable"⟩ else none
    else if src.laneId - 8 ≠ dst.laneId - 8 then
      some ⟨.routing, "Connections inside cluster are only allowed between same lane indices!"⟩
    else none
  else if src.carrier = dst.carrier then
    if src.laneId ≠ dst.laneId then
      some ⟨.routing, "Connections between clusters are only allowed between same lane indices!"⟩
    else if 0 ≤ src.laneId ∧ src.laneId < 8 then
      some ⟨.routing,
        "Connections between clusters are only allowed between 8 to 31 lane indices!"⟩
    else none
  else if src.laneId ≠ dst.laneId then
    some ⟨.routing, "Connections between carrier are only allowed between same lane indices!"⟩
  else if ¬ (8 ≤ src.laneId ∧ src.laneId < 32) then
    some ⟨.routing,
      "Connections between carrier are only allowed between 8 to 31 lane indices!"⟩
  else none

/-- The multiplexers of the backplanes on the way from one carrier to another. -/
def backplanePath (src dst : LaneLoc) : List (Mux × Int) :=
  -- The lanes 8 to 31 are spread over three T-blocks, eight to each.
  let partition := (src.laneId - 8) / 8
  let lane := dst.laneId % 8
  if src.stackId ≠ dst.stackId then
    let exitSector : Int := if src.stackId < dst.stackId then 7 else 8
    let entrySector : Int := if src.stackId < dst.stackId then 8 else 7
    let dir : Int := if src.stackId < dst.stackId then 1 else -1
    -- Out of the first stack, through those between, into the last.
    (.backplane src.stackId partition exitSector lane, src.carrierId) ::
      ((Python.range (src.stackId + dir) dst.stackId dir).map fun stack =>
        (.backplane stack partition exitSector lane, entrySector)) ++
      [(.backplane dst.stackId partition dst.carrierId lane, entrySector)]
  else [(.backplane src.stackId partition dst.carrierId lane, src.carrierId)]

/-- The multiplexers a route takes, with the sectors they have to select. -/
def path (src dst : LaneLoc) : List (Mux × Int) :=
  if src.cluster = dst.cluster ∧ src.laneId < 8 then []
  else if src.carrier = dst.carrier then
    [(.carrier dst.carrier (dst.clusterId + 1) (dst.laneId - 8), src.clusterId + 1)]
  else
    (.carrier src.carrier 0 (src.laneId - 8), src.clusterId + 1) ::
      (.carrier dst.carrier (dst.clusterId + 1) (src.laneId - 8), 0) :: backplanePath src dst

@[simp] theorem connectAll_singleton (setting : Mux × Int) :
    connectAll [setting] = connectMux setting := by
  simp [connectAll]

/-- A concatenation is worked off part by part. -/
theorem connectAll_append (first second : List (Mux × Int)) :
    connectAll (first ++ second) = (do connectAll first; connectAll second) := by
  -- The settings are made in order.
  induction first with
  | nil => simp [connectAll]
  | cons setting first ih => simp [connectAll, ih]

/-- A loop that connects is such a list. -/
theorem connectAll_map (setting : Int → Mux × Int) (between : List Int) :
    connectAll (between.map setting) = between.forM fun stack => connectMux (setting stack) := by
  induction between with
  | nil => rfl
  | cons stack between ih =>
    rw [List.map_cons, connectAll, ih]
    rfl

/-- A route between carriers sets the multiplexers of its path, in this order. -/
theorem routeStack_path {src dst : LaneLoc} (apart : src.carrier ≠ dst.carrier)
    (same : src.laneId = dst.laneId) (inside : 8 ≤ src.laneId ∧ src.laneId < 32) :
    routeStack src dst = connectAll (path src dst) := by
  have cluster : src.cluster ≠ dst.cluster := fun equal => apart (LaneLoc.carrier_eq equal)
  -- One backplane is crossed on one stack, several between stacks.
  by_cases level : src.stackId = dst.stackId
  · simp [routeStack, path, backplanePath, connectAll, connectMux, apart, cluster, level, inside,
      ← same]
  · simp [routeStack, path, backplanePath, connectAll, connectAll_append, connectAll_map, connectMux,
      apart, cluster, level, inside, ← same]

/-- A route is refused, or it sets the multiplexers of its path one after the other. -/
theorem route_eq (src dst : LaneLoc) (r : Routing) :
    route src dst r =
      match refusal src dst with
      | some error => .error error r
      | none => connectAll (path src dst) r := by
  simp only [route, refusal]
  -- The checks are followed in the order of the code.
  by_cases carriers : ¬ (src.carrierId < 7 ∧ dst.carrierId < 7)
  · simp only [if_pos carriers]
    rfl
  by_cases clusters : ¬ (src.clusterId < 3 ∧ dst.clusterId < 3)
  · simp only [if_neg carriers, if_pos clusters]
    rfl
  by_cases lanes : ¬ (dst.laneId < 32 ∧ src.laneId < 32)
  · simp only [if_neg carriers, if_neg clusters, if_pos lanes]
    rfl
  simp only [if_neg carriers, if_neg clusters, if_neg lanes]
  by_cases cluster : src.cluster = dst.cluster
  · have carrier := LaneLoc.carrier_eq cluster
    simp only [if_pos cluster, routeCluster, carrier, ne_eq, not_true_eq_false, if_false]
    by_cases direct : src.laneId < 8
    · simp only [path, cluster, direct, and_self, if_true]
      by_cases same : src = dst
      · simp only [if_neg (not_not.mpr same)]
        rfl
      · simp only [if_pos same]
        rfl
    · simp only [path, direct, and_false, if_false, carrier, if_true,
        connectAll_singleton]
      by_cases shifted : src.laneId - 8 = dst.laneId - 8
      · simp only [if_neg (not_not.mpr shifted)]
        rfl
      · simp only [if_pos shifted]
        rfl
  by_cases carrier : src.carrier = dst.carrier
  · simp only [if_pos carrier, routeCarrier, path, cluster, false_and, if_false,
      connectAll_singleton]
    by_cases shifted : src.laneId ≠ dst.laneId
    · simp only [if_pos shifted]
      rfl
    by_cases direct : 0 ≤ src.laneId ∧ src.laneId < 8
    · simp only [if_neg shifted, if_pos direct]
      rfl
    · simp only [if_neg shifted, if_neg direct]
      rfl
  · simp only [if_neg cluster, if_neg carrier]
    by_cases shifted : src.laneId ≠ dst.laneId
    · simp only [if_pos shifted, routeStack]
      rfl
    by_cases outside : ¬ (8 ≤ src.laneId ∧ src.laneId < 32)
    · simp only [if_neg shifted, if_pos outside, routeStack]
      rfl
    · simp only [if_neg shifted, if_neg outside]
      rw [routeStack_path carrier (not_not.mp shifted) (not_not.mp outside)]

/-- What a connection does: one multiplexer selects its sector, and the others are left alone. -/
structure Sets (r r' : Routing) (setting : Mux × Int) : Prop where
  selected : r'.select setting.1 = .ok (some setting.2)
  others : ∀ mux, mux.Real → mux ≠ setting.1 → r'.select mux = r.select mux
  has : ∀ mux, r'.Has mux ↔ r.Has mux

/-- The T-block's own checks are those on the sectors and the lane. -/
theorem tBlock_connect_accepts (t : TBlock) (loc : CarrierLoc) (source sector lane : Int) :
    (∃ t', t.connect source sector lane = .ok t') ↔ Accepts (.carrier loc sector lane, source) := by
  unfold TBlock.connect Accepts
  -- The three bounds are checked one after the other.
  constructor
  · rintro ⟨t', connected⟩
    split at connected
    · cases connected
    split at connected
    · cases connected
    split at connected
    · cases connected
    exact ⟨by omega, by omega, by omega⟩
  · intro accepted
    rw [if_neg (not_not.mpr accepted.1), if_neg (not_not.mpr accepted.2.1),
      if_neg (not_not.mpr accepted.2.2)]
    simp [TBlock.index, accepted.2.1, accepted.2.2, Except.map]

/-- The backplane T-block's own checks are those on the sectors and the lane. -/
theorem backplaneTBlock_connect_accepts (t : BackplaneTBlock)
    (stack index source sector lane : Int) :
    (∃ t', t.connect source sector lane = .ok t') ↔
      Accepts (.backplane stack index sector lane, source) := by
  unfold BackplaneTBlock.connect Accepts
  -- The assertion is the whole check.
  constructor
  · rintro ⟨t', connected⟩
    split at connected
    · assumption
    · cases connected
  · intro accepted
    simp [accepted]

/-- A connection is made if the block accepts it, and changes nothing otherwise. -/
theorem connectMux_cases {r : Routing} {setting : Mux × Int} (registered : r.Has setting.1) :
    (Accepts setting ∧ ∃ r', connectMux setting r = .ok () r' ∧ Sets r r' setting) ∨
      (¬ Accepts setting ∧ ∃ error, connectMux setting r = .error error r) := by
  obtain ⟨mux, source⟩ := setting
  -- A carrier's T-block and a backplane's check their arguments in their own ways.
  cases mux with
  | carrier loc sector lane =>
    have checks := tBlock_connect_accepts (r.findCarrierTBlock loc) loc source sector lane
    cases connected : (r.findCarrierTBlock loc).connect source sector lane with
    | error error =>
      refine .inr ⟨fun accepted => ?_, error, by simp [connectMux, connectCarrier, connected]⟩
      obtain ⟨t', made⟩ := checks.mpr accepted
      simp [made] at connected
    | ok t' =>
      have made : connectCarrier loc source sector lane r = .ok () (r.storeCarrierTBlock loc t') := by
        simp [connectCarrier, connected]
      obtain ⟨lookups, registrations, planes, stand⟩ := connectCarrier_effect made registered
      refine .inl ⟨checks.mp ⟨t', connected⟩, _, made, ?_, ?_, ?_⟩
      · simp [select, lookups]
      · intro mux real different
        cases mux with
        | carrier loc' sector' lane' =>
          simp only [select, lookups]
          rw [if_neg]
          rintro ⟨rfl, rfl, rfl⟩
          exact different rfl
        | backplane stack index sector' lane' =>
          simp [select, bplSource, findBplTBlock, planes, stand]
      · intro mux
        cases mux <;> simp [Has, registrations, planes]
  | backplane stack index sector lane =>
    have checks :=
      backplaneTBlock_connect_accepts (r.findBplTBlock stack index) stack index source sector lane
    cases connected : (r.findBplTBlock stack index).connect source sector lane with
    | error error =>
      refine .inr ⟨fun accepted => ?_, error, by simp [connectMux, connectBpl, connected]⟩
      obtain ⟨t', made⟩ := checks.mpr accepted
      simp [made] at connected
    | ok t' =>
      have made : connectBpl stack index source sector lane r =
          .ok () (r.storeBplTBlock stack index t') := by
        simp [connectBpl, connected]
      have accepted := checks.mp ⟨t', connected⟩
      obtain ⟨lookups, registrations, carriers, stand⟩ := connectBpl_effect made registered
      refine .inl ⟨accepted, _, made, ?_, ?_, ?_⟩
      · simp [select, lookups _ _ _ _ accepted.2]
      · intro mux real different
        cases mux with
        | carrier loc sector' lane' =>
          simp [select, carrierSource, findCarrierTBlock, carriers, stand]
        | backplane stack' index' sector' lane' =>
          simp only [select, lookups _ _ _ _ real]
          rw [if_neg]
          rintro ⟨rfl, rfl, rfl, rfl⟩
          exact different rfl
      · intro mux
        cases mux <;> simp [Has, registrations, carriers]

/-- The settings that are made before the first one that is not accepted. -/
def made (settings : List (Mux × Int)) : List (Mux × Int) :=
  settings.takeWhile fun setting => Accepts setting

/-- No multiplexer is asked for two sectors. -/
def Functional (settings : List (Mux × Int)) : Prop :=
  ∀ mux first second, (mux, first) ∈ settings → (mux, second) ∈ settings → first = second

/-- The outcome of a list of connections: what it leaves, and when it returns. -/
structure Connected (settings : List (Mux × Int)) (r : Routing)
    (outcome : EStateM.Result PyError Routing Unit) : Prop where
  has : ∀ mux, (Raising.final outcome).Has mux ↔ r.Has mux
  /-- A multiplexer is left alone or selects a sector it was asked for. -/
  changed : ∀ mux, mux.Real → (Raising.final outcome).select mux = r.select mux ∨
    ∃ source, (mux, source) ∈ made settings ∧
      (Raising.final outcome).select mux = .ok (some source)
  returns : (∃ r', outcome = .ok () r') ↔ ∀ setting ∈ settings, Accepts setting
  /-- What was made selects what it was asked for. -/
  selected : Functional settings → ∀ setting ∈ made settings,
    (Raising.final outcome).select setting.1 = .ok (some setting.2)

/-- What has been accepted is part of the tables. -/
theorem Accepts.real {setting : Mux × Int} (accepted : Accepts setting) : setting.1.Real := by
  obtain ⟨mux, source⟩ := setting
  -- Every multiplexer of a carrier is real; on a plane the position has to exist.
  cases mux with
  | carrier => trivial
  | backplane => exact accepted.2

/-- Connecting multiplexers one after the other. -/
theorem connectAll_connected : ∀ (settings : List (Mux × Int)) (r : Routing),
    (∀ setting ∈ settings, r.Has setting.1) → Connected settings r (connectAll settings r) := by
  -- The induction is on the connections still to be made.
  intro settings
  induction settings with
  | nil =>
    intro r _
    exact ⟨fun _ => Iff.rfl, fun _ _ => .inl rfl,
      ⟨fun _ _ member => (nomatch member), fun _ => ⟨r, rfl⟩⟩, fun _ _ member => (nomatch member)⟩
  | cons setting settings ih =>
    intro r registered
    rcases connectMux_cases (registered setting List.mem_cons_self) with
      ⟨accepted, middle, connected, sets⟩ | ⟨refused, error, raised⟩
    · have rest := ih middle fun later member =>
        (sets.has later.1).mpr (registered later (List.mem_cons_of_mem _ member))
      have whole : connectAll (setting :: settings) r = connectAll settings middle :=
        Raising.bind_of_ok connected
      have first : made (setting :: settings) = setting :: made settings := by
        simp [made, accepted]
      rw [whole]
      refine ⟨fun mux => (rest.has mux).trans (sets.has mux), ?_, ?_, ?_⟩
      · intro mux real
        rw [first]
        rcases rest.changed mux real with same | ⟨source, member, selected⟩
        · by_cases own : mux = setting.1
          · exact .inr ⟨setting.2, by simp [own], by rw [same, own, sets.selected]⟩
          · exact .inl (same.trans (sets.others mux real own))
        · exact .inr ⟨source, List.mem_cons_of_mem _ member, selected⟩
      · rw [rest.returns]
        simp [accepted]
      · intro functional other member
        rw [first] at member
        have tail : Functional settings := fun mux a b here there =>
          functional mux a b (List.mem_cons_of_mem _ here) (List.mem_cons_of_mem _ there)
        rcases List.mem_cons.mp member with rfl | later
        · -- A later setting of the same multiplexer asks for the same sector.
          rcases rest.changed other.1 accepted.real with same | ⟨source, again, selected⟩
          · rw [same, sets.selected]
          · have agree := functional other.1 other.2 source List.mem_cons_self
              (List.mem_cons_of_mem _ ((List.takeWhile_sublist _).subset again))
            rw [selected, agree]
        · exact rest.selected tail other later
    · have whole : connectAll (setting :: settings) r = .error error r :=
        Raising.bind_of_error raised
      have none : made (setting :: settings) = [] := by simp [made, refused]
      rw [whole]
      refine ⟨fun _ => Iff.rfl, fun _ _ => .inl rfl, ?_, ?_⟩
      · constructor
        · rintro ⟨_, impossible⟩
          cases impossible
        · exact fun all => absurd (all setting List.mem_cons_self) refused
      · rw [none]
        exact fun _ _ member => nomatch member

/-- The call returns, which its two locations decide. -/
def Routable (src dst : LaneLoc) : Prop :=
  refusal src dst = none ∧ ∀ setting ∈ path src dst, Accepts setting

instance (src dst : LaneLoc) : Decidable (Routable src dst) :=
  inferInstanceAs (Decidable (_ ∧ _))

/-- The settings a call makes, whether it returns or raises on the way. -/
def written (src dst : LaneLoc) : List (Mux × Int) :=
  if refusal src dst = none then made (path src dst) else []

/-- A call that returns has made all the settings of its path. -/
theorem Routable.made {src dst : LaneLoc} (routable : Routable src dst) :
    made (path src dst) = path src dst := by
  rw [Router.made, List.takeWhile_eq_self_iff]
  exact fun setting member => decide_eq_true (routable.2 setting member)

/-- The stacks strictly between two stacks. -/
theorem mem_between {src dst stack : Int} :
    stack ∈ Python.range (src + if src < dst then 1 else -1) dst (if src < dst then 1 else -1) ↔
      min src dst < stack ∧ stack < max src dst := by
  -- The range steps up or down, but the stacks between are the same.
  by_cases up : src < dst
  · simp only [if_pos up, Python.mem_range_up]
    omega
  · simp only [if_neg up, Python.mem_range_down]
    omega

/-- The sector a route asks a multiplexer for, if it takes it. -/
def demanded (src dst : LaneLoc) : Mux → Int
  | .carrier loc _ _ => if loc = src.carrier then src.clusterId + 1 else 0
  | .backplane stack _ _ _ =>
    if stack = src.stackId then src.carrierId else if src.stackId < dst.stackId then 8 else 7

/-- The backplanes a route takes lie between its ends, and are asked for one sector each. -/
theorem backplanePath_demanded {src dst : LaneLoc} {setting : Mux × Int}
    (member : setting ∈ backplanePath src dst) :
    (∃ stack sector, setting.1 = .backplane stack ((src.laneId - 8) / 8) sector (dst.laneId % 8) ∧
      min src.stackId dst.stackId ≤ stack ∧ stack ≤ max src.stackId dst.stackId) ∧
      setting.2 = demanded src dst setting.1 := by
  unfold backplanePath at member
  split at member
  · rename_i apart
    simp only [List.cons_append, List.mem_cons, List.mem_append, List.mem_map, List.not_mem_nil,
      or_false] at member
    -- The exit of the first stack, the stacks between and the entry of the last.
    rcases member with rfl | ⟨stack, between, rfl⟩ | rfl
    · exact ⟨⟨_, _, rfl, by omega, by omega⟩, by simp [demanded]⟩
    · have inside := mem_between.mp between
      have other : stack ≠ src.stackId := by omega
      exact ⟨⟨_, _, rfl, by omega, by omega⟩, by simp [demanded, other]⟩
    · exact ⟨⟨_, _, rfl, by omega, by omega⟩, by simp [demanded, Ne.symm apart]⟩
  · rename_i level
    rw [List.mem_singleton.mp member]
    exact ⟨⟨_, _, rfl, by omega, by omega⟩, by simp [demanded]⟩

/-- Every multiplexer of a path is asked for one sector. -/
theorem path_demanded {src dst : LaneLoc} {setting : Mux × Int}
    (member : setting ∈ path src dst) : setting.2 = demanded src dst setting.1 := by
  unfold path at member
  -- A direct lane needs no multiplexer, a neighbouring cluster one.
  split at member
  · cases member
  split at member
  · rename_i _ same
    rw [List.mem_singleton.mp member]
    simp [demanded, same]
  · rename_i _ apart
    rcases List.mem_cons.mp member with rfl | member
    · simp [demanded]
    rcases List.mem_cons.mp member with rfl | member
    · simp [demanded, Ne.symm apart]
    · exact (backplanePath_demanded member).2

/-- A route asks no multiplexer for two sectors. -/
theorem path_functional (src dst : LaneLoc) : Functional (path src dst) :=
  fun _ _ _ here there => (path_demanded here).trans (path_demanded there).symm

/-- What has been checked of a route between carriers. -/
theorem refusal_apart {src dst : LaneLoc} (admitted : refusal src dst = none)
    (apart : src.carrier ≠ dst.carrier) :
    (src.carrierId < 7 ∧ src.clusterId < 3) ∧ src.laneId = dst.laneId ∧
      8 ≤ src.laneId ∧ src.laneId < 32 := by
  have cluster : src.cluster ≠ dst.cluster := fun equal => apart (LaneLoc.carrier_eq equal)
  simp only [refusal, if_neg cluster, if_neg apart] at admitted
  -- Every branch but the last refuses.
  split_ifs at admitted
  omega

/-- What has been checked of a route inside a carrier. -/
theorem refusal_inside {src dst : LaneLoc} (admitted : refusal src dst = none)
    (same : src.carrier = dst.carrier) :
    src.clusterId < 3 ∧ src.laneId = dst.laneId ∧
      (src.cluster = dst.cluster ∧ src.laneId < 8 → src = dst) := by
  simp only [refusal, if_pos same] at admitted
  -- Every other way out of the checks is an error.
  split_ifs at admitted <;> simp_all

/-- The blocks of a path are registered where the two ends are covered. -/
theorem path_registered {r : Routing} {src dst : LaneLoc} (covered : r.Covers src dst)
    (admitted : refusal src dst = none) : ∀ setting ∈ path src dst, r.Has setting.1 := by
  intro setting member
  unfold path at member
  split at member
  · cases member
  split at member
  · rw [List.mem_singleton.mp member]
    exact covered.2.1
  · rename_i clusters carriers
    rcases List.mem_cons.mp member with rfl | member
    · exact covered.1
    rcases List.mem_cons.mp member with rfl | member
    · exact covered.2.1
    · obtain ⟨⟨stack, sector, place, lower, upper⟩, _⟩ := backplanePath_demanded member
      -- The lane of a route between carriers has been checked.
      have inside := (refusal_apart admitted carriers).2.2
      rw [place]
      exact covered.2.2 stack lower upper _ (by omega) (by omega)

/-- Tracing a lane leads to its source, given enough fuel. -/
def Traces (r : Routing) (dst src : LaneLoc) : Prop :=
  ∃ enough, ∀ fuel, enough ≤ fuel → Tracer.findCoef r fuel dst = some (.ok (some src))

/-- The multiplexers of a path between stacks form a bridge. -/
theorem bridge_of_selected {r : Routing} {src dst : LaneLoc} (lane : src.laneId = dst.laneId)
    (selected : ∀ setting ∈ backplanePath src dst,
      r.select setting.1 = .ok (some setting.2)) : Bridge r src dst := by
  by_cases level : src.stackId = dst.stackId
  · refine .inl ⟨level, ?_⟩
    have entry := selected (.backplane src.stackId ((src.laneId - 8) / 8) dst.carrierId
      (dst.laneId % 8), src.carrierId) (by simp [backplanePath, level])
    rw [← level, ← lane]
    exact lane ▸ entry
  · -- The same three kinds of multiplexers in both directions.
    have last := selected (.backplane dst.stackId ((src.laneId - 8) / 8) dst.carrierId
      (dst.laneId % 8), if src.stackId < dst.stackId then 8 else 7) (by simp [backplanePath, level])
    have passed := fun stack between => selected (.backplane stack ((src.laneId - 8) / 8)
      (if src.stackId < dst.stackId then 7 else 8) (dst.laneId % 8),
      if src.stackId < dst.stackId then 8 else 7)
      (by
        simp only [backplanePath, ne_eq, level, not_false_eq_true, if_true, List.cons_append,
          List.mem_cons, List.mem_append, List.mem_map]
        exact .inr (.inl ⟨stack, between, rfl⟩))
    have first := selected (.backplane src.stackId ((src.laneId - 8) / 8)
      (if src.stackId < dst.stackId then 7 else 8) (dst.laneId % 8), src.carrierId)
      (by simp [backplanePath, level])
    rw [lane] at last passed first
    by_cases up : src.stackId < dst.stackId
    · simp only [if_pos up] at last passed first
      exact .inr (.inl ⟨up, last, passed, first⟩)
    · simp only [if_neg up] at last passed first
      exact .inr (.inr ⟨by omega, last, passed, first⟩)

/-- The backplane of the source's stack is asked for the source's carrier. -/
theorem backplanePath_source (src dst : LaneLoc) :
    ∃ mux, (mux, src.carrierId) ∈ backplanePath src dst := by
  -- The first setting behind the carrier selects it, on each level.
  unfold backplanePath
  split
  · exact ⟨_, List.mem_append_left _ List.mem_cons_self⟩
  · exact ⟨_, List.mem_singleton_self _⟩

/-- A route whose multiplexers select what it asked for is traced from its sink to its source. -/
theorem traces_of_selected {r : Routing} {src dst : LaneLoc} (routable : Routable src dst)
    (cluster : path src dst ≠ [] → 0 ≤ src.clusterId)
    (selected : ∀ setting ∈ path src dst, r.select setting.1 = .ok (some setting.2)) :
    Traces r dst src := by
  by_cases carriers : src.carrier = dst.carrier
  · obtain ⟨bound, lane, direct⟩ := refusal_inside routable.1 carriers
    by_cases one : src.cluster = dst.cluster ∧ src.laneId < 8
    · exact ⟨0, fun fuel _ => by simp [Tracer.findCoef, ← direct one, one.2]⟩
    · have taken : path src dst =
          [(.carrier dst.carrier (dst.clusterId + 1) (dst.laneId - 8), src.clusterId + 1)] := by
        rw [path, if_neg one, if_pos carriers]
      have accepted := routable.2 _ (by rw [taken]; exact List.mem_singleton_self _)
      have source := selected _ (by rw [taken]; exact List.mem_singleton_self _)
      have positive := cluster (by rw [taken]; exact List.cons_ne_nil _ _)
      simp only [Accepts] at accepted
      exact ⟨1, fun fuel enough => Tracer.findCoef_listening ⟨positive, bound⟩
        ⟨by omega, lane⟩ carriers source enough⟩
  · obtain ⟨bounds, lane, inside⟩ := refusal_apart routable.1 carriers
    have taken : path src dst =
        (.carrier src.carrier 0 (src.laneId - 8), src.clusterId + 1) ::
          (.carrier dst.carrier (dst.clusterId + 1) (src.laneId - 8), 0) ::
            backplanePath src dst := by
      rw [path, if_neg (fun one => carriers (LaneLoc.carrier_eq one.1)), if_neg carriers]
    have positive := cluster (by rw [taken]; exact List.cons_ne_nil _ _)
    rw [taken] at selected
    have source := selected _ List.mem_cons_self
    have sink := selected _ (List.mem_cons_of_mem _ List.mem_cons_self)
    have bridge := bridge_of_selected lane fun setting member =>
      selected setting (List.mem_cons_of_mem _ (List.mem_cons_of_mem _ member))
    -- The backplane has accepted the carrier of the source.
    have carrier : 0 ≤ src.carrierId := by
      obtain ⟨mux, member⟩ := backplanePath_source src dst
      have accepted := routable.2 (mux, src.carrierId) (by
        rw [taken]
        exact List.mem_cons_of_mem _ (List.mem_cons_of_mem _ member))
      cases mux <;> exact accepted.1.1
    rw [lane] at source sink
    refine ⟨(src.stackId - dst.stackId).natAbs + 2, fun fuel enough => ?_⟩
    exact Tracer.findCoef_bridged ⟨carrier, bounds.1⟩ ⟨positive, bounds.2⟩ carriers
      ⟨by omega, lane⟩ sink source (by omega)
      (Tracer.traceBackplane_bridge ⟨carrier, bounds.1⟩ bridge enough)

/-- A call of `route`: from the first location to the second. -/
abbrev Call := LaneLoc × LaneLoc

/-- Perform a call, and keep it with those that have returned. -/
def perform (state : Routing × List Call) (call : Call) : Routing × List Call :=
  match route call.1 call.2 state.1 with
  | .ok () r => (r, state.2 ++ [call])
  | .error _ r => (r, state.2)

/-- The blocks after some calls, and the calls that have returned. -/
def routeAll (r : Routing) (calls : List Call) : Routing × List Call :=
  calls.foldl perform (r, [])

/-- The later call sets no multiplexer of the earlier one to another sector. -/
def Spares (earlier later : Call) : Prop :=
  Routable earlier.1 earlier.2 → ∀ setting ∈ path earlier.1 earlier.2,
    ∀ other ∈ written later.1 later.2, other.1 = setting.1 → other.2 = setting.2

instance (earlier later : Call) : Decidable (Spares earlier later) :=
  inferInstanceAs (Decidable (_ → _))

/-- No call redirects one that returned before it, and sources are lanes of real clusters. -/
structure Undisturbed (calls : List Call) : Prop where
  spares : calls.Pairwise Spares
  clusters : ∀ call ∈ calls, Routable call.1 call.2 → path call.1 call.2 ≠ [] →
    0 ≤ call.1.clusterId

/-- The multiplexers of the call select what it asked for. -/
def Intact (r : Routing) (call : Call) : Prop :=
  Routable call.1 call.2 ∧
    ∀ setting ∈ path call.1 call.2, r.select setting.1 = .ok (some setting.2)

/-- Which routes are covered depends on what is registered only. -/
theorem covers_congr {r r' : Routing} (same : ∀ mux, r'.Has mux ↔ r.Has mux) {src dst : LaneLoc}
    (covered : r.Covers src dst) : r'.Covers src dst := by
  refine ⟨(same (.carrier src.carrier 0 0)).mpr covered.1,
    (same (.carrier dst.carrier 0 0)).mpr covered.2.1, ?_⟩
  -- A block is there if one of its multiplexers is.
  intro stack lower upper index low high
  exact (same (.backplane stack index 0 0)).mpr (covered.2.2 stack lower upper index low high)

/-- A call that spares the ones before it leaves them intact, and is intact if it returns. -/
theorem perform_intact {state : Routing × List Call} {call : Call}
    (covered : state.1.Covers call.1 call.2) (intact : ∀ earlier ∈ state.2, Intact state.1 earlier)
    (spares : ∀ earlier ∈ state.2, Spares earlier call) :
    (∀ mux, (perform state call).1.Has mux ↔ state.1.Has mux) ∧
      ((perform state call).2 = state.2 ∨ (perform state call).2 = state.2 ++ [call]) ∧
      ∀ earlier ∈ (perform state call).2, Intact (perform state call).1 earlier := by
  have equation := route_eq call.1 call.2 state.1
  cases refused : refusal call.1 call.2 with
  | some error =>
    -- Nothing has been set.
    simp only [refused] at equation
    simp only [perform, equation]
    exact ⟨fun _ => trivial, .inl trivial, intact⟩
  | none =>
    simp only [refused] at equation
    have outcome := connectAll_connected (path call.1 call.2) state.1
      (path_registered covered refused)
    rw [← equation] at outcome
    have kept : ∀ earlier ∈ state.2,
        Intact (Raising.final (route call.1 call.2 state.1)) earlier := by
      intro earlier member
      obtain ⟨routable, selected⟩ := intact earlier member
      refine ⟨routable, fun setting taken => ?_⟩
      rcases outcome.changed setting.1 (routable.2 setting taken).real with
        same | ⟨source, again, changed⟩
      · rw [same, selected setting taken]
      · -- What the call has set here is what was set before.
        have asked : (setting.1, source) ∈ written call.1 call.2 := by
          rwa [written, if_pos refused]
        have agree : source = setting.2 := spares earlier member routable setting taken _ asked rfl
        rw [changed, agree]
    cases result : route call.1 call.2 state.1 with
    | error error r =>
      rw [result] at outcome kept
      simp only [perform, result]
      exact ⟨outcome.has, .inl trivial, kept⟩
    | ok _ r =>
      rw [result] at outcome kept
      simp only [perform, result]
      refine ⟨outcome.has, .inr trivial, ?_⟩
      intro earlier member
      rcases List.mem_append.mp member with old | new
      · exact kept earlier old
      · rw [List.mem_singleton.mp new]
        have routable : Routable call.1 call.2 := ⟨refused, outcome.returns.mp ⟨r, rfl⟩⟩
        refine ⟨routable, fun setting taken => ?_⟩
        exact outcome.selected (path_functional _ _) setting (by rwa [routable.made])

/-- In every run of undisturbed calls, the calls that have returned stay intact. -/
theorem routeAll_intact (r : Routing) (calls : List Call)
    (covered : ∀ call ∈ calls, r.Covers call.1 call.2) (spares : calls.Pairwise Spares) :
    (∀ mux, (routeAll r calls).1.Has mux ↔ r.Has mux) ∧
      ∀ call ∈ (routeAll r calls).2, call ∈ calls ∧ Intact (routeAll r calls).1 call := by
  -- The induction is on the calls, the last one last.
  induction calls using List.reverseRecOn with
  | nil => exact ⟨fun _ => Iff.rfl, fun _ member => (nomatch member)⟩
  | append_singleton calls call ih =>
    obtain ⟨before, _, after⟩ := List.pairwise_append.mp spares
    obtain ⟨has, intact⟩ := ih (fun earlier member => covered earlier (List.mem_append_left _ member))
      before
    have performed : routeAll r (calls ++ [call]) = perform (routeAll r calls) call := by
      simp [routeAll]
    rw [performed]
    obtain ⟨registered, returned, kept⟩ := perform_intact
      (covers_congr has (covered call (List.mem_append_right _ (List.mem_singleton_self _))))
      (fun earlier member => (intact earlier member).2)
      (fun earlier member => after earlier (intact earlier member).1 call (List.mem_singleton_self _))
    refine ⟨fun mux => (registered mux).trans (has mux), fun earlier member => ⟨?_, kept earlier member⟩⟩
    rcases returned with same | added
    · rw [same] at member
      exact List.mem_append_left _ (intact earlier member).1
    · rw [added] at member
      rcases List.mem_append.mp member with old | new
      · exact List.mem_append_left _ (intact earlier old).1
      · exact List.mem_append_right _ new

/-- After every call of an undisturbed sequence, each sink that has been routed is still traced to
the source it was routed from. -/
theorem routed_sinks_traced (r : Routing) (calls : List Call)
    (covered : ∀ call ∈ calls, r.Covers call.1 call.2) (undisturbed : Undisturbed calls) :
    ∀ before later, before ++ later = calls →
      ∀ call ∈ (routeAll r before).2, Traces (routeAll r before).1 call.2 call.1 := by
  -- The calls so far are a run of their own, which covers and disturbs no more than all.
  rintro before later rfl call member
  obtain ⟨_, intact⟩ := routeAll_intact r before
    (fun earlier there => covered earlier (List.mem_append_left _ there))
    (List.pairwise_append.mp undisturbed.spares).1
  obtain ⟨made, routable, selected⟩ := intact call member
  exact traces_of_selected routable
    (undisturbed.clusters call (List.mem_append_left _ made) routable) selected

/-- One lane of a carrier is routed to two other carriers, and over three stacks. -/
def fanOut : List Call :=
  [(⟨0, 0, 1, 20⟩, ⟨0, 3, 0, 20⟩), (⟨0, 0, 1, 20⟩, ⟨3, 5, 2, 20⟩), (⟨0, 4, 0, 20⟩, ⟨0, 4, 1, 20⟩)]

/-- The three routes go together. -/
theorem routed_sinks_traced_fanOut :
    (routeAll Tracer.registered fanOut).2 = fanOut ∧
      ∀ call ∈ fanOut, Traces (routeAll Tracer.registered fanOut).1 call.2 call.1 := by
  have all : (routeAll Tracer.registered fanOut).2 = fanOut := by decide
  refine ⟨all, fun call member => ?_⟩
  -- All blocks are registered, so that every lane is covered.
  refine routed_sinks_traced Tracer.registered fanOut ?_ ⟨by decide, by decide⟩ fanOut [] rfl call
    (by rwa [all])
  intro other _
  simp [Covers, Tracer.registered]

/-- Two clusters of a carrier send the same lane over the backplane, to different carriers. -/
def sharedExit : List Call :=
  [(⟨0, 0, 0, 8⟩, ⟨0, 1, 0, 8⟩), (⟨0, 0, 1, 8⟩, ⟨0, 2, 0, 8⟩)]

/-- The second route returns, and takes the source away from the sink of the first. -/
theorem second_route_redirects_first :
    (sharedExit.map Prod.snd).Nodup ∧ (routeAll Tracer.registered sharedExit).2 = sharedExit ∧
      Traces (routeAll Tracer.registered sharedExit).1 ⟨0, 1, 0, 8⟩ ⟨0, 0, 1, 8⟩ ∧
      ¬ Traces (routeAll Tracer.registered sharedExit).1 ⟨0, 1, 0, 8⟩ ⟨0, 0, 0, 8⟩ := by
  -- Both calls set the multiplexer of the sink, and the second one is what the search follows.
  have redirected : ∀ fuel, 2 ≤ fuel →
      Tracer.findCoef (routeAll Tracer.registered sharedExit).1 fuel ⟨0, 1, 0, 8⟩ =
        some (.ok (some ⟨0, 0, 1, 8⟩)) := by
    intro fuel enough
    have carrier : 0 ≤ (⟨0, 0, 1, 8⟩ : LaneLoc).carrierId ∧
        (⟨0, 0, 1, 8⟩ : LaneLoc).carrierId < 7 := by decide
    have bridge : Bridge (routeAll Tracer.registered sharedExit).1 ⟨0, 0, 1, 8⟩ ⟨0, 1, 0, 8⟩ :=
      .inl ⟨rfl, rfl⟩
    exact Tracer.findCoef_bridged carrier (by decide) (by decide) (by decide) rfl rfl enough
      (Tracer.traceBackplane_bridge carrier bridge (by simpa using enough))
  refine ⟨by decide, by decide, ⟨2, redirected⟩, ?_⟩
  rintro ⟨enough, traced⟩
  -- The search finds one source for enough fuel, and it is not the first.
  have clash := (redirected (enough + 2) (by omega)).symm.trans (traced (enough + 2) (by omega))
  exact absurd clash (by decide)

end Router

end Pybrid
