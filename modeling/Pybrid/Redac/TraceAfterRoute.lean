import Pybrid.Redac.RouteSequence

/-! What a route does to the traces of all lanes: they stay, or now lead to its source. -/

namespace Pybrid

namespace Tracer

open Routing Router

/-- From some fuel on the search returns this. -/
def Finds {β : Type} (search : ℕ → Option (Except PyError β)) (found : β) : Prop :=
  ∃ enough, ∀ fuel, enough ≤ fuel → search fuel = some (.ok found)

/-- A search that needs one unit of fuel and goes on with another one finds the same. -/
theorem Finds.step {β : Type} {search next : ℕ → Option (Except PyError β)} {found : β}
    (goesOn : ∀ fuel, search (fuel + 1) = next fuel) (finds : Finds next found) :
    Finds search found := by
  obtain ⟨enough, returns⟩ := finds
  -- A search that goes on needs one call more.
  refine ⟨enough + 1, fun fuel bound => ?_⟩
  obtain ⟨fuel, rfl⟩ := Nat.exists_eq_add_of_le' (by omega : 1 ≤ fuel)
  rw [goesOn]
  exact returns fuel (by omega)

/-- A search that ends at once finds what it returns. -/
theorem Finds.once {β : Type} {search : ℕ → Option (Except PyError β)} {found : β}
    (returns : ∀ fuel, search (fuel + 1) = some (.ok found)) : Finds search found :=
  Finds.step returns ⟨0, fun _ _ => rfl⟩

/-- The multiplexers of a route select what it asked for, and the others what they selected before. -/
structure Rerouted (r r' : Routing) (src dst : LaneLoc) : Prop where
  routable : Routable src dst
  cluster : 0 ≤ src.clusterId
  selected : ∀ setting ∈ path src dst, r'.select setting.1 = .ok (some setting.2)
  others : ∀ mux, mux.Real → r'.select mux = r.select mux ∨ ∃ source, (mux, source) ∈ path src dst

/-- A subscript of a backplane T-block is one of the table or raises, whatever the block holds. -/
theorem bplSource_wraps (stack index sector lane : Int) :
    (∃ real, (0 ≤ real ∧ real < 9) ∧
      ∀ r : Routing, r.bplSource stack index sector lane = r.bplSource stack index real lane) ∨
      ∃ error, ∀ r : Routing, r.bplSource stack index sector lane = .error error := by
  -- A negative subscript counts from the end, and one out of range raises whatever is stored.
  cases position : Python.subscript 9 sector with
  | error error => exact .inr ⟨error, fun r => by simp [bplSource, BackplaneTBlock.source, position,
      bind, Except.bind]⟩
  | ok place =>
    have own : Python.subscript 9 (place.val : Int) = .ok place := by
      rw [Python.subscript_of_bounds (by omega)]
      simp
    refine .inl ⟨place.val, by omega, fun r => ?_⟩
    simp [bplSource, BackplaneTBlock.source, position, own]

/-- The search along the backplane depends on where it starts by what is selected there. -/
theorem traceBackplane_start {r : Routing} {tblockLane stack sector real : Int}
    (same : r.bplSource stack (tblockLane / 8) sector (tblockLane % 8) =
      r.bplSource stack (tblockLane / 8) real (tblockLane % 8)) (fuel : ℕ) :
    traceBackplane r tblockLane fuel stack sector = traceBackplane r tblockLane fuel stack real := by
  -- Only the first look depends on the sector.
  cases fuel with
  | zero => rfl
  | succ fuel => simp only [traceBackplane, same]

/-- The multiplexers on the way between two stacks. -/
theorem mem_backplanePath {src dst : LaneLoc} (apart : src.stackId ≠ dst.stackId)
    {setting : Mux × Int} : setting ∈ backplanePath src dst ↔
      setting = (.backplane src.stackId ((src.laneId - 8) / 8)
        (if src.stackId < dst.stackId then 7 else 8) (dst.laneId % 8), src.carrierId) ∨
      (∃ stack, (min src.stackId dst.stackId < stack ∧ stack < max src.stackId dst.stackId) ∧
        setting = (.backplane stack ((src.laneId - 8) / 8)
          (if src.stackId < dst.stackId then 7 else 8) (dst.laneId % 8),
          if src.stackId < dst.stackId then 8 else 7)) ∨
      setting = (.backplane dst.stackId ((src.laneId - 8) / 8) dst.carrierId (dst.laneId % 8),
        if src.stackId < dst.stackId then 8 else 7) := by
  -- There is one setting on the first stack, one on each stack between, and one on the last.
  simp only [backplanePath, ne_eq, apart, not_false_eq_true, if_true, List.cons_append,
    List.mem_cons, List.mem_append, List.mem_map, List.not_mem_nil, or_false, mem_between]
  simp only [eq_comm]

/-- The backplanes behind a multiplexer of a route are those of a route that ends there. -/
theorem backplanePath_behind {src dst : LaneLoc} {stack index sector lane source : Int}
    (member : (.backplane stack index sector lane, source) ∈ backplanePath src dst) :
    ∀ setting ∈ backplanePath src ⟨stack, sector, dst.clusterId, dst.laneId⟩,
      setting ∈ backplanePath src dst := by
  intro setting behind
  -- Inside a stack there is only one setting, and so nothing behind it.
  by_cases level : src.stackId = dst.stackId
  · simp only [backplanePath, level, ne_eq, not_true_eq_false, if_false, List.mem_singleton,
      Prod.mk.injEq, Mux.backplane.injEq] at member
    obtain ⟨⟨rfl, rfl, rfl, rfl⟩, rfl⟩ := member
    exact behind
  · rcases (mem_backplanePath level).mp member with first | ⟨between, inside, passed⟩ | last
    · -- Where the signal leaves the source's stack, nothing lies behind.
      simp only [Prod.mk.injEq, Mux.backplane.injEq] at first
      obtain ⟨⟨rfl, rfl, rfl, rfl⟩, rfl⟩ := first
      simp only [backplanePath, ne_eq, not_true_eq_false, if_false, List.mem_singleton] at behind
      exact (mem_backplanePath level).mpr (.inl behind)
    -- On a stack between, the rest of the way is the way from there.
    · simp only [Prod.mk.injEq, Mux.backplane.injEq] at passed
      obtain ⟨⟨rfl, rfl, rfl, rfl⟩, rfl⟩ := passed
      have other : src.stackId ≠ stack := by omega
      -- It goes on in the same direction.
      have direction : (src.stackId < stack) = (src.stackId < dst.stackId) := by
        apply propext
        omega
      rcases (mem_backplanePath other).mp behind with here | ⟨further, nearer, here⟩ | here
      · simp only [direction] at here
        exact (mem_backplanePath level).mpr (.inl here)
      · simp only [direction] at here nearer
        exact (mem_backplanePath level).mpr (.inr (.inl ⟨further, by omega, here⟩))
      · simp only [direction] at here
        exact (mem_backplanePath level).mpr (.inr (.inl ⟨stack, inside, here⟩))
    · simp only [Prod.mk.injEq, Mux.backplane.injEq] at last
      obtain ⟨⟨rfl, rfl, rfl, rfl⟩, rfl⟩ := last
      exact behind

namespace Rerouted

variable {r r' : Routing} {src dst : LaneLoc}

/-- The multiplexers of the backplanes belong to routes between carriers. -/
theorem mem_path_backplane {stack index sector lane source : Int}
    (member : (.backplane stack index sector lane, source) ∈ path src dst) :
    src.carrier ≠ dst.carrier ∧
      (.backplane stack index sector lane, source) ∈ backplanePath src dst := by
  unfold path at member
  -- A path inside a carrier has no setting of a backplane.
  split at member
  · cases member
  split at member
  · simp at member
  · rename_i _ apart
    simpa [apart] using member

/-- Every multiplexer of the backplanes is asked for is part of the path. -/
theorem backplanePath_subset (apart : src.carrier ≠ dst.carrier) :
    ∀ setting ∈ backplanePath src dst, setting ∈ path src dst := by
  intro setting member
  -- A way between two carriers is not one inside of a cluster.
  have cluster : ¬ (src.cluster = dst.cluster ∧ src.laneId < 8) :=
    fun one => apart (LaneLoc.carrier_eq one.1)
  rw [path, if_neg cluster, if_neg apart]
  exact List.mem_cons_of_mem _ (List.mem_cons_of_mem _ member)

/-- A route between carriers starts at a carrier of the backplane. -/
theorem carrier_bounds (rerouted : Rerouted r r' src dst) (apart : src.carrier ≠ dst.carrier) :
    0 ≤ src.carrierId ∧ src.carrierId < 7 := by
  -- The carrier is selected somewhere on the way, where it has to be in range.
  obtain ⟨mux, member⟩ := backplanePath_source src dst
  have accepted := rerouted.routable.2 _ (backplanePath_subset apart _ member)
  have bounds := (refusal_apart rerouted.routable.1 apart).1
  cases mux <;> exact ⟨accepted.1.1, bounds.1⟩

/-- From every backplane of the route the search comes to the carrier of the source. -/
theorem finds_carrier (rerouted : Rerouted r r' src dst) {stack index sector lane source : Int}
    (member : (.backplane stack index sector lane, source) ∈ path src dst) :
    Finds (fun fuel => traceBackplane r' (src.laneId - 8) fuel stack sector)
      (some (src.stackId, src.carrierId)) := by
  obtain ⟨apart, inside⟩ := mem_path_backplane member
  have lane : src.laneId = dst.laneId := (refusal_apart rerouted.routable.1 apart).2.1
  -- All settings from here back to the source have been selected.
  have bridge : Bridge r' src ⟨stack, sector, dst.clusterId, dst.laneId⟩ :=
    bridge_of_selected lane fun setting behind => rerouted.selected setting
      (backplanePath_subset apart setting (backplanePath_behind inside setting behind))
  rw [lane]
  exact ⟨(src.stackId - stack).natAbs + 2, fun fuel enough =>
    traceBackplane_bridge (rerouted.carrier_bounds apart) bridge enough⟩

/-- A search along the backplanes ends where it ended before, or at the carrier of the source. -/
theorem backplane (rerouted : Rerouted r r' src dst) {tblockLane : Int} :
    ∀ (fuel : ℕ) (stack sector : Int) (found : Option (Int × Int)),
      traceBackplane r tblockLane fuel stack sector = some (.ok found) →
      Finds (fun fuel => traceBackplane r' tblockLane fuel stack sector) found ∨
        (src.carrier ≠ dst.carrier ∧ tblockLane = src.laneId - 8 ∧
          Finds (fun fuel => traceBackplane r' tblockLane fuel stack sector)
            (some (src.stackId, src.carrierId))) := by
  intro fuel
  -- The induction is on the fuel of the search before the route.
  induction fuel with
  | zero =>
    intro stack sector found ended
    cases ended
  | succ fuel ih =>
    intro stack sector found ended
    rcases bplSource_wraps stack (tblockLane / 8) sector (tblockLane % 8) with
      ⟨real, bounds, wraps⟩ | ⟨error, raises⟩
    · rcases rerouted.others (.backplane stack (tblockLane / 8) real (tblockLane % 8))
          ⟨bounds, by omega, by omega⟩ with same | ⟨source, member⟩
      · -- This multiplexer is as before, so the search goes on as before.
        have kept : r'.bplSource stack (tblockLane / 8) sector (tblockLane % 8) =
            r.bplSource stack (tblockLane / 8) sector (tblockLane % 8) := by
          rw [wraps r, wraps r']
          exact same
        unfold traceBackplane at ended
        cases selects : r.bplSource stack (tblockLane / 8) sector (tblockLane % 8) with
        | error error => simp [selects] at ended
        | ok chosen =>
          rw [selects] at kept
          cases chosen with
          | none =>
            obtain rfl : none = found := by simpa [selects] using ended
            exact .inl (.once fun fuel => by simp only [traceBackplane, kept])
          | some prevCarrierId =>
            simp only [selects] at ended
            by_cases below : prevCarrierId = 8
            · rw [if_pos below] at ended
              have goesOn : ∀ fuel, traceBackplane r' tblockLane (fuel + 1) stack sector =
                  traceBackplane r' tblockLane fuel (stack - 1) 7 := by
                intro fuel
                simp only [traceBackplane, kept, if_pos below]
              rcases ih _ _ _ ended with before | ⟨apart, lane, now⟩
              · exact .inl (before.step goesOn)
              · exact .inr ⟨apart, lane, now.step goesOn⟩
            · rw [if_neg below] at ended
              by_cases above : prevCarrierId = 7
              · rw [if_pos above] at ended
                have goesOn : ∀ fuel, traceBackplane r' tblockLane (fuel + 1) stack sector =
                    traceBackplane r' tblockLane fuel (stack + 1) 8 := by
                  intro fuel
                  simp only [traceBackplane, kept, if_neg below, if_pos above]
                rcases ih _ _ _ ended with before | ⟨apart, lane, now⟩
                · exact .inl (before.step goesOn)
                · exact .inr ⟨apart, lane, now.step goesOn⟩
              · rw [if_neg above] at ended
                obtain rfl : some (stack, prevCarrierId) = found := by simpa using ended
                exact .inl (.once fun fuel => by
                  simp only [traceBackplane, kept, if_neg below, if_neg above])
      · -- From here on the search follows the route.
        obtain ⟨apart, inside⟩ := mem_path_backplane member
        obtain ⟨⟨_, _, place, _, _⟩, _⟩ := backplanePath_demanded inside
        simp only [Mux.backplane.injEq] at place
        have lane : src.laneId = dst.laneId := (refusal_apart rerouted.routable.1 apart).2.1
        obtain rfl : tblockLane = src.laneId - 8 := by omega
        obtain ⟨enough, returns⟩ := rerouted.finds_carrier member
        exact .inr ⟨apart, rfl, enough, fun fuel bound =>
          (traceBackplane_start (wraps r') fuel).trans (returns fuel bound)⟩
    -- A subscript that raises would have raised before.
    · unfold traceBackplane at ended
      simp [raises r] at ended

/-- Where a route leaves the carrier of its source. -/
def exitLoc (src : LaneLoc) : LaneLoc := ⟨src.stackId, src.carrierId, 0, src.laneId⟩

/-- The multiplexer through which a route leaves the carrier of its source. -/
theorem exit_selected (rerouted : Rerouted r r' src dst) (apart : src.carrier ≠ dst.carrier) :
    r'.carrierSource src.carrier 0 (src.laneId - 8) = .ok (some (src.clusterId + 1)) := by
  have cluster : ¬ (src.cluster = dst.cluster ∧ src.laneId < 8) :=
    fun one => apart (LaneLoc.carrier_eq one.1)
  -- It is the first setting of the way.
  exact rerouted.selected (.carrier src.carrier 0 (src.laneId - 8), src.clusterId + 1) (by
    rw [path, if_neg cluster, if_neg apart]
    exact List.mem_cons_self)

/-- A lane that listens to the cluster of the source on its own carrier is traced to the source. -/
theorem finds_cluster {visited : List LaneLoc} {loc : LaneLoc} (switched : ¬ loc.laneId < 8)
    (fresh : loc ∉ visited) (bounds : 0 ≤ src.clusterId ∧ src.clusterId < 3)
    (place : loc.carrier = src.carrier) (lane : loc.laneId = src.laneId)
    (listens : r'.carrierSource loc.carrier loc.clusterId (loc.laneId - 8) =
      .ok (some (src.clusterId + 1))) :
    Finds (fun fuel => traceFrom r' fuel visited loc) (some src) := by
  -- The sector is a cluster's, so that the search ends with this call.
  refine .once fun fuel => ?_
  have inside : ¬ ¬ (0 ≤ src.clusterId + 1 ∧ src.clusterId + 1 < 4) := by omega
  have nonzero : src.clusterId + 1 ≠ 0 := by omega
  simp only [LaneLoc.carrier, CarrierLoc.mk.injEq] at place
  simp only [traceFrom, if_neg switched, if_neg fresh, listens, if_neg inside, if_pos nonzero]
  simp only [place.1, place.2, lane, Int.add_sub_cancel]

/-- A search that comes over the backplane to the carrier of the source ends at the source. -/
theorem finds_source (rerouted : Rerouted r r' src dst) (apart : src.carrier ≠ dst.carrier)
    {visited : List LaneLoc} {loc : LaneLoc} (lane : loc.laneId = src.laneId)
    (fresh : loc ∉ visited) (unseen : exitLoc src ∉ loc :: visited)
    (listens : r'.carrierSource loc.carrier loc.clusterId (loc.laneId - 8) = .ok (some 0))
    (arrives : Finds (fun fuel => traceBackplane r' (loc.laneId - 8) fuel loc.stackId loc.carrierId)
      (some (src.stackId, src.carrierId))) :
    Finds (fun fuel => traceFrom r' fuel visited loc) (some src) := by
  obtain ⟨bounds, _, switched, _⟩ := refusal_apart rerouted.routable.1 apart
  have carrier := rerouted.carrier_bounds apart
  -- Behind the backplane the search is at the exit of the source's carrier.
  have exits : Finds (fun fuel => traceFrom r' fuel (loc :: visited) (exitLoc src)) (some src) :=
    finds_cluster (by simp only [exitLoc]; omega) unseen ⟨rerouted.cluster, bounds.2⟩ rfl rfl
      (rerouted.exit_selected apart)
  obtain ⟨enough, returns⟩ := arrives
  obtain ⟨more, ends⟩ := exits
  -- Enough fuel for the backplane and for the rest is enough for both.
  refine ⟨enough + more + 1, fun fuel bound => ?_⟩
  obtain ⟨fuel, rfl⟩ := Nat.exists_eq_add_of_le' (by omega : 1 ≤ fuel)
  have upper : ¬ loc.laneId < 8 := by omega
  have reached : 0 ≤ src.carrierId ∧ src.carrierId ≤ 6 := by omega
  have next : (⟨src.stackId, src.carrierId, 0, loc.laneId⟩ : LaneLoc) = exitLoc src := by
    rw [exitLoc, lane]
  simp only [traceFrom, if_neg upper, if_neg fresh, listens]
  simp only [returns (fuel + 1) (by omega), next]
  simpa [reached] using ends fuel (by omega)

/-- The backplane of the sink's stack is asked for what feeds the sink's carrier. -/
theorem backplanePath_sink (src dst : LaneLoc) :
    ∃ source, (.backplane dst.stackId ((src.laneId - 8) / 8) dst.carrierId (dst.laneId % 8), source) ∈
      backplanePath src dst := by
  -- Within a stack the way has one setting, between stacks its last one is at the sink.
  by_cases level : src.stackId = dst.stackId
  · exact ⟨src.carrierId, by simp [backplanePath, level]⟩
  · exact ⟨_, (mem_backplanePath level).mpr (.inr (.inr rfl))⟩

/-- A search that comes to a multiplexer of the route on a carrier ends at the source. -/
theorem finds_from_path (rerouted : Rerouted r r' src dst) {visited : List LaneLoc} {loc : LaneLoc}
    {source : Int} (fresh : loc ∉ visited)
    (unseen : src.carrier ≠ dst.carrier → exitLoc src ∉ visited)
    (member : (.carrier loc.carrier loc.clusterId (loc.laneId - 8), source) ∈ path src dst) :
    Finds (fun fuel => traceFrom r' fuel visited loc) (some src) := by
  have selects := rerouted.selected _ member
  have accepted := rerouted.routable.2 _ member
  have upper : ¬ loc.laneId < 8 := by
    have := accepted.2.2
    omega
  -- The multiplexer is set by the route: inside a carrier, at its exit or at its entry.
  unfold path at member
  split at member
  · cases member
  split at member
  · -- Inside a carrier the sink listens to the cluster of the source.
    rename_i _ same
    simp only [List.mem_singleton, Prod.mk.injEq, Mux.carrier.injEq] at member
    obtain ⟨⟨carrier, cluster, lane⟩, rfl⟩ := member
    obtain ⟨bound, level, _⟩ := refusal_inside rerouted.routable.1 same
    exact finds_cluster upper fresh ⟨rerouted.cluster, bound⟩ (carrier.trans same.symm) (by omega)
      selects
  · rename_i _ apart
    obtain ⟨bounds, level, _⟩ := refusal_apart rerouted.routable.1 apart
    rcases List.mem_cons.mp member with exit | member
    -- At the exit the carrier listens to the cluster of the source.
    · simp only [Prod.mk.injEq, Mux.carrier.injEq] at exit
      obtain ⟨⟨carrier, cluster, lane⟩, rfl⟩ := exit
      exact finds_cluster upper fresh ⟨rerouted.cluster, bounds.2⟩ carrier (by omega) selects
    rcases List.mem_cons.mp member with entry | member
    · -- The sink listens to the backplane, which leads to the carrier of the source.
      simp only [Prod.mk.injEq, Mux.carrier.injEq] at entry
      obtain ⟨⟨carrier, cluster, lane⟩, rfl⟩ := entry
      obtain ⟨source, last⟩ := backplanePath_sink src dst
      have arrives := rerouted.finds_carrier (backplanePath_subset apart _ last)
      have other : exitLoc src ≠ loc := by
        rintro rfl
        exact apart carrier
      have place := carrier
      simp only [LaneLoc.carrier, CarrierLoc.mk.injEq] at place
      have level : loc.laneId = src.laneId := by omega
      refine rerouted.finds_source apart level fresh ?_ selects ?_
      · exact fun member => (List.mem_cons.mp member).elim other (unseen apart)
      · rw [level, place.1, place.2]
        exact arrives
    · obtain ⟨⟨_, _, place, _⟩, _⟩ := backplanePath_demanded member
      cases place

/-- A search that goes on over the backplane, given what holds of the search behind it. -/
theorem search_backplane (rerouted : Rerouted r r' src dst) {fuel : ℕ}
    (behind : ∀ (visited : List LaneLoc) (loc : LaneLoc) (found : Option LaneLoc),
      (src.carrier ≠ dst.carrier → exitLoc src ∉ visited) →
      traceFrom r fuel visited loc = some (.ok found) →
      Finds (fun fuel => traceFrom r' fuel visited loc) found ∨
        Finds (fun fuel => traceFrom r' fuel visited loc) (some src))
    {visited : List LaneLoc} {loc : LaneLoc} {found : Option LaneLoc}
    (upper : ¬ loc.laneId < 8) (fresh : loc ∉ visited)
    (unseen : src.carrier ≠ dst.carrier → exitLoc src ∉ visited)
    (listens : r'.carrierSource loc.carrier loc.clusterId (loc.laneId - 8) = .ok (some 0))
    (ended : (match traceBackplane r (loc.laneId - 8) (fuel + 1) loc.stackId loc.carrierId with
      | none => none
      | some (.error error) => some (.error error)
      | some (.ok none) => some (.ok none)
      | some (.ok (some (currentStack, prevCarrierId))) =>
        if 0 ≤ prevCarrierId ∧ prevCarrierId ≤ 6 then
          traceFrom r fuel (loc :: visited) ⟨currentStack, prevCarrierId, 0, loc.laneId⟩
        else some (.error ⟨.routing, "Connections between stacks not implemented yet!"⟩)) =
      some (.ok found)) :
    Finds (fun fuel => traceFrom r' fuel visited loc) found ∨
      Finds (fun fuel => traceFrom r' fuel visited loc) (some src) := by
  -- The way out of the source's carrier does not listen to the backplane.
  have onward : src.carrier ≠ dst.carrier → exitLoc src ∉ loc :: visited := by
    intro apart member
    rcases List.mem_cons.mp member with here | before
    · subst here
      have exits := rerouted.exit_selected apart
      have cluster := rerouted.cluster
      have same := exits.symm.trans listens
      simp only [Except.ok.injEq, Option.some.injEq] at same
      omega
    · exact unseen apart before
  cases followed : traceBackplane r (loc.laneId - 8) (fuel + 1) loc.stackId loc.carrierId with
  | none => simp [followed] at ended
  | some outcome =>
    cases outcome with
    | error error => simp [followed] at ended
    | ok place =>
      rcases rerouted.backplane (fuel + 1) loc.stackId loc.carrierId place followed with
        before | ⟨apart, lane, now⟩
      swap
      · exact .inr (rerouted.finds_source apart (by omega) fresh (onward apart) listens now)
      obtain ⟨enough, returns⟩ := before
      cases place with
      | none =>
        obtain rfl : none = found := by simpa [followed] using ended
        refine .inl ⟨enough + 1, fun fuel bound => ?_⟩
        obtain ⟨fuel, rfl⟩ := Nat.exists_eq_add_of_le' (by omega : 1 ≤ fuel)
        simp only [traceFrom, if_neg upper, if_neg fresh, listens]
        simp [returns (fuel + 1) (by omega)]
      | some place =>
        obtain ⟨currentStack, prevCarrierId⟩ := place
        simp only [followed] at ended
        by_cases carrier : 0 ≤ prevCarrierId ∧ prevCarrierId ≤ 6
        · rw [if_pos carrier] at ended
          have goesOn : ∀ {later : Option LaneLoc}, Finds (fun fuel => traceFrom r' fuel (loc :: visited)
              ⟨currentStack, prevCarrierId, 0, loc.laneId⟩) later →
              Finds (fun fuel => traceFrom r' fuel visited loc) later := by
            rintro later ⟨more, ends⟩
            refine ⟨enough + more + 1, fun fuel bound => ?_⟩
            obtain ⟨fuel, rfl⟩ := Nat.exists_eq_add_of_le' (by omega : 1 ≤ fuel)
            simp only [traceFrom, if_neg upper, if_neg fresh, listens]
            simp only [returns (fuel + 1) (by omega)]
            simpa [carrier] using ends fuel (by omega)
          rcases behind _ _ _ onward ended with before | now
          · exact .inl (goesOn before)
          · exact .inr (goesOn now)
        · simp [carrier] at ended

/-- A search behind the T-blocks ends where it ended before, or at the source of the route. -/
theorem search (rerouted : Rerouted r r' src dst) :
    ∀ (fuel : ℕ) (visited : List LaneLoc) (loc : LaneLoc) (found : Option LaneLoc),
      (src.carrier ≠ dst.carrier → exitLoc src ∉ visited) →
      traceFrom r fuel visited loc = some (.ok found) →
      Finds (fun fuel => traceFrom r' fuel visited loc) found ∨
        Finds (fun fuel => traceFrom r' fuel visited loc) (some src) := by
  intro fuel
  -- The induction is on the fuel of the search before the route.
  induction fuel with
  | zero =>
    intro visited loc found _ ended
    cases ended
  | succ fuel ih =>
    intro visited loc found unseen ended
    unfold traceFrom at ended
    by_cases bypass : loc.laneId < 8
    · obtain rfl : some loc = found := by simpa [bypass] using ended
      exact .inl (.once fun fuel => by simp only [traceFrom, if_pos bypass])
    by_cases seen : loc ∈ visited
    · obtain rfl : none = found := by simpa [bypass, seen] using ended
      exact .inl (.once fun fuel => by simp only [traceFrom, if_neg bypass, if_pos seen])
    -- The T-block of this carrier was set by the route, or it is as before.
    simp only [if_neg bypass, if_neg seen] at ended
    rcases rerouted.others (.carrier loc.carrier loc.clusterId (loc.laneId - 8)) trivial with
      kept | ⟨source, member⟩
    swap
    · exact .inr (rerouted.finds_from_path seen unseen member)
    simp only [select] at kept
    cases selects : r.carrierSource loc.carrier loc.clusterId (loc.laneId - 8) with
    | error error => simp [selects] at ended
    | ok chosen =>
      rw [selects] at kept
      cases chosen with
      | none =>
        obtain rfl : none = found := by simpa [selects] using ended
        exact .inl (.once fun fuel => by simp only [traceFrom, if_neg bypass, if_neg seen, kept])
      | some source =>
        simp only [selects] at ended
        -- A sector that does not exist ends both searches.
        by_cases outside : ¬ (0 ≤ source ∧ source < 4)
        · obtain rfl : none = found := by simpa [outside] using ended
          exact .inl (.once fun fuel => by
            simp only [traceFrom, if_neg bypass, if_neg seen, kept, if_pos outside])
        rw [if_neg outside] at ended
        -- A cluster of the carrier ends the search with its lane.
        by_cases cluster : source ≠ 0
        · rw [if_pos cluster] at ended
          exact .inl (.once fun fuel => by
            simpa only [traceFrom, if_neg bypass, if_neg seen, kept, if_neg outside,
              if_pos cluster] using ended)
        rw [if_neg cluster] at ended
        obtain rfl := not_not.mp cluster
        exact rerouted.search_backplane ih bypass seen unseen kept ended

/-- Every lane is traced to what it was traced to before, or to the source of the route. -/
theorem findCoef (rerouted : Rerouted r r' src dst) {fuel : ℕ} {loc : LaneLoc}
    {found : Option LaneLoc} (ended : Tracer.findCoef r fuel loc = some (.ok found)) :
    Finds (fun fuel => Tracer.findCoef r' fuel loc) found ∨
      Finds (fun fuel => Tracer.findCoef r' fuel loc) (some src) := by
  unfold Tracer.findCoef at ended ⊢
  -- A bypassed lane needs no search.
  by_cases bypass : loc.laneId < 8
  · simp only [if_pos bypass] at ended ⊢
    exact .inl ⟨0, fun _ _ => ended⟩
  · simp only [if_neg bypass] at ended ⊢
    exact rerouted.search fuel [] _ found (fun _ => List.not_mem_nil) ended

end Rerouted

end Tracer

end Pybrid
