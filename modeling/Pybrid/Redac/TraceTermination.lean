import Pybrid.Library.Following
import Pybrid.Redac.Router

/-! When the search for the source of a lane ends. -/

namespace Pybrid

namespace Tracer

open Routing Following

/-- A place the tracer looks at: a sector of a carrier's T-block, or of a backplane T-block. -/
inductive Position where
  | carrier (loc : LaneLoc)
  | backplane (stack sector laneId : Int)
  deriving DecidableEq

/-- What a place listens to, if the tracer goes on from there. -/
def listensTo (r : Routing) : Position → Option Position
  | .carrier loc =>
    if loc.laneId < 8 then none
    else
      match r.carrierSource loc.carrier loc.clusterId (loc.laneId - 8) with
      -- Only sector 0 is fed by the backplane.
      | .ok (some source) =>
        if source = 0 then some (.backplane loc.stackId loc.carrierId loc.laneId) else none
      | _ => none
  | .backplane stack sector laneId =>
    match r.bplSource stack ((laneId - 8) / 8) sector ((laneId - 8) % 8) with
    | .ok (some source) =>
      if source = 8 then some (.backplane (stack - 1) 7 laneId)
      else if source = 7 then some (.backplane (stack + 1) 8 laneId)
      else if 0 ≤ source ∧ source ≤ 6 then some (.carrier ⟨stack, source, 0, laneId⟩)
      else none
    | _ => none

/-- One place listens to another one. -/
def Listens (r : Routing) (place next : Position) : Prop := listensTo r place = some next

/-- The place is a sector of a backplane T-block. -/
def Position.OnBackplane : Position → Prop
  | .carrier _ => False
  | .backplane _ _ _ => True

/-- A signal is handed on from one stack to another one. -/
def Passes (r : Routing) (place next : Position) : Prop :=
  place.OnBackplane ∧ next.OnBackplane ∧ Listens r place next

/-- Where the search for the source of a lane starts. -/
def startOf (loc : LaneLoc) : Position :=
  .carrier ⟨loc.stackId, loc.carrierId, loc.clusterId + 1, loc.laneId⟩

/--
The settings that feed a lane come to an end somewhere.

Only finitely many places lie on the way, and no two stacks hand a signal to each other in a circle.
-/
structure Grounded (r : Routing) (loc : LaneLoc) : Prop where
  finite : (reach (Listens r) (startOf loc)).Finite
  acyclic : ∀ place ∈ reach (Listens r) (startOf loc), ¬Relation.TransGen (Passes r) place place

/-- A place listens to one other place at most. -/
theorem Listens.unique {r : Routing} {place next other : Position} (first : Listens r place next)
    (second : Listens r place other) : next = other :=
  Option.some.inj (first.symm.trans second)

/-- A sector of a backplane that is fed listens to what feeds it. -/
theorem listensTo_backplane {r : Routing} {stack sector laneId source : Int}
    (fed : r.bplSource stack ((laneId - 8) / 8) sector ((laneId - 8) % 8) = .ok (some source)) :
    listensTo r (.backplane stack sector laneId) =
      if source = 8 then some (.backplane (stack - 1) 7 laneId)
      else if source = 7 then some (.backplane (stack + 1) 8 laneId)
      else if 0 ≤ source ∧ source ≤ 6 then some (.carrier ⟨stack, source, 0, laneId⟩)
      else none := by
  simp only [listensTo, fed]

/-- A sector of a backplane that is not fed, or does not exist, listens to nothing. -/
theorem listensTo_backplane_none {r : Routing} {stack sector laneId : Int}
    (unfed : ∀ source,
      r.bplSource stack ((laneId - 8) / 8) sector ((laneId - 8) % 8) ≠ .ok (some source)) :
    listensTo r (.backplane stack sector laneId) = none := by
  unfold listensTo
  dsimp only
  split
  · rename_i source fed
    exact absurd fed (unfed source)
  · rfl

/-- More fuel does not change what was found on the backplane. -/
theorem traceBackplane_more {r : Routing} {tblockLane : Int}
    {outcome : Except PyError (Option (Int × Int))} :
    ∀ {fuel more : ℕ} {stack sector : Int}, fuel ≤ more →
      traceBackplane r tblockLane fuel stack sector = some outcome →
      traceBackplane r tblockLane more stack sector = some outcome := by
  intro fuel
  induction fuel with
  | zero => exact fun _ found => by simp [traceBackplane] at found
  | succ fuel ih =>
    intro more stack sector enough found
    obtain ⟨more, rfl⟩ : ∃ rest, more = rest + 1 := ⟨more - 1, by omega⟩
    have enough : fuel ≤ more := by omega
    simp only [traceBackplane] at found ⊢
    split at found
    · exact found
    · exact found
    · -- Further rounds are those of the induction hypothesis.
      split at found
      · rename_i below
        rw [if_pos below]
        exact ih enough found
      · rename_i notBelow
        rw [if_neg notBelow]
        split at found
        · rename_i above
          rw [if_pos above]
          exact ih enough found
        · rename_i notAbove
          rw [if_neg notAbove]
          exact found

/-- More fuel does not change where a lane was followed to. -/
theorem traceFrom_more {r : Routing} {outcome : Except PyError (Option LaneLoc)} :
    ∀ {fuel more : ℕ} {visited : List LaneLoc} {loc : LaneLoc}, fuel ≤ more →
      traceFrom r fuel visited loc = some outcome → traceFrom r more visited loc = some outcome := by
  intro fuel
  induction fuel with
  | zero => exact fun _ found => by simp [traceFrom] at found
  | succ fuel ih =>
    intro more visited loc enough found
    obtain ⟨more, rfl⟩ : ∃ rest, more = rest + 1 := ⟨more - 1, by omega⟩
    have rounds : fuel ≤ more := by omega
    simp only [traceFrom] at found ⊢
    -- Every check before the search on the backplane is made without fuel.
    by_cases low : loc.laneId < 8
    · rwa [if_pos low] at found ⊢
    rw [if_neg low] at found ⊢
    by_cases before : loc ∈ visited
    · rwa [if_pos before] at found ⊢
    rw [if_neg before] at found ⊢
    cases fed : r.carrierSource loc.carrier loc.clusterId (loc.laneId - 8) with
    | error error => simpa only [fed] using found
    | ok source =>
      cases source with
      | none => simpa only [fed] using found
      | some source =>
        simp only [fed] at found ⊢
        by_cases outside : ¬(0 ≤ source ∧ source < 4)
        · rwa [if_pos outside] at found ⊢
        rw [if_neg outside] at found ⊢
        by_cases cluster : source ≠ 0
        · rwa [if_pos cluster] at found ⊢
        rw [if_neg cluster] at found ⊢
        cases left : traceBackplane r (loc.laneId - 8) (fuel + 1) loc.stackId loc.carrierId with
        | none =>
          rw [left] at found
          cases found
        | some ended =>
          rw [traceBackplane_more enough left]
          rw [left] at found
          -- Where the backplane leads to a carrier, the search goes on with a round less.
          rcases ended with error | _ | ⟨current, prevCarrierId⟩
          · exact found
          · exact found
          · simp only at found ⊢
            by_cases range : 0 ≤ prevCarrierId ∧ prevCarrierId ≤ 6
            · rw [if_pos range] at found ⊢
              exact ih rounds found
            · rwa [if_neg range] at found ⊢

/-- A search finds the same source with any amount of fuel that is enough. -/
theorem findCoef_unique {r : Routing} {loc : LaneLoc} {fuel fuel' : ℕ}
    {outcome outcome' : Except PyError (Option LaneLoc)}
    (found : findCoef r fuel loc = some outcome) (found' : findCoef r fuel' loc = some outcome') :
    outcome = outcome' := by
  unfold findCoef at found found'
  by_cases low : loc.laneId < 8
  · rw [if_pos low] at found found'
    exact Option.some.inj (found.symm.trans found')
  · rw [if_neg low] at found found'
    -- Both are found again with the larger of the two amounts.
    have first := traceFrom_more (le_max_left fuel fuel') found
    have second := traceFrom_more (le_max_right fuel fuel') found'
    exact Option.some.inj (first.symm.trans second)

/-- The source of a lane from 8 on is the same lane of one of the three clusters of a carrier. -/
theorem traceFrom_source {r : Routing} {source : LaneLoc} :
    ∀ {fuel : ℕ} {visited : List LaneLoc} {loc : LaneLoc},
      traceFrom r fuel visited loc = some (.ok (some source)) → ¬loc.laneId < 8 →
      source.laneId = loc.laneId ∧ 0 ≤ source.clusterId := by
  intro fuel
  induction fuel with
  | zero => exact fun found => by simp [traceFrom] at found
  | succ fuel ih =>
    intro visited loc found high
    simp only [traceFrom, if_neg high] at found
    split at found
    · cases found
    split at found
    · cases found
    · cases found
    rename_i sector _
    split at found
    · cases found
    rename_i inside
    split at found
    -- The search ends at a cluster of this carrier, or goes on at another one.
    · rename_i cluster
      cases found
      exact ⟨rfl, by simp only; omega⟩
    split at found
    · cases found
    · cases found
    · cases found
    · split at found
      · have later := ih found high
        exact later
      · cases found

/-- The source of a lane has the number of the lane, and is not counted from the end. -/
theorem findCoef_source {r : Routing} {fuel : ℕ} {loc source : LaneLoc}
    (found : findCoef r fuel loc = some (.ok (some source))) :
    source.laneId = loc.laneId ∧ (0 ≤ loc.clusterId → 0 ≤ source.clusterId) := by
  unfold findCoef at found
  split at found
  · cases found
    exact ⟨rfl, id⟩
  · rename_i high
    have source := traceFrom_source found high
    exact ⟨source.1, fun _ => source.2⟩

/-- What a search on the backplane has looked at, and where it has left it. -/
structure Searched (r : Routing) (laneId stack sector : Int)
    (outcome : Except PyError (Option (Int × Int))) (seen : Set Position) : Prop where
  finite : seen.Finite
  start : .backplane stack sector laneId ∈ seen
  ends : ∀ place ∈ seen, Acc (flip (Passes r)) place
  closed : ∀ place ∈ seen, ∀ next, Listens r place next → next ∈ seen ∨
    ∃ current prevCarrierId, outcome = .ok (some (current, prevCarrierId)) ∧
      (0 ≤ prevCarrierId ∧ prevCarrierId ≤ 6) ∧
        next = .carrier ⟨current, prevCarrierId, 0, laneId⟩
  left : ∀ current prevCarrierId, outcome = .ok (some (current, prevCarrierId)) →
    0 ≤ prevCarrierId ∧ prevCarrierId ≤ 6 →
      .carrier ⟨current, prevCarrierId, 0, laneId⟩ ∈
        reach (Listens r) (.backplane stack sector laneId)

/-- A search that does not go on to another stack has looked at one place. -/
theorem searched_here {r : Routing} {laneId stack sector : Int}
    {outcome : Except PyError (Option (Int × Int))}
    (leaves : ∀ next, Listens r (.backplane stack sector laneId) next ↔
      ∃ current prevCarrierId, outcome = .ok (some (current, prevCarrierId)) ∧
        (0 ≤ prevCarrierId ∧ prevCarrierId ≤ 6) ∧
          next = .carrier ⟨current, prevCarrierId, 0, laneId⟩) :
    Searched r laneId stack sector outcome {.backplane stack sector laneId} where
  finite := Set.finite_singleton _
  start := rfl
  ends := by
    rintro _ rfl
    refine Acc.intro _ fun next passed => ?_
    -- The only step from here leads to a carrier.
    obtain ⟨_, _, _, _, rfl⟩ := (leaves next).mp passed.2.2
    exact passed.2.1.elim
  closed := by
    rintro _ rfl next step
    exact .inr ((leaves next).mp step)
  left := fun current prevCarrierId found inside =>
    Relation.ReflTransGen.single ((leaves _).mpr ⟨current, prevCarrierId, found, inside, rfl⟩)

/-- A search that goes on to another stack has looked at one place more. -/
theorem Searched.pass {r : Routing} {laneId stack sector stack' sector' : Int}
    {outcome : Except PyError (Option (Int × Int))} {seen : Set Position}
    (later : Searched r laneId stack' sector' outcome seen)
    (step : Listens r (.backplane stack sector laneId) (.backplane stack' sector' laneId)) :
    Searched r laneId stack sector outcome (insert (.backplane stack sector laneId) seen) where
  finite := later.finite.insert _
  start := Set.mem_insert _ _
  ends := by
    intro place member
    rcases Set.mem_insert_iff.mp member with rfl | member
    -- The new place hands the lane on to the start of the rest, and only there.
    · refine Acc.intro _ fun next passed => ?_
      rw [passed.2.2.unique step]
      exact later.ends _ later.start
    · exact later.ends place member
  closed := by
    intro place member next leads
    rcases Set.mem_insert_iff.mp member with rfl | member
    · rw [leads.unique step]
      exact .inl (Set.mem_insert_of_mem _ later.start)
    · exact (later.closed place member next leads).imp (Set.mem_insert_of_mem _) id
  left := fun current prevCarrierId found inside =>
    Relation.ReflTransGen.head step (later.left current prevCarrierId found inside)

/-- A search on the backplane that ends has looked at finitely many places. -/
theorem traceBackplane_searched {r : Routing} {laneId : Int}
    {outcome : Except PyError (Option (Int × Int))} :
    ∀ {fuel : ℕ} {stack sector : Int},
      traceBackplane r (laneId - 8) fuel stack sector = some outcome →
      ∃ seen, Searched r laneId stack sector outcome seen := by
  -- The induction follows the rounds of the loop.
  intro fuel
  induction fuel with
  | zero => exact fun found => by simp [traceBackplane] at found
  | succ fuel ih =>
    intro stack sector found
    simp only [traceBackplane] at found
    split at found
    · rename_i error source
      cases found
      have silent := listensTo_backplane_none (r := r) (fun _ fed => by rw [source] at fed; cases fed)
      exact ⟨_, searched_here fun next => by simp [Listens, silent]⟩
    · rename_i source
      cases found
      have silent := listensTo_backplane_none (r := r) (fun _ fed => by rw [source] at fed; cases fed)
      exact ⟨_, searched_here fun next => by simp [Listens, silent]⟩
    · rename_i prevCarrierId source
      have feeds := listensTo_backplane source
      split at found
      · rename_i below
        obtain ⟨seen, searched⟩ := ih found
        rw [if_pos below] at feeds
        exact ⟨_, searched.pass feeds⟩
      · rename_i notBelow
        rw [if_neg notBelow] at feeds
        split at found
        · rename_i above
          obtain ⟨seen, searched⟩ := ih found
          rw [if_pos above] at feeds
          exact ⟨_, searched.pass feeds⟩
        · rename_i notAbove
          cases found
          rw [if_neg notAbove] at feeds
          refine ⟨_, searched_here fun next => ?_⟩
          simp only [Listens, feeds, Except.ok.injEq, Option.some.injEq, Prod.mk.injEq]
          constructor
          · intro step
            split at step
            · rename_i inside
              exact ⟨stack, prevCarrierId, ⟨rfl, rfl⟩, inside, (Option.some.inj step).symm⟩
            · cases step
          · rintro ⟨_, _, ⟨rfl, rfl⟩, inside, rfl⟩
            rw [if_pos inside]

/-- A search on the backplane ends where the stacks hand the signal on finitely often. -/
theorem traceBackplane_ends {r : Routing} {laneId : Int} {place : Position}
    (ends : Acc (flip (Passes r)) place) :
    ∀ {stack sector : Int}, place = .backplane stack sector laneId →
      ∃ fuel outcome, traceBackplane r (laneId - 8) fuel stack sector = some outcome := by
  -- Each further stack is one that this one passes the signal on from.
  induction ends with
  | intro place _ ih =>
    rintro stack sector rfl
    have further : ∀ {stack' sector'}, listensTo r (.backplane stack sector laneId) =
        some (.backplane stack' sector' laneId) →
        ∃ fuel outcome, traceBackplane r (laneId - 8) fuel stack' sector' = some outcome :=
      fun step => ih _ ⟨by trivial, by trivial, step⟩ rfl
    cases source : r.bplSource stack ((laneId - 8) / 8) sector ((laneId - 8) % 8) with
    | error error => exact ⟨1, .error error, by simp only [traceBackplane, source]⟩
    | ok fed =>
      cases fed with
      | none => exact ⟨1, .ok none, by simp only [traceBackplane, source]⟩
      | some prevCarrierId =>
        have feeds := listensTo_backplane source
        by_cases below : prevCarrierId = 8
        · rw [if_pos below] at feeds
          obtain ⟨fuel, outcome, found⟩ := further feeds
          exact ⟨fuel + 1, outcome, by simp only [traceBackplane, source, if_pos below, found]⟩
        · rw [if_neg below] at feeds
          by_cases above : prevCarrierId = 7
          · rw [if_pos above] at feeds
            obtain ⟨fuel, outcome, found⟩ := further feeds
            exact ⟨fuel + 1, outcome,
              by simp only [traceBackplane, source, if_neg below, if_pos above, found]⟩
          · exact ⟨1, .ok (some (stack, prevCarrierId)),
              by simp only [traceBackplane, source, if_neg below, if_neg above]⟩

/-- What the search has looked at up to the carrier it turns to next, if there is one. -/
structure Explored (r : Routing) (visited : List LaneLoc) (exit : Option LaneLoc)
    (seen : Set Position) : Prop where
  finite : seen.Finite
  visited : ∀ loc ∈ visited, .carrier loc ∈ seen
  ends : ∀ place ∈ seen, Acc (flip (Passes r)) place
  closed : ∀ place ∈ seen, ∀ next, Listens r place next →
    next ∈ seen ∨ ∃ loc, exit = some loc ∧ next = .carrier loc

/-- A carrier hands nothing on from stack to stack. -/
theorem carrier_ends (r : Routing) (loc : LaneLoc) : Acc (flip (Passes r)) (.carrier loc) :=
  Acc.intro _ fun _ passed => passed.1.elim

/-- A carrier that listens to no backplane ends the search. -/
theorem Explored.stop {r : Routing} {visited : List LaneLoc} {loc : LaneLoc} {seen : Set Position}
    (explored : Explored r visited (some loc) seen) (silent : listensTo r (.carrier loc) = none) :
    Explored r (loc :: visited) none (insert (.carrier loc) seen) where
  finite := explored.finite.insert _
  visited := List.forall_mem_cons.mpr ⟨Set.mem_insert _ _,
    fun other member => Set.mem_insert_of_mem _ (explored.visited other member)⟩
  ends := Set.forall_mem_insert.mpr ⟨carrier_ends r loc, explored.ends⟩
  closed := by
    intro place member next leads
    -- Nothing leads out of the carrier, and it was the only way out so far.
    rcases Set.mem_insert_iff.mp member with rfl | member
    · rw [Listens, silent] at leads
      cases leads
    · rcases explored.closed place member next leads with inside | ⟨_, ⟨rfl⟩, rfl⟩
      · exact .inl (Set.mem_insert_of_mem _ inside)
      · exact .inl (Set.mem_insert _ _)

/-- A carrier visited before ends the search, too. -/
theorem Explored.again {r : Routing} {visited : List LaneLoc} {loc : LaneLoc} {seen : Set Position}
    (explored : Explored r visited (some loc) seen) (before : loc ∈ visited) :
    Explored r visited none seen where
  finite := explored.finite
  visited := explored.visited
  ends := explored.ends
  closed := by
    intro place member next leads
    rcases explored.closed place member next leads with inside | ⟨_, ⟨rfl⟩, rfl⟩
    · exact .inl inside
    · exact .inl (explored.visited loc before)

/-- A carrier that listens to the backplane hands the search on to where the backplane leads. -/
theorem Explored.go {r : Routing} {visited : List LaneLoc} {loc : LaneLoc} {exit : Option LaneLoc}
    {seen searchedPlaces : Set Position} {stack sector : Int}
    {outcome : Except PyError (Option (Int × Int))}
    (explored : Explored r visited (some loc) seen)
    (step : Listens r (.carrier loc) (.backplane stack sector loc.laneId))
    (searched : Searched r loc.laneId stack sector outcome searchedPlaces)
    (leaves : ∀ current prevCarrierId, outcome = .ok (some (current, prevCarrierId)) →
      0 ≤ prevCarrierId ∧ prevCarrierId ≤ 6 →
        exit = some ⟨current, prevCarrierId, 0, loc.laneId⟩) :
    Explored r (loc :: visited) exit (insert (.carrier loc) (seen ∪ searchedPlaces)) where
  finite := (explored.finite.union searched.finite).insert _
  visited := List.forall_mem_cons.mpr ⟨Set.mem_insert _ _,
    fun other member => Set.mem_insert_of_mem _ (.inl (explored.visited other member))⟩
  ends := by
    refine Set.forall_mem_insert.mpr ⟨carrier_ends r loc, fun place member => ?_⟩
    exact member.elim (explored.ends place) (searched.ends place)
  closed := by
    intro place member next leads
    -- Out of what was seen before the way leads to the carrier, and from there over the backplane.
    rcases Set.mem_insert_iff.mp member with rfl | member | member
    · rw [leads.unique step]
      exact .inl (Set.mem_insert_of_mem _ (.inr searched.start))
    · rcases explored.closed place member next leads with inside | ⟨_, ⟨rfl⟩, rfl⟩
      · exact .inl (Set.mem_insert_of_mem _ (.inl inside))
      · exact .inl (Set.mem_insert _ _)
    · rcases searched.closed place member next leads with inside | ⟨_, _, found, range, rfl⟩
      · exact .inl (Set.mem_insert_of_mem _ (.inr inside))
      · exact .inr ⟨_, leaves _ _ found range, rfl⟩

/-- A search that ends has looked at finitely many places, and nothing leads out of them. -/
theorem traceFrom_explored {r : Routing} {outcome : Except PyError (Option LaneLoc)} :
    ∀ {fuel : ℕ} {visited : List LaneLoc} {loc : LaneLoc} {seen : Set Position},
      Explored r visited (some loc) seen → traceFrom r fuel visited loc = some outcome →
      ∃ visited' whole, Explored r visited' none whole ∧ .carrier loc ∈ whole ∧ seen ⊆ whole := by
  -- The induction follows the outer loop, which adds one carrier and its backplane each round.
  intro fuel
  induction fuel with
  | zero => exact fun _ found => by simp [traceFrom] at found
  | succ fuel ih =>
    intro visited loc seen explored found
    have stops : listensTo r (.carrier loc) = none →
        ∃ visited' whole, Explored r visited' none whole ∧ .carrier loc ∈ whole ∧ seen ⊆ whole :=
      fun silent => ⟨_, _, explored.stop silent, Set.mem_insert _ _, Set.subset_insert _ _⟩
    simp only [traceFrom] at found
    split at found
    · rename_i low
      exact stops (by simp only [listensTo, if_pos low])
    rename_i high
    split at found
    · rename_i before
      exact ⟨_, _, explored.again before, explored.visited loc before, subset_rfl⟩
    split at found
    · rename_i source
      exact stops (by simp only [listensTo, if_neg high, source])
    · rename_i source
      exact stops (by simp only [listensTo, if_neg high, source])
    rename_i source fed
    have feeds : listensTo r (.carrier loc) =
        if source = 0 then some (.backplane loc.stackId loc.carrierId loc.laneId) else none := by
      simp only [listensTo, if_neg high, fed]
    split at found
    · rename_i outside
      exact stops (by rw [feeds, if_neg (by omega)])
    split at found
    · rename_i cluster
      exact stops (by rw [feeds, if_neg cluster])
    rename_i backplane
    rw [if_pos (not_not.mp backplane)] at feeds
    split at found
    · cases found
    · rename_i error left
      obtain ⟨places, searched⟩ := traceBackplane_searched left
      exact ⟨_, _, explored.go feeds searched (fun _ _ same => by cases same),
        Set.mem_insert _ _, fun _ member => Set.mem_insert_of_mem _ (.inl member)⟩
    · rename_i left
      obtain ⟨places, searched⟩ := traceBackplane_searched left
      exact ⟨_, _, explored.go feeds searched (fun _ _ same => by cases same),
        Set.mem_insert _ _, fun _ member => Set.mem_insert_of_mem _ (.inl member)⟩
    · rename_i current prevCarrierId left
      obtain ⟨places, searched⟩ := traceBackplane_searched left
      split at found
      · -- The next round starts at the carrier that feeds the backplane.
        have next : Explored r (loc :: visited) (some ⟨current, prevCarrierId, 0, loc.laneId⟩) _ :=
          explored.go feeds searched (fun _ _ same _ => by cases same; rfl)
        obtain ⟨visited', whole, settled, _, covered⟩ := ih next found
        exact ⟨visited', whole, settled, covered (Set.mem_insert _ _),
          fun _ member => covered (Set.mem_insert_of_mem _ (.inl member))⟩
      · rename_i outside
        exact ⟨_, _, explored.go feeds searched
            (fun _ _ same range => by cases same; exact absurd range outside),
          Set.mem_insert _ _, fun _ member => Set.mem_insert_of_mem _ (.inl member)⟩

/-- Where all places are in a finite region without endless passing on, the search ends. -/
theorem traceFrom_ends {r : Routing} {laneId : Int} {region : Set Position} {enough : ℕ}
    (finite : region.Finite)
    (closed : ∀ place ∈ region, ∀ next, Listens r place next → next ∈ region)
    (inner : ∀ stack sector, .backplane stack sector laneId ∈ region →
      ∃ outcome, traceBackplane r (laneId - 8) enough stack sector = some outcome) :
    ∀ (count : ℕ) (visited : List LaneLoc) (loc : LaneLoc), loc.laneId = laneId →
      .carrier loc ∈ region → {other | .carrier other ∈ region ∧ other ∉ visited}.ncard ≤ count →
      ∃ outcome, traceFrom r (count + enough + 1) visited loc = some outcome := by
  -- Each round visits one of the carriers of the region that were not visited before.
  have carriers : {other | Position.carrier other ∈ region}.Finite :=
    finite.preimage (fun _ _ _ _ same => Position.carrier.inj same)
  intro count
  induction count with
  | zero =>
    intro visited loc lane member remaining
    have before : loc ∈ visited := by
      by_contra unvisited
      have some_left : 0 < {other | .carrier other ∈ region ∧ other ∉ visited}.ncard :=
        (Set.ncard_pos (carriers.subset fun _ both => both.1)).mpr ⟨loc, member, unvisited⟩
      omega
    by_cases low : loc.laneId < 8
    · exact ⟨_, by rw [traceFrom, if_pos low]⟩
    · exact ⟨_, by rw [traceFrom, if_neg low, if_pos before]⟩
  | succ count ih =>
    intro visited loc lane member remaining
    have onwards : ∀ next, Listens r (.carrier loc) next → next ∈ region := closed _ member
    by_cases low : loc.laneId < 8
    · exact ⟨_, by rw [traceFrom, if_pos low]⟩
    by_cases before : loc ∈ visited
    · exact ⟨_, by rw [traceFrom, if_neg low, if_pos before]⟩
    rw [traceFrom, if_neg low, if_neg before]
    dsimp only
    cases fed : r.carrierSource loc.carrier loc.clusterId (loc.laneId - 8) with
    | error error => exact ⟨_, rfl⟩
    | ok source =>
      cases source with
      | none => exact ⟨_, rfl⟩
      | some source =>
        dsimp only
        by_cases outside : ¬(0 ≤ source ∧ source < 4)
        · exact ⟨_, if_pos outside⟩
        by_cases backplane : source ≠ 0
        · exact ⟨_, by rw [if_neg outside, if_pos backplane]⟩
        rw [if_neg outside, if_neg backplane]
        have feeds : listensTo r (.carrier loc) =
            some (.backplane loc.stackId loc.carrierId loc.laneId) := by
          simp only [listensTo, if_neg low, fed, if_pos (not_not.mp backplane)]
        have entered := onwards _ feeds
        rw [lane] at entered ⊢
        obtain ⟨outcome, found⟩ := inner _ _ entered
        have enoughFuel : enough ≤ count + 1 + enough + 1 := by omega
        rw [traceBackplane_more enoughFuel found]
        obtain ⟨places, searched⟩ := traceBackplane_searched found
        rcases outcome with error | _ | ⟨current, prevCarrierId⟩
        · exact ⟨_, rfl⟩
        · exact ⟨_, rfl⟩
        · dsimp only
          by_cases range : 0 ≤ prevCarrierId ∧ prevCarrierId ≤ 6
          · rw [if_pos range]
            have inside := reach_subset entered closed (searched.left _ _ rfl range)
            -- The carrier just visited does not count any more.
            have fewer : {other | Position.carrier other ∈ region ∧ other ∉ loc :: visited}.ncard <
                {other | Position.carrier other ∈ region ∧ other ∉ visited}.ncard := by
              refine Set.ncard_lt_ncard ⟨fun other both => ⟨both.1, ?_⟩, fun whole => ?_⟩
                (carriers.subset fun _ both => both.1)
              · exact fun seen => both.2 (List.mem_cons_of_mem _ seen)
              · exact (whole (show loc ∈ _ from ⟨member, before⟩)).2 List.mem_cons_self
            have shape : count + 1 + enough = count + enough + 1 := by omega
            rw [shape]
            exact ih (loc :: visited) _ rfl inside (by omega)
          · exact ⟨_, by rw [if_neg range]⟩

/--
When tracing terminates.

For every set of registered blocks in every state and every lane location, the tracer finds its
answer after finitely many rounds of its loops exactly if the settings that feed the lane come to an
end: no stacks hand the signal to each other in a circle, and only finitely many places lie on the
way. The carriers visited before guard against circles through carriers only.
-/
theorem findCoef_ends_iff (r : Routing) (loc : LaneLoc) :
    (∃ fuel outcome, findCoef r fuel loc = some outcome) ↔ Grounded r loc := by
  by_cases low : loc.laneId < 8
  · -- A lane that bypasses the T-blocks is its own source, and listens to nothing.
    have silent : listensTo r (startOf loc) = none := by
      simp only [startOf, listensTo, if_pos low]
    have alone : reach (Listens r) (startOf loc) ⊆ {startOf loc} := by
      refine reach_subset rfl ?_
      rintro _ rfl next leads
      rw [Listens, silent] at leads
      cases leads
    refine ⟨fun _ => ⟨(Set.finite_singleton _).subset alone, ?_⟩, fun _ => ⟨0, _, if_pos low⟩⟩
    intro place reached
    rw [alone reached]
    exact not_circular (carrier_ends r _)
  constructor
  · rintro ⟨fuel, outcome, found⟩
    rw [findCoef, if_neg low] at found
    have nothing : Explored r [] (some ⟨loc.stackId, loc.carrierId, loc.clusterId + 1, loc.laneId⟩)
        ∅ := ⟨Set.finite_empty, by simp, by simp, by simp⟩
    obtain ⟨visited, whole, explored, start, _⟩ := traceFrom_explored nothing found
    have covered : reach (Listens r) (startOf loc) ⊆ whole := by
      refine reach_subset start fun place member next leads => ?_
      rcases explored.closed place member next leads with inside | ⟨_, none, _⟩
      · exact inside
      · cases none
    exact ⟨explored.finite.subset covered,
      fun place reached => not_circular (explored.ends place (covered reached))⟩
  · rintro ⟨finite, acyclic⟩
    have closed : ∀ place ∈ reach (Listens r) (startOf loc), ∀ next, Listens r place next →
        next ∈ reach (Listens r) (startOf loc) := fun _ reached _ leads => reach_closed reached leads
    have ends : ∀ place ∈ reach (Listens r) (startOf loc), Acc (flip (Passes r)) place :=
      fun place reached => ends_of_finite finite
        (fun _ reached _ passed => closed _ reached _ passed.2.2) acyclic reached
    -- One amount of fuel is enough for all searches on the backplane.
    have each : ∀ place : Position, ∃ fuel, ∀ stack sector, place = .backplane stack sector loc.laneId →
        place ∈ reach (Listens r) (startOf loc) →
        ∃ outcome, traceBackplane r (loc.laneId - 8) fuel stack sector = some outcome := by
      intro place
      by_cases reached : place ∈ reach (Listens r) (startOf loc)
      · cases place with
        | carrier _ => exact ⟨0, fun _ _ other => by cases other⟩
        | backplane stack sector laneId =>
          by_cases lane : laneId = loc.laneId
          · subst lane
            obtain ⟨fuel, outcome, found⟩ := traceBackplane_ends (ends _ reached) rfl
            exact ⟨fuel, fun _ _ same _ => by cases same; exact ⟨outcome, found⟩⟩
          · exact ⟨0, fun _ _ same => by cases same; exact absurd rfl lane⟩
      · exact ⟨0, fun _ _ _ inside => absurd inside reached⟩
    choose fuel found using each
    obtain ⟨enough, bound⟩ := (finite.image fuel).bddAbove
    have inner : ∀ stack sector, .backplane stack sector loc.laneId ∈
        reach (Listens r) (startOf loc) →
        ∃ outcome, traceBackplane r (loc.laneId - 8) enough stack sector = some outcome := by
      intro stack sector reached
      obtain ⟨outcome, within⟩ := found _ stack sector rfl reached
      exact ⟨outcome, traceBackplane_more (bound ⟨_, reached, rfl⟩) within⟩
    obtain ⟨outcome, traced⟩ := traceFrom_ends finite closed inner _ []
      ⟨loc.stackId, loc.carrierId, loc.clusterId + 1, loc.laneId⟩ rfl Relation.ReflTransGen.refl
      le_rfl
    exact ⟨_, outcome, by rw [findCoef, if_neg low]; exact traced⟩

/-- What the shared stand-ins hand on upward, the tracer follows for ever. -/
theorem traceBackplane_endless {r : Routing}
    (upward : ∀ stack, r.bplSource stack 0 8 0 = .ok (some 7)) :
    ∀ (fuel : ℕ) (stack : Int), traceBackplane r 0 fuel stack 8 = none := by
  intro fuel
  induction fuel with
  | zero => exact fun _ => rfl
  | succ fuel ih =>
    intro stack
    have source : r.bplSource stack (0 / 8) 8 (0 % 8) = .ok (some 7) := upward stack
    simp only [traceBackplane, source, if_neg (by decide : ¬(7 : Int) = 8), if_true]
    exact ih (stack + 1)

/-- A route down over a stack without backplane T-blocks is traced back for ever. -/
theorem findCoef_endless :
    ∃ r, Router.route ⟨2, 0, 0, 8⟩ ⟨0, 0, 0, 8⟩ Routing.empty = .ok () r ∧
      ∀ fuel, findCoef r fuel ⟨0, 0, 0, 8⟩ = none := by
  have routed : ∃ r, Router.route ⟨2, 0, 0, 8⟩ ⟨0, 0, 0, 8⟩ Routing.empty = .ok () r ∧
      r.carrierSource ⟨0, 0⟩ 1 0 = .ok (some 0) ∧ r.bplSource 0 0 0 0 = .ok (some 7) ∧
        ∀ stack, r.bplSource stack 0 8 0 = .ok (some 7) :=
    ⟨_, rfl, rfl, rfl, fun _ => rfl⟩
  obtain ⟨r, routed, carrier, entered, upward⟩ := routed
  refine ⟨r, routed, fun fuel => ?_⟩
  -- The lane is fed by the backplane, and that by the stack above.
  have backplane : ∀ more, traceBackplane r 0 more 0 0 = none := by
    intro more
    cases more with
    | zero => rfl
    | succ more =>
      have source : r.bplSource 0 (0 / 8) 0 (0 % 8) = .ok (some 7) := entered
      simp only [traceBackplane, source, if_neg (by decide : ¬(7 : Int) = 8), if_true]
      exact traceBackplane_endless upward more _
  cases fuel with
  | zero => rfl
  | succ fuel =>
    have fed : r.carrierSource (LaneLoc.carrier ⟨0, 0, 0 + 1, 8⟩) (0 + 1) (8 - 8) = .ok (some 0) :=
      carrier
    have left : traceBackplane r (8 - 8) (fuel + 1) 0 0 = none := backplane (fuel + 1)
    rw [findCoef, if_neg (by decide), traceFrom, if_neg (by decide), if_neg (by simp)]
    simp only [fed, left, if_neg (by decide : ¬¬(0 ≤ (0 : Int) ∧ (0 : Int) < 4)),
      if_neg (by decide : ¬(0 : Int) ≠ 0)]

end Tracer

end Pybrid
