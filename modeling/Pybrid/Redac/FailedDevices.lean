import Pybrid.Redac.CarrierLocations

/-! What is left of a device that could not be added. -/

namespace Pybrid

namespace Discovery

namespace Controller

variable {C : Type} (registry : List (EntityType × C)) (depth : Nat)

/-- Adding a carrier does not touch the connections. -/
theorem addCarrier_leaves (found : Found C) :
    Raising.Leaves (·.connectionManager) (addCarrier found) := by
  refine .bind (fun start => ?_) fun _ => ?_
  · rw [onComputer]
    cases DiscoveredComputer.addCarrier found start.computer <;> rfl
  · -- Only the clusters of a carrier are noted.
    cases found <;> exact fun start => rfl

/-- Adding an entity does not touch the connections. -/
theorem addEntity_leaves (entity : PbEntity) :
    Raising.Leaves (·.connectionManager) (addEntity registry depth entity) := by
  refine .bind (fun start => ?_) fun carriers => ?_
  -- Building does not look at the connections.
  · cases built registry depth entity <;> rfl
  · exact .bind (.forM addCarrier_leaves carriers) fun _ _ => rfl

/-- Whatever comes of adding a device, its connections are what the manager has made of it. -/
theorem addDevice_manager (attempt : Attempt) (controller : Controller C) :
    (Raising.final (addDevice registry depth attempt controller)).connectionManager =
      controller.connectionManager.perform (.addDevice attempt) := by
  rw [addDevice, Raising.get_bind, ConnectionManager.perform]
  cases connected : ConnectionManager.addDevice attempt controller.connectionManager with
  | error error manager =>
    have raised : connectDevice attempt controller =
        .error error { controller with connectionManager := manager } := by
      rw [connectDevice, connected]
    rw [Raising.bind_of_error raised]
    rfl
  | ok carriers manager =>
    have returned : connectDevice attempt controller =
        .ok () { controller with connectionManager := manager } := by
      rw [connectDevice, connected]
    rw [Raising.bind_of_ok returned, Raising.get_bind]
    -- The entities are added behind, and do not touch the connections.
    exact Raising.Leaves.forM (addEntity_leaves registry depth) _ _

/-- A controller after devices were added, or were tried to be. -/
def run (known : BlockRegistry C) (attempts : List Attempt) : Controller C :=
  attempts.foldl (fun controller attempt =>
    Raising.final (addDevice registry depth attempt controller)) (new known)

/-- Numbers of connections are used once in every run. -/
theorem numbered_run (known : BlockRegistry C) (attempts : List Attempt) :
    (run registry depth known attempts).connectionManager.Numbered := by
  -- One more attempt is one more call of the manager.
  induction attempts using List.reverseRecOn with
  | nil => exact ConnectionManager.numbered_new
  | append_singleton earlier attempt ih =>
    rw [run, List.foldl_append]
    show (Raising.final (addDevice registry depth attempt
      (run registry depth known earlier))).connectionManager.Numbered
    rw [addDevice_manager]
    exact ih.perform (.addDevice attempt)

variable {registry depth}

end Controller

end Discovery

end Pybrid
