import Heartbeat.Delivery.World

/-!
# Resources

What a delivery opens it registers, and whoever asked for it closes everything
registered, the latest first.  A failure to close one resource does not keep the
others open; of several failures the last one is passed on, and it goes before
the failure of what was done with the resources.  Nothing is closed twice.
-/

namespace Heartbeat

set_option autoImplicit false

namespace Delivery

/-- Registers a resource. -/
def register (resource : Resource) : Delivery Unit :=
  modify fun world => { world with resources := resource :: world.resources }

/-- Closes one resource. -/
def close : Resource → Delivery Unit
  | .file label => do
    match (← get).destination label with
    | .file handle =>
      let (result, handle, files) := handle.close (← get).files
      modify fun world => { world.setDestination label (.file handle) with files }
      failOn Troubles.fileClose
      ofExcept result
    | _ => return ()
  | .session label => do
    match (← get).client label with
    | .session .. =>
      note .transportClose
      failOn Troubles.sessionClose
    | .stub .. => note (.clientClose label)

/-- Closes resources one after the other. -/
def closeEach : List Resource → Delivery Unit
  | [] => return ()
  | resource :: resources => do
    let outcome ← attempt (close resource)
    closeEach resources
    ofExcept outcome

/-- Closes everything that is registered. -/
def closeAll : Delivery Unit := do
  let resources := (← get).resources
  modify fun world => { world with resources := [] }
  closeEach resources

/-- Runs a delivery and closes everything it registered, however it ends. -/
def closing {result : Type} (delivery : Delivery result) : Delivery result := do
  let outcome ← attempt delivery
  closeAll
  ofExcept outcome

/-! ## Laws -/

/-- Closing everything when nothing is registered does nothing. -/
theorem closeAll_of_resources_nil {world : World} (nothing : world.resources = []) :
    closeAll.run.run world = (.ok (), world) := by
  have same : { world with resources := [] } = world := by
    cases world
    cases nothing
    rfl
  show (closeEach world.resources).run.run { world with resources := [] } = (.ok (), world)
  rw [nothing, same]
  rfl

end Delivery

end Heartbeat
