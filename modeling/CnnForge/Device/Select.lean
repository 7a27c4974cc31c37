import CnnForge.Device.Catalog
import CnnForge.Session
import CnnForge.Value.Shown

namespace CnnForge.Device

def select (code : Value) : Run Unit := do
  match code.int?.bind Device.ofCode? with
  | some d =>
    Run.putLine s!"Configuring device: {d.partNumber}"
    Run.modifyOptions fun o => { o with apbBase := d.apbBase }
    modify fun s => { s with device := some d }
  | none => Run.stop s!"Unknown device code `{code.shown}`"

end CnnForge.Device
