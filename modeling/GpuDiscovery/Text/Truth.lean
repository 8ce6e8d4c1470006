/-!
# Truth values in texts
-/

namespace GpuDiscovery.Text

/-- How a truth value is written in reports and log notes. -/
def truth : Bool → String
  | true => "true"
  | false => "false"

end GpuDiscovery.Text
