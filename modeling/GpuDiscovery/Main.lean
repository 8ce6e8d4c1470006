import GpuDiscovery.Probe.Report

/-!
# The probe as a program

Reads the arguments and the environment, runs the probe, and writes what it leaves behind. There is
no service for finding devices outside the platform that the library was made for.
-/

open GpuDiscovery

/-- Runs the probe on the machine it is on. -/
def main (arguments : List String) : IO UInt32 := do
  let environmentRoot ← IO.getEnv "SystemRoot"
  let result := runProbe arguments .unsupported environmentRoot
  for logged in result.log do
    IO.eprint (line logged.text)
  IO.print result.output
  for complaint in result.failure.toList ++ result.usageNote.toList do
    IO.eprint complaint
  return result.exitCode
