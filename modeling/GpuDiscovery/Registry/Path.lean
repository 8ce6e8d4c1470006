import GpuDiscovery.Error
import GpuDiscovery.Text.Split

/-!
# Registry paths

A key of the registry is named by one of six predefined roots and a path below it. In a text the
two are joined by a backslash, and the first backslash of a text is that one: the names of roots
hold none, and the path below may hold any number, at its ends too.
-/

namespace GpuDiscovery

/-- The predefined roots of the registry that paths begin at. -/
inductive RegistryRoot where
  | classesRoot
  | currentConfig
  | currentUser
  | localMachine
  | performanceData
  | users
  deriving DecidableEq, Repr

namespace RegistryRoot

/-- The name of a root. -/
def name : RegistryRoot → String
  | classesRoot => "HKEY_CLASSES_ROOT"
  | currentConfig => "HKEY_CURRENT_CONFIG"
  | currentUser => "HKEY_CURRENT_USER"
  | localMachine => "HKEY_LOCAL_MACHINE"
  | performanceData => "HKEY_PERFORMANCE_DATA"
  | users => "HKEY_USERS"

/-- All roots. -/
def every : List RegistryRoot :=
  [classesRoot, currentConfig, currentUser, localMachine, performanceData, users]

/-- The root with a given name, which has to be exact. -/
def ofName (name : String) : Except DiscoveryError RegistryRoot :=
  match every.find? fun root => root.name = name with
  | some root => .ok root
  | none => .error (.message ("unknown registry root key: " ++ name))

@[simp] theorem ofName_name (root : RegistryRoot) : ofName root.name = .ok root := by
  cases root <;> rfl

/-- No name of a root holds a backslash. -/
theorem separator_notMem_name (root : RegistryRoot) : '\\' ∉ root.name.toList := by
  cases root <;> decide

end RegistryRoot

/-- A key of the registry. -/
structure RegistryPath where
  root : RegistryRoot
  subkey : String
  deriving DecidableEq, Repr

namespace RegistryPath

/-- Reads a path: a root, a backslash, and at least one character. -/
def parse (path : String) : Except DiscoveryError RegistryPath :=
  match Text.splitAtFirst '\\' path.toList with
  | none => .error (.message ("invalid registry key path: " ++ path))
  | some (_, []) => .error (.message ("registry key path has no subkey: " ++ path))
  | some (root, subkey) =>
    (RegistryRoot.ofName (String.ofList root)).map fun root => ⟨root, String.ofList subkey⟩

/-- The key with a given name directly below a key. -/
def join (path : RegistryPath) (child : String) : RegistryPath :=
  { path with subkey := path.subkey ++ "\\" ++ child }

/-- How a path is written. -/
def text (path : RegistryPath) : String :=
  path.root.name ++ "\\" ++ path.subkey

end RegistryPath

example : RegistryPath.parse "HKEY_USERS\\\\" = .ok ⟨.users, "\\"⟩ := rfl

end GpuDiscovery
