import GpuDiscovery.Procedure

/-!
# Loggers

A logger is a handle on a switch. Copies of a handle are handles on the same switch, so switching
one switches them all; separately created loggers have switches of their own. One switch exists
from the start, the one that everybody who asks for the shared logger gets.

Whether the switch is on decides which events of a run reach the log: informative notes do while
it is on, notes about failures always.
-/

namespace GpuDiscovery

/-- A handle on a switch, which is known by its position. -/
structure Logger where
  switch : Nat
  deriving DecidableEq, Repr

/-- The positions of all switches. -/
structure Switchboard where
  switches : List Bool
  deriving DecidableEq, Repr

/-- The logger that is shared by all who ask for it. -/
def Logger.shared : Logger := ⟨0⟩

namespace Switchboard

/-- At the start there is the shared switch, and it is off. -/
def initial : Switchboard := ⟨[false]⟩

/-- Creates a logger with a switch of its own. -/
def create (board : Switchboard) (on : Bool) : Switchboard × Logger :=
  (⟨board.switches ++ [on]⟩, ⟨board.switches.length⟩)

/-- The switch of a logger is on. -/
def isEnabled (board : Switchboard) (logger : Logger) : Bool :=
  board.switches.getD logger.switch false

/-- Turns the switch of a logger on or off. -/
def turn (board : Switchboard) (logger : Logger) (on : Bool) : Switchboard :=
  ⟨board.switches.set logger.switch on⟩

end Switchboard

/-- How important a line of the log is. -/
inductive Severity where
  | info
  | error
  deriving DecidableEq, Repr

/-- A line of the log. -/
structure LogLine where
  severity : Severity
  text : String
  deriving DecidableEq, Repr

/-- What of the events of a run is logged by a logger whose switch is on or off. -/
def logLines {Call : Type} (enabled : Bool) (events : List (Event Call)) : List LogLine :=
  events.filterMap fun
    | .called _ => none
    | .info text => if enabled then some ⟨.info, text⟩ else none
    | .error text => some ⟨.error, text⟩

/-! ## Handles over time -/

/-- What a program does with logger handles. Handles are numbered in the order in which the
program obtains them. -/
inductive LoggerStep where
  /-- Create a logger that is on or off. -/
  | create (on : Bool)
  /-- Obtain the shared logger. -/
  | obtainShared
  /-- Copy a handle. -/
  | copy (handle : Nat)
  /-- Turn a handle's switch on or off. -/
  | turn (handle : Nat) (on : Bool)
  deriving DecidableEq, Repr

/-- The switches of a program and the handles it holds. -/
structure LoggerTable where
  board : Switchboard
  handles : List Logger
  deriving DecidableEq, Repr

namespace LoggerTable

/-- At the start a program holds no handles. -/
def initial : LoggerTable := ⟨.initial, []⟩

/-- The state after a step. A step with a handle that does not exist does nothing. -/
def step (table : LoggerTable) : LoggerStep → LoggerTable
  | .create on =>
    let (board, logger) := table.board.create on
    ⟨board, table.handles ++ [logger]⟩
  | .obtainShared => { table with handles := table.handles ++ [Logger.shared] }
  | .copy handle =>
    match table.handles[handle]? with
    | some logger => { table with handles := table.handles ++ [logger] }
    | none => table
  | .turn handle on =>
    match table.handles[handle]? with
    | some logger => { table with board := table.board.turn logger on }
    | none => table

/-- The switch of every handle. -/
def enabled (table : LoggerTable) : List Bool :=
  table.handles.map table.board.isEnabled

end LoggerTable

end GpuDiscovery
