/-!
# Modules of a tile

A performance counter belongs to one of four hardware modules. The module is named by a string,
which is matched exactly; a name that no module has means the core.

## Main definitions

* `ModuleKind`, `ModuleKind.ofName` — the modules, and the module a name means
* `ModuleKind.label` — the label of a module
* `ModuleKind.counterOffset` — where its first counter register lies inside the tile
-/

namespace CounterTrace

/-- The hardware modules that own performance counters. -/
inductive ModuleKind where
  | core
  | memory
  | memTile
  | interfaceTile
  deriving DecidableEq

namespace ModuleKind

/-- The module that a name means. -/
def ofName (name : String) : ModuleKind :=
  if name == "aie_memory" then .memory
  else if name == "memory_tile" then .memTile
  else if name == "interface_tile" then .interfaceTile
  else .core

/-- The label of a module. -/
def label : ModuleKind → String
  | .core => "CORE"
  | .memory => "MEMORY"
  | .memTile => "MEM_TILE"
  | .interfaceTile => "INTERFACE_TILE"

/-- The offset of the first counter register of a module from the base of its tile. -/
def counterOffset : ModuleKind → Nat
  | .core => 0x31520
  | .memory => 0x11020
  | .memTile => 0x91020
  | .interfaceTile => 0x31020

example : ofName "aie" = .core ∧ ofName "AIE_MEMORY" = .core := by decide

end ModuleKind

end CounterTrace
