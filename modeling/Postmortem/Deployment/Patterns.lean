import Postmortem.Frame

/-!
# Marks of a deployment

Names that tell how a process was compiled and what it does by reflection. In each table the more
specific names stand in front.
-/

namespace Postmortem

/-- Parts of the names of on-demand compilers. -/
def compilerModules : List String := ["clrjit", "mscorjit"]

/-- Symbols that only ahead-of-time compiled programs have. -/
def aotSymbols : List String :=
  ["__managed__Main", "__managed__Startup", "S_P_CoreLib_", "RhpNewFast", "RhpNewArray",
   "RhpGcAlloc", "RhpThrowEx", "RhpReversePInvoke", "RhpPInvoke", "RhThrowEx", "Rhp"]

/-- Modules that are linked into ahead-of-time compiled programs. -/
def aotModules : List String :=
  ["Runtime.WorkstationGC", "Runtime.ServerGC", "libbootstrapperdll", "libbootstrapper"]

/-- How likely a use of reflection breaks under trimming. -/
inductive RiskLevel where
  | low
  | medium
  | high
deriving DecidableEq, Repr, Inhabited

/-- The name of a level in texts. -/
def RiskLevel.label : RiskLevel → String
  | low => "Low"
  | medium => "Medium"
  | high => "High"

/-- A part of the name of a reflection function, with the risk of its use. -/
structure ReflectionPattern where
  fragment : String
  risk : RiskLevel
deriving DecidableEq, Repr

/-- The reflection functions. -/
def reflectionPatterns : List ReflectionPattern :=
  [⟨"System.Reflection.Emit", .high⟩,
   ⟨"DynamicMethod", .high⟩,
   ⟨"ILGenerator", .high⟩,
   ⟨"Expression.Compile", .high⟩,
   ⟨"MakeGenericType", .high⟩,
   ⟨"MakeGenericMethod", .high⟩,
   ⟨"Assembly.Load", .high⟩,
   ⟨"Activator.CreateInstance", .high⟩,
   ⟨"Type.GetType", .high⟩,
   ⟨"RuntimeMethodInfo.Invoke", .medium⟩,
   ⟨"MethodBase.Invoke", .medium⟩,
   ⟨"PropertyInfo.GetValue", .medium⟩,
   ⟨"GetMethod", .medium⟩,
   ⟨"GetProperty", .medium⟩,
   ⟨"GetField", .medium⟩,
   ⟨"JsonSerializer", .medium⟩,
   ⟨"GetCustomAttribute", .low⟩,
   ⟨"Enum.GetValues", .low⟩,
   ⟨"System.Reflection", .low⟩]

end Postmortem
