import PriceOracle.Text.Utf8

/-!
# PriceOracle.Store.Path

The way to a file, as a text with slashes tells it: name by name down into folders, and up again
where two points stand. A point alone is no step. `fits` says that a way is not too long to be
gone, and `isLegal` that a folder can hold a name.
-/

namespace PriceOracle
namespace Store

inductive Step where
  | down (name : String)
  /-- Back to the folder around. -/
  | up
  deriving Repr, DecidableEq

def around : String := ".."

/-- The part between slashes that tells a step. -/
def Step.text : Step → String
  | .down name => name
  | .up => around

structure Path where
  steps : List Step
  /-- Only a folder can be meant: a slash or a point stands at the end. -/
  endsInFolder : Bool
  deriving Repr, DecidableEq

namespace Path

/-- The step that a part between slashes tells, if it tells one. -/
def step? (part : String) : Option Step :=
  if part = "" ∨ part = "." then none
  else if part = around then some .up
  else some (.down part)

def ofString (s : String) : Path :=
  let parts := s.splitOn "/"
  ⟨parts.filterMap step?, (parts.getLast?.bind step?).isNone⟩

instance : Coe String Path := ⟨ofString⟩

/-- The ways to the folders above the end, the shortest first. -/
def above (p : Path) : List (List Step) :=
  (List.range (p.steps.length - 1)).map fun n => p.steps.take (n + 1)

/-- How many bytes a name may have. -/
def longestName : Nat := 255

/-- How many bytes a way may have. -/
def longest : Nat := 4095

def isLegal (name : String) : Bool := name.utf8ByteSize ≤ longestName && !name.contains '\x00'

/-- Is the way short enough, with a slash for each step? -/
def fits (steps : List Step) : Bool :=
  steps.foldl (fun size step => size + step.text.utf8ByteSize + 1) 0 ≤ longest

end Path
end Store
end PriceOracle
