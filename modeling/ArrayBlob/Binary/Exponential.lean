import ArrayBlob.Binary.Double

/-!
# Exponential and logarithm

The logarithmic transform needs two functions on doubles and nothing else of them, so they are a
class. Everything that transforms values takes the instance as a parameter, and what is proved of it
holds for any two functions.

Programs that compute use the functions of the machine. The coarse functions stand in for them where
a run is evaluated by its definition.
-/

namespace ArrayBlob

/-- An exponential and a natural logarithm on doubles. -/
class Exponential where
  exp : Double → Double
  log : Double → Double

namespace Exponential

/-- Applies a machine function to a double. A result that is no number becomes the canonical one. -/
def throughMachine (function : Float → Float) (x : Double) : Double :=
  let result : Double := ⟨(function (Float.ofBits x.bits)).toBits⟩
  if result.isNaN then Double.nan else result

/-- The exponential and the logarithm of the machine. -/
@[reducible]
def machine : Exponential where
  exp := throughMachine Float.exp
  log := throughMachine Float.log

/-- The largest double whose exponential is finite. -/
def lastFinite : Double := ⟨0x40862E42FEFA39EF⟩

/-- An exponential and a logarithm that are right at zero, at one and at the largest double, and
coarse elsewhere. -/
@[reducible]
def coarse : Exponential where
  exp x :=
    if x.isNaN then Double.nan
    else if x.orderKey ≤ lastFinite.orderKey then Double.ofNat 1
    else Double.infinity false
  log x := if x = ⟨0x7FEFFFFFFFFFFFFF⟩ then lastFinite else Double.zero false

end Exponential
end ArrayBlob
