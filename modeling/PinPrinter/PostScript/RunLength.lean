/-! # Run lengths

The run-length code of page images. A record is a length byte with what it is about: up to 127
announces one sample more than that, as they stand; above 128 it announces one sample that repeats,
257 less the byte times. The byte 128 ends the data. Three equal samples make a run worth its
record.
-/

namespace PinPrinter.RunLength

/-- The most samples that a record is about. -/
def maxRecord : Nat := 128

/-- The byte that ends the data. -/
def endOfData : UInt8 := 128

/-- Three equal samples come first. -/
def startsRun : List UInt8 → Bool
  | a :: b :: c :: _ => a == b && b == c
  | _ => false

/-- The number of samples at the front that equal `value`, up to `limit`. -/
def runCount (value : UInt8) : Nat → List UInt8 → Nat
  | limit + 1, sample :: rest => if sample = value then runCount value limit rest + 1 else 0
  | _, _ => 0

/-- The number of samples up to the next run, up to `limit`. -/
def plainCount : Nat → List UInt8 → Nat
  | limit + 1, samples@(_ :: rest) =>
    if startsRun samples then 0 else plainCount limit rest + 1
  | _, _ => 0

/-- Append the records of samples to what has been encoded. -/
def encodeOnto (out : Array UInt8) (samples : List UInt8) : Array UInt8 :=
  match samples with
  | [] => out
  | first :: rest =>
    if startsRun (first :: rest) then
      let count := runCount first (maxRecord - 1) rest
      encodeOnto ((out.push (UInt8.ofNat (257 - (count + 1)))).push first) (rest.drop count)
    else
      let count := plainCount (maxRecord - 1) rest
      encodeOnto ((out.push (UInt8.ofNat count)).push first ++ rest.take count) (rest.drop count)
termination_by samples.length
decreasing_by all_goals simp only [List.length_drop, List.length_cons]; omega

/-- The code of samples, with its end. -/
def encode (samples : List UInt8) : Array UInt8 :=
  (encodeOnto #[] samples).push endOfData

end PinPrinter.RunLength
