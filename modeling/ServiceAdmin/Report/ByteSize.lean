import ServiceAdmin.Number.Binary64

/-!
# Byte sizes

A size is shown in the greatest binary unit that leaves at least one whole unit, with two decimal
places unless the quotient is whole.  The size is rounded to a binary64 number before.
-/

namespace ServiceAdmin.Report

open Number (Magnitude Binary64 max64)

def units : List String := ["B", "KiB", "MiB", "GiB", "TiB", "PiB", "EiB"]

/-- The quotient by powers of 1024 that is less than 1024, with the unit it counts. -/
def scaleToUnit (size : Magnitude) : List String → Magnitude × String
  | [] => (size, "")
  | [unit] => (size, unit)
  | unit :: greater =>
    if size.lt (Magnitude.ofNat 1024) then (size, unit)
    else scaleToUnit (size.div (Magnitude.ofNat 1024)) greater

/-- Whether the fraction of a magnitude is at most `2 ^ -52`. -/
def isNearlyWhole (size : Magnitude) : Bool :=
  match size.ratio? with
  | some (n, d) => (n % d) * Nat.pow 2 52 ≤ d
  | none => true

/-- A number of bytes. -/
def byteSize (bytes : Nat) : String :=
  let (size, unit) := scaleToUnit (Magnitude.ofNat bytes) units
  let shown :=
    if isNearlyWhole size then
      match size.ratio? with
      | some (n, d) => toString (n / d)
      | none => "inf"
    else Binary64.fixed 2 ⟨false, size⟩
  shown ++ " " ++ unit

/-- A number of megabytes, at most the greatest number of bytes in 64 bits. -/
def megabyteSize (megabytes : Nat) : String := byteSize (min (megabytes * Nat.pow 2 20) max64)

end ServiceAdmin.Report
