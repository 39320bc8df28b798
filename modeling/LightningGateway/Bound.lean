/-!
# Bounds of integers

Integers of a given width are below a bound that is a power of two. Signed ones go from
minus their bound up to it, the bound itself not included.
-/

namespace LightningGateway.Bound

/-- The bound of integers of 16 bits. -/
abbrev word16 : Nat := 65536

/-- The bound of integers of 32 bits. -/
abbrev word32 : Nat := 4294967296

/-- The bound of integers of 64 bits. -/
abbrev word64 : Nat := 18446744073709551616

/-- The bound of integers of 128 bits. -/
abbrev word128 : Nat := 340282366920938463463374607431768211456

/-- The bound of signed integers of 32 bits. -/
abbrev signed32 : Nat := 2147483648

/-- The bound of signed integers of 64 bits. -/
abbrev signed64 : Nat := 9223372036854775808

/-- The bound of signed integers of 128 bits. -/
abbrev signed128 : Nat := 170141183460469231731687303715884105728

end LightningGateway.Bound
