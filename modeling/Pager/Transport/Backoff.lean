import Pager.Transport.Delay

namespace Pager

/-- How delays grow from attempt to attempt: they stay the same, grow by equal steps or double. -/
inductive Growth
  | constant
  | linear
  | exponential
  deriving DecidableEq, Repr

def Growth.name : Growth → String
  | .constant => "constant"
  | .linear => "linear"
  | .exponential => "exponential"

structure Backoff where
  growth : Growth
  initial : Delay
  cap : Delay
  deriving DecidableEq, Repr

namespace Backoff

/-- The largest factor of doubling. -/
def largestFactor : Nat := Nat.pow 2 32 - 1

/-- What the initial delay is multiplied by after the attempt of the given number, from zero. -/
def factor (growth : Growth) (attempt : Nat) : Nat :=
  match growth with
  | .constant => 1
  | .linear => attempt + 1
  | .exponential => if attempt < 32 then Nat.pow 2 attempt else largestFactor

def delay (b : Backoff) (attempt : Nat) : Delay :=
  (b.initial.times (factor b.growth attempt)).shorter b.cap

end Backoff

end Pager
