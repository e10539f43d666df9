/-! # Capacity

How many exchanges a server may carry on at once, and how many slots it asks for when it waits
for all of them to end. -/

namespace TelemetryExport
namespace Server

def maxCapacity : Nat := 65536

/-- The capacity a server takes when it is asked for `n`. -/
def capacity (n : Nat) : Nat := max 1 (min n maxCapacity)

/-- The largest number of slots that can be asked for in one request. -/
def maxRequest : Nat := 4294967295

/-- The number of slots that a server of the given capacity asks for when it stops. -/
def drainCount (capacity : Nat) : Nat := if capacity ≤ maxRequest then capacity else maxRequest

theorem capacity_of_le {n : Nat} (h : 1 ≤ n) (h' : n ≤ maxCapacity) : capacity n = n := by
  simp only [capacity]
  omega

end Server
end TelemetryExport
