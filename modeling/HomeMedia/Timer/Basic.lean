import HomeMedia.Duration
/-!
# Subscriptions of a timer

A timer sends ticks to its subscribers. A subscription has a number, counted from one, and asks for
an interval in nanoseconds. It does not keep its subscriber alive.
-/

namespace HomeMedia
namespace Timer

/-- The number of a subscription. -/
abbrev SubscriptionId := Nat

/-- The name of a subscription in logs. -/
def SubscriptionId.name (id : SubscriptionId) : String := "sub-" ++ toString id

/-- The shortest interval of a subscription that keeps time, in nanoseconds. -/
def minInterval : Nat := Duration.milli

end Timer
end HomeMedia
