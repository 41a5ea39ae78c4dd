import HomeMedia.Proofs.Home.Acts
/-!
# What happens to the front of a home server

The *front* of a home server is what its clients and its timer have to do with: the timer, the
registry of sessions, the schedule, and the traces by which tasks tell about containers. A deed that
is not for clients does little to it (`Deed.front_steps`): a pulse moves on or ends, the registry is
swept, the schedule is armed or disarmed, a task leaves a trace or tells the sessions. All turns,
and all that is made of turns, are sequences of such steps (`poll_steps`), and so are the commands
that are not about single sessions (`act_steps`).
-/

namespace HomeMedia
namespace Home

/-- What clients and the timer have to do with. -/
structure Front where
  /-- The timer. -/
  timer : Timer.Source Subscriber
  /-- The registry of sessions, while it exists. -/
  registry : Option Session.Registry
  /-- The schedule of the online service, while it exists. -/
  schedule : Option Refresh.Schedule
  /-- Whether the web interface can look sessions up. -/
  servesSessions : Bool
  /-- What tasks left behind. -/
  traces : List Trace

/-- The front of a home server. -/
def front (h : Home) : Front := ⟨h.timer, h.registry, h.schedule, h.servesSessions, h.traces⟩

namespace Front

/-- One step that a turn takes. -/
inductive Step : Front → Front → Prop where
  /-- A pulse has its turn. -/
  | beat (h : Home) (id : Timer.SubscriptionId) :
    Step h.front { h.front with timer := (h.timer.beat h.nanos h.isAlive id).2 }
  /-- Idle sessions are removed. -/
  | sweep (h : Home) (now : Int) : Step h.front (h.sweep now).2.front
  /-- The registry sees to its subscription. -/
  | checkTimer (h : Home) : Step h.front h.checkTimer.front
  /-- The schedule is armed. -/
  | arm (h : Home) : Step h.front h.arm.front
  /-- The schedule is disarmed. -/
  | disarm (h : Home) : Step h.front h.disarm.front
  /-- The schedule is started or stopped. -/
  | setStopped (h : Home) (stopped : Bool) :
    Step h.front { h.front with schedule := h.schedule.map (Refresh.Schedule.setStopped stopped) }
  /-- The schedule is dropped. -/
  | dropSchedule (h : Home) : Step h.front { h.front with schedule := none }
  /-- A task tells the sessions about containers. -/
  | announce (h : Home) (ids : List ObjectId) : Step h.front (h.announce ids).front
  /-- A task leaves another trace. -/
  | leave (h : Home) (trace : Trace) (quiet : trace.containers = []) :
    Step h.front (h.leave trace).front

/-- Any number of such steps. -/
abbrev Steps : Front → Front → Prop := Relation.ReflTransGen Step

end Front

/-- What happens behind the front does not change it. -/
theorem Backstage.front {h g : Home} (backstage : Backstage h g) : g.front = h.front := by
  obtain ⟨work, loop, openGates, log, rfl⟩ := backstage
  rfl

/-- Whether deeds with a label are for clients, or shut the timer down. -/
def Deed.Label.isForClients : Deed.Label → Bool
  | .client => true
  | .ask _ => true
  | .shutDown => true
  | _ => false

open Front (Steps)

/-- What is done aside is nothing but steps to the front, unless it is for the clients. -/
theorem Aside.front_steps {label : Deed.Label} {h g : Home} (aside : Aside label h g)
    (other : label.isForClients = false) : Steps h.front g.front := by
  cases aside with
  | leave h trace quiet => exact .single (.leave h trace quiet)
  | sweep h now => exact .single (.sweep h now)
  | checkTimer h => exact .single (.checkTimer h)
  | announce h ids => exact .single (.announce h ids)
  | beat h id => exact .single (.beat h id)
  | report h events quiet => exact .refl
  | store h library => exact .refl
  | consult h => exact .refl
  | rest h ms id => exact .refl
  | goOn h id => exact .refl
  | _ => cases other

/-- **A deed that is not for clients takes a few steps.** -/
theorem Deed.front_steps {label : Deed.Label} {h g : Home} (deed : Deed label h g)
    (other : label.isForClients = false) : Steps h.front g.front := by
  cases deed with
  | aside aside => exact aside.front_steps other
  | invalidate h id => exact (Backstage.invalidate id h).front ▸ .refl
  | dropWork h => exact (Backstage.letGo (fun h => { h with holdsWork := false }) h).front ▸ .refl
  | release h gate => exact (Backstage.release gate h).front ▸ .refl
  | look h looking => exact (Backstage.look h).front ▸ .refl
  | finish h outcome busy =>
    rcases Backstage.finish outcome h with quiet | armed
    · exact quiet.front ▸ .refl
    · exact armed.front ▸ .single (.arm h)
  | start h =>
    exact (Relation.ReflTransGen.single (.setStopped h false)).tail
      (.arm { h with schedule := h.schedule.map (Refresh.Schedule.setStopped false) })
  | stop h =>
    exact (Relation.ReflTransGen.single (.setStopped h true)).tail
      (.disarm { h with schedule := h.schedule.map (Refresh.Schedule.setStopped true) })
  | refresh h => exact .single (.disarm h)
  | tick h armed => exact .single (.disarm h)
  | dropSchedule h =>
    exact (Backstage.letGo (fun h => { h with schedule := none }) h).front ▸
      .single (.dropSchedule h)
  | _ => exact .refl

/-- Several deeds, none of which is for clients, take a few steps, too. -/
theorem Deeds.front_steps {permits : Deed.Label → Prop} {h g : Home} (deeds : Deeds permits h g)
    (other : ∀ label, permits label → label.isForClients = false) : Steps h.front g.front :=
  deeds.keep (P := fun k => Steps h.front k.front)
    (fun label _ _ ok deed steps => steps.trans (deed.front_steps (other label ok))) .refl

namespace Front

/-- **A turn is a few steps.** -/
theorem poll_steps (agent : Agent) (h : Home) : Steps h.front (poll agent h).front := by
  refine (poll_deeds agent h).front_steps fun label ok => ?_
  cases agent with
  | worker => rcases ok with rfl | rfl <;> rfl
  | pulse id => rcases ok with rfl | rfl | rfl <;> rfl
  | call index => exact (show label = .call index from ok) ▸ rfl

/-- What turns keep of the front, from some front on. -/
theorem kept_steps (f : Front) : Live.Kept fun h : Home => Steps f h.front where
  withLoop _ _ steps := steps
  poll agent h steps := steps.trans (poll_steps agent h)

/-- **Commands that are not about single sessions.** -/
theorem act_steps {command : Command} (other : command.isForClients = false) (h : Home) :
    Steps h.front (h.act command).2.front := by
  cases time : command.takesTime with
  | true =>
    cases command with
    | sleep ms => exact (kept_steps h.front).sleep ms .refl
    | jump ms => exact (kept_steps h.front).jump ms .refl
    | _ => cases time
  | false =>
    refine (act_deeds time h).front_steps fun label ok => ?_
    cases label with
    | client => exact Eq.trans (Eq.symm ok) other
    | ask asked =>
      rcases ok with ⟨id, rfl⟩ | ⟨⟨r, rfl⟩, -⟩ <;> cases other
    | shutDown =>
      cases show command = Command.shutDownTimer from ok
      cases other
    | _ => rfl

end Front
end Home
end HomeMedia
