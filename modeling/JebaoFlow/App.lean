import JebaoFlow.Devices.Observer
import JebaoFlow.HomeAssistant.Deployment

/-!
# The daemon as a whole

`serve` runs the observer beside the MQTT adapter. What the observer reports is recorded by the
service the adapter publishes from, before the observer awaits anything else. The journal is a
file and outlives the process; the rest of the observer's memory does not.
-/

namespace JebaoFlow

/-- The observer, and everything from the service on. -/
structure Installation (site : Site) where
  observer : ObserverState := {}
  deployment : Deployment site

namespace Installation

variable {site : Site}

def start (service : ServiceState) : Installation site where
  deployment := Deployment.start service

/-- `ReadOnlyObserver(config, group_service.record_observer_event)`, call after call. -/
def record : List ObserverEvent → (ℕ → Clock) → Deployment site → Deployment site
  | [], _, d => d
  | event :: events, clks, d =>
    record events (fun n => clks (n + 1)) (d.step (.daemon (.observe event (clks 0))))

/-- What happens next; the readings of the clock are those of the calls a step makes. -/
inductive Event
  | observer (action : ObserverAction) (clks : ℕ → Clock)
  | deployment (event : Deployment.Event)

def step (h : Installation site) : Event → Installation site
  | .observer action clks =>
    let observer := observerStep site.cfg h.observer action
    { observer
      deployment := record (observer.events.drop h.observer.events.length) clks h.deployment }
  -- the service has no other observer
  | .deployment (.daemon (.observe _ _)) => h
  | .deployment (.restart clk) =>
    match GroupControlService.init site.cfg site.units clk with
    | .ok _ =>
      { observer := { file := h.observer.file }
        deployment := h.deployment.step (.restart clk) }
    | .error _ => h
  | .deployment event => { h with deployment := h.deployment.step event }

end Installation

end JebaoFlow
