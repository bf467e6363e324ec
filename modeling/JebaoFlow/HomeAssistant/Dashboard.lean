import JebaoFlow.HomeAssistant.Deployment
import JebaoFlow.HomeAssistant.Entities

/-!
# A deployment with its dashboard

The entry of a deployment together with its platforms, which are set up one by one at any
time, and again when the entry is reloaded.
-/

namespace JebaoFlow

open HomeAssistant

structure Dashboard (site : Site) where
  deployment : Deployment site
  loops : Loop → LoopState := fun _ => {}

namespace Dashboard

variable {site : Site}

inductive Event
  /-- Whatever happens to the deployment; the listeners hear of a message in the given order. -/
  | deployment (event : Deployment.Event) (order : List Loop)
  | setUp (platform : Platform)

def entry (d : Dashboard site) : Integration where
  runtime := d.deployment.home.state.1
  loops := d.loops

/-- The next message of a topic. -/
def arriving (d : Dashboard site) (topic : String) : Option ReceiveMessage :=
  (d.deployment.home.session.bind (Broker.take topic)).map
    (fun taken => { topic := taken.1.topic, payload := taken.1.payload })

/-- The loops after an event of the deployment. -/
def loopsAfter (conv : Conversions) (d : Dashboard site) (order : List Loop) :
    Deployment.Event → Loop → LoopState
  | .deliver topic =>
    match d.arriving topic with
    | some message => (d.entry.receive conv order message).loops
    | none => d.loops
  | .reload => fun _ => {}
  | _ => d.loops

def step (conv : Conversions) (d : Dashboard site) : Event → Dashboard site
  | .deployment event order =>
    { deployment := d.deployment.step event, loops := d.loopsAfter conv order event }
  | .setUp platform => { d with loops := (d.entry.setUp conv platform).loops }

end Dashboard

end JebaoFlow
