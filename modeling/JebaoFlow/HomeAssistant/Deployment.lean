import JebaoFlow.HomeAssistant.Receive

/-!
# The daemon, the broker and the integration

The daemon publishes to a broker that keeps what is to be retained, and the integration
receives it. All of this goes on at the same time: the daemon takes its steps, is killed and
started again; the broker gives the daemon's connection up and announces its will; the
integration subscribes, loses its session, is reloaded, and receives the messages under way,
those of one topic in order. What is taken for granted of the broker stands with its model in
`Lib/Broker`; both sides talk to one broker, which is not replaced while they run.
-/

namespace JebaoFlow

open HomeAssistant

/--
What stays the same throughout: how the daemon was set up, how its payloads are written, and
an entry of the host for the same prefix.
-/
structure Site where
  cfg : AppConfig
  units : UnitSource
  validator : CommandValidator
  daemon : InstanceConfig
  stamps : Timestamps
  topics : MqttTopics
  topicPrefix : String
  topics_ok : MqttTopics.create topicPrefix = .ok topics
  entryId : PyStr
  entryPrefix : String
  same_topics : stripSlashes entryPrefix = topics.topicPrefix

namespace Site

variable (site : Site)

/-- The runtime of the entry, which keeps its prefix. -/
def Entry : Type := { runtime : LiveRuntime // runtime.topicPrefix = site.topics.topicPrefix }

/-- The entry when it has just been set up. -/
def fresh : site.Entry := ⟨LiveRuntime.create site.entryId site.entryPrefix, site.same_topics⟩

def receive (entry : site.Entry) (note : Broker.Note String WirePayload) : site.Entry :=
  ⟨entry.1.receiveNote note, (LiveRuntime.receive_topicPrefix _ _).trans entry.2⟩

/-- A publication as the broker passes it on. -/
def note (t : Transmission) : Broker.Note String WirePayload where
  topic := t.topic
  payload := t.payload.wire site.stamps site.daemon site.cfg
  retain := t.retain

end Site

structure Deployment (site : Site) where
  adapter : MqttAdapter
  /-- The will has been announced, and no connection was made since. -/
  severed : Bool := false
  home : Broker.Subscriber String WirePayload site.Entry

namespace Deployment

variable {site : Site}

/-- A daemon that has just started, nothing published, and a new entry. -/
def start (service : ServiceState) : Deployment site where
  adapter := { service }
  home := { state := site.fresh }

/-- All that was ever published. -/
def log (d : Deployment site) : List (Broker.Note String WirePayload) :=
  d.adapter.published.map site.note

inductive Event
  | daemon (event : MqttAdapter.Event)
  /-- The process is killed and started again; what it has published stays. -/
  | restart (clk : Clock)
  | will
  | subscribe
  | lose
  | deliver (topic : String)
  /-- The host unloads the entry and sets it up anew. -/
  | reload

/-- The adapter moves on, and the broker passes on what it published. -/
def advance (d : Deployment site) (adapter : MqttAdapter) (severed : Bool) : Deployment site where
  adapter
  severed
  home := d.home.notify ((adapter.published.drop d.adapter.published.length).map site.note)

/-- A new connection ends what the last one left behind. -/
def stillSevered (before after : Link) (severed : Bool) : Bool :=
  match before, after with
  | .disconnected, .greeting _ => false
  | _, _ => severed

def step (d : Deployment site) : Event → Deployment site
  | .daemon event =>
    let adapter := MqttAdapter.step site.topics site.cfg site.units site.validator d.adapter event
    -- nothing gets through a connection the broker has given up
    if d.severed ∧ adapter.published.length ≠ d.adapter.published.length then d
    else d.advance adapter (stillSevered d.adapter.link adapter.link d.severed)
  | .restart clk =>
    match GroupControlService.init site.cfg site.units clk with
    | .ok service => { d with adapter := { service, published := d.adapter.published } }
    | .error _ => d
  | .will =>
    d.advance { d.adapter with published := d.adapter.published ++ [offlineNote site.topics] } true
  | .subscribe => { d with home := d.home.subscribe d.log }
  | .lose => { d with home := d.home.lose }
  | .deliver topic => { d with home := d.home.deliver site.receive topic }
  | .reload => { d with home := { state := site.fresh } }

end Deployment

end JebaoFlow
