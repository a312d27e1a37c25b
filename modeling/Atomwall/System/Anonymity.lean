import Atomwall.Globe.StaticAssets
import Atomwall.System.Console

/-!
The public listener of the globe next to the rest of the process: of the visitors it shows where and when they came and
whether they were blocked, and of the admins nothing.
-/

namespace Atomwall.System

open Admin

section Public

variable (libs : Libraries) (makeAddress : MakeAddress) (text : AddressText) (tree : FileTree)

/-- Of the visits that could be located: when, from where, and whether they were blocked. -/
def arcs : Process → List Input → List GlobeArcEvent
  | _, [] => []
  | p, .admin call :: rest => arcs (p.handle libs makeAddress call).2 rest
  | p, .visit c x :: rest =>
    (c.geo.map fun geo => ⟨x.readings.logged, geo.latBits, geo.lonBits,
        (Listener.decision text p.server.app.config c x p.visitors).blocks⟩).toList ++
      arcs { p with visitors := (Listener.runHttpSession text p.server.app.config c x p.visitors).2 } rest

namespace Process

def globeLog (p : Process) : GlobeEventLog := RingLog.ofEvents p.historySize p.visitors.globeEvents

/-- What the public listener answers; the location of the server and the state of its database are given. -/
def globeServes (p : Process) (serverLocation : Option (UInt64 × UInt64)) (geoipReady : Bool)
    (request : Http.Request) : Globe.Response :=
  Globe.route (Globe.assets tree p.server.app.config.admin.staticDir
    (snapshotOf libs { globeEvents := p.globeLog, serverLocation, geoipReady })) request

/-- What a subscriber of the public stream is sent at a poll. -/
def globeStreams (p : Process) (since limit : Nat) : List Http.Json :=
  (p.globeLog.eventsSince since limit).map (globeEventToJson libs)

end Process

end Public

variable {libs : Libraries} {makeAddress : MakeAddress} {text : AddressText} {tree : FileTree} {p q next : Process}
  {call : AdminRequest} {inputs : List Input} {input : Input}

theorem handle_visitors : (p.handle libs makeAddress call).2.visitors.globeEvents = p.visitors.globeEvents ∧
    (p.handle libs makeAddress call).2.historySize = p.historySize := by
  unfold Process.handle
  cases p.configCall libs makeAddress call <;> exact ⟨rfl, rfl⟩

/-- No request moves the static directory. -/
theorem handle_admin : (p.handle libs makeAddress call).2.server.app.config.admin = p.server.app.config.admin := by
  cases reached : p.configCall libs makeAddress call with
  | none => exact congrArg (fun state => state.config.admin) (handle_kept reached)
  | some handler =>
    obtain ⟨user, token, session, -, known⟩ := configCall_letIn reached
    let own : ConfigRequest libs makeAddress := ⟨call.arrival.request, user, call.env, handler, known⟩
    have same := @serve_listeners libs makeAddress own ⟨p.server.app.config, p.visitors.ipBlocks⟩
    unfold Process.handle
    simp only [reached]
    exact same.admin

theorem run_globe (reached : Lts.run (Process.step libs makeAddress text) p inputs = some q) :
    q.visitors.globeEvents = p.visitors.globeEvents ++ arcs libs makeAddress text p inputs ∧
      q.historySize = p.historySize ∧ q.server.app.config.admin = p.server.app.config.admin := by
  induction inputs generalizing p with
  | nil =>
    obtain rfl := Option.some.inj reached
    exact ⟨(List.append_nil _).symm, rfl, rfl⟩
  | cons input rest ih =>
    obtain ⟨next, taken, tail⟩ := Lts.run_cons_some.mp reached
    obtain ⟨events, size, admin⟩ := ih tail
    cases input with
    | admin call =>
      obtain rfl := Option.some.inj taken
      obtain ⟨kept, fixed⟩ := @handle_visitors libs makeAddress p call
      rw [events, size, admin, kept, fixed, handle_admin, arcs]
      exact ⟨rfl, rfl, rfl⟩
    | visit c x =>
      obtain rfl := Option.some.inj taken
      have added : (Listener.runHttpSession text p.server.app.config c x p.visitors).2.globeEvents = _ :=
        Listener.request_globe
      refine ⟨?_, size, admin⟩
      rw [events, arcs, ← List.append_assoc]
      exact congrArg (· ++ _) added

/-- The globe does not tell visitors apart: two runs whose located visits came at the same times and from the same
places, with the same verdicts, are one to everybody who asks its listener, whoever the visitors were, whatever they
asked for, whoever else came, and whatever the admins did. -/
theorem globe_is_anonymous (libs : Libraries) (makeAddress : MakeAddress) (text : AddressText) (tree : FileTree)
    (p q r : Process) (inputs others : List Input)
    (reached : Lts.run (Process.step libs makeAddress text) p inputs = some q)
    (reached' : Lts.run (Process.step libs makeAddress text) p others = some r)
    (same : arcs libs makeAddress text p inputs = arcs libs makeAddress text p others) :
    q.globeServes libs tree = r.globeServes libs tree ∧ q.globeStreams libs = r.globeStreams libs := by
  obtain ⟨events, size, admin⟩ := run_globe reached
  obtain ⟨events', size', admin'⟩ := run_globe reached'
  have log : q.globeLog = r.globeLog := by
    unfold Process.globeLog
    rw [events, events', size, size', same]
  constructor
  · funext serverLocation geoipReady request
    unfold Process.globeServes
    rw [log, admin, admin']
  · funext since limit
    unfold Process.globeStreams
    rw [log]

/-- Two neighbours. -/
def neighbour : Listener.Connection :=
  { clientIp := IpBlockTracker.sampleRange.address, geo := some ⟨0, 0, "somewhere"⟩ }

def otherNeighbour : Listener.Connection := { visitor with geo := some ⟨0, 0, "somewhere"⟩ }

def neighbourSeen (c : Listener.Connection) (target : String) : Process :=
  { startedProcess with
    visitors := (Listener.runHttpSession (fun _ => "192.0.2.7") startedProcess.server.app.config c (visitOf target)
      unvisited).2 }

theorem neighbours_pass :
    (Listener.decision (fun _ => "192.0.2.7") startedProcess.server.app.config neighbour (visitOf "/")
      startedProcess.visitors).blocks = false ∧
    (Listener.decision (fun _ => "192.0.2.7") startedProcess.server.app.config otherNeighbour (visitOf "/health")
      startedProcess.visitors).blocks = false := by
  decide +kernel

theorem neighbours_alike :
    (neighbourSeen neighbour "/").globeServes sampleLibraries Globe.sampleTree =
        (neighbourSeen otherNeighbour "/health").globeServes sampleLibraries Globe.sampleTree ∧
      (neighbourSeen neighbour "/").globeStreams sampleLibraries =
        (neighbourSeen otherNeighbour "/health").globeStreams sampleLibraries :=
  globe_is_anonymous sampleLibraries IpBlockTracker.sampleMakeAddress (fun _ => "192.0.2.7") Globe.sampleTree startedProcess
    (neighbourSeen neighbour "/") (neighbourSeen otherNeighbour "/health") [.visit neighbour (visitOf "/")]
    [.visit otherNeighbour (visitOf "/health")] rfl rfl (by
      simp only [arcs, neighbours_pass.1, neighbours_pass.2]
      rfl)

end Atomwall.System
