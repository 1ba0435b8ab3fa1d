import DesktopGateway.Proofs.Serving.SoundLease
import DesktopGateway.Serving.DisplayLease

/-!
# Modules that were loaded are unloaded

Whatever the commands of a preparation give, and however far it is when the stream ends: when the
service is over, each module that was loaded has been unloaded once, behind everything else that was
done, and nothing else has. The result is that of the relay.
-/

namespace DesktopGateway.Serving.DisplayStream.Lease

open DesktopGateway.Link
open DesktopGateway.Settings
open DesktopGateway.Sound
open DesktopGateway.Wire

variable {address : DisplayAddress} {lease next : Lease} {acts : List Act}
  {result : Except Serving.Failure Unit}

/-! ## What was done -/

def Act.loaded? : Act → Option String
  | .ordered (.load _) (.ok name) => some name
  | _ => none

def Act.relayed? : Act → Option (Course × LaneEvent)
  | .relayed course event => some (course, event)
  | _ => none

def Act.isUnloaded : Act → Bool
  | .unloaded _ => true
  | _ => false

def loaded (acts : List Act) : List String :=
  acts.filterMap Act.loaded?

def relayAfter (acts : List Act) : Relay :=
  (Relay.start []).run (acts.filterMap Act.relayed?)

def Quiet (acts : List Act) : Prop :=
  ∀ act ∈ acts, act.isUnloaded = false

def Forwarded (acts : List Act) (result : Except Serving.Failure Unit) : Prop :=
  ∃ outcome, (relayAfter acts).outcome = some outcome ∧ result = outcome.mapError .stream

theorem loaded_append (acts more : List Act) : loaded (acts ++ more) = loaded acts ++ loaded more :=
  List.filterMap_append

theorem relayAfter_append (acts more : List Act) :
    relayAfter (acts ++ more) = (relayAfter acts).run (more.filterMap Act.relayed?) := by
  rw [relayAfter, relayAfter, List.filterMap_append, Relay.run, Relay.run, Relay.run,
    List.foldl_append]

theorem Quiet.append {more : List Act} (quiet : Quiet acts) (later : Quiet more) :
    Quiet (acts ++ more) := fun act among =>
  (List.mem_append.mp among).elim (quiet act) (later act)

/-! ## What a step of a preparation does -/

theorem modules_carryOut (order : Order) (devices : Devices) (shell : Host.Shell) :
    (Devices.carryOut order devices shell).2.1.modules = devices.modules ++
      loaded [.ordered order (Devices.command devices.server order.arguments shell).1] := by
  cases commanded : Devices.command devices.server order.arguments shell with
  | mk answer after =>
      rw [Devices.carryOut, commanded]
      cases answer with
      | error failure => cases order <;> exact (List.append_nil _).symm
      | ok printed =>
          cases order with
          | load arguments => rfl
          | plain arguments => exact (List.append_nil _).symm

theorem modules_step (preparation : Preparation) :
    preparation.step.devices.modules =
      preparation.devices.modules ++ loaded (nextAct preparation) := by
  obtain ⟨orders, stage, devices, shell⟩ := preparation
  cases stage with
  | asking questions =>
      cases questions with
      | zero => exact (List.append_nil _).symm
      | succ questions =>
          simp only [Preparation.step]
          split <;> exact (List.append_nil _).symm
  | ordering left =>
      cases left with
      | nil => exact (List.append_nil _).symm
      | cons order later =>
          have modules := modules_carryOut order devices shell
          simp only [Preparation.step]
          split
          · rename_i carried
            rwa [carried] at modules
          · rename_i carried
            rwa [carried] at modules
  | ended reached => exact (List.append_nil _).symm

theorem quiet_nextAct (preparation : Preparation) : Quiet (nextAct preparation) := by
  unfold nextAct
  split
  · simp [Quiet, Act.isUnloaded]
  · simp [Quiet]

theorem relayAfter_nextAct (preparation : Preparation) (acts : List Act) :
    relayAfter (acts ++ nextAct preparation) = relayAfter acts := by
  rw [relayAfter_append]
  unfold nextAct
  split
  · rfl
  · rfl

/-- A server that was not reached has loaded nothing. -/
def Unreached (preparation : Preparation) : Prop :=
  match preparation.stage with
  | .asking _ | .ended false => preparation.devices.modules = []
  | .ordering _ | .ended true => True

theorem Unreached.step {preparation : Preparation} (unreached : Unreached preparation) :
    Unreached preparation.step := by
  obtain ⟨orders, stage, devices, shell⟩ := preparation
  cases stage with
  | asking questions =>
      cases questions with
      | zero => exact unreached
      | succ questions =>
          simp only [Preparation.step]
          split
          · trivial
          · exact unreached
  | ordering left =>
      cases left with
      | nil => trivial
      | cons order later =>
          simp only [Preparation.step]
          split <;> trivial
  | ended reached => exact unreached

/-- A preparation on the way: its modules are those that were loaded, and none is unloaded yet. -/
structure Prepared (setup : Option Preparation) (acts : List Act) : Prop where
  quiet : Quiet acts
  absent : setup = none → loaded acts = []
  modules : ∀ preparation, setup = some preparation →
    preparation.devices.modules = loaded acts
  unreached : ∀ preparation, setup = some preparation → Unreached preparation

/-- Acts that have nothing to do with modules. -/
theorem Prepared.append {setup : Option Preparation} {more : List Act}
    (prepared : Prepared setup acts) (quiet : Quiet more) (other : loaded more = []) :
    Prepared setup (acts ++ more) := by
  have same : loaded (acts ++ more) = loaded acts := by rw [loaded_append, other, List.append_nil]
  exact ⟨prepared.quiet.append quiet, fun none => same ▸ prepared.absent none,
    fun preparation here => same ▸ prepared.modules preparation here, prepared.unreached⟩

theorem Prepared.step {preparation : Preparation} (prepared : Prepared (some preparation) acts) :
    Prepared (some preparation.step) (acts ++ nextAct preparation) := by
  refine ⟨prepared.quiet.append (quiet_nextAct preparation), (by simp), ?_, ?_⟩
  · rintro _ ⟨⟩
    rw [modules_step, prepared.modules preparation rfl, loaded_append]
  · rintro _ ⟨⟩
    exact (prepared.unreached preparation rfl).step

/-! ## What a turn does -/

inductive Moves (address : DisplayAddress) (lease : Lease) : Lease → Prop where
  | connected (stage : lease.stage = .connecting) :
      Moves address lease (lease.advance .accepting [])
  | unreachable (stage : lease.stage = .connecting) (failure : Host.Failure) :
      Moves address lease (lease.advance (.refusing failure) [])
  | refused {failure : Host.Failure} (stage : lease.stage = .refusing failure)
      (result : Except Serving.Failure Unit) :
      Moves address lease
        (lease.advance (.settled result) [.wrote (refusal address failure) result])
  | accepted (stage : lease.stage = .accepting) :
      Moves address lease
        (lease.advance (.streaming (Relay.start [])) [.wrote Endpoint.acceptance (.ok ())])
  | unaccepted (stage : lease.stage = .accepting) (failure : Serving.Failure) :
      Moves address lease (lease.advance (.settled (.error failure))
        [.wrote Endpoint.acceptance (.error failure)])
  | relayed {relay : Relay} (stage : lease.stage = .streaming relay) (course : Course)
      (event : LaneEvent) :
      Moves address lease
        (lease.advance (afterEvent (relay.step course event)) [.relayed course event])
  | prepared {preparation : Preparation}
      (during : (∃ relay, lease.stage = .streaming relay) ∨
        ∃ result, lease.stage = .awaiting result)
      (here : lease.preparation = some preparation) :
      Moves address lease { lease with
        preparation := some preparation.step
        acts := lease.acts ++ nextAct preparation }
  | unprepared {result : Except Serving.Failure Unit} (stage : lease.stage = .awaiting result)
      (nothing : ∀ preparation, lease.preparation = some preparation →
        preparation.stage = .ended false) :
      Moves address lease (lease.advance (.settled result) [])
  | released {result : Except Serving.Failure Unit} {preparation : Preparation}
      (stage : lease.stage = .awaiting result) (here : lease.preparation = some preparation) :
      Moves address lease (lease.advance (.unloading preparation.devices.modules [] result) [])
  | unloaded {name : String} {names kept : List String} {result : Except Serving.Failure Unit}
      (stage : lease.stage = .unloading (name :: names) kept result)
      (left : List String) (preparation : Preparation) :
      Moves address lease
        ⟨.unloading names left result, some preparation, lease.acts ++ [.unloaded name]⟩
  | settled {kept : List String} {result : Except Serving.Failure Unit}
      (stage : lease.stage = .unloading [] kept result) (preparation : Preparation) :
      Moves address lease { lease with stage := .settled result, preparation := some preparation }

theorem moves_of_prepare
    (during : (∃ relay, lease.stage = .streaming relay) ∨ ∃ result, lease.stage = .awaiting result)
    (done : lease.prepare = some next) : Moves address lease next := by
  unfold prepare at done
  split at done
  · cases done
  · rename_i preparation here
    split at done
    · cases done
    · cases done
      exact .prepared during here

theorem moves_of_release (stage : lease.stage = .awaiting result)
    (done : lease.release result = some next) : Moves address lease next := by
  unfold release at done
  split at done
  · rename_i absent
    cases done
    refine .unprepared stage fun preparation here => ?_
    rw [absent] at here
    cases here
  · rename_i preparation here
    split at done
    · cases done
      exact .released stage here
    · rename_i unreached
      cases done
      refine .unprepared stage fun other same => ?_
      cases here.symm.trans same
      exact unreached
    · cases done

theorem moves_of_step {turn : Turn} (done : lease.step address turn = some next) :
    Moves address lease next := by
  obtain ⟨stage, setup, acts⟩ := lease
  cases stage with
  | connecting =>
      cases turn with
      | connected outcome =>
          cases outcome with
          | ok _ =>
              cases done
              exact .connected rfl
          | error failure =>
              cases done
              exact .unreachable rfl failure
      | written _ | relayed _ _ | prepared | proceed => cases done
  | refusing failure =>
      cases turn with
      | written result =>
          cases done
          exact .refused rfl result
      | connected _ | relayed _ _ | prepared | proceed => cases done
  | accepting =>
      cases turn with
      | written outcome =>
          cases outcome with
          | ok _ =>
              cases done
              exact .accepted rfl
          | error failure =>
              cases done
              exact .unaccepted rfl failure
      | connected _ | relayed _ _ | prepared | proceed => cases done
  | streaming relay =>
      cases turn with
      | relayed course event =>
          cases done
          exact .relayed rfl course event
      | prepared => exact moves_of_prepare (.inl ⟨relay, rfl⟩) done
      | connected _ | written _ | proceed => cases done
  | awaiting result =>
      cases turn with
      | prepared => exact moves_of_prepare (.inr ⟨result, rfl⟩) done
      | proceed => exact moves_of_release rfl done
      | connected _ | written _ | relayed _ _ => cases done
  | unloading names kept result =>
      cases turn with
      | proceed =>
          obtain ⟨preparation, here, same⟩ := Option.map_eq_some_iff.mp done
          cases names with
          | nil =>
              cases same
              exact .settled rfl _
          | cons name names =>
              cases same
              exact .unloaded rfl _ _
      | connected _ | written _ | relayed _ _ | prepared => cases done
  | settled result => cases turn <;> cases done

/-! ## How a lease stands -/

/-- What a service that is over has done, and its result: a client that was not accepted, or all
modules that were loaded have been unloaded behind everything else. -/
inductive Finished (address : DisplayAddress) :
    List Act → Except Serving.Failure Unit → Prop where
  | refused (failure : Host.Failure) (result : Except Serving.Failure Unit) :
      Finished address [.wrote (refusal address failure) result] result
  | unaccepted (failure : Serving.Failure) :
      Finished address [.wrote Endpoint.acceptance (.error failure)] (.error failure)
  | forwarded {front : List Act} {result : Except Serving.Failure Unit} (quiet : Quiet front)
      (forwarded : Forwarded front result) :
      Finished address (front ++ (loaded front).map .unloaded) result

def Stage.Fits (address : DisplayAddress) (setup : Option Preparation) (acts : List Act) :
    Stage → Prop
  | .connecting | .refusing _ | .accepting => Prepared setup acts ∧ acts = []
  | .streaming relay => Prepared setup acts ∧ relay = relayAfter acts ∧ relay.outcome = none
  | .awaiting result => Prepared setup acts ∧ Forwarded acts result
  | .unloading names _ result => ∃ front done, acts = front ++ done.map .unloaded ∧ Quiet front ∧
      loaded front = done ++ names ∧ Forwarded front result ∧ setup.isSome
  | .settled result => Finished address acts result

def Sound (address : DisplayAddress) (lease : Lease) : Prop :=
  lease.stage.Fits address lease.preparation lease.acts

theorem Sound.fits {stage : Stage} (sound : lease.Sound address) (here : lease.stage = stage) :
    stage.Fits address lease.preparation lease.acts :=
  here ▸ sound

theorem Sound.connects (sound : lease.Sound address) (stage : lease.stage = .connecting)
    (answer : Except Host.Failure Unit) :
    (lease.advance (match answer with
      | .ok () => .accepting
      | .error failure => .refusing failure) []).Sound address := by
  obtain ⟨prepared, nothing⟩ := sound.fits stage
  have still : Prepared lease.preparation (lease.acts ++ []) :=
    prepared.append (by simp [Quiet]) rfl
  cases answer <;> exact ⟨still, by simp [advance, nothing]⟩

theorem Sound.relayed {relay : Relay} (sound : lease.Sound address)
    (stage : lease.stage = .streaming relay) (course : Course) (event : LaneEvent) :
    (lease.advance (afterEvent (relay.step course event)) [.relayed course event]).Sound
      address := by
  obtain ⟨prepared, rfl, going⟩ := sound.fits stage
  have after : relayAfter (lease.acts ++ [.relayed course event]) =
      (relayAfter lease.acts).step course event := by
    rw [relayAfter_append]
    rfl
  have still : Prepared lease.preparation (lease.acts ++ [.relayed course event]) :=
    prepared.append (by simp [Quiet, Act.isUnloaded]) rfl
  rw [Sound, advance, afterEvent]
  cases halted : ((relayAfter lease.acts).step course event).outcome with
  | none => exact ⟨still, after.symm, halted⟩
  | some outcome => exact ⟨still, outcome, by rw [after, halted], rfl⟩

theorem Sound.prepared {preparation : Preparation} (sound : lease.Sound address)
    (during : (∃ relay, lease.stage = .streaming relay) ∨ ∃ result, lease.stage = .awaiting result)
    (here : lease.preparation = some preparation) :
    ({ lease with
      preparation := some preparation.step
      acts := lease.acts ++ nextAct preparation } : Lease).Sound address := by
  rcases during with ⟨relay, stage⟩ | ⟨result, stage⟩
  · obtain ⟨prepared, same, going⟩ := sound.fits stage
    rw [here] at prepared
    rw [Sound, stage]
    exact ⟨prepared.step, by rw [relayAfter_nextAct]; exact same, going⟩
  · obtain ⟨prepared, outcome, halted, same⟩ := sound.fits stage
    rw [here] at prepared
    rw [Sound, stage]
    exact ⟨prepared.step, outcome, by rw [relayAfter_nextAct]; exact halted, same⟩

/-- A preparation that never reached the server has nothing to give back. -/
theorem Prepared.loaded_of_unreached (prepared : Prepared lease.preparation lease.acts)
    (nothing : ∀ preparation, lease.preparation = some preparation →
      preparation.stage = .ended false) : loaded lease.acts = [] := by
  cases here : lease.preparation with
  | none => exact prepared.absent here
  | some preparation =>
      have unreached := prepared.unreached preparation here
      rw [Unreached, nothing preparation here] at unreached
      rw [← prepared.modules preparation here, unreached]

theorem Sound.unprepared (sound : lease.Sound address) (stage : lease.stage = .awaiting result)
    (nothing : ∀ preparation, lease.preparation = some preparation →
      preparation.stage = .ended false) :
    (lease.advance (.settled result) []).Sound address := by
  obtain ⟨prepared, forwarded⟩ := sound.fits stage
  have finished : Finished address _ _ := .forwarded prepared.quiet forwarded
  rwa [prepared.loaded_of_unreached nothing] at finished

theorem Sound.released {preparation : Preparation} (sound : lease.Sound address)
    (stage : lease.stage = .awaiting result) (here : lease.preparation = some preparation) :
    (lease.advance (.unloading preparation.devices.modules [] result) []).Sound address := by
  obtain ⟨prepared, forwarded⟩ := sound.fits stage
  exact ⟨lease.acts, [], rfl, prepared.quiet, (prepared.modules _ here).symm, forwarded,
    by rw [advance, here]; rfl⟩

theorem Sound.unloaded {name : String} {names kept : List String} (sound : lease.Sound address)
    (stage : lease.stage = .unloading (name :: names) kept result) (left : List String)
    (preparation : Preparation) :
    (⟨.unloading names left result, some preparation, lease.acts ++ [.unloaded name]⟩ :
      Lease).Sound address := by
  obtain ⟨front, done, acts, quiet, whole, forwarded, -⟩ := sound.fits stage
  refine ⟨front, done ++ [name], ?_, quiet, ?_, forwarded, rfl⟩
  · rw [acts, List.append_assoc, List.map_append]
    rfl
  · rw [whole, List.append_assoc]
    rfl

theorem Sound.settled {kept : List String} (sound : lease.Sound address)
    (stage : lease.stage = .unloading [] kept result) (preparation : Preparation) :
    ({ lease with stage := .settled result, preparation := some preparation } : Lease).Sound
      address := by
  obtain ⟨front, done, acts, quiet, names, forwarded, -⟩ := sound.fits stage
  rw [List.append_nil] at names
  have finished : Finished address _ _ := .forwarded quiet forwarded
  rwa [names, ← acts] at finished

theorem Sound.moves (sound : lease.Sound address) (moves : Moves address lease next) :
    next.Sound address := by
  cases moves with
  | connected stage => exact sound.connects stage (.ok ())
  | unreachable stage failure => exact sound.connects stage (.error failure)
  | refused stage result =>
      rw [Sound, advance, (sound.fits stage).2]
      exact .refused _ result
  | accepted stage =>
      obtain ⟨prepared, nothing⟩ := sound.fits stage
      refine ⟨prepared.append (by simp [Quiet, Act.isUnloaded]) rfl, ?_, rfl⟩
      rw [advance, nothing]
      rfl
  | unaccepted stage failure =>
      rw [Sound, advance, (sound.fits stage).2]
      exact .unaccepted failure
  | relayed stage course event => exact sound.relayed stage course event
  | prepared during here => exact sound.prepared during here
  | unprepared stage nothing => exact sound.unprepared stage nothing
  | released stage here => exact sound.released stage here
  | unloaded stage left preparation => exact sound.unloaded stage left preparation
  | settled stage preparation => exact sound.settled stage preparation

theorem Sound.follow {turns : List Turn} (sound : lease.Sound address)
    (followed : lease.follow address turns = some next) : next.Sound address := by
  induction turns generalizing lease with
  | nil =>
      cases followed
      exact sound
  | cons turn later ih =>
      obtain ⟨middle, done, rest⟩ := Option.bind_eq_some_iff.mp followed
      exact ih (sound.moves (moves_of_step done)) rest

theorem sound_start {setup : Option Preparation}
    (fresh : ∀ preparation, setup = some preparation → preparation.devices.modules = []) :
    (start setup).Sound address := by
  refine ⟨⟨by simp [Quiet, start], fun _ => rfl, fresh, fun preparation here => ?_⟩, rfl⟩
  have none := fresh preparation here
  unfold Unreached
  split
  · exact none
  · exact none
  · trivial
  · trivial

/-- A service that is not over waits for something. -/
theorem Sound.exists_turn (sound : lease.Sound address)
    (waits : ∀ result, lease.stage ≠ .settled result) :
    ∃ turn, (lease.step address turn).isSome := by
  obtain ⟨stage, setup, acts⟩ := lease
  cases stage with
  | connecting => exact ⟨.connected (.ok ()), rfl⟩
  | refusing failure => exact ⟨.written (.ok ()), rfl⟩
  | accepting => exact ⟨.written (.ok ()), rfl⟩
  | streaming relay => exact ⟨.relayed .toTarget .ended, rfl⟩
  | awaiting result =>
      cases setup with
      | none => exact ⟨.proceed, rfl⟩
      | some preparation =>
          obtain ⟨orders, stage, devices, shell⟩ := preparation
          cases stage with
          | asking questions => exact ⟨.prepared, rfl⟩
          | ordering left => exact ⟨.prepared, rfl⟩
          | ended reached => cases reached <;> exact ⟨.proceed, rfl⟩
  | unloading names kept result =>
      obtain ⟨_, _, _, _, _, _, there⟩ := sound
      obtain ⟨preparation, rfl⟩ := Option.isSome_iff_exists.mp there
      exact ⟨.proceed, rfl⟩
  | settled result => exact absurd rfl (waits result)

end DesktopGateway.Serving.DisplayStream.Lease
