import DesktopGateway.Sound.Devices
import Mathlib.Data.List.Induction
import Mathlib.Data.List.Nodup

/-!
# No module is forgotten

A history keeps every command that the sound server gets and what it answers. However set-ups and
tear-downs follow on each other and whichever commands fail, the modules that are remembered are the
loaded ones, in their order, without the unloaded ones.
-/

namespace DesktopGateway.Sound

open DesktopGateway.Host

/-- A command to the sound server with its answer. -/
structure Deed where
  arguments : List String
  answer : Except Failure String

namespace Deed

def Succeeded (deed : Deed) : Prop :=
  ∃ printed, deed.answer = .ok printed

def loaded? (deed : Deed) : Option String :=
  if deed.arguments.head? = some "load-module" then deed.answer.toOption else none

def tried? (deed : Deed) : Option String :=
  if deed.arguments.head? = some "unload-module" then deed.arguments[1]? else none

def unloaded? (deed : Deed) : Option String :=
  match deed.answer with
  | .ok _ => deed.tried?
  | .error _ => none

end Deed

def loaded (deeds : List Deed) : List String :=
  deeds.filterMap Deed.loaded?

def unloaded (deeds : List Deed) : List String :=
  deeds.filterMap Deed.unloaded?

/-- What a shell answers to commands that are given one after the other. -/
def answers (server : String) : List (List String) → Shell → List Deed × Shell
  | [], shell => ([], shell)
  | arguments :: later, shell =>
      let answered := Devices.command server arguments shell
      let rest := answers server later answered.2
      (⟨arguments, answered.1⟩ :: rest.1, rest.2)

namespace Devices

def carryOutDeeds : List Order → Devices → Shell → List Deed
  | [], _, _ => []
  | order :: orders, devices, shell =>
      let deed : Deed := ⟨order.arguments, (command devices.server order.arguments shell).1⟩
      match carryOut order devices shell with
      | (.ok (), devices, shell) => deed :: carryOutDeeds orders devices shell
      | (.error _, _, _) => [deed]

def setUpDeeds (preferences : Preferences) (fifo : String) (devices : Devices) (shell : Shell) :
    List Deed :=
  carryOutDeeds (orders preferences fifo) devices shell

def unloadDeeds (server : String) (names : List String) (shell : Shell) : List Deed :=
  (answers server (names.map fun name => ["unload-module", name]) shell).1

def tearDownDeeds (devices : Devices) (shell : Shell) : List Deed :=
  unloadDeeds devices.server devices.modules shell

end Devices

inductive Request where
  | setUp (preferences : Preferences) (fifo : String)
  | tearDown

/-- The devices and the shell with all commands up to now. -/
structure History where
  devices : Devices
  shell : Shell
  deeds : List Deed

namespace History

def new (server : String) (shell : Shell) : History :=
  ⟨Devices.new server, shell, []⟩

def follow (history : History) : Request → History
  | .setUp preferences fifo =>
      let done := history.devices.setUp preferences fifo history.shell
      ⟨done.2.1, done.2.2,
        history.deeds ++ history.devices.setUpDeeds preferences fifo history.shell⟩
  | .tearDown =>
      let done := history.devices.tearDown history.shell
      ⟨done.1, done.2, history.deeds ++ history.devices.tearDownDeeds history.shell⟩

def of (server : String) (shell : Shell) (requests : List Request) : History :=
  requests.foldl follow (new server shell)

end History

/-! ## What deeds leave loaded -/

variable {deeds more : List Deed} {name server : String}

theorem loaded_append (deeds more : List Deed) :
    loaded (deeds ++ more) = loaded deeds ++ loaded more :=
  List.filterMap_append

theorem unloaded_append (deeds more : List Deed) :
    unloaded (deeds ++ more) = unloaded deeds ++ unloaded more :=
  List.filterMap_append

theorem loaded_cons (deed : Deed) (deeds : List Deed) :
    loaded (deed :: deeds) = loaded [deed] ++ loaded deeds :=
  loaded_append [deed] deeds

theorem Deed.tried?_of_unloaded? {deed : Deed} (gone : deed.unloaded? = some name) :
    deed.tried? = some name := by
  unfold unloaded? at gone
  split at gone
  · exact gone
  · cases gone

theorem unloaded_eq_nil (untried : ∀ deed ∈ deeds, deed.tried? = none) : unloaded deeds = [] := by
  rw [unloaded, List.filterMap_eq_nil_iff]
  intro deed among
  cases found : deed.unloaded? with
  | none => rfl
  | some name => rw [← Deed.tried?_of_unloaded? found, untried deed among]

theorem unloaded_subset_tried (deeds : List Deed) :
    unloaded deeds ⊆ deeds.filterMap Deed.tried? := by
  intro name gone
  obtain ⟨deed, among, found⟩ := List.mem_filterMap.mp gone
  exact List.mem_filterMap.mpr ⟨deed, among, Deed.tried?_of_unloaded? found⟩

/-- Deeds that unload nothing but what is loaded and was not unloaded before. -/
def Orderly (deeds : List Deed) : Prop :=
  ∀ front deed back name, deeds = front ++ deed :: back → deed.tried? = some name →
    name ∈ loaded front ∧ name ∉ unloaded front

def remaining (deeds : List Deed) : List String :=
  (loaded deeds).filter (· ∉ unloaded deeds)

theorem mem_remaining : name ∈ remaining deeds ↔ name ∈ loaded deeds ∧ name ∉ unloaded deeds := by
  rw [remaining, List.mem_filter, decide_eq_true_eq]

theorem nodup_remaining (fresh : (loaded deeds).Nodup) : (remaining deeds).Nodup :=
  fresh.filter _

theorem Orderly.unloaded_subset (orderly : Orderly deeds) : unloaded deeds ⊆ loaded deeds := by
  intro name gone
  obtain ⟨deed, among, found⟩ := List.mem_filterMap.mp gone
  obtain ⟨front, back, rfl⟩ := List.append_of_mem among
  have before := (orderly front deed back name rfl (Deed.tried?_of_unloaded? found)).1
  rw [loaded_append]
  exact List.mem_append_left _ before

/-- What is loaded behind orderly deeds remains behind what remained. -/
theorem Orderly.remaining_append (orderly : Orderly deeds)
    (fresh : (loaded (deeds ++ more)).Nodup) (quiet : unloaded more = []) :
    remaining (deeds ++ more) = remaining deeds ++ loaded more := by
  rw [loaded_append] at fresh
  have new : ∀ name ∈ loaded more, decide (name ∉ unloaded deeds) = true := by
    intro name came
    rw [decide_eq_true_eq]
    exact fun gone => List.disjoint_of_nodup_append fresh (orderly.unloaded_subset gone) came
  rw [remaining, loaded_append, unloaded_append, quiet, List.append_nil, List.filter_append,
    List.filter_eq_self.mpr new, remaining]

/-- Of what remained that remains which was not unloaded. -/
theorem remaining_append_of_loaded (deeds : List Deed) (quiet : loaded more = []) :
    remaining (deeds ++ more) = (remaining deeds).filter (· ∉ unloaded more) := by
  rw [remaining, loaded_append, unloaded_append, quiet, List.append_nil, remaining,
    List.filter_filter]
  refine List.filter_congr fun name _ => ?_
  rw [← Bool.decide_and, decide_eq_decide, List.mem_append, not_or, and_comm]

/-- Deeds that try to unload what remains, each once, follow orderly. -/
theorem Orderly.append (orderly : Orderly deeds)
    (within : ∀ front deed back name, more = front ++ deed :: back → deed.tried? = some name →
      name ∈ remaining deeds ∧ name ∉ unloaded front) : Orderly (deeds ++ more) := by
  intro front deed back name parted tried
  obtain ⟨between, whole, rest⟩ | ⟨between, whole, rest⟩ := List.append_eq_append_iff.mp parted
  · obtain ⟨there, still⟩ := within between deed back name rest tried
    obtain ⟨came, left⟩ := mem_remaining.mp there
    rw [whole, loaded_append, unloaded_append]
    refine ⟨List.mem_append_left _ came, fun gone => ?_⟩
    exact (List.mem_append.mp gone).elim left still
  · cases between with
    | nil =>
        obtain ⟨there, -⟩ := within [] deed back name rest.symm tried
        rw [List.append_nil] at whole
        exact whole ▸ mem_remaining.mp there
    | cons first between =>
        obtain ⟨rfl, rfl⟩ := List.cons.inj rest
        exact orderly front deed between name whole tried

/-! ## Commands one after the other -/

theorem answers_append (server : String) (first later : List (List String)) (shell : Shell) :
    answers server (first ++ later) shell =
      ((answers server first shell).1 ++ (answers server later (answers server first shell).2).1,
        (answers server later (answers server first shell).2).2) := by
  induction first generalizing shell with
  | nil => rfl
  | cons arguments first ih =>
      simp only [List.cons_append, answers]
      rw [ih]

theorem arguments_answers (server : String) (commands : List (List String)) (shell : Shell) :
    (answers server commands shell).1.map Deed.arguments = commands := by
  induction commands generalizing shell with
  | nil => rfl
  | cons arguments later ih =>
      simp only [answers, List.map_cons]
      rw [ih]

/-! ## Orders -/

/-- Modules are loaded by the orders that load, and no order unloads one. -/
def Order.Proper : Order → Prop
  | .load arguments => arguments.head? = some "load-module"
  | .plain arguments =>
      arguments.head? ≠ some "load-module" ∧ arguments.head? ≠ some "unload-module"

namespace Devices

variable {order : Order} {left : List Order} {devices : Devices} {shell after : Shell}

theorem proper_of_mem_orders {preferences : Preferences} {fifo : String}
    (listed : order ∈ orders preferences fifo) : order.Proper := by
  simp only [orders, List.mem_cons, List.not_mem_nil, or_false] at listed
  obtain rfl | rfl | rfl := listed
  · rfl
  · rfl
  · constructor
    · exact fun same => absurd (Option.some.inj same) (by decide)
    · exact fun same => absurd (Option.some.inj same) (by decide)

theorem tried?_of_proper (proper : order.Proper) (answer : Except Failure String) :
    Deed.tried? ⟨order.arguments, answer⟩ = none := by
  cases order with
  | load arguments =>
      have head : arguments.head? = some "load-module" := proper
      simp [Deed.tried?, Order.arguments, head]
  | plain arguments => simp [Deed.tried?, Order.arguments, proper.2]

theorem carryOut_of_error {failure : Failure}
    (commanded : command devices.server order.arguments shell = (.error failure, after)) :
    carryOut order devices shell = (.error failure, devices, after) := by
  rw [carryOut, commanded]

/-- An order that succeeds leaves what it has loaded behind the modules that were there. -/
theorem carryOut_of_ok (proper : order.Proper) {printed : String}
    (commanded : command devices.server order.arguments shell = (.ok printed, after)) :
    carryOut order devices shell =
      (.ok (), { devices with
        modules := devices.modules ++ loaded [⟨order.arguments, .ok printed⟩] }, after) := by
  cases order with
  | load arguments =>
      have head : arguments.head? = some "load-module" := proper
      have here : loaded [⟨(Order.load arguments).arguments, .ok printed⟩] = [printed] := by
        simp [loaded, Deed.loaded?, Order.arguments, head, Except.toOption]
      rw [carryOut, commanded, here]
  | plain arguments =>
      have here : loaded [⟨(Order.plain arguments).arguments, .ok printed⟩] = [] := by
        simp [loaded, Deed.loaded?, Order.arguments, proper.1]
      rw [carryOut, commanded, here, List.append_nil]

/-- How orders end: all of them have succeeded, or all before the one that failed. -/
def Ended (orders : List Order) (deeds : List Deed) : Except Failure Unit → Prop
  | .ok () => deeds.map Deed.arguments = orders.map Order.arguments ∧
      ∀ deed ∈ deeds, deed.Succeeded
  | .error failure => ∃ done last later, deeds = done ++ [⟨last, .error failure⟩] ∧
      (∀ deed ∈ done, deed.Succeeded) ∧
      orders.map Order.arguments = done.map Deed.arguments ++ last :: later

theorem Ended.cons {result : Except Failure Unit} {printed : String}
    (ended : Ended left deeds result) :
    Ended (order :: left) (⟨order.arguments, .ok printed⟩ :: deeds) result := by
  cases result with
  | ok _ =>
      obtain ⟨same, all⟩ := ended
      constructor
      · rw [List.map_cons, List.map_cons, same]
      · intro deed among
        obtain rfl | among := List.mem_cons.mp among
        · exact ⟨printed, rfl⟩
        · exact all deed among
  | error failure =>
      obtain ⟨done, last, later, rfl, before, same⟩ := ended
      refine ⟨⟨order.arguments, .ok printed⟩ :: done, last, later, rfl, ?_, ?_⟩
      · intro deed among
        obtain rfl | among := List.mem_cons.mp among
        · exact ⟨printed, rfl⟩
        · exact before deed among
      · rw [List.map_cons, same, List.map_cons, List.cons_append]

/-- What carrying out orders does, by the deeds that it does. -/
structure CarriedOut (orders : List Order) (devices : Devices) (shell : Shell)
    (deeds : List Deed) (done : Except Failure Unit × Devices × Shell) : Prop where
  ended : Ended orders deeds done.1
  modules : done.2.1 = { devices with modules := devices.modules ++ loaded deeds }
  told : answers devices.server (deeds.map Deed.arguments) shell = (deeds, done.2.2)
  untried : ∀ deed ∈ deeds, deed.tried? = none

theorem CarriedOut.nil (devices : Devices) (shell : Shell) :
    CarriedOut [] devices shell [] (.ok (), devices, shell) where
  ended := ⟨rfl, by simp⟩
  modules := by simp [loaded]
  told := rfl
  untried := by simp

theorem CarriedOut.failed {failure : Failure} (proper : order.Proper)
    (commanded : command devices.server order.arguments shell = (.error failure, after)) :
    CarriedOut (order :: left) devices shell [⟨order.arguments, .error failure⟩]
      (.error failure, devices, after) where
  ended := ⟨[], order.arguments, left.map Order.arguments, rfl, by simp, rfl⟩
  modules := by simp [loaded, Deed.loaded?, Except.toOption]
  told := by simp [answers, commanded]
  untried := by simp [tried?_of_proper proper]

theorem CarriedOut.cons {printed : String} {done : Except Failure Unit × Devices × Shell}
    (proper : order.Proper)
    (commanded : command devices.server order.arguments shell = (.ok printed, after))
    (rest : CarriedOut left { devices with
      modules := devices.modules ++ loaded [⟨order.arguments, .ok printed⟩] } after deeds done) :
    CarriedOut (order :: left) devices shell (⟨order.arguments, .ok printed⟩ :: deeds) done where
  ended := rest.ended.cons
  modules := by
    have parted := loaded_cons ⟨order.arguments, .ok printed⟩ deeds
    rw [rest.modules, parted, ← List.append_assoc]
  told := by
    simp only [List.map_cons, answers, commanded]
    rw [rest.told]
  untried deed among := by
    obtain rfl | among := List.mem_cons.mp among
    · exact tried?_of_proper proper _
    · exact rest.untried deed among

theorem carriedOut (devices : Devices) (shell : Shell)
    (proper : ∀ order ∈ left, order.Proper) :
    CarriedOut left devices shell (carryOutDeeds left devices shell)
      (carryOutAll left devices shell) := by
  induction left generalizing devices shell with
  | nil => exact .nil devices shell
  | cons order later ih =>
      have here := proper order (List.mem_cons_self ..)
      cases commanded : command devices.server order.arguments shell with
      | mk answer after =>
          cases answer with
          | error failure =>
              simp only [carryOutAll, carryOutDeeds, carryOut_of_error commanded, commanded]
              exact .failed here commanded
          | ok printed =>
              simp only [carryOutAll, carryOutDeeds, carryOut_of_ok here commanded, commanded]
              refine .cons here commanded (ih _ _ fun other listed => ?_)
              exact proper other (List.mem_cons_of_mem _ listed)

theorem unloadDeeds_cons (server name : String) (names : List String) (shell : Shell) :
    unloadDeeds server (name :: names) shell =
      ⟨["unload-module", name], (command server ["unload-module", name] shell).1⟩ ::
        unloadDeeds server names (command server ["unload-module", name] shell).2 := rfl

theorem tried?_unload (name : String) (answer : Except Failure String) :
    Deed.tried? ⟨["unload-module", name], answer⟩ = some name := rfl

theorem answers_unload (server : String) (names : List String) (shell : Shell) :
    answers server (names.map fun name => ["unload-module", name]) shell =
      (unloadDeeds server names shell, (unload server names shell).2) := by
  induction names generalizing shell with
  | nil => rfl
  | cons name names ih =>
      simp only [List.map_cons, answers, unloadDeeds_cons, unload]
      rw [ih]

/-- Unloading loads nothing. -/
theorem loaded_unloadDeeds (server : String) (names : List String) (shell : Shell) :
    loaded (unloadDeeds server names shell) = [] := by
  induction names generalizing shell with
  | nil => rfl
  | cons name names ih =>
      rw [unloadDeeds_cons, loaded_cons, ih, List.append_nil]
      rfl

/-- Each module is tried once, in the order of their loading. -/
theorem tried_unloadDeeds (server : String) (names : List String) (shell : Shell) :
    (unloadDeeds server names shell).filterMap Deed.tried? = names := by
  induction names generalizing shell with
  | nil => rfl
  | cons name names ih =>
      rw [unloadDeeds_cons, List.filterMap_cons_some (tried?_unload name _), ih]

theorem unloaded_unloadDeeds_subset (server : String) (names : List String) (shell : Shell) :
    unloaded (unloadDeeds server names shell) ⊆ names := by
  intro name gone
  have tried := unloaded_subset_tried _ gone
  rwa [tried_unloadDeeds] at tried

/-- What remains is what could not be unloaded. -/
theorem unload_eq (server : String) {names : List String} (fresh : names.Nodup) (shell : Shell) :
    (unload server names shell).1 =
      names.filter (· ∉ unloaded (unloadDeeds server names shell)) := by
  induction names generalizing shell with
  | nil => rfl
  | cons name names ih =>
      obtain ⟨absent, fresh⟩ := List.nodup_cons.mp fresh
      cases commanded : command server ["unload-module", name] shell with
      | mk answer after =>
          have rest := ih fresh after
          cases answer with
          | ok printed =>
              have gone : unloaded (unloadDeeds server (name :: names) shell) =
                  name :: unloaded (unloadDeeds server names after) := by
                rw [unloadDeeds_cons, commanded]
                rfl
              have others : ∀ other ∈ names,
                  decide (other ∉ name :: unloaded (unloadDeeds server names after)) =
                    decide (other ∉ unloaded (unloadDeeds server names after)) := by
                intro other listed
                have different : other ≠ name := fun same => absent (same ▸ listed)
                simp [different]
              simp only [unload, commanded]
              rw [gone, List.filter_cons_of_neg (by simp), List.filter_congr others, rest]
          | error failure =>
              have gone : unloaded (unloadDeeds server (name :: names) shell) =
                  unloaded (unloadDeeds server names after) := by
                rw [unloadDeeds_cons, commanded]
                rfl
              have still : name ∉ unloaded (unloadDeeds server names after) := fun among =>
                absent (unloaded_unloadDeeds_subset server names after among)
              simp only [unload, commanded]
              rw [gone, List.filter_cons_of_pos (by simpa using still), rest]

end Devices

/-! ## Histories -/

namespace History

variable {start shell : Shell} {history : History}

/-- What holds of every history in which each loaded module gets a name of its own. -/
structure Kept (server : String) (start : Shell) (history : History) : Prop where
  address : history.devices.server = server
  modules : history.devices.modules = remaining history.deeds
  orderly : Orderly history.deeds
  told : answers server (history.deeds.map Deed.arguments) start = (history.deeds, history.shell)

theorem carriedOut_setUp (preferences : Preferences) (fifo : String) (history : History) :
    Devices.CarriedOut (Devices.orders preferences fifo) history.devices history.shell
      (history.devices.setUpDeeds preferences fifo history.shell)
      (history.devices.setUp preferences fifo history.shell) :=
  Devices.carriedOut _ _ fun _ => Devices.proper_of_mem_orders

theorem Kept.setUp (kept : Kept server start history) (preferences : Preferences)
    (fifo : String) (fresh : (loaded (history.follow (.setUp preferences fifo)).deeds).Nodup) :
    Kept server start (history.follow (.setUp preferences fifo)) := by
  have carried := carriedOut_setUp preferences fifo history
  have quiet := unloaded_eq_nil carried.untried
  constructor
  case address =>
      rw [follow, carried.modules]
      exact kept.address
  case modules =>
      rw [follow] at fresh ⊢
      rw [carried.modules, kept.orderly.remaining_append fresh quiet, kept.modules]
  case orderly =>
      refine kept.orderly.append fun front deed back name parted tried => ?_
      have none := carried.untried deed (by rw [parted]; simp)
      rw [none] at tried
      cases tried
  case told =>
      have told := carried.told
      rw [kept.address] at told
      rw [follow, List.map_append, answers_append, kept.told, told]

theorem Kept.tearDown (kept : Kept server start history)
    (fresh : (loaded history.deeds).Nodup) :
    Kept server start (history.follow .tearDown) := by
  have once : history.devices.modules.Nodup := kept.modules ▸ nodup_remaining fresh
  constructor
  case address => exact kept.address
  case modules =>
      have left := Devices.unload_eq history.devices.server once history.shell
      have quiet := Devices.loaded_unloadDeeds history.devices.server history.devices.modules
        history.shell
      rw [follow, Devices.tearDown, Devices.tearDownDeeds, left,
        remaining_append_of_loaded history.deeds quiet, ← kept.modules]
  case orderly =>
      refine kept.orderly.append fun front deed back name parted tried => ?_
      have names := Devices.tried_unloadDeeds history.devices.server history.devices.modules
        history.shell
      rw [← Devices.tearDownDeeds, parted, List.filterMap_append,
        List.filterMap_cons_some tried] at names
      constructor
      · rw [← kept.modules, ← names]
        exact List.mem_append_right _ (List.mem_cons_self ..)
      · rw [← names] at once
        intro gone
        exact List.disjoint_of_nodup_append once (unloaded_subset_tried front gone)
          (List.mem_cons_self ..)
  case told =>
      have told := Devices.answers_unload history.devices.server history.devices.modules
        history.shell
      have commands : (history.devices.tearDownDeeds history.shell).map Deed.arguments =
          history.devices.modules.map fun name => ["unload-module", name] :=
        arguments_answers ..
      rw [kept.address] at told
      rw [follow, List.map_append, answers_append, kept.told, commands, told, Devices.tearDownDeeds,
        Devices.tearDown, kept.address]

end History

end DesktopGateway.Sound
