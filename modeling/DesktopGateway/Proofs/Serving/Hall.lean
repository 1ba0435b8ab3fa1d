import DesktopGateway.Proofs.Monitoring.Series
import DesktopGateway.Proofs.Serving.Attendance

/-!
# The counters tell what becomes of the clients

Each client is outside, present or gone for the counters, and a step of a client is marked exactly
when this changes. So after every step of any number of clients the gauge of a service is the number
of those who are present, and the counters are, as far as 64 bits go, what was added up over those
who have been there.
-/

namespace DesktopGateway.Wire.Service

theorem ofName?_name (service : Service) : ofName? service.name = some service := by
  cases service <;> rfl

theorem name_inj {first second : Service} : first.name = second.name ↔ first = second := by
  constructor
  · intro same
    have found := ofName?_name first
    rw [same, ofName?_name] at found
    exact (Option.some.inj found).symm
  · rintro rfl
    rfl

end DesktopGateway.Wire.Service

namespace DesktopGateway.Serving

open DesktopGateway.Monitoring
open DesktopGateway.Wire

/-- What a client is to the counters. One that is turned away without a word stays outside. -/
inductive Standing where
  | outside
  | failed
  | present (service : Service)
  | finished (service : Service) (sent received : Nat)
  deriving DecidableEq, Repr

namespace Standing

/-! ## What each client adds up to -/

def failure : Standing → Nat
  | .failed => 1
  | _ => 0

def presence (service : Service) : Standing → Nat
  | .present other => if service = other then 1 else 0
  | _ => 0

def presenceAnywhere : Standing → Nat
  | .present _ => 1
  | _ => 0

def departure (service : Service) : Standing → Nat
  | .finished other _ _ => if service = other then 1 else 0
  | _ => 0

def sentBytes (service : Service) : Standing → Nat
  | .finished other sent _ => if service = other then sent else 0
  | _ => 0

def receivedBytes (service : Service) : Standing → Nat
  | .finished other _ received => if service = other then received else 0
  | _ => 0

theorem presenceAnywhere_eq (standing : Standing) :
    standing.presenceAnywhere =
      Service.all.foldr (fun service total => standing.presence service + total) 0 := by
  cases standing with
  | present service => cases service <;> rfl
  | outside | failed | finished _ _ _ => rfl

/-- How the marks of a step go with what it makes of the client. -/
inductive Books (before : Standing) : Standing → List Mark → Prop where
  | unchanged : Books before before []
  | failed (outside : before = .outside) : Books before .failed [.handshakeFailed]
  | opened (service : Service) (outside : before = .outside) :
      Books before (.present service) [.opened service.name]
  | closed {service : Service} (present : before = .present service) (sent received : Nat) :
      Books before (.finished service sent received)
        [.closed service.name (UInt64.ofNat sent) (UInt64.ofNat received)]

end Standing

namespace Attendance

variable {ν : Type} {roster : Roster ν} {client next : Attendance ν} {marks : List Mark}

def Stage.standing (exchange : Exchange) : Stage ν → Standing
  | .securing | .greeting | .seeking _ | .gone (.unserved _) => .outside
  | .insecure | .gone (.unopened _) => .failed
  | .calling service _ | .serving service | .parting service _ | .leaving service _ =>
      .present service
  | .gone (.served service _) => .finished service exchange.sent.length exchange.received

def standing (client : Attendance ν) : Standing :=
  client.stage.standing client.exchange

theorem standing_of_stage {stage : Stage ν} (here : client.stage = stage) :
    client.standing = stage.standing client.exchange := by
  rw [standing, here]

theorem Moves.books (moves : Moves roster client next marks) :
    client.standing.Books next.standing marks := by
  cases moves with
  | secured stage | greeted stage _ | unserved stage _ | called stage | returned stage _
  | ended stage =>
      rw [standing_of_stage stage]
      exact .unchanged
  | acted stage exchange =>
      have still : (client.setExchange exchange).stage = .serving _ := stage
      rw [standing_of_stage stage, standing_of_stage still]
      exact .unchanged
  | distrusted stage | lost stage _ _ | unopened stage _ =>
      exact .failed (standing_of_stage stage)
  | found stage serves => exact .opened _ (standing_of_stage stage)
  | left stage => exact .closed (standing_of_stage stage) _ _

end Attendance

namespace Hall

variable {ν : Type}

def tally (hall : Hall ν) (weight : Standing → Nat) : Nat :=
  hall.clients.foldr (fun client total => weight client.standing + total) 0

theorem tally_set {metrics : Metrics} {clients : List (Attendance ν)} {index : Nat}
    {client : Attendance ν} (found : clients[index]? = some client) (next : Attendance ν)
    (weight : Standing → Nat) (changed : Metrics) :
    (⟨changed, clients.set index next⟩ : Hall ν).tally weight + weight client.standing =
      (⟨metrics, clients⟩ : Hall ν).tally weight + weight next.standing := by
  induction clients generalizing index with
  | nil => cases found
  | cons head later ih =>
      cases index with
      | zero =>
          cases found
          simp only [tally, List.set_cons_zero, List.foldr_cons]
          omega
      | succ index =>
          have rest := ih found
          simp only [tally, List.set_cons_succ, List.foldr_cons] at rest ⊢
          omega

theorem tally_presenceAnywhere (hall : Hall ν) :
    hall.tally Standing.presenceAnywhere =
      Service.all.foldr
        (fun service total => hall.tally (Standing.presence service) + total) 0 := by
  obtain ⟨metrics, clients⟩ := hall
  induction clients with
  | nil => rfl
  | cons client later ih =>
      have own := client.standing.presenceAnywhere_eq
      simp only [tally, List.foldr_cons, Service.all, List.foldr_nil] at ih own ⊢
      omega

end Hall

/-! ## The balance -/

/-- The counters are what the clients add up to; `total` gives the sum of anything over them. -/
structure Balanced (metrics : Metrics) (total : (Standing → Nat) → Nat) : Prop where
  openedSound : metrics.opened.Sound
  activeSound : metrics.active.Sound
  sentSound : metrics.sent.Sound
  receivedSound : metrics.received.Sound
  opened : ∀ service : Service, metrics.opened.value 0 service.name =
    UInt64.ofNat (total (Standing.presence service) + total (Standing.departure service))
  active : ∀ service : Service,
    metrics.active.value 0 service.name = (total (Standing.presence service) : Int)
  sent : ∀ service : Service,
    metrics.sent.value 0 service.name = UInt64.ofNat (total (Standing.sentBytes service))
  received : ∀ service : Service,
    metrics.received.value 0 service.name = UInt64.ofNat (total (Standing.receivedBytes service))
  failed : metrics.failedHandshakes = UInt64.ofNat (total Standing.failure)
  everywhere : metrics.activeTotal = (total Standing.presenceAnywhere : Int)

namespace Balanced

variable {metrics : Metrics} {total after : (Standing → Nat) → Nat} {old new : Standing}
  {marks : List Mark}

theorem handshakeFailed (balanced : Balanced metrics total)
    (moved : ∀ weight, after weight + weight .outside = total weight + weight .failed) :
    Balanced metrics.handshakeFailed after := by
  have same (weight : Standing → Nat) (none : weight .outside = weight .failed) :
      after weight = total weight := by
    have := moved weight
    omega
  have more : after Standing.failure = total Standing.failure + 1 := moved Standing.failure
  exact {
    balanced with
    opened := fun service => by rw [same _ rfl, same _ rfl]; exact balanced.opened service
    active := fun service => by rw [same _ rfl]; exact balanced.active service
    sent := fun service => by rw [same _ rfl]; exact balanced.sent service
    received := fun service => by rw [same _ rfl]; exact balanced.received service
    failed := by rw [more, UInt64.ofNat_add, ← balanced.failed]; rfl
    everywhere := by rw [same _ rfl]; exact balanced.everywhere }

theorem value_modify {α : Type} {series : Series α} (sound : series.Sound) {initial : α}
    {change : α → α} {service wanted : Service} :
    (series.modify service.name initial change).value initial wanted.name =
      if wanted = service then change (series.value initial service.name)
      else series.value initial wanted.name := by
  simp only [sound.value_modify, Service.name_inj]

/-- A counter goes on counting when more is added to it. -/
theorem counted_modify {counter : Series UInt64} (sound : counter.Sound)
    {service : Service} {counts later : Service → Nat} {more : Nat}
    (counted : ∀ wanted : Service, counter.value 0 wanted.name = UInt64.ofNat (counts wanted))
    (grown : ∀ wanted, later wanted = counts wanted + if wanted = service then more else 0)
    (wanted : Service) :
    (counter.modify service.name 0 (· + UInt64.ofNat more)).value 0 wanted.name =
      UInt64.ofNat (later wanted) := by
  rw [value_modify sound, grown]
  split
  · rename_i own
    rw [own, counted, UInt64.ofNat_add]
  · exact counted wanted

theorem connectionOpened {service : Service} (balanced : Balanced metrics total)
    (moved : ∀ weight, after weight + weight .outside = total weight + weight (.present service)) :
    Balanced (metrics.connectionOpened service.name) after := by
  have same (weight : Standing → Nat) (none : weight .outside = weight (.present service)) :
      after weight = total weight := by
    have := moved weight
    omega
  have present (wanted : Service) : after (Standing.presence wanted) =
      total (Standing.presence wanted) + if wanted = service then 1 else 0 :=
    moved (Standing.presence wanted)
  have anywhere : after Standing.presenceAnywhere = total Standing.presenceAnywhere + 1 :=
    moved Standing.presenceAnywhere
  constructor
  case openedSound => exact balanced.openedSound.modify _ _ _
  case activeSound => exact balanced.activeSound.modify _ _ _
  case sentSound => exact balanced.sentSound
  case receivedSound => exact balanced.receivedSound
  case opened =>
    refine counted_modify balanced.openedSound balanced.opened fun wanted => ?_
    rw [present, same _ rfl, Nat.add_right_comm]
  case active =>
    intro wanted
    rw [Metrics.connectionOpened, value_modify balanced.activeSound, present]
    split
    · rename_i own
      rw [own, balanced.active, Int.natCast_add]
      rfl
    · exact balanced.active wanted
  case sent =>
    intro wanted
    rw [same _ rfl]
    exact balanced.sent wanted
  case received =>
    intro wanted
    rw [same _ rfl]
    exact balanced.received wanted
  case failed =>
    rw [same _ rfl]
    exact balanced.failed
  case everywhere =>
    rw [anywhere, Metrics.activeTotal, Metrics.connectionOpened, Metrics.activeTotal_modify,
      Int.natCast_add, ← balanced.everywhere]
    rfl

theorem connectionClosed {service : Service} {sent received : Nat}
    (balanced : Balanced metrics total)
    (moved : ∀ weight, after weight + weight (.present service) =
      total weight + weight (.finished service sent received)) :
    Balanced (metrics.connectionClosed service.name (UInt64.ofNat sent) (UInt64.ofNat received))
      after := by
  have present (wanted : Service) : after (Standing.presence wanted) +
      (if wanted = service then 1 else 0) = total (Standing.presence wanted) :=
    moved (Standing.presence wanted)
  have departed (wanted : Service) : after (Standing.departure wanted) =
      total (Standing.departure wanted) + if wanted = service then 1 else 0 :=
    moved (Standing.departure wanted)
  have sentOn (wanted : Service) : after (Standing.sentBytes wanted) =
      total (Standing.sentBytes wanted) + if wanted = service then sent else 0 :=
    moved (Standing.sentBytes wanted)
  have receivedOn (wanted : Service) : after (Standing.receivedBytes wanted) =
      total (Standing.receivedBytes wanted) + if wanted = service then received else 0 :=
    moved (Standing.receivedBytes wanted)
  have anywhere : after Standing.presenceAnywhere + 1 = total Standing.presenceAnywhere :=
    moved Standing.presenceAnywhere
  have failures : after Standing.failure = total Standing.failure := moved Standing.failure
  constructor
  case openedSound => exact balanced.openedSound
  case activeSound => exact balanced.activeSound.modify _ _ _
  case sentSound => exact balanced.sentSound.modify _ _ _
  case receivedSound => exact balanced.receivedSound.modify _ _ _
  case opened =>
    intro wanted
    have kept : after (Standing.presence wanted) + after (Standing.departure wanted) =
        total (Standing.presence wanted) + total (Standing.departure wanted) := by
      rw [departed, ← present]
      omega
    rw [kept]
    exact balanced.opened wanted
  case active =>
    intro wanted
    rw [Metrics.connectionClosed, value_modify balanced.activeSound]
    have less := present wanted
    have before := balanced.active wanted
    split
    · rename_i own
      rw [if_pos own] at less
      rw [← own, before]
      omega
    · rename_i other
      rw [if_neg other] at less
      rw [before, ← less]
      rfl
  case sent => exact counted_modify balanced.sentSound balanced.sent sentOn
  case received => exact counted_modify balanced.receivedSound balanced.received receivedOn
  case failed =>
    rw [failures]
    exact balanced.failed
  case everywhere =>
    have before := balanced.everywhere
    rw [Metrics.activeTotal] at before
    rw [Metrics.activeTotal, Metrics.connectionClosed]
    have less := Metrics.activeTotal_modify metrics.active service.name (-1)
    simp only [← Int.sub_eq_add_neg] at less
    rw [less, before]
    omega

theorem books (balanced : Balanced metrics total) (books : old.Books new marks)
    (moved : ∀ weight, after weight + weight old = total weight + weight new) :
    Balanced (metrics.noteAll marks) after := by
  cases books with
  | unchanged =>
      obtain rfl : after = total := funext fun weight => Nat.add_right_cancel (moved weight)
      exact balanced
  | failed outside =>
      subst outside
      exact balanced.handshakeFailed moved
  | opened service outside =>
      subst outside
      exact balanced.connectionOpened moved
  | closed present sent received =>
      subst present
      exact balanced.connectionClosed moved

end Balanced

namespace Hall

variable {ν : Type} {roster : Roster ν} {hall next : Hall ν} {index : Nat}
  {turn : Attendance.Turn}

theorem balanced_start (clients : List (Pieces × Bool)) :
    Balanced Metrics.new (Hall.start clients : Hall ν).tally := by
  have nothing (weight : Standing → Nat) (none : weight .outside = 0) :
      (Hall.start clients : Hall ν).tally weight = 0 := by
    induction clients with
    | nil => rfl
    | cons client later ih =>
        simp only [tally, Hall.start, List.map_cons, List.foldr_cons] at ih ⊢
        rw [ih]
        exact none
  constructor
  case openedSound | activeSound | sentSound | receivedSound => exact Series.sound_empty
  case opened =>
    intro service
    rw [nothing _ rfl, nothing _ rfl]
    rfl
  case active | sent | received =>
    intro service
    rw [nothing _ rfl]
    rfl
  case failed | everywhere =>
    rw [nothing _ rfl]
    rfl

/-- A step of one client keeps the balance. -/
theorem balanced_step (balanced : Balanced hall.metrics hall.tally)
    (done : hall.step roster index turn = some next) : Balanced next.metrics next.tally := by
  obtain ⟨client, found, rest⟩ := Option.bind_eq_some_iff.mp done
  obtain ⟨⟨after, marks⟩, stepped, same⟩ := Option.map_eq_some_iff.mp rest
  cases same
  exact balanced.books (Attendance.moves_of_step stepped).books fun weight =>
    tally_set found after weight _

theorem balanced_follow {turns : List (Nat × Attendance.Turn)}
    (balanced : Balanced hall.metrics hall.tally)
    (followed : hall.follow roster turns = some next) : Balanced next.metrics next.tally := by
  induction turns generalizing hall with
  | nil =>
      cases followed
      exact balanced
  | cons first later ih =>
      obtain ⟨index, turn⟩ := first
      obtain ⟨middle, done, rest⟩ := Option.bind_eq_some_iff.mp followed
      exact ih (balanced_step balanced done) rest

/-- For any clients and after any steps of them in any order: the gauge of a service is the number
of those that are with its server, which is never negative, and the sum of the gauges is nothing
when nobody is. The counters of a service are, modulo their size, the number of those that have been
given to its server and the sums of the bytes of those that have left, and the failed handshakes are
the number of those whose handshake failed. -/
theorem counters_of_follow {clients : List (Pieces × Bool)}
    {turns : List (Nat × Attendance.Turn)}
    (followed : (Hall.start clients).follow roster turns = some hall) :
    (∀ service : Service,
      hall.metrics.active.value 0 service.name = (hall.tally (Standing.presence service) : Int) ∧
      0 ≤ hall.metrics.active.value 0 service.name ∧
      (hall.metrics.opened.value 0 service.name).toNat =
        (hall.tally (Standing.presence service) + hall.tally (Standing.departure service)) %
          UInt64.size ∧
      (hall.metrics.sent.value 0 service.name).toNat =
        hall.tally (Standing.sentBytes service) % UInt64.size ∧
      (hall.metrics.received.value 0 service.name).toNat =
        hall.tally (Standing.receivedBytes service) % UInt64.size) ∧
    hall.metrics.failedHandshakes.toNat = hall.tally Standing.failure % UInt64.size ∧
    hall.metrics.activeTotal = Service.all.foldr
      (fun service total => hall.metrics.active.value 0 service.name + total) 0 ∧
    ((∀ service, hall.tally (Standing.presence service) = 0) → hall.metrics.activeTotal = 0) := by
  have balanced := balanced_follow (balanced_start clients) followed
  have everywhere : hall.metrics.activeTotal = Service.all.foldr
      (fun service total => hall.metrics.active.value 0 service.name + total) 0 := by
    rw [balanced.everywhere, tally_presenceAnywhere]
    simp [Service.all, balanced.active]
  refine ⟨fun service => ⟨balanced.active service, ?_, ?_, ?_, ?_⟩, ?_, everywhere, ?_⟩
  · rw [balanced.active]
    exact Int.natCast_nonneg _
  · rw [balanced.opened, UInt64.toNat_ofNat']
  · rw [balanced.sent, UInt64.toNat_ofNat']
  · rw [balanced.received, UInt64.toNat_ofNat']
  · rw [balanced.failed, UInt64.toNat_ofNat']
  · intro nobody
    rw [everywhere]
    simp [Service.all, balanced.active, nobody]

def visit (index : Nat) (sent : List UInt8) : List (Nat × Attendance.Turn) :=
  [.secured true, .proceed, .proceed, .proceed, .acted ⟨.display, [], 1, sent, true⟩,
    .returned (.ok ()), .ended (.ok ()), .proceed].map (index, ·)

theorem exists_follow_visits (sent : List UInt8) : ∃ hall,
    (Hall.start [([[1]], true), ([[1]], true)] : Hall Unit).follow
      (.ofChanges [.insert .display ()]) (visit 0 sent ++ visit 1 sent) = some hall ∧
    hall.tally (Standing.sentBytes .display) = sent.length + sent.length :=
  ⟨_, rfl, rfl⟩

theorem counters_of_two_visits : ∃ hall : Hall Unit,
    (Hall.start [([[1]], true), ([[1]], true)]).follow (.ofChanges [.insert .display ()])
      (visit 0 [7, 8, 9] ++ visit 1 [7, 8, 9]) = some hall ∧
    (hall.metrics.sent.value 0 "display").toNat = 6 := by
  obtain ⟨hall, followed, sent⟩ := exists_follow_visits [7, 8, 9]
  have counted := ((counters_of_follow followed).1 .display).2.2.2.1
  rw [sent] at counted
  exact ⟨hall, followed, counted⟩

/-- A counter of bytes is not their sum when the sum does not fit: two clients that were sent
`2 ^ 63` bytes each leave the counter as it was. -/
theorem sent_not_sum : ¬ ∀ (roster : Roster Unit) (clients : List (Pieces × Bool))
    (turns : List (Nat × Attendance.Turn)) (hall : Hall Unit),
    (Hall.start clients).follow roster turns = some hall → ∀ service : Service,
      (hall.metrics.sent.value 0 service.name).toNat =
        hall.tally (Standing.sentBytes service) := by
  intro exact_sum
  obtain ⟨hall, followed, sent⟩ :=
    exists_follow_visits (List.replicate 9223372036854775808 0)
  have claimed := exact_sum _ _ _ hall followed .display
  have counted := (balanced_follow (balanced_start _) followed).sent .display
  rw [List.length_replicate] at sent
  rw [counted, sent, UInt64.toNat_ofNat'] at claimed
  exact absurd claimed (by decide)

end Hall

end DesktopGateway.Serving
