import DesktopGateway.Wire.Service

/-!
# Rosters

Who serves each service.
-/

namespace DesktopGateway.Serving

open DesktopGateway.Wire

structure Roster (α : Type) where
  find? : Service → Option α

namespace Roster

variable {α : Type}

def empty : Roster α :=
  ⟨fun _ => none⟩

def insert (roster : Roster α) (service : Service) (server : α) : Option α × Roster α :=
  (roster.find? service,
    ⟨fun wanted => if wanted = service then some server else roster.find? wanted⟩)

def erase (roster : Roster α) (service : Service) : Option α × Roster α :=
  (roster.find? service, ⟨fun wanted => if wanted = service then none else roster.find? wanted⟩)

/-- One call that changes a roster. -/
inductive Change (α : Type) where
  | insert (service : Service) (server : α)
  | erase (service : Service)

def Change.service : Change α → Service
  | .insert service _ => service
  | .erase service => service

def change (roster : Roster α) : Change α → Roster α
  | .insert service server => (roster.insert service server).2
  | .erase service => (roster.erase service).2

/-- What calls make of a roster that serves nobody. -/
def ofChanges (changes : List (Change α)) : Roster α :=
  changes.foldl change empty

def contains (roster : Roster α) (service : Service) : Bool :=
  (roster.find? service).isSome

def services (roster : Roster α) : List Service :=
  Service.all.filter roster.contains

def summary (roster : Roster α) : String :=
  let titles := String.intercalate ", " (roster.services.map Service.title)
  s!"HandlerRegistry \x7b arten: [{titles}] \x7d"

@[simp] theorem find?_empty (service : Service) : (empty : Roster α).find? service = none := rfl

@[simp] theorem find?_insert (roster : Roster α) (service wanted : Service) (server : α) :
    (roster.insert service server).2.find? wanted =
      if wanted = service then some server else roster.find? wanted := rfl

@[simp] theorem find?_erase (roster : Roster α) (service wanted : Service) :
    (roster.erase service).2.find? wanted =
      if wanted = service then none else roster.find? wanted := rfl

theorem mem_services {roster : Roster α} {service : Service} :
    service ∈ roster.services ↔ (roster.find? service).isSome := by
  simp [services, contains, Service.mem_all]

end Roster

end DesktopGateway.Serving
