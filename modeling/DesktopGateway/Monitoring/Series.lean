/-!
# Series

One value for each label, in the order of the labels. A label that is asked for is there from then
on.
-/

namespace DesktopGateway.Monitoring

structure Series (α : Type) where
  entries : List (String × α)
  deriving DecidableEq, Repr

namespace Series

variable {α : Type}

def empty : Series α :=
  ⟨[]⟩

/-- Change the value of a label, which starts with `initial`. -/
def alter (initial : α) (change : α → α) (label : String) : List (String × α) → List (String × α)
  | [] => [(label, change initial)]
  | (other, value) :: later =>
      if label = other then (other, change value) :: later
      else if label < other then (label, change initial) :: (other, value) :: later
      else (other, value) :: alter initial change label later

def modify (series : Series α) (label : String) (initial : α) (change : α → α) : Series α :=
  ⟨alter initial change label series.entries⟩

def find? (series : Series α) (label : String) : Option α :=
  series.entries.lookup label

def values (series : Series α) : List α :=
  series.entries.map Prod.snd

end Series

end DesktopGateway.Monitoring
