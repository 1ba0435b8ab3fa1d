/-!
# Data

The values that a settings file holds before anybody knows what they are for.
-/

namespace DesktopGateway.Settings

inductive Datum where
  | null
  | boolean (value : Bool)
  | integer (value : Int)
  | float (digits : String)
  | text (value : String)
  | moment (digits : String)
  | list (items : List Datum)
  | table (entries : List (String × Datum))
  deriving Inhabited

end DesktopGateway.Settings
