import HostLink.Settings

/-!
The configuration of a session.
-/

namespace HostLink

structure Config where
  bridge : Settings := {}
  verbose : Bool := false
  deriving DecidableEq, Repr

end HostLink
