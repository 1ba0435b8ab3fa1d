import DesktopGateway.Monitoring.Metrics

/-!
# Marks

What a connection does to the metrics: a handshake that fails is marked once, and a connection that
is served once when it is given to its service and once when it is over.
-/

namespace DesktopGateway.Monitoring

inductive Mark where
  | handshakeFailed
  | opened (kind : String)
  | closed (kind : String) (sent received : UInt64)
  deriving DecidableEq, Repr

namespace Metrics

def note (metrics : Metrics) : Mark → Metrics
  | .handshakeFailed => metrics.handshakeFailed
  | .opened kind => metrics.connectionOpened kind
  | .closed kind sent received => metrics.connectionClosed kind sent received

def noteAll (metrics : Metrics) (marks : List Mark) : Metrics :=
  marks.foldl note metrics

end Metrics

end DesktopGateway.Monitoring
