import Collabo.MemberViews
import Collabo.StreamingCallbacks

/-!
# The end of the server

`clbStop` stops the streams and closes every open connection, in an order that the
web socket library chooses. Each closing runs `onClosePtr`, and the one that
empties the table stops the streams again.
-/

namespace Collabo.Shutdown

open UniqueTable PartialRuns Collabo.ClientTable Collabo.MySQLConnector Collabo.EncoderSession
  Collabo.MediaStream Collabo.CollaboServer Collabo.ServerSteps Collabo.ListedConnections
  Collabo.ConnectionEntries Collabo.StreamingCallbacks Collabo.MemberViews

set_option autoImplicit false

section Closing

variable {server following : Server} {ws : WebSocket} {lib : Libav}
  {order : List (WebSocket × Libav)}

end Closing

section Stopping

variable {server : Server} {lib : Libav} {order : List (WebSocket × Libav)}

end Stopping

end Collabo.Shutdown
