import Collabo.ListedConnections
import Collabo.Library.Deliveries

/-!
# Who is sent the streams

Starting, stopping and restarting the encoder, and each packet that it writes, add
messages of the two video kinds to what the viewers are sent, and no others.
-/

namespace Collabo.MediaDeliveries

open UniqueTable PartialRuns Collabo.CString Collabo.MySQLConnector Collabo.ClientTable
  Collabo.EncoderSession Collabo.MediaStream Collabo.CollaboServer Collabo.ServerSteps
  Collabo.ListedConnections

set_option autoImplicit false

def IsMedia : StcMsg → Prop
  | .initVideo _ => True
  | .decodeVideo _ => True
  | .authProcess _ _ => False
  | .chiefProcess _ _ => False
  | .accessMemberProcess _ => False
  | .connectedMemberInfoProcess _ _ => False

/-- What was sent in between are media messages to some of the receivers. -/
def Streams (receivers : List WebSocket) (before after : Streaming) : Prop :=
  ∃ added, after.sent = before.sent ++ added ∧
    ∀ delivery ∈ added, delivery.1 ∈ receivers ∧ IsMedia delivery.2

section Streaming

variable {receivers : List WebSocket} {before after later : Streaming}

theorem streams_same (same : after.sent = before.sent) : Streams receivers before after := by
  refine ⟨[], ?_, ?_⟩
  · rw [same, List.append_nil]
  · intro delivery member
    cases member

theorem streams_trans (first : Streams receivers before after)
    (second : Streams receivers after later) : Streams receivers before later := by
  obtain ⟨added, sent, toReceivers⟩ := first
  obtain ⟨more, sentLater, moreToReceivers⟩ := second
  refine ⟨added ++ more, ?_, ?_⟩
  · rw [sentLater, sent, List.append_assoc]
  · intro delivery member
    rcases List.mem_append.mp member with early | late
    · exact toReceivers delivery early
    · exact moreToReceivers delivery late

theorem sends_stream {sockets : List WebSocket} (listed : ∀ ws ∈ sockets, ws ∈ receivers)
    (streaming : Streaming) {msg : StcMsg} (media : IsMedia msg) :
    Streams receivers streaming (sendAll streaming sockets msg) := by
  refine ⟨_, rfl, ?_⟩
  intro delivery member
  obtain ⟨ws, isListed, same⟩ := List.mem_map.mp member
  rw [← same]
  exact ⟨listed ws isListed, media⟩

theorem read_packet_streams (streaming : Streaming) (packet : Packet) :
    Streams receivers streaming (readPacket receivers streaming packet) := by
  unfold readPacket
  dsimp only
  split_ifs with few complete
  · exact sends_stream (fun _ member => member) _ trivial
  · exact streams_same rfl
  · exact sends_stream (fun _ member => member) _ trivial

theorem mux_write_streams (streaming : Streaming) (bytes : ByteString) :
    Streams receivers streaming (muxWrite receivers streaming bytes) :=
  streams_trans (streams_same rfl) (read_packet_streams _ _)

theorem mux_writes_streams (streaming : Streaming) (writes : List ByteString) :
    Streams receivers streaming (muxWrites receivers streaming writes) := by
  induction writes generalizing streaming with
  | nil => exact streams_same rfl
  | cons bytes rest induction =>
      exact streams_trans (mux_write_streams streaming bytes) (induction _)

theorem initialize_streams (streaming : Streaming) (eCtx : EncoderContext) (lib : Libav) :
    Streams receivers streaming
      (MediaStream.initializeEncoder receivers streaming eCtx lib) := by
  unfold MediaStream.initializeEncoder
  dsimp only
  split_ifs with opened
  · exact streams_trans (streams_same rfl) (mux_writes_streams _ _)
  · exact streams_same rfl

theorem stop_encoder_streams (streaming : Streaming) (lib : Libav) :
    Streams receivers streaming (stopEncoder receivers streaming lib) := by
  have flushed : ∀ other, Streams receivers streaming other →
      Streams receivers streaming { other with encoder := (EncoderSession.stop other.encoder).2 } :=
    fun other sent => streams_trans sent (streams_same rfl)
  unfold stopEncoder
  apply flushed
  split_ifs with writing
  · exact mux_writes_streams _ _
  · exact streams_same rfl

theorem start_streaming_streams (streaming : Streaming) (mClbCtx : ClbContext) (lib : Libav) :
    Streams receivers streaming (startStreaming receivers streaming mClbCtx lib) := by
  unfold startStreaming
  dsimp only
  cases streaming.mode with
  | video => exact streams_trans (streams_same rfl) (initialize_streams _ _ _)
  | image => exact streams_trans (streams_same rfl) (initialize_streams _ _ _)

theorem stop_streaming_streams (streaming : Streaming) (lib : Libav) :
    Streams receivers streaming (stopStreaming receivers streaming lib) := by
  have stopped := @stop_encoder_streams receivers streaming lib
  unfold stopStreaming
  dsimp only
  split
  · exact stopped
  · exact streams_trans stopped (streams_same rfl)

theorem callback_streams (host : ClbContext) (lib : Libav) (streaming : Streaming)
    (state : ClbState) :
    Streams receivers streaming (stateCallback receivers host lib streaming state) := by
  unfold stateCallback
  cases state with
  | startStreaming => exact streams_trans (streams_same rfl) (start_streaming_streams _ _ _)
  | stopStreaming => exact streams_trans (streams_same rfl) (stop_streaming_streams _ _)

theorem restart_streams (streaming : Streaming) (width height : Int) (lib : Libav) :
    Streams receivers streaming (restartEncoder receivers streaming width height lib) := by
  unfold restartEncoder
  dsimp only
  have stopped : Streams receivers streaming (stopEncoder receivers
      { streaming with
        encoder := { streaming.encoder with
          eCtx := { streaming.encoder.eCtx with width := width, height := height } } } lib) :=
    streams_trans (streams_same rfl) (stop_encoder_streams _ _)
  exact streams_trans stopped (initialize_streams _ _ _)

end Streaming

section Server

variable {server following : Server} {ws : WebSocket} {lib : Libav}

theorem switch_mode_streams (server : Server) (mode : Mode) (lib : Libav) :
    Streams (viewers server.clientList) server.streaming
      (switchMode server mode lib).streaming := by
  let stopped := stateCallback (viewers server.clientList) server.host lib server.streaming
    .stopStreaming
  have stops : Streams (viewers server.clientList) server.streaming stopped :=
    callback_streams _ _ _ _
  have switches : Streams (viewers server.clientList) stopped { stopped with mode := mode } :=
    streams_same rfl
  exact streams_trans (streams_trans stops switches) (callback_streams _ _ _ .startStreaming)

theorem joined_streams (joined : Joined server ws lib following) :
    Streams (viewers following.clientList) (connectionOpens server ws).streaming
      following.streaming := by
  rcases joined.streaming with ⟨_, same⟩ | ⟨_, started⟩
  · rw [same]
    exact streams_same rfl
  · rw [started]
    exact callback_streams _ _ _ _

theorem closed_streams (closed : Closed server ws lib following) :
    Streams (viewers following.clientList) server.streaming following.streaming := by
  rcases closed.streaming with ⟨_, same⟩ | ⟨_, stopped⟩
  · rw [same]
    exact streams_same rfl
  · rw [stopped]
    exact callback_streams _ _ _ _

end Server

end Collabo.MediaDeliveries
