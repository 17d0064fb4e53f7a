import Collabo.ConnectionEntries
import Mathlib.Data.List.Chain

/-!
# Starting and stopping the streams

The size of the table decides when the host is told to start and to stop. While
the table tracks the open connections, the calls alternate and the encoder and
the image compressor run just as the last call says.
-/

namespace Collabo.StreamingCallbacks

open UniqueTable PartialRuns Collabo.CString Collabo.MySQLConnector Collabo.ClientTable
  Collabo.EncoderSession Collabo.MediaStream Collabo.CollaboServer Collabo.ServerSteps
  Collabo.ListedConnections Collabo.ConnectionEntries

set_option autoImplicit false

/-- No two calls in a row are the same, and the first is START_STREAMING. -/
structure Alternate (callbacks : List ClbState) : Prop where
  first : ∀ state ∈ callbacks.head?, state = .startStreaming
  strict : callbacks.IsChain (· ≠ ·)

def StreamingOn (streaming : Streaming) : Prop :=
  streaming.callbacks.getLast? = some .startStreaming

def compressorRuns (calls : List CompressorCall) : Bool :=
  calls.foldl
    (fun runs call =>
      match call with
      | .initializes _ _ => true
      | .stops => false
      | .sendsFull => runs) false

/-- Streaming is on exactly when `isOpen` holds, the callbacks alternate, and the
compressor and the encoder follow them. -/
structure Coupled (streaming : Streaming) (isOpen : Prop) : Prop where
  alternate : Alternate streaming.callbacks
  on_iff : StreamingOn streaming ↔ isOpen
  compressor_iff : compressorRuns streaming.compressorCalls = true ↔
    StreamingOn streaming ∧ streaming.mode = .image
  encoder_iff : streaming.encoder.stopped = false ↔ StreamingOn streaming

section Callbacks

variable {callbacks : List ClbState} {state : ClbState}

theorem alternate_append (alternate : Alternate callbacks)
    (different : callbacks.getLast? ≠ some state)
    (starts : callbacks = [] → state = .startStreaming) :
    Alternate (callbacks ++ [state]) := by
  constructor
  · intro head member
    cases callbacks with
    | nil =>
        rw [← Option.some.inj member]
        exact starts rfl
    | cons earlier rest => exact alternate.first head member
  · apply List.IsChain.append alternate.strict (List.isChain_singleton state)
    intro last lastMember added addedMember same
    apply different
    rw [show callbacks.getLast? = some last from lastMember, same, ← Option.some.inj addedMember]

theorem compressor_runs_append (calls : List CompressorCall) (call : CompressorCall) :
    compressorRuns (calls ++ [call]) =
      match call with
      | .initializes _ _ => true
      | .stops => false
      | .sendsFull => compressorRuns calls := by
  unfold compressorRuns
  rw [List.foldl_append]
  rfl

end Callbacks

section Controls

structure SameControls (before after : Streaming) : Prop where
  mode : after.mode = before.mode
  callbacks : after.callbacks = before.callbacks
  compressor : after.compressorCalls = before.compressorCalls

variable {viewers : List WebSocket} {streaming : Streaming}

theorem SameControls.trans {first second third : Streaming} (left : SameControls first second)
    (right : SameControls second third) : SameControls first third where
  mode := right.mode.trans left.mode
  callbacks := right.callbacks.trans left.callbacks
  compressor := right.compressor.trans left.compressor

/-- An encoder that is not initialised for want of some call runs all the same. -/
theorem initialize_encoder_controls (viewers : List WebSocket) (streaming : Streaming)
    (eCtx : EncoderContext) (lib : Libav) :
    SameControls streaming (MediaStream.initializeEncoder viewers streaming eCtx lib) ∧
      (MediaStream.initializeEncoder viewers streaming eCtx lib).encoder.stopped = false := by
  have runs : (EncoderSession.initializeEncoder streaming.encoder eCtx lib).2.stopped = false := by
    rcases initialize_encoder_cases streaming.encoder eCtx lib with ⟨running, result⟩ |
      ⟨_, _, _, kept⟩ | ⟨_, _, _, opened⟩
    · rw [result]
      exact running
    · exact kept.stopped
    · exact opened.stopped
  unfold MediaStream.initializeEncoder
  dsimp only
  split_ifs
  · have wrote := mux_writes_wrote viewers
      { streaming with
        encoder := (EncoderSession.initializeEncoder streaming.encoder eCtx lib).2
        muxer := eCtx } lib.headerWrites
    exact ⟨⟨wrote.mode, wrote.callbacks, wrote.compressor⟩, wrote.stopped.trans runs⟩
  · exact ⟨⟨rfl, rfl, rfl⟩, runs⟩

theorem stop_encoder_controls (viewers : List WebSocket) (streaming : Streaming) (lib : Libav) :
    SameControls streaming (stopEncoder viewers streaming lib) ∧
      (stopEncoder viewers streaming lib).encoder.stopped = true := by
  unfold stopEncoder
  dsimp only
  split_ifs
  · have wrote := mux_writes_wrote viewers streaming lib.trailerWrites
    exact ⟨⟨wrote.mode, wrote.callbacks, wrote.compressor⟩, stop_stopped _⟩
  · exact ⟨⟨rfl, rfl, rfl⟩, stop_stopped _⟩

theorem restart_encoder_controls (viewers : List WebSocket) (streaming : Streaming)
    (width height : Int) (lib : Libav) :
    SameControls streaming (restartEncoder viewers streaming width height lib) ∧
      (restartEncoder viewers streaming width height lib).encoder.stopped = false := by
  unfold restartEncoder
  dsimp only
  have stops := (stop_encoder_controls viewers
    { streaming with
      encoder := { streaming.encoder with
        eCtx := { streaming.encoder.eCtx with width := width, height := height } } } lib).1
  rcases initialize_encoder_controls viewers _ _ lib with ⟨opens, runs⟩
  exact ⟨SameControls.trans ⟨stops.mode, stops.callbacks, stops.compressor⟩ opens, runs⟩

theorem start_streaming_controls (viewers : List WebSocket) (host : ClbContext) (lib : Libav)
    (streaming : Streaming) :
    let started := stateCallback viewers host lib streaming .startStreaming
    started.mode = streaming.mode ∧
      started.callbacks = streaming.callbacks ++ [.startStreaming] ∧
      started.encoder.stopped = false ∧
      (compressorRuns started.compressorCalls = true ↔
        streaming.mode = .image ∨ compressorRuns streaming.compressorCalls = true) := by
  unfold stateCallback startStreaming
  dsimp only
  cases mode : streaming.mode with
  | video =>
      rcases initialize_encoder_controls viewers _ _ lib with ⟨controls, runs⟩
      refine ⟨controls.mode, controls.callbacks, runs, ?_⟩
      rw [controls.compressor]
      simp
  | image =>
      rcases initialize_encoder_controls viewers _ _ lib with ⟨controls, runs⟩
      refine ⟨controls.mode, controls.callbacks, runs, ?_⟩
      rw [controls.compressor]
      simp [compressor_runs_append]

theorem stop_streaming_controls (viewers : List WebSocket) (host : ClbContext) (lib : Libav)
    (streaming : Streaming) :
    let stopped := stateCallback viewers host lib streaming .stopStreaming
    stopped.mode = streaming.mode ∧
      stopped.callbacks = streaming.callbacks ++ [.stopStreaming] ∧
      stopped.encoder.stopped = true ∧
      (compressorRuns stopped.compressorCalls = true ↔
        streaming.mode = .video ∧ compressorRuns streaming.compressorCalls = true) := by
  unfold stateCallback stopStreaming
  dsimp only
  obtain ⟨controls, stops⟩ := stop_encoder_controls viewers
    { streaming with callbacks := streaming.callbacks ++ [.stopStreaming] } lib
  generalize stopEncoder viewers
    { streaming with callbacks := streaming.callbacks ++ [.stopStreaming] } lib = stopped
    at controls stops
  have sameMode : stopped.mode = streaming.mode := controls.mode
  have sameCalls : stopped.compressorCalls = streaming.compressorCalls := controls.compressor
  rw [← sameMode]
  cases mode : stopped.mode with
  | video =>
      refine ⟨mode, controls.callbacks, stops, ?_⟩
      rw [sameCalls]
      simp
  | image =>
      refine ⟨rfl, controls.callbacks, stops, ?_⟩
      dsimp only
      rw [compressor_runs_append]
      simp

end Controls

section Coupling

variable {streaming following : Streaming} {isOpen stillOpen : Prop}

theorem coupled_keeps (coupled : Coupled streaming isOpen)
    (mode : following.mode = streaming.mode) (callbacks : following.callbacks = streaming.callbacks)
    (compressor :
      compressorRuns following.compressorCalls = compressorRuns streaming.compressorCalls)
    (encoder : following.encoder.stopped = streaming.encoder.stopped)
    (same : isOpen ↔ stillOpen) : Coupled following stillOpen := by
  have on : StreamingOn following ↔ StreamingOn streaming := by
    unfold StreamingOn
    rw [callbacks]
  constructor
  · rw [callbacks]
    exact coupled.alternate
  · rw [on, coupled.on_iff, same]
  · rw [compressor, on, mode]
    exact coupled.compressor_iff
  · rw [encoder, on]
    exact coupled.encoder_iff

theorem coupled_starts (coupled : Coupled streaming isOpen) (closed : ¬isOpen)
    (opened : stillOpen) (viewers : List WebSocket) (host : ClbContext) (lib : Libav) :
    Coupled (stateCallback viewers host lib streaming .startStreaming) stillOpen := by
  have off : ¬StreamingOn streaming := fun on => closed (coupled.on_iff.mp on)
  obtain ⟨mode, callbacks, runs, compressor⟩ :=
    start_streaming_controls viewers host lib streaming
  have on : StreamingOn (stateCallback viewers host lib streaming .startStreaming) := by
    unfold StreamingOn
    rw [callbacks]
    exact List.getLast?_concat
  constructor
  · rw [callbacks]
    exact alternate_append coupled.alternate off (fun _ => rfl)
  · exact iff_of_true on opened
  · rw [compressor, mode, coupled.compressor_iff]
    constructor
    · rintro (image | ⟨earlier, -⟩)
      · exact ⟨on, image⟩
      · exact absurd earlier off
    · rintro ⟨-, image⟩
      exact .inl image
  · exact iff_of_true runs on

theorem coupled_stops (coupled : Coupled streaming isOpen) (opened : isOpen)
    (closed : ¬stillOpen) (viewers : List WebSocket) (host : ClbContext) (lib : Libav) :
    Coupled (stateCallback viewers host lib streaming .stopStreaming) stillOpen := by
  have before : StreamingOn streaming := coupled.on_iff.mpr opened
  obtain ⟨mode, callbacks, stops, compressor⟩ := stop_streaming_controls viewers host lib streaming
  have off : ¬StreamingOn (stateCallback viewers host lib streaming .stopStreaming) := by
    unfold StreamingOn
    rw [callbacks, List.getLast?_concat]
    simp
  constructor
  · rw [callbacks]
    apply alternate_append coupled.alternate
    · rw [show streaming.callbacks.getLast? = some .startStreaming from before]
      simp
    · intro empty
      rw [StreamingOn, empty] at before
      cases before
  · exact iff_of_false off closed
  · rw [compressor, coupled.compressor_iff]
    apply iff_of_false
    · rintro ⟨video, -, image⟩
      rw [video] at image
      cases image
    · rintro ⟨on, -⟩
      exact off on
  · rw [stops]
    exact iff_of_false (by simp) off

end Coupling

section Steps

variable {server following : Server} {client : Client} {json : Json} {dbCall : DbCall} {lib : Libav}
  {ws : WebSocket}

/-- The table tracks the open connections, and the streams follow them. -/
structure Following (server : Server) : Prop where
  tracks : Tracks server
  coupled : Coupled server.streaming (server.sockets ≠ [])

theorem size_zero_iff (tracks : Tracks server) :
    server.clientList.size = 0 ↔ server.sockets = [] := by
  constructor
  · intro empty
    apply List.eq_nil_iff_forall_not_mem.mpr
    intro ws isOpen
    have listedSocket := tracks.complete ws isOpen
    rw [clientSockets, List.length_eq_zero_iff.mp empty] at listedSocket
    cases listedSocket
  · intro none
    apply List.length_eq_zero_iff.mpr
    apply List.eq_nil_iff_forall_not_mem.mpr
    intro client member
    have isOpen := tracks.listed.connected client.ws (List.mem_map_of_mem member)
    rw [none] at isOpen
    cases isOpen

theorem sockets_ne_nil (isOpen : ws ∈ server.sockets) : server.sockets ≠ [] :=
  List.ne_nil_of_mem isOpen

/-- The first connection starts the streams, any other leaves them. -/
theorem opened_coupled (held : Following server) (free : server.clientList.find [] = none)
    (ws : WebSocket) (lib : Libav) :
    Coupled (onOpenPtr server ws lib).streaming ((onOpenPtr server ws lib).sockets ≠ []) := by
  have fresh : (ClientTable.connected ws).mcode ∉ server.clientList.entries.map Client.mcode :=
    find_none free
  have joined := on_open_joined server ws lib
  have sockets : (onOpenPtr server ws lib).sockets ≠ [] := by
    rw [joined.sockets]
    exact List.append_ne_nil_of_right_ne_nil _ (List.cons_ne_nil _ _)
  have size : (onOpenPtr server ws lib).clientList.size = server.clientList.size + 1 := by
    rw [joined.clientList, Table.size, insert_fresh_entries fresh, List.length_append]
    rfl
  have unsent : Coupled (connectionOpens server ws).streaming (server.sockets ≠ []) :=
    coupled_keeps held.coupled rfl rfl rfl rfl Iff.rfl
  rcases joined.streaming with ⟨others, same⟩ | ⟨first, started⟩
  · rw [same]
    apply coupled_keeps unsent rfl rfl rfl rfl
    have occupied : server.sockets ≠ [] := by
      intro none
      apply others
      rw [size, (size_zero_iff held.tracks).mpr none]
    exact iff_of_true occupied sockets
  · rw [started]
    apply coupled_starts unsent _ sockets
    rw [size] at first
    exact fun occupied => occupied ((size_zero_iff held.tracks).mp (Nat.succ.inj first))

/-- The last connection that closes stops the streams, any other leaves them. -/
theorem closed_coupled (held : Following server) (closed : Closed server ws lib following) :
    Coupled following.streaming (following.sockets ≠ []) := by
  have tracks := closed_tracks held.tracks closed
  rcases closed.clientList with ⟨client, found, _⟩
  have member := (find_ws_some found).1
  have isOpen : server.sockets ≠ [] :=
    sockets_ne_nil (held.tracks.listed.connected client.ws (List.mem_map_of_mem member))
  rcases closed.streaming with ⟨others, same⟩ | ⟨last, stopped⟩
  · rw [same]
    apply coupled_keeps held.coupled rfl rfl rfl rfl
    exact iff_of_true isOpen (fun none => others ((size_zero_iff tracks).mpr none))
  · rw [stopped]
    apply coupled_stops held.coupled isOpen
    exact fun open_ => open_ ((size_zero_iff tracks).mp last)

theorem cleared_coupled {info : Client} {cleared : Server} (held : Following server)
    (accepts : Accepted server client info dbCall lib cleared) :
    Coupled cleared.streaming (cleared.sockets ≠ []) :=
  cleared_of_closed (fun state => Coupled state.streaming (state.sockets ≠ [])) accepts
    held.coupled (fun _ _ closed => closed_coupled held closed)

theorem announce_coupled {info : Client}
    (coupled : Coupled server.streaming (server.sockets ≠ [])) :
    Coupled (announce server info).streaming ((announce server info).sockets ≠ []) := by
  unfold announce
  dsimp only
  have full : ∀ streaming : Streaming,
      compressorRuns (MediaStream.sendFull streaming).compressorCalls =
        compressorRuns streaming.compressorCalls := by
    intro streaming
    exact compressor_runs_append _ _
  split_ifs
  · exact coupled_keeps coupled rfl rfl (full _) rfl Iff.rfl
  · exact coupled_keeps coupled rfl rfl rfl rfl Iff.rfl
  · exact coupled_keeps coupled rfl rfl (full _) rfl Iff.rfl
  · exact coupled_keeps coupled rfl rfl rfl rfl Iff.rfl

/-- A change of mode stops the streams and starts them in the other mode. -/
theorem switched_coupled (held : Following server) (isOpen : server.sockets ≠ []) (mode : Mode)
    (lib : Libav) :
    Coupled (switchMode server mode lib).streaming ((switchMode server mode lib).sockets ≠ []) := by
  have stopped : Coupled (clbStateCallback server .stopStreaming lib).streaming False :=
    coupled_stops held.coupled isOpen not_false (viewers server.clientList) server.host lib
  have between : Coupled
      { (clbStateCallback server .stopStreaming lib).streaming with mode := mode } False := by
    have off : ¬StreamingOn (clbStateCallback server .stopStreaming lib).streaming :=
      fun on => stopped.on_iff.mp on
    refine ⟨stopped.alternate, stopped.on_iff, ?_, stopped.encoder_iff⟩
    apply iff_of_false
    · intro runs
      exact off (stopped.compressor_iff.mp runs).1
    · rintro ⟨on, -⟩
      exact off on
  exact coupled_starts between not_false isOpen (viewers server.clientList) server.host lib

theorem msg_coupled (held : Following server) (member : client ∈ server.clientList.entries)
    (done : MsgDone server client json dbCall lib following) :
    Coupled following.streaming (following.sockets ≠ []) := by
  have isOpen : server.sockets ≠ [] :=
    sockets_ne_nil (held.tracks.listed.connected client.ws (List.mem_map_of_mem member))
  cases done with
  | idle => exact held.coupled
  | input input granted => exact held.coupled
  | authority addresses granted found updated =>
      exact coupled_keeps held.coupled rfl rfl rfl rfl Iff.rfl
  | chief addresses granted found updated =>
      exact coupled_keeps held.coupled rfl rfl rfl rfl Iff.rfl
  | accepted presents accepts =>
      have cleared := cleared_coupled held accepts
      exact announce_coupled cleared
  | rejected isSetting closed => exact closed_coupled held closed
  | mode isLoggedIn granted changed => exact switched_coupled held isOpen _ lib

theorem step_following {event : ServerEvent} (held : Following server)
    (meets : OneLoginAtATime server event) (stepped : step server event = some following) :
    Following following := by
  refine ⟨step_tracks held.tracks meets stepped, ?_⟩
  cases step_done stepped with
  | opens fresh => exact opened_coupled held meets _ _
  | messages isOpen found parsed done => exact msg_coupled held (find_ws_some found).1 done
  | closes isOpen closed => exact closed_coupled held closed
  | @packet bytes running written =>
      have wrote := mux_write_wrote (viewers server.clientList) server.streaming bytes
      exact coupled_keeps held.coupled wrote.mode wrote.callbacks
        (congrArg compressorRuns wrote.compressor) wrote.stopped Iff.rfl
  | resizes running =>
      rcases restart_encoder_controls _ _ _ _ _ with ⟨controls, runs⟩
      exact coupled_keeps held.coupled controls.mode controls.callbacks
        (congrArg compressorRuns controls.compressor) (runs.trans running.symm) Iff.rfl
  | hostChanges => exact held.coupled
  | databaseChanges => exact held.coupled

theorem start_following (db : Database) (host : ClbContext) (eCtx : EncoderContext)
    (audioBytes : Int) : Following (startServer db host eCtx audioBytes) := by
  refine ⟨start_tracks db host eCtx audioBytes, ?_⟩
  have off : ¬StreamingOn (startServer db host eCtx audioBytes).streaming := by
    intro on
    cases on
  constructor
  · constructor
    · intro state member
      cases member
    · exact List.isChain_nil
  · exact iff_of_false off (fun isOpen => isOpen rfl)
  · apply iff_of_false
    · intro runs
      cases runs
    · rintro ⟨on, -⟩
      exact off on
  · apply iff_of_false _ off
    intro runs
    cases runs

end Steps

/-- In every run whose events meet the condition, the callbacks alternate,
streaming is on, and the encoder running, exactly while a connection is open, and
the compressor runs exactly while streaming is on in image mode. -/
theorem callbacks_follow_connections (db : Database) (host : ClbContext) (eCtx : EncoderContext)
    (audioBytes : Int) (server : Server)
    (reached : Reaches step OneLoginAtATime (startServer db host eCtx audioBytes) server) :
    Alternate server.streaming.callbacks ∧
      (StreamingOn server.streaming ↔ server.sockets ≠ []) ∧
      (server.streaming.encoder.stopped = false ↔ StreamingOn server.streaming) ∧
      (compressorRuns server.streaming.compressorCalls = true ↔
        StreamingOn server.streaming ∧ server.streaming.mode = .image) := by
  have held : Following server := by
    apply invariant_of_step Following (start_following db host eCtx audioBytes) _ reached
    intro state event following before meets stepped
    exact step_following before meets stepped
  exact ⟨held.coupled.alternate, held.coupled.on_iff, held.coupled.encoder_iff,
    held.coupled.compressor_iff⟩

def modeSwitched : List ServerEvent :=
  [opensEvent 1, settingEvent 1 "a", modeEvent 1 "video", .closes 1 sampleLib]

theorem callbacks_follow_connections_mode_switched :
    Alternate (after step sampleServer modeSwitched).streaming.callbacks ∧
      (StreamingOn (after step sampleServer modeSwitched).streaming ↔
        (after step sampleServer modeSwitched).sockets ≠ []) ∧
      ((after step sampleServer modeSwitched).streaming.encoder.stopped = false ↔
        StreamingOn (after step sampleServer modeSwitched).streaming) ∧
      (compressorRuns (after step sampleServer modeSwitched).streaming.compressorCalls = true ↔
        StreamingOn (after step sampleServer modeSwitched).streaming ∧
          (after step sampleServer modeSwitched).streaming.mode = .image) := by
  apply callbacks_follow_connections sampleDatabase sampleHost (encoderContext .image sampleHost) 0
  apply reaches_after
  · apply along_cons rfl
    · rfl
    apply along_cons rfl
    · rintro ⟨client, json, mscode, custom, name, suited, found, same, -, mcode, -⟩
      rw [← Option.some.inj same, ← Option.some.inj found] at mcode
      exact absurd mcode (by decide)
    apply along_cons rfl
    · rintro ⟨client, json, mscode, custom, name, suited, found, same, identifier, -⟩
      rw [← Option.some.inj same] at identifier
      exact absurd identifier (by decide)
    exact along_cons rfl trivial trivial
  · rfl

/-- A second connection before the first one has logged in starts the streams
again, and once the first one has left they are stopped with the second open. -/
theorem second_connection_starts_again :
    Reaches step (fun _ _ => True) sampleServer (after step sampleServer twoOpen) ∧
      (after step sampleServer twoOpen).streaming.callbacks =
        [.startStreaming, .startStreaming] ∧
      ¬Alternate (after step sampleServer twoOpen).streaming.callbacks ∧
      (after step sampleServer (twoOpen ++ [.closes 1 sampleLib])).sockets = [2] ∧
      ¬StreamingOn (after step sampleServer (twoOpen ++ [.closes 1 sampleLib])).streaming := by
  refine ⟨reaches_after (along_of_forall (fun _ _ => trivial) _) rfl, rfl, ?_, rfl, ?_⟩
  · intro alternate
    exact absurd alternate.strict (by decide)
  · unfold StreamingOn
    decide

end Collabo.StreamingCallbacks
