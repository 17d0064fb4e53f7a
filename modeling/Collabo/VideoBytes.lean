import Collabo.Library.Deliveries
import Collabo.MemberMessages

/-!
# The video stream in bytes

`readPacket` keeps the first two packets of a session in the array `header` and
sends the later ones. The header goes out with INITVIDEO, at the second packet to
every client and later to a client that joins.
-/

namespace Collabo.VideoBytes

open ByteBuffer Deliveries Collabo.CInt Collabo.CString Collabo.ClientTable Collabo.MediaStream
  Collabo.MemberMessages Collabo.ListedConnections

set_option autoImplicit false

/-- `IO_BUFFER_SIZE`, the most that the muxer hands over at once. -/
def ioBufferSize : Nat := 4096

def headerRoom : Nat := 10000

/-- `header` is the memory of the array. `sent` is what has been sent so far. -/
structure Statics where
  clbCtx : ClbContext
  firstCount : Nat
  header : Nat → UInt8
  headerSize : Nat
  sent : List (WebSocket × ByteString)

/-- The time of the call in milliseconds, and the memory that `new` gives. -/
structure Call where
  current : Int
  heap : Nat → UInt8

def messageOf (buffer : Option Buffer) (heap : Nat → UInt8) : Outcome ByteString :=
  match buffer with
  | some buffer => .done (buffer.message heap)
  | none => .undefined .overrun

def videoInitMsg (statics : Statics) (call : Call) : Outcome ByteString :=
  messageOf
    (allocated (19 + statics.headerSize) (19 + statics.headerSize)
      [{ place := 0, items := [MsgIdentifier.initVideo.byte] },
        { place := 1, items := longBytes call.current },
        { place := 9, items := [flag statics.clbCtx.isVideoEnabled] },
        { place := 10, items := [flag statics.clbCtx.isAudioEnabled] },
        { place := 11, items := intBytes statics.clbCtx.width },
        { place := 15, items := intBytes statics.clbCtx.height },
        { place := 19, items := readOut statics.header statics.headerSize }])
    call.heap

def sendVideoInitMsg (statics : Statics) (call : Call) (ws : WebSocket) : Outcome Statics :=
  (videoInitMsg statics call).bind fun msg =>
    .done { statics with sent := statics.sent ++ [(ws, msg)] }

def sendVideoInitMsgAll (statics : Statics) (call : Call) (clientList : ClientList) :
    Outcome Statics :=
  (videoInitMsg statics call).bind fun msg =>
    .done { statics with sent := statics.sent ++ broadcast (viewers clientList) msg }

def sendVideoPktAll (statics : Statics) (call : Call) (clientList : ClientList)
    (buf : ByteString) : Outcome Statics :=
  (messageOf
    (allocated (9 + buf.length) (9 + buf.length)
      [{ place := 0, items := [MsgIdentifier.decodeVideo.byte] },
        { place := 1, items := longBytes call.current },
        { place := 9, items := buf }])
    call.heap).bind fun msg =>
    .done { statics with sent := statics.sent ++ broadcast (viewers clientList) msg }

/-- `memcpy(header+headerSize, buf, size)` and the sum after it. -/
def copyHeader (statics : Statics) (buf : ByteString) : Outcome Statics :=
  if statics.headerSize + buf.length ≤ headerRoom then
    .done { statics with
      header := contents statics.header [{ place := statics.headerSize, items := buf }]
      headerSize := statics.headerSize + buf.length }
  else .undefined .overrun

def readPacket (statics : Statics) (call : Call) (clientList : ClientList) (buf : ByteString) :
    Outcome Statics :=
  if statics.firstCount < 2 then
    (copyHeader statics buf).bind fun copied =>
      let counted := { copied with firstCount := copied.firstCount + 1 }
      if counted.firstCount = 2 then sendVideoInitMsgAll counted call clientList
      else .done counted
  else sendVideoPktAll statics call clientList buf

def startStreaming (statics : Statics) (mode : Mode) (mClbCtx : ClbContext) : Statics :=
  { statics with
    clbCtx :=
      match mode with
      | .video => { mClbCtx with isAudioEnabled := true, isVideoEnabled := true }
      | .image => { mClbCtx with isAudioEnabled := true, isVideoEnabled := false }
    firstCount := 0
    headerSize := 0 }

/-- `joins` is the end of a SETTING that was accepted. -/
inductive StreamEvent where
  | startStreaming (mode : Mode) (mClbCtx : ClbContext)
  | readPacket (call : Call) (clientList : ClientList) (buf : ByteString)
  | joins (call : Call) (ws : WebSocket)

def step (statics : Statics) : StreamEvent → Outcome Statics
  | .startStreaming mode mClbCtx => .done (startStreaming statics mode mClbCtx)
  | .readPacket call clientList buf => readPacket statics call clientList buf
  | .joins call ws =>
      if statics.firstCount = 2 then sendVideoInitMsg statics call ws else .done statics

def run (statics : Statics) : List StreamEvent → Outcome Statics
  | [] => .done statics
  | event :: rest => (step statics event).bind fun following => run following rest

def programStart (clbCtx : ClbContext) : Statics where
  clbCtx := clbCtx
  firstCount := 0
  header _ := 0
  headerSize := 0
  sent := []

def packetsFrom : List ByteString → List StreamEvent → List ByteString
  | packets, [] => packets
  | _, .startStreaming _ _ :: rest => packetsFrom [] rest
  | packets, .readPacket _ _ buf :: rest => packetsFrom (packets ++ [buf]) rest
  | packets, .joins _ _ :: rest => packetsFrom packets rest

def FitsIoBuffer : StreamEvent → Prop
  | .startStreaming _ _ => True
  | .readPacket _ _ buf => buf.length ≤ ioBufferSize
  | .joins _ _ => True

/-- The array holds the first two packets, and the counter says how many. -/
structure Framed (statics : Statics) (packets : List ByteString) : Prop where
  counted : statics.firstCount = min packets.length 2
  size : statics.headerSize = (packets.take 2).flatten.length
  bytes : readOut statics.header statics.headerSize = (packets.take 2).flatten

section Receiving

def headerOf (msg : ByteString) : ByteString := msg.drop 19

def payloadOf (msg : ByteString) : ByteString := msg.drop 9

def isInitVideo (msg : ByteString) : Bool := msg.head? = some MsgIdentifier.initVideo.byte

def isDecodeVideo (msg : ByteString) : Bool := msg.head? = some MsgIdentifier.decodeVideo.byte

def streamBytes (msgs : List ByteString) : ByteString :=
  ((msgs.filter isInitVideo).map headerOf).flatten ++
    ((msgs.filter isDecodeVideo).map payloadOf).flatten

end Receiving

section Messages

variable {statics : Statics} {packets : List ByteString} {buf : ByteString}

def initPieces (clbCtx : ClbContext) (current : Int) (header : ByteString) : List ByteString :=
  [[MsgIdentifier.initVideo.byte], longBytes current, [flag clbCtx.isVideoEnabled],
    [flag clbCtx.isAudioEnabled], intBytes clbCtx.width, intBytes clbCtx.height, header]

def decodePieces (current : Int) (buf : ByteString) : List ByteString :=
  [[MsgIdentifier.decodeVideo.byte], longBytes current, buf]

theorem long_bytes_length (value : Int) : (longBytes value).length = 8 := rfl

theorem init_pieces_length (clbCtx : ClbContext) (current : Int) (header : ByteString) :
    (initPieces clbCtx current header).flatten.length = 19 + header.length := by
  simp [initPieces, long_bytes_length, int_bytes_length]
  omega

theorem decode_pieces_length (current : Int) (buf : ByteString) :
    (decodePieces current buf).flatten.length = 9 + buf.length := by
  simp [decodePieces, long_bytes_length]
  omega

theorem read_out_length (memory : Nat → UInt8) (size : Nat) :
    (readOut memory size).length = size := by
  simp [readOut]

theorem filled_message_of {pieces : List ByteString} {writes : List (Write UInt8)} {size : Int}
    (laid : writes = laidOut 0 pieces) (same : size = pieces.flatten.length)
    (small : size < 2 ^ 31) (heap : Nat → UInt8) :
    messageOf (allocated size size writes) heap = .done pieces.flatten := by
  rw [allocated_filled laid same small, messageOf, filled_message]

theorem video_init_msg_eq (small : statics.headerSize ≤ headerRoom) (call : Call) :
    videoInitMsg statics call =
      .done (initPieces statics.clbCtx call.current
        (readOut statics.header statics.headerSize)).flatten := by
  unfold headerRoom at small
  apply filled_message_of
  · rfl
  · rw [init_pieces_length, read_out_length]
    rfl
  · omega

def packetMsgs (clbCtx : ClbContext) (call : Call) (packets : List ByteString) (buf : ByteString) :
    List ByteString :=
  if packets.length = 0 then []
  else if packets.length = 1 then
    [(initPieces clbCtx call.current (packets ++ [buf]).flatten).flatten]
  else [(decodePieces call.current buf).flatten]

theorem send_video_pkt_all_eq (small : buf.length ≤ ioBufferSize) (statics : Statics) (call : Call)
    (clientList : ClientList) :
    sendVideoPktAll statics call clientList buf =
      .done { statics with
        sent := statics.sent ++
          broadcast (viewers clientList) (decodePieces call.current buf).flatten } := by
  unfold ioBufferSize at small
  unfold sendVideoPktAll
  rw [@filled_message_of (decodePieces call.current buf)]
  · rfl
  · rfl
  · rw [decode_pieces_length]
    rfl
  · omega

theorem framed_small (framed : Framed statics packets)
    (small : ∀ packet ∈ packets, packet.length ≤ ioBufferSize) :
    statics.headerSize ≤ statics.firstCount * ioBufferSize := by
  rw [framed.size, framed.counted]
  match packets, small with
  | [], _ => simp
  | [first], small =>
      have one := small first (by simp)
      simp
      omega
  | first :: second :: rest, small =>
      have one := small first (by simp)
      have two := small second (by simp)
      simp
      omega

theorem copy_header_framed (framed : Framed statics packets) (few : packets.length < 2)
    (small : ∀ packet ∈ packets, packet.length ≤ ioBufferSize) (fits : buf.length ≤ ioBufferSize) :
    ∃ copied, copyHeader statics buf = .done copied ∧ copied.sent = statics.sent ∧
      copied.clbCtx = statics.clbCtx ∧ copied.firstCount = packets.length ∧
      copied.headerSize = (packets ++ [buf]).flatten.length ∧
      readOut copied.header copied.headerSize = (packets ++ [buf]).flatten := by
  have room := framed_small framed small
  have counted := framed.counted
  have size := framed.size
  have bytes := framed.bytes
  rw [Nat.min_eq_left (by omega)] at counted
  rw [List.take_of_length_le (by omega)] at size bytes
  have inside : statics.headerSize + buf.length ≤ headerRoom := by
    have one : statics.firstCount * ioBufferSize ≤ 1 * ioBufferSize :=
      Nat.mul_le_mul_right ioBufferSize (by omega)
    unfold headerRoom
    unfold ioBufferSize at *
    omega
  unfold copyHeader
  rw [if_pos inside]
  refine ⟨_, rfl, rfl, rfl, counted, ?_, ?_⟩
  · rw [List.flatten_append, List.length_append, ← size]
    simp
  · rw [List.flatten_append, ← bytes]
    dsimp only
    rw [read_out_behind]
    simp

theorem copy_header_room {copied : Statics} (copies : copyHeader statics buf = .done copied) :
    copied.headerSize ≤ headerRoom := by
  unfold copyHeader at copies
  split at copies
  · next inside =>
      rw [← Outcome.done.inj copies]
      exact inside
  · cases copies

/-- One call keeps the array what it is to be, and sends to every client. -/
theorem read_packet_framed (framed : Framed statics packets)
    (small : ∀ packet ∈ packets, packet.length ≤ ioBufferSize) (fits : buf.length ≤ ioBufferSize)
    (call : Call) (clientList : ClientList) :
    ∃ following, readPacket statics call clientList buf = .done following ∧
      Framed following (packets ++ [buf]) ∧ following.clbCtx = statics.clbCtx ∧
      following.sent = statics.sent ++
        (packetMsgs statics.clbCtx call packets buf).flatMap (broadcast (viewers clientList)) := by
  have counted := framed.counted
  have longer : (packets ++ [buf]).length = packets.length + 1 := by simp
  unfold readPacket packetMsgs
  by_cases few : packets.length < 2
  · rw [if_pos (by omega)]
    obtain ⟨copied, copies, sent, clbCtx, count, size, bytes⟩ :=
      copy_header_framed framed few small fits
    rw [copies, Outcome.bind]
    have whole : (packets ++ [buf]).take 2 = packets ++ [buf] :=
      List.take_of_length_le (by omega)
    dsimp only
    by_cases second : packets.length = 1
    · have room := copy_header_room copies
      rw [if_pos (by omega), if_neg (by omega), if_pos second]
      unfold sendVideoInitMsgAll
      rw [video_init_msg_eq (by exact room), Outcome.bind]
      refine ⟨_, rfl, ⟨?_, ?_, ?_⟩, clbCtx, ?_⟩
      · dsimp only
        omega
      · rw [whole]
        exact size
      · rw [whole]
        exact bytes
      · dsimp only
        rw [sent, clbCtx, bytes]
        simp
    · rw [if_neg (by omega), if_pos (by omega)]
      refine ⟨_, rfl, ⟨?_, ?_, ?_⟩, clbCtx, ?_⟩
      · dsimp only
        omega
      · rw [whole]
        exact size
      · rw [whole]
        exact bytes
      · rw [sent]
        simp
  · rw [if_neg (by omega), if_neg (by omega), if_neg (by omega), send_video_pkt_all_eq fits]
    have kept : (packets ++ [buf]).take 2 = packets.take 2 :=
      List.take_append_of_le_length (by omega)
    refine ⟨_, rfl, ⟨?_, ?_, ?_⟩, rfl, ?_⟩
    · dsimp only
      omega
    · rw [kept]
      exact framed.size
    · rw [kept]
      exact framed.bytes
    · simp

end Messages

section Runs

variable {statics : Statics} {packets : List ByteString} {event : StreamEvent}

def AllFit (packets : List ByteString) : Prop := ∀ packet ∈ packets, packet.length ≤ ioBufferSize

theorem all_fit_append {packet : ByteString} (small : AllFit packets)
    (fits : packet.length ≤ ioBufferSize) : AllFit (packets ++ [packet]) := by
  intro other member
  rcases List.mem_append.mp member with before | added
  · exact small other before
  · rw [List.mem_singleton.mp added]
    exact fits

theorem packets_from_fit {events : List StreamEvent} (small : AllFit packets)
    (fits : ∀ event ∈ events, FitsIoBuffer event) : AllFit (packetsFrom packets events) := by
  induction events generalizing packets with
  | nil => exact small
  | cons event rest induction =>
      have later : ∀ event ∈ rest, FitsIoBuffer event :=
        fun other member => fits other (List.mem_cons_of_mem event member)
      have head := fits event List.mem_cons_self
      cases event with
      | startStreaming mode mClbCtx => exact induction (by simp [AllFit]) later
      | joins call ws => exact induction small later
      | readPacket call clientList buf => exact induction (all_fit_append small head) later

theorem packets_from_append (first rest : List StreamEvent) :
    packetsFrom packets (first ++ rest) = packetsFrom (packetsFrom packets first) rest := by
  induction first generalizing packets with
  | nil => rfl
  | cons event later induction =>
      cases event with
      | startStreaming mode mClbCtx => exact induction
      | joins call ws => exact induction
      | readPacket call clientList buf => exact induction

theorem run_append (first rest : List StreamEvent) :
    run statics (first ++ rest) = (run statics first).bind fun following => run following rest := by
  induction first generalizing statics with
  | nil => rfl
  | cons event later induction =>
      rw [List.cons_append, run, run]
      cases step statics event with
      | done following => exact induction
      | throws => rfl
      | undefined fault => rfl

theorem joins_framed (framed : Framed statics packets) (small : AllFit packets) (call : Call)
    (ws : WebSocket) :
    ∃ following, step statics (.joins call ws) = .done following ∧ Framed following packets ∧
      ∀ other, other ≠ ws → received following.sent other = received statics.sent other := by
  by_cases complete : statics.firstCount = 2
  · have room : statics.headerSize ≤ headerRoom := by
      have bound := framed_small framed small
      rw [complete] at bound
      unfold headerRoom
      unfold ioBufferSize at bound
      omega
    simp only [step, if_pos complete]
    unfold sendVideoInitMsg
    rw [video_init_msg_eq room]
    refine ⟨_, rfl, ⟨framed.counted, framed.size, framed.bytes⟩, ?_⟩
    intro other different
    dsimp only
    rw [received_append]
    simp [received, different.symm]
  · simp only [step, if_neg complete]
    exact ⟨statics, rfl, framed, fun _ _ => rfl⟩

theorem step_framed (framed : Framed statics packets) (small : AllFit packets)
    (fits : FitsIoBuffer event) :
    ∃ following, step statics event = .done following ∧
      Framed following (packetsFrom packets [event]) := by
  cases event with
  | startStreaming mode mClbCtx => exact ⟨_, rfl, rfl, rfl, rfl⟩
  | joins call ws =>
      obtain ⟨following, stepped, after, -⟩ := joins_framed framed small call ws
      exact ⟨following, stepped, after⟩
  | readPacket call clientList buf =>
      obtain ⟨following, stepped, after, -, -⟩ :=
        read_packet_framed framed small fits call clientList
      exact ⟨following, stepped, after⟩

theorem run_framed {events : List StreamEvent} (framed : Framed statics packets)
    (small : AllFit packets) (fits : ∀ event ∈ events, FitsIoBuffer event) :
    ∃ following, run statics events = .done following ∧
      Framed following (packetsFrom packets events) := by
  induction events generalizing statics packets with
  | nil => exact ⟨statics, rfl, framed⟩
  | cons event rest induction =>
      have head := fits event List.mem_cons_self
      obtain ⟨following, stepped, after⟩ := step_framed framed small head
      have smaller : AllFit (packetsFrom packets [event]) :=
        packets_from_fit small (by simpa using head)
      obtain ⟨last, ran, framedLast⟩ := induction after smaller
        (fun other member => fits other (List.mem_cons_of_mem event member))
      refine ⟨last, ?_, ?_⟩
      · rw [run, stepped]
        exact ran
      · rw [← List.singleton_append, packets_from_append]
        exact framedLast

end Runs

section Sessions

variable {packets : List ByteString} {msgs : List ByteString} {ws : WebSocket}

/-- The event is one of a session during which the client is logged in: it has one
entry with a role, and the end of its own SETTING lies before. -/
def LoggedIn (ws : WebSocket) : StreamEvent → Prop
  | .startStreaming _ _ => False
  | .readPacket _ clientList _ => (viewers clientList).count ws = 1
  | .joins _ other => other ≠ ws

theorem viewer_logged_in {server : CollaboServer.Server} (listed : Listed server)
    (viewing : ws ∈ viewers server.clientList) (call : Call) (buf : ByteString) :
    LoggedIn ws (.readPacket call server.clientList buf) := by
  apply List.count_eq_one_of_mem _ viewing
  exact listed.distinct.sublist (List.filter_sublist.map Client.ws)

def InitVideoOf (msg header : ByteString) : Prop :=
  ∃ clbCtx current, msg = (initPieces clbCtx current header).flatten

def DecodeVideoOf (msg payload : ByteString) : Prop :=
  ∃ current, msg = (decodePieces current payload).flatten

def Delivered (packets msgs : List ByteString) : Prop :=
  packets.length < 2 ∧ msgs = [] ∨
    2 ≤ packets.length ∧ ∃ init decodes, msgs = init :: decodes ∧
      InitVideoOf init (packets.take 2).flatten ∧
      List.Forall₂ DecodeVideoOf decodes (packets.drop 2)

theorem packet_delivered (delivered : Delivered packets msgs) (clbCtx : ClbContext) (call : Call)
    (buf : ByteString) :
    Delivered (packets ++ [buf]) (msgs ++ packetMsgs clbCtx call packets buf) := by
  have longer : (packets ++ [buf]).length = packets.length + 1 := by simp
  unfold packetMsgs
  rcases delivered with ⟨few, rfl⟩ | ⟨complete, init, decodes, rfl, initial, later⟩
  · by_cases none : packets.length = 0
    · rw [if_pos none]
      exact .inl ⟨by omega, rfl⟩
    · rw [if_neg none, if_pos (by omega)]
      refine .inr ⟨by omega, _, [], rfl, ⟨clbCtx, call.current, ?_⟩, ?_⟩
      · rw [List.take_of_length_le (by omega)]
      · rw [List.drop_of_length_le (by omega)]
        exact .nil
  · rw [if_neg (by omega), if_neg (by omega)]
    refine .inr ⟨by omega, init, decodes ++ [(decodePieces call.current buf).flatten], rfl, ?_, ?_⟩
    · rw [List.take_append_of_le_length complete]
      exact initial
    · rw [List.drop_append_of_le_length complete]
      exact List.rel_append later (.cons ⟨call.current, rfl⟩ .nil)

theorem received_once {clientList : ClientList} (once : (viewers clientList).count ws = 1)
    (log : List (WebSocket × ByteString)) :
    received (log ++ msgs.flatMap (broadcast (viewers clientList))) ws =
      received log ws ++ msgs := by
  rw [received_append, received_broadcasts, once]
  congr 1
  induction msgs with
  | nil => rfl
  | cons msg rest induction =>
      rw [List.flatMap_cons, induction]
      rfl

theorem session_delivered {session : List StreamEvent} {statics : Statics}
    (framed : Framed statics packets) (small : AllFit packets)
    (fits : ∀ event ∈ session, FitsIoBuffer event)
    (loggedIn : ∀ event ∈ session, LoggedIn ws event) (delivered : Delivered packets msgs) :
    ∃ following added, run statics session = .done following ∧
      received following.sent ws = received statics.sent ws ++ added ∧
      Delivered (packetsFrom packets session) (msgs ++ added) := by
  induction session generalizing statics packets msgs with
  | nil =>
      refine ⟨statics, [], rfl, (List.append_nil _).symm, ?_⟩
      rw [List.append_nil]
      exact delivered
  | cons event rest induction =>
      have fitsRest : ∀ event ∈ rest, FitsIoBuffer event :=
        fun other member => fits other (List.mem_cons_of_mem event member)
      have inRest : ∀ event ∈ rest, LoggedIn ws event :=
        fun other member => loggedIn other (List.mem_cons_of_mem event member)
      have fit := fits event List.mem_cons_self
      have isIn := loggedIn event List.mem_cons_self
      cases event with
      | startStreaming mode mClbCtx => cases isIn
      | joins call other =>
          obtain ⟨following, stepped, after, others⟩ := joins_framed framed small call other
          obtain ⟨last, added, ran, received, all⟩ :=
            induction after small fitsRest inRest delivered
          refine ⟨last, added, ?_, ?_, all⟩
          · rw [run, stepped]
            exact ran
          · rw [received, others ws (Ne.symm isIn)]
      | readPacket call clientList buf =>
          obtain ⟨following, stepped, after, -, sent⟩ :=
            read_packet_framed framed small fit call clientList
          have smaller : AllFit (packets ++ [buf]) := all_fit_append small fit
          have more := packet_delivered delivered statics.clbCtx call buf
          obtain ⟨last, added, ran, received, all⟩ := induction after smaller fitsRest inRest more
          refine ⟨last, packetMsgs statics.clbCtx call packets buf ++ added, ?_, ?_, ?_⟩
          · rw [run, step, stepped]
            exact ran
          · rw [received, sent, received_once isIn, List.append_assoc]
          · rw [← List.append_assoc]
            exact all

theorem header_of_init {msg header : ByteString} (init : InitVideoOf msg header) :
    headerOf msg = header ∧ isInitVideo msg = true ∧ isDecodeVideo msg = false := by
  obtain ⟨clbCtx, current, rfl⟩ := init
  exact ⟨List.append_nil header, rfl, rfl⟩

theorem payload_of_decode {msg payload : ByteString} (decode : DecodeVideoOf msg payload) :
    payloadOf msg = payload ∧ isInitVideo msg = false ∧ isDecodeVideo msg = true := by
  obtain ⟨current, rfl⟩ := decode
  exact ⟨List.append_nil payload, rfl, rfl⟩

theorem decodes_payloads {decodes payloads : List ByteString}
    (each : List.Forall₂ DecodeVideoOf decodes payloads) :
    decodes.filter isInitVideo = [] ∧ decodes.filter isDecodeVideo = decodes ∧
      decodes.map payloadOf = payloads := by
  induction each with
  | nil => exact ⟨rfl, rfl, rfl⟩
  | cons decode _ induction =>
      obtain ⟨payload, notInit, isDecode⟩ := payload_of_decode decode
      obtain ⟨inits, decodes, payloads⟩ := induction
      refine ⟨?_, ?_, ?_⟩
      · rw [List.filter_cons_of_neg (by simpa using notInit), inits]
      · rw [List.filter_cons_of_pos isDecode, decodes]
      · rw [List.map_cons, payload, payloads]

/-- A client that has the header has every packet, in order. -/
theorem delivered_stream (delivered : Delivered packets msgs) (complete : 2 ≤ packets.length) :
    (∃ init decodes, msgs = init :: decodes ∧ isInitVideo init = true ∧
        ∀ decode ∈ decodes, isDecodeVideo decode = true) ∧
      streamBytes msgs = packets.flatten := by
  rcases delivered with ⟨few, -⟩ | ⟨-, init, decodes, rfl, initial, later⟩
  · omega
  · obtain ⟨header, isInit, notDecode⟩ := header_of_init initial
    obtain ⟨noInits, allDecodes, payloads⟩ := decodes_payloads later
    refine ⟨⟨init, decodes, rfl, isInit, List.filter_eq_self.mp allDecodes⟩, ?_⟩
    unfold streamBytes
    rw [List.filter_cons_of_pos isInit, List.filter_cons_of_neg (by simpa using notDecode), noInits,
      allDecodes, payloads, List.map_singleton, List.flatten_singleton, header,
      ← List.flatten_append, List.take_append_drop]

end Sessions

section Streams

def HeaderKept (clbCtx : ClbContext) (events : List StreamEvent) : Prop :=
  let packets := packetsFrom [] events
  ∃ statics, run (programStart clbCtx) events = .done statics ∧ statics.headerSize ≤ headerRoom ∧
    readOut statics.header statics.headerSize = (packets.take (min packets.length 2)).flatten

def SessionMsgs (clbCtx : ClbContext) (earlier session : List StreamEvent) (ws : WebSocket)
    (msgs : List ByteString) : Prop :=
  ∃ before statics, run (programStart clbCtx) earlier = .done before ∧
    run before session = .done statics ∧
    received statics.sent ws = received before.sent ws ++ msgs

/-- A client is sent nothing before the second packet of a session. From then on it
has one INITVIDEO, in front of its DECODEVIDEO messages, and the bytes of all
packets. -/
structure StreamKept (packets msgs : List ByteString) : Prop where
  before : packets.length < 2 → msgs = []
  first : 2 ≤ packets.length → ∃ init decodes, msgs = init :: decodes ∧ isInitVideo init = true ∧
    ∀ decode ∈ decodes, isDecodeVideo decode = true
  whole : 2 ≤ packets.length → streamBytes msgs = packets.flatten

theorem delivered_kept {packets msgs : List ByteString} (delivered : Delivered packets msgs) :
    StreamKept packets msgs := by
  constructor
  · intro few
    rcases delivered with ⟨-, nothing⟩ | ⟨complete, -⟩
    · exact nothing
    · omega
  · intro complete
    exact (delivered_stream delivered complete).1
  · intro complete
    exact (delivered_stream delivered complete).2

/-- In every sequence of calls the header keeps its two packets, and in every
session the stream of a client that is logged in throughout is whole from its
second packet on. -/
theorem streams_kept (clbCtx : ClbContext) (events : List StreamEvent)
    (fits : ∀ event ∈ events, FitsIoBuffer event) :
    HeaderKept clbCtx events ∧
      ∀ earlier mode mClbCtx session ws,
        events = earlier ++ .startStreaming mode mClbCtx :: session →
        (∀ event ∈ session, LoggedIn ws event) →
        ∃ msgs, SessionMsgs clbCtx (earlier ++ [.startStreaming mode mClbCtx]) session ws msgs ∧
          StreamKept (packetsFrom [] events) msgs := by
  have start : Framed (programStart clbCtx) [] := ⟨rfl, rfl, rfl⟩
  have none : AllFit [] := by simp [AllFit]
  constructor
  · obtain ⟨statics, ran, framed⟩ := run_framed start none fits
    have bound := framed_small framed (packets_from_fit none fits)
    refine ⟨statics, ran, ?_, ?_⟩
    · have counted := framed.counted
      have two : statics.firstCount * ioBufferSize ≤ 2 * ioBufferSize :=
        Nat.mul_le_mul_right ioBufferSize (by omega)
      unfold headerRoom
      unfold ioBufferSize at *
      omega
    · rw [framed.bytes, Nat.min_comm, ← List.take_eq_take_min]
  · rintro earlier mode mClbCtx session ws rfl loggedIn
    have split : earlier ++ .startStreaming mode mClbCtx :: session =
        (earlier ++ [.startStreaming mode mClbCtx]) ++ session := by simp
    rw [split] at fits ⊢
    have fitsEarlier := fun event member => fits event (List.mem_append_left session member)
    have fitsSession := fun event member => fits event
      (List.mem_append_right (earlier ++ [.startStreaming mode mClbCtx]) member)
    obtain ⟨before, ran, framed⟩ := run_framed start none fitsEarlier
    have reset : packetsFrom [] (earlier ++ [.startStreaming mode mClbCtx]) = [] := by
      rw [packets_from_append]
      rfl
    rw [reset] at framed
    obtain ⟨statics, msgs, onward, received, delivered⟩ :=
      @session_delivered [] [] ws session before framed none fitsSession loggedIn
        (.inl ⟨by simp, rfl⟩)
    refine ⟨msgs, ⟨before, statics, ran, onward, received⟩, ?_⟩
    rw [packets_from_append, reset]
    exact delivered_kept delivered

def sampleViewers : ClientList :=
  UniqueTable.Table.empty.insert { connected 7 with role := 0, mcode := ascii "a" }

def sampleCall : Call where
  current := 0
  heap _ := 0

def sampleContext : ClbContext where
  isVideoEnabled := true
  isAudioEnabled := true
  width := 640
  height := 480
  samplerate := 48000
  channels := 1
  isSilent := false

def sampleReads (packets : List ByteString) : List StreamEvent :=
  packets.map (.readPacket sampleCall sampleViewers)

theorem streams_kept_three_packets :
    ∃ msgs, SessionMsgs sampleContext [.startStreaming .video sampleContext]
        (sampleReads [[1, 2], [], [3]]) 7 msgs ∧ StreamKept [[1, 2], [], [3]] msgs := by
  have fits : ∀ event ∈ .startStreaming .video sampleContext :: sampleReads [[1, 2], [], [3]],
      FitsIoBuffer event := by
    intro event member
    simp only [sampleReads, List.map_cons, List.map_nil, List.mem_cons, List.not_mem_nil,
      or_false] at member
    rcases member with rfl | rfl | rfl | rfl
    · trivial
    · show (2 : Nat) ≤ 4096
      omega
    · show (0 : Nat) ≤ 4096
      omega
    · show (1 : Nat) ≤ 4096
      omega
  have loggedIn : ∀ event ∈ sampleReads [[1, 2], [], [3]], LoggedIn 7 event := by
    intro event member
    obtain ⟨packet, -, rfl⟩ := List.mem_map.mp member
    show (viewers sampleViewers).count 7 = 1
    decide
  exact (streams_kept sampleContext _ fits).2 [] .video sampleContext _ 7 rfl loggedIn

/-- A session of one packet: the client is logged in and is sent nothing of it. -/
theorem one_packet_not_sent :
    SessionMsgs sampleContext [.startStreaming .video sampleContext] (sampleReads [[1]]) 7 [] ∧
      (∀ event ∈ sampleReads [[1]], LoggedIn 7 event) ∧
      streamBytes [] ≠
        (packetsFrom [] (.startStreaming .video sampleContext :: sampleReads [[1]])).flatten := by
  refine ⟨⟨_, _, rfl, rfl, rfl⟩, ?_, by decide⟩
  intro event member
  obtain ⟨packet, -, rfl⟩ := List.mem_map.mp member
  show (viewers sampleViewers).count 7 = 1
  decide

end Streams

section Refinement

variable {statics : Statics} {packets : List ByteString} {streaming : Streaming}

def Encodes : StcMsg → ByteString → Prop
  | .initVideo init, msg =>
      ∃ clbCtx current, init.isVideoEnabled = clbCtx.isVideoEnabled ∧
        init.isAudioEnabled = clbCtx.isAudioEnabled ∧ init.width = clbCtx.width ∧
        init.height = clbCtx.height ∧
        msg = (initPieces clbCtx current (init.header.map Packet.bytes).flatten).flatten
  | .decodeVideo packet, msg => DecodeVideoOf msg packet.bytes
  | .authProcess _ _, _ => False
  | .chiefProcess _ _, _ => False
  | .accessMemberProcess _, _ => False
  | .connectedMemberInfoProcess _ _, _ => False

def isVideoMsg : StcMsg → Bool
  | .initVideo _ => true
  | .decodeVideo _ => true
  | .authProcess _ _ => false
  | .chiefProcess _ _ => false
  | .accessMemberProcess _ => false
  | .connectedMemberInfoProcess _ _ => false

def videoSent (sent : List (WebSocket × StcMsg)) : List (WebSocket × StcMsg) :=
  sent.filter fun delivery => isVideoMsg delivery.2

def SentAs (bytes : WebSocket × ByteString) (delivery : WebSocket × StcMsg) : Prop :=
  bytes.1 = delivery.1 ∧ Encodes delivery.2 bytes.2

/-- The statics are those of the model with packets and messages, in bytes. -/
structure Represents (packets : List ByteString) (statics : Statics) (streaming : Streaming) :
    Prop where
  framed : Framed statics packets
  small : AllFit packets
  clbCtx : statics.clbCtx = streaming.clbCtx
  firstCount : statics.firstCount = streaming.firstCount
  header : streaming.header.map Packet.bytes = packets.take 2
  sent : List.Forall₂ SentAs statics.sent (videoSent streaming.sent)

theorem broadcast_encodes {msg : StcMsg} {bytes : ByteString} (encodes : Encodes msg bytes)
    (receivers : List WebSocket) :
    List.Forall₂ SentAs (broadcast receivers bytes) (broadcast receivers msg) := by
  induction receivers with
  | nil => exact .nil
  | cons ws rest induction => exact .cons ⟨rfl, encodes⟩ induction

theorem broadcast_represents {log : List (WebSocket × ByteString)}
    {sent : List (WebSocket × StcMsg)} {msg : StcMsg} {bytes : ByteString}
    (represents : List.Forall₂ SentAs log (videoSent sent)) (video : isVideoMsg msg = true)
    (encodes : Encodes msg bytes) (receivers : List WebSocket) :
    List.Forall₂ SentAs (log ++ broadcast receivers bytes)
      (videoSent (sent ++ broadcast receivers msg)) := by
  have all : videoSent (broadcast receivers msg) = broadcast receivers msg := by
    apply List.filter_eq_self.mpr
    intro delivery member
    obtain ⟨ws, -, rfl⟩ := List.mem_map.mp member
    exact video
  unfold videoSent at all ⊢
  rw [List.filter_append, all]
  exact List.rel_append represents (broadcast_encodes encodes receivers)

theorem init_encodes {clbCtx : ClbContext} {init : VideoInit} {header : ByteString}
    (same : (init.header.map Packet.bytes).flatten = header)
    (sizes : init.isVideoEnabled = clbCtx.isVideoEnabled ∧
      init.isAudioEnabled = clbCtx.isAudioEnabled ∧ init.width = clbCtx.width ∧
      init.height = clbCtx.height) (current : Int) :
    Encodes (.initVideo init) (initPieces clbCtx current header).flatten := by
  obtain ⟨video, audio, width, height⟩ := sizes
  refine ⟨clbCtx, current, video, audio, width, height, ?_⟩
  rw [same]

/-- `readPacket` on the bytes does what it does on the packets. -/
theorem read_packet_represents (represents : Represents packets statics streaming)
    {packet : Packet} (fits : packet.bytes.length ≤ ioBufferSize) (call : Call)
    (clientList : ClientList) :
    ∃ following, readPacket statics call clientList packet.bytes = .done following ∧
      Represents (packets ++ [packet.bytes]) following
        (MediaStream.readPacket (viewers clientList) streaming packet) := by
  obtain ⟨following, read, framed, clbCtx, sent⟩ :=
    read_packet_framed represents.framed represents.small fits call clientList
  have counted := represents.framed.counted
  have firstCount := represents.firstCount
  have small : AllFit (packets ++ [packet.bytes]) := all_fit_append represents.small fits
  have longer : (packets ++ [packet.bytes]).length = packets.length + 1 := by simp
  have after := framed.counted
  refine ⟨following, read, ?_⟩
  unfold MediaStream.readPacket
  unfold packetMsgs at sent
  by_cases few : packets.length < 2
  · have header : (streaming.header ++ [packet]).map Packet.bytes =
        (packets ++ [packet.bytes]).take 2 := by
      rw [List.map_append, represents.header, List.take_of_length_le (by omega),
        List.take_of_length_le (by omega)]
      rfl
    rw [if_pos (by omega)]
    dsimp only
    by_cases second : packets.length = 1
    · rw [if_pos (by omega)]
      rw [if_neg (by omega), if_pos second] at sent
      refine ⟨framed, small, clbCtx.trans represents.clbCtx, ?_, header, ?_⟩
      · rw [after]
        dsimp only [MediaStream.sendVideoInitMsgAll, sendAll]
        omega
      · rw [sent, List.flatMap_singleton]
        apply broadcast_represents represents.sent rfl
        have whole : (packets ++ [packet.bytes]).take 2 = packets ++ [packet.bytes] :=
          List.take_of_length_le (by omega)
        apply init_encodes
        · rw [← whole, ← header]
          rfl
        · rw [represents.clbCtx]
          exact ⟨rfl, rfl, rfl, rfl⟩
    · rw [if_neg (by omega)]
      rw [if_pos (by omega)] at sent
      refine ⟨framed, small, clbCtx.trans represents.clbCtx, ?_, header, ?_⟩
      · rw [after]
        dsimp only
        omega
      · rw [sent, List.flatMap_nil, List.append_nil]
        exact represents.sent
  · rw [if_neg (by omega)]
    rw [if_neg (by omega), if_neg (by omega), List.flatMap_singleton] at sent
    refine ⟨framed, small, clbCtx.trans represents.clbCtx, ?_, ?_, ?_⟩
    · rw [after]
      dsimp only [MediaStream.sendVideoPktAll, sendAll]
      omega
    · rw [List.take_append_of_le_length (by omega)]
      exact represents.header
    · have encodes :
          Encodes (.decodeVideo packet) (decodePieces call.current packet.bytes).flatten :=
        ⟨call.current, rfl⟩
      rw [sent]
      exact broadcast_represents represents.sent rfl encodes (viewers clientList)

def writes (clientList : ClientList) (written : List (Call × ByteString)) : List StreamEvent :=
  written.map fun write => .readPacket write.1 clientList write.2

theorem mux_writes_represents {written : List (Call × ByteString)}
    (represents : Represents packets statics streaming)
    (fits : ∀ write ∈ written, write.2.length ≤ ioBufferSize) (clientList : ClientList) :
    ∃ following, run statics (writes clientList written) = .done following ∧
      Represents (packets ++ written.map Prod.snd) following
        (muxWrites (viewers clientList) streaming (written.map Prod.snd)) := by
  induction written generalizing packets statics streaming with
  | nil =>
      refine ⟨statics, rfl, ?_⟩
      rw [List.map_nil, List.append_nil]
      exact represents
  | cons write rest induction =>
      let encoder := { streaming.encoder with written := streaming.encoder.written + 1 }
      have counted : Represents packets statics { streaming with encoder := encoder } :=
        ⟨represents.framed, represents.small, represents.clbCtx, represents.firstCount,
          represents.header, represents.sent⟩
      let packet : Packet :=
        { session := streaming.encoder.session
          index := streaming.encoder.written
          video := streaming.encoder.videoStream
          width := streaming.muxer.width
          height := streaming.muxer.height
          bytes := write.2 }
      obtain ⟨next, read, head⟩ := @read_packet_represents statics packets _ counted packet
        (fits write List.mem_cons_self) write.1 clientList
      obtain ⟨following, ran, tail⟩ := induction head
        (fun other member => fits other (List.mem_cons_of_mem write member))
      refine ⟨following, ?_, ?_⟩
      · rw [writes, List.map_cons, run, step, read]
        exact ran
      · rw [List.append_assoc] at tail
        exact tail

theorem reset_represents {reset : Streaming} (represents : Represents packets statics streaming)
    (mode : Mode) (mClbCtx : ClbContext)
    (clbCtx : (startStreaming statics mode mClbCtx).clbCtx = reset.clbCtx)
    (firstCount : reset.firstCount = 0) (header : reset.header = [])
    (sent : reset.sent = streaming.sent) :
    Represents [] (startStreaming statics mode mClbCtx) reset := by
  refine ⟨⟨rfl, rfl, rfl⟩, by simp [AllFit], clbCtx, firstCount.symm, ?_, ?_⟩
  · rw [header]
    rfl
  · rw [sent]
    exact represents.sent

theorem opened_represents {reset : Streaming} {mode : Mode} {mClbCtx : ClbContext}
    {written : List (Call × ByteString)} {clientList : ClientList}
    (represents : Represents [] (startStreaming statics mode mClbCtx) reset)
    (fits : ∀ write ∈ written, write.2.length ≤ ioBufferSize) :
    ∃ opened following, (opened = written ∨ opened = []) ∧
      run statics (.startStreaming mode mClbCtx :: writes clientList opened) = .done following ∧
      Represents (opened.map Prod.snd) following
        (muxWrites (viewers clientList) reset (written.map Prod.snd)) := by
  obtain ⟨following, ran, after⟩ := mux_writes_represents represents fits clientList
  exact ⟨written, following, .inl rfl, ran, after⟩

theorem start_streaming_represents {written : List (Call × ByteString)} {lib : EncoderSession.Libav}
    (represents : Represents packets statics streaming)
    (header : written.map Prod.snd = lib.headerWrites)
    (fits : ∀ write ∈ written, write.2.length ≤ ioBufferSize) (clientList : ClientList)
    (mClbCtx : ClbContext) :
    ∃ opened following, (opened = written ∨ opened = []) ∧
      run statics (.startStreaming streaming.mode mClbCtx :: writes clientList opened) =
        .done following ∧
      Represents (opened.map Prod.snd) following
        (MediaStream.startStreaming (viewers clientList) streaming mClbCtx lib) := by
  unfold MediaStream.startStreaming MediaStream.initializeEncoder
  dsimp only
  split_ifs with success
  · rw [← header]
    cases streaming.mode with
    | video =>
        apply opened_represents _ fits
        exact reset_represents represents .video mClbCtx rfl rfl rfl rfl
    | image =>
        apply opened_represents _ fits
        exact reset_represents represents .image mClbCtx rfl rfl rfl rfl
  · refine ⟨[], startStreaming statics streaming.mode mClbCtx, .inr rfl, rfl, ?_⟩
    cases streaming.mode with
    | video => exact reset_represents represents .video mClbCtx rfl rfl rfl rfl
    | image => exact reset_represents represents .image mClbCtx rfl rfl rfl rfl

end Refinement

end Collabo.VideoBytes
