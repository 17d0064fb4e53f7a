import Collabo.LoginSteps
import Collabo.StreamingCallbacks
import Collabo.JpegCompressor
import Collabo.Library.ThreadTable

/-!
# Sizes and images

In image mode INITVIDEO carries the size of `clbCtx` and INITIMAGE that of the
loop. Only the loop sees that the screen has changed, and a client that joins is
told a size only once two packets have been read.
-/

namespace Collabo.ImageSizes

open UniqueTable PartialRuns Deliveries AnnouncedLog ThreadTable Collabo.CString
  Collabo.MySQLConnector Collabo.ClientTable Collabo.EncoderSession Collabo.MediaStream
  Collabo.CollaboServer Collabo.ServerSteps Collabo.ListedConnections Collabo.VideoHeader
  Collabo.LoginSteps Collabo.StreamingCallbacks Collabo.JpegScan Collabo.JpegCompressor

set_option autoImplicit false

/-- A message that names a size, or an image with the frame it was cut from. -/
inductive SizeMsg where
  | initVideo (width height : Int)
  | initImage (width height : Nat)
  | decodeImage (frame : Frame) (image : DecodeImage)

def announcedSize : SizeMsg → Option (Int × Int)
  | .initVideo width height => some (width, height)
  | .initImage width height => some (width, height)
  | .decodeImage _ _ => none

def frameSize (frame : Frame) : Int × Int := (frame.rawWidth, frame.rawHeight)

def cutSize : SizeMsg → Option (Int × Int)
  | .initVideo _ _ => none
  | .initImage _ _ => none
  | .decodeImage frame _ => some (frameSize frame)

/-- Where a thread of `compressJpegLoop` stands. With `sending` it has announced
the size of the frame, if need be, and has not sent the image yet. -/
inductive LoopPlace where
  | created (width height : Nat)
  | testing (loop : CompressLoop)
  | iterating (loop : CompressLoop)
  | sending (frame : Frame) (iterated : Iterated)
  | ended

/-- The server, the flags and threads of the compressor, and what the clients have
been sent of the messages above. No screen has a negative size. -/
structure ImageRun where
  joins : Joins
  stopped : Bool
  fullFlag : Bool
  threads : List LoopPlace
  log : List (WebSocket × SizeMsg)

inductive ImageEvent where
  | serves (event : JoinEvent)
  | begins (number : Nat)
  | tests (number : Nat)
  | captures (number : Nat) (frame : Frame) (compresses : Bool)
  | sends (number : Nat)

def call (run : ImageRun) : CompressorCall → ImageRun
  | .initializes width height =>
      { run with threads := run.threads ++ [.created width.toNat height.toNat] }
  | .stops => { run with stopped := true }
  | .sendsFull => { run with fullFlag := true }

def sizeOfInit (msg : StcMsg) : Option SizeMsg :=
  (initOf msg).map fun init => .initVideo init.width init.height

def drained (state : Joins) : Joins :=
  { state with
    server := { state.server with
      streaming := { state.server.streaming with sent := [], compressorCalls := [] } } }

def remembered (log : List (WebSocket × SizeMsg)) : JoinEvent → List (WebSocket × SizeMsg)
  | .opens ws _ => forget log ws
  | .closes _ _ => log
  | .rekeys _ _ _ _ => log
  | .announces _ => log
  | .packet _ => log
  | .hostChanges _ => log
  | .databaseChanges _ => log

def serves (run : ImageRun) (event : JoinEvent) : Option ImageRun :=
  (LoginSteps.step (drained run.joins) event).map fun joins =>
    joins.server.streaming.compressorCalls.foldl call
      { run with
        joins := joins
        log := remembered run.log event ++ translate sizeOfInit joins.server.streaming.sent }

def clients (run : ImageRun) : List WebSocket := viewers run.joins.server.clientList

def sendsAll (run : ImageRun) (messages : List SizeMsg) : List (WebSocket × SizeMsg) :=
  run.log ++ messages.flatMap (broadcast (clients run))

def initMsg : ImageMsg → Option SizeMsg
  | .initImage width height => some (.initImage width height)
  | .decodeImage _ => none

def imageMsg (frame : Frame) : ImageMsg → Option SizeMsg
  | .initImage _ _ => none
  | .decodeImage image => some (.decodeImage frame image)

def begins (run : ImageRun) (number : Nat) : Option ImageRun :=
  match run.threads[number]? with
  | some (.created width height) =>
      let loop := compressJpegLoop width height run.fullFlag
      some
        { run with
          stopped := false
          threads := run.threads.set number (.testing loop.1)
          log := sendsAll run (loop.2.filterMap initMsg) }
  | _ => none

def tests (run : ImageRun) (number : Nat) : Option ImageRun :=
  match run.threads[number]? with
  | some (.testing loop) =>
      let place := if run.stopped then .ended else .iterating loop
      some { run with threads := run.threads.set number place }
  | _ => none

def captures (run : ImageRun) (number : Nat) (frame : Frame) (compresses : Bool) :
    Option ImageRun :=
  match run.threads[number]? with
  | some (.iterating loop) =>
      let iterated := iterate { loop with fullFlag := run.fullFlag } frame compresses
      some
        { run with
          fullFlag := iterated.loop.fullFlag
          threads := run.threads.set number (.sending frame iterated)
          log := sendsAll run (iterated.sent.filterMap initMsg) }
  | _ => none

def sends (run : ImageRun) (number : Nat) : Option ImageRun :=
  match run.threads[number]? with
  | some (.sending frame iterated) =>
      some
        { run with
          threads := run.threads.set number (.testing iterated.loop)
          log := sendsAll run (iterated.sent.filterMap (imageMsg frame)) }
  | _ => none

def step (run : ImageRun) : ImageEvent → Option ImageRun
  | .serves event => serves run event
  | .begins number => begins run number
  | .tests number => tests run number
  | .captures number frame compresses => captures run number frame compresses
  | .sends number => sends run number

def startRun (db : Database) (host : ClbContext) (eCtx : EncoderContext) (audioBytes : Int) :
    ImageRun where
  joins := { server := startServer db host eCtx audioBytes, joining := [] }
  stopped := false
  fullFlag := false
  threads := []
  log := []

/-- Each image that the client was sent was cut from a frame of the size that it
was told last. -/
def ImagesAnnounced (run : ImageRun) (ws : WebSocket) : Prop :=
  Announced announcedSize cutSize Eq (received run.log ws)

def Live (place : LoopPlace) : Prop := place ≠ .ended

def heldSize : LoopPlace → Option (Int × Int)
  | .created _ _ => none
  | .testing loop => some (loop.width, loop.height)
  | .iterating loop => some (loop.width, loop.height)
  | .sending frame _ => some (frameSize frame)
  | .ended => none

def clbSize (run : ImageRun) : Int × Int :=
  (run.joins.server.streaming.clbCtx.width, run.joins.server.streaming.clbCtx.height)

def Entering (state : Joins) (ws : WebSocket) : Prop :=
  ∃ join ∈ state.joining, join.info.ws = ws ∧ join.client.role = -1

/-- The loops that have begun work with the size of `clbCtx`. -/
def SizesAgree (run : ImageRun) : Prop :=
  ∀ place ∈ run.threads, ∀ size, heldSize place = some size → size = clbSize run

/-- The streams are started when all loops have ended. The header is completed and
a join announces only while the loop has the size of `clbCtx`, a client that has
not been there before joins only before a loop begins or once the header is
complete, and no image is sent to it between the steps of its join. -/
def SizesKept (run : ImageRun) : ImageEvent → Prop
  | .serves (.opens ws _) =>
      (run.joins.server.clientList.insert (ClientTable.connected ws)).size = 1 →
        ∀ place ∈ run.threads, ¬Live place
  | .serves (.announces ws) =>
      ws ∈ clients run →
        if run.joins.server.streaming.firstCount = 2 then SizesAgree run
        else Entering run.joins ws → ∀ place ∈ run.threads, heldSize place = none
  | .serves (.packet _) =>
      run.joins.server.streaming.firstCount = 1 → clients run ≠ [] → SizesAgree run
  | .serves (.closes _ _) => True
  | .serves (.rekeys _ _ _ _) => True
  | .serves (.hostChanges _) => True
  | .serves (.databaseChanges _) => True
  | .sends number =>
      ∀ frame iterated, run.threads[number]? = some (.sending frame iterated) →
        iterated.sent.filterMap (imageMsg frame) ≠ [] → ∀ ws ∈ clients run, ¬Entering run.joins ws
  | .begins _ => True
  | .tests _ => True
  | .captures _ _ _ => True

structure Sized (run : ImageRun) : Prop where
  viewed : Viewed run.joins.server
  one : AtMostOne Live run.threads
  announced : ∀ ws, ImagesAnnounced run ws
  told : ∀ place ∈ run.threads, ∀ size, heldSize place = some size →
    ∀ ws ∈ clients run, ¬Entering run.joins ws →
      lastHeader announcedSize (received run.log ws) = some size
  framed : ∀ frame iterated, .sending frame iterated ∈ run.threads →
    iterated.loop.width = frame.rawWidth ∧ iterated.loop.height = frame.rawHeight

def sizeMsg (frame : Frame) : ImageMsg → SizeMsg
  | .initImage width height => .initImage width height
  | .decodeImage image => .decodeImage frame image

section Messages

variable {run : ImageRun} {ws : WebSocket}

theorem received_sends_all (messages : List SizeMsg) :
    received (sendsAll run messages) ws =
      received run.log ws ++ messages.flatMap (List.replicate ((clients run).count ws)) := by
  unfold sendsAll
  rw [received_append, received_broadcasts]

theorem sends_all_elsewhere (messages : List SizeMsg) (elsewhere : ws ∉ clients run) :
    received (sendsAll run messages) ws = received run.log ws := by
  rw [received_sends_all, List.count_eq_zero.mpr elsewhere]
  have none : messages.flatMap (List.replicate 0) = [] := List.flatMap_eq_nil_iff.mpr fun _ _ => rfl
  rw [none, List.append_nil]

theorem sends_all_member {messages : List SizeMsg} {msg : SizeMsg} {copies : Nat}
    (member : msg ∈ messages.flatMap (List.replicate copies)) : msg ∈ messages := by
  rcases List.mem_flatMap.mp member with ⟨other, otherMember, copied⟩
  rw [List.eq_of_mem_replicate copied]
  exact otherMember

theorem sends_all_announced (announced : ImagesAnnounced run ws) {messages : List SizeMsg}
    (dataless : ∀ msg ∈ messages, cutSize msg = none) :
    Announced announcedSize cutSize Eq (received (sendsAll run messages) ws) := by
  rw [received_sends_all]
  apply announced_append_dataless announced
  exact fun msg member => dataless msg (sends_all_member member)

theorem sends_all_told {msg : SizeMsg} {size : Int × Int} (viewing : ws ∈ clients run)
    (shown : announcedSize msg = some size) :
    lastHeader announcedSize (received (sendsAll run [msg]) ws) = some size := by
  rw [received_sends_all, List.flatMap_singleton]
  exact last_header_repeated _ shown (Nat.ne_of_gt (List.count_pos_iff.mpr viewing))

theorem init_messages_dataless (sent : List ImageMsg) :
    ∀ msg ∈ sent.filterMap initMsg, cutSize msg = none := by
  intro msg member
  rcases List.mem_filterMap.mp member with ⟨image, _, shown⟩
  cases image with
  | initImage width height =>
      rw [← Option.some.inj shown]
      rfl
  | decodeImage image => cases shown

theorem image_messages_cut (frame : Frame) (sent : List ImageMsg) :
    ∀ msg ∈ sent.filterMap (imageMsg frame),
      announcedSize msg = none ∧ cutSize msg = some (frameSize frame) := by
  intro msg member
  rcases List.mem_filterMap.mp member with ⟨image, _, shown⟩
  cases image with
  | initImage width height => cases shown
  | decodeImage image =>
      rw [← Option.some.inj shown]
      exact ⟨rfl, rfl⟩

/-- An iteration announces the size of its frame if it is another one. -/
theorem iterate_announces (loop : CompressLoop) (frame : Frame) (compresses : Bool) :
    (iterate loop frame compresses).sent.filterMap initMsg =
      if resized loop frame then [.initImage frame.rawWidth frame.rawHeight] else [] := by
  have inits : (if resized loop frame then [ImageMsg.initImage frame.rawWidth frame.rawHeight]
      else []).filterMap initMsg =
      if resized loop frame then [.initImage frame.rawWidth frame.rawHeight] else [] := by
    cases resized loop frame with
    | true => rfl
    | false => rfl
  unfold iterate
  dsimp only
  cases (rectangle loop frame).touched with
  | false => exact inits
  | true =>
      cases compresses with
      | false => exact inits
      | true =>
          rw [if_pos rfl, if_pos rfl, List.filterMap_append, inits]
          exact List.append_nil _

/-- The two halves of an iteration send its messages in their order. -/
theorem iterate_announces_first (loop : CompressLoop) (frame : Frame) (compresses : Bool) :
    (iterate loop frame compresses).sent.filterMap initMsg ++
        (iterate loop frame compresses).sent.filterMap (imageMsg frame) =
      (iterate loop frame compresses).sent.map (sizeMsg frame) := by
  unfold iterate
  dsimp only
  cases resized loop frame with
  | true =>
      cases (rectangle loop frame).touched with
      | false => rfl
      | true =>
          cases compresses with
          | false => rfl
          | true => rfl
  | false =>
      cases (rectangle loop frame).touched with
      | false => rfl
      | true =>
          cases compresses with
          | false => rfl
          | true => rfl

end Messages

section Loops

variable {run following : ImageRun} {number : Nat}

theorem held_live {place : LoopPlace} {size : Int × Int} (held : heldSize place = some size) :
    Live place := by
  intro ended
  rw [ended] at held
  cases held

/-- A step of the live loop decides what all loops hold. -/
theorem moved_sized {place moved : LoopPlace} (sized : Sized run)
    (found : run.threads[number]? = some place) (live : Live place)
    (joins : following.joins = run.joins)
    (threads : following.threads = run.threads.set number moved)
    (announced : ∀ ws, ImagesAnnounced following ws)
    (told : ∀ size, heldSize moved = some size → ∀ ws ∈ clients run, ¬Entering run.joins ws →
      lastHeader announcedSize (received following.log ws) = some size)
    (framed : ∀ frame iterated, moved = .sending frame iterated →
      iterated.loop.width = frame.rawWidth ∧ iterated.loop.height = frame.rawHeight) :
    Sized following := by
  have others : ∀ entry ∈ following.threads, entry = moved ∨ ¬Live entry := by
    intro entry member
    rw [threads] at member
    exact other_of_at_most_one sized.one found live member
  constructor
  · rw [joins]
    exact sized.viewed
  · rw [threads]
    exact at_most_one_set sized.one found (fun _ => live)
  · exact announced
  · intro entry member size held ws viewing notEntering
    unfold clients at viewing
    rw [joins] at viewing notEntering
    rcases others entry member with rfl | dead
    · exact told size held ws viewing notEntering
    · exact absurd (held_live held) dead
  · intro frame iterated member
    rcases others _ member with same | dead
    · exact framed frame iterated same.symm
    · exact absurd (@held_live _ (frameSize frame) rfl) dead

theorem begins_sized (sized : Sized run) (stepped : begins run number = some following) :
    Sized following := by
  unfold begins at stepped
  split at stepped
  · next width height found =>
      rw [← Option.some.inj stepped]
      apply moved_sized sized found nofun
      · rfl
      · rfl
      · intro ws
        exact sends_all_announced (sized.announced ws) (init_messages_dataless _)
      · intro size held ws viewing _
        rw [← held]
        exact sends_all_told viewing rfl
      · exact nofun
  · cases stepped

theorem tests_sized (sized : Sized run) (stepped : tests run number = some following) :
    Sized following := by
  unfold tests at stepped
  split at stepped
  · next loop found =>
      rw [← Option.some.inj stepped]
      have member := List.mem_of_getElem? found
      apply moved_sized sized found nofun
      · rfl
      · rfl
      · exact sized.announced
      · intro size held ws viewing notEntering
        apply sized.told _ member size _ ws viewing notEntering
        cases stopped : run.stopped with
        | true =>
            rw [stopped] at held
            cases held
        | false =>
            rw [stopped] at held
            exact held
      · intro frame iterated
        cases run.stopped with
        | true => exact nofun
        | false => exact nofun
  · cases stepped

theorem captures_sized {frame : Frame} {compresses : Bool} (sized : Sized run)
    (stepped : captures run number frame compresses = some following) : Sized following := by
  unfold captures at stepped
  split at stepped
  · next loop found =>
      rw [← Option.some.inj stepped]
      have member := List.mem_of_getElem? found
      apply moved_sized sized found nofun
      · rfl
      · rfl
      · intro ws
        exact sends_all_announced (sized.announced ws) (init_messages_dataless _)
      · intro size held ws viewing notEntering
        rw [← held]
        dsimp only
        rw [iterate_announces]
        cases changed : resized { loop with fullFlag := run.fullFlag } frame with
        | true => exact sends_all_told viewing rfl
        | false =>
            rcases resized_false changed with ⟨width, height⟩
            have before := sized.told _ member _ rfl ws viewing notEntering
            rw [if_neg Bool.false_ne_true]
            unfold sendsAll
            rw [List.flatMap_nil, List.append_nil, before, heldSize, frameSize, width, height]
      · intro other iterated same
        cases same
        have loops := iterates_loop { loop with fullFlag := run.fullFlag } frame compresses
        exact ⟨loops.1, loops.2.1⟩
  · cases stepped

/-- The image goes to viewers that were told the size of its frame last. -/
theorem sends_sized (sized : Sized run) (meets : SizesKept run (.sends number))
    (stepped : sends run number = some following) : Sized following := by
  unfold sends at stepped
  split at stepped
  · next frame iterated found =>
      rw [← Option.some.inj stepped]
      have member := List.mem_of_getElem? found
      rcases sized.framed frame iterated member with ⟨width, height⟩
      have cut := image_messages_cut frame iterated.sent
      apply moved_sized sized found nofun
      · rfl
      · rfl
      · intro ws
        unfold ImagesAnnounced
        dsimp only
        by_cases viewing : ws ∈ clients run
        · by_cases nothing : iterated.sent.filterMap (imageMsg frame) = []
          · rw [nothing, received_sends_all, List.flatMap_nil, List.append_nil]
            exact sized.announced ws
          · have notEntering := meets frame iterated found nothing ws viewing
            have told := sized.told _ member _ rfl ws viewing notEntering
            rw [received_sends_all]
            apply announced_append_data (sized.announced ws) told
            · exact fun msg isNew => (cut msg (sends_all_member isNew)).1
            · intro msg isNew data carried
              rw [(cut msg (sends_all_member isNew)).2] at carried
              exact Option.some.inj carried
        · rw [sends_all_elsewhere _ viewing]
          exact sized.announced ws
      · intro size held ws viewing notEntering
        have same : frameSize frame = size := by
          rw [← Option.some.inj held, frameSize, width, height]
        dsimp only
        rw [received_sends_all, last_header_unchanged]
        · rw [← same]
          exact sized.told _ member _ rfl ws viewing notEntering
        · exact fun msg isNew => (cut msg (sends_all_member isNew)).1
      · exact nofun
  · cases stepped

end Loops

section Calls

structure Called (before after : ImageRun) : Prop where
  joins : after.joins = before.joins
  log : after.log = before.log
  threads : ∃ created, after.threads = before.threads ++ created ∧
    ∀ place ∈ created, ∃ width height, place = .created width height

theorem calls_called (run : ImageRun) (calls : List CompressorCall) :
    Called run (calls.foldl call run) := by
  induction calls generalizing run with
  | nil => exact ⟨rfl, rfl, [], (List.append_nil _).symm, nofun⟩
  | cons head rest induction =>
      have tail := induction (call run head)
      rcases tail.threads with ⟨created, threads, fresh⟩
      cases head with
      | initializes width height =>
          refine ⟨tail.joins, tail.log, .created width.toNat height.toNat :: created, ?_, ?_⟩
          · rw [List.foldl_cons, threads]
            exact List.append_assoc _ _ _
          · intro place member
            rcases List.mem_cons.mp member with rfl | later
            · exact ⟨_, _, rfl⟩
            · exact fresh place later
      | stops => exact ⟨tail.joins, tail.log, created, threads, fresh⟩
      | sendsFull => exact ⟨tail.joins, tail.log, created, threads, fresh⟩

theorem calls_threads (run : ImageRun) {calls : List CompressorCall}
    (noStart : ∀ width height, .initializes width height ∉ calls) :
    (calls.foldl call run).threads = run.threads := by
  induction calls generalizing run with
  | nil => rfl
  | cons head rest induction =>
      have later : ∀ width height, .initializes width height ∉ rest :=
        fun width height member => noStart width height (List.mem_cons_of_mem _ member)
      rw [List.foldl_cons, induction (call run head) later]
      cases head with
      | initializes width height => exact absurd List.mem_cons_self (noStart width height)
      | stops => rfl
      | sendsFull => rfl

end Calls

section Serving

variable {run : ImageRun} {joins : Joins} {event : JoinEvent}

def served (run : ImageRun) (event : JoinEvent) (joins : Joins) : ImageRun :=
  joins.server.streaming.compressorCalls.foldl call
    { run with
      joins := joins
      log := remembered run.log event ++ translate sizeOfInit joins.server.streaming.sent }

theorem serves_some {following : ImageRun} (stepped : serves run event = some following) :
    ∃ joins, JoinDone (drained run.joins) event joins ∧ following = served run event joins := by
  rcases Option.map_eq_some_iff.mp stepped with ⟨joins, taken, same⟩
  exact ⟨joins, step_join_done taken, same.symm⟩

theorem served_log (ws : WebSocket) :
    received (served run event joins).log ws =
      received (remembered run.log event) ws ++
        (inbox joins.server.streaming ws).filterMap sizeOfInit := by
  have log : (served run event joins).log =
      remembered run.log event ++ translate sizeOfInit joins.server.streaming.sent :=
    (calls_called _ _).log
  rw [log, received_append, received_translate]
  rfl

theorem remembered_cases (log : List (WebSocket × SizeMsg)) (event : JoinEvent) (ws : WebSocket) :
    received (remembered log event) ws = [] ∨
      received (remembered log event) ws = received log ws := by
  cases event with
  | opens fresh lib =>
      by_cases own : ws = fresh
      · rw [own]
        exact .inl received_forget_self
      · exact .inr (received_forget_other own)
  | closes ws lib => exact .inr rfl
  | rekeys ws json dbCall lib => exact .inr rfl
  | announces ws => exact .inr rfl
  | packet packet => exact .inr rfl
  | hostChanges host => exact .inr rfl
  | databaseChanges db => exact .inr rfl

theorem served_announced (sized : Sized run) (ws : WebSocket) :
    ImagesAnnounced (served run event joins) ws := by
  unfold ImagesAnnounced
  rw [served_log]
  apply announced_append_dataless
  · rcases remembered_cases run.log event ws with empty | same
    · rw [empty]
      exact announced_nil
    · rw [same]
      exact sized.announced ws
  · intro msg member
    rcases List.mem_filterMap.mp member with ⟨sent, _, shown⟩
    rcases Option.map_eq_some_iff.mp shown with ⟨init, _, rfl⟩
    rfl

theorem served_sized (sized : Sized run) (viewed : Viewed joins.server)
    (noStart : ∀ width height,
      .initializes width height ∉ joins.server.streaming.compressorCalls)
    (told : ∀ place ∈ run.threads, ∀ size, heldSize place = some size →
      ∀ ws ∈ viewers joins.server.clientList, ¬Entering joins ws →
        lastHeader announcedSize (received (served run event joins).log ws) = some size) :
    Sized (served run event joins) := by
  have state : (served run event joins).joins = joins := (calls_called _ _).joins
  have threads : (served run event joins).threads = run.threads := calls_threads _ noStart
  constructor
  · rw [state]
    exact viewed
  · rw [threads]
    exact sized.one
  · exact served_announced sized
  · unfold clients
    rw [state, threads]
    exact told
  · rw [threads]
    exact sized.framed

theorem served_silently (sized : Sized run) (viewed : Viewed joins.server)
    (noStart : ∀ width height,
      .initializes width height ∉ joins.server.streaming.compressorCalls)
    (silent : ∀ ws ∈ viewers joins.server.clientList,
      (inbox joins.server.streaming ws).filterMap sizeOfInit = [])
    (kept : ∀ ws ∈ viewers joins.server.clientList, ¬Entering joins ws →
      ws ∈ clients run ∧ ¬Entering run.joins ws ∧
        received (remembered run.log event) ws = received run.log ws) :
    Sized (served run event joins) := by
  apply served_sized sized viewed noStart
  intro place member size held ws viewing notEntering
  rcases kept ws viewing notEntering with ⟨wasViewing, wasNotEntering, same⟩
  rw [served_log, silent ws viewing, List.append_nil, same]
  exact sized.told place member size held ws wasViewing wasNotEntering

theorem started_sized (sized : Sized run) (viewed : Viewed joins.server)
    (ended : ∀ place ∈ run.threads, ¬Live place)
    (one : joins.server.streaming.compressorCalls = [] ∨ ∃ width height,
      joins.server.streaming.compressorCalls = [.initializes width height]) :
    Sized (served run event joins) := by
  have called := calls_called
    { run with
      joins := joins
      log := remembered run.log event ++ translate sizeOfInit joins.server.streaming.sent }
    joins.server.streaming.compressorCalls
  rcases called.threads with ⟨created, threads, fresh⟩
  have unbegun : ∀ place ∈ (served run event joins).threads, heldSize place = none := by
    intro place member
    have either : place ∈ run.threads ++ created := threads ▸ member
    rcases List.mem_append.mp either with before | isNew
    · have dead := ended place before
      rw [show place = .ended from not_not.mp dead]
      rfl
    · rcases fresh place isNew with ⟨width, height, rfl⟩
      rfl
  constructor
  · rw [show (served run event joins).joins = joins from called.joins]
    exact viewed
  · rcases one with none | ⟨width, height, single⟩
    · have same : (served run event joins).threads = run.threads := by
        apply calls_threads
        rw [none]
        exact nofun
      rw [same]
      exact sized.one
    · have same : (served run event joins).threads =
          run.threads ++ [.created width.toNat height.toNat] := by
        unfold served
        rw [single]
        rfl
      rw [same]
      exact (at_most_one_append_iff nofun).mpr ended
  · exact served_announced sized
  · intro place member size held
    rw [unbegun place member] at held
    cases held
  · intro frame iterated member
    have none := unbegun _ member
    cases none

theorem drained_viewed (sized : Sized run) : Viewed (drained run.joins).server :=
  viewed_of_same sized.viewed rfl rfl rfl

theorem start_calls (viewers : List WebSocket) (host : ClbContext) (lib : Libav)
    {streaming : Streaming} (uncalled : streaming.compressorCalls = []) :
    (stateCallback viewers host lib streaming .startStreaming).compressorCalls = [] ∨
      ∃ width height, (stateCallback viewers host lib streaming .startStreaming).compressorCalls =
        [.initializes width height] := by
  unfold stateCallback startStreaming
  dsimp only
  rw [(initialize_encoder_controls viewers _ _ lib).1.compressor]
  cases streaming.mode with
  | video => exact .inl uncalled
  | image =>
      apply Or.inr
      dsimp only
      rw [uncalled]
      exact ⟨_, _, rfl⟩

theorem stop_calls (viewers : List WebSocket) (host : ClbContext) (lib : Libav)
    {streaming : Streaming} (uncalled : streaming.compressorCalls = []) (width height : Int) :
    .initializes width height ∉
      (stateCallback viewers host lib streaming .stopStreaming).compressorCalls := by
  have stops := (stop_encoder_controls viewers
    { streaming with callbacks := streaming.callbacks ++ [.stopStreaming] } lib).1.compressor
  unfold stateCallback stopStreaming
  dsimp only
  split
  · rw [stops]
    dsimp only
    rw [uncalled]
    exact nofun
  · rw [stops]
    dsimp only
    rw [uncalled]
    simp

theorem opens_sized {ws : WebSocket} {lib : Libav} (sized : Sized run)
    (meets : SizesKept run (.serves (.opens ws lib))) (fresh : ws ∉ run.joins.server.sockets) :
    Sized (served run (.opens ws lib)
      { drained run.joins with server := onOpenPtr (drained run.joins).server ws lib }) := by
  have viewed := drained_viewed sized
  have joined := on_open_joined (drained run.joins).server ws lib
  rcases joined.streaming with ⟨_, kept⟩ | ⟨first, started⟩
  · have streaming : (onOpenPtr (drained run.joins).server ws lib).streaming =
        (drained run.joins).server.streaming := kept
    apply served_silently sized (opened_viewed viewed fresh lib)
    · dsimp only
      rw [streaming]
      exact nofun
    · intro other _
      dsimp only
      rw [streaming]
      rfl
    · intro other viewing notEntering
      dsimp only at viewing notEntering
      rw [joined.clientList, insert_connected_viewers] at viewing
      refine ⟨viewing, notEntering, ?_⟩
      exact received_forget_other (viewer_not_fresh sized.viewed.listed fresh viewing)
  · apply started_sized sized (opened_viewed viewed fresh lib)
    · apply meets
      rw [joined.clientList] at first
      exact first
    · dsimp only
      rw [started]
      exact start_calls _ _ lib rfl

theorem closes_sized {ws : WebSocket} {lib : Libav} {closed : Server} (sized : Sized run)
    (closing : Closed (drained run.joins).server ws lib closed) :
    Sized (served run (.closes ws lib) { drained run.joins with server := closed }) := by
  have viewed := drained_viewed sized
  rcases closing.streaming with ⟨_, kept⟩ | ⟨empty, stopped⟩
  · apply served_silently sized (closed_viewed viewed closing)
    · dsimp only
      rw [kept]
      exact nofun
    · intro other _
      dsimp only
      rw [kept]
      rfl
    · intro other viewing notEntering
      exact ⟨closed_viewers viewed.listed closing viewing, notEntering, rfl⟩
  · apply served_sized sized (closed_viewed viewed closing)
    · dsimp only
      rw [stopped]
      exact stop_calls _ _ lib rfl
    · intro place _ size _ other viewing
      rcases mem_viewers.mp viewing with ⟨client, member, _⟩
      have noEntries : closed.clientList.entries = [] := List.length_eq_zero_iff.mp empty
      rw [noEntries] at member
      cases member

/-- Whoever gets a role by the join is entering, if it had none before. -/
theorem rekeys_sized {ws : WebSocket} {json : Json} {dbCall : DbCall} {lib : Libav}
    {client info : Client} {cleared : Server} (sized : Sized run)
    (found : findWs run.joins.server.clientList ws = some client) (presents : Presents json info)
    (accepts : Accepted (drained run.joins).server client info dbCall lib cleared) :
    Sized (served run (.rekeys ws json dbCall lib)
      { server := rekeyed client info cleared
        joining := run.joins.joining ++ [{ client := client, info := info }] }) := by
  have viewed := drained_viewed sized
  rcases find_ws_some found with ⟨member, same⟩
  have socket : info.ws = ws := accepts.socket.trans same
  have kept : cleared.streaming = (drained run.joins).server.streaming := cleared_streaming accepts
  have streaming : (rekeyed client info cleared).streaming =
      (drained run.joins).server.streaming := kept
  apply served_silently sized (rekeyed_viewed viewed member presents accepts)
  · dsimp only
    rw [streaming]
    exact nofun
  · intro other _
    dsimp only
    rw [streaming]
    rfl
  · intro other viewing notEntering
    have notBefore : ¬Entering run.joins other := by
      rintro ⟨join, joinMember, own, noRole⟩
      exact notEntering ⟨join, List.mem_append_left _ joinMember, own, noRole⟩
    refine ⟨?_, notBefore, rfl⟩
    rcases List.mem_append.mp (logged_in_viewers viewed.listed member accepts viewing) with
      own | before
    · have sameSocket : other = ws := (List.mem_singleton.mp own).trans socket
      have hadRole : client.role ≠ -1 := by
        intro noRole
        apply notEntering
        exact ⟨_, List.mem_append_right _ List.mem_cons_self, socket.trans sameSocket.symm, noRole⟩
      exact mem_viewers.mpr ⟨client, member, hadRole, same.trans sameSocket.symm⟩
    · exact cleared_of_closed
        (fun server => other ∈ viewers server.clientList → other ∈ clients run)
        accepts id (fun _ _ closed => closed_viewers viewed.listed closed) before

theorem announce_calls (server : Server) (info : Client)
    (uncalled : server.streaming.compressorCalls = []) (width height : Int) :
    .initializes width height ∉ (announce server info).streaming.compressorCalls := by
  have calls : (announce server info).streaming.compressorCalls = [] ∨
      (announce server info).streaming.compressorCalls = [.sendsFull] := by
    unfold announce sendAll send
    dsimp only
    split_ifs
    · exact .inr (congrArg (· ++ [CompressorCall.sendsFull]) uncalled)
    · exact .inl uncalled
    · exact .inr (congrArg (· ++ [CompressorCall.sendsFull]) uncalled)
    · exact .inl uncalled
  rcases calls with none | full
  · rw [none]
    exact nofun
  · rw [full]
    simp

/-- A client that joins is told the size of `clbCtx` once the header is complete. -/
theorem announce_tells (server : Server) (info : Client) (ws : WebSocket)
    (unsent : inbox server.streaming ws = []) :
    (inbox (announce server info).streaming ws).filterMap sizeOfInit =
      if server.streaming.firstCount = 2 ∧ info.ws = ws then
        [.initVideo server.streaming.clbCtx.width server.streaming.clbCtx.height]
      else [] := by
  rcases announce_inbox server info ws with ⟨more, quiet, sent⟩
  have nothing : more.filterMap sizeOfInit = [] := by
    apply List.filterMap_eq_nil_iff.mpr
    intro msg member
    unfold sizeOfInit
    rw [(quiet msg member).1]
    rfl
  rw [sent, unsent, List.nil_append, List.filterMap_append, nothing, List.nil_append]
  by_cases shown : server.streaming.firstCount = 2 ∧ info.ws = ws
  · rw [if_pos shown, if_pos shown]
    rfl
  · rw [if_neg shown, if_neg shown]
    rfl

theorem announces_sized {join : Join} (sized : Sized run)
    (meets : SizesKept run (.serves (.announces join.info.ws))) :
    Sized (served run (.announces join.info.ws)
      { server := announce (drained run.joins).server join.info
        joining := run.joins.joining.filter fun other => other.info.ws ≠ join.info.ws }) := by
  apply served_sized sized
  · exact viewed_of_same sized.viewed rfl rfl rfl
  · exact announce_calls _ _ rfl
  · intro place member size held ws viewing notEntering
    rw [served_log, announce_tells _ _ _ rfl]
    have viewer : ws ∈ clients run := viewing
    by_cases own : join.info.ws = ws
    · rw [own] at meets
      have condition := meets viewer
      by_cases complete : run.joins.server.streaming.firstCount = 2
      · rw [if_pos complete] at condition
        rw [if_pos ⟨complete, own⟩, condition place member size held]
        have shown : announcedSize (.initVideo run.joins.server.streaming.clbCtx.width
            run.joins.server.streaming.clbCtx.height) = some (clbSize run) := rfl
        exact last_header_repeated _ shown Nat.one_ne_zero
      · rw [if_neg complete] at condition
        rw [if_neg (fun both => complete both.1), List.append_nil]
        apply sized.told place member size held ws viewer
        intro entering
        rw [condition entering place member] at held
        cases held
    · rw [if_neg (fun both => own both.2), List.append_nil]
      apply sized.told place member size held ws viewer
      rintro ⟨other, otherMember, same, noRole⟩
      apply notEntering
      refine ⟨other, List.mem_filter.mpr ⟨otherMember, ?_⟩, same, noRole⟩
      rw [same]
      simpa using fun equal => own equal.symm

theorem packet_tells (sockets : List WebSocket) (streaming : Streaming) (packet : Packet)
    (ws : WebSocket) (unsent : inbox streaming ws = []) :
    (inbox (readPacket sockets streaming packet) ws).filterMap sizeOfInit =
      if streaming.firstCount = 1 then
        List.replicate (sockets.count ws)
          (.initVideo streaming.clbCtx.width streaming.clbCtx.height)
      else [] := by
  by_cases empty : streaming.firstCount = 0
  · rw [read_packet_first sockets packet empty, if_neg (by omega)]
    exact congrArg (List.filterMap sizeOfInit) unsent
  · by_cases half : streaming.firstCount = 1
    · rw [read_packet_second sockets packet half, if_pos half]
      unfold sendVideoInitMsgAll
      have before : inbox { streaming with
          header := streaming.header ++ [packet], firstCount := 2 } ws = [] := unsent
      rw [inbox_send_all, before, List.nil_append]
      exact List.filterMap_replicate_of_some rfl
    · rw [read_packet_later sockets packet (by omega), if_neg half]
      unfold sendVideoPktAll
      rw [inbox_send_all, unsent, List.nil_append]
      exact List.filterMap_replicate_of_none rfl

theorem packet_calls (sockets : List WebSocket) (streaming : Streaming) (packet : Packet) :
    (readPacket sockets streaming packet).compressorCalls = streaming.compressorCalls := by
  unfold readPacket
  dsimp only
  split_ifs <;> rfl

theorem packet_sized {packet : Packet} (sized : Sized run)
    (meets : SizesKept run (.serves (.packet packet))) :
    Sized (served run (.packet packet)
      { drained run.joins with
        server := { (drained run.joins).server with
          streaming := readPacket (viewers (drained run.joins).server.clientList)
            (drained run.joins).server.streaming packet } }) := by
  apply served_sized sized
  · exact viewed_of_same sized.viewed rfl rfl rfl
  · dsimp only
    rw [packet_calls]
    exact nofun
  · intro place member size held ws viewing notEntering
    have viewer : ws ∈ clients run := viewing
    rw [served_log, packet_tells _ _ _ _ rfl]
    by_cases half : (drained run.joins).server.streaming.firstCount = 1
    · have agree := meets half (List.ne_nil_of_mem viewer)
      have shown : announcedSize (.initVideo run.joins.server.streaming.clbCtx.width
          run.joins.server.streaming.clbCtx.height) = some (clbSize run) := rfl
      rw [if_pos half, agree place member size held]
      exact last_header_repeated _ shown (Nat.ne_of_gt (List.count_pos_iff.mpr viewer))
    · rw [if_neg half, List.append_nil]
      exact sized.told place member size held ws viewer notEntering

theorem outside_sized {server : Server} (sized : Sized run)
    (sockets : server.sockets = run.joins.server.sockets)
    (accepted : server.accepted = run.joins.server.accepted)
    (clientList : server.clientList = run.joins.server.clientList)
    (streaming : server.streaming = (drained run.joins).server.streaming)
    (kept : remembered run.log event = run.log) :
    Sized (served run event { drained run.joins with server := server }) := by
  apply served_silently sized
  · exact viewed_of_same sized.viewed clientList sockets accepted
  · dsimp only
    rw [streaming]
    exact nofun
  · intro ws _
    dsimp only
    rw [streaming]
    rfl
  · intro ws viewing notEntering
    dsimp only at viewing
    rw [clientList] at viewing
    rw [kept]
    exact ⟨viewing, notEntering, rfl⟩

theorem serves_sized {following : ImageRun} (sized : Sized run)
    (meets : SizesKept run (.serves event)) (stepped : serves run event = some following) :
    Sized following := by
  rcases serves_some stepped with ⟨joins, done, rfl⟩
  cases done with
  | opens isAlone fresh => exact opens_sized sized meets fresh
  | closes isAlone closing => exact closes_sized sized closing
  | rekeys found notJoining presents accepts waited =>
      exact rekeys_sized sized found presents accepts
  | announces member same =>
      cases same
      exact announces_sized sized meets
  | packet => exact packet_sized sized meets
  | hostChanges => exact outside_sized sized rfl rfl rfl rfl rfl
  | databaseChanges => exact outside_sized sized rfl rfl rfl rfl rfl

end Serving

theorem step_sized {run following : ImageRun} {event : ImageEvent} (sized : Sized run)
    (meets : SizesKept run event) (stepped : step run event = some following) :
    Sized following := by
  cases event with
  | serves event => exact serves_sized sized meets stepped
  | begins number => exact begins_sized sized stepped
  | tests number => exact tests_sized sized stepped
  | captures number frame compresses => exact captures_sized sized stepped
  | sends number => exact sends_sized sized meets stepped

theorem start_sized (db : Database) (host : ClbContext) (eCtx : EncoderContext)
    (audioBytes : Int) : Sized (startRun db host eCtx audioBytes) := by
  constructor
  · exact start_viewed db host eCtx audioBytes
  · exact at_most_one_nil
  · exact fun _ => announced_nil
  · exact nofun
  · exact nofun

/-- In every run in image mode whose events meet the condition, each image that a
client was sent has the size that the client was told last. -/
theorem images_announced (db : Database) (host : ClbContext) (eCtx : EncoderContext)
    (audioBytes : Int) (run : ImageRun)
    (reached : Reaches step SizesKept (startRun db host eCtx audioBytes) run) :
    ∀ ws, ImagesAnnounced run ws := by
  have sized : Sized run := by
    apply invariant_of_step Sized (start_sized db host eCtx audioBytes) _ reached
    intro state event following held meets stepped
    exact step_sized held meets stepped
  exact sized.announced

def smallHost : ClbContext := { sampleHost with width := 2, height := 1 }

def smallRun : ImageRun := startRun sampleDatabase smallHost (encoderContext .image smallHost) 0

theorem turned_size (red : UInt8) : [red, 0, 0, 0, 0, 0].length = 3 * 1 * 2 := rfl

def turnedFrame (red : UInt8) : Frame where
  rawWidth := 1
  rawHeight := 2
  data := [red, 0, 0, 0, 0, 0]
  sized := turned_size red

def iteration (frame : Frame) : List ImageEvent :=
  [.tests 0, .captures 0 frame true, .sends 0]

def joinsAs (ws : WebSocket) (mcode : String) : List ImageEvent :=
  [.serves (rekeysEvent ws mcode), .serves (.announces ws)]

def screenTurned : List ImageEvent :=
  [.serves (.opens 1 sampleLib), .begins 0] ++ joinsAs 1 "a" ++ iteration (sampleFrame 1) ++
    iteration (turnedFrame 1)

theorem announces_kept {run : ImageRun} {ws : WebSocket} {place : LoopPlace}
    (complete : run.joins.server.streaming.firstCount = 2) (threads : run.threads = [place])
    (held : heldSize place = some (clbSize run)) : SizesKept run (.serves (.announces ws)) := by
  intro _
  rw [if_pos complete]
  intro other member size otherHeld
  rw [threads] at member
  rw [List.mem_singleton.mp member, held] at otherHeld
  exact (Option.some.inj otherHeld).symm

theorem sends_kept {run : ImageRun} {number : Nat} (noJoins : run.joins.joining = []) :
    SizesKept run (.sends number) := by
  rintro frame iterated _ _ ws _ ⟨join, member, _⟩
  rw [noJoins] at member
  cases member

theorem images_announced_screen_turned :
    (received (after step smallRun screenTurned).log 1).filterMap cutSize = [(2, 1), (1, 2)] ∧
      ∀ ws, ImagesAnnounced (after step smallRun screenTurned) ws := by
  refine ⟨rfl, ?_⟩
  apply images_announced sampleDatabase smallHost (encoderContext .image smallHost) 0
  apply reaches_after
  · apply along_cons rfl (fun _ => nofun)
    apply along_cons rfl trivial
    apply along_cons rfl trivial
    apply along_cons rfl (announces_kept rfl rfl rfl)
    apply along_cons rfl trivial
    apply along_cons rfl trivial
    apply along_cons rfl (sends_kept rfl)
    apply along_cons rfl trivial
    apply along_cons rfl trivial
    exact along_cons rfl (sends_kept rfl) trivial
  · rfl

def joinedAfterTurn : List ImageEvent :=
  [.serves (.opens 1 sampleLib), .begins 0] ++ iteration (turnedFrame 1) ++ joinsAs 1 "a" ++
    iteration (turnedFrame 1)

def joinedBeforeHeader : List ImageEvent :=
  [.serves (.opens 1 (Libav.succeeds [] [])), .begins 0] ++ joinsAs 1 "a" ++
    iteration (sampleFrame 1)

def imageInJoin : List ImageEvent :=
  [.serves (.opens 1 sampleLib), .begins 0, .serves (rekeysEvent 1 "a")] ++
    iteration (sampleFrame 1)

theorem not_images_announced {run : ImageRun} {ws : WebSocket} {cut : Int × Int}
    {told : Option (Int × Int)}
    (last : (received run.log ws).getLast?.bind cutSize = some cut)
    (announcement : lastHeader announcedSize (received run.log ws).dropLast = told)
    (other : told ≠ some cut) : ¬ImagesAnnounced run ws := by
  intro announced
  rcases announced_last announced last with ⟨size, isLast, same⟩
  rw [announcement, same] at isLast
  exact other isLast

/-- The run sends the first connection an image of a size that it was not told. -/
def SendsUnannounced (events : List ImageEvent) : Prop :=
  Reaches step (fun _ _ => True) smallRun (after step smallRun events) ∧
    ¬ImagesAnnounced (after step smallRun events) 1

/-- The client has been told the size that the screen had, or none at all. -/
theorem images_of_unannounced_size :
    SendsUnannounced joinedAfterTurn ∧ SendsUnannounced joinedBeforeHeader ∧
      SendsUnannounced imageInJoin := by
  have all : ∀ events start, Along step (fun _ _ => True) start events :=
    fun events _ => along_of_forall (fun _ _ => trivial) events
  constructor
  · exact ⟨reaches_after (all _ _) rfl, not_images_announced rfl rfl (by decide)⟩
  · constructor
    · exact ⟨reaches_after (all _ _) rfl, not_images_announced rfl rfl (by decide)⟩
    · exact ⟨reaches_after (all _ _) rfl, not_images_announced rfl rfl (by decide)⟩

end Collabo.ImageSizes
