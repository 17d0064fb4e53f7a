import Collabo.JpegCompressor
import Collabo.MemberMessages
import Collabo.ScanBounds
import Collabo.Library.AnnouncedLog

/-!
# The image stream in bytes

The buffers of INITIMAGE and DECODEIMAGE, the second of which `compressJpegLoop`
fills but for its first byte. A receiver that reads them in turn finds the images
numbered from zero, each with a rectangle inside the size that was named last.
-/

namespace Collabo.ImageBytes

open ByteBuffer FieldCodecs AnnouncedLog BoundingBox PartialRuns Collabo.CInt Collabo.CString
  Collabo.JpegScan Collabo.JpegCompressor Collabo.MemberMessages

set_option autoImplicit false

def sendImageInit (width height : Int) : Option Buffer :=
  allocated 9 9
    [{ place := 0, items := [MsgIdentifier.initImage.byte] },
      { place := 1, items := intBytes width },
      { place := 5, items := intBytes height }]

/-- `jpeg` is what `tjCompress2` returned. The first byte is that of `sendImage`,
which takes the length as an `int`. -/
def sendBuf (image : DecodeImage) (jpeg : ByteString) : Option Buffer :=
  let copied := wrapInt jpeg.length
  if 0 ≤ copied then
    allocated (21 + jpeg.length) (wrapInt (21 + jpeg.length))
      [{ place := 1, items := intBytes image.seq },
        { place := 5, items := intBytes image.minX },
        { place := 9, items := intBytes image.minY },
        { place := 13, items := intBytes image.partialWidth },
        { place := 17, items := intBytes image.partialHeight },
        { place := 21, items := jpeg.take copied.toNat },
        { place := 0, items := [MsgIdentifier.decodeImage.byte] }]
  else none

inductive Received where
  | init (width height : Int)
  | image (seq minX minY partialWidth partialHeight : Int) (jpeg : ByteString)
  deriving DecidableEq, Repr

def initCodec : Codec UInt8 (Int × Int) := intCodec.pair intCodec

def rectangleCodec : Codec UInt8 (Int × Int × Int × Int × Int) :=
  intCodec.pair (intCodec.pair (intCodec.pair (intCodec.pair intCodec)))

def decodeReceived : ByteString → Option Received
  | [] => none
  | identifier :: rest =>
      if identifier = MsgIdentifier.initImage.byte then
        (initCodec.whole rest).map fun size => .init size.1 size.2
      else if identifier = MsgIdentifier.decodeImage.byte then
        (rectangleCodec.read rest).map fun parsed =>
          .image parsed.1.1 parsed.1.2.1 parsed.1.2.2.1 parsed.1.2.2.2.1 parsed.1.2.2.2.2 parsed.2
      else none

def messageBytes (jpeg : ByteString) (heap : Nat → UInt8) : ImageMsg → Option ByteString
  | .initImage width height =>
      (sendImageInit width height).map fun buffer => buffer.message heap
  | .decodeImage image => (sendBuf image jpeg).map fun buffer => buffer.message heap

structure ByteLoop where
  loop : CompressLoop
  sent : List ByteString

/-- `jpeg` is `none` where `tjCompress2` fails. -/
inductive ByteEvent where
  | iterates (frame : Frame) (jpeg : Option ByteString) (heap : Nat → UInt8)
  | sendsFull

def step (state : ByteLoop) : ByteEvent → Option ByteLoop
  | .iterates frame jpeg heap =>
      let iterated := iterate state.loop frame jpeg.isSome
      (iterated.sent.mapM (messageBytes (jpeg.getD []) heap)).map fun messages =>
        { loop := iterated.loop, sent := state.sent ++ messages }
  | .sendsFull => some { state with loop := sendFull state.loop }

def started (width height : Nat) (fullFlag : Bool) (heap : Nat → UInt8) : Option ByteLoop :=
  let begun := compressJpegLoop width height fullFlag
  (begun.2.mapM (messageBytes [] heap)).map fun messages => { loop := begun.1, sent := messages }

/-- An `int` holds the size of the frame in bytes, that of the message and the next number,
and `tjCompress2` makes no image of nothing. -/
def Fits (state : ByteLoop) : ByteEvent → Prop
  | .iterates frame jpeg _ =>
      frame.rawWidth < 2 ^ 31 ∧ frame.rawHeight < 2 ^ 31 ∧
        3 * (frame.rawWidth * frame.rawHeight) < 2 ^ 31 ∧ state.loop.seq < 2 ^ 31 ∧
        ∀ compressed, jpeg = some compressed →
          0 < frame.rawWidth ∧ 0 < frame.rawHeight ∧ 21 + compressed.length < 2 ^ 31
  | .sendsFull => True

def sizeOf : Received → Option (Int × Int)
  | .init width height => some (width, height)
  | .image _ _ _ _ _ _ => none

def rectangleOf : Received → Option (Int × Int × Int × Int)
  | .init _ _ => none
  | .image _ minX minY partialWidth partialHeight _ =>
      some (minX, minY, partialWidth, partialHeight)

def seqOf : Received → Option Int
  | .init _ _ => none
  | .image seq _ _ _ _ _ => some seq

def Within (size : Int × Int) (rectangle : Int × Int × Int × Int) : Prop :=
  0 ≤ rectangle.1 ∧ 0 ≤ rectangle.2.1 ∧ 0 < rectangle.2.2.1 ∧ 0 < rectangle.2.2.2 ∧
    rectangle.1 + rectangle.2.2.1 ≤ size.1 ∧ rectangle.2.1 + rectangle.2.2.2 ≤ size.2

/-- The messages are read back. The images are numbered in turn, and each has its
rectangle inside the size that the last INITIMAGE before it names. -/
structure InOrder (sent : List ByteString) (count : Nat) (messages : List Received) : Prop where
  decoded : sent.map decodeReceived = messages.map some
  numbered : messages.filterMap seqOf = (List.range count).map Nat.cast
  within : Announced sizeOf rectangleOf Within messages

def Readable (state : ByteLoop) : Prop := ∃ messages, InOrder state.sent state.loop.seq messages

def received (jpeg : ByteString) : ImageMsg → Received
  | .initImage width height => .init width height
  | .decodeImage image =>
      .image image.seq image.minX image.minY image.partialWidth image.partialHeight jpeg

def sentBy (loop : CompressLoop) : ByteEvent → List Received
  | .iterates frame jpeg _ => (iterate loop frame jpeg.isSome).sent.map (received (jpeg.getD []))
  | .sendsFull => []

/-- What the step adds is read as its messages, and all that was sent up to then can
be read. -/
def SendsReadable (state : ByteLoop) (event : ByteEvent) : Prop :=
  ∃ following added, step state event = some following ∧ following.sent = state.sent ++ added ∧
    added.map decodeReceived = (sentBy state.loop event).map some ∧ Readable following

section Messages

def initPieces (width height : Int) : List ByteString :=
  [[MsgIdentifier.initImage.byte], intBytes width, intBytes height]

def imageFields (image : DecodeImage) (jpeg : ByteString) : List ByteString :=
  [intBytes image.seq, intBytes image.minX, intBytes image.minY, intBytes image.partialWidth,
    intBytes image.partialHeight, jpeg]

/-- The first byte is written last. -/
def imageWrites (image : DecodeImage) (jpeg : ByteString) : List (Write UInt8) :=
  laidOut 1 (imageFields image jpeg) ++
    [{ place := 0, items := [MsgIdentifier.decodeImage.byte] }]

theorem image_fields_length (image : DecodeImage) (jpeg : ByteString) :
    (imageFields image jpeg).flatten.length = 20 + jpeg.length := by
  simp [imageFields, int_bytes_length]
  omega

theorem image_writes_inside (image : DecodeImage) (jpeg : ByteString) :
    Inside (21 + jpeg.length) (imageWrites image jpeg) := by
  intro write member
  rcases List.mem_append.mp member with field | first
  · have inside := laid_out_inside (imageFields image jpeg) write field
    rw [image_fields_length] at inside
    omega
  · rw [List.mem_singleton.mp first]
    dsimp only
    rw [List.length_singleton]
    omega

theorem send_image_init_filled (width height : Int) :
    sendImageInit width height = some (filled (initPieces width height)) := by
  apply allocated_filled
  · simp [initPieces, laidOut, int_bytes_length]
  · simp [initPieces, int_bytes_length]
  · omega

theorem init_decoded {width height : Nat} (widthFits : width < 2 ^ 31)
    (heightFits : height < 2 ^ 31) :
    decodeReceived (initPieces width height).flatten = some (.init width height) := by
  have whole : initCodec.whole (initCodec.encode ((width : Int), (height : Int))) =
      some ((width : Int), (height : Int)) :=
    whole_encode ⟨int_valid widthFits, int_valid heightFits⟩
  have encoded : initCodec.encode ((width : Int), (height : Int)) =
      (initPieces width height).tail.flatten := by
    simp [initCodec, initPieces, intCodec]
  have front : (initPieces width height).flatten =
      MsgIdentifier.initImage.byte :: (initPieces width height).tail.flatten := rfl
  rw [encoded] at whole
  rw [front, decodeReceived, if_pos rfl, whole]
  rfl

theorem send_buf_message (image : DecodeImage) {jpeg : ByteString}
    (short : 21 + jpeg.length < 2 ^ 31) :
    ∃ buffer, sendBuf image jpeg = some buffer ∧
      ∀ heap, buffer.message heap =
        MsgIdentifier.decodeImage.byte :: (imageFields image jpeg).flatten := by
  have length : wrapInt jpeg.length = jpeg.length := wrap_int_fits (by omega) (by omega)
  have sent : wrapInt (21 + jpeg.length) = ((21 + jpeg.length : Nat) : Int) :=
    wrap_int_fits (by omega) (by omega)
  have size : (21 + (jpeg.length : Int)) = ((21 + jpeg.length : Nat) : Int) := by omega
  have writes : sendBuf image jpeg =
      allocated (21 + jpeg.length : Nat) (21 + jpeg.length : Nat) (imageWrites image jpeg) := by
    unfold sendBuf
    rw [length, sent, size]
    dsimp only
    rw [if_pos (Int.natCast_nonneg _), Int.toNat_natCast, List.take_length]
    rfl
  have inside := image_writes_inside image jpeg
  rw [← Int.toNat_natCast (21 + jpeg.length)] at inside
  refine ⟨_, writes.trans (if_pos ⟨by omega, by omega, by omega, by omega, inside⟩), ?_⟩
  intro heap
  have last := read_out_head_last heap [MsgIdentifier.decodeImage.byte] (imageFields image jpeg)
  rw [image_fields_length, List.length_singleton] at last
  unfold Buffer.message
  rw [Int.toNat_natCast, show 21 + jpeg.length = 1 + (20 + jpeg.length) by omega]
  exact last

theorem image_decoded {image : DecodeImage} {jpeg : ByteString} (seq : image.seq < 2 ^ 31)
    (minX : image.minX < 2 ^ 31) (minY : image.minY < 2 ^ 31)
    (partialWidth : image.partialWidth < 2 ^ 31) (partialHeight : image.partialHeight < 2 ^ 31) :
    decodeReceived (MsgIdentifier.decodeImage.byte :: (imageFields image jpeg).flatten) =
      some (.image image.seq image.minX image.minY image.partialWidth image.partialHeight
        jpeg) := by
  have read := rectangleCodec.read_encode ((image.seq : Int), (image.minX : Int),
    (image.minY : Int), (image.partialWidth : Int), (image.partialHeight : Int))
    ⟨int_valid seq, int_valid minX, int_valid minY, int_valid partialWidth,
      int_valid partialHeight⟩ jpeg
  have encoded : (imageFields image jpeg).flatten =
      rectangleCodec.encode ((image.seq : Int), (image.minX : Int), (image.minY : Int),
        (image.partialWidth : Int), (image.partialHeight : Int)) ++ jpeg := by
    simp [rectangleCodec, imageFields, intCodec]
  rw [encoded, decodeReceived, if_neg (by decide), if_pos rfl, read]
  rfl

end Messages

section Iterations

variable {loop : CompressLoop} {frame : Frame} {jpeg : Option ByteString}

def Decodes (jpeg : ByteString) (msg : ImageMsg) : Prop :=
  ∀ heap, ∃ bytes, messageBytes jpeg heap msg = some bytes ∧
    decodeReceived bytes = some (received jpeg msg)

theorem init_decodes {width height : Nat} (widthFits : width < 2 ^ 31)
    (heightFits : height < 2 ^ 31) (jpeg : ByteString) :
    Decodes jpeg (.initImage width height) := by
  intro heap
  refine ⟨(initPieces width height).flatten, ?_, init_decoded widthFits heightFits⟩
  rw [messageBytes, send_image_init_filled, Option.map_some, filled_message]

structure InFrame (frame : Frame) (box : Box) : Prop where
  columns : box.minX < box.maxX ∧ box.maxX ≤ frame.rawWidth
  rows : box.minY < box.maxY ∧ box.maxY ≤ frame.rawHeight

theorem rectangle_in_frame (width : 0 < frame.rawWidth) (height : 0 < frame.rawHeight)
    (touched : (rectangle loop frame).touched = true) :
    InFrame frame (rectangle loop frame) := by
  unfold rectangle at touched ⊢
  cases kept : compared loop frame with
  | none => exact ⟨⟨width, le_refl _⟩, ⟨height, le_refl _⟩⟩
  | some prevBuf =>
      rw [kept] at touched
      have bounded := ScanBounds.scan_bounded touched
      exact ⟨bounded.columns, bounded.rows⟩

theorem compressed_decodes {box : Box} (inFrame : InFrame frame box) {seq : Nat}
    (widthFits : frame.rawWidth < 2 ^ 31) (heightFits : frame.rawHeight < 2 ^ 31)
    (seqFits : seq < 2 ^ 31) {jpeg : ByteString} (short : 21 + jpeg.length < 2 ^ 31) :
    Decodes jpeg (.decodeImage (compressed frame box seq)) := by
  intro heap
  have columns := inFrame.columns
  have rows := inFrame.rows
  obtain ⟨buffer, made, message⟩ := send_buf_message (compressed frame box seq) short
  refine ⟨buffer.message heap, ?_, ?_⟩
  · rw [messageBytes, made, Option.map_some]
  · rw [message]
    apply image_decoded
    · exact seqFits
    · exact lt_trans (lt_of_lt_of_le columns.1 columns.2) widthFits
    · exact lt_trans (lt_of_lt_of_le rows.1 rows.2) heightFits
    · exact lt_of_le_of_lt (Nat.sub_le _ _) (lt_of_le_of_lt columns.2 widthFits)
    · exact lt_of_le_of_lt (Nat.sub_le _ _) (lt_of_le_of_lt rows.2 heightFits)

theorem compressed_within {box : Box} (inFrame : InFrame frame box) (seq : Nat)
    (jpeg : ByteString) {rectangle : Int × Int × Int × Int}
    (shown : rectangleOf (received jpeg (.decodeImage (compressed frame box seq))) =
      some rectangle) :
    Within ((frame.rawWidth : Int), (frame.rawHeight : Int)) rectangle := by
  have columns := inFrame.columns
  have rows := inFrame.rows
  rw [← Option.some.inj shown]
  simp only [Within, compressed]
  omega

theorem messages_decoded {jpeg : ByteString} {sent : List ImageMsg}
    (decodes : ∀ msg ∈ sent, Decodes jpeg msg) (heap : Nat → UInt8) :
    ∃ messages, sent.mapM (messageBytes jpeg heap) = some messages ∧
      messages.map decodeReceived = (sent.map (received jpeg)).map some := by
  induction sent with
  | nil => exact ⟨[], rfl, rfl⟩
  | cons msg rest induction =>
      obtain ⟨messages, written, read⟩ :=
        induction fun other member => decodes other (List.mem_cons_of_mem msg member)
      obtain ⟨bytes, head, decoded⟩ := decodes msg List.mem_cons_self heap
      refine ⟨bytes :: messages, ?_, ?_⟩
      · rw [List.mapM_cons, head, written]
        rfl
      · rw [List.map_cons, decoded, read, List.map_cons, List.map_cons]

def initOf (loop : CompressLoop) (frame : Frame) : List ImageMsg :=
  if resized loop frame then [.initImage frame.rawWidth frame.rawHeight] else []

theorem iterate_sends (loop : CompressLoop) (frame : Frame) (jpeg : Option ByteString) :
    ((iterate loop frame jpeg.isSome).sent = initOf loop frame ∧
        (iterate loop frame jpeg.isSome).loop.seq = loop.seq) ∨
      ∃ compressed, jpeg = some compressed ∧ (rectangle loop frame).touched = true ∧
        (iterate loop frame jpeg.isSome).sent = initOf loop frame ++
          [.decodeImage (JpegCompressor.compressed frame (rectangle loop frame) loop.seq)] ∧
        (iterate loop frame jpeg.isSome).loop.seq = loop.seq + 1 := by
  cases touched : (rectangle loop frame).touched with
  | false => exact .inl (by simp [iterate, touched, initOf])
  | true =>
      cases jpeg with
      | none => exact .inl (by simp [iterate, touched, initOf])
      | some compressed =>
          exact .inr ⟨compressed, rfl, rfl, by simp [iterate, touched, initOf],
            by simp [iterate, touched]⟩

end Iterations

section Runs

/-- The messages that an image of this number and size may follow. -/
structure Ordered (count : Nat) (width height : Nat) (messages : List Received) : Prop where
  numbered : messages.filterMap seqOf = (List.range count).map Nat.cast
  within : Announced sizeOf rectangleOf Within messages
  current : lastHeader sizeOf messages = some ((width : Int), (height : Int))

variable {loop : CompressLoop} {frame : Frame} {messages : List Received}

theorem ordered_init (ordered : Ordered loop.seq loop.width loop.height messages)
    (frame : Frame) (jpeg : ByteString) :
    Ordered loop.seq frame.rawWidth frame.rawHeight
      (messages ++ (initOf loop frame).map (received jpeg)) := by
  unfold initOf
  cases changed : resized loop frame with
  | false =>
      obtain ⟨width, height⟩ := resized_false changed
      rw [if_neg Bool.false_ne_true, List.map_nil, List.append_nil, width, height]
      exact ordered
  | true =>
      rw [if_pos rfl]
      constructor
      · rw [List.filterMap_append, ordered.numbered]
        exact List.append_nil _
      · apply announced_append_dataless ordered.within
        intro msg member
        rw [List.mem_singleton.mp member]
        rfl
      · rw [last_header_append]
        rfl

theorem ordered_image {count : Nat}
    (ordered : Ordered count frame.rawWidth frame.rawHeight messages) {box : Box}
    (inFrame : InFrame frame box) (jpeg : ByteString) :
    Ordered (count + 1) frame.rawWidth frame.rawHeight
      (messages ++ [received jpeg (.decodeImage (compressed frame box count))]) := by
  have silent : ∀ msg ∈ [received jpeg (.decodeImage (compressed frame box count))],
      sizeOf msg = none := by
    intro msg member
    rw [List.mem_singleton.mp member]
    rfl
  constructor
  · rw [List.filterMap_append, ordered.numbered, List.range_succ, List.map_append]
    rfl
  · apply announced_append_data ordered.within ordered.current silent
    intro msg member rectangle shown
    rw [List.mem_singleton.mp member] at shown
    exact compressed_within inFrame count jpeg shown
  · rw [last_header_unchanged messages silent, ordered.current]

theorem init_all_decode (loop : CompressLoop) (widthFits : frame.rawWidth < 2 ^ 31)
    (heightFits : frame.rawHeight < 2 ^ 31) (jpeg : ByteString) :
    ∀ msg ∈ initOf loop frame, Decodes jpeg msg := by
  unfold initOf
  cases resized loop frame with
  | false => nofun
  | true =>
      intro msg member
      rw [List.mem_singleton.mp member]
      exact init_decodes widthFits heightFits jpeg

/-- The messages of an iteration decode, and they go on where the ones before end. -/
theorem iterate_ordered (ordered : Ordered loop.seq loop.width loop.height messages)
    {jpeg : Option ByteString} (widthFits : frame.rawWidth < 2 ^ 31)
    (heightFits : frame.rawHeight < 2 ^ 31) (seqFits : loop.seq < 2 ^ 31)
    (made : ∀ compressed, jpeg = some compressed →
      0 < frame.rawWidth ∧ 0 < frame.rawHeight ∧ 21 + compressed.length < 2 ^ 31) :
    (∀ msg ∈ (iterate loop frame jpeg.isSome).sent, Decodes (jpeg.getD []) msg) ∧
      Ordered (iterate loop frame jpeg.isSome).loop.seq frame.rawWidth frame.rawHeight
        (messages ++ (iterate loop frame jpeg.isSome).sent.map (received (jpeg.getD []))) := by
  have inits := init_all_decode loop widthFits heightFits (jpeg.getD [])
  have resumed := ordered_init ordered frame (jpeg.getD [])
  rcases iterate_sends loop frame jpeg with ⟨sent, seq⟩ | ⟨compressed, some, touched, sent, seq⟩
  · rw [sent, seq]
    exact ⟨inits, resumed⟩
  · obtain ⟨width, height, short⟩ := made compressed some
    have inFrame := rectangle_in_frame width height touched
    rw [sent, seq, List.map_append, ← List.append_assoc]
    refine ⟨?_, ordered_image resumed inFrame _⟩
    intro msg member
    rcases List.mem_append.mp member with init | image
    · exact inits msg init
    · rw [List.mem_singleton.mp image]
      apply compressed_decodes inFrame widthFits heightFits seqFits
      rw [some]
      exact short

def Reads (state : ByteLoop) : Prop :=
  ∃ messages, state.sent.map decodeReceived = messages.map some ∧
    Ordered state.loop.seq state.loop.width state.loop.height messages

theorem reads_readable {state : ByteLoop} (reads : Reads state) : Readable state := by
  obtain ⟨messages, decoded, ordered⟩ := reads
  exact ⟨messages, decoded, ordered.numbered, ordered.within⟩

theorem step_reads {state : ByteLoop} {event : ByteEvent} (reads : Reads state)
    (fits : Fits state event) : ∃ following added, step state event = some following ∧
      following.sent = state.sent ++ added ∧
        added.map decodeReceived = (sentBy state.loop event).map some ∧ Reads following := by
  obtain ⟨messages, decoded, ordered⟩ := reads
  cases event with
  | sendsFull => exact ⟨_, [], rfl, (List.append_nil _).symm, rfl, messages, decoded, ordered⟩
  | iterates frame jpeg heap =>
      obtain ⟨widthFits, heightFits, _, seqFits, made⟩ := fits
      obtain ⟨decodes, following⟩ := iterate_ordered ordered widthFits heightFits seqFits made
      obtain ⟨added, written, read⟩ := messages_decoded decodes heap
      obtain ⟨width, height, _⟩ := iterates_loop state.loop frame jpeg.isSome
      refine ⟨{ loop := (iterate state.loop frame jpeg.isSome).loop
                sent := state.sent ++ added }, added, ?_, rfl, read,
        messages ++ (iterate state.loop frame jpeg.isSome).sent.map (received (jpeg.getD [])),
        ?_, ?_⟩
      · simp only [step, written, Option.map_some]
      · rw [List.map_append, List.map_append, decoded, read]
      · rw [width, height]
        exact following

/-- The first INITIMAGE is sent before anything is captured. -/
theorem started_reads {width height : Nat} (widthFits : width < 2 ^ 31)
    (heightFits : height < 2 ^ 31) (fullFlag : Bool) (heap : Nat → UInt8) :
    ∃ start, started width height fullFlag heap = some start ∧ Reads start := by
  have decodes : ∀ msg ∈ (compressJpegLoop width height fullFlag).2, Decodes [] msg := by
    intro msg member
    rw [List.mem_singleton.mp member]
    exact init_decodes widthFits heightFits []
  obtain ⟨bytes, written, read⟩ := messages_decoded decodes heap
  refine ⟨{ loop := (compressJpegLoop width height fullFlag).1, sent := bytes }, ?_,
    [.init width height], read, ?_⟩
  · simp only [started, written, Option.map_some]
  · constructor
    · rfl
    · apply announced_append_dataless announced_nil
      intro msg member
      rw [List.mem_singleton.mp member]
      rfl
    · rfl

/-- In a run whose sizes and numbers an `int` holds, each message that is sent can be
read: the images are numbered in turn, each inside the size that was named last. -/
theorem run_sends_readable {width height : Nat} (widthFits : width < 2 ^ 31)
    (heightFits : height < 2 ^ 31) (fullFlag : Bool) (heap : Nat → UInt8) :
    ∃ start, started width height fullFlag heap = some start ∧ Readable start ∧
      ∀ events, Along step Fits start events → Along step SendsReadable start events := by
  obtain ⟨start, written, reads⟩ := started_reads widthFits heightFits fullFlag heap
  refine ⟨start, written, reads_readable reads, ?_⟩
  intro events fits
  apply along_of_invariant Reads _ _ reads fits
  · intro state event before eventFits
    obtain ⟨following, added, stepped, sent, read, after⟩ := step_reads before eventFits
    exact ⟨following, added, stepped, sent, read, reads_readable after⟩
  · intro state event following before eventFits stepped
    obtain ⟨other, _, otherStepped, _, _, after⟩ := step_reads before eventFits
    rw [stepped] at otherStepped
    rw [Option.some.inj otherStepped]
    exact after

def sampleFrame : Frame where
  rawWidth := 1
  rawHeight := 1
  data := [1, 2, 3]
  sized := rfl

def sampleStart : ByteLoop where
  loop := (compressJpegLoop 1 1 false).1
  sent := [[2, 1, 0, 0, 0, 1, 0, 0, 0]]

/-- A first image, and one that `tjCompress2` refuses. -/
theorem refused_run_readable :
    Along step SendsReadable sampleStart
      [.iterates sampleFrame (some [9]) fun _ => 7, .sendsFull,
        .iterates sampleFrame none fun _ => 7] := by
  obtain ⟨start, written, _, runs⟩ :=
    @run_sends_readable 1 1 (by decide) (by decide) false fun _ => 7
  have same : started 1 1 false (fun _ => 7) = some sampleStart := rfl
  rw [same] at written
  rw [Option.some.inj written]
  apply runs
  rw [← Option.some.inj written]
  have first : Fits sampleStart (.iterates sampleFrame (some [9]) fun _ => 7) := by
    refine ⟨by decide, by decide, by decide, by decide, ?_⟩
    intro compressed same
    rw [← Option.some.inj same]
    decide
  refine along_cons rfl first (along_cons rfl trivial (along_cons rfl ?_ trivial))
  exact ⟨by decide, by decide, by decide, by decide, nofun⟩

end Runs

end Collabo.ImageBytes
