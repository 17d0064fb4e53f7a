import Collabo.VideoQueueAccepting
import Mathlib.Data.List.Nodup
import Mathlib.Logic.Function.Basic

/-!
# The library's objects of the encoder

The pointers of the encoder to what the media library allocated, over the calls of
`initialize` and `stop`. Streams are freed with their format context and buffers with
their frames. A dictionary is the one that `dict` points to, whatever the library puts in.
A run ends where `NULL` is dereferenced.
-/

namespace Collabo.EncoderObjects

open Collabo.EncoderSession Collabo.VideoQueueAccepting

set_option autoImplicit false

inductive Slot where
  | fmtCtx
  | videoStream
  | audioStream
  | videoCC
  | swsCtx
  | audioCC
  | swrCtx
  | dict
  | videoFrame
  | videoPkt
  | audioFrame
  | audioPkt
  | audioTmpFrame
  | ioCtx
  deriving DecidableEq, Repr

def Slot.isStream : Slot → Bool
  | .videoStream => true
  | .audioStream => true
  | _ => false

/-- The objects are numbered as they are allocated, and `kinds` has the pointer that
each was allocated for. `streams` are those of the context that `fmtCtx` points to. -/
structure Objects where
  pointer : Slot → Option Nat
  kinds : List Slot
  freed : List Nat
  streams : List Nat

def Objects.none : Objects where
  pointer _ := .none
  kinds := []
  freed := []
  streams := []

def Objects.setNull (objects : Objects) (slot : Slot) : Objects :=
  { objects with pointer := Function.update objects.pointer slot .none }

def Objects.assign (objects : Objects) (slot : Slot) (succeeded : Bool) : Objects :=
  if succeeded then
    { objects with
      pointer := Function.update objects.pointer slot (some objects.kinds.length)
      kinds := objects.kinds ++ [slot]
      streams :=
        if slot.isStream then objects.streams ++ [objects.kinds.length] else objects.streams }
  else objects.setNull slot

def Objects.owned (objects : Objects) (slot : Slot) : List Nat :=
  if slot = .fmtCtx then objects.streams else []

/-- `if(p != NULL) { free(&p); p = NULL; }`. The streams keep their pointers. -/
def Objects.free (objects : Objects) (slot : Slot) : Objects :=
  match objects.pointer slot with
  | .none => objects
  | some object =>
      { objects.setNull slot with
        freed := objects.freed ++ object :: objects.owned slot
        streams := if slot = .fmtCtx then [] else objects.streams }

/-- `av_dict_set` allocates the dictionary where there is none. -/
def Objects.setDict (objects : Objects) : Objects :=
  match objects.pointer .dict with
  | .none => objects.assign .dict true
  | some _ => objects

/-- What `initialize` asks of the library, with the state that is returned where the
call fails. The result of `avio_alloc_context` is not looked at. -/
inductive LibCall where
  | allocates (slot : Slot) (succeeds : Bool) (error : EncoderState)
  | checks (succeeds : Bool) (error : EncoderState)
  | createsIoCtx
  | setsDict
  | freesDict
  deriving DecidableEq, Repr

def perform (objects : Objects) : LibCall → Option EncoderState × Objects
  | .allocates slot succeeds error =>
      (if succeeds then none else some error, objects.assign slot succeeds)
  | .checks succeeds error => (if succeeds then none else some error, objects)
  | .createsIoCtx => (none, objects.assign .ioCtx true)
  | .setsDict => (none, objects.setDict)
  | .freesDict => (none, objects.free .dict)

def performAll : Objects → List LibCall → EncoderState × Objects
  | objects, [] => (.success, objects)
  | objects, call :: rest =>
      match perform objects call with
      | (some error, after) => (error, after)
      | (none, after) => performAll after rest

def videoOpenCalls (lib : Libav) : List LibCall :=
  [.checks lib.videoEncoder .videoCodecError,
    .allocates .videoStream lib.videoNewStream .videoNewStreamError,
    .allocates .videoCC lib.videoCodecContext .videoCodecContextError,
    .allocates .swsCtx lib.swsContext .videoSwsGetContextError]

def audioOpenCalls (lib : Libav) : List LibCall :=
  [.checks lib.audioEncoder .audioCodecError,
    .allocates .audioStream lib.audioNewStream .audioNewStreamError,
    .allocates .audioCC lib.audioCodecContext .audioCodecContextError,
    .allocates .swrCtx lib.swrAlloc .audioSwrAllocError,
    .checks lib.swrInit .audioSwrInitError]

def videoAllocCalls (lib : Libav) : List LibCall :=
  [.setsDict, .checks lib.videoOpen .videoCodecOpenError, .freesDict,
    .checks lib.videoCodecpar .videoCodecparError,
    .allocates .videoFrame lib.videoFrame .videoAllocFrameError,
    .checks lib.videoFrameBuffer .videoAllocFrameBufferError,
    .allocates .videoPkt lib.videoPacket .videoAllocPacketError]

def audioAllocCalls (lib : Libav) : List LibCall :=
  [.checks lib.audioOpen .audioCodecOpenError, .checks lib.audioCodecpar .audioCodecparError,
    .allocates .audioFrame lib.audioFrame .audioAllocFrameError,
    .checks lib.audioFrameBuffer .audioAllocFrameBufferError,
    .allocates .audioPkt lib.audioPacket .audioAllocPacketError,
    .allocates .audioTmpFrame lib.audioTmpFrame .audioAllocFrameError,
    .checks lib.audioTmpFrameBuffer .audioAllocFrameBufferError]

def headerCalls (lib : Libav) : List LibCall :=
  [.createsIoCtx, .setsDict, .checks lib.writeHeader .writeHeaderError, .freesDict]

def streamCalls (lib : Libav) (format : OutputFormat) (eCtx : EncoderContext) : List LibCall :=
  (if wantsVideo format eCtx then videoOpenCalls lib else []) ++
    ((if wantsAudio format eCtx then audioOpenCalls lib else []) ++
      ((if wantsVideo format eCtx then videoAllocCalls lib else []) ++
        (if wantsAudio format eCtx then audioAllocCalls lib else [])))

def initializeCalls (lib : Libav) (eCtx : EncoderContext) : List LibCall :=
  match lib.outputContext with
  | none => [.allocates .fmtCtx false .formatContextError]
  | some format =>
      .allocates .fmtCtx true .formatContextError ::
        (streamCalls lib format eCtx ++ headerCalls lib)

/-- The pointers that `initialize` sets to `NULL` first. The codec contexts are not
among them. -/
def resetSlots : List Slot :=
  [.fmtCtx, .videoStream, .audioStream, .ioCtx, .videoFrame, .audioFrame, .videoPkt, .audioPkt,
    .swsCtx, .swrCtx, .dict, .audioTmpFrame]

/-- What `stop` frees, in its order. What it has for the streams is commented out. -/
def stopSlots : List Slot :=
  [.videoFrame, .audioFrame, .audioTmpFrame, .videoPkt, .audioPkt, .videoCC, .audioCC, .fmtCtx,
    .swsCtx, .swrCtx, .dict]

structure Held where
  enc : Encoder
  objects : Objects

/-- `survives` is for a trailer that is written to a context without a header, which the
library does not allow: it may come back from that or not. -/
inductive SessionCall where
  | initializes (mEncCtx : EncoderContext) (lib : Libav)
  | stops (survives : Bool)

def initializeObjects (objects : Objects) (mEncCtx : EncoderContext) (lib : Libav) :
    EncoderState × Objects :=
  performAll (resetSlots.foldl Objects.setNull objects) (initializeCalls lib mEncCtx)

/-- The interval of a video loop is `videoCC->time_base.den` of a second. -/
def readsVideoCC : Loop → Bool
  | .video _ => true
  | .audio _ => false

def loopsStart (mEncCtx : EncoderContext) (objects : Objects) : Bool :=
  !(startedLoops mEncCtx).any readsVideoCC || (objects.pointer .videoCC).isSome

def trailerReturns (held : Held) (survives : Bool) : Bool :=
  held.enc.headerWritten || (survives && (held.objects.pointer .fmtCtx).isSome)

def step (held : Held) : SessionCall → Option Held
  | .initializes mEncCtx lib =>
      let enc := (initializeEncoder held.enc mEncCtx lib).2
      if held.enc.stopped then
        match initializeObjects held.objects mEncCtx lib with
        | (.success, objects) =>
            if loopsStart mEncCtx objects then some { enc := enc, objects := objects } else none
        | (_, objects) => some { enc := enc, objects := objects }
      else some { enc := enc, objects := held.objects }
  | .stops survives =>
      let enc := (EncoderSession.stop held.enc).2
      if held.enc.stopped then some { enc := enc, objects := held.objects }
      else if trailerReturns held survives then
        some { enc := enc, objects := stopSlots.foldl Objects.free held.objects }
      else none

/-- The encoder is static, so its pointers start out as `NULL`. -/
def constructed (eCtx : EncoderContext) (audioBytes : Int) : Held where
  enc := EncoderSession.constructed eCtx audioBytes
  objects := Objects.none

/-- The only pointers to what was freed are those of the streams of a stopped encoder, and
all that a stopped encoder has not freed are the I/O contexts. -/
structure Accounted (held : Held) : Prop where
  freedOnce : held.objects.freed.Nodup
  pointed : ∀ slot object, held.objects.pointer slot = some object →
    held.objects.kinds[object]? = some slot ∧
      (object ∈ held.objects.freed ↔ held.enc.stopped = true ∧ slot.isStream = true)
  unfreed : ∀ slot object, held.objects.kinds[object]? = some slot →
    object ∉ held.objects.freed → slot = .ioCtx ∨ held.objects.pointer slot = some object
  stopped : held.enc.stopped = true → ∀ slot object, held.objects.kinds[object]? = some slot →
    (object ∈ held.objects.freed ↔ slot ≠ .ioCtx)
  agrees : held.enc.stopped = true → ∀ mEncCtx lib,
    (initializeObjects held.objects mEncCtx lib).1 = (initializeEncoder held.enc mEncCtx lib).1

/-- No object is freed twice, each object that was not freed has its pointer, but for the
I/O contexts, and no pointer is left to one that was freed, but for those of the streams
where they may be `stale`. -/
structure WellKept (stale : Bool) (objects : Objects) : Prop where
  freedOnce : objects.freed.Nodup
  freedKnown : ∀ object ∈ objects.freed, ∃ slot, objects.kinds[object]? = some slot ∧
    slot ≠ .ioCtx
  pointed : ∀ slot object, objects.pointer slot = some object →
    objects.kinds[object]? = some slot ∧
      (object ∈ objects.freed → stale = true ∧ slot.isStream = true)
  unfreed : ∀ slot object, objects.kinds[object]? = some slot → object ∉ objects.freed →
    slot = .ioCtx ∨ objects.pointer slot = some object
  streamsOnce : objects.streams.Nodup
  streams : ∀ object, object ∈ objects.streams ↔
    object ∉ objects.freed ∧ ∃ slot, objects.kinds[object]? = some slot ∧ slot.isStream = true
  contextless : objects.pointer .fmtCtx = none → objects.streams = []

section Keeping

variable {stale : Bool} {objects : Objects} {slot : Slot}

theorem none_well_kept : WellKept true Objects.none where
  freedOnce := List.nodup_nil
  freedKnown _ member := by cases member
  pointed _ _ pointing := by cases pointing
  unfreed _ _ known := by cases known
  streamsOnce := List.nodup_nil
  streams object := by
    refine ⟨fun member => absurd member List.not_mem_nil, ?_⟩
    rintro ⟨_, _, known, _⟩
    cases known
  contextless _ := rfl

theorem set_null_other {other : Slot} (different : other ≠ slot) :
    (objects.setNull slot).pointer other = objects.pointer other :=
  Function.update_of_ne different _ _

theorem set_null_same : (objects.setNull slot).pointer slot = none :=
  Function.update_self _ _ _

/-- The pointers that may be overwritten: whatever they point to is freed, or is an I/O
context, which is lost. -/
def Spare (objects : Objects) (slot : Slot) : Prop :=
  slot = .ioCtx ∨ ∀ object, objects.pointer slot = some object → object ∈ objects.freed

theorem spare_of_null (null : slot = .ioCtx ∨ objects.pointer slot = none) :
    Spare objects slot := by
  refine null.imp_right fun null object pointing => ?_
  rw [null] at pointing
  cases pointing

theorem set_null_well_kept (kept : WellKept stale objects) (spare : Spare objects slot) :
    WellKept stale (objects.setNull slot) where
  freedOnce := kept.freedOnce
  freedKnown := kept.freedKnown
  pointed := by
    intro other object pointing
    by_cases same : other = slot
    · rw [same, set_null_same] at pointing
      cases pointing
    · rw [set_null_other same] at pointing
      exact kept.pointed other object pointing
  unfreed := by
    intro other object known unfreed
    rcases kept.unfreed other object known unfreed with lost | pointing
    · exact .inl lost
    · by_cases same : other = slot
      · rw [same] at pointing ⊢
        exact .inl (spare.resolve_right fun freed => unfreed (freed object pointing))
      · exact .inr ((set_null_other same).trans pointing)
  streamsOnce := kept.streamsOnce
  streams := kept.streams
  contextless := by
    intro null
    apply kept.contextless
    by_cases same : Slot.fmtCtx = slot
    · cases pointing : objects.pointer .fmtCtx with
      | none => rfl
      | some context =>
          rw [← same] at spare
          have freed := spare.resolve_left nofun context pointing
          cases ((kept.pointed .fmtCtx context pointing).2 freed).2
    · exact (set_null_other same).symm.trans null

theorem assign_other {other : Slot} (different : other ≠ slot) (succeeded : Bool) :
    (objects.assign slot succeeded).pointer other = objects.pointer other := by
  cases succeeded with
  | false => exact set_null_other different
  | true => exact Function.update_of_ne different _ _

theorem assign_same : (objects.assign slot true).pointer slot = some objects.kinds.length :=
  Function.update_self _ _ _

theorem known_append {object : Nat} {kind : Slot} (latest : Slot)
    (known : objects.kinds[object]? = some kind) :
    (objects.kinds ++ [latest])[object]? = some kind := by
  rw [List.getElem?_append_left (List.getElem?_eq_some_iff.mp known).1]
  exact known

/-- What is known behind an allocation is known before it, or it is what was allocated. -/
theorem known_cases {object : Nat} {kind latest : Slot}
    (known : (objects.kinds ++ [latest])[object]? = some kind) :
    objects.kinds[object]? = some kind ∨ object = objects.kinds.length ∧ kind = latest := by
  by_cases earlier : object < objects.kinds.length
  · rw [List.getElem?_append_left earlier] at known
    exact .inl known
  · have bounded := (List.getElem?_eq_some_iff.mp known).1
    rw [List.length_append, List.length_singleton] at bounded
    have last : object = objects.kinds.length := by omega
    rw [last, List.getElem?_concat_length] at known
    exact .inr ⟨last, (Option.some.inj known).symm⟩

theorem WellKept.fresh (kept : WellKept stale objects) :
    objects.kinds.length ∉ objects.freed := by
  intro member
  obtain ⟨kind, known, _⟩ := kept.freedKnown _ member
  rw [List.getElem?_eq_none (le_refl _)] at known
  cases known

theorem assign_streams (kept : WellKept stale objects) (object : Nat) :
    object ∈ (objects.assign slot true).streams ↔
      object ∉ objects.freed ∧ ∃ kind, (objects.kinds ++ [slot])[object]? = some kind ∧
        kind.isStream = true := by
  have before := kept.streams object
  have added : object ∈ (objects.assign slot true).streams ↔
      object ∈ objects.streams ∨ object = objects.kinds.length ∧ slot.isStream = true := by
    change object ∈ (if slot.isStream then objects.streams ++ [objects.kinds.length]
      else objects.streams) ↔ _
    cases slot.isStream with
    | false => simp
    | true => simp
  rw [added]
  constructor
  · rintro (earlier | ⟨rfl, stream⟩)
    · obtain ⟨unfreed, kind, known, stream⟩ := before.mp earlier
      exact ⟨unfreed, kind, known_append slot known, stream⟩
    · exact ⟨kept.fresh, slot, List.getElem?_concat_length, stream⟩
  · rintro ⟨unfreed, kind, known, stream⟩
    rcases known_cases known with earlier | ⟨latest, rfl⟩
    · exact .inl (before.mpr ⟨unfreed, kind, earlier, stream⟩)
    · exact .inr ⟨latest, stream⟩

theorem assign_streams_once (kept : WellKept stale objects) :
    (objects.assign slot true).streams.Nodup := by
  change (if slot.isStream then objects.streams ++ [objects.kinds.length]
    else objects.streams).Nodup
  cases slot.isStream with
  | false => exact kept.streamsOnce
  | true =>
      refine List.nodup_append.mpr ⟨kept.streamsOnce, List.nodup_singleton _, ?_⟩
      rintro object member other single rfl
      rw [List.mem_singleton.mp single] at member
      obtain ⟨_, kind, known, _⟩ := (kept.streams _).mp member
      rw [List.getElem?_eq_none (le_refl _)] at known
      cases known

theorem assign_well_kept (kept : WellKept stale objects) (spare : Spare objects slot)
    (context : slot.isStream = true → objects.pointer .fmtCtx ≠ none) (succeeded : Bool) :
    WellKept stale (objects.assign slot succeeded) := by
  cases succeeded with
  | false => exact set_null_well_kept kept spare
  | true =>
      constructor
      · exact kept.freedOnce
      · intro object member
        obtain ⟨kind, known, different⟩ := kept.freedKnown object member
        exact ⟨kind, known_append slot known, different⟩
      · intro other object pointing
        by_cases same : other = slot
        · rw [same] at pointing ⊢
          have latest := Option.some.inj (assign_same.symm.trans pointing)
          rw [← latest]
          exact ⟨List.getElem?_concat_length, fun freed => absurd freed kept.fresh⟩
        · rw [assign_other same] at pointing
          obtain ⟨known, freed⟩ := kept.pointed other object pointing
          exact ⟨known_append slot known, freed⟩
      · intro other object known unfreed
        rcases known_cases known with earlier | ⟨latest, same⟩
        · rcases kept.unfreed other object earlier unfreed with lost | pointing
          · exact .inl lost
          · by_cases same : other = slot
            · rw [same] at pointing ⊢
              exact .inl (spare.resolve_right fun freed => unfreed (freed object pointing))
            · rw [assign_other same]
              exact .inr pointing
        · rw [same, latest]
          exact .inr assign_same
      · exact assign_streams_once kept
      · exact assign_streams kept
      · intro null
        by_cases same : Slot.fmtCtx = slot
        · rw [← same, assign_same] at null
          cases null
        · rw [assign_other same] at null
          change (if slot.isStream then objects.streams ++ [objects.kinds.length]
            else objects.streams) = []
          rw [if_neg fun stream => context stream null]
          exact kept.contextless null

theorem free_other {other : Slot} (different : other ≠ slot) :
    (objects.free slot).pointer other = objects.pointer other := by
  unfold Objects.free
  cases objects.pointer slot with
  | none => rfl
  | some object => exact set_null_other different

theorem free_same : (objects.free slot).pointer slot = none := by
  unfold Objects.free
  cases pointing : objects.pointer slot with
  | none => exact pointing
  | some object => exact set_null_same

theorem mem_owned {object : Nat} :
    object ∈ objects.owned slot ↔ slot = .fmtCtx ∧ object ∈ objects.streams := by
  unfold Objects.owned
  by_cases same : slot = .fmtCtx
  · rw [if_pos same]
    exact ⟨fun member => ⟨same, member⟩, And.right⟩
  · rw [if_neg same]
    exact ⟨fun member => absurd member List.not_mem_nil, fun both => absurd both.1 same⟩

/-- The pointers that may be freed. The streams go with their context, so their pointers
have to be allowed to be stale. -/
structure Freeable (stale : Bool) (slot : Slot) : Prop where
  notIo : slot ≠ .ioCtx
  notStream : slot.isStream = false
  context : slot = .fmtCtx → stale = true

theorem freeable_unfreed (kept : WellKept stale objects) (freeable : Freeable stale slot)
    {freed : Nat} (pointing : objects.pointer slot = some freed) : freed ∉ objects.freed := by
  intro member
  cases freeable.notStream.symm.trans ((kept.pointed slot freed pointing).2 member).2

theorem pointed_kind (kept : WellKept stale objects) {freed : Nat} {kind : Slot}
    (pointing : objects.pointer slot = some freed) (known : objects.kinds[freed]? = some kind) :
    kind = slot :=
  Option.some.inj (known.symm.trans (kept.pointed slot freed pointing).1)

theorem owned_stream (kept : WellKept stale objects) {object : Nat}
    (owned : object ∈ objects.owned slot) :
    object ∉ objects.freed ∧ ∃ kind, objects.kinds[object]? = some kind ∧ kind.isStream = true :=
  (kept.streams object).mp (mem_owned.mp owned).2

theorem mem_freed_after {freed object : Nat} :
    object ∈ objects.freed ++ freed :: objects.owned slot ↔
      object ∈ objects.freed ∨ object = freed ∨ object ∈ objects.owned slot := by
  rw [List.mem_append, List.mem_cons]

theorem free_freed_once (kept : WellKept stale objects) (freeable : Freeable stale slot)
    {freed : Nat} (pointing : objects.pointer slot = some freed) :
    (objects.freed ++ freed :: objects.owned slot).Nodup := by
  refine List.nodup_append.mpr ⟨kept.freedOnce, List.nodup_cons.mpr ⟨?_, ?_⟩, ?_⟩
  · intro owned
    obtain ⟨_, kind, known, stream⟩ := owned_stream kept owned
    rw [pointed_kind kept pointing known, freeable.notStream] at stream
    cases stream
  · unfold Objects.owned
    split
    · exact kept.streamsOnce
    · exact List.nodup_nil
  · rintro object member other latest rfl
    rcases List.mem_cons.mp latest with rfl | owned
    · exact freeable_unfreed kept freeable pointing member
    · exact (owned_stream kept owned).1 member

theorem free_pointed (kept : WellKept stale objects) (freeable : Freeable stale slot)
    {freed object : Nat} {other : Slot} (pointing : objects.pointer slot = some freed)
    (still : (objects.setNull slot).pointer other = some object) :
    objects.kinds[object]? = some other ∧
      (object ∈ objects.freed ++ freed :: objects.owned slot →
        stale = true ∧ other.isStream = true) := by
  by_cases same : other = slot
  · rw [same] at still
    cases set_null_same.symm.trans still
  · obtain ⟨known, wasStale⟩ := kept.pointed other object (set_null_other same ▸ still)
    refine ⟨known, fun member => ?_⟩
    rcases mem_freed_after.mp member with earlier | rfl | owned
    · exact wasStale earlier
    · exact absurd (pointed_kind kept pointing known) same
    · obtain ⟨_, kind, ownedKind, stream⟩ := owned_stream kept owned
      rw [Option.some.inj (known.symm.trans ownedKind)]
      exact ⟨freeable.context (mem_owned.mp owned).1, stream⟩

theorem free_unfreed (kept : WellKept stale objects) {freed object : Nat} {other : Slot}
    (pointing : objects.pointer slot = some freed) (known : objects.kinds[object]? = some other)
    (unfreed : object ∉ objects.freed ++ freed :: objects.owned slot) :
    other = .ioCtx ∨ (objects.setNull slot).pointer other = some object := by
  have unfreedBefore : object ∉ objects.freed :=
    fun member => unfreed (List.mem_append_left _ member)
  rcases kept.unfreed other object known unfreedBefore with lost | still
  · exact .inl lost
  · by_cases same : other = slot
    · rw [same] at still
      have latest := Option.some.inj (still.symm.trans pointing)
      exact absurd (mem_freed_after.mpr (.inr (.inl latest))) unfreed
    · exact .inr ((set_null_other same).trans still)

theorem free_streams (kept : WellKept stale objects) (freeable : Freeable stale slot)
    {freed : Nat} (pointing : objects.pointer slot = some freed) (object : Nat) :
    object ∈ (if slot = .fmtCtx then [] else objects.streams) ↔
      object ∉ objects.freed ++ freed :: objects.owned slot ∧
        ∃ kind, objects.kinds[object]? = some kind ∧ kind.isStream = true := by
  by_cases same : slot = .fmtCtx
  · rw [if_pos same]
    refine ⟨fun member => absurd member List.not_mem_nil, ?_⟩
    rintro ⟨unfreed, kind, known, stream⟩
    have unfreedBefore : object ∉ objects.freed :=
      fun member => unfreed (List.mem_append_left _ member)
    have owned := mem_owned.mpr
      ⟨same, (kept.streams object).mpr ⟨unfreedBefore, kind, known, stream⟩⟩
    exact absurd (mem_freed_after.mpr (.inr (.inr owned))) unfreed
  · rw [if_neg same, kept.streams object]
    constructor
    · rintro ⟨unfreed, kind, known, stream⟩
      refine ⟨fun member => ?_, kind, known, stream⟩
      rcases mem_freed_after.mp member with earlier | rfl | owned
      · exact unfreed earlier
      · rw [pointed_kind kept pointing known, freeable.notStream] at stream
        cases stream
      · exact same (mem_owned.mp owned).1
    · rintro ⟨unfreed, stream⟩
      exact ⟨fun member => unfreed (List.mem_append_left _ member), stream⟩

theorem free_well_kept (kept : WellKept stale objects) (freeable : Freeable stale slot) :
    WellKept stale (objects.free slot) := by
  unfold Objects.free
  cases pointing : objects.pointer slot with
  | none => exact kept
  | some freed =>
      constructor
      · exact free_freed_once kept freeable pointing
      · intro object member
        rcases mem_freed_after.mp member with earlier | rfl | owned
        · exact kept.freedKnown object earlier
        · exact ⟨slot, (kept.pointed slot object pointing).1, freeable.notIo⟩
        · obtain ⟨_, kind, known, stream⟩ := owned_stream kept owned
          exact ⟨kind, known, fun same => by rw [same] at stream; cases stream⟩
      · exact fun other object still => free_pointed kept freeable pointing still
      · exact fun other object known unfreed => free_unfreed kept pointing known unfreed
      · dsimp only
        split
        · exact List.nodup_nil
        · exact kept.streamsOnce
      · exact free_streams kept freeable pointing
      · intro null
        dsimp only
        split
        · rfl
        · next different =>
            exact kept.contextless ((set_null_other (Ne.symm different)).symm.trans null)

theorem set_dict_well_kept (kept : WellKept stale objects) :
    WellKept stale objects.setDict := by
  unfold Objects.setDict
  cases pointing : objects.pointer .dict with
  | none => exact assign_well_kept kept (spare_of_null (.inr pointing)) nofun true
  | some object => exact kept

theorem set_dict_other (different : slot ≠ .dict) :
    objects.setDict.pointer slot = objects.pointer slot := by
  unfold Objects.setDict
  cases objects.pointer .dict with
  | none => exact assign_other different true
  | some object => rfl

end Keeping

section Calls

variable {stale : Bool} {objects : Objects}

def LibCall.slot : LibCall → Option Slot
  | .allocates slot _ _ => some slot
  | .checks _ _ => none
  | .createsIoCtx => some .ioCtx
  | .setsDict => none
  | .freesDict => none

/-- There is a context, and the other pointers to be assigned are all different, none is
the dictionary's, and they are `NULL`, but for that of the I/O context. -/
structure Ready (objects : Objects) (calls : List LibCall) : Prop where
  context : objects.pointer .fmtCtx ≠ none
  distinct : (calls.filterMap LibCall.slot).Nodup
  others : .dict ∉ calls.filterMap LibCall.slot ∧ .fmtCtx ∉ calls.filterMap LibCall.slot
  null : ∀ slot ∈ calls.filterMap LibCall.slot, slot = .ioCtx ∨ objects.pointer slot = none

theorem perform_well_kept {call : LibCall} (kept : WellKept stale objects)
    (context : objects.pointer .fmtCtx ≠ none)
    (spare : ∀ slot, call.slot = some slot → Spare objects slot) :
    WellKept stale (perform objects call).2 := by
  cases call with
  | allocates slot succeeds error =>
      exact assign_well_kept kept (spare slot rfl) (fun _ => context) succeeds
  | checks succeeds error => exact kept
  | createsIoCtx => exact assign_well_kept kept (.inl rfl) nofun true
  | setsDict => exact set_dict_well_kept kept
  | freesDict => exact free_well_kept kept ⟨nofun, rfl, nofun⟩

theorem perform_other {call : LibCall} {slot : Slot} (different : call.slot ≠ some slot)
    (notDict : slot ≠ .dict) : (perform objects call).2.pointer slot = objects.pointer slot := by
  cases call with
  | allocates assigned succeeds error =>
      exact assign_other (fun same => different (congrArg some same.symm)) succeeds
  | checks succeeds error => rfl
  | createsIoCtx => exact assign_other (fun same => different (congrArg some same.symm)) true
  | setsDict => exact set_dict_other notDict
  | freesDict => exact free_other notDict

theorem ready_behind {call : LibCall} {rest : List LibCall}
    (ready : Ready objects (call :: rest)) : Ready (perform objects call).2 rest := by
  obtain ⟨context, distinct, ⟨notDict, notContext⟩, null⟩ := ready
  cases assigned : call.slot with
  | none =>
      rw [List.filterMap_cons_none assigned] at distinct notDict notContext null
      have kept : ∀ slot, slot ≠ .dict →
          (perform objects call).2.pointer slot = objects.pointer slot :=
        fun slot => perform_other (by rw [assigned]; nofun)
      refine ⟨by rwa [kept .fmtCtx nofun], distinct, ⟨notDict, notContext⟩, fun slot member => ?_⟩
      rw [kept slot fun same => notDict (same ▸ member)]
      exact null slot member
  | some first =>
      rw [List.filterMap_cons_some assigned] at distinct notDict notContext null
      obtain ⟨unused, distinct⟩ := List.nodup_cons.mp distinct
      obtain ⟨_, notDict⟩ := List.ne_and_not_mem_of_not_mem_cons notDict
      obtain ⟨firstOther, notContext⟩ := List.ne_and_not_mem_of_not_mem_cons notContext
      have kept : ∀ slot, first ≠ slot → slot ≠ .dict →
          (perform objects call).2.pointer slot = objects.pointer slot :=
        fun slot different =>
          perform_other (by rw [assigned]; exact fun same => different (Option.some.inj same))
      refine ⟨by rwa [kept .fmtCtx (Ne.symm firstOther) nofun], distinct, ⟨notDict, notContext⟩,
        fun slot member => ?_⟩
      rw [kept slot (fun same => unused (same ▸ member)) fun same => notDict (same ▸ member)]
      exact null slot (List.mem_cons_of_mem _ member)

theorem perform_all_well_kept {calls : List LibCall} (kept : WellKept stale objects)
    (ready : Ready objects calls) : WellKept stale (performAll objects calls).2 := by
  induction calls generalizing objects with
  | nil => exact kept
  | cons call rest induction =>
      have spare : ∀ slot, call.slot = some slot → Spare objects slot := by
        intro slot assigned
        apply spare_of_null
        apply ready.null
        rw [List.filterMap_cons_some assigned]
        exact List.mem_cons_self
      have first := perform_well_kept kept ready.context spare
      have later := ready_behind ready
      rw [performAll]
      cases performed : perform objects call with
      | mk failure after =>
          rw [performed] at first later
          cases failure with
          | some error => exact first
          | none => exact induction first later

theorem set_nulls_well_kept {slots : List Slot} (kept : WellKept stale objects)
    (spare : ∀ slot ∈ slots, Spare objects slot) :
    WellKept stale (slots.foldl Objects.setNull objects) := by
  induction slots generalizing objects with
  | nil => exact kept
  | cons slot rest induction =>
      apply induction (set_null_well_kept kept (spare slot List.mem_cons_self))
      intro other member
      by_cases same : other = slot
      · exact spare_of_null (.inr (same ▸ set_null_same))
      · exact (spare other (List.mem_cons_of_mem _ member)).imp_right fun freed object pointing =>
          freed object ((set_null_other same).symm.trans pointing)

theorem set_nulls_null {slots : List Slot} {slot : Slot}
    (null : slot ∈ slots ∨ objects.pointer slot = none) :
    (slots.foldl Objects.setNull objects).pointer slot = none := by
  induction slots generalizing objects with
  | nil => exact null.resolve_left List.not_mem_nil
  | cons first rest induction =>
      apply induction
      by_cases same : slot = first
      · exact .inr (same ▸ set_null_same)
      · rcases null with member | null
        · exact .inl ((List.mem_cons.mp member).resolve_left same)
        · exact .inr ((set_null_other same).trans null)

theorem frees_well_kept {slots : List Slot} (kept : WellKept stale objects)
    (freeable : ∀ slot ∈ slots, Freeable stale slot) :
    WellKept stale (slots.foldl Objects.free objects) := by
  induction slots generalizing objects with
  | nil => exact kept
  | cons slot rest induction =>
      apply induction
      · exact free_well_kept kept (freeable slot List.mem_cons_self)
      · exact fun other member => freeable other (List.mem_cons_of_mem _ member)

theorem frees_null {slots : List Slot} {slot : Slot}
    (freed : slot ∈ slots ∨ objects.pointer slot = none) :
    (slots.foldl Objects.free objects).pointer slot = none := by
  induction slots generalizing objects with
  | nil => exact freed.resolve_left List.not_mem_nil
  | cons first rest induction =>
      apply induction
      by_cases same : slot = first
      · exact .inr (same ▸ free_same)
      · rcases freed with member | null
        · exact .inl ((List.mem_cons.mp member).resolve_left same)
        · exact .inr ((free_other same).trans null)

theorem WellKept.current (kept : WellKept true objects)
    (null : ∀ slot, slot.isStream = true → objects.pointer slot = none) :
    WellKept false objects where
  __ := kept
  pointed := by
    intro slot object pointing
    obtain ⟨known, freed⟩ := kept.pointed slot object pointing
    refine ⟨known, fun member => ?_⟩
    rw [null slot (freed member).2] at pointing
    cases pointing

theorem WellKept.relax (kept : WellKept false objects) : WellKept stale objects where
  __ := kept
  pointed := by
    intro slot object pointing
    obtain ⟨known, freed⟩ := kept.pointed slot object pointing
    exact ⟨known, fun member => by cases (freed member).1⟩

end Calls

section States

variable {objects : Objects} {enc : Encoder}

def callError : LibCall → Option EncoderState
  | .allocates _ succeeds error => if succeeds then none else some error
  | .checks succeeds error => if succeeds then none else some error
  | .createsIoCtx => none
  | .setsDict => none
  | .freesDict => none

theorem perform_error (call : LibCall) : (perform objects call).1 = callError call := by
  cases call with
  | allocates slot succeeds error => rfl
  | checks succeeds error => rfl
  | createsIoCtx => rfl
  | setsDict => rfl
  | freesDict => rfl

def firstError (calls : List LibCall) : Option EncoderState := calls.findSome? callError

theorem perform_all_state (calls : List LibCall) :
    (performAll objects calls).1 = (firstError calls).getD .success := by
  induction calls generalizing objects with
  | nil => rfl
  | cons call rest induction =>
      have error := @perform_error objects call
      rw [performAll, firstError, List.findSome?_cons]
      cases performed : perform objects call with
      | mk failure after =>
          rw [performed] at error
          rw [← error]
          cases failure with
          | some state => rfl
          | none => exact induction

/-- The first error among the calls is the one of the result. -/
def Reports (calls : List LibCall) (result : Except Failed Encoder) : Prop :=
  firstError calls =
    match result with
    | .ok _ => none
    | .error failed => some failed.state

theorem reports_nil (enc : Encoder) : Reports [] (.ok enc) := rfl

theorem reports_require {succeeded : Bool} {state : EncoderState} {call : LibCall}
    {calls : List LibCall} {result : Except Failed Encoder}
    (error : callError call = if succeeded then none else some state)
    (later : Reports calls result) :
    Reports (call :: calls) (require succeeded state enc result) := by
  unfold Reports firstError require at *
  rw [List.findSome?_cons, error]
  cases succeeded with
  | true => exact later
  | false => rfl

theorem reports_silent {call : LibCall} {calls : List LibCall} {result : Except Failed Encoder}
    (silent : callError call = none) (later : Reports calls result) :
    Reports (call :: calls) result := by
  unfold Reports firstError at *
  rw [List.findSome?_cons, silent]
  exact later

theorem reports_bind {first second : List LibCall} {result : Except Failed Encoder}
    {next : Encoder → Except Failed Encoder} (earlier : Reports first result)
    (later : ∀ after, result = .ok after → Reports second (next after)) :
    Reports (first ++ second) (result >>= next) := by
  unfold Reports firstError at *
  rw [List.findSome?_append, earlier]
  cases result with
  | error failed => rfl
  | ok after => exact later after rfl

variable (lib : Libav) (format : OutputFormat)

theorem open_video_reports (enc : Encoder) :
    Reports (if wantsVideo format enc.eCtx then videoOpenCalls lib else [])
      (openVideo lib format enc) := by
  unfold openVideo
  cases wantsVideo format enc.eCtx with
  | false => exact reports_nil enc
  | true =>
      iterate 4 apply reports_require rfl
      exact reports_nil _

theorem open_audio_reports (enc : Encoder) :
    Reports (if wantsAudio format enc.eCtx then audioOpenCalls lib else [])
      (openAudio lib format enc) := by
  unfold openAudio
  cases wantsAudio format enc.eCtx with
  | false => exact reports_nil enc
  | true =>
      iterate 5 apply reports_require rfl
      exact reports_nil _

theorem alloc_video_reports (enc : Encoder) :
    Reports (if enc.videoStream then videoAllocCalls lib else []) (allocVideo lib enc) := by
  unfold allocVideo
  cases enc.videoStream with
  | false => exact reports_nil enc
  | true =>
      apply reports_silent rfl
      apply reports_require rfl
      apply reports_silent rfl
      iterate 4 apply reports_require rfl
      exact reports_nil _

theorem alloc_audio_reports (enc : Encoder) :
    Reports (if enc.audioStream then audioAllocCalls lib else []) (allocAudio lib enc) := by
  unfold allocAudio
  cases enc.audioStream with
  | false => exact reports_nil enc
  | true =>
      iterate 7 apply reports_require rfl
      exact reports_nil _

theorem open_streams_reports (enc : Encoder) (noVideo : enc.videoStream = false)
    (noAudio : enc.audioStream = false) :
    Reports (streamCalls lib format enc.eCtx) (openStreams lib format enc) := by
  apply reports_bind (open_video_reports lib format enc)
  intro video videoOpened
  have videoEq := open_video_ok videoOpened
  have audio := open_audio_reports lib format video
  rw [show video.eCtx = enc.eCtx by rw [videoEq]] at audio
  apply reports_bind audio
  intro both bothOpened
  have bothEq := open_audio_ok bothOpened
  have videoReady := alloc_video_reports lib both
  rw [show both.videoStream = wantsVideo format enc.eCtx by simp [bothEq, videoEq, noVideo]]
    at videoReady
  apply reports_bind videoReady
  intro ready allocated
  have audioReady := alloc_audio_reports lib ready
  rw [alloc_video_ok allocated] at audioReady ⊢
  rw [show both.audioStream = wantsAudio format enc.eCtx by simp [bothEq, videoEq, noAudio]]
    at audioReady
  exact audioReady

theorem write_header_reports (enc : Encoder) :
    Reports (headerCalls lib) (writeHeader lib enc) := by
  apply reports_silent rfl
  apply reports_silent rfl
  apply reports_require rfl
  exact reports_silent rfl (reports_nil _)

theorem open_session_reports (enc : Encoder) (mEncCtx : EncoderContext) :
    Reports (initializeCalls lib mEncCtx) (openSession lib (reset enc mEncCtx)) := by
  unfold openSession initializeCalls
  cases lib.outputContext with
  | none => rfl
  | some format =>
      apply reports_silent rfl
      exact reports_bind
        (open_streams_reports lib format (withFormatContext (reset enc mEncCtx)) rfl rfl)
        fun ready _ => write_header_reports lib ready

theorem initialize_objects_state (stopped : enc.stopped = true) (mEncCtx : EncoderContext) :
    (initializeObjects objects mEncCtx lib).1 = (initializeEncoder enc mEncCtx lib).1 := by
  have reports := open_session_reports lib enc mEncCtx
  unfold initializeObjects initializeEncoder
  rw [perform_all_state, reports, if_neg (by simp [stopped])]
  cases openSession lib (reset enc mEncCtx) with
  | ok opened => rfl
  | error failed => rfl

end States

section Runs

/-- Beside what is kept, a stopped encoder points to nothing but I/O contexts and the
streams of its last session. -/
structure Custody (held : Held) : Prop where
  kept : WellKept held.enc.stopped held.objects
  idle : held.enc.stopped = true → ∀ slot, slot ≠ .ioCtx → slot.isStream = false →
    held.objects.pointer slot = none

def assignedSlots (video audio : Bool) : List Slot :=
  (if video then [.videoStream, .videoCC, .swsCtx] else []) ++
    ((if audio then [.audioStream, .audioCC, .swrCtx] else []) ++
      ((if video then [.videoFrame, .videoPkt] else []) ++
        (if audio then [.audioFrame, .audioPkt, .audioTmpFrame] else []))) ++ [.ioCtx]

theorem assigned_slots_distinct (video audio : Bool) :
    (assignedSlots video audio).Nodup ∧ .dict ∉ assignedSlots video audio ∧
      .fmtCtx ∉ assignedSlots video audio := by
  revert video audio
  decide

theorem session_slots (lib : Libav) (format : OutputFormat) (mEncCtx : EncoderContext) :
    (streamCalls lib format mEncCtx ++ headerCalls lib).filterMap LibCall.slot =
      assignedSlots (wantsVideo format mEncCtx) (wantsAudio format mEncCtx) := by
  unfold streamCalls
  cases wantsVideo format mEncCtx with
  | false =>
      cases wantsAudio format mEncCtx with
      | false => rfl
      | true => rfl
  | true =>
      cases wantsAudio format mEncCtx with
      | false => rfl
      | true => rfl

theorem initialize_calls_well_kept {objects : Objects} (kept : WellKept false objects)
    (null : ∀ slot, slot ≠ .ioCtx → objects.pointer slot = none) (lib : Libav)
    (mEncCtx : EncoderContext) :
    WellKept false (performAll objects (initializeCalls lib mEncCtx)).2 := by
  have spare := spare_of_null (.inr (null .fmtCtx nofun))
  unfold initializeCalls
  cases lib.outputContext with
  | none => exact set_null_well_kept kept spare
  | some format =>
      obtain ⟨distinct, notDict, notContext⟩ :=
        assigned_slots_distinct (wantsVideo format mEncCtx) (wantsAudio format mEncCtx)
      have allocated : (objects.assign .fmtCtx true).pointer .fmtCtx ≠ none := by
        rw [assign_same]
        nofun
      apply perform_all_well_kept (assign_well_kept kept spare nofun true)
      refine ⟨allocated, ?_, ?_, ?_⟩
      · rwa [session_slots]
      · rw [session_slots]
        exact ⟨notDict, notContext⟩
      · rw [session_slots]
        intro slot member
        have other : slot ≠ .fmtCtx := by
          rintro rfl
          exact notContext member
        rw [assign_other other]
        exact (em (slot = .ioCtx)).imp id (null slot)

theorem initialize_custody {held : Held} (custody : Custody held)
    (stopped : held.enc.stopped = true) (mEncCtx : EncoderContext) (lib : Libav) :
    WellKept false (initializeObjects held.objects mEncCtx lib).2 := by
  have idle := custody.idle stopped
  have kept := custody.kept
  rw [stopped] at kept
  have null : ∀ slot, slot ≠ .ioCtx →
      (resetSlots.foldl Objects.setNull held.objects).pointer slot = none := by
    intro slot other
    apply set_nulls_null
    by_cases stream : slot.isStream = true
    · left
      cases slot with
      | videoStream => decide
      | audioStream => decide
      | _ => cases stream
    · exact .inr (idle slot other (Bool.not_eq_true _ ▸ stream))
  have spare : ∀ slot ∈ resetSlots, Spare held.objects slot := by
    intro slot _
    by_cases other : slot = .ioCtx
    · exact .inl other
    · by_cases stream : slot.isStream = true
      · -- the streams of the last session went with its context
        right
        intro object pointing
        by_contra unfreed
        obtain ⟨known, _⟩ := kept.pointed slot object pointing
        have member := (kept.streams object).mpr ⟨unfreed, slot, known, stream⟩
        rw [kept.contextless (idle .fmtCtx nofun rfl)] at member
        exact List.not_mem_nil member
      · exact spare_of_null (.inr (idle slot other (Bool.not_eq_true _ ▸ stream)))
  have reset := set_nulls_well_kept kept spare
  exact initialize_calls_well_kept
    (reset.current fun slot stream => null slot fun same => by rw [same] at stream; cases stream)
    null lib mEncCtx

theorem initialize_running_after (enc : Encoder) (mEncCtx : EncoderContext) (lib : Libav) :
    (initializeEncoder enc mEncCtx lib).2.stopped = false := by
  rcases initialize_encoder_cases enc mEncCtx lib with ⟨running, result⟩ | ⟨_, _, _, kept⟩ |
    ⟨_, _, _, opened⟩
  · rw [result]
    exact running
  · exact kept.stopped
  · exact opened.stopped

theorem initializes_step {held after : Held} {mEncCtx : EncoderContext} {lib : Libav}
    (stepped : step held (.initializes mEncCtx lib) = some after) :
    after.enc = (initializeEncoder held.enc mEncCtx lib).2 ∧
      after.objects =
        if held.enc.stopped then (initializeObjects held.objects mEncCtx lib).2
        else held.objects := by
  simp only [step] at stepped
  cases stopped : held.enc.stopped with
  | false =>
      rw [stopped] at stepped
      cases stepped
      exact ⟨rfl, rfl⟩
  | true =>
      rw [stopped, if_pos rfl] at stepped
      rw [if_pos rfl]
      cases made : initializeObjects held.objects mEncCtx lib with
      | mk state objects =>
          rw [made] at stepped
          split at stepped
          · next same =>
              obtain ⟨_, rfl⟩ := Prod.mk.inj same
              split at stepped
              · cases stepped
                exact ⟨rfl, rfl⟩
              · cases stepped
          · next same =>
              obtain ⟨_, rfl⟩ := Prod.mk.inj same
              cases stepped
              exact ⟨rfl, rfl⟩

theorem stops_step {held after : Held} {survives : Bool}
    (stepped : step held (.stops survives) = some after) :
    after.enc = (EncoderSession.stop held.enc).2 ∧
      after.objects =
        if held.enc.stopped then held.objects
        else stopSlots.foldl Objects.free held.objects := by
  simp only [step] at stepped
  cases stopped : held.enc.stopped with
  | false =>
      rw [stopped, if_neg Bool.false_ne_true] at stepped
      split at stepped
      · cases stepped
        exact ⟨rfl, rfl⟩
      · cases stepped
  | true =>
      rw [stopped, if_pos rfl] at stepped
      cases stepped
      exact ⟨rfl, rfl⟩

theorem stop_slots_freeable : ∀ slot ∈ stopSlots, Freeable true slot := by
  intro slot member
  refine ⟨?_, ?_, fun _ => rfl⟩
  · rintro rfl
    revert member
    decide
  · revert member
    cases slot with
    | videoStream => decide
    | audioStream => decide
    | _ => exact fun _ => rfl

theorem step_custody {held after : Held} (custody : Custody held) {call : SessionCall}
    (stepped : step held call = some after) : Custody after := by
  cases call with
  | initializes mEncCtx lib =>
      obtain ⟨encoder, objects⟩ := initializes_step stepped
      have running : after.enc.stopped = false := by
        rw [encoder]
        exact initialize_running_after held.enc mEncCtx lib
      have kept := custody.kept
      constructor
      · rw [running, objects]
        cases stopped : held.enc.stopped with
        | false =>
            rw [stopped] at kept
            exact kept
        | true => exact initialize_custody custody stopped mEncCtx lib
      · intro stopped
        cases running.symm.trans stopped
  | stops survives =>
      obtain ⟨encoder, objects⟩ := stops_step stepped
      have done : after.enc.stopped = true := by
        rw [encoder]
        exact stop_stopped held.enc
      have kept := custody.kept
      constructor
      · rw [done, objects]
        cases stopped : held.enc.stopped with
        | false =>
            rw [stopped] at kept
            exact frees_well_kept kept.relax stop_slots_freeable
        | true =>
            rw [stopped] at kept
            exact kept
      · intro _ slot other notStream
        rw [objects]
        cases stopped : held.enc.stopped with
        | true => exact custody.idle stopped slot other notStream
        | false =>
            apply frees_null
            left
            cases slot with
            | ioCtx => exact absurd rfl other
            | videoStream => cases notStream
            | audioStream => cases notStream
            | _ => decide

theorem constructed_custody (eCtx : EncoderContext) (audioBytes : Int) :
    Custody (constructed eCtx audioBytes) where
  kept := none_well_kept
  idle _ _ _ _ := rfl

theorem run_custody {held after : Held} {calls : List SessionCall} (custody : Custody held)
    (run : calls.foldlM step held = some after) : Custody after := by
  induction calls generalizing held with
  | nil =>
      cases run
      exact custody
  | cons call rest induction =>
      rw [List.foldlM_cons, Option.bind_eq_bind, Option.bind_eq_some_iff] at run
      obtain ⟨between, stepped, run⟩ := run
      exact induction (step_custody custody stepped) run

theorem Custody.streams_freed {held : Held} (custody : Custody held)
    (stopped : held.enc.stopped = true) {slot : Slot} {object : Nat}
    (known : held.objects.kinds[object]? = some slot) (stream : slot.isStream = true) :
    object ∈ held.objects.freed := by
  by_contra unfreed
  have member := (custody.kept.streams object).mpr ⟨unfreed, slot, known, stream⟩
  rw [custody.kept.contextless (custody.idle stopped .fmtCtx nofun rfl)] at member
  exact List.not_mem_nil member

theorem custody_accounted {held : Held} (custody : Custody held) : Accounted held where
  freedOnce := custody.kept.freedOnce
  pointed := by
    intro slot object pointing
    obtain ⟨known, stale⟩ := custody.kept.pointed slot object pointing
    exact ⟨known, stale, fun both => custody.streams_freed both.1 known both.2⟩
  unfreed := custody.kept.unfreed
  stopped := by
    intro stopped slot object known
    constructor
    · intro member
      obtain ⟨kind, freedKind, different⟩ := custody.kept.freedKnown object member
      rw [Option.some.inj (known.symm.trans freedKind)]
      exact different
    · intro different
      by_cases stream : slot.isStream = true
      · exact custody.streams_freed stopped known stream
      · by_contra unfreed
        rcases custody.kept.unfreed slot object known unfreed with lost | pointing
        · exact different lost
        · rw [custody.idle stopped slot different (Bool.not_eq_true _ ▸ stream)] at pointing
          cases pointing
  agrees stopped mEncCtx lib := initialize_objects_state lib stopped mEncCtx

/-- As long as a run goes on, whichever calls of the library fail, nothing is freed twice,
the pointers that dangle are those of a stopped encoder's streams, and what a stopped
encoder has not freed are its I/O contexts. -/
theorem run_accounted (eCtx : EncoderContext) (audioBytes : Int) (calls : List SessionCall)
    (held : Held) (run : calls.foldlM step (constructed eCtx audioBytes) = some held) :
    Accounted held :=
  custody_accounted (run_custody (constructed_custody eCtx audioBytes) run)

/-- A session is stopped, and a second one fails behind its video stream and is stopped by
a trailer that comes back. -/
def failedSecond : List SessionCall :=
  [.initializes audibleContext (Libav.succeeds [] []), .stops false,
    .initializes audibleContext { Libav.succeeds [] [] with videoCodecContext := false },
    .stops true]

theorem failed_second_accounted :
    ∃ held, failedSecond.foldlM step (constructed audibleContext 0) = some held ∧
      held.objects.pointer .videoStream = some 16 ∧ 16 ∈ held.objects.freed ∧ Accounted held := by
  obtain ⟨held, ends⟩ : ∃ held,
      failedSecond.foldlM step (constructed audibleContext 0) = some held := ⟨_, rfl⟩
  refine ⟨held, ends, ?_, ?_, run_accounted _ _ _ held ends⟩
  · cases ends
    decide
  · cases ends
    decide

end Runs

end Collabo.EncoderObjects
